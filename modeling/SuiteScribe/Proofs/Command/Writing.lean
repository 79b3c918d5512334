import SuiteScribe.Proofs.Command.World
import SuiteScribe.Proofs.Interview.Soundness
import SuiteScribe.Proofs.SuiteFile.Reading

namespace SuiteScribe.Command

open Files Interview Script SuiteFile Text

/-! What is left of a tree in which a script was written. -/

section

variable {tree : Tree} {path : String} {content : Bytes}

/-- One file is written, and directories are made above it. -/
theorem deposit_one (h : (tree.deposit path content).1 = .ok ()) :
    ∃ place, (tree.deposit path content).2.LeadsTo path place ∧
      (tree.deposit path content).2.find? place = some (.file content) ∧
      Tree.Changes (· = place) ((tree.deposit path content).2.LiesAbove path) tree
        (tree.deposit path content).2 := by
  obtain ⟨place, hwritable, hfile⟩ := Tree.writable_deposit h
  obtain ⟨directory, name, hlocate, -, -, -, hplace⟩ := Tree.writable_eq_ok hwritable
  refine ⟨place, ⟨.named directory name, hlocate, hplace.symm⟩, hfile, ?_⟩
  refine (Tree.deposit_changes tree path content).mono (fun other hother => ?_) fun _ hlies => hlies
  cases hwritable.symm.trans hother.2
  rfl

/-- No file is touched when there is a failure. -/
theorem deposit_none {fault : Fault} (h : (tree.deposit path content).1 = .error fault) :
    Tree.Changes Tree.nowhere ((tree.deposit path content).2.LiesAbove path) tree
      (tree.deposit path content).2 := by
  refine (Tree.deposit_changes tree path content).mono (fun other hother => ?_) fun _ hlies => hlies
  cases h.symm.trans hother.1

end

/-! Writing a script, as far as the tree is concerned. -/

def storeSuite (suite : Suite) (placement : Placement) (generatedAt : Int) (tree : Tree) :
    Except Fault Unit × Tree :=
  tree.deposit (placement.pathFor suite.fileBaseName) (encode (assemble suite generatedAt))

section

variable (suite : Suite) (placement : Placement) (generatedAt : Int) (world : World)

theorem fst_run_writeSuite :
    (World.run (writeSuite suite placement generatedAt) world).1 =
      match (storeSuite suite placement generatedAt world.tree).1 with
      | .error fault => .error (.write (placement.pathFor suite.fileBaseName) fault)
      | .ok () => .ok (placement.pathFor suite.fileBaseName) := by
  rw [run_writeSuite_deposit, storeSuite]
  dsimp only
  cases (world.tree.deposit (placement.pathFor suite.fileBaseName)
    (encode (assemble suite generatedAt))).1 <;> rfl

theorem tree_run_writeSuite :
    (World.run (writeSuite suite placement generatedAt) world).2.tree =
      (storeSuite suite placement generatedAt world.tree).2 := by
  rw [run_writeSuite_deposit, storeSuite]
  dsimp only
  cases (world.tree.deposit (placement.pathFor suite.fileBaseName)
    (encode (assemble suite generatedAt))).1 with
  | error fault => dsimp only
  | ok _ => dsimp only [World.report]

end

/-- Writing a script touches one file. If it succeeds, the file at its path holds the script, all
other files are as they were, and directories are made above the path only; to write the script
again succeeds and changes nothing. If it fails, it fails at that path and no file is touched. -/
theorem writeSuite_effects (suite : Suite) (placement : Placement) (generatedAt : Int)
    (world : World) :
    let path := placement.pathFor suite.fileBaseName
    let content := encode (assemble suite generatedAt)
    let written := World.run (writeSuite suite placement generatedAt) world
    let again := World.run (writeSuite suite placement generatedAt) written.2
    (∀ result, written.1 = .ok result →
      result = path ∧ written.2.tree.read path = .ok content ∧
        (∃ place, written.2.tree.LeadsTo path place ∧
          written.2.tree.find? place = some (.file content) ∧
          Tree.Changes (· = place) (written.2.tree.LiesAbove path) world.tree
            written.2.tree) ∧
        again.1 = .ok path ∧ again.2.tree = written.2.tree) ∧
    ∀ failure, written.1 = .error failure →
      (∃ fault, failure = .write path fault) ∧
        Tree.Changes Tree.nowhere (written.2.tree.LiesAbove path) world.tree
          written.2.tree := by
  simp only [fst_run_writeSuite, tree_run_writeSuite]
  cases hresult : (storeSuite suite placement generatedAt world.tree).1 with
  | error fault =>
      refine ⟨nofun, fun failure hfailure => ?_⟩
      cases hfailure
      exact ⟨⟨fault, rfl⟩, deposit_none hresult⟩
  | ok _ =>
      have hagain : storeSuite suite placement generatedAt
            (storeSuite suite placement generatedAt world.tree).2 =
          (.ok (), (storeSuite suite placement generatedAt world.tree).2) :=
        Tree.deposit_again hresult
      rw [hagain]
      dsimp only
      refine ⟨fun result hok => ⟨(Except.ok.inj hok).symm, ?_, ?_, rfl, rfl⟩, nofun⟩
      · exact Tree.read_deposit hresult
      · exact deposit_one hresult

/-! A suite is written into a directory that has to be made first, and cannot be written where a
file has the name of that directory. -/

def bareSuite : Suite :=
  { featureName := "a", fileBaseName := "c", baseUrl := "d", category := .functional
    describeTitle := "e", initialPath := "f", additionalSetup := none, testCases := [] }

def outPlacement : Placement :=
  { directory := "out" }

def obstructed : Tree :=
  { entries := [(["out"], .file [])] }

theorem pathFor_bareSuite : outPlacement.pathFor bareSuite.fileBaseName = "out/c.spec.ts" := by
  decide +kernel

section

variable (tree : Tree)

theorem locate_out : tree.locate "out" = .ok (.named tree.workingDirectory "out") :=
  tree.locate_name (by simp) (by decide) (by decide) (by decide) (by decide)

theorem makeParent_out : tree.makeParent "out/c.spec.ts" = tree.makeChain ["out"] := by
  have hparent : parent? "out/c.spec.ts" = some "out" := by decide
  have hleads : Tree.ancestors (isAbsolute "out") (parts "out").reverse = ["out"] := by decide
  simp only [Tree.makeParent, hparent, Tree.makeDirectories, hleads]

end

theorem storeSuite_bareSuite :
    (storeSuite bareSuite outPlacement 0 {}).1 = .ok () := by
  have hmade : Tree.makeParent {} "out/c.spec.ts" =
      (.ok (), { entries := [(["out"], .directory)] }) := by
    simp only [makeParent_out, Tree.makeChain, Tree.ensureDirectory, Tree.makeDirectory, locate_out]
    rfl
  have hparts : Tree.walkedParts "out/c.spec.ts" =
      [.name "out".toList, .name "c.spec.ts".toList] := by decide
  have hlocate : Tree.locate { entries := [(["out"], .directory)] } "out/c.spec.ts" =
      .ok (.named ["out"] "c.spec.ts") := by
    have hnul : "out/c.spec.ts".contains '\x00' = false := by simp
    have hshort : ¬ Tree.pathLimit ≤ "out/c.spec.ts".utf8ByteSize := by decide
    simp only [Tree.locate, hnul, hshort, hparts]
    rfl
  have haccepts : Tree.Accepts {} "out/c.spec.ts" := by
    rw [Tree.Accepts, hmade, Tree.writable, hlocate]
    exact ⟨rfl, ["out", "c.spec.ts"], rfl⟩
  rw [storeSuite, pathFor_bareSuite]
  exact haccepts.deposit _

theorem storeSuite_obstructed :
    (storeSuite bareSuite outPlacement 0 obstructed).1 = .error .fileExists := by
  have hmade : obstructed.makeParent "out/c.spec.ts" = (.error .fileExists, obstructed) := by
    simp only [makeParent_out, Tree.makeChain, Tree.ensureDirectory, Tree.makeDirectory,
      Tree.isDirectory, locate_out]
    rfl
  rw [storeSuite, pathFor_bareSuite, Tree.deposit, hmade]

theorem writeSuite_effects_out :
    let written := World.run (writeSuite bareSuite outPlacement 0) {}
    let again := World.run (writeSuite bareSuite outPlacement 0) written.2
    let refused := World.run (writeSuite bareSuite outPlacement 0) { tree := obstructed }
    (written.1 = .ok "out/c.spec.ts" ∧
        written.2.tree.read "out/c.spec.ts" = .ok (encode (assemble bareSuite 0)) ∧
        again.1 = .ok "out/c.spec.ts" ∧ again.2.tree = written.2.tree) ∧
      refused.1 = .error (.write "out/c.spec.ts" .fileExists) ∧
      refused.2.tree.find? ["out"] = some (.file []) := by
  dsimp only
  have hwritten : (World.run (writeSuite bareSuite outPlacement 0) {}).1 = .ok "out/c.spec.ts" := by
    rw [fst_run_writeSuite, storeSuite_bareSuite, pathFor_bareSuite]
  have hrefused : (World.run (writeSuite bareSuite outPlacement 0) { tree := obstructed }).1 =
      .error (.write "out/c.spec.ts" .fileExists) := by
    rw [fst_run_writeSuite, storeSuite_obstructed, pathFor_bareSuite]
  obtain ⟨-, hread, -, hagain, hsame⟩ :=
    (writeSuite_effects bareSuite outPlacement 0 {}).1 _ hwritten
  obtain ⟨-, hkept⟩ :=
    (writeSuite_effects bareSuite outPlacement 0 { tree := obstructed }).2 _ hrefused
  rw [pathFor_bareSuite] at hread hagain
  exact ⟨⟨hwritten, hread, hagain, hsame⟩, hrefused,
    ((hkept.at_place ["out"]).file_iff (fun hnever => hnever) []).mpr rfl⟩

/-! Suites that are saved and loaded. -/

theorem suiteOfBytes_render {suite : Suite} (h : textKeeps suite = true) (path : String) :
    suiteOfBytes path (encode (render suite)) =
      match suite.defect? with
      | some defect => .error (.invalidSuite defect)
      | none => .ok suite := by
  rw [suiteOfBytes, decode?_encode]
  dsimp only
  cases hdefect : suite.defect? <;> simp [readSuite_render h, hdefect]

theorem load_saved {suite : Suite} {path : String} {world : World} (h : textKeeps suite = true)
    (hpath : world.tree.Accepts path) :
    (World.run (saveSuite suite path) world).1 = .ok () ∧
      (World.run (loadSuite path) (World.run (saveSuite suite path) world).2).1 =
        match suite.defect? with
        | some defect => .error (.invalidSuite defect)
        | none => .ok suite := by
  have hstored := hpath.deposit (encode (render suite))
  rw [run_saveSuite]
  dsimp only
  rw [hstored, run_loadSuite]
  dsimp only
  rw [Tree.read_deposit hstored]
  dsimp only
  rw [suiteOfBytes_render h]
  cases suite.defect? <;> exact ⟨rfl, rfl⟩

/-- A suite that is saved to a path and loaded from there is the suite it was, or is refused for the
defect that it has. No suite that was collected has one. -/
theorem saved_suite_loads (suite : Suite) (path : String) (world : World)
    (hlayer : textKeeps suite = true) (hpath : world.tree.Accepts path) :
    let saved := World.run (saveSuite suite path) world
    let loaded := World.run (loadSuite path) saved.2
    saved.1 = .ok () ∧
      (suite.defect? = none → loaded.1 = .ok suite) ∧
      (∀ defect, suite.defect? = some defect → loaded.1 = .error (.invalidSuite defect)) ∧
      ∀ {σ : Type} [Answers σ] (options : Interview.Options) (source : σ),
        (Answers.converse (SuiteQuestion.guide options) SuiteQuestion.start source).1 = .ok suite ∨
          (collectSuite options source).1 = .ok suite →
        loaded.1 = .ok suite := by
  intro saved loaded
  obtain ⟨hsaved, hloaded⟩ := load_saved hlayer hpath
  have hsound : suite.defect? = none → loaded.1 = .ok suite := by
    intro hdefect
    rw [hdefect] at hloaded
    exact hloaded
  refine ⟨hsaved, hsound, fun defect hdefect => ?_, fun options source hcollected => hsound ?_⟩
  · rw [hdefect] at hloaded
    exact hloaded
  · have hnormal : suite.NormalForm := by
      rcases hcollected with h | h
      · exact converse_keeps (SuiteQuestion.guide_keeps options) SuiteQuestion.start_sound h
      · exact converse_keeps (SuiteQuestion.guide_keeps options) SuiteQuestion.session_sound h
    exact hnormal.defect?_eq_none

/-- Texts that stand for something else where they are not quoted, and a target without a name. -/
def ambiguousSuite : Suite :=
  { featureName := "no", fileBaseName := "a", baseUrl := "b", category := .navigation
    describeTitle := "null", initialPath := "1e3", additionalSetup := none
    testCases :=
      [{ title := "it's", objective := "- o", steps := [⟨"d", .click ⟨"e", ""⟩⟩] }] }

theorem saved_suite_loads_ambiguous :
    let world : World := {}
    let saved := World.run (saveSuite ambiguousSuite "a.yaml") world
    (textKeeps ambiguousSuite = true ∧ world.tree.Accepts "a.yaml" ∧
        ambiguousSuite.defect? = none) ∧
      saved.1 = .ok () ∧ (World.run (loadSuite "a.yaml") saved.2).1 = .ok ambiguousSuite := by
  intro world saved
  have hlayer : textKeeps ambiguousSuite = true := by
    rw [textKeeps_eq]
    decide +kernel
  have hpath : world.tree.Accepts "a.yaml" := by
    have hparent : parent? "a.yaml" = some "" := by decide
    have hlocate : world.tree.locate "a.yaml" = .ok (.named [] "a.yaml") :=
      world.tree.locate_name (by simp) (by decide) (by decide) (by decide) (by decide)
    rw [Tree.Accepts, Tree.makeParent, hparent]
    refine ⟨rfl, ["a.yaml"], ?_⟩
    change world.tree.writable "a.yaml" = _
    rw [Tree.writable, hlocate]
    rfl
  have hsound : ambiguousSuite.defect? = none := by decide
  obtain ⟨hsaved, hloaded, -⟩ := saved_suite_loads ambiguousSuite "a.yaml" world hlayer hpath
  exact ⟨⟨hlayer, hpath, hsound⟩, hsaved, hloaded hsound⟩

end SuiteScribe.Command
