import SuiteScribe.Proofs.Command.World
import SuiteScribe.Proofs.Text

namespace SuiteScribe.Command

open Files Interview Script Text

/-! What a run does to files. -/

variable {arguments : Arguments} {options : Options} {settings : Settings} {suite : Suite}
  {world : World}

/-! To obtain a suite, the transcript file is written, if there is one, and nothing else. -/

/-- The file that a session is recorded to. No session is held where the suite is loaded. -/
def Arguments.Records (arguments : Arguments) (tree : Tree) (place : Place) : Prop :=
  arguments.suite = none ∧ ∃ path ∈ arguments.record, tree.writable path = .ok place

theorem loadTranscript_keeps (path : String) (world : World) :
    (World.run (loadTranscript path) world).2 = world := by
  rw [run_loadTranscript]
  cases world.tree.read path <;> rfl

theorem loadSuite_keeps (path : String) (world : World) :
    (World.run (loadSuite path) world).2.tree = world.tree ∧
      (World.run (loadSuite path) world).2.time = world.time := by
  rw [run_loadSuite]
  cases world.tree.read path with
  | error fault => exact ⟨rfl, rfl⟩
  | ok bytes =>
      dsimp only
      cases suiteOfBytes path bytes <;> exact ⟨rfl, rfl⟩

theorem prepareReplay_keeps (replay : Option String) (world : World) :
    (World.run (prepareReplay replay) world).2.tree = world.tree ∧
      (World.run (prepareReplay replay) world).2.time = world.time := by
  rw [run_prepareReplay]
  cases replay with
  | none => exact ⟨rfl, rfl⟩
  | some path =>
      have hkeeps := loadTranscript_keeps path world
      dsimp only
      rcases hload : World.run (loadTranscript path) world with ⟨_ | _, after⟩
      · rw [hload] at hkeeps
        exact ⟨congrArg World.tree hkeeps, congrArg World.time hkeeps⟩
      · rw [hload] at hkeeps
        cases hkeeps
        exact ⟨rfl, rfl⟩

theorem prepareRecord_changes (record : Option String) (world : World) :
    ∃ recordTo after, World.run (prepareRecord record) world = (.ok recordTo, after) ∧
      after.time = world.time ∧
      Tree.Changes (fun place => ∃ path ∈ record, world.tree.writable path = .ok place)
        Tree.nowhere world.tree after.tree ∧
      ∀ path ∈ recordTo, path ∈ record ∧
        ∃ place, world.tree.writable path = .ok place ∧ after.tree.writable path = .ok place := by
  rw [run_prepareRecord]
  cases record with
  | none => exact ⟨none, world, rfl, rfl, .refl _, by simp⟩
  | some path =>
      have hwritten := Tree.write_changes world.tree path []
      dsimp only
      rw [run_openTranscript]
      cases hwritable : world.tree.writable path with
      | error fault => exact ⟨none, _, rfl, rfl, .refl _, by simp⟩
      | ok place =>
          have hagain := Tree.writable_write hwritable []
          rw [Tree.write_of_writable hwritable] at hwritten hagain
          refine ⟨some path, _, rfl, rfl, ?_, ?_⟩
          · exact hwritten.mono (fun _ hplace => ⟨path, rfl, hplace⟩) fun _ hnever => hnever
          · rintro other hother
            cases hother
            exact ⟨rfl, place, hwritable, hagain⟩

theorem interview_changes (options : Options) (session : Session) (world : World) :
    (world.interview options session).2.time = world.time ∧
      Tree.Changes (fun place => ∃ path ∈ session.recordTo, world.tree.writable path = .ok place)
        Tree.nowhere world.tree (world.interview options session).2.tree := by
  refine ⟨rfl, ?_⟩
  change Tree.Changes _ _ _ (World.recorded world.tree session _)
  rw [World.recorded]
  cases session.recordTo with
  | none => exact .refl _
  | some path =>
      exact (Tree.write_changes _ _ _).mono (fun _ hplace => ⟨path, rfl, hplace⟩)
        fun _ hnever => hnever

theorem obtainSuite_changes (arguments : Arguments) (options : Options) (world : World) :
    (World.run (obtainSuite arguments options) world).2.time = world.time ∧
      Tree.Changes (arguments.Records world.tree) Tree.nowhere world.tree
        (World.run (obtainSuite arguments options) world).2.tree := by
  rw [run_obtainSuite]
  cases hsuite : arguments.suite with
  | some path =>
      obtain ⟨htree, htime⟩ := loadSuite_keeps path world
      dsimp only
      rw [htree, htime]
      exact ⟨rfl, .refl _⟩
  | none =>
      dsimp only
      rw [run_prepare]
      obtain ⟨htree, htime⟩ := prepareReplay_keeps arguments.replay world
      rcases hreplay : World.run (prepareReplay arguments.replay) world with
        ⟨failure | replayed, before⟩
      · rw [hreplay] at htree htime
        exact ⟨htime, htree ▸ .refl _⟩
      · rw [hreplay] at htree htime
        dsimp only at htree htime ⊢
        obtain ⟨recordTo, opened, hrecord, hopenedTime, hopened, hrecordTo⟩ :=
          prepareRecord_changes arguments.record before
        rw [hrecord]
        dsimp only
        obtain ⟨hheldTime, hheld⟩ :=
          interview_changes options { replayed, recordTo } opened
        rw [htree] at hopened hrecordTo
        refine ⟨hheldTime.trans (hopenedTime.trans htime), ?_⟩
        refine .trans (hopened.mono (fun place hplace => ⟨hsuite, hplace⟩) fun _ hnever => hnever)
          (hheld.mono ?_ fun _ hnever => hnever)
        rintro place ⟨path, hpath, hplace⟩
        obtain ⟨hwanted, same, hfirst, hagain⟩ := hrecordTo path hpath
        cases hagain.symm.trans hplace
        exact ⟨hsuite, path, hwanted, hfirst⟩

/-! To save a suite, its file is put where its path leads. -/

def Arguments.Saves (arguments : Arguments) (tree : Tree) (place : Place) : Prop :=
  ∃ path ∈ arguments.saveSuite, tree.writable path = .ok place

/-- The directories above the file that a suite is saved to. -/
def Arguments.LiesAboveSaved (arguments : Arguments) (tree : Tree) (place : Place) : Prop :=
  ∃ path ∈ arguments.saveSuite, tree.LiesAbove path place

theorem saveIfWanted_changes (arguments : Arguments) (suite : Suite) (world : World) :
    let saved := World.run (saveIfWanted arguments suite) world
    saved.2.time = world.time ∧
      Tree.Changes (fun place => saved.1 = .ok () ∧ arguments.Saves saved.2.tree place)
        (arguments.LiesAboveSaved saved.2.tree) world.tree saved.2.tree ∧
      (saved.1 = .ok () → ∀ place, arguments.Saves saved.2.tree place →
        ∃ content, saved.2.tree.find? place = some (.file content)) := by
  intro saved
  have hsaved : saved = World.run (saveIfWanted arguments suite) world := rfl
  rw [run_saveIfWanted] at hsaved
  cases hwanted : arguments.saveSuite with
  | none =>
      rw [hwanted] at hsaved
      rw [hsaved]
      exact ⟨rfl, .refl _, fun _ _ ⟨path, hpath, _⟩ => by simp [hwanted] at hpath⟩
  | some path =>
      simp only [hwanted, run_saveSuite] at hsaved
      have hstored := Tree.deposit_changes world.tree path (encode (SuiteFile.render suite))
      cases hresult : (world.tree.deposit path (encode (SuiteFile.render suite))).1 with
      | error fault =>
          rw [hresult] at hsaved
          rw [hsaved]
          refine ⟨rfl, hstored.mono (fun _ hplace => ?_) fun _ hlies => ⟨path, hwanted, hlies⟩,
            nofun⟩
          rw [hresult] at hplace
          cases hplace.1
      | ok _ =>
          rw [hresult] at hsaved
          rw [hsaved]
          refine ⟨rfl, hstored.mono (fun _ hplace => ⟨rfl, path, hwanted, hplace.2⟩)
            fun _ hlies => ⟨path, hwanted, hlies⟩, ?_⟩
          rintro - other ⟨same, hsame, hother⟩
          cases hwanted.symm.trans hsame
          obtain ⟨place, hwritable, hfile⟩ := Tree.writable_deposit hresult
          cases hwritable.symm.trans hother
          exact ⟨_, hfile⟩

/-! A whole run, by where it ends. -/

theorem generate_of_obtain_error {failure : Failure} {after : World}
    (h : World.run (obtainSuite arguments settings.options) world = (.error failure, after)) :
    world.generate arguments settings = (.error failure, after) := by
  rw [run_generate, h]

theorem generate_of_save_error {failure : Failure} {after later : World}
    (h : World.run (obtainSuite arguments settings.options) world = (.ok suite, after))
    (hsave : World.run (saveIfWanted arguments suite) after = (.error failure, later)) :
    world.generate arguments settings = (.error failure, later) := by
  rw [run_generate, h]
  dsimp only
  rw [hsave]

theorem obtainSuite_of_replay_error {path : String} {failure : Failure}
    (hsuite : arguments.suite = none) (hpath : arguments.replay = some path)
    (h : (World.run (loadTranscript path) world).1 = .error failure) :
    World.run (obtainSuite arguments options) world = (.error failure, world) := by
  have hload : World.run (loadTranscript path) world = (.error failure, world) :=
    Prod.ext h (loadTranscript_keeps path world)
  rw [run_obtainSuite, hsuite, hpath]
  dsimp only
  rw [run_prepare, run_prepareReplay]
  dsimp only
  rw [hload]

theorem generate_eq_ok {path : String} {finished : World}
    (h : world.generate arguments settings = (.ok path, finished)) :
    ∃ suite after later,
      World.run (obtainSuite arguments settings.options) world = (.ok suite, after) ∧
      World.run (saveIfWanted arguments suite) after = (.ok (), later) ∧
      path = settings.placement.pathFor suite.fileBaseName ∧
      (later.tree.deposit path (encode (assemble suite later.time))).1 = .ok () ∧
      finished.tree = (later.tree.deposit path (encode (assemble suite later.time))).2 := by
  rw [run_generate] at h
  rcases hobtain : World.run (obtainSuite arguments settings.options) world with
    ⟨failure | suite, after⟩
  · rw [hobtain] at h
    cases h
  · rw [hobtain] at h
    dsimp only at h
    rcases hsave : World.run (saveIfWanted arguments suite) after with ⟨failure | _, later⟩
    · rw [hsave] at h
      cases h
    · rw [hsave] at h
      dsimp only at h
      rw [run_writeSuite_deposit] at h
      dsimp only at h
      split at h
      · cases h
      · next written last hwrite =>
          simp only [Prod.mk.injEq, Except.ok.injEq] at h
          obtain ⟨rfl, rfl⟩ := h
          split at hwrite
          · cases hwrite
          · next hstored =>
              simp only [Prod.mk.injEq, Except.ok.injEq] at hwrite
              obtain ⟨rfl, rfl⟩ := hwrite
              refine ⟨suite, after, later, rfl, hsave, rfl, hstored, ?_⟩
              dsimp only [World.report]

/-- Until a run has its suite, it writes no file but the transcript, and none at all where what it
replays cannot be loaded. No script follows a suite that could not be saved. A script that was
written is there to be read; besides it only the saved suite and the transcript are written, and
directories are made only above the script and the saved suite. -/
theorem generate_effects (arguments : Arguments) (settings : Settings) (world : World) :
    let obtained := World.run (obtainSuite arguments settings.options) world
    let finished := world.generate arguments settings
    (∀ failure, obtained.1 = .error failure →
      finished.1 = .error failure ∧
        Tree.Changes (arguments.Records world.tree) Tree.nowhere world.tree finished.2.tree) ∧
    (∀ path ∈ arguments.replay, ∀ failure, arguments.suite = none →
      (World.run (loadTranscript path) world).1 = .error failure →
        finished = (.error failure, world)) ∧
    (∀ suite failure, obtained.1 = .ok suite →
      (World.run (saveIfWanted arguments suite) obtained.2).1 = .error failure →
        finished.1 = .error failure ∧
          Tree.Changes (arguments.Records world.tree) (arguments.LiesAboveSaved finished.2.tree)
            world.tree finished.2.tree) ∧
    ∀ path, finished.1 = .ok path →
      ∃ suite, obtained.1 = .ok suite ∧ path = settings.placement.pathFor suite.fileBaseName ∧
        finished.2.tree.read path = .ok (encode (assemble suite world.time)) ∧
        Tree.Changes
          (fun place => finished.2.tree.writable path = .ok place ∨
            arguments.Saves finished.2.tree place ∨ arguments.Records world.tree place)
          (fun place => finished.2.tree.LiesAbove path place ∨
            arguments.LiesAboveSaved finished.2.tree place)
          world.tree finished.2.tree := by
  intro obtained finished
  have hobtained := (obtainSuite_changes arguments settings.options world).2
  refine ⟨fun failure hfailure => ?_, fun path hpath failure hsuite hfailure => ?_,
    fun suite failure hsuite hfailure => ?_, fun path hpath => ?_⟩
  · have hend : finished = (.error failure, obtained.2) :=
      generate_of_obtain_error (Prod.ext hfailure rfl)
    rw [hend]
    exact ⟨rfl, hobtained⟩
  · exact generate_of_obtain_error (obtainSuite_of_replay_error hsuite hpath hfailure)
  · have hend : finished =
        (.error failure, (World.run (saveIfWanted arguments suite) obtained.2).2) :=
      generate_of_save_error (Prod.ext hsuite rfl) (Prod.ext hfailure rfl)
    obtain ⟨-, hsaved, -⟩ := saveIfWanted_changes arguments suite obtained.2
    rw [hend]
    refine ⟨rfl, .trans (hobtained.mono (fun _ hplace => hplace) fun _ hnever => hnever.elim)
      (hsaved.mono (fun _ hplace => ?_) fun _ hlies => hlies)⟩
    rw [hfailure] at hplace
    cases hplace.1
  · obtain ⟨suite, after, later, hobtain, hsave, hplacement, hstored, htree⟩ :=
      generate_eq_ok (Prod.ext hpath rfl)
    have hobtainedTime := (obtainSuite_changes arguments settings.options world).1
    obtain ⟨hsavedTime, hsaved, hsavedFile⟩ := saveIfWanted_changes arguments suite after
    have hwritten := Tree.deposit_changes later.tree path (encode (assemble suite later.time))
    have hread := Tree.read_deposit hstored
    have hbefore : Tree.Changes (arguments.Records world.tree) Tree.nowhere world.tree
        after.tree := by
      have hall := hobtained
      rwa [hobtain] at hall
    rw [hobtain] at hobtainedTime
    rw [hsave] at hsavedTime hsaved hsavedFile
    rw [← htree] at hwritten hread
    refine ⟨suite, congrArg Prod.fst hobtain, hplacement, ?_, ?_⟩
    · rw [hread, hsavedTime.trans hobtainedTime]
    · refine .trans (hbefore.mono (fun _ hplace => .inr (.inr hplace)) fun _ hnever => hnever.elim)
        (.trans (hsaved.mono ?_ ?_) (hwritten.mono ?_ ?_))
      · rintro place ⟨-, hplace⟩
        obtain ⟨content, hfile⟩ := hsavedFile rfl place hplace
        obtain ⟨saved, hsavedPath, hwritable⟩ := hplace
        obtain ⟨later, hlater⟩ := (hwritten.at_place place).file hfile
        exact .inr (.inl ⟨saved, hsavedPath, hwritten.writable hwritable hlater⟩)
      · rintro place ⟨saved, hsavedPath, hlies⟩
        exact .inr ⟨saved, hsavedPath, hwritten.liesAbove hlies⟩
      · exact fun _ hplace => .inl hplace.2
      · exact fun _ hlies => .inl hlies

/-! A run in which files coincide, in a directory below the root: the suite file is loaded, saved to
itself and followed by a script where one is already. -/

def shelf (suiteFile script : Bytes) : World :=
  { tree := {
      entries := [(["work", "a.yaml"], .file suiteFile), (["work", "b.spec.ts"], .file script)]
      workingDirectory := ["work"] } }

def shelved : Arguments :=
  { suite := some "a.yaml", saveSuite := some "a.yaml" }

section

variable {suiteFile script : Bytes}

theorem locate_suiteFile (tree : Tree) :
    tree.locate "a.yaml" = .ok (.named tree.workingDirectory "a.yaml") :=
  tree.locate_name (by simp) (by decide) (by decide) (by decide) (by decide)

theorem locate_script (tree : Tree) :
    tree.locate "b.spec.ts" = .ok (.named tree.workingDirectory "b.spec.ts") :=
  tree.locate_name (by simp) (by decide) (by decide) (by decide) (by decide)

theorem writable_eq {tree : Tree} {path name : String} {directory place : Place}
    (hlocate : tree.locate path = .ok (.named tree.workingDirectory name))
    (hdirectory : tree.workingDirectory = directory) (h : tree.writable path = .ok place) :
    place = directory ++ [name] := by
  obtain ⟨other, last, hother, -, -, -, rfl⟩ := Tree.writable_eq_ok h
  cases hlocate.symm.trans hother
  rw [hdirectory]

theorem run_obtainSuite_shelf (hsuite : suiteOfBytes "a.yaml" suiteFile = .ok suite) :
    World.run (obtainSuite shelved {}) (shelf suiteFile script) =
      (.ok suite, (shelf suiteFile script).report .debug "loaded suite file") := by
  have hread : (shelf suiteFile script).tree.read "a.yaml" = .ok suiteFile := by
    rw [Tree.read, locate_suiteFile]
    rfl
  rw [run_obtainSuite]
  dsimp only [shelved]
  rw [run_loadSuite, hread]
  dsimp only
  rw [hsuite]

theorem generate_shelf (hsuite : suiteOfBytes "a.yaml" suiteFile = .ok suite)
    (hname : suite.fileBaseName = "b") :
    ((shelf suiteFile script).generate shelved { placement := { directory := "" } }).1 =
      .ok "b.spec.ts" := by
  have hsaved : (shelf suiteFile script).tree.writable "a.yaml" = .ok ["work", "a.yaml"] := by
    rw [Tree.writable, locate_suiteFile]
    rfl
  have hscript : ∀ content, ((shelf suiteFile script).tree.write "a.yaml" content).2.writable
      "b.spec.ts" = .ok ["work", "b.spec.ts"] := by
    intro content
    rw [Tree.write_of_writable hsaved, Tree.writable, locate_script]
    rfl
  have hplacement : Placement.pathFor { directory := "" } "b" = "b.spec.ts" := by decide +kernel
  rw [run_generate, run_obtainSuite_shelf hsuite]
  dsimp only
  rw [run_saveIfWanted]
  dsimp only [shelved]
  rw [run_saveSuite]
  dsimp only [World.report]
  rw [Tree.deposit_here (by decide) hsaved]
  dsimp only [Except.mapError]
  rw [run_writeSuite_deposit, hname, hplacement]
  dsimp only
  rw [Tree.deposit_here (by decide) (hscript _)]

end

def shelfText : String :=
  "feature_name: a\nfile_base_name: b\nbase_url: c\ndescribe_title: d\ninitial_path: e\n"

def shelfSuite : Suite :=
  { featureName := "a", fileBaseName := "b", baseUrl := "c", category := .functional
    describeTitle := "d", initialPath := "e", additionalSetup := none, testCases := [] }

theorem suiteOfBytes_shelfText :
    suiteOfBytes "a.yaml" (encode shelfText) = .ok shelfSuite := by
  have hread : (SuiteFile.readSuite shelfText).toOption = some shelfSuite := by
    decide +kernel
  have hsound : shelfSuite.defect? = none := by decide
  rw [suiteOfBytes, decode?_encode]
  dsimp only
  cases hresult : SuiteFile.readSuite shelfText with
  | error detail =>
      rw [hresult] at hread
      cases hread
  | ok suite =>
      rw [hresult] at hread
      cases hread
      dsimp only
      rw [hsound]

theorem generate_effects_shelf :
    let before := shelf (encode shelfText) []
    let finished := before.generate shelved { placement := { directory := "" } }
    finished.1 = .ok "b.spec.ts" ∧
      finished.2.tree.read "b.spec.ts" = .ok (encode (assemble shelfSuite 0)) ∧
      (∀ place content, place ≠ ["work", "a.yaml"] → place ≠ ["work", "b.spec.ts"] →
        (finished.2.tree.find? place = some (.file content) ↔
          before.tree.find? place = some (.file content))) ∧
      ∀ place, finished.2.tree.find? place = some .directory →
        before.tree.find? place = some .directory := by
  intro before finished
  have hpath : finished.1 = .ok "b.spec.ts" := generate_shelf suiteOfBytes_shelfText rfl
  obtain ⟨-, -, -, hdone⟩ := generate_effects shelved { placement := { directory := "" } } before
  obtain ⟨suite, hsuite, -, hread, hchanges⟩ := hdone _ hpath
  have hobtain : (World.run (obtainSuite shelved {}) before).1 = .ok shelfSuite :=
    congrArg Prod.fst (run_obtainSuite_shelf suiteOfBytes_shelfText)
  cases hobtain.symm.trans hsuite
  have hdirectory : finished.2.tree.workingDirectory = ["work"] := hchanges.workingDirectory
  refine ⟨hpath, hread, fun place content hsuiteFile hscript => ?_, fun place hplace => ?_⟩
  · refine (hchanges.at_place place).file_iff ?_ content
    rintro (hwritable | ⟨path, hsaved, hwritable⟩ | ⟨hnone, -⟩)
    · exact hscript (writable_eq (locate_script _) hdirectory hwritable)
    · cases hsaved
      exact hsuiteFile (writable_eq (locate_suiteFile _) hdirectory hwritable)
    · cases hnone
  · refine Decidable.byContradiction fun hbefore => ?_
    have hmade := (hchanges.at_place place).made_of_directory hplace hbefore
    rcases hmade with hlies | ⟨path, hsaved, hlies⟩
    · exact Tree.not_liesAbove (by decide) (by decide) place hlies
    · cases hsaved
      exact Tree.not_liesAbove (by decide) (by decide) place hlies

end SuiteScribe.Command
