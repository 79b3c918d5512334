import SuiteScribe.Proofs.Yaml.Shown
import SuiteScribe.SuiteFile

namespace SuiteScribe.SuiteFile

open Yaml

/-! A node that shows what is written of a suite is read as that suite. -/

namespace Reading

theorem gives_rawText {node : Node} {text : String} (h : node.shows (.text text) = true)
    (trail : Trail) : Gives (rawText trail node) text := by
  refine (gives_follow h _).bind ?_
  obtain ⟨plain, rfl, -⟩ := Node.shows_text h
  exact .pure _

theorem gives_once {read : Reading α} {value : α} (h : Gives read value) (trail : Trail) :
    Gives (once trail none read) (some value) :=
  h.bind (.pure _)

theorem gives_optionalText {node : Node} {text : String} (h : node.shows (.text text) = true)
    (trail : Trail) : Gives (optionalText trail node) (some text) := by
  refine (gives_follow h _).bind ?_
  obtain ⟨plain, rfl, htext⟩ := Node.shows_text h
  have hresolve : Scalar.resolve none text.toList plain = .text text.toList := htext
  have hnull : isNullScalar none text plain = false := by
    rw [isNullScalar, hresolve]
    cases plain <;> rfl
  dsimp only
  rw [hnull]
  cases plain <;> exact .pure _

/-! Records, entry by entry. -/

/-- Entries lead from one state of a record to another one, whatever nodes show them. -/
inductive Follows (read : σ → String → Trail → Node → Reading σ) :
    σ → List (String × Tree) → σ → Prop
  | nil (state : σ) : Follows read state [] state
  | cons {state next last : σ} {name : String} {item : Tree} {entries : List (String × Tree)}
      (h : ∀ trail node, node.shows item = true → Gives (read state name trail node) next)
      (hrest : Follows read next entries last) : Follows read state ((name, item) :: entries) last

variable {read : σ → String → Trail → Node → Reading σ} {start last : σ}
  {entries : List (String × Tree)}

theorem Follows.foldlM (h : Follows read start entries last) {nodes : List (Node × Node)}
    (hnodes : Node.showEntries nodes entries = true) (trail : Trail) :
    Gives (nodes.foldlM (entry trail read) start) last := by
  induction h generalizing nodes with
  | nil state =>
      obtain rfl := Node.showEntries_nil hnodes
      exact .pure _
  | cons hitem _ ih =>
      obtain ⟨key, value, rest, rfl, hkey, hvalue, hrest⟩ := Node.showEntries_cons hnodes
      rw [List.foldlM_cons]
      exact .bind ((gives_rawText hkey trail).bind (hitem _ _ hvalue)) (ih hrest)

theorem gives_record {node : Node} (hnode : node.shows (.mapping entries) = true)
    (h : Follows read start entries last) (trail : Trail) :
    Gives (record trail read start node) last := by
  refine (gives_follow hnode _).bind ?_
  obtain ⟨nodes, rfl, hnodes⟩ := Node.shows_mapping hnode
  exact h.foldlM hnodes trail

/-! Sequences, item by item. -/

theorem gives_itemsFrom {write : α → Tree} {read : Trail → Node → Reading α} {list : List α}
    (hone : ∀ one ∈ list, ∀ trail node, node.shows (write one) = true →
      Gives (read trail node) one)
    {nodes : List Node} (hnodes : Node.showItems nodes (list.map write) = true) (trail : Trail)
    (index : Nat) : Gives (itemsFrom trail read index nodes) list := by
  induction list generalizing nodes index with
  | nil =>
      obtain rfl := Node.showItems_nil hnodes
      exact .pure _
  | cons one list ih =>
      obtain ⟨node, rest, rfl, hfirst, hrest⟩ := Node.showItems_cons hnodes
      rw [List.forall_mem_cons] at hone
      exact (hone.1 _ _ hfirst).bind ((ih hone.2 hrest (index + 1)).bind (.pure _))

theorem gives_items {write : α → Tree} {read : Trail → Node → Reading α} {list : List α}
    (hone : ∀ one ∈ list, ∀ trail node, node.shows (write one) = true →
      Gives (read trail node) one)
    {node : Node} (h : node.shows (.sequence (list.map write)) = true) (trail : Trail) :
    Gives (items trail read node) list := by
  refine (gives_follow h _).bind ?_
  obtain ⟨nodes, rfl, hnodes⟩ := Node.shows_sequence h
  exact gives_itemsFrom hone hnodes trail 0

end Reading

open Reading

/-! Steps. -/

theorem action_entryValues (action : Action) :
    Payload.action (Tree.entryValues (actionEntries action)) = .ok action := by
  cases action with
  | verify assertion => cases assertion <;> rfl
  | _ => rfl

theorem entriesHeight_action (action : Action) :
    Tree.entriesHeight (actionEntries action) ≤ 2 := by
  cases action with
  | verify assertion => cases assertion <;> exact Nat.le_of_ble_eq_true rfl
  | _ => exact Nat.le_of_ble_eq_true rfl

theorem description_not_mem_action (action : Action) :
    ∀ entry ∈ actionEntries action, entry.1 ≠ "description" := by
  cases action <;> simp [actionEntries, targetEntry]

theorem gives_describedBy {node : Node} {text : String} (h : node.shows (.text text) = true)
    (trail : Trail) : Gives (describedBy trail node) text := by
  refine (gives_follow h _).bind ?_
  have hvalue : Gives (Value.untagged (⟨trail, .other⟩ : Mismatch) 0 node) (.text text) :=
    gives_untagged_text h 0
  obtain ⟨plain, rfl, -⟩ := Node.shows_text h
  exact hvalue.bind (.pure _)

theorem follows_others {depth : Nat} {entries : List (String × Tree)}
    (hnames : ∀ entry ∈ entries, entry.1 ≠ "description")
    (hdepth : Tree.entriesHeight entries ≤ depth) (fields : StepFields) :
    Follows (StepFields.read depth) fields entries
      { fields with others := fields.others ++ Tree.entryValues entries } := by
  induction entries generalizing fields with
  | nil =>
      rw [Tree.entryValues, List.append_nil]
      exact .nil fields
  | cons entry entries ih =>
      obtain ⟨name, item⟩ := entry
      rw [List.forall_mem_cons] at hnames
      rw [Tree.entriesHeight, Nat.max_le] at hdepth
      have hname : (name == "description") = false := beq_eq_false_iff_ne.mpr hnames.1
      have hrest := ih hnames.2 hdepth.2
        { fields with others := fields.others ++ [(.text name, item.value)] }
      rw [List.append_assoc, List.singleton_append] at hrest
      refine .cons (fun trail node hnode => ?_) hrest
      rw [StepFields.read, hname]
      exact (gives_untagged item hnode hdepth.1).bind (.pure _)

theorem gives_step {step : Step} {node : Node} {depth : Nat}
    (h : node.shows (.mapping (stepEntries step)) = true) (hdepth : 2 ≤ depth) (trail : Trail) :
    Gives (SuiteFile.step depth trail node) step := by
  have hnames := description_not_mem_action step.action
  have hfields : Follows (StepFields.read depth) {} (stepEntries step)
      { description := some step.description
        others := Tree.entryValues (actionEntries step.action) } :=
    .cons (fun trail _ hnode => (gives_once (gives_describedBy hnode trail) trail).bind (.pure _))
      (follows_others hnames (Nat.le_trans (entriesHeight_action step.action) hdepth) _)
  refine (gives_record h hfields trail).bind (.bind (.pure _) ?_)
  rw [action_entryValues]
  exact .pure _

/-! Test cases. -/

theorem gives_testCase {case : TestCase} {node : Node} {depth : Nat}
    (h : node.shows (.mapping (caseEntries case)) = true) (hdepth : 4 ≤ depth) (trail : Trail) :
    Gives (testCase depth trail node) case := by
  have hsteps : ∀ step ∈ case.steps, ∀ trail node,
      node.shows (.mapping (stepEntries step)) = true →
        Gives (SuiteFile.step (depth - 2) trail node) step :=
    fun _ _ trail _ hnode => gives_step hnode (Nat.le_sub_of_add_le hdepth) trail
  have hfields : Follows (CaseFields.read depth) {} (caseEntries case)
      { title := some case.title, objective := some case.objective, steps := some case.steps } :=
    .cons (fun trail _ hnode => (gives_once (gives_rawText hnode trail) trail).bind (.pure _)) <|
    .cons (fun trail _ hnode => (gives_once (gives_rawText hnode trail) trail).bind (.pure _)) <|
    .cons (fun trail _ hnode =>
      (gives_once (gives_items hsteps hnode trail) trail).bind (.pure _)) <|
    .nil _
  exact (gives_record h hfields trail).bind (.pure _)

/-! Whole suites. -/

theorem gives_category {known : Category} {node : Node}
    (h : node.shows (.text known.tag) = true) (trail : Trail) :
    Gives (category trail node) known := by
  refine (gives_follow h _).bind ?_
  obtain ⟨plain, rfl, -⟩ := Node.shows_text h
  cases known <;> exact .pure _

theorem follows_suite (suite : Suite) {depth : Nat} (hdepth : 6 ≤ depth) :
    Follows (SuiteFields.read depth) {} (suiteEntries suite)
      { featureName := some suite.featureName, fileBaseName := some suite.fileBaseName
        baseUrl := some suite.baseUrl, category := some suite.category
        describeTitle := some suite.describeTitle, initialPath := some suite.initialPath
        additionalSetup := suite.additionalSetup.map some
        testCases := some suite.testCases } := by
  have htext : ∀ {text : String} {trail : Trail} {node : Node}, node.shows (.text text) = true →
      Gives (once trail none (rawText trail node)) (some text) :=
    fun hnode => gives_once (gives_rawText hnode _) _
  have hcases : ∀ case ∈ suite.testCases, ∀ trail node,
      node.shows (.mapping (caseEntries case)) = true →
        Gives (testCase (depth - 2) trail node) case :=
    fun _ _ trail _ hnode => gives_testCase hnode (Nat.le_sub_of_add_le hdepth) trail
  refine .cons (fun trail node hnode => (htext hnode).bind (.pure _)) ?_
  refine .cons (fun trail node hnode => (htext hnode).bind (.pure _)) ?_
  refine .cons (fun trail node hnode => (htext hnode).bind (.pure _)) ?_
  refine .cons (fun trail node hnode =>
    (gives_once (gives_category hnode trail) trail).bind (.pure _)) ?_
  refine .cons (fun trail node hnode => (htext hnode).bind (.pure _)) ?_
  refine .cons (fun trail node hnode => (htext hnode).bind (.pure _)) ?_
  cases suite.additionalSetup with
  | none =>
      exact .cons (fun trail node hnode =>
        (gives_once (gives_items hcases hnode trail) trail).bind (.pure _)) (.nil _)
  | some text =>
      refine .cons (fun trail node hnode =>
        (gives_once (gives_optionalText hnode trail) trail).bind (.pure _)) ?_
      exact .cons (fun trail node hnode =>
        (gives_once (gives_items hcases hnode trail) trail).bind (.pure _)) (.nil _)

theorem gives_suite {suite : Suite} {node : Node} {depth : Nat}
    (h : node.shows (.mapping (suiteEntries suite)) = true) (hdepth : 6 ≤ depth)
    (trail : Trail) : Gives (SuiteFile.suite depth trail node) suite := by
  refine (gives_record h (follows_suite suite hdepth) trail).bind ?_
  obtain ⟨_, _, _, _, _, _, setup, _⟩ := suite
  cases setup <;> exact .pure _

/-! Whether the text that is written of a suite can be relied on is up to the layer of texts and
documents below. -/

/-- The text of a suite is read as a document that shows the tree it was written from. -/
def textKeeps (suite : Suite) : Bool :=
  (documentOf? (render suite)).any fun document =>
    document.root.shows (.mapping (suiteEntries suite))

/-- The layer can be checked on characters, without a string in between. -/
theorem textKeeps_eq (suite : Suite) :
    textKeeps suite =
      ((Document.ofStream? (Layout.entries 0 (suiteEntries suite))).map
        (·.getD { root := .empty none })).any fun document =>
          document.root.shows (.mapping (suiteEntries suite)) := by
  rw [textKeeps, documentOf?, render, Tree.renderEntries, String.toList_ofList]

theorem readSuite_render {suite : Suite} (h : textKeeps suite = true) :
    readSuite (render suite) = .ok suite := by
  obtain ⟨document, hdocument, hshows⟩ := (Option.any_eq_true _ _).mp h
  have hread : Gives (SuiteFile.suite (depthLimit - 1) [] document.root) suite :=
    gives_suite hshows (by decide) []
  rw [readSuite, readRoot, hdocument]
  dsimp only
  rw [Walk.run, hread]
  rfl

end SuiteScribe.SuiteFile
