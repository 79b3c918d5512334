import SuiteScribe.Interview
import SuiteScribe.Proofs.Text

namespace SuiteScribe

open Interview Text

/-! A suite is acceptable if and only if none of its required texts is blank. -/

theorem firstBlank_eq_none_iff {fields : List (StepField × String)} :
    firstBlank fields = none ↔ ∀ field ∈ fields, blank field.2 = false := by
  simp [firstBlank]

theorem stepDefect?_eq_none_iff (title : String) (number : Nat) {steps : List Step} :
    stepDefect? title number steps = none ↔ ∀ step ∈ steps, step.missing? = none := by
  induction steps generalizing number with
  | nil => simp [stepDefect?]
  | cons step rest ih =>
      rw [stepDefect?, List.forall_mem_cons]
      cases hstep : step.missing? with
      | none => simpa using ih (number + 1)
      | some field => simp

/-- A test case needs a title and an objective, and complete steps. -/
def TestCase.Complete (case : TestCase) : Prop :=
  (blank case.title = false ∧ blank case.objective = false) ∧
    ∀ step ∈ case.steps, step.missing? = none

theorem caseDefect?_eq_none_iff (number : Nat) {cases : List TestCase} :
    caseDefect? number cases = none ↔ ∀ case ∈ cases, case.Complete := by
  induction cases generalizing number with
  | nil => simp [caseDefect?]
  | cons case rest ih =>
      rw [caseDefect?, List.forall_mem_cons, TestCase.Complete, ← Bool.or_eq_false_iff]
      cases hnames : blank case.title || blank case.objective with
      | true => simp
      | false =>
          have hrest : caseDefect? (number + 1) rest = none ↔ ∀ case ∈ rest, case.Complete :=
            ih (number + 1)
          rw [if_neg (by simp), ← stepDefect?_eq_none_iff case.title 1, ← hrest]
          cases hsteps : stepDefect? case.title 1 case.steps with
          | none => simp
          | some defect => simp

theorem Suite.defect?_eq_none_iff {suite : Suite} :
    suite.defect? = none ↔
      (∀ field ∈ suite.requiredTexts, blank field.2 = false) ∧
        ∀ case ∈ suite.testCases, case.Complete := by
  have hheader : (suite.requiredTexts.find? fun field => blank field.2) = none ↔
      ∀ field ∈ suite.requiredTexts, blank field.2 = false := by
    simp
  rw [Suite.defect?, ← hheader, ← caseDefect?_eq_none_iff 1]
  cases suite.requiredTexts.find? fun field => blank field.2 with
  | none => simp
  | some field => simp

/-! A suite is in normal form if it can have been told in an interview: its texts are filled, apart
from accessible names, which are only trimmed; roles are single words; and nothing is called like
one of the two sentinels. -/

structure Target.NormalForm (target : Target) : Prop where
  role : Filled target.role
  role_unbroken : Unbroken target.role
  name : trimmed target.name = target.name

def Assertion.NormalForm : Assertion → Prop
  | .visible target => target.NormalForm
  | .hasText target expected => target.NormalForm ∧ Filled expected
  | .enabled target => target.NormalForm
  | .disabled target => target.NormalForm
  | .hasUrl expected => Filled expected

def Action.NormalForm : Action → Prop
  | .click target => target.NormalForm
  | .fill target value => target.NormalForm ∧ Filled value
  | .verify assertion => assertion.NormalForm
  | .navigate path => Filled path
  | .screenshot name => Filled name
  | .custom statement => Filled statement

structure Step.NormalForm (step : Step) : Prop where
  description : Filled step.description
  not_sentinel : step.description ≠ stepSentinel
  action : step.action.NormalForm

structure TestCase.NormalForm (case : TestCase) : Prop where
  title : Filled case.title
  not_sentinel : case.title ≠ caseSentinel
  objective : Filled case.objective
  steps : ∀ step ∈ case.steps, step.NormalForm

structure Suite.NormalForm (suite : Suite) : Prop where
  featureName : Filled suite.featureName
  fileBaseName : Filled suite.fileBaseName
  baseUrl : Filled suite.baseUrl
  describeTitle : Filled suite.describeTitle
  initialPath : Filled suite.initialPath
  additionalSetup : ∀ setup ∈ suite.additionalSetup, Filled setup
  testCases : ∀ case ∈ suite.testCases, case.NormalForm

/-! Normal forms can be checked. -/

instance (target : Target) : Decidable target.NormalForm :=
  decidable_of_iff
    (Filled target.role ∧ Unbroken target.role ∧ trimmed target.name = target.name)
    ⟨fun h => ⟨h.1, h.2.1, h.2.2⟩, fun h => ⟨h.role, h.role_unbroken, h.name⟩⟩

instance : (assertion : Assertion) → Decidable assertion.NormalForm
  | .visible target => inferInstanceAs (Decidable target.NormalForm)
  | .hasText target expected =>
      inferInstanceAs (Decidable (target.NormalForm ∧ Filled expected))
  | .enabled target => inferInstanceAs (Decidable target.NormalForm)
  | .disabled target => inferInstanceAs (Decidable target.NormalForm)
  | .hasUrl expected => inferInstanceAs (Decidable (Filled expected))

instance : (action : Action) → Decidable action.NormalForm
  | .click target => inferInstanceAs (Decidable target.NormalForm)
  | .fill target value => inferInstanceAs (Decidable (target.NormalForm ∧ Filled value))
  | .verify assertion => inferInstanceAs (Decidable assertion.NormalForm)
  | .navigate path => inferInstanceAs (Decidable (Filled path))
  | .screenshot name => inferInstanceAs (Decidable (Filled name))
  | .custom statement => inferInstanceAs (Decidable (Filled statement))

instance (step : Step) : Decidable step.NormalForm :=
  decidable_of_iff
    (Filled step.description ∧ step.description ≠ stepSentinel ∧ step.action.NormalForm)
    ⟨fun h => ⟨h.1, h.2.1, h.2.2⟩, fun h => ⟨h.description, h.not_sentinel, h.action⟩⟩

instance (case : TestCase) : Decidable case.NormalForm :=
  decidable_of_iff
    (Filled case.title ∧ case.title ≠ caseSentinel ∧ Filled case.objective ∧
      ∀ step ∈ case.steps, step.NormalForm)
    ⟨fun h => ⟨h.1, h.2.1, h.2.2.1, h.2.2.2⟩,
      fun h => ⟨h.title, h.not_sentinel, h.objective, h.steps⟩⟩

instance (suite : Suite) : Decidable suite.NormalForm :=
  decidable_of_iff
    ((Filled suite.featureName ∧ Filled suite.fileBaseName ∧ Filled suite.baseUrl ∧
        Filled suite.describeTitle ∧ Filled suite.initialPath) ∧
      (∀ setup ∈ suite.additionalSetup, Filled setup) ∧
      ∀ case ∈ suite.testCases, case.NormalForm)
    ⟨fun h => ⟨h.1.1, h.1.2.1, h.1.2.2.1, h.1.2.2.2.1, h.1.2.2.2.2, h.2.1, h.2.2⟩,
      fun h => ⟨⟨h.featureName, h.fileBaseName, h.baseUrl, h.describeTitle, h.initialPath⟩,
        h.additionalSetup, h.testCases⟩⟩

/-! A normal form has no defect. -/

theorem Assertion.NormalForm.target {assertion : Assertion} (h : assertion.NormalForm) :
    ∀ target ∈ assertion.target?, target.NormalForm := by
  cases assertion with
  | visible target => simpa [Assertion.target?, Assertion.NormalForm] using h
  | hasText target expected => simpa [Assertion.target?] using h.1
  | enabled target => simpa [Assertion.target?, Assertion.NormalForm] using h
  | disabled target => simpa [Assertion.target?, Assertion.NormalForm] using h
  | hasUrl expected => simp [Assertion.target?]

theorem Assertion.NormalForm.expected {assertion : Assertion} (h : assertion.NormalForm) :
    ∀ expected ∈ assertion.expected?, Filled expected := by
  cases assertion with
  | hasText target expected => simpa [Assertion.expected?] using h.2
  | hasUrl expected => simpa [Assertion.expected?, Assertion.NormalForm] using h
  | _ => simp [Assertion.expected?]

theorem Assertion.NormalForm.requiredTexts {assertion : Assertion}
    (h : assertion.NormalForm) : ∀ field ∈ assertion.requiredTexts, Filled field.2 := by
  intro field hmem
  rcases List.mem_append.mp hmem with hmem | hmem
  · simp only [Option.mem_toList, Option.map_eq_some_iff] at hmem
    obtain ⟨target, htarget, rfl⟩ := hmem
    exact (h.target target htarget).role
  · simp only [Option.mem_toList, Option.map_eq_some_iff] at hmem
    obtain ⟨expected, hexpected, rfl⟩ := hmem
    exact h.expected expected hexpected

theorem Action.NormalForm.requiredTexts {action : Action} (h : action.NormalForm) :
    ∀ field ∈ action.requiredTexts, Filled field.2 := by
  cases action with
  | click target => simpa [Action.requiredTexts] using Target.NormalForm.role h
  | fill target value => simpa [Action.requiredTexts] using And.intro h.1.role h.2
  | verify assertion => exact Assertion.NormalForm.requiredTexts h
  | navigate path => simpa [Action.requiredTexts, Action.NormalForm] using h
  | screenshot name => simpa [Action.requiredTexts, Action.NormalForm] using h
  | custom statement => simpa [Action.requiredTexts, Action.NormalForm] using h

theorem Step.NormalForm.missing?_eq_none {step : Step} (h : step.NormalForm) :
    step.missing? = none := by
  rw [Step.missing?, firstBlank_eq_none_iff, List.forall_mem_cons]
  refine ⟨h.description.not_blank, ?_⟩
  intro field hfield
  exact (h.action.requiredTexts field hfield).not_blank

theorem TestCase.NormalForm.complete {case : TestCase} (h : case.NormalForm) : case.Complete := by
  refine ⟨⟨h.title.not_blank, h.objective.not_blank⟩, ?_⟩
  intro step hstep
  exact (h.steps step hstep).missing?_eq_none

theorem Suite.NormalForm.defect?_eq_none {suite : Suite} (h : suite.NormalForm) :
    suite.defect? = none := by
  refine Suite.defect?_eq_none_iff.mpr ⟨?_, fun case hcase => (h.testCases case hcase).complete⟩
  simp [Suite.requiredTexts, h.featureName.not_blank, h.fileBaseName.not_blank,
    h.baseUrl.not_blank, h.describeTitle.not_blank, h.initialPath.not_blank]

end SuiteScribe
