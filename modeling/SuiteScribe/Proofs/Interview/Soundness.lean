import SuiteScribe.Proofs.Answers.Supply
import SuiteScribe.Proofs.Suite.Encoding

namespace SuiteScribe.Interview

open Answers Text

/-! What an interview collects is in normal form. The invariant of each question says that the part
of the suite which has been told so far is. -/

/-- A draft is sound if its description could be one of a step, and its role is unambiguous. -/
structure Draft.Sound (draft : Draft) : Prop where
  description : Filled draft.description
  not_sentinel : draft.description ≠ stepSentinel
  unambiguous : draft.Unambiguous

namespace StepQuestion

def Sound : StepQuestion → Prop
  | description _ => True
  | action described => Filled described ∧ described ≠ stepSentinel
  | field draft missing => Draft.Sound draft ∧ missing ≠ .description
  | accessibleName draft role => Draft.Sound draft ∧ Unbroken role

def Collected (result : Option Step) : Prop :=
  ∀ step ∈ result, step.NormalForm

theorem proceed_sound {draft : Draft} (h : Draft.Sound draft) :
    (proceed draft).Leads Sound Collected := by
  cases hencode : draft.encode with
  | ok step =>
      obtain ⟨hdescription, haction⟩ := Draft.encode_eq_ok hencode
      rw [h.description.trimmed_eq] at hdescription
      simp only [proceed, hencode, Turn.Leads, Collected, Option.mem_some_iff, forall_eq']
      exact ⟨hdescription ▸ h.description, hdescription ▸ h.not_sentinel,
        Draft.encodeAction_normalForm h.unambiguous haction⟩
  | error missing =>
      simp only [proceed, hencode, Turn.leads_after, Turn.leads_ask]
      refine ⟨h, fun hmissing => ?_⟩
      exact Draft.encode_ne_description h.description (hmissing ▸ hencode)

theorem askAgain_sound (hint : String) {draft : Draft} {missing : StepField}
    (h : Sound (field draft missing)) : (askAgain hint draft missing).Leads Sound Collected :=
  h

theorem fallBack_sound (subject statement : String) {draft : Draft} (h : Draft.Sound draft) :
    (fallBack subject draft statement).Leads Sound Collected := by
  simp only [fallBack, Turn.leads_after]
  exact proceed_sound ⟨h.description, h.not_sentinel, h.unambiguous⟩

theorem chooseAction_sound (options : Options) {described : String} (text : String)
    (h : Sound (action described)) :
    (chooseAction options described text).Leads Sound Collected := by
  have hblank (kind : ActionKind) : Draft.Sound { description := described, kind } :=
    ⟨h.1, h.2, Draft.unambiguous_of_role rfl⟩
  cases hparse : actionMenu.parse text with
  | selected kind => simpa [chooseAction, hparse] using proceed_sound (hblank kind)
  | empty => simpa [chooseAction, hparse] using h
  | unrecognized statement =>
      cases hstrict : options.strictMenus with
      | true => simpa [chooseAction, hparse, hstrict] using h
      | false =>
          simpa [chooseAction, hparse, hstrict] using
            fallBack_sound "action" statement (hblank .custom)

theorem chooseAssertion_sound (options : Options) {draft : Draft} (text : String)
    (h : Draft.Sound draft) : (chooseAssertion options draft text).Leads Sound Collected := by
  have hagain : Sound (field draft .assertion) := ⟨h, nofun⟩
  cases hparse : assertionMenu.parse text with
  | selected kind =>
      simp only [chooseAssertion, hparse]
      exact proceed_sound ⟨h.description, h.not_sentinel, h.unambiguous⟩
  | empty => simpa [chooseAssertion, hparse] using askAgain_sound requiredHint hagain
  | unrecognized statement =>
      cases hstrict : options.strictMenus with
      | true =>
          simpa [chooseAssertion, hparse, hstrict] using
            askAgain_sound unknownSelectionHint hagain
      | false =>
          simpa [chooseAssertion, hparse, hstrict] using fallBack_sound "assertion" statement h

theorem fillRole_sound {draft : Draft} (text : String) (h : Draft.Sound draft) :
    (fillRole draft text).Leads Sound Collected := by
  cases hbroken : text.toList.any isBlank with
  | true =>
      simp only [fillRole, hbroken, if_true]
      exact proceed_sound ⟨h.description, h.not_sentinel, Draft.unambiguous_of_name rfl⟩
  | false =>
      simp only [fillRole, hbroken, Bool.false_eq_true, if_false, Turn.leads_ask]
      exact ⟨h, unbroken_of_any_eq_false hbroken⟩

theorem unlessEmpty_sound {draft : Draft} {missing : StepField} (text : String)
    {filled : StepTurn} (h : Sound (field draft missing))
    (hfilled : filled.Leads Sound Collected) :
    (unlessEmpty draft missing text filled).Leads Sound Collected := by
  cases hempty : text.isEmpty with
  | true => simpa [unlessEmpty, hempty] using askAgain_sound requiredHint h
  | false => simpa [unlessEmpty, hempty] using hfilled

theorem fillField_sound (options : Options) {draft : Draft} {missing : StepField}
    (text : String) (h : Sound (field draft missing)) :
    (fillField options draft missing text).Leads Sound Collected := by
  obtain ⟨hdraft, hmissing⟩ := h
  cases missing with
  | description => exact absurd rfl hmissing
  | targetRole => exact unlessEmpty_sound text ⟨hdraft, hmissing⟩ (fillRole_sound text hdraft)
  | assertion => exact chooseAssertion_sound options text hdraft
  | _ =>
      exact unlessEmpty_sound text ⟨hdraft, hmissing⟩
        (proceed_sound ⟨hdraft.description, hdraft.not_sentinel, hdraft.unambiguous⟩)

theorem guide_keeps (options : Options) : (guide options).Keeps Sound Collected := by
  intro question h text htrimmed
  cases question with
  | description number =>
      by_cases hend : text.isEmpty || text == stepSentinel
      · simp [guide, answer, hend, Collected]
      · simp only [guide, answer, hend, Bool.false_eq_true, if_false, Turn.leads_after,
          Turn.leads_ask]
        simp only [Bool.or_eq_true, beq_iff_eq, not_or, Bool.not_eq_true] at hend
        exact ⟨filled_of_answer htrimmed hend.1, hend.2⟩
  | action described => exact chooseAction_sound options text h
  | field draft missing => exact fillField_sound options text h
  | accessibleName draft role =>
      have hdraft : Draft.Sound draft := h.1
      refine proceed_sound ⟨hdraft.description, hdraft.not_sentinel, ?_⟩
      intro chosen hchosen _
      cases hchosen
      exact h.2

end StepQuestion

namespace CaseQuestion

def Sound : CaseQuestion → Prop
  | title _ => True
  | objective named => Filled named ∧ named ≠ caseSentinel
  | step named aim done question =>
      ({ title := named, objective := aim, steps := done } : TestCase).NormalForm ∧
        question.Sound

def Collected (result : Option TestCase) : Prop :=
  ∀ case ∈ result, case.NormalForm

theorem askStep_sound {named aim : String} {done : List Step}
    (h : ({ title := named, objective := aim, steps := done } : TestCase).NormalForm) :
    (askStep named aim done).Leads Sound Collected :=
  ⟨h, trivial⟩

theorem continueCase_sound {named aim : String} {done : List Step}
    (h : ({ title := named, objective := aim, steps := done } : TestCase).NormalForm)
    {result : Option Step} (hresult : StepQuestion.Collected result) :
    (continueCase named aim done result).Leads Sound Collected := by
  cases result with
  | none => simpa [continueCase, Collected] using h
  | some last =>
      refine askStep_sound ⟨h.title, h.not_sentinel, h.objective, ?_⟩
      intro step hstep
      rcases List.mem_append.mp hstep with hdone | hlast
      · exact h.steps step hdone
      · rw [List.mem_singleton.mp hlast]
        exact hresult last rfl

theorem guide_keeps (options : Options) : (guide options).Keeps Sound Collected := by
  intro question h text htrimmed
  cases question with
  | title number =>
      by_cases hend : text.isEmpty || text == caseSentinel
      · simp [guide, answer, hend, Collected]
      · simp only [guide, answer, hend, Bool.false_eq_true, if_false, Turn.leads_ask]
        simp only [Bool.or_eq_true, beq_iff_eq, not_or, Bool.not_eq_true] at hend
        exact ⟨filled_of_answer htrimmed hend.1, hend.2⟩
  | objective named =>
      cases hempty : text.isEmpty with
      | true => simpa [guide, answer, hempty] using h
      | false =>
          simp only [guide, answer, hempty, Bool.false_eq_true, if_false]
          exact askStep_sound ⟨h.1, h.2, filled_of_answer htrimmed hempty, by simp⟩
  | step named aim done question =>
      exact (StepQuestion.guide_keeps options question h.2 text htrimmed).within
        (fun _ hnext => ⟨h.1, hnext⟩) (fun _ hresult => continueCase_sound h.1 hresult)

end CaseQuestion

/-! The header is told field by field. Each field stands for those before it. -/

/-- The header fields in front of a field are filled. -/
def HeaderField.FilledBefore (suite : Suite) : HeaderField → Prop
  | featureName => True
  | fileBaseName => Filled suite.featureName
  | baseUrl => Filled suite.featureName ∧ Filled suite.fileBaseName
  | category => Filled suite.featureName ∧ Filled suite.fileBaseName ∧ Filled suite.baseUrl
  | describeTitle =>
      Filled suite.featureName ∧ Filled suite.fileBaseName ∧ Filled suite.baseUrl
  | initialPath =>
      Filled suite.featureName ∧ Filled suite.fileBaseName ∧ Filled suite.baseUrl ∧
        Filled suite.describeTitle
  | additionalSetup =>
      Filled suite.featureName ∧ Filled suite.fileBaseName ∧ Filled suite.baseUrl ∧
        Filled suite.describeTitle ∧ Filled suite.initialPath

namespace SuiteQuestion

def Sound : SuiteQuestion → Prop
  | header suite field => field.FilledBefore suite ∧ suite.testCases = []
  | case suite question => suite.NormalForm ∧ question.Sound

theorem askCase_sound {suite : Suite} (h : suite.NormalForm) :
    (askCase suite).Leads Sound Suite.NormalForm :=
  ⟨h, trivial⟩

theorem continueSuite_sound {suite : Suite} (h : suite.NormalForm) {result : Option TestCase}
    (hresult : CaseQuestion.Collected result) :
    (continueSuite suite result).Leads Sound Suite.NormalForm := by
  cases result with
  | none => exact h
  | some last =>
      simp only [continueSuite, Turn.leads_after]
      refine askCase_sound { h with testCases := ?_ }
      intro case hcase
      rcases List.mem_append.mp hcase with hdone | hlast
      · exact h.testCases case hdone
      · rw [List.mem_singleton.mp hlast]
        exact hresult last rfl

theorem chooseCategory_sound (options : Options) {suite : Suite} (text : String)
    (h : Sound (header suite .category)) :
    (chooseCategory options suite text).Leads Sound Suite.NormalForm := by
  have hnext (category : Category) :
      (afterField { suite with category } .category).Leads Sound Suite.NormalForm := h
  cases hparse : categoryMenu.parse text with
  | selected category => simpa [chooseCategory, hparse] using hnext category
  | empty => simpa [chooseCategory, hparse] using hnext default
  | unrecognized other =>
      cases hstrict : options.strictMenus with
      | true => simpa [chooseCategory, hparse, hstrict] using h
      | false => simpa [chooseCategory, hparse, hstrict] using hnext default

theorem fillSetup_sound {suite : Suite} {text : String} (htrimmed : trimmed text = text)
    (h : Sound (header suite .additionalSetup)) :
    (afterField { suite with additionalSetup := if text.isEmpty then none else some text }
      .additionalSetup).Leads Sound Suite.NormalForm := by
  obtain ⟨⟨hfeature, hfile, hbase, hdescribe, hpath⟩, hcases⟩ := h
  refine askCase_sound ⟨hfeature, hfile, hbase, hdescribe, hpath, ?_, by simp [hcases]⟩
  intro setup hsetup
  cases hempty : text.isEmpty with
  | true => simp [hempty] at hsetup
  | false =>
      simp only [hempty, Bool.false_eq_true, if_false, Option.mem_some_iff] at hsetup
      exact hsetup ▸ filled_of_answer htrimmed hempty

theorem setRequired_sound {suite : Suite} {field : HeaderField} {text : String}
    (hfield : field ≠ .additionalSetup) (hcategory : field ≠ .category) (htext : Filled text)
    (h : Sound (header suite field)) :
    (afterField (setRequired suite field text) field).Leads Sound Suite.NormalForm := by
  obtain ⟨hbefore, hcases⟩ := h
  cases field with
  | featureName => exact ⟨htext, hcases⟩
  | fileBaseName => exact ⟨⟨hbefore, htext⟩, hcases⟩
  | baseUrl => exact ⟨⟨hbefore.1, hbefore.2, htext⟩, hcases⟩
  | category => exact absurd rfl hcategory
  | describeTitle => exact ⟨⟨hbefore.1, hbefore.2.1, hbefore.2.2, htext⟩, hcases⟩
  | initialPath =>
      exact ⟨⟨hbefore.1, hbefore.2.1, hbefore.2.2.1, hbefore.2.2.2, htext⟩, hcases⟩
  | additionalSetup => exact absurd rfl hfield

theorem fillRequired_sound {suite : Suite} {field : HeaderField} {text : String}
    (hfield : field ≠ .additionalSetup) (hcategory : field ≠ .category)
    (htrimmed : trimmed text = text) (h : Sound (header suite field)) :
    (if text.isEmpty then .retry requiredHint (header suite field)
      else afterField (setRequired suite field text) field).Leads Sound Suite.NormalForm := by
  cases hempty : text.isEmpty with
  | true => simpa using h
  | false =>
      simpa using setRequired_sound hfield hcategory (filled_of_answer htrimmed hempty) h

theorem fillHeader_sound (options : Options) {suite : Suite} {field : HeaderField}
    {text : String} (htrimmed : trimmed text = text) (h : Sound (header suite field)) :
    (fillHeader options suite field text).Leads Sound Suite.NormalForm := by
  cases field with
  | category => exact chooseCategory_sound options text h
  | additionalSetup => exact fillSetup_sound htrimmed h
  | _ => exact fillRequired_sound nofun nofun htrimmed h

theorem guide_keeps (options : Options) : (guide options).Keeps Sound Suite.NormalForm := by
  intro question h text htrimmed
  cases question with
  | header suite field => exact fillHeader_sound options htrimmed h
  | case suite question =>
      exact (CaseQuestion.guide_keeps options question h.2 text htrimmed).within
        (fun _ hnext => ⟨h.1, hnext⟩) (fun _ hresult => continueSuite_sound h.1 hresult)

theorem start_sound : start.Leads Sound Suite.NormalForm :=
  ⟨trivial, rfl⟩

theorem session_sound : session.Leads Sound Suite.NormalForm :=
  start_sound

/-- Whatever a source answers, a suite that is collected from it is in normal form, so nothing
keeps it from being acceptable. -/
theorem collected_normalForm [Answers σ] (options : Options) (source : σ) {suite : Suite}
    (h : (converse (guide options) start source).1 = .ok suite ∨
      (converse (guide options) session source).1 = .ok suite) :
    suite.defect? = none ∧ suite.NormalForm := by
  have hnormal : suite.NormalForm := by
    rcases h with h | h
    · exact converse_keeps (guide_keeps options) start_sound h
    · exact converse_keeps (guide_keeps options) session_sound h
  exact ⟨hnormal.defect?_eq_none, hnormal⟩

/-- A blank name, white space, an unknown category and a choice that is none. -/
def hastyAnswers : List String :=
  ["", " Login\t", "login", "http://localhost:3000", "what?", "Login page", "/login", "  ",
   "signs in", "", "the form works", "greeted", "verify", "", "  page\u2003reloads ", "next",
   "done"]

def hastySuite : Suite :=
  { featureName := "Login", fileBaseName := "login", baseUrl := "http://localhost:3000"
    category := .functional, describeTitle := "Login page", initialPath := "/login"
    additionalSetup := none
    testCases :=
      [{ title := "signs in", objective := "the form works"
         steps := [⟨"greeted", .custom "page\u2003reloads"⟩] }] }

theorem collected_normalForm_hasty :
    (converse (guide {}) session ({ answers := hastyAnswers } : Scripted)).1 = .ok hastySuite ∧
      hastySuite.defect? = none ∧ hastySuite.NormalForm := by
  have hheld := (Scripted.converse_eq_hold (guide {}) session { answers := hastyAnswers }).1
  have hcollected :
      (converse (guide {}) session ({ answers := hastyAnswers } : Scripted)).1 =
        .ok hastySuite :=
    hheld.trans rfl
  exact ⟨hcollected, collected_normalForm {} _ (.inr hcollected)⟩

end SuiteQuestion

end SuiteScribe.Interview
