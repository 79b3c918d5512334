import SuiteScribe.Proofs.Answers.Supply
import SuiteScribe.Proofs.Suite.Encoding

namespace SuiteScribe.Interview

open Text

/-! A step on the way: an assertion is asked for right after the choice to verify something, and
otherwise only if one has been chosen. -/

/-- A draft that is to verify something has its assertion chosen. -/
def Draft.Decided (draft : Draft) : Prop :=
  draft.kind = .verify → draft.assertion ≠ none

namespace StepQuestion

def Clear : StepQuestion → Prop
  | description _ => True
  | action described => Filled described
  | field draft missing => missing ≠ .assertion ∧ Draft.Decided draft
  | accessibleName draft _ => Draft.Decided draft

variable {described text : String}

theorem proceed_clear {draft : Draft} (h : Draft.Decided draft) :
    (proceed draft).Leads Clear fun _ => True := by
  cases hencode : draft.encode with
  | ok step => simp [proceed, hencode, Turn.Leads]
  | error missing =>
      simp only [proceed, hencode, Turn.leads_after, Turn.leads_ask]
      refine ⟨fun hmissing => ?_, h⟩
      obtain ⟨hkind, hnone⟩ := Draft.encode_eq_error_assertion (hmissing ▸ hencode)
      exact h hkind hnone

theorem askAgain_clear (hint : String) {draft : Draft} {missing : StepField}
    (h : (field draft missing).Clear) :
    (askAgain hint draft missing).Leads Clear fun _ => True :=
  h

theorem unlessEmpty_clear {draft : Draft} {missing : StepField} (text : String)
    {filled : StepTurn} (h : (field draft missing).Clear)
    (hfilled : filled.Leads Clear fun _ => True) :
    (unlessEmpty draft missing text filled).Leads Clear fun _ => True := by
  cases hempty : text.isEmpty with
  | true => simpa [unlessEmpty, hempty] using askAgain_clear requiredHint h
  | false => simpa [unlessEmpty, hempty] using hfilled

theorem fillRole_clear {draft : Draft} (text : String) (h : Draft.Decided draft) :
    (fillRole draft text).Leads Clear fun _ => True := by
  cases hbroken : text.toList.any isBlank with
  | true =>
      simp only [fillRole, hbroken, if_true]
      exact proceed_clear h
  | false =>
      simp only [fillRole, hbroken, Bool.false_eq_true, if_false, Turn.leads_ask]
      exact h

theorem fillField_clear (options : Options) {draft : Draft} {missing : StepField} (text : String)
    (h : (field draft missing).Clear) :
    (fillField options draft missing text).Leads Clear fun _ => True := by
  have hdecided : Draft.Decided draft := h.2
  cases missing with
  | assertion => exact absurd rfl h.1
  | targetRole => exact unlessEmpty_clear text h (fillRole_clear text hdecided)
  | _ => exact unlessEmpty_clear text h (proceed_clear hdecided)

theorem chooseAction_clear (options : Options) (h : Filled described)
    (hverify : actionMenu.parse text ≠ .selected .verify) :
    (chooseAction options described text).Leads Clear fun _ => True := by
  have hagain : (action described).Clear := h
  rw [chooseAction]
  cases hparse : actionMenu.parse text with
  | selected kind =>
      refine proceed_clear fun hkind => ?_
      have hchosen : kind = .verify := hkind
      exact absurd (hchosen ▸ hparse) hverify
  | empty => exact hagain
  | unrecognized statement =>
      cases options.strictMenus with
      | true => exact hagain
      | false =>
          have hdecided :
              Draft.Decided
                { description := described, kind := .custom
                  customStatement := some statement } := nofun
          exact proceed_clear hdecided

/-- A clear question leads to clear ones, unless something is chosen to be verified. -/
theorem answer_clear (options : Options) {question : StepQuestion} (h : question.Clear)
    (htrimmed : trimmed text = text)
    (hverify : ∀ described, question = action described →
      actionMenu.parse text ≠ .selected .verify) :
    (question.answer options text).Leads Clear fun _ => True := by
  cases question with
  | description number =>
      rw [answer]
      split
      · exact trivial
      · next hend =>
          have hnonempty : text.isEmpty = false := by
            simpa using (not_or.mp (mt Bool.or_eq_true_iff.mpr hend)).1
          have hfilled : Filled text := filled_of_answer htrimmed hnonempty
          exact hfilled
  | action described => exact chooseAction_clear options h (hverify described rfl)
  | field draft missing => exact fillField_clear options text h
  | accessibleName draft role =>
      have hdecided : Draft.Decided draft := h
      exact proceed_clear hdecided

end StepQuestion

namespace CaseQuestion

def Clear : CaseQuestion → Prop
  | step _ _ _ question => question.Clear
  | _ => True

theorem continueCase_clear (named aim : String) (done : List Step) (result : Option Step) :
    (continueCase named aim done result).Leads Clear fun _ => True := by
  cases result <;> exact trivial

theorem answer_clear (options : Options) {question : CaseQuestion} (h : question.Clear)
    {text : String} (htrimmed : trimmed text = text)
    (hverify : ∀ named aim done described,
      question = step named aim done (.action described) →
        actionMenu.parse text ≠ .selected .verify) :
    (question.answer options text).Leads Clear fun _ => True := by
  cases question with
  | title number =>
      rw [answer]
      split <;> exact trivial
  | objective named =>
      rw [answer]
      split <;> exact trivial
  | step named aim done question =>
      refine Turn.Leads.within (StepQuestion.answer_clear options h htrimmed ?_)
        (fun _ hclear => hclear) (fun result _ => continueCase_clear named aim done result)
      rintro described rfl
      exact hverify named aim done described rfl

end CaseQuestion

/-! A place in a suite at which a step is told. -/

structure StepPlace where
  suite : Suite
  title : String
  objective : String
  done : List Step

namespace StepPlace

variable (place : StepPlace)

def question (question : StepQuestion) : SuiteQuestion :=
  .case place.suite (.step place.title place.objective place.done question)

def within (turn : StepQuestion.StepTurn) : SuiteQuestion.SuiteTurn :=
  (turn.within (.step place.title place.objective place.done)
    (CaseQuestion.continueCase place.title place.objective place.done)).within
    (.case place.suite) (SuiteQuestion.continueSuite place.suite)

theorem answer_question (options : Options) (question : StepQuestion) (text : String) :
    (SuiteQuestion.guide options).answer (place.question question) text =
      place.within (question.answer options text) := rfl

theorem next_within_ask {turn : StepQuestion.StepTurn} {question : StepQuestion}
    (h : turn.next = .ask question) :
    (place.within turn).next = .ask (place.question question) := by
  rw [within, Turn.next_within, Turn.next_within, h]
  rfl

theorem next_within_congr {first second : StepQuestion.StepTurn} (h : first.next = second.next) :
    (place.within first).next = (place.within second).next := by
  rw [within, within, Turn.next_within, Turn.next_within, Turn.next_within, Turn.next_within, h]

end StepPlace

namespace SuiteQuestion

def Clear : SuiteQuestion → Prop
  | case _ question => question.Clear
  | header _ _ => True

theorem continueSuite_clear (suite : Suite) (result : Option TestCase) :
    (continueSuite suite result).Leads Clear fun _ => True := by
  cases result <;> exact trivial

theorem within_clear (place : StepPlace) {turn : StepQuestion.StepTurn}
    (h : turn.Leads StepQuestion.Clear fun _ => True) :
    (place.within turn).Leads Clear fun _ => True := by
  have hcase :
      (turn.within (.step place.title place.objective place.done)
        (CaseQuestion.continueCase place.title place.objective place.done)).Leads
        CaseQuestion.Clear fun _ => True :=
    h.within (fun _ hclear => hclear) fun result _ =>
      CaseQuestion.continueCase_clear place.title place.objective place.done result
  exact hcase.within (fun _ hclear => hclear) fun result _ =>
    continueSuite_clear place.suite result

theorem afterField_clear (suite : Suite) (field : HeaderField) :
    (afterField suite field).Leads Clear fun _ => True := by
  cases field <;> exact trivial

theorem chooseCategory_clear (options : Options) (suite : Suite) (text : String) :
    (chooseCategory options suite text).Leads Clear fun _ => True := by
  rw [chooseCategory]
  split
  · exact afterField_clear _ _
  · exact afterField_clear _ _
  · split
    · exact trivial
    · exact (Turn.leads_after _ _).mpr (afterField_clear _ _)

theorem fillHeader_clear (options : Options) (suite : Suite) (field : HeaderField)
    (text : String) : (fillHeader options suite field text).Leads Clear fun _ => True := by
  rw [fillHeader.eq_def]
  split
  · exact chooseCategory_clear options suite text
  · exact afterField_clear _ _
  · split
    · exact trivial
    · exact afterField_clear _ _

theorem answer_clear (options : Options) {question : SuiteQuestion} (h : question.Clear)
    {text : String} (htrimmed : trimmed text = text)
    (hverify : ∀ place described, question = StepPlace.question place (.action described) →
      actionMenu.parse text ≠ .selected .verify) :
    (question.answer options text).Leads Clear fun _ => True := by
  cases question with
  | header suite field => exact fillHeader_clear options suite field text
  | case suite question =>
      refine Turn.Leads.within (CaseQuestion.answer_clear options h htrimmed ?_)
        (fun _ hclear => hclear) (fun result _ => continueSuite_clear suite result)
      rintro named aim done described rfl
      exact hverify ⟨suite, named, aim, done⟩ described rfl

end SuiteQuestion

end SuiteScribe.Interview
