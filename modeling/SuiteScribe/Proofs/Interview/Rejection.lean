import SuiteScribe.Proofs.Answers.Supply
import SuiteScribe.Proofs.Suite.Menu

namespace SuiteScribe.Interview

open Answers Text

/-! The exchanges of an interview: each question that was answered, and the answer as it was given.
The answers can be rewritten exchange by exchange and be given once more. -/

structure Exchange (σ : Type) where
  question : σ
  answer : String

def exchanges (guide : Guide σ α) (turn : Turn σ α) : List String → List (Exchange σ)
  | [] => []
  | text :: rest =>
      match turn.next with
      | .finish _ => []
      | .ask question =>
          ⟨question, text⟩ :: exchanges guide (guide.answer question (trimmed text)) rest

section

variable (guide : Guide σ α) {turn : Turn σ α}

theorem exchanges_finish {result : α} (h : turn.next = .finish result) (answers : List String) :
    exchanges guide turn answers = [] := by
  cases answers <;> simp [exchanges, h]

theorem exchanges_ask {question : σ} (h : turn.next = .ask question) (text : String)
    (rest : List String) :
    exchanges guide turn (text :: rest) =
      ⟨question, text⟩ :: exchanges guide (guide.answer question (trimmed text)) rest := by
  simp [exchanges, h]

/-- What is not in an exchange is left. -/
theorem answers_eq_exchanges (turn : Turn σ α) (answers : List String) :
    answers = (exchanges guide turn answers).map (·.answer) ++ (hold guide turn answers).left := by
  fun_induction hold guide turn answers with
  | case1 turn answers result hnext => simp [exchanges_finish guide hnext]
  | case2 turn question hnext => rfl
  | case3 turn question text rest hnext ih =>
      rw [exchanges_ask guide hnext]
      exact congrArg (text :: ·) ih

end

/-- The prompts of a run are those of its exchanges, and one more if the answers run out. -/
theorem prompts_eq_exchanges (guide : Guide σ α) (turn : Turn σ α) (answers : List String) :
    (hold guide turn answers).prompts =
      (exchanges guide turn answers).map (guide.wording ·.question) ++
        unanswered ((hold guide turn answers).outcome guide) := by
  fun_induction hold guide turn answers with
  | case1 turn answers result hnext =>
      rw [exchanges_finish guide hnext]
      rfl
  | case2 turn question hnext => rfl
  | case3 turn question text rest hnext ih =>
      rw [exchanges_ask guide hnext]
      exact congrArg (guide.wording question :: ·) ih

/-! Two held interviews agree if they stand at the same point with the same answers left. -/

def Held.Agrees (first second : Held σ α) : Prop :=
  first.next = second.next ∧ first.left = second.left

theorem Held.Agrees.trans {first second third : Held σ α} (h : first.Agrees second)
    (hrest : second.Agrees third) : first.Agrees third :=
  ⟨h.1.trans hrest.1, h.2.trans hrest.2⟩

theorem Held.Agrees.outcome_eq {first second : Held σ α} (h : first.Agrees second)
    (guide : Guide σ α) : first.outcome guide = second.outcome guide := by
  rw [Held.outcome, Held.outcome, h.1]

theorem agrees_of_next (guide : Guide σ α) {first second : Turn σ α}
    (h : first.next = second.next) (answers : List String) :
    (hold guide first answers).Agrees (hold guide second answers) := by
  rw [hold_congr guide h]
  exact ⟨rfl, rfl⟩

/-! Answers bring an interview to a turn if it goes on from there, whatever follows them. -/

def Brings (guide : Guide σ α) (turn : Turn σ α) (answers : List String) (later : Turn σ α) :
    Prop :=
  ∀ rest, (hold guide turn (answers ++ rest)).Agrees (hold guide later rest)

theorem Brings.nothing (guide : Guide σ α) {turn later : Turn σ α}
    (h : turn.next = later.next) : Brings guide turn [] later :=
  fun rest => agrees_of_next guide h rest

theorem Brings.ask {guide : Guide σ α} {turn later : Turn σ α} {question : σ}
    (h : turn.next = .ask question) {text : String} {answers : List String}
    (hrest : Brings guide (guide.answer question (trimmed text)) answers later) :
    Brings guide turn (text :: answers) later := by
  intro rest
  rw [List.cons_append, hold_ask_cons guide h]
  exact hrest rest

theorem Brings.answer {guide : Guide σ α} {turn later : Turn σ α} {question : σ}
    (h : turn.next = .ask question) {text : String}
    (hlater : (guide.answer question (trimmed text)).next = later.next) :
    Brings guide turn [text] later :=
  Brings.ask h (Brings.nothing guide hlater)

theorem Brings.of_open {guide : Guide σ α} {turn : Turn σ α} {answers : List String}
    {question : σ} (h : (hold guide turn answers).next = .ask question) :
    Brings guide turn answers (.ask question) := by
  fun_induction hold guide turn answers with
  | case1 turn answers result hnext => cases h
  | case2 turn first hnext =>
      cases h
      exact Brings.nothing guide hnext
  | case3 turn first text answers hnext ih => exact Brings.ask hnext (ih h)

/-! What is given instead of an answer may depend on the exchanges that come later. -/

abbrev Rewriting (σ : Type) := Exchange σ → List (Exchange σ) → List String

def rewritten (rewrite : Rewriting σ) : List (Exchange σ) → List String
  | [] => []
  | exchange :: later => rewrite exchange later ++ rewritten rewrite later

theorem rewritten_same (log : List (Exchange σ)) :
    rewritten (fun exchange _ => [exchange.answer]) log = log.map (·.answer) := by
  induction log with
  | nil => rfl
  | cons exchange later ih => exact congrArg (exchange.answer :: ·) ih

theorem rewritten_filter (drops : Exchange σ → Bool) (log : List (Exchange σ)) :
    rewritten (fun exchange _ => if drops exchange then [] else [exchange.answer]) log =
      (log.filter (!drops ·)).map (·.answer) := by
  induction log with
  | nil => rfl
  | cons exchange later ih => cases hdrops : drops exchange <;> simp [rewritten, hdrops, ih]

/-- A rewriting carries one guide over to another if two interviews that are abreast, under the
exchanges still to come, are abreast again after the next exchange and what is given for it. -/
structure Carries (rewrite : Rewriting σ) (guide other : Guide σ α)
    (abreast : Turn σ α → Turn σ α → List (Exchange σ) → Prop) : Prop where
  stop : ∀ first second, abreast first second [] → first.next = second.next
  step : ∀ first second question text later,
    abreast first second (⟨question, text⟩ :: later) → first.next = .ask question →
      ∃ third, Brings other second (rewrite ⟨question, text⟩ later) third ∧
        abreast (guide.answer question (trimmed text)) third later

/-- Interviews that are abreast come to the same point, one on the answers and the other one on
what they are rewritten to. -/
theorem Carries.hold_agrees {rewrite : Rewriting σ} {guide other : Guide σ α}
    {abreast : Turn σ α → Turn σ α → List (Exchange σ) → Prop}
    (carries : Carries rewrite guide other abreast) {first second : Turn σ α}
    {answers : List String} (h : abreast first second (exchanges guide first answers)) :
    (hold other second
      (rewritten rewrite (exchanges guide first answers) ++
        (hold guide first answers).left)).Agrees (hold guide first answers) := by
  fun_induction hold guide first answers generalizing second with
  | case1 first answers result hnext =>
      rw [exchanges_finish guide hnext] at h ⊢
      have hsecond := (carries.stop first second h).symm.trans hnext
      rw [rewritten, List.nil_append, hold_finish other hsecond]
      exact ⟨rfl, rfl⟩
  | case2 first question hnext =>
      have hsecond := (carries.stop first second h).symm.trans hnext
      rw [exchanges, rewritten, List.nil_append, hold_ask_nil other hsecond]
      exact ⟨rfl, rfl⟩
  | case3 first question text rest hnext ih =>
      rw [exchanges_ask guide hnext] at h ⊢
      obtain ⟨third, hbrings, hthird⟩ := carries.step first second question text _ h hnext
      rw [rewritten, List.append_assoc]
      exact (hbrings _).trans (ih hthird)

/-! A run over scripted answers is made of its exchanges, and a rewriting of them is run as well. -/

theorem converse_exchanges (guide : Guide σ α) (turn : Turn σ α) (answers : List String) :
    let run := converse guide turn ({ answers } : Scripted)
    answers = (exchanges guide turn answers).map (·.answer) ++ run.2.answers ∧
      prompts guide turn ({ answers } : Scripted) =
        (exchanges guide turn answers).map (guide.wording ·.question) ++ unanswered run.1 := by
  intro run
  obtain ⟨hresult, hprompts, hleft⟩ := Scripted.converse_eq_hold guide turn { answers }
  rw [hleft, hprompts, hresult]
  exact ⟨answers_eq_exchanges guide turn answers, prompts_eq_exchanges guide turn answers⟩

theorem Carries.converse {rewrite : Rewriting σ} {guide other : Guide σ α}
    {abreast : Turn σ α → Turn σ α → List (Exchange σ) → Prop}
    (carries : Carries rewrite guide other abreast) (hwording : other.wording = guide.wording)
    (first second : Turn σ α) (answers : List String)
    (h : abreast first second (exchanges guide first answers)) :
    let run := Answers.converse guide first ({ answers } : Scripted)
    let given := rewritten rewrite (exchanges guide first answers) ++ run.2.answers
    let again := Answers.converse other second ({ answers := given } : Scripted)
    again.1 = run.1 ∧ again.2.answers = run.2.answers := by
  intro run given again
  obtain ⟨hresult, -, hleft⟩ := Scripted.converse_eq_hold guide first { answers }
  obtain ⟨hagain, -, hagainLeft⟩ := Scripted.converse_eq_hold other second { answers := given }
  obtain ⟨hnext, hsame⟩ := carries.hold_agrees h
  rw [← hleft] at hnext hsame
  rw [hagain, hresult, hagainLeft, Held.outcome, hnext, hsame, Held.outcome, hwording, hleft]
  exact ⟨rfl, rfl⟩

/-! What a question demands of its answer: that there is one, and where a menu is shown, that it is
a choice. An answer that does not meet the demand is rejected, and the question is asked again. -/

inductive MenuKind
  | category
  | action
  | assertion
  deriving DecidableEq, Repr

def MenuKind.misses : MenuKind → String → Bool
  | category => categoryMenu.misses
  | action => actionMenu.misses
  | assertion => assertionMenu.misses

structure Demand where
  required : Bool := false
  menu? : Option MenuKind := none
  deriving DecidableEq, Repr

namespace Demand

def unrecognized (demand : Demand) (text : String) : Bool :=
  demand.menu?.any (·.misses text)

def rejects (demand : Demand) (options : Options) (text : String) : Bool :=
  (demand.required && blank text) || (options.strictMenus && demand.unrecognized text)

theorem rejects_iff (demand : Demand) (options : Options) (text : String) :
    demand.rejects options text = true ↔
      (demand.required = true ∧ blank text = true) ∨
        (options.strictMenus = true ∧ demand.unrecognized text = true) := by
  simp [rejects]

/-- Where no menu is shown, only a blank answer may be rejected. -/
theorem rejects_open (required : Bool) (options : Options) (text : String) :
    ({ required } : Demand).rejects options text = (required && blank text) := by
  simp [rejects, unrecognized]

end Demand

namespace StepQuestion

def demand : StepQuestion → Demand
  | description _ => {}
  | action _ => { required := true, menu? := some .action }
  | field _ .assertion => { required := true, menu? := some .assertion }
  | field _ _ => { required := true }
  | accessibleName _ _ => {}

theorem chooseAction_rejected {options : Options} {described text : String}
    (h : (action described).demand.rejects options text = true) :
    (chooseAction options described (trimmed text)).next = .ask (.action described) := by
  rcases (Demand.rejects_iff _ _ _).mp h with ⟨-, hblank⟩ | ⟨hstrict, hmisses⟩
  · simp [chooseAction, Menu.parse_trimmed, Menu.parse_of_blank _ hblank, Turn.retry]
  · have hparse := actionMenu.misses_iff.mp hmisses
    simp [chooseAction, Menu.parse_trimmed, hparse, hstrict, Turn.retry]

theorem chooseAssertion_rejected {options : Options} {draft : Draft} {text : String}
    (h : (field draft .assertion).demand.rejects options text = true) :
    (chooseAssertion options draft (trimmed text)).next = .ask (.field draft .assertion) := by
  rcases (Demand.rejects_iff _ _ _).mp h with ⟨-, hblank⟩ | ⟨hstrict, hmisses⟩
  · simp [chooseAssertion, Menu.parse_trimmed, Menu.parse_of_blank _ hblank, askAgain, Turn.ask,
      Turn.after]
  · have hparse := assertionMenu.misses_iff.mp hmisses
    simp [chooseAssertion, Menu.parse_trimmed, hparse, hstrict, askAgain, Turn.ask, Turn.after]

theorem unlessEmpty_blank (draft : Draft) (missing : StepField) {text : String}
    (h : blank text = true) (filled : StepTurn) :
    (unlessEmpty draft missing (trimmed text) filled).next = .ask (.field draft missing) := by
  simp [unlessEmpty, (trimmed_eq_empty_iff text).mpr h, askAgain, Turn.ask, Turn.after]

theorem fillField_text (options : Options) (draft : Draft) {missing : StepField}
    (h : missing ≠ .assertion) (text : String) :
    ∃ filled, fillField options draft missing text = unlessEmpty draft missing text filled := by
  cases missing with
  | assertion => exact absurd rfl h
  | targetRole => exact ⟨fillRole draft text, rfl⟩
  | _ => exact ⟨proceed (draft.filled text _), rfl⟩

theorem demand_text (draft : Draft) {missing : StepField} (h : missing ≠ .assertion) :
    (field draft missing).demand = { required := true } := by
  cases missing <;> first | rfl | exact absurd rfl h

theorem answer_rejected {options : Options} {question : StepQuestion} {text : String}
    (h : question.demand.rejects options text = true) :
    (question.answer options (trimmed text)).next = .ask question := by
  cases question with
  | description number => simp [demand, Demand.rejects_open] at h
  | action described =>
      rw [answer]
      exact chooseAction_rejected h
  | field draft missing =>
      rw [answer]
      by_cases hmissing : missing = .assertion
      · subst hmissing
        rw [fillField]
        exact chooseAssertion_rejected h
      · rw [demand_text draft hmissing, Demand.rejects_open, Bool.true_and] at h
        obtain ⟨filled, hfilled⟩ := fillField_text options draft hmissing (trimmed text)
        rw [hfilled, unlessEmpty_blank draft missing h filled]
  | accessibleName draft role => simp [demand, Demand.rejects_open] at h

end StepQuestion

namespace CaseQuestion

def demand : CaseQuestion → Demand
  | title _ => {}
  | objective _ => { required := true }
  | step _ _ _ question => question.demand

theorem answer_rejected {options : Options} {question : CaseQuestion} {text : String}
    (h : question.demand.rejects options text = true) :
    (question.answer options (trimmed text)).next = .ask question := by
  cases question with
  | title number => simp [demand, Demand.rejects_open] at h
  | objective named =>
      rw [demand, Demand.rejects_open, Bool.true_and] at h
      simp [answer, (trimmed_eq_empty_iff text).mpr h, Turn.retry]
  | step named aim done question =>
      simp only [answer, Turn.next_within, StepQuestion.answer_rejected h]

theorem next_askStep (named aim : String) (done : List Step) :
    (askStep named aim done).next =
      .ask (.step named aim done (.description (done.length + 1))) := rfl

end CaseQuestion

def HeaderField.demand : HeaderField → Demand
  | category => { menu? := some .category }
  | additionalSetup => {}
  | _ => { required := true }

namespace SuiteQuestion

def demand : SuiteQuestion → Demand
  | header _ field => field.demand
  | case _ question => question.demand

theorem chooseCategory_rejected {options : Options} {suite : Suite} {text : String}
    (h : HeaderField.category.demand.rejects options text = true) :
    (chooseCategory options suite (trimmed text)).next = .ask (.header suite .category) := by
  rcases (Demand.rejects_iff _ _ _).mp h with ⟨hrequired, -⟩ | ⟨hstrict, hmisses⟩
  · cases hrequired
  · have hparse := categoryMenu.misses_iff.mp hmisses
    simp [chooseCategory, Menu.parse_trimmed, hparse, hstrict, Turn.retry]

theorem fillHeader_rejected {options : Options} {suite : Suite} {field : HeaderField}
    {text : String} (h : field.demand.rejects options text = true) :
    (fillHeader options suite field (trimmed text)).next = .ask (.header suite field) := by
  cases field with
  | category =>
      rw [fillHeader]
      exact chooseCategory_rejected h
  | additionalSetup => simp [HeaderField.demand, Demand.rejects_open] at h
  | _ =>
      simp only [HeaderField.demand, Demand.rejects_open, Bool.true_and] at h
      simp [fillHeader, (trimmed_eq_empty_iff text).mpr h, Turn.retry]

/-- After a rejected answer the same question is open. -/
theorem answer_rejected {options : Options} {question : SuiteQuestion} {text : String}
    (h : question.demand.rejects options text = true) :
    (question.answer options (trimmed text)).next = .ask question := by
  cases question with
  | header suite field => exact fillHeader_rejected h
  | case suite question =>
      simp only [answer, Turn.next_within, CaseQuestion.answer_rejected h]

/-! A rejected answer is as good as none. -/

theorem carries_kept (options : Options) :
    Carries
      (fun exchange _ =>
        if exchange.question.demand.rejects options exchange.answer then []
        else [exchange.answer])
      (guide options) (guide options) (fun first second _ => first.next = second.next) where
  stop _ _ h := h
  step first second question text later h hnext := by
    have hsecond : second.next = .ask question := h.symm.trans hnext
    cases hrejects : question.demand.rejects options text with
    | true =>
        have hagain : ((guide options).answer question (trimmed text)).next = .ask question :=
          answer_rejected hrejects
        refine ⟨second, ?_, hagain.trans hsecond.symm⟩
        rw [if_pos rfl]
        exact Brings.nothing _ rfl
    | false =>
        refine ⟨(guide options).answer question (trimmed text), ?_, rfl⟩
        rw [if_neg (by simp)]
        exact Brings.answer hsecond rfl

/-! Some prompts may be left blank. What they stand for is then absent or takes its default, or
what is being told ends. -/

inductive Skippable : SuiteQuestion → Prop
  | category (suite : Suite) : Skippable (header suite .category)
  | additionalSetup (suite : Suite) : Skippable (header suite .additionalSetup)
  | title (suite : Suite) (number : Nat) : Skippable (case suite (.title number))
  | description (suite : Suite) (named aim : String) (done : List Step) (number : Nat) :
      Skippable (case suite (.step named aim done (.description number)))
  | accessibleName (suite : Suite) (named aim : String) (done : List Step) (draft : Draft)
      (role : String) :
      Skippable (case suite (.step named aim done (.accessibleName draft role)))

theorem next_askCase (suite : Suite) :
    (askCase suite).next = .ask (case suite (.title (suite.testCases.length + 1))) := rfl

theorem proceed_next_ne (draft other : Draft) (role : String) :
    (StepQuestion.proceed draft).next ≠ .ask (.accessibleName other role) := by
  cases hencode : draft.encode with
  | ok step => simp [StepQuestion.proceed, hencode]
  | error missing => simp [StepQuestion.proceed, hencode, Turn.after, Turn.ask]

/-- However the step goes on, its accessible name is not asked for once more. -/
theorem answer_accessibleName_ne (options : Options) (suite : Suite) (named aim : String)
    (done : List Step) (draft : Draft) (role text : String) :
    let question := case suite (.step named aim done (.accessibleName draft role))
    ((guide options).answer question text).next ≠ .ask question := by
  intro question
  let described : Draft := { draft with role := some role, name := some text }
  have hanswer :
      (guide options).answer question text =
        ((StepQuestion.proceed described).within (.step named aim done)
          (CaseQuestion.continueCase named aim done)).within (.case suite)
          (continueSuite suite) := rfl
  rw [hanswer, Turn.next_within, Turn.next_within]
  cases hnext : (StepQuestion.proceed described).next with
  | ask other =>
      have hother : other ≠ .accessibleName draft role := by
        rintro rfl
        exact proceed_next_ne described draft role hnext
      simpa [question] using hother
  | finish result =>
      cases result with
      | none =>
          simp [question, CaseQuestion.continueCase, continueSuite, Turn.finish, Turn.after,
            next_askCase]
      | some last =>
          have hstep := CaseQuestion.next_askStep named aim (done ++ [last])
          simp [question, CaseQuestion.continueCase, hstep]

theorem Skippable.blank_accepted {question : SuiteQuestion} (h : question.Skippable)
    (options : Options) {text : String} (hblank : blank text = true) :
    question.demand.rejects options text = false ∧
      ((guide options).answer question (trimmed text)).next ≠ .ask question := by
  rw [(trimmed_eq_empty_iff text).mpr hblank]
  cases h with
  | category suite =>
      have hnext :
          ((guide options).answer (header suite .category) "").next =
            .ask (header { suite with category := default } .describeTitle) := rfl
      refine ⟨?_, by simp [hnext]⟩
      simp [demand, HeaderField.demand, Demand.rejects, Demand.unrecognized, MenuKind.misses,
        Menu.misses_of_blank _ hblank]
  | accessibleName suite named aim done draft role =>
      exact ⟨Demand.rejects_open false options text,
        answer_accessibleName_ne options suite named aim done draft role ""⟩
  | additionalSetup suite =>
      have hnext :
          ((guide options).answer (header suite .additionalSetup) "").next =
            (askCase { suite with additionalSetup := none }).next := rfl
      exact ⟨Demand.rejects_open false options text, by simp [hnext, next_askCase]⟩
  | title suite number =>
      have hnext :
          ((guide options).answer (case suite (.title number)) "").next = .finish suite := rfl
      exact ⟨Demand.rejects_open false options text, by simp [hnext]⟩
  | description suite named aim done number =>
      have hnext :
          ((guide options).answer (case suite (.step named aim done (.description number)))
              "").next =
            (askCase { suite with testCases := suite.testCases ++ [⟨named, aim, done⟩] }).next :=
        rfl
      exact ⟨Demand.rejects_open false options text, by simp [hnext, next_askCase]⟩

/-- Rejected answers leave no trace. Given once more without them, the answers that were taken are
taken again, and with the rest still unread the run comes to the same end: the same suite, or input
that closes under the same prompt. What may be left blank is never rejected. -/
theorem rejected_without_trace (options : Options) (opening : SuiteTurn) (answers : List String) :
    let run := converse (guide options) opening ({ answers } : Scripted)
    let log := exchanges (guide options) opening answers
    let kept := log.filter fun exchange =>
      !exchange.question.demand.rejects options exchange.answer
    let again := converse (guide options) opening
      ({ answers := kept.map (·.answer) ++ run.2.answers } : Scripted)
    answers = log.map (·.answer) ++ run.2.answers ∧
      prompts (guide options) opening ({ answers } : Scripted) =
        log.map (·.question.wording) ++ unanswered run.1 ∧
      Settled run.1 ∧ again.1 = run.1 ∧ again.2.answers = run.2.answers ∧
      ∀ question : SuiteQuestion, question.Skippable → ∀ text, blank text = true →
        question.demand.rejects options text = false ∧
          ((guide options).answer question (trimmed text)).next ≠ .ask question := by
  intro run log kept again
  obtain ⟨hanswers, hprompts⟩ := converse_exchanges (guide options) opening answers
  obtain ⟨hresult, hleft⟩ := (carries_kept options).converse rfl opening opening answers rfl
  rw [rewritten_filter] at hresult hleft
  exact ⟨hanswers, hprompts, Scripted.settled_converse _ _ _, hresult, hleft,
    fun question hskippable text hblank => hskippable.blank_accepted options hblank⟩

/-- Blank answers at every kind of prompt, and choices that no menu knows. -/
def stubbornAnswers : List String :=
  ["", "Login", "login", " ", "http://localhost:3000", "smoke", " ", "Login page", "", "/login", "",
   "signs in", "\t", "the form works", "greeted", "", "hover", "3", " ", "gone", "1", "", "heading",
   "", "next", "done", "unread"]

def stubbornKept : List String :=
  ["Login", "login", "http://localhost:3000", " ", "Login page", "/login", "", "signs in",
   "the form works", "greeted", "3", "1", "heading", "", "next", "done"]

def stubbornSuite : Suite :=
  { featureName := "Login", fileBaseName := "login", baseUrl := "http://localhost:3000"
    category := .functional, describeTitle := "Login page", initialPath := "/login"
    additionalSetup := none
    testCases :=
      [{ title := "signs in", objective := "the form works"
         steps := [⟨"greeted", .verify (.visible ⟨"heading", ""⟩)⟩] }] }

theorem rejected_without_trace_stubborn :
    let strict : Options := { strictMenus := true }
    let run := converse (guide strict) session
      ({ answers := stubbornKept ++ ["unread"] } : Scripted)
    run.1 = .ok stubbornSuite ∧ run.2.answers = ["unread"] ∧
      (header blankSuite .category).Skippable ∧ blank " " = true ∧
      (header blankSuite .category).demand.rejects strict " " = false := by
  intro strict run
  obtain ⟨hcollected, -, hunread⟩ :=
    Scripted.converse_eq_hold (guide strict) session { answers := stubbornAnswers }
  obtain ⟨-, -, -, hresult, hleft, hskippable⟩ :=
    rejected_without_trace strict session stubbornAnswers
  have hkept :
      ((exchanges (guide strict) session stubbornAnswers).filter fun exchange =>
        !exchange.question.demand.rejects strict exchange.answer).map (·.answer) =
        stubbornKept := rfl
  have hblank : blank " " = true := by decide
  rw [hkept, hunread] at hresult hleft
  exact ⟨hresult.trans (hcollected.trans rfl), hleft, .category _, hblank,
    (hskippable _ (.category _) " " hblank).1⟩

end SuiteQuestion

end SuiteScribe.Interview
