import SuiteScribe.Proofs.Interview.Clear
import SuiteScribe.Proofs.Interview.Rejection
import SuiteScribe.Proofs.Interview.Telling

namespace SuiteScribe.Interview

open Answers Text

/-! Lenient menus are a shorthand. What is answered beside a menu is spelled out under strict ones:
as a blank category, or as the choice of a custom step and its statement. -/

/-- A choice to verify is withdrawn if an assertion is then asked for and none is chosen: after
blank answers, if any, the answer is none of the menu. -/
def withdrawn : List (Exchange SuiteQuestion) → Bool
  | [] => false
  | exchange :: later =>
      exchange.question.demand.menu? == some .assertion &&
        (assertionMenu.misses exchange.answer || (blank exchange.answer && withdrawn later))

/-- The number of custom steps in the menu of actions. -/
def customChoice : String := "6"

def MenuKind.spelled (text : String) (withdrawn : Bool) : MenuKind → List String
  | category => if categoryMenu.misses text then [""] else [text]
  | action =>
      if actionMenu.misses text then [customChoice, text]
      else if actionMenu.parse text = .selected .verify ∧ withdrawn then [customChoice]
      else [text]
  | assertion => if blank text && withdrawn then [] else [text]

/-- What is given under strict menus for an answer under lenient ones. -/
def spelled : Rewriting SuiteQuestion := fun exchange later =>
  match exchange.question.demand.menu? with
  | none => [exchange.answer]
  | some kind => kind.spelled exchange.answer (withdrawn later)

theorem spelled_open {question : SuiteQuestion} (h : question.demand.menu? = none)
    (text : String) (later : List (Exchange SuiteQuestion)) :
    spelled ⟨question, text⟩ later = [text] := by
  simp [spelled, h]

theorem spelled_menu {question : SuiteQuestion} (kind : MenuKind)
    (h : question.demand.menu? = some kind) (text : String)
    (later : List (Exchange SuiteQuestion)) :
    spelled ⟨question, text⟩ later = kind.spelled text (withdrawn later) := by
  simp [spelled, h]

def Options.lenient : Options := {}

def Options.strict : Options := { strictMenus := true }

/-! The options of menus matter only to an answer beside a menu. -/

namespace StepQuestion

theorem answer_congr {question : StepQuestion} {text : String}
    (h : question.demand.unrecognized text = false) (options other : Options) :
    question.answer options (trimmed text) = question.answer other (trimmed text) := by
  cases question with
  | description number => rfl
  | accessibleName draft role => rfl
  | action described =>
      have hknown : actionMenu.misses text = false := h
      rw [answer, answer, chooseAction, chooseAction, Menu.parse_trimmed]
      obtain ⟨kind, hparse⟩ | hparse := actionMenu.parse_of_known hknown <;> rw [hparse]
  | field draft missing =>
      cases missing with
      | assertion =>
          have hknown : assertionMenu.misses text = false := h
          rw [answer, answer, fillField, fillField, chooseAssertion, chooseAssertion,
            Menu.parse_trimmed]
          obtain ⟨kind, hparse⟩ | hparse := assertionMenu.parse_of_known hknown <;> rw [hparse]
      | _ => rfl

end StepQuestion

theorem CaseQuestion.answer_congr {question : CaseQuestion} {text : String}
    (h : question.demand.unrecognized text = false) (options other : Options) :
    question.answer options (trimmed text) = question.answer other (trimmed text) := by
  cases question with
  | title number => rfl
  | objective named => rfl
  | step named aim done question =>
      rw [answer, answer, StepQuestion.answer_congr h options other]

namespace SuiteQuestion

theorem answer_congr {question : SuiteQuestion} {text : String}
    (h : question.demand.unrecognized text = false) (options other : Options) :
    question.answer options (trimmed text) = question.answer other (trimmed text) := by
  cases question with
  | header suite field =>
      cases field with
      | category =>
          have hknown : categoryMenu.misses text = false := h
          rw [answer, answer, fillHeader, fillHeader, chooseCategory, chooseCategory,
            Menu.parse_trimmed]
          obtain ⟨kind, hparse⟩ | hparse := categoryMenu.parse_of_known hknown <;> rw [hparse]
      | _ => rfl
  | case suite question => rw [answer, answer, CaseQuestion.answer_congr h options other]

theorem carries_recognized (options other : Options) :
    Carries (fun exchange _ => [exchange.answer]) (guide options) (guide other)
      fun first second log =>
        first.next = second.next ∧
          ∀ exchange ∈ log, exchange.question.demand.unrecognized exchange.answer = false where
  stop _ _ h := h.1
  step first second question text later h hnext := by
    obtain ⟨hrecognized, hlater⟩ := List.forall_mem_cons.mp h.2
    have hsame : (guide options).answer question (trimmed text) =
        (guide other).answer question (trimmed text) := answer_congr hrecognized options other
    exact ⟨(guide other).answer question (trimmed text),
      Brings.answer (h.1.symm.trans hnext) rfl, congrArg Turn.next hsame, hlater⟩

/-- Where no answer is beside a menu, a run comes to the same end under all options. -/
theorem recognized_agree (options other : Options) (opening : SuiteTurn) {answers : List String}
    (h : ∀ exchange ∈ exchanges (guide options) opening answers,
      exchange.question.demand.unrecognized exchange.answer = false) :
    let one := converse (guide options) opening ({ answers } : Scripted)
    let another := converse (guide other) opening ({ answers } : Scripted)
    another.1 = one.1 ∧ another.2.answers = one.2.answers := by
  obtain ⟨hresult, hleft⟩ :=
    (carries_recognized options other).converse rfl opening opening answers ⟨rfl, h⟩
  rw [rewritten_same, ← (converse_exchanges (guide options) opening answers).1] at hresult hleft
  exact ⟨hresult, hleft⟩

end SuiteQuestion

/-! The answers that the shorthand is about, and what stands for them. -/

namespace StepQuestion

variable {described text : String}

def verifying (described : String) : StepQuestion :=
  field { description := described, kind := .verify } .assertion

def stating (described : String) : StepQuestion :=
  field { description := described, kind := .custom } .customStatement

def stated (described statement : String) : Draft :=
  { description := described, kind := .custom, customStatement := some statement }

theorem proceed_verify (h : Filled described) :
    (proceed { description := described, kind := .verify }).next = .ask (verifying described) := by
  have hencode : Draft.encode { description := described, kind := .verify } = .error .assertion :=
    Draft.encode_eq_error_of_action h rfl
  simp [proceed, hencode, Turn.after, Turn.ask, verifying]

theorem proceed_custom (h : Filled described) :
    (proceed { description := described, kind := .custom }).next = .ask (stating described) := by
  have hencode :
      Draft.encode { description := described, kind := .custom } = .error .customStatement :=
    Draft.encode_eq_error_of_action h rfl
  simp [proceed, hencode, Turn.after, Turn.ask, stating]

theorem parse_customChoice : actionMenu.parse customChoice = .selected .custom := by
  have hnumeral : actionMenu.numeral .custom = customChoice := by decide
  rw [← hnumeral, parse_actionMenu]

theorem answer_customChoice (options : Options) (h : Filled described) :
    (answer options (action described) (trimmed customChoice)).next = .ask (stating described) := by
  rw [answer, chooseAction, Menu.parse_trimmed, parse_customChoice]
  exact proceed_custom h

theorem answer_verify (options : Options) (h : Filled described)
    (hparse : actionMenu.parse text = .selected .verify) :
    (answer options (action described) (trimmed text)).next = .ask (verifying described) := by
  rw [answer, chooseAction, Menu.parse_trimmed, hparse]
  exact proceed_verify h

theorem answer_stating (options : Options) (described : String) (h : blank text = false) :
    answer options (stating described) (trimmed text) =
      proceed (stated described (trimmed text)) := by
  rw [stating, answer, fillField, unlessEmpty_filled _ _ (filled_trimmed h)]
  · rfl
  all_goals simp

theorem answer_action_missed (described : String) (h : actionMenu.misses text = true) :
    (answer .lenient (action described) (trimmed text)).next =
      (proceed (stated described (trimmed text))).next := by
  rw [answer, chooseAction, Menu.parse_trimmed, actionMenu.misses_iff.mp h]
  rfl

theorem answer_verifying_missed (described : String) (h : assertionMenu.misses text = true) :
    (answer .lenient (verifying described) (trimmed text)).next =
      (proceed (stated described (trimmed text))).next := by
  rw [verifying, answer, fillField, chooseAssertion, Menu.parse_trimmed,
    assertionMenu.misses_iff.mp h]
  rfl

theorem stated_decided (described statement : String) :
    Draft.Decided (stated described statement) := nofun

end StepQuestion

namespace SuiteQuestion

/-! The lenient interview and the strict one on what is spelled out of its answers. They stand at
the same question, or at two questions about the same custom step. -/

inductive Abreast (first second : SuiteTurn) (log : List (Exchange SuiteQuestion)) : Prop
  | together (hsame : first.next = second.next) (hclear : second.Leads Clear fun _ => True)
  -- Both ask for the assertion, and one will be chosen or the answers run out.
  | choosing (place : StepPlace) (described : String)
      (hfirst : first.next = .ask (place.question (.verifying described)))
      (hsecond : second.next = .ask (place.question (.verifying described)))
      (hkept : withdrawn log = false)
  -- The choice to verify is going to be withdrawn, so the strict one was never told of it.
  | stating (place : StepPlace) (described : String)
      (hfirst : first.next = .ask (place.question (.verifying described)))
      (hsecond : second.next = .ask (place.question (.stating described)))
      (hwithdrawn : withdrawn log = true)

variable {second : SuiteTurn} {text : String} {later : List (Exchange SuiteQuestion)}

/-- What is given for one answer brings the strict interview to where it is abreast again. -/
def Follows (second : SuiteTurn) (question : SuiteQuestion) (text : String)
    (later : List (Exchange SuiteQuestion)) : Prop :=
  ∃ third, Brings (guide .strict) second (spelled ⟨question, text⟩ later) third ∧
    Abreast ((guide .lenient).answer question (trimmed text)) third later

theorem follows_same {question : SuiteQuestion} (hsecond : second.next = .ask question)
    (hclear : question.Clear) (hrecognized : question.demand.unrecognized text = false)
    (hspelled : spelled ⟨question, text⟩ later = [text])
    (hverify : ∀ place described, question = StepPlace.question place (.action described) →
      actionMenu.parse text ≠ .selected .verify) : Follows second question text later := by
  have hsame : (guide .lenient).answer question (trimmed text) =
      (guide .strict).answer question (trimmed text) := answer_congr hrecognized .lenient .strict
  refine ⟨(guide .strict).answer question (trimmed text), ?_,
    .together (congrArg Turn.next hsame) (answer_clear .strict hclear (trimmed_trimmed text) ?_)⟩
  · rw [hspelled]
    exact Brings.answer hsecond rfl
  · rw [Menu.parse_trimmed]
    exact hverify

theorem follows_open {question : SuiteQuestion} (hsecond : second.next = .ask question)
    (hclear : question.Clear) (hopen : question.demand.menu? = none) :
    Follows second question text later := by
  refine follows_same hsecond hclear ?_ (spelled_open hopen text later) ?_
  · rw [Demand.unrecognized, hopen]
    rfl
  · rintro place described rfl
    cases hopen

theorem follows_category (suite : Suite)
    (hsecond : second.next = .ask (header suite .category)) :
    Follows second (header suite .category) text later := by
  have hspelled : spelled ⟨header suite .category, text⟩ later =
      if categoryMenu.misses text then [""] else [text] :=
    spelled_menu .category rfl text later
  by_cases hmisses : categoryMenu.misses text = true
  · have hdefault : categoryMenu.parse "" = .empty := rfl
    refine ⟨(guide .strict).answer (header suite .category) (trimmed ""), ?_, .together ?_ ?_⟩
    · rw [hspelled, if_pos hmisses]
      exact Brings.answer hsecond rfl
    · change (chooseCategory .lenient suite (trimmed text)).next =
        (chooseCategory .strict suite (trimmed "")).next
      rw [chooseCategory, chooseCategory, Menu.parse_trimmed, Menu.parse_trimmed,
        categoryMenu.misses_iff.mp hmisses, hdefault]
      rfl
    · exact fillHeader_clear .strict suite .category (trimmed "")
  · have hrecognized : (header suite .category).demand.unrecognized text = false :=
      Bool.eq_false_iff.mpr hmisses
    refine follows_same hsecond trivial hrecognized (hspelled.trans (if_neg hmisses)) ?_
    intro place described hquestion
    cases hquestion

/-- Where a custom step is stated, a statement that stands beside a menu completes it. -/
theorem brings_stated (place : StepPlace) (described : String)
    (hsecond : second.next = .ask (place.question (.stating described)))
    (hfilled : blank text = false) :
    Brings (guide .strict) second [text]
      (place.within (StepQuestion.proceed (StepQuestion.stated described (trimmed text)))) := by
  refine Brings.answer hsecond ?_
  rw [StepPlace.answer_question, StepQuestion.answer_stating .strict described hfilled]

theorem stated_clear (place : StepPlace) (described statement : String) :
    (place.within (StepQuestion.proceed (StepQuestion.stated described statement))).Leads Clear
      fun _ => True :=
  within_clear place (StepQuestion.proceed_clear (StepQuestion.stated_decided described statement))

theorem follows_action (place : StepPlace) (described : String)
    (hsecond : second.next = .ask (place.question (.action described)))
    (hfilled : Filled described) :
    Follows second (place.question (.action described)) text later := by
  have hspelled : spelled ⟨place.question (.action described), text⟩ later =
      MenuKind.action.spelled text (withdrawn later) := spelled_menu .action rfl text later
  rw [MenuKind.spelled] at hspelled
  have hcustom :
      ((guide .strict).answer (place.question (.action described)) (trimmed customChoice)).next =
        .ask (place.question (.stating described)) :=
    place.next_within_ask (StepQuestion.answer_customChoice .strict hfilled)
  by_cases hmisses : actionMenu.misses text = true
  · have hstatement : blank text = false := actionMenu.not_blank_of_misses hmisses
    refine ⟨_, ?_, .together ?_ (stated_clear place described (trimmed text))⟩
    · rw [hspelled, if_pos hmisses]
      exact Brings.ask hsecond (brings_stated place described hcustom hstatement)
    · rw [StepPlace.answer_question]
      exact place.next_within_congr (StepQuestion.answer_action_missed described hmisses)
  · rw [if_neg hmisses] at hspelled
    by_cases hverify : actionMenu.parse text = .selected .verify
    · have hasked (options : Options) :=
        place.next_within_ask (StepQuestion.answer_verify options hfilled hverify)
      cases hlater : withdrawn later with
      | true =>
          refine ⟨.ask (place.question (.stating described)), ?_,
            .stating place described (hasked .lenient) rfl hlater⟩
          rw [hspelled, if_pos ⟨hverify, hlater⟩]
          exact Brings.answer hsecond hcustom
      | false =>
          refine ⟨(guide .strict).answer (place.question (.action described)) (trimmed text), ?_,
            .choosing place described (hasked .lenient) (hasked .strict) hlater⟩
          rw [hspelled, if_neg (by simp [hlater])]
          exact Brings.answer hsecond rfl
    · have hrecognized :
          (place.question (.action described)).demand.unrecognized text = false :=
        Bool.eq_false_iff.mpr hmisses
      exact follows_same hsecond hfilled hrecognized
        (hspelled.trans (if_neg fun h => hverify h.1)) fun _ _ _ => hverify

theorem withdrawn_cons (place : StepPlace) (described text : String)
    (later : List (Exchange SuiteQuestion)) :
    withdrawn (⟨place.question (.verifying described), text⟩ :: later) =
      (assertionMenu.misses text || (blank text && withdrawn later)) := rfl

theorem spelled_verifying (place : StepPlace) (described text : String)
    (later : List (Exchange SuiteQuestion)) :
    spelled ⟨place.question (.verifying described), text⟩ later =
      if blank text && withdrawn later then [] else [text] :=
  spelled_menu .assertion rfl text later

/-- Nothing comes of a blank answer where an assertion is asked for. -/
theorem answer_verifying_blank (options : Options) (place : StepPlace) (described : String)
    (h : blank text = true) :
    ((guide options).answer (place.question (.verifying described)) (trimmed text)).next =
      .ask (place.question (.verifying described)) := by
  have hrejects :
      (place.question (.verifying described)).demand.rejects options text = true :=
    (Demand.rejects_iff _ _ _).mpr (.inl ⟨rfl, h⟩)
  have hagain := answer_rejected hrejects
  exact hagain

theorem follows_choosing (place : StepPlace) (described : String)
    (hsecond : second.next = .ask (place.question (.verifying described)))
    (hkept : withdrawn (⟨place.question (.verifying described), text⟩ :: later) = false) :
    Follows second (place.question (.verifying described)) text later := by
  rw [withdrawn_cons, Bool.or_eq_false_iff] at hkept
  obtain ⟨hknown, hlater⟩ := hkept
  refine ⟨(guide .strict).answer (place.question (.verifying described)) (trimmed text), ?_, ?_⟩
  · rw [spelled_verifying, hlater]
    exact Brings.answer hsecond rfl
  · obtain ⟨kind, hparse⟩ | hparse := assertionMenu.parse_of_known hknown
    · have hchosen (options : Options) :
          (guide options).answer (place.question (.verifying described)) (trimmed text) =
            place.within (StepQuestion.proceed
              { description := described, kind := .verify, assertion := some kind }) := by
        rw [StepPlace.answer_question, StepQuestion.verifying, StepQuestion.answer,
          StepQuestion.fillField, StepQuestion.chooseAssertion, Menu.parse_trimmed, hparse]
      have hdecided :
          Draft.Decided { description := described, kind := .verify, assertion := some kind } :=
        fun _ => Option.some_ne_none kind
      rw [hchosen, hchosen]
      exact .together rfl (within_clear place (StepQuestion.proceed_clear hdecided))
    · have hblank := assertionMenu.parse_empty hparse
      refine .choosing place described (answer_verifying_blank .lenient place described hblank)
        (answer_verifying_blank .strict place described hblank) ?_
      simpa [hblank] using hlater

theorem follows_stating (place : StepPlace) (described : String)
    (hsecond : second.next = .ask (place.question (.stating described)))
    (hwithdrawn : withdrawn (⟨place.question (.verifying described), text⟩ :: later) = true) :
    Follows second (place.question (.verifying described)) text later := by
  by_cases hmisses : assertionMenu.misses text = true
  · have hstatement : blank text = false := assertionMenu.not_blank_of_misses hmisses
    refine ⟨_, ?_, .together ?_ (stated_clear place described (trimmed text))⟩
    · rw [spelled_verifying, hstatement]
      exact brings_stated place described hsecond hstatement
    · rw [StepPlace.answer_question]
      exact place.next_within_congr (StepQuestion.answer_verifying_missed described hmisses)
  · rw [withdrawn_cons, Bool.eq_false_iff.mpr hmisses, Bool.false_or,
      Bool.and_eq_true] at hwithdrawn
    obtain ⟨hblank, hlater⟩ := hwithdrawn
    refine ⟨second, ?_, .stating place described
      (answer_verifying_blank .lenient place described hblank) hsecond hlater⟩
    rw [spelled_verifying, hblank, hlater]
    exact Brings.nothing _ rfl

theorem follows_clear {question : SuiteQuestion} (hsecond : second.next = .ask question)
    (hclear : question.Clear) : Follows second question text later := by
  cases question with
  | header suite field =>
      cases field with
      | category => exact follows_category suite hsecond
      | _ => exact follows_open hsecond hclear rfl
  | case suite question =>
      cases question with
      | title number => exact follows_open hsecond hclear rfl
      | objective named => exact follows_open hsecond hclear rfl
      | step named aim done question =>
          cases question with
          | action described =>
              exact follows_action ⟨suite, named, aim, done⟩ described hsecond hclear
          | description number => exact follows_open hsecond hclear rfl
          | accessibleName draft role => exact follows_open hsecond hclear rfl
          | field draft missing =>
              cases missing with
              | assertion => exact absurd rfl hclear.1
              | _ => exact follows_open hsecond hclear rfl

theorem carries_spelled : Carries spelled (guide .lenient) (guide .strict) Abreast where
  stop first second h := by
    cases h with
    | together hsame _ => exact hsame
    | choosing place described hfirst hsecond _ => exact hfirst.trans hsecond.symm
    | stating place described _ _ hwithdrawn => cases hwithdrawn
  step first second question text later h hnext := by
    cases h with
    | together hsame hclear =>
        have hsecond : second.next = .ask question := hsame.symm.trans hnext
        exact follows_clear hsecond (by simpa [Turn.Leads, hsecond] using hclear)
    | choosing place described hfirst hsecond hkept =>
        cases hnext.symm.trans hfirst
        exact follows_choosing place described hsecond hkept
    | stating place described hfirst hsecond hwithdrawn =>
        cases hnext.symm.trans hfirst
        exact follows_stating place described hsecond hwithdrawn

/-- Lenient menus are only a shorthand. What a lenient run takes beside the menus can be spelled
out: the strict run on that comes to the same end, the same suite or input that closes under the
same prompt, and leaves the same answers unread. Where no answer is beside a menu, options do not
matter. -/
theorem strict_on_spelled {opening : SuiteTurn} (hopening : opening.next = start.next)
    (answers : List String) :
    let run := converse (guide .lenient) opening ({ answers } : Scripted)
    let log := exchanges (guide .lenient) opening answers
    let full := rewritten spelled log ++ run.2.answers
    let again := converse (guide .strict) opening ({ answers := full } : Scripted)
    answers = log.map (·.answer) ++ run.2.answers ∧
      prompts (guide .lenient) opening ({ answers } : Scripted) =
        log.map (·.question.wording) ++ unanswered run.1 ∧
      Settled run.1 ∧ again.1 = run.1 ∧ again.2.answers = run.2.answers ∧
      ∀ options other : Options,
        (∀ exchange ∈ exchanges (guide options) opening answers,
          exchange.question.demand.unrecognized exchange.answer = false) →
        let one := converse (guide options) opening ({ answers } : Scripted)
        let another := converse (guide other) opening ({ answers } : Scripted)
        another.1 = one.1 ∧ another.2.answers = one.2.answers := by
  intro run log full again
  obtain ⟨hanswers, hprompts⟩ := converse_exchanges (guide .lenient) opening answers
  have hclear : opening.Leads Clear fun _ => True := by
    rw [Turn.Leads, hopening]
    exact trivial
  obtain ⟨hresult, hleft⟩ :=
    carries_spelled.converse rfl opening opening answers (.together rfl hclear)
  exact ⟨hanswers, hprompts, Scripted.settled_converse _ _ _, hresult, hleft,
    fun options other => recognized_agree options other opening⟩

/-- A category that there is none of, a step that no action is, and one that was to verify something
until it was put in other words. -/
def looseAnswers : List String :=
  ["Login", "login", "http://localhost:3000", "smoke", "Login page", "/login", "", "signs in",
   "the form works", "waits", "wait", "greeted", "3", " ", "", "page\treloads",
   "still there", "3", "", "3", "button", "Log in", "next", "done", "unread"]

def looseSpelled : List String :=
  ["Login", "login", "http://localhost:3000", "", "Login page", "/login", "", "signs in",
   "the form works", "waits", "6", "wait", "greeted", "6", "page\treloads",
   "still there", "3", "", "3", "button", "Log in", "next", "done"]

def looseSuite : Suite :=
  { featureName := "Login", fileBaseName := "login", baseUrl := "http://localhost:3000"
    category := .functional, describeTitle := "Login page", initialPath := "/login"
    additionalSetup := none
    testCases :=
      [{ title := "signs in", objective := "the form works"
         steps :=
          [⟨"waits", .custom "wait"⟩, ⟨"greeted", .custom "page\treloads"⟩,
           ⟨"still there", .verify (.enabled ⟨"button", "Log in"⟩)⟩] }] }

theorem strict_on_spelled_loose :
    session.next = start.next ∧
      (converse (guide .lenient) session ({ answers := looseAnswers } : Scripted)).1 =
        .ok looseSuite ∧
      (converse (guide .strict) session
        ({ answers := looseSpelled ++ ["unread"] } : Scripted)).1 = .ok looseSuite ∧
      (∀ exchange ∈ exchanges (guide .strict) session (looseSpelled ++ ["unread"]),
        exchange.question.demand.unrecognized exchange.answer = false) ∧
      (converse (guide .lenient) session
        ({ answers := looseSpelled ++ ["unread"] } : Scripted)).1 = .ok looseSuite := by
  have hopening : session.next = start.next := rfl
  obtain ⟨hcollected, -, hunread⟩ :=
    Scripted.converse_eq_hold (guide .lenient) session { answers := looseAnswers }
  have hsuite :
      (converse (guide .lenient) session ({ answers := looseAnswers } : Scripted)).1 =
        .ok looseSuite := hcollected.trans rfl
  have hspelled :
      rewritten spelled (exchanges (guide .lenient) session looseAnswers) = looseSpelled := rfl
  have hrecognized :
      ∀ exchange ∈ exchanges (guide .strict) session (looseSpelled ++ ["unread"]),
        exchange.question.demand.unrecognized exchange.answer = false := by decide
  obtain ⟨-, -, -, hstrict, -, -⟩ := strict_on_spelled hopening looseAnswers
  obtain ⟨-, -, -, -, -, hagree⟩ := strict_on_spelled hopening (looseSpelled ++ ["unread"])
  rw [hspelled, hunread] at hstrict
  have hfull := hstrict.trans hsuite
  exact ⟨hopening, hsuite, hfull, hrecognized,
    (hagree .strict .lenient hrecognized).1.trans hfull⟩

end SuiteQuestion

end SuiteScribe.Interview
