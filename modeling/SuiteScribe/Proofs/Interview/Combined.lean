import SuiteScribe.Proofs.Interview.Shorthand
import SuiteScribe.Proofs.Suite.Combined

namespace SuiteScribe.Interview

open Answers Text

/-! The name of a target may come in the answer for its role. The interview then goes on as it does
where the name was asked for. -/

namespace StepQuestion

/-- Questions are interchangeable if they ask for the same about interchangeable drafts. -/
inductive Interchangeable : StepQuestion → StepQuestion → Prop
  | same (question : StepQuestion) : Interchangeable question question
  | field {first second : Draft} (h : first.Interchangeable second) (missing : StepField) :
      Interchangeable (.field first missing) (.field second missing)
  | accessibleName {first second : Draft} (h : first.Interchangeable second) (role : String) :
      Interchangeable (.accessibleName first role) (.accessibleName second role)

/-! Turns are level if they ask interchangeable questions or end with the same step. -/

abbrev Level (first second : StepTurn) : Prop :=
  first.next.Matches Interchangeable second.next

theorem Level.refl (turn : StepTurn) : Level turn turn := by
  rcases turn with ⟨remarks, question | result⟩
  · exact .ask (.same question)
  · exact .finish result

section

variable {first second : Draft} (h : first.Interchangeable second) (options : Options)
  (text : String)

include h

theorem level_proceed : Level (proceed first) (proceed second) := by
  rw [proceed, proceed, h.encode_eq]
  cases second.encode with
  | ok step => exact .finish (some step)
  | error missing => exact .ask (.field h missing)

theorem level_askAgain (hint : String) (missing : StepField) :
    Level (askAgain hint first missing) (askAgain hint second missing) :=
  .ask (.field h missing)

theorem level_unlessEmpty (missing : StepField) {filled other : StepTurn}
    (hfilled : Level filled other) :
    Level (unlessEmpty first missing text filled) (unlessEmpty second missing text other) := by
  rw [unlessEmpty, unlessEmpty]
  split
  · exact level_askAgain h requiredHint missing
  · exact hfilled

theorem level_fillRole : Level (fillRole first text) (fillRole second text) := by
  rw [fillRole, fillRole]
  split
  · exact level_proceed (h.filled text .targetRole)
  · exact .ask (.accessibleName h text)

theorem level_chooseAssertion :
    Level (chooseAssertion options first text) (chooseAssertion options second text) := by
  rw [chooseAssertion, chooseAssertion]
  cases assertionMenu.parse text with
  | selected kind => exact level_proceed (h.chosen kind)
  | empty => exact level_askAgain h requiredHint .assertion
  | unrecognized statement =>
      dsimp only
      split
      · exact level_askAgain h unknownSelectionHint .assertion
      · exact level_proceed (h.stated statement)

theorem level_fillField (missing : StepField) :
    Level (fillField options first missing text) (fillField options second missing text) := by
  cases missing with
  | assertion => exact level_chooseAssertion h options text
  | targetRole => exact level_unlessEmpty h text .targetRole (level_fillRole h text)
  | _ => exact level_unlessEmpty h text _ (level_proceed (h.filled text _))

end

/-- Interchangeable questions have the same wording and lead on to interchangeable ones. -/
theorem guide_matches (options : Options) :
    (guide options).Matches (guide options) Interchangeable where
  wording first second h := by
    cases h with
    | same question => rfl
    | field h missing => cases missing <;> rfl
    | accessibleName h role => rfl
  answer first second h text := by
    cases h with
    | same question => exact Level.refl _
    | field h missing => exact level_fillField h options text missing
    | accessibleName h role => exact level_proceed (h.named (some role) (some text))

/-! The two ways to answer where the role is asked for. -/

theorem answer_action (options : Options) (described text : String) :
    (guide options).answer (action described) text = chooseAction options described text :=
  rfl

theorem answer_field (options : Options) (draft : Draft) (missing : StepField) (text : String) :
    (guide options).answer (field draft missing) text = fillField options draft missing text :=
  rfl

section

variable {role gap name : String} (h : Combination role gap name) (options : Options)
  (draft : Draft)

include h

theorem answer_combined :
    (guide options).answer (field draft .targetRole) (trimmed (role ++ gap ++ name)) =
      proceed { draft with role := some (trimmed (role ++ gap ++ name)), name := none } := by
  rw [answer_field, fillField, unlessEmpty_filled _ _ (filled_trimmed h.not_blank), fillRole,
    if_pos h.any_isBlank]
  rfl

theorem answer_role :
    (guide options).answer (field draft .targetRole) (trimmed role) =
      .ask (accessibleName draft role) := by
  rw [answer_field, h.unbroken.trimmed_eq, fillField, unlessEmpty_filled _ _ h.filled_role,
    fillRole, h.unbroken.any_eq_false]
  rfl

theorem hold_combined (rest : List String) :
    let opening : StepTurn := .ask (field draft .targetRole)
    let combined := hold (guide options) opening ((role ++ gap ++ name) :: rest)
    let prompted := hold (guide options) opening (role :: name :: rest)
    combined.outcome (guide options) = prompted.outcome (guide options) ∧
      combined.left = prompted.left := by
  dsimp only
  have hopen : (Turn.ask (field draft .targetRole) : StepTurn).next =
      .ask (field draft .targetRole) := rfl
  have hlevel : Level
      ((guide options).answer (field draft .targetRole) (trimmed (role ++ gap ++ name)))
      ((guide options).answer (accessibleName draft role) (trimmed name)) := by
    rw [answer_combined h]
    exact level_proceed
      (Draft.interchangeable_combined h (trimmed_trimmed _) (trimmed_trimmed name) draft)
  have hasked : ((guide options).answer (field draft .targetRole) (trimmed role)).next =
      .ask (accessibleName draft role) := by
    rw [answer_role h]
    rfl
  simp only [hold_ask_cons _ hopen, hold_ask_cons _ hasked, Held.outcome_asked, Held.left_asked]
  exact (guide_matches options).hold hlevel rest

end

/-! Where a role is asked for. -/

/-- The step interview takes these answers and then waits for a role. -/
def AwaitsRole (options : Options) (number : Nat) (answers : List String) : Prop :=
  (converse (guide options) (start number) ({ answers } : Scripted)).1 =
    .error (.inputClosed StepField.targetRole.prompt)

theorem eq_field_of_wording {question : StepQuestion}
    (h : question.wording = StepField.targetRole.prompt) :
    ∃ draft, question = field draft .targetRole := by
  cases question with
  | description number =>
      have hfirst := congrArg (·.toList.head?) h
      simp [wording, StepField.prompt, String.toList_append] at hfirst
  | action described => exact absurd h (by simp [wording, StepField.prompt])
  | accessibleName draft role => exact absurd h (by simp [wording, StepField.prompt])
  | field draft missing =>
      cases missing with
      | targetRole => exact ⟨draft, rfl⟩
      | _ => exact absurd h (by simp [wording, StepField.prompt])

theorem awaitsRole_iff {options : Options} {number : Nat} {answers : List String} :
    AwaitsRole options number answers ↔
      ∃ draft, (hold (guide options) (start number) answers).next =
        .ask (field draft .targetRole) := by
  rw [AwaitsRole, (Scripted.converse_eq_hold (guide options) (start number) { answers }).1,
    Held.outcome]
  constructor
  · intro h
    cases hnext : (hold (guide options) (start number) answers).next with
    | finish result => simp [hnext] at h
    | ask question =>
        simp only [hnext, Except.error.injEq, Failure.inputClosed.injEq] at h
        obtain ⟨draft, rfl⟩ := eq_field_of_wording h
        exact ⟨draft, rfl⟩
  · rintro ⟨draft, hnext⟩
    rw [hnext]
    rfl

/-- The answers that choose an action or an assertion, and the draft that they lead to. -/
inductive Chooses (described : String) : List String → Draft → Prop
  | action {choice : String} {kind : ActionKind}
      (hchoice : actionMenu.parse choice = .selected kind) :
      Chooses described [choice] { description := described, kind }
  | assertion {choice asserted : String} {kind : AssertionKind}
      (hchoice : actionMenu.parse choice = .selected .verify)
      (hasserted : assertionMenu.parse asserted = .selected kind) :
      Chooses described [choice, asserted]
        { description := described, kind := .verify, assertion := some kind }

namespace Chooses

variable {described : String} {choices : List String} {draft : Draft}

theorem brings (h : Chooses (trimmed described) choices draft) (options : Options) (number : Nat)
    (hfilled : blank described = false) (hsentinel : trimmed described ≠ stepSentinel) :
    Brings (guide options) (start number) (described :: choices) (proceed draft) := by
  have hdescribed : Filled (trimmed described) := filled_trimmed hfilled
  have hnext : ((guide options).answer (description number) (trimmed described)).next =
      .ask (.action (trimmed described)) := by
    simp [guide, answer, hdescribed.isEmpty, hsentinel, Turn.after, Turn.ask]
  refine Brings.ask rfl ?_
  cases h with
  | action hchoice =>
      refine Brings.answer hnext ?_
      rw [answer_action, chooseAction, Menu.parse_trimmed, hchoice]
  | @assertion choice asserted kind hchoice hasserted =>
      have hverify :
          ((guide options).answer (.action (trimmed described)) (trimmed choice)).next =
            .ask (verifying (trimmed described)) := by
        rw [answer_action, chooseAction, Menu.parse_trimmed, hchoice]
        exact proceed_verify hdescribed
      refine Brings.ask hnext (Brings.answer hverify ?_)
      rw [verifying, answer_field, fillField, chooseAssertion, Menu.parse_trimmed, hasserted]

theorem encode_eq (h : Chooses described choices draft) (hdescribed : Filled described)
    (htarget : .targetRole ∈ draft.demands) : draft.encode = .error .targetRole := by
  cases h with
  | @action choice kind hchoice =>
      refine Draft.encode_eq_error_of_action hdescribed ?_
      cases kind with
      | click => rfl
      | fill => rfl
      | _ => simp [Draft.demands] at htarget
  | @assertion choice asserted kind hchoice hasserted =>
      refine Draft.encode_eq_error_of_action hdescribed ?_
      cases kind with
      | hasUrl => simp [Draft.demands, AssertionKind.demands, AssertionKind.needsTarget] at htarget
      | _ => rfl

theorem awaitsRole (h : Chooses (trimmed described) choices draft) (options : Options)
    (number : Nat) (hfilled : blank described = false)
    (hsentinel : trimmed described ≠ stepSentinel) (htarget : .targetRole ∈ draft.demands) :
    AwaitsRole options number (described :: choices) := by
  have hopen : (proceed draft).next = .ask (field draft .targetRole) := by
    rw [proceed, h.encode_eq (filled_trimmed hfilled) htarget]
    rfl
  have hbrought := (h.brings options number hfilled hsentinel []).1
  rw [List.append_nil, hold_ask_nil _ hopen] at hbrought
  exact awaitsRole_iff.mpr ⟨draft, hbrought⟩

end Chooses

/-- A target can be told in one answer or in two. Wherever the step interview asks for a role, a
role with a name behind it leads to the same step as the role and then the name, and leaves the
same answers; and it does ask for a role as soon as an action or an assertion is chosen that takes
a target. Drafts with the one form or the other encode alike, and to that role and that name. -/
theorem combined_answer_agrees {role gap name : String} (h : Combination role gap name)
    (options : Options) (number : Nat) :
    (∀ described choices draft, blank described = false → trimmed described ≠ stepSentinel →
        Chooses (trimmed described) choices draft → .targetRole ∈ draft.demands →
        AwaitsRole options number (described :: choices)) ∧
      (∀ before, AwaitsRole options number before → ∀ rest,
        let combined := converse (guide options) (start number)
          ({ answers := before ++ (role ++ gap ++ name) :: rest } : Scripted)
        let prompted := converse (guide options) (start number)
          ({ answers := before ++ role :: name :: rest } : Scripted)
        combined.1 = prompted.1 ∧ combined.2.answers = prompted.2.answers) ∧
      ∀ draft : Draft,
        let combined := { draft with role := some (role ++ gap ++ name), name := none }
        let prompted := { draft with role := some role, name := some name }
        combined.encode = prompted.encode ∧
          combined.target? = some { role, name := trimmed name } := by
  refine ⟨fun described choices draft hfilled hsentinel hchooses =>
    hchooses.awaitsRole options number hfilled hsentinel, ?_, fun draft =>
    ⟨(Draft.interchangeable_combined h rfl rfl draft).encode_eq,
      Draft.target?_combined h rfl rfl rfl⟩⟩
  intro before hbefore rest
  dsimp only
  obtain ⟨draft, hopen⟩ := awaitsRole_iff.mp hbefore
  have hbrought : Brings (guide options) (start number) before (.ask (field draft .targetRole)) :=
    Brings.of_open hopen
  obtain ⟨houtcome, hleft⟩ := hold_combined h options draft rest
  have hcombined := hbrought ((role ++ gap ++ name) :: rest)
  have hprompted := hbrought (role :: name :: rest)
  have hruns := fun answers =>
    Scripted.converse_eq_hold (guide options) (start number) ({ answers } : Scripted)
  rw [(hruns _).1, (hruns _).1, (hruns _).2.2, (hruns _).2.2, hcombined.outcome_eq,
    hprompted.outcome_eq, hcombined.2, hprompted.2]
  exact ⟨houtcome, hleft⟩

theorem combined_answer_agrees_spaced :
    let run := converse (guide .lenient) (start 1)
      ({ answers :=
          ["types", "Fill", "textbox\u00a0\t First  name ", "", "Ada", "unread"] } : Scripted)
    Combination "textbox" "\u00a0\t " "First  name " ∧
      blank "types" = false ∧ trimmed "types" ≠ stepSentinel ∧
      Chooses (trimmed "types") ["Fill"] { description := trimmed "types", kind := .fill } ∧
      StepField.targetRole ∈ Draft.demands { description := trimmed "types", kind := .fill } ∧
      AwaitsRole .lenient 1 ["types", "Fill"] ∧
      run.1 = .ok (some ⟨"types", .fill ⟨"textbox", "First  name"⟩ "Ada"⟩) ∧
      run.2.answers = ["unread"] := by
  intro run
  have hcombination : Combination "textbox" "\u00a0\t " "First  name " :=
    ⟨by decide, by decide, by decide, by decide, by decide⟩
  have hchooses : Chooses (trimmed "types") ["Fill"]
      { description := trimmed "types", kind := .fill } := .action (by decide)
  obtain ⟨hawaits, hagree, -⟩ := combined_answer_agrees hcombination .lenient 1
  have hasked := hawaits "types" ["Fill"] _ (by decide) (by decide) hchooses (by decide)
  obtain ⟨hresult, hleft⟩ := hagree ["types", "Fill"] hasked ["", "Ada", "unread"]
  obtain ⟨hprompted, -, hunread⟩ := Scripted.converse_eq_hold (guide .lenient) (start 1)
    { answers := ["types", "Fill", "textbox", "First  name ", "", "Ada", "unread"] }
  exact ⟨hcombination, by decide, by decide, hchooses, by decide, hasked,
    hresult.trans (hprompted.trans rfl), hleft.trans (hunread.trans rfl)⟩

end StepQuestion

end SuiteScribe.Interview
