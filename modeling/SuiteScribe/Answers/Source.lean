import SuiteScribe.Failure
import SuiteScribe.Interview

namespace SuiteScribe

open Interview Text

/-! A source of answers. Each answer uses up some of what is pending, so that every interview over
a source comes to an end, and comes without surrounding white space. Input closes only under a
prompt that waits for it. -/

class Answers (σ : Type) where
  ask : String → σ → Except Failure String × σ
  say : String → σ → Except Failure Unit × σ
  note : Notice → σ → σ
  pending : σ → Nat
  pending_ask : ∀ (label : String) (s : σ) (text : String),
    (ask label s).1 = .ok text → pending (ask label s).2 < pending s
  pending_say : ∀ (text : String) (s : σ), pending (say text s).2 ≤ pending s
  pending_note : ∀ (notice : Notice) (s : σ), pending (note notice s) ≤ pending s
  trimmed_ask : ∀ (label : String) (s : σ) (text : String),
    (ask label s).1 = .ok text → trimmed text = text
  closed_ask : ∀ (label : String) (s : σ) (prompt : String),
    (ask label s).1 = .error (.inputClosed prompt) → prompt = label
  open_say : ∀ (text : String) (s : σ) (prompt : String),
    (say text s).1 ≠ .error (.inputClosed prompt)

namespace Answers

/-! Remarks are made in order, up to the first one that fails. -/

def remark [Answers σ] : List Remark → σ → Except Failure Unit × σ
  | [], s => (.ok (), s)
  | .note notice :: rest, s => remark rest (note notice s)
  | .say text :: rest, s =>
      match say text s with
      | (.ok (), next) => remark rest next
      | (.error failure, next) => (.error failure, next)

theorem pending_remark [Answers σ] (remarks : List Remark) (s : σ) :
    pending (remark remarks s).2 ≤ pending s := by
  induction remarks generalizing s with
  | nil => exact Nat.le_refl _
  | cons first rest ih =>
      cases first with
      | note notice => exact Nat.le_trans (ih _) (pending_note notice s)
      | say text =>
          have step := pending_say text s
          simp only [remark]
          split
          · next next h => rw [h] at step; exact Nat.le_trans (ih _) step
          · next failure next h => rw [h] at step; exact step

theorem pending_answer [Answers σ] {remarks : List Remark} {label text : String} {s next rest : σ}
    (said : remark remarks s = (.ok (), next)) (asked : ask label next = (.ok text, rest)) :
    pending rest < pending s := by
  have before := pending_remark remarks s
  have fewer := pending_ask label next text (by rw [asked])
  rw [said] at before
  rw [asked] at fewer
  exact Nat.lt_of_lt_of_le fewer before

set_option linter.unusedVariables false in
/-- Holds an interview from a turn on: its result, or what ended it early. -/
def converse [Answers σ] (guide : Guide τ α) (turn : Turn τ α) (s : σ) :
    Except Failure α × σ :=
  match said : remark turn.remarks s with
  | (.error failure, next) => (.error failure, next)
  | (.ok (), next) =>
      match turn.next with
      | .finish result => (.ok result, next)
      | .ask question =>
          match asked : ask (guide.wording question) next with
          | (.error failure, rest) => (.error failure, rest)
          | (.ok text, rest) => converse guide (guide.answer question text) rest
termination_by pending s
decreasing_by exact pending_answer said asked

end Answers

end SuiteScribe

namespace SuiteScribe.Answers

/-! One of two sources of answers. -/

variable {σ τ : Type}

def askEither [Answers σ] [Answers τ] (label : String) :
    σ ⊕ τ → Except Failure String × (σ ⊕ τ)
  | .inl source => ((ask label source).1, .inl (ask label source).2)
  | .inr source => ((ask label source).1, .inr (ask label source).2)

def sayEither [Answers σ] [Answers τ] (text : String) : σ ⊕ τ → Except Failure Unit × (σ ⊕ τ)
  | .inl source => ((say text source).1, .inl (say text source).2)
  | .inr source => ((say text source).1, .inr (say text source).2)

def noteEither [Answers σ] [Answers τ] (notice : Notice) : σ ⊕ τ → σ ⊕ τ
  | .inl source => .inl (note notice source)
  | .inr source => .inr (note notice source)

def pendingEither [Answers σ] [Answers τ] : σ ⊕ τ → Nat
  | .inl source => pending source
  | .inr source => pending source

instance [Answers σ] [Answers τ] : Answers (σ ⊕ τ) where
  ask := askEither
  say := sayEither
  note := noteEither
  pending := pendingEither
  pending_ask label source text h := by
    cases source with
    | inl source => exact pending_ask label source text h
    | inr source => exact pending_ask label source text h
  pending_say text source := by
    cases source with
    | inl source => exact pending_say text source
    | inr source => exact pending_say text source
  pending_note notice source := by
    cases source with
    | inl source => exact pending_note notice source
    | inr source => exact pending_note notice source
  trimmed_ask label source text h := by
    cases source with
    | inl source => exact trimmed_ask label source text h
    | inr source => exact trimmed_ask label source text h
  closed_ask label source prompt h := by
    cases source with
    | inl source => exact closed_ask label source prompt h
    | inr source => exact closed_ask label source prompt h
  open_say text source prompt := by
    cases source with
    | inl source => exact open_say text source prompt
    | inr source => exact open_say text source prompt

end SuiteScribe.Answers
