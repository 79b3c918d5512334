import SuiteScribe.Answers.Source

namespace SuiteScribe.Answers

open Interview

/-! The run of an interview over any source: what it asks, how it may end, and what it keeps of the
source. -/

set_option linter.unusedVariables false in
/-- The prompts of an interview in order, the last one perhaps without an answer. -/
def prompts [Answers σ] (guide : Guide τ α) (turn : Turn τ α) (s : σ) : List String :=
  match said : remark turn.remarks s with
  | (.error _, _) => []
  | (.ok (), next) =>
      match turn.next with
      | .finish _ => []
      | .ask question =>
          guide.wording question ::
            match asked : ask (guide.wording question) next with
            | (.error _, _) => []
            | (.ok text, rest) => prompts guide (guide.answer question text) rest
termination_by pending s
decreasing_by exact pending_answer said asked

section

variable [Answers σ]

/-! One turn of an interview: what is remarked, what is asked, and what follows from the answer. -/

theorem converse_turn (guide : Guide τ α) (turn : Turn τ α) (s : σ) :
    converse guide turn s =
      match remark turn.remarks s with
      | (.error failure, next) => (.error failure, next)
      | (.ok (), next) =>
          match turn.next with
          | .finish result => (.ok result, next)
          | .ask question =>
              match ask (guide.wording question) next with
              | (.error failure, rest) => (.error failure, rest)
              | (.ok text, rest) => converse guide (guide.answer question text) rest := by
  rw [converse]
  split
  · next hsaid => rw [hsaid]
  · next hsaid =>
      rw [hsaid]
      cases turn.next with
      | finish result => rfl
      | ask question =>
          dsimp only
          split
          · next hasked => rw [hasked]
          · next hasked => rw [hasked]

theorem prompts_turn (guide : Guide τ α) (turn : Turn τ α) (s : σ) :
    prompts guide turn s =
      match remark turn.remarks s with
      | (.error _, _) => []
      | (.ok (), next) =>
          match turn.next with
          | .finish _ => []
          | .ask question =>
              guide.wording question ::
                match ask (guide.wording question) next with
                | (.error _, _) => []
                | (.ok text, rest) => prompts guide (guide.answer question text) rest := by
  rw [prompts]
  split
  · next hsaid => rw [hsaid]
  · next hsaid =>
      rw [hsaid]
      cases turn.next with
      | finish result => rfl
      | ask question =>
          dsimp only
          split
          · next hasked => rw [hasked]
          · next hasked => rw [hasked]

end

section

variable [Answers σ] {guide : Guide τ α} {turn : Turn τ α} {s next rest : σ} {question : τ}

theorem converse_remark_error {failure : Failure}
    (said : remark turn.remarks s = (.error failure, next)) :
    converse guide turn s = (.error failure, next) := by
  rw [converse_turn, said]

theorem converse_finish {result : α} (said : remark turn.remarks s = (.ok (), next))
    (hnext : turn.next = .finish result) : converse guide turn s = (.ok result, next) := by
  rw [converse_turn, said, hnext]

theorem converse_ask_error {failure : Failure} (said : remark turn.remarks s = (.ok (), next))
    (hnext : turn.next = .ask question)
    (asked : ask (guide.wording question) next = (.error failure, rest)) :
    converse guide turn s = (.error failure, rest) := by
  rw [converse_turn, said, hnext]
  dsimp only
  rw [asked]

theorem converse_ask {text : String} (said : remark turn.remarks s = (.ok (), next))
    (hnext : turn.next = .ask question)
    (asked : ask (guide.wording question) next = (.ok text, rest)) :
    converse guide turn s = converse guide (guide.answer question text) rest := by
  rw [converse_turn, said, hnext]
  dsimp only
  rw [asked]

theorem prompts_finish {result : α} (hnext : turn.next = .finish result) :
    prompts guide turn s = [] := by
  rw [prompts_turn, hnext]
  split <;> rfl

theorem prompts_ask_error {failure : Failure} (said : remark turn.remarks s = (.ok (), next))
    (hnext : turn.next = .ask question)
    (asked : ask (guide.wording question) next = (.error failure, rest)) :
    prompts guide turn s = [guide.wording question] := by
  rw [prompts_turn, said, hnext]
  dsimp only
  rw [asked]

theorem prompts_ask {text : String} (said : remark turn.remarks s = (.ok (), next))
    (hnext : turn.next = .ask question)
    (asked : ask (guide.wording question) next = (.ok text, rest)) :
    prompts guide turn s =
      guide.wording question :: prompts guide (guide.answer question text) rest := by
  rw [prompts_turn, said, hnext]
  dsimp only
  rw [asked]

end

/-! A source mirrors another one if a view of it answers as the other one does. Runs then agree. -/

structure Mirrors [Answers σ] [Answers τ] (view : σ → τ) : Prop where
  ask : ∀ label s, ask label (view s) = ((ask label s).1, view (ask label s).2)
  say : ∀ text s, say text (view s) = ((say text s).1, view (say text s).2)
  note : ∀ notice s, note notice (view s) = view (note notice s)

namespace Mirrors

variable [Answers σ] [Answers τ] {view : σ → τ} (mirrors : Mirrors view)
include mirrors

theorem remark (remarks : List Remark) (s : σ) :
    Answers.remark remarks (view s) =
      ((Answers.remark remarks s).1, view (Answers.remark remarks s).2) := by
  induction remarks generalizing s with
  | nil => rfl
  | cons first rest ih =>
      cases first with
      | note notice =>
          have hnote := mirrors.note notice s
          rw [Answers.remark, hnote, ih]
          rfl
      | say text =>
          have hsay := mirrors.say text s
          rcases said : Answers.say text s with ⟨_ | _, next⟩
          · rw [said] at hsay
            simp [Answers.remark, said, hsay]
          · rw [said] at hsay
            simp [Answers.remark, said, hsay, ih]

theorem remark_eq {remarks : List Remark} {s next : σ} {result : Except Failure Unit}
    (said : Answers.remark remarks s = (result, next)) :
    Answers.remark remarks (view s) = (result, view next) := by
  rw [mirrors.remark, said]

theorem ask_eq {label : String} {s next : σ} {result : Except Failure String}
    (asked : Answers.ask label s = (result, next)) :
    Answers.ask label (view s) = (result, view next) := by
  rw [mirrors.ask, asked]

theorem converse (guide : Guide ρ α) (turn : Turn ρ α) (s : σ) :
    Answers.converse guide turn (view s) =
      ((Answers.converse guide turn s).1, view (Answers.converse guide turn s).2) := by
  fun_induction Answers.converse guide turn s with
  | case1 turn s failure next said => rw [converse_remark_error (mirrors.remark_eq said)]
  | case2 turn s next said result hnext => rw [converse_finish (mirrors.remark_eq said) hnext]
  | case3 turn s next said question hnext failure rest asked =>
      rw [converse_ask_error (mirrors.remark_eq said) hnext (mirrors.ask_eq asked)]
  | case4 turn s next said question hnext text rest asked ih =>
      rw [converse_ask (mirrors.remark_eq said) hnext (mirrors.ask_eq asked), ih]

end Mirrors

/-! A run is settled if it was not broken off: it has a result, or a prompt without an answer. -/

def Settled : Except Failure α → Prop
  | .ok _ => True
  | .error (.inputClosed _) => True
  | .error _ => False

def unanswered : Except Failure α → List String
  | .error (.inputClosed prompt) => [prompt]
  | _ => []

theorem remark_open [Answers σ] (remarks : List Remark) (s : σ) (prompt : String) :
    (remark remarks s).1 ≠ .error (.inputClosed prompt) := by
  induction remarks generalizing s with
  | nil => simp [remark]
  | cons first rest ih =>
      cases first with
      | note notice => exact ih (note notice s)
      | say text =>
          have hopen := open_say text s prompt
          rcases said : say text s with ⟨_ | _, next⟩
          · rw [said] at hopen
            simpa [remark, said] using hopen
          · simpa [remark, said] using ih next

/-! What every operation on a source preserves, a run preserves. -/

theorem remark_preserves [Answers σ] {holds : σ → Prop} {remarks : List Remark}
    (hsay : ∀ text s, holds s → holds (say text s).2)
    (hnote : ∀ notice, .note notice ∈ remarks → ∀ s, holds s → holds (note notice s))
    {s : σ} (h : holds s) : holds (remark remarks s).2 := by
  induction remarks generalizing s with
  | nil => exact h
  | cons first rest ih =>
      have hrest : ∀ {s : σ}, holds s → holds (remark rest s).2 :=
        ih fun notice hnotice => hnote notice (List.mem_cons_of_mem _ hnotice)
      cases first with
      | note notice => exact hrest (hnote notice List.mem_cons_self s h)
      | say text =>
          have hnext := hsay text s h
          rcases said : say text s with ⟨_ | _, next⟩
          · simpa [remark, said] using hnext
          · rw [said] at hnext
            simpa [remark, said] using hrest hnext

structure Preserved [Answers σ] (holds : σ → Prop) : Prop where
  ask : ∀ label s, holds s → holds (Answers.ask label s).2
  say : ∀ text s, holds s → holds (Answers.say text s).2
  note : ∀ notice s, holds s → holds (Answers.note notice s)

namespace Preserved

variable [Answers σ] {holds : σ → Prop} (preserved : Preserved holds)
include preserved

theorem remark (remarks : List Remark) {s : σ} (h : holds s) :
    holds (Answers.remark remarks s).2 :=
  remark_preserves preserved.say (fun notice _ => preserved.note notice) h

theorem converse (guide : Guide τ α) (turn : Turn τ α) {s : σ} (h : holds s) :
    holds (Answers.converse guide turn s).2 := by
  fun_induction Answers.converse guide turn s with
  | case1 turn s failure next said =>
      have hnext := preserved.remark turn.remarks h
      rwa [said] at hnext
  | case2 turn s next said result hnext =>
      have hafter := preserved.remark turn.remarks h
      rwa [said] at hafter
  | case3 turn s next said question hnext failure rest asked =>
      have hafter := preserved.remark turn.remarks h
      rw [said] at hafter
      have hrest := preserved.ask (guide.wording question) next hafter
      rwa [asked] at hrest
  | case4 turn s next said question hnext text rest asked ih =>
      have hafter := preserved.remark turn.remarks h
      rw [said] at hafter
      have hrest := preserved.ask (guide.wording question) next hafter
      rw [asked] at hrest
      exact ih hrest

end Preserved

/-! A run fails only as one of the operations on its source does. -/

structure Confined [Answers σ] (holds : σ → Prop) (fails : Failure → Prop) : Prop where
  preserved : Preserved holds
  ask : ∀ label s failure, holds s → (Answers.ask label s).1 = .error failure → fails failure
  say : ∀ text s failure, holds s → (Answers.say text s).1 = .error failure → fails failure

namespace Confined

variable [Answers σ] {holds : σ → Prop} {fails : Failure → Prop} (confined : Confined holds fails)
include confined

theorem remark (remarks : List Remark) {s : σ} (h : holds s) {failure : Failure}
    (hfailed : (Answers.remark remarks s).1 = .error failure) : fails failure := by
  induction remarks generalizing s with
  | nil => cases hfailed
  | cons first rest ih =>
      cases first with
      | note notice => exact ih (confined.preserved.note notice s h) hfailed
      | say text =>
          have hnext := confined.preserved.say text s h
          rcases said : Answers.say text s with ⟨found | _, next⟩
          · have hfound : found = failure := by simpa [Answers.remark, said] using hfailed
            exact confined.say text s failure h (by rw [said, hfound])
          · rw [said] at hnext
            exact ih hnext (by simpa [Answers.remark, said] using hfailed)

theorem converse (guide : Guide τ α) (turn : Turn τ α) {s : σ} (h : holds s) {failure : Failure}
    (hfailed : (Answers.converse guide turn s).1 = .error failure) : fails failure := by
  fun_induction Answers.converse guide turn s with
  | case1 turn s found next said =>
      cases hfailed
      exact confined.remark turn.remarks h (by rw [said])
  | case2 turn s next said result hnext => cases hfailed
  | case3 turn s next said question hnext found rest asked =>
      cases hfailed
      have hafter := confined.preserved.remark turn.remarks h
      rw [said] at hafter
      exact confined.ask (guide.wording question) next failure hafter (by rw [asked])
  | case4 turn s next said question hnext text rest asked ih =>
      have hafter := confined.preserved.remark turn.remarks h
      rw [said] at hafter
      have hrest := confined.preserved.ask (guide.wording question) next hafter
      rw [asked] at hrest
      exact ih hrest hfailed

end Confined

end SuiteScribe.Answers

namespace SuiteScribe.Interview

open Answers Text

/-! Where a turn leads: to an open question of one kind, or to a result of another. -/

def Turn.Leads (turn : Turn σ α) (waiting : σ → Prop) (done : α → Prop) : Prop :=
  match turn.next with
  | .ask question => waiting question
  | .finish result => done result

namespace Turn

variable {waiting : σ → Prop} {done : α → Prop}

@[simp] theorem leads_ask (question : σ) :
    (ask question : Turn σ α).Leads waiting done ↔ waiting question := Iff.rfl

@[simp] theorem leads_finish (result : α) :
    (finish result : Turn σ α).Leads waiting done ↔ done result := Iff.rfl

@[simp] theorem leads_after (turn : Turn σ α) (remarks : List Remark) :
    (turn.after remarks).Leads waiting done ↔ turn.Leads waiting done := Iff.rfl

@[simp] theorem leads_retry (hint : String) (question : σ) :
    (retry hint question : Turn σ α).Leads waiting done ↔ waiting question := Iff.rfl

theorem Leads.within {turn : Turn σ α} (h : turn.Leads waiting done) {embed : σ → τ}
    {continued : α → Turn τ β} {waitingOut : τ → Prop} {doneOut : β → Prop}
    (hask : ∀ question, waiting question → waitingOut (embed question))
    (hfinish : ∀ result, done result → (continued result).Leads waitingOut doneOut) :
    (turn.within embed continued).Leads waitingOut doneOut := by
  rcases turn with ⟨remarks, question | result⟩
  · exact hask question h
  · exact hfinish result h

end Turn

/-- Whatever is answered to a question that meets the condition, the interview goes on with such a
question or ends with a result that meets its own. -/
def Guide.Keeps (guide : Guide σ α) (waiting : σ → Prop) (done : α → Prop) : Prop :=
  ∀ question, waiting question → ∀ text, trimmed text = text →
    (guide.answer question text).Leads waiting done

/-! A whole interview keeps what each of its answers keeps, whichever source they come from. -/

theorem converse_keeps [Answers σ] {guide : Guide τ α} {waiting : τ → Prop} {done : α → Prop}
    (hkeeps : guide.Keeps waiting done) {turn : Turn τ α} (hturn : turn.Leads waiting done)
    {source : σ} {result : α} (h : (converse guide turn source).1 = .ok result) :
    done result := by
  fun_induction converse guide turn source with
  | case1 turn source failure next said => cases h
  | case2 turn source next said found hnext =>
      cases h
      simpa [Turn.Leads, hnext] using hturn
  | case3 turn source next said question hnext failure rest asked => cases h
  | case4 turn source next said question hnext text rest asked ih =>
      have hquestion : waiting question := by simpa [Turn.Leads, hnext] using hturn
      have htrimmed : trimmed text = text :=
        trimmed_ask (guide.wording question) next text (by rw [asked])
      exact ih (hkeeps question hquestion text htrimmed) h

end SuiteScribe.Interview
