import SuiteScribe.Proofs.Answers.Supply
import SuiteScribe.Proofs.Transcript

namespace SuiteScribe.Recorder

open Answers Interview Text

/-! Recorded events are numbered in order, fit on a line, and hold trimmed answers. -/

def Numbered (events : List Event) : Prop :=
  events.map (·.seq) = (List.range events.length).map fun index => (index + 1) % Event.seqLimit

structure Kept (events : List Event) : Prop where
  numbered : Numbered events
  fits : ∀ event ∈ events, event.Fits
  answers : ∀ event ∈ events, trimmed event.answer = event.answer

theorem Kept.nil : Kept [] := by
  refine ⟨rfl, ?_, ?_⟩ <;> simp

theorem fits_event (recorder : Recorder σ) (prompt answer : String) :
    (recorder.event prompt answer).Fits where
  seq := Nat.mod_lt _ (by decide)
  time := Nat.mod_lt _ (by decide)

theorem Numbered.append_event {recorder : Recorder σ} (h : Numbered recorder.events)
    (prompt answer : String) :
    Numbered (recorder.events ++ [recorder.event prompt answer]) := by
  rw [Numbered, List.length_append, List.length_singleton, List.range_succ, List.map_append,
    List.map_append, h, List.map_singleton, List.map_singleton, event, nextSeq_eq]

theorem Kept.append_event {recorder : Recorder σ} (h : Kept recorder.events)
    {prompt answer : String} (htrimmed : trimmed answer = answer) :
    Kept (recorder.events ++ [recorder.event prompt answer]) where
  numbered := h.numbered.append_event prompt answer
  fits event hevent := by
    rcases List.mem_append.mp hevent with hbefore | hlast
    · exact h.fits event hbefore
    · rw [List.mem_singleton.mp hlast]
      exact fits_event recorder prompt answer
  answers event hevent := by
    rcases List.mem_append.mp hevent with hbefore | hlast
    · exact h.answers event hbefore
    · rw [List.mem_singleton.mp hlast]
      exact htrimmed

theorem preserved_kept [Answers σ] :
    Preserved fun recorder : Recorder σ => Kept recorder.events where
  ask label recorder h := by
    have htrimmed := trimmed_ask label recorder.source
    rcases asked : Answers.ask label recorder.source with ⟨_ | text, source⟩
    · simpa [Answers.ask, ask, asked] using h
    · rw [asked] at htrimmed
      simpa [Answers.ask, ask, asked] using h.append_event (htrimmed text rfl)
  say _ _ h := h
  note _ _ h := h

/-- The events of a recorder that started empty. -/
theorem kept_converse [Answers σ] (guide : Guide τ α) (turn : Turn τ α) (source : σ)
    (clock : Nat → Nat) :
    Kept (converse guide turn ({ source, clock } : Recorder σ)).2.events :=
  preserved_kept.converse guide turn Kept.nil

/-! Recording changes nothing of what is answered. -/

theorem mirrors_source [Answers σ] : Mirrors (Recorder.source : Recorder σ → σ) where
  ask label recorder := by
    rcases asked : Answers.ask label recorder.source with ⟨_ | text, source⟩ <;>
      simp [Answers.ask, ask, asked]
  say _ _ := rfl
  note _ _ := rfl

/-! A settled run is the interview held over the recorded answers. -/

theorem events_remark [Answers σ] {remarks : List Interview.Remark} {recorder next : Recorder σ}
    {result : Except Failure Unit} (said : remark remarks recorder = (result, next)) :
    next.events = recorder.events := by
  have hsay : ∀ text (other : Recorder σ), other.events = recorder.events →
      (Answers.say text other).2.events = recorder.events := fun _ _ h => h
  have hnote : ∀ notice, .note notice ∈ remarks → ∀ other : Recorder σ,
      other.events = recorder.events → (Answers.note notice other).events = recorder.events :=
    fun _ _ _ h => h
  have hnext := remark_preserves hsay hnote rfl
  rwa [said] at hnext

theorem ask_eq_ok [Answers σ] {label text : String} {recorder next : Recorder σ}
    (asked : Answers.ask label recorder = (.ok text, next)) :
    next.events = recorder.events ++ [recorder.event label text] := by
  rcases inner : Answers.ask label recorder.source with ⟨_ | found, source⟩
  · simp [Answers.ask, ask, inner] at asked
  · simp only [Answers.ask, ask, received, inner, Prod.mk.injEq, Except.ok.injEq] at asked
    obtain ⟨rfl, rfl⟩ := asked
    rfl

theorem ask_eq_error [Answers σ] {label : String} {failure : Failure} {recorder next : Recorder σ}
    (asked : Answers.ask label recorder = (.error failure, next)) :
    next.events = recorder.events := by
  rcases inner : Answers.ask label recorder.source with ⟨_ | found, source⟩
  · simp only [Answers.ask, ask, received, inner, Prod.mk.injEq] at asked
    obtain ⟨-, rfl⟩ := asked
    rfl
  · simp [Answers.ask, ask, inner] at asked

theorem converse_eq_hold [Answers σ] (guide : Guide τ α) (turn : Turn τ α)
    (recorder : Recorder σ) (h : Settled (converse guide turn recorder).1) :
    ∃ added, (converse guide turn recorder).2.events = recorder.events ++ added ∧
      (hold guide turn (added.map (·.answer))).outcome guide = (converse guide turn recorder).1 ∧
      (hold guide turn (added.map (·.answer))).left = [] ∧
      (hold guide turn (added.map (·.answer))).prompts = prompts guide turn recorder ∧
      prompts guide turn recorder =
        added.map (·.prompt) ++ unanswered (converse guide turn recorder).1 := by
  fun_induction converse guide turn recorder with
  | case1 turn recorder failure next said =>
      cases failure with
      | inputClosed prompt =>
          have hopen := remark_open turn.remarks recorder prompt
          rw [said] at hopen
          exact absurd rfl hopen
      | _ => exact h.elim
  | case2 turn recorder next said result hnext =>
      have hevents := events_remark said
      refine ⟨[], by rw [hevents, List.append_nil], ?_⟩
      rw [List.map_nil, hold_finish guide hnext, prompts_finish hnext]
      exact ⟨rfl, rfl, rfl, rfl⟩
  | case3 turn recorder next said question hnext failure rest asked =>
      have hevents := events_remark said
      cases failure with
      | inputClosed prompt =>
          have hprompt := closed_ask (guide.wording question) next prompt (by rw [asked])
          subst hprompt
          refine ⟨[], by rw [ask_eq_error asked, hevents, List.append_nil], ?_⟩
          rw [List.map_nil, hold_ask_nil guide hnext, prompts_ask_error said hnext asked]
          exact ⟨rfl, rfl, rfl, rfl⟩
      | _ => exact h.elim
  | case4 turn recorder next said question hnext text rest asked ih =>
      have hevents := events_remark said
      have htrimmed := trimmed_ask (guide.wording question) next text (by rw [asked])
      obtain ⟨added, hadded, houtcome, hleft, hheld, hprompts⟩ := ih h
      refine ⟨next.event (guide.wording question) text :: added, ?_, ?_⟩
      · rw [hadded, ask_eq_ok asked, hevents, List.append_assoc, List.singleton_append]
      · have hhold := hold_ask_cons guide hnext text (added.map (·.answer))
        rw [htrimmed] at hhold
        rw [List.map_cons, prompts_ask said hnext asked]
        refine ⟨?_, ?_, ?_, ?_⟩
        · exact (congrArg (Held.outcome guide) hhold).trans houtcome
        · exact (congrArg Held.left hhold).trans hleft
        · exact (congrArg Held.prompts hhold).trans (congrArg _ hheld)
        · rw [hprompts]
          rfl

/-! Around a supply, what was recorded and what is still supplied make up all answers. -/

def supply [Answers σ] (inner : Supply σ) (answers : List String) : Supply (Recorder σ) where
  fallible := inner.fallible
  offers recorder rest :=
    inner.offers recorder.source rest ∧
      recorder.events.map (·.answer) ++ rest.map trimmed = answers
  offers_ask label recorder rest h := by
    obtain ⟨hoffers, hanswers⟩ := h
    have hask := inner.offers_ask label recorder.source rest hoffers
    rcases asked : Answers.ask label recorder.source with ⟨failure | text, source⟩
    · rw [asked] at hask
      obtain hbroken | ⟨hreply, hrest⟩ := hask
      · exact .inl (by simpa [Answers.ask, ask, asked] using hbroken)
      · refine .inr ⟨by simpa [Answers.ask, ask, asked] using hreply, ?_⟩
        cases rest with
        | nil => exact ⟨by simpa [Answers.ask, ask, asked] using hrest,
            by simpa [Answers.ask, ask, asked] using hanswers⟩
        | cons first rest => cases hreply
    · rw [asked] at hask
      obtain ⟨-, fault, hbroken⟩ | ⟨hreply, hrest⟩ := hask
      · cases hbroken
      · cases rest with
        | nil => cases hreply
        | cons first rest =>
            cases hreply
            refine .inr ⟨by simp [Answers.ask, ask, asked, reply], ?_, ?_⟩
            · simpa [Answers.ask, ask, asked] using hrest
            · simpa [Answers.ask, ask, asked, event] using hanswers
  offers_say text recorder rest h := by
    obtain ⟨hoffers, hanswers⟩ := h
    obtain hbroken | ⟨hsaid, hnext⟩ := inner.offers_say text recorder.source rest hoffers
    · exact .inl hbroken
    · exact .inr ⟨hsaid, hnext, hanswers⟩
  offers_note notice recorder rest h :=
    ⟨inner.offers_note notice recorder.source rest h.1, h.2⟩

end SuiteScribe.Recorder

namespace SuiteScribe

open Text

/-! Anything that can be asked and told something, whether or not it obeys the laws of a source. Its
calls are made one after another, those after a failed one as well. -/

structure Prompter (σ : Type) where
  ask : String → σ → Except Failure String × σ
  say : String → σ → Except Failure Unit × σ

inductive Call
  | ask (label : String)
  | say (text : String)

/-- What a call returns: a text if something was asked. -/
abbrev Reply := Except Failure (Option String)

namespace Prompter

def of (σ : Type) [Answers σ] : Prompter σ :=
  { ask := Answers.ask, say := Answers.say }

/-- A prompter inside a recorder. -/
def recorded (inner : Prompter σ) : Prompter (Recorder σ) where
  ask label recorder := recorder.received label (inner.ask label recorder.source)
  say text recorder :=
    ((inner.say text recorder.source).1,
      { recorder with source := (inner.say text recorder.source).2 })

/-- Around a source it is the recorder that sessions run on. -/
theorem recorded_of (σ : Type) [Answers σ] : (of σ).recorded = of (Recorder σ) :=
  rfl

def call (prompter : Prompter σ) : Call → σ → Reply × σ
  | .ask label, s => ((prompter.ask label s).1.map some, (prompter.ask label s).2)
  | .say text, s => ((prompter.say text s).1.map fun _ => none, (prompter.say text s).2)

def calls (prompter : Prompter σ) : List Call → σ → List Reply × σ
  | [], s => ([], s)
  | first :: rest, s =>
      let made := prompter.call first s
      let others := prompter.calls rest made.2
      (made.1 :: others.1, others.2)

end Prompter

/-! What was asked and answered, as the calls and their replies tell it. -/

def Call.answered? : Call → Reply → Option (String × String)
  | .ask label, .ok (some text) => some (label, text)
  | _, _ => none

def answered (calls : List Call) (replies : List Reply) : List (String × String) :=
  (calls.zip replies).filterMap fun made => made.1.answered? made.2

namespace Prompter

variable (inner : Prompter σ)

/-! One call: the recorder returns what its inner prompter returns, and keeps an event exactly of
what was asked and answered. -/

end Prompter

/-! Whatever is recorded can be written, and stays numbered. -/

/-- Events as a recorder makes them. -/
structure Recorder.Regular (events : List Event) : Prop where
  numbered : Numbered events
  fits : ∀ event ∈ events, event.Fits

theorem Recorder.Regular.append_event {recorder : Recorder σ} (h : Regular recorder.events)
    (prompt answer : String) : Regular (recorder.events ++ [recorder.event prompt answer]) where
  numbered := h.numbered.append_event prompt answer
  fits := List.forall_mem_append.mpr
    ⟨h.fits, List.forall_mem_singleton.mpr (fits_event recorder prompt answer)⟩

end SuiteScribe
