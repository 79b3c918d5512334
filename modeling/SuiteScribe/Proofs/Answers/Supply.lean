import SuiteScribe.Answers.Scripted
import SuiteScribe.Command.Generate
import SuiteScribe.Proofs.Answers.Run

namespace SuiteScribe.Interview

open Text

/-! An interview held over a list of answers, without a source around it: what was asked, where the
interview stands when the answers are used up or it is finished, and which answers are left. -/

structure Held (σ α : Type) where
  prompts : List String
  next : Next σ α
  left : List String

def Held.asked (prompt : String) (held : Held σ α) : Held σ α :=
  { held with prompts := prompt :: held.prompts }

/-- Input that closes under an open question is what an interview fails with. -/
def Held.outcome (guide : Guide σ α) (held : Held σ α) : Except Failure α :=
  match held.next with
  | .finish result => .ok result
  | .ask question => .error (.inputClosed (guide.wording question))

@[simp] theorem Held.outcome_asked (guide : Guide σ α) (prompt : String) (held : Held σ α) :
    (held.asked prompt).outcome guide = held.outcome guide :=
  rfl

@[simp] theorem Held.left_asked (prompt : String) (held : Held σ α) :
    (held.asked prompt).left = held.left :=
  rfl

/-- Every answer arrives trimmed. -/
def hold (guide : Guide σ α) (turn : Turn σ α) (answers : List String) : Held σ α :=
  match turn.next, answers with
  | .finish result, left => { prompts := [], next := .finish result, left }
  | .ask question, [] =>
      { prompts := [guide.wording question], next := .ask question, left := [] }
  | .ask question, text :: rest =>
      (hold guide (guide.answer question (trimmed text)) rest).asked (guide.wording question)

theorem hold_finish (guide : Guide σ α) {turn : Turn σ α} {result : α}
    (h : turn.next = .finish result) (answers : List String) :
    hold guide turn answers = { prompts := [], next := .finish result, left := answers } := by
  cases answers <;> simp [hold, h]

theorem hold_ask_nil (guide : Guide σ α) {turn : Turn σ α} {question : σ}
    (h : turn.next = .ask question) :
    hold guide turn [] =
      { prompts := [guide.wording question], next := .ask question, left := [] } := by
  simp [hold, h]

theorem hold_ask_cons (guide : Guide σ α) {turn : Turn σ α} {question : σ}
    (h : turn.next = .ask question) (text : String) (rest : List String) :
    hold guide turn (text :: rest) =
      (hold guide (guide.answer question (trimmed text)) rest).asked
        (guide.wording question) := by
  simp [hold, h]

/-- Remarks change nothing of what is asked and answered. -/
theorem hold_congr (guide : Guide σ α) {first second : Turn σ α}
    (h : first.next = second.next) (answers : List String) :
    hold guide first answers = hold guide second answers := by
  cases hnext : second.next with
  | finish result => rw [hold_finish guide hnext, hold_finish guide (h.trans hnext)]
  | ask question =>
      cases answers with
      | nil => rw [hold_ask_nil guide hnext, hold_ask_nil guide (h.trans hnext)]
      | cons text rest => rw [hold_ask_cons guide hnext, hold_ask_cons guide (h.trans hnext)]

@[simp] theorem hold_after (guide : Guide σ α) (turn : Turn σ α) (remarks : List Remark)
    (answers : List String) :
    hold guide (turn.after remarks) answers = hold guide turn answers := by
  have hnext : (turn.after remarks).next = turn.next := rfl
  exact hold_congr guide hnext answers

/-! Answers tell a result if the interview takes exactly them to reach it, whatever follows. -/

def Tells (guide : Guide σ α) (turn : Turn σ α) (answers : List String) (result : α) : Prop :=
  ∀ rest, (hold guide turn (answers ++ rest)).next = .finish result ∧
    (hold guide turn (answers ++ rest)).left = rest

theorem Tells.finish (guide : Guide σ α) {turn : Turn σ α} {result : α}
    (h : turn.next = .finish result) : Tells guide turn [] result := by
  intro rest
  rw [List.nil_append, hold_finish guide h]
  exact ⟨rfl, rfl⟩

theorem Tells.ask {guide : Guide σ α} {turn : Turn σ α} {question : σ}
    (h : turn.next = .ask question) {text : String} {answers : List String} {result : α}
    (hrest : Tells guide (guide.answer question (trimmed text)) answers result) :
    Tells guide turn (text :: answers) result := by
  intro rest
  rw [List.cons_append, hold_ask_cons guide h]
  exact hrest rest

theorem Tells.answer {guide : Guide σ α} {turn : Turn σ α} {question : σ}
    (h : turn.next = .ask question) {text : String} (htext : trimmed text = text)
    {answers : List String} {result : α}
    (hrest : Tells guide (guide.answer question text) answers result) :
    Tells guide turn (text :: answers) result :=
  Tells.ask h (by rwa [htext])

theorem Tells.after {guide : Guide σ α} {turn : Turn σ α} {answers : List String} {result : α}
    (h : Tells guide turn answers result) (remarks : List Remark) :
    Tells guide (turn.after remarks) answers result := by
  intro rest
  rw [hold_after]
  exact h rest

/-! Two interviews may hold different questions open and yet go the same way. -/

inductive Next.Matches (related : σ → τ → Prop) : Next σ α → Next τ α → Prop
  | ask {question : σ} {other : τ} (h : related question other) :
      Matches related (.ask question) (.ask other)
  | finish (result : α) : Matches related (.finish result) (.finish result)

namespace Next.Matches

variable {related : σ → τ → Prop} {next : Next τ α}

theorem of_ask {question : σ} (h : Matches related (.ask question) next) :
    ∃ other, next = .ask other ∧ related question other := by
  cases h with
  | ask hrelated => exact ⟨_, rfl, hrelated⟩

theorem of_finish {result : α} (h : Matches related (.finish result) next) :
    next = .finish result := by
  cases h
  rfl

end Next.Matches

/-- Guides match on related questions if these are worded alike and every answer leads on to
related questions, or to one result. -/
structure Guide.Matches (guide : Guide σ α) (other : Guide τ α) (related : σ → τ → Prop) :
    Prop where
  wording : ∀ first second, related first second → guide.wording first = other.wording second
  answer : ∀ first second, related first second → ∀ text,
    (guide.answer first text).next.Matches related (other.answer second text).next

theorem Guide.Matches.hold {guide : Guide σ α} {other : Guide τ α} {related : σ → τ → Prop}
    (hguides : guide.Matches other related) {first : Turn σ α} {second : Turn τ α}
    (h : first.next.Matches related second.next) (answers : List String) :
    (hold guide first answers).outcome guide = (hold other second answers).outcome other ∧
      (hold guide first answers).left = (hold other second answers).left := by
  fun_induction Interview.hold guide first answers generalizing second with
  | case1 first answers result hfirst =>
      rw [hfirst] at h
      rw [hold_finish other h.of_finish]
      exact ⟨rfl, rfl⟩
  | case2 first question hfirst =>
      rw [hfirst] at h
      obtain ⟨asked, hsecond, hrelated⟩ := h.of_ask
      rw [hold_ask_nil other hsecond]
      refine ⟨?_, rfl⟩
      simp only [Held.outcome, hguides.wording question asked hrelated]
  | case3 first question text rest hfirst ih =>
      rw [hfirst] at h
      obtain ⟨asked, hsecond, hrelated⟩ := h.of_ask
      rw [hold_ask_cons other hsecond, Held.outcome_asked, Held.outcome_asked, Held.left_asked,
        Held.left_asked]
      exact ih (hguides.answer question asked hrelated (trimmed text))

/-! One interview may be held inside another one. -/

/-- The outer guide treats the embedded questions as the inner one does. -/
structure Guide.Embeds (inner : Guide σ α) (outer : Guide τ β) (embed : σ → τ)
    (continued : α → Turn τ β) : Prop where
  wording : ∀ question, outer.wording (embed question) = inner.wording question
  answer : ∀ question text,
    outer.answer (embed question) text = (inner.answer question text).within embed continued

theorem Turn.next_within (turn : Turn σ α) (embed : σ → τ) (continued : α → Turn τ β) :
    (turn.within embed continued).next =
      match turn.next with
      | .ask question => .ask (embed question)
      | .finish result => (continued result).next := by
  rcases turn with ⟨remarks, question | result⟩ <;> rfl

theorem Tells.within {inner : Guide σ α} {outer : Guide τ β} {embed : σ → τ}
    {continued : α → Turn τ β} (hembeds : inner.Embeds outer embed continued)
    {turn : Turn σ α} {answers more : List String} {middle : α} {result : β}
    (hinner : Tells inner turn answers middle)
    (houter : Tells outer (continued middle) more result) :
    Tells outer (turn.within embed continued) (answers ++ more) result := by
  induction answers generalizing turn with
  | nil =>
      intro rest
      cases hnext : turn.next with
      | finish found =>
          have hfound := (hinner []).1
          rw [hold_finish inner hnext] at hfound
          cases hfound
          have hsame : (turn.within embed continued).next = (continued middle).next := by
            rw [Turn.next_within, hnext]
          rw [List.nil_append, hold_congr outer hsame]
          exact houter rest
      | ask question =>
          have hfound := (hinner []).1
          rw [List.nil_append, hold_ask_nil inner hnext] at hfound
          cases hfound
  | cons text answers ih =>
      cases hnext : turn.next with
      | finish found =>
          have hleft := (hinner []).2
          rw [hold_finish inner hnext] at hleft
          cases hleft
      | ask question =>
          have hopen : (turn.within embed continued).next = .ask (embed question) := by
            rw [Turn.next_within, hnext]
          refine Tells.ask hopen ?_
          rw [hembeds.answer]
          refine ih fun rest => ?_
          have htold := hinner rest
          rw [List.cons_append, hold_ask_cons inner hnext] at htold
          exact htold

end SuiteScribe.Interview

namespace SuiteScribe.Answers

open Interview Text

/-! A source supplies a list of answers if it gives them one by one and is closed after the last
one. Where its output may fail, an operation may break off instead. -/

def Broken (result : Except Failure α) : Prop :=
  ∃ fault, result = .error (.terminal fault)

def reply (label : String) : List String → Except Failure String
  | [] => .error (.inputClosed label)
  | text :: _ => .ok (trimmed text)

structure Supply (σ : Type) [Answers σ] where
  fallible : Prop
  offers : σ → List String → Prop
  offers_ask : ∀ label s answers, offers s answers →
    (fallible ∧ Broken (ask label s).1) ∨
      ((ask label s).1 = reply label answers ∧ offers (ask label s).2 answers.tail)
  offers_say : ∀ text s answers, offers s answers →
    (fallible ∧ Broken (say text s).1) ∨
      ((say text s).1 = .ok () ∧ offers (say text s).2 answers)
  offers_note : ∀ notice s answers, offers s answers → offers (note notice s) answers

namespace Supply

variable [Answers σ] (supply : Supply σ)

theorem offers_remark (remarks : List Interview.Remark) {s : σ} {answers : List String}
    (h : supply.offers s answers) :
    (supply.fallible ∧ Broken (remark remarks s).1) ∨
      ((remark remarks s).1 = .ok () ∧ supply.offers (remark remarks s).2 answers) := by
  induction remarks generalizing s with
  | nil => exact .inr ⟨rfl, h⟩
  | cons first rest ih =>
      cases first with
      | note notice => exact ih (supply.offers_note notice s answers h)
      | say text =>
          have hsay := supply.offers_say text s answers h
          rcases said : say text s with ⟨_ | _, next⟩
          · simpa [remark, said] using hsay
          · rw [said] at hsay
            rcases hsay with ⟨-, fault, hbroken⟩ | ⟨-, hnext⟩
            · cases hbroken
            · simpa [remark, said] using ih hnext

/-! What an operation that went well, or failed, tells about the source. -/

section

variable {s next rest : σ} {answers : List String} {label : String} {failure : Failure}
  {remarks : List Interview.Remark}

theorem remark_failed (h : supply.offers s answers)
    (said : remark remarks s = (.error failure, next)) :
    supply.fallible ∧ ∃ fault, failure = .terminal fault := by
  have hremark := supply.offers_remark remarks h
  rw [said] at hremark
  rcases hremark with ⟨hfallible, fault, hbroken⟩ | ⟨hok, -⟩
  · cases hbroken
    exact ⟨hfallible, fault, rfl⟩
  · cases hok

theorem offers_said (h : supply.offers s answers) (said : remark remarks s = (.ok (), next)) :
    supply.offers next answers := by
  have hremark := supply.offers_remark remarks h
  rw [said] at hremark
  rcases hremark with ⟨-, fault, hbroken⟩ | ⟨-, hoffers⟩
  · cases hbroken
  · exact hoffers

theorem ask_failed (h : supply.offers s answers) (asked : ask label s = (.error failure, rest)) :
    (supply.fallible ∧ ∃ fault, failure = .terminal fault) ∨
      (answers = [] ∧ failure = .inputClosed label ∧ supply.offers rest []) := by
  have hask := supply.offers_ask label s answers h
  rw [asked] at hask
  rcases hask with ⟨hfallible, fault, hbroken⟩ | ⟨hreply, hrest⟩
  · cases hbroken
    exact .inl ⟨hfallible, fault, rfl⟩
  · cases answers with
    | nil =>
        cases hreply
        exact .inr ⟨rfl, rfl, hrest⟩
    | cons text answers => cases hreply

theorem offers_answered {text : String} (h : supply.offers s answers)
    (asked : ask label s = (.ok text, rest)) :
    ∃ first others, answers = first :: others ∧ text = trimmed first ∧
      supply.offers rest others := by
  have hask := supply.offers_ask label s answers h
  rw [asked] at hask
  rcases hask with ⟨-, fault, hbroken⟩ | ⟨hreply, hrest⟩
  · cases hbroken
  · cases answers with
    | nil => cases hreply
    | cons first others =>
        cases hreply
        exact ⟨first, others, rfl, rfl, hrest⟩

end

/-- Over a source an interview goes as it does over the list of answers that the source supplies. -/
theorem converse_eq_hold (guide : Guide τ α) (turn : Turn τ α) {s : σ} {answers : List String}
    (h : supply.offers s answers) :
    (supply.fallible ∧ Broken (converse guide turn s).1) ∨
      ((converse guide turn s).1 = (hold guide turn answers).outcome guide ∧
        prompts guide turn s = (hold guide turn answers).prompts ∧
        supply.offers (converse guide turn s).2 (hold guide turn answers).left) := by
  fun_induction converse guide turn s generalizing answers with
  | case1 turn s failure next said =>
      obtain ⟨hfallible, fault, rfl⟩ := supply.remark_failed h said
      exact .inl ⟨hfallible, fault, rfl⟩
  | case2 turn s next said result hnext =>
      rw [hold_finish guide hnext]
      exact .inr ⟨rfl, prompts_finish hnext, supply.offers_said h said⟩
  | case3 turn s next said question hnext failure rest asked =>
      rcases supply.ask_failed (supply.offers_said h said) asked with
        ⟨hfallible, fault, rfl⟩ | ⟨rfl, rfl, hrest⟩
      · exact .inl ⟨hfallible, fault, rfl⟩
      · rw [hold_ask_nil guide hnext]
        exact .inr ⟨rfl, prompts_ask_error said hnext asked, hrest⟩
  | case4 turn s next said question hnext text rest asked ih =>
      obtain ⟨first, others, rfl, rfl, hrest⟩ :=
        supply.offers_answered (supply.offers_said h said) asked
      rw [hold_ask_cons guide hnext]
      obtain hbroken | ⟨hresult, hprompts, hafter⟩ := ih hrest
      · exact .inl hbroken
      · refine .inr ⟨hresult, ?_, hafter⟩
        rw [prompts_ask said hnext asked, hprompts]
        rfl

end Supply

end SuiteScribe.Answers

namespace SuiteScribe

open Answers Interview Text

/-! Scripted answers are supplied as they stand, and a replay supplies what was recorded. -/

namespace Scripted

def supply : Supply Scripted where
  fallible := False
  offers source answers := source.answers = answers
  offers_ask label source answers h := by
    cases answers <;> exact .inr (by simp [Answers.ask, ask, reply, h])
  offers_say text source answers h := .inr ⟨rfl, h⟩
  offers_note notice source answers h := h

theorem converse_eq_hold (guide : Guide τ α) (turn : Turn τ α) (source : Scripted) :
    (converse guide turn source).1 = (hold guide turn source.answers).outcome guide ∧
      prompts guide turn source = (hold guide turn source.answers).prompts ∧
      (converse guide turn source).2.answers = (hold guide turn source.answers).left := by
  rcases supply.converse_eq_hold guide turn (s := source) rfl with ⟨hfallible, -⟩ | h
  · exact hfallible.elim
  · exact h

theorem settled_converse (guide : Guide τ α) (turn : Turn τ α) (source : Scripted) :
    Settled (converse guide turn source).1 := by
  rw [(converse_eq_hold guide turn source).1, Held.outcome]
  split <;> trivial

end Scripted

theorem Outlet.print_of_room {outlet : Outlet} (h : outlet.room = none) (text : String) :
    ∃ next, outlet.print text = (.ok (), next) ∧ next.room = none := by
  refine ⟨{ outlet with written := outlet.written ++ encode text }, ?_, h⟩
  rw [print, push, h]

namespace Replay

def recordedAnswers (source : Replay) : List String :=
  source.events.map (·.answer)

/-- Only where its output is limited may a replay break off. -/
def supply (limited : Prop) : Supply Replay where
  fallible := limited
  offers source answers := (source.outlet.room = none ∨ limited) ∧ source.recordedAnswers = answers
  offers_ask label source answers h := by
    obtain ⟨hroom, hanswers⟩ := h
    subst hanswers
    cases hevents : source.events with
    | nil => exact .inr (by simp [Answers.ask, ask, hevents, recordedAnswers, reply, hroom])
    | cons event events =>
        rcases hroom with hroom | hlimited
        · obtain ⟨outlet, hprint, hnext⟩ :=
            Outlet.print_of_room hroom (label ++ ": " ++ event.answer ++ "\n")
          exact .inr (by simp [Answers.ask, ask, hevents, hprint, recordedAnswers, reply, hnext])
        · rcases hprint : source.outlet.print (label ++ ": " ++ event.answer ++ "\n")
            with ⟨fault | _, outlet⟩
          · exact .inl ⟨hlimited, fault, by simp [Answers.ask, ask, hevents, hprint]⟩
          · exact .inr
              (by simp [Answers.ask, ask, hevents, hprint, recordedAnswers, reply, hlimited])
  offers_say text source answers h := by
    obtain ⟨hroom, hanswers⟩ := h
    have hevents := events_say text source
    rcases hroom with hroom | hlimited
    · obtain ⟨outlet, hprint, hnext⟩ := Outlet.print_of_room hroom (text ++ "\n")
      refine .inr ⟨by simp [Answers.say, say, hprint], .inl ?_, ?_⟩
      · simpa [Answers.say, say, hprint] using hnext
      · simpa [Answers.say, recordedAnswers, hevents] using hanswers
    · rcases hprint : source.outlet.print (text ++ "\n") with ⟨fault | _, outlet⟩
      · exact .inl ⟨hlimited, fault, by simp [Answers.say, say, hprint]⟩
      · exact .inr ⟨by simp [Answers.say, say, hprint], .inr hlimited,
          by simpa [Answers.say, recordedAnswers, hevents] using hanswers⟩
  offers_note notice source answers h := h

theorem not_broken (guide : Guide τ α) (turn : Turn τ α) {source : Replay}
    (h : source.outlet.room = none) : ¬ Broken (converse guide turn source).1 := by
  obtain ⟨hfallible, -⟩ | ⟨hresult, -⟩ :=
    (supply False).converse_eq_hold guide turn (s := source) ⟨.inl h, rfl⟩
  · exact hfallible.elim
  · rintro ⟨fault, hfault⟩
    rw [hresult, Held.outcome] at hfault
    split at hfault <;> cases hfault

end Replay

open Answers Interview

namespace Interview

/-! What a held interview takes of its answers. A finished one has taken as many as it asked for,
and would not have finished on fewer; an open one has taken all there were. -/

theorem hold_finished {guide : Guide σ α} {turn : Turn σ α} {answers : List String} {result : α}
    (h : (hold guide turn answers).next = .finish result) :
    ∃ taken, answers = taken ++ (hold guide turn answers).left ∧
      (hold guide turn answers).prompts.length = taken.length ∧
      Tells guide turn taken result ∧
      ∀ before, before <+: taken → before ≠ taken →
        ∃ question, (hold guide turn before).next = .ask question := by
  fun_induction hold guide turn answers with
  | case1 turn answers found hnext =>
      cases h
      refine ⟨[], rfl, rfl, Tells.finish guide hnext, fun before hbefore hne => ?_⟩
      exact absurd (List.prefix_nil.mp hbefore) hne
  | case2 turn question hnext => cases h
  | case3 turn question text answers hnext ih =>
      obtain ⟨taken, hanswers, hlength, htells, hfewer⟩ := ih h
      refine ⟨text :: taken, congrArg (text :: ·) hanswers, congrArg (· + 1) hlength,
        Tells.ask hnext htells, fun before hbefore hne => ?_⟩
      cases before with
      | nil => exact ⟨question, by rw [hold_ask_nil guide hnext]⟩
      | cons other before =>
          obtain ⟨rfl, hrest⟩ := List.cons_prefix_cons.mp hbefore
          rw [hold_ask_cons guide hnext]
          exact hfewer before hrest fun heq => hne (congrArg (other :: ·) heq)

theorem hold_open {guide : Guide σ α} {turn : Turn σ α} {answers : List String} {question : σ}
    (h : (hold guide turn answers).next = .ask question) :
    (hold guide turn answers).left = [] ∧
      (hold guide turn answers).prompts.length = answers.length + 1 ∧
      (hold guide turn answers).prompts.getLast? = some (guide.wording question) := by
  fun_induction hold guide turn answers with
  | case1 turn answers found hnext => cases h
  | case2 turn first hnext =>
      cases h
      exact ⟨rfl, rfl, rfl⟩
  | case3 turn first text answers hnext ih =>
      obtain ⟨hleft, hlength, hlast⟩ := ih h
      refine ⟨hleft, congrArg (· + 1) hlength, ?_⟩
      rw [Held.asked, List.getLast?_cons, hlast]
      rfl

end Interview

namespace Scripted

/-! A script keeps the prompts that it was asked, answered or not. -/

theorem asked_remark {remarks : List Remark} {source next : Scripted}
    {result : Except Failure Unit} (said : remark remarks source = (result, next)) :
    next.asked = source.asked := by
  have hsay : ∀ text (other : Scripted), other.asked = source.asked →
      (Answers.say text other).2.asked = source.asked := fun _ _ h => h
  have hnote : ∀ notice, .note notice ∈ remarks → ∀ other : Scripted,
      other.asked = source.asked → (Answers.note notice other).asked = source.asked :=
    fun _ _ _ h => h
  have hnext := remark_preserves hsay hnote rfl
  rwa [said] at hnext

theorem asked_ask (label : String) (source : Scripted) :
    (Answers.ask label source).2.asked = source.asked ++ [label] := by
  cases hanswers : source.answers <;> simp [Answers.ask, ask, hanswers]

theorem asked_converse (guide : Guide τ α) (turn : Turn τ α) (source : Scripted) :
    (converse guide turn source).2.asked = source.asked ++ prompts guide turn source := by
  fun_induction converse guide turn source with
  | case1 turn source failure next said =>
      exact (supply.remark_failed rfl said).1.elim
  | case2 turn source next said result hnext =>
      rw [prompts_finish hnext, List.append_nil, asked_remark said]
  | case3 turn source next said question hnext failure rest asked =>
      have hlast := asked_ask (guide.wording question) next
      rw [asked] at hlast
      rw [prompts_ask_error said hnext asked, hlast, asked_remark said]
  | case4 turn source next said question hnext text rest asked ih =>
      have hlast := asked_ask (guide.wording question) next
      rw [asked] at hlast
      rw [prompts_ask said hnext asked, ih, hlast, asked_remark said, List.append_assoc,
        List.singleton_append]

/-- A run over scripted answers is frugal if it ends in one of two ways. Either it has a result,
asked once for each answer that it took, comes to the same result whatever follows these answers
and has none on fewer of them; or it took all answers and waits for one more. -/
def Frugal (run : Scripted → Except Failure α × Scripted) : Prop :=
  ∀ answers : List String,
    (∃ result taken,
      (run { answers }).1 = .ok result ∧
        answers = taken ++ (run { answers }).2.answers ∧
        (run { answers }).2.asked.length = taken.length ∧
        (∀ more, (run { answers := taken ++ more }).1 = .ok result ∧
          (run { answers := taken ++ more }).2.answers = more) ∧
        ∀ before, before <+: taken → before ≠ taken →
          ∃ prompt, (run { answers := before }).1 = .error (.inputClosed prompt)) ∨
    ∃ prompt,
      (run { answers }).1 = .error (.inputClosed prompt) ∧
        (run { answers }).2.answers = [] ∧
        (run { answers }).2.asked.length = answers.length + 1 ∧
        (run { answers }).2.asked.getLast? = some prompt

theorem frugal_converse (guide : Guide τ α) (turn : Turn τ α) :
    Frugal (converse (σ := Scripted) guide turn) := by
  intro answers
  have hruns : ∀ answers : List String,
      (converse guide turn ({ answers } : Scripted)).1 =
          (hold guide turn answers).outcome guide ∧
        prompts guide turn ({ answers } : Scripted) = (hold guide turn answers).prompts ∧
        (converse guide turn ({ answers } : Scripted)).2.answers =
          (hold guide turn answers).left :=
    fun answers => converse_eq_hold guide turn { answers }
  have hasked : (converse guide turn ({ answers } : Scripted)).2.asked =
      (hold guide turn answers).prompts := by
    rw [asked_converse, (hruns answers).2.1]
    rfl
  cases hnext : (hold guide turn answers).next with
  | finish result =>
      obtain ⟨taken, hanswers, hlength, htells, hfewer⟩ := hold_finished hnext
      refine .inl ⟨result, taken, ?_, ?_, ?_, fun more => ?_, fun before hbefore hne => ?_⟩
      · rw [(hruns answers).1, Held.outcome, hnext]
      · rw [(hruns answers).2.2]
        exact hanswers
      · rw [hasked, hlength]
      · rw [(hruns (taken ++ more)).1, (hruns (taken ++ more)).2.2, Held.outcome,
          (htells more).1]
        exact ⟨rfl, (htells more).2⟩
      · obtain ⟨question, hopen⟩ := hfewer before hbefore hne
        exact ⟨guide.wording question, by rw [(hruns before).1, Held.outcome, hopen]⟩
  | ask question =>
      obtain ⟨hleft, hlength, hlast⟩ := hold_open hnext
      refine .inr ⟨guide.wording question, ?_, ?_, ?_, ?_⟩
      · rw [(hruns answers).1, Held.outcome, hnext]
      · rw [(hruns answers).2.2, hleft]
      · rw [hasked, hlength]
      · rw [hasked, hlast]

end Scripted

/-- Over any script a suite is either collected, from no more answers than were asked for, or the
script runs out under a prompt; with the banner in front and without it. The same run with the
loops of the collector, which ask in every round, is `Collector.collectSuite`. -/
theorem Interview.SuiteQuestion.collected_frugally (options : Options) :
    Scripted.Frugal (converse (SuiteQuestion.guide options) SuiteQuestion.start) ∧
      Scripted.Frugal (Command.collectSuite options) :=
  ⟨Scripted.frugal_converse _ _, Scripted.frugal_converse _ _⟩

end SuiteScribe
