import SuiteScribe.Proofs.Answers.Supply

namespace SuiteScribe

open Text
open Answers hiding ask say note remark

namespace Interview

/-! Acts over a source of answers: each one has a result, or a failure that ends everything. -/

abbrev Asking (σ α : Type) := ExceptT Failure (StateM σ) α

namespace Asking

def run (act : Asking σ α) (source : σ) : Except Failure α × σ :=
  act source

theorem ext {first second : Asking σ α} (h : ∀ source, first.run source = second.run source) :
    first = second :=
  funext h

@[simp] theorem run_pure (value : α) (source : σ) :
    run (pure value) source = (.ok value, source) := rfl

theorem run_bind (act : Asking σ α) (next : α → Asking σ β) (source : σ) :
    run (act >>= next) source =
      match act.run source with
      | (.ok value, rest) => (next value).run rest
      | (.error failure, rest) => (.error failure, rest) := by
  change (ExceptT.bindCont next (act.run source).1 : StateM σ _) (act.run source).2 = _
  rcases act.run source with ⟨failure | value, rest⟩ <;> rfl

variable [Answers σ]

def ask (label : String) : Asking σ String :=
  fun source => Answers.ask label source

def say (text : String) : Asking σ Unit :=
  fun source => Answers.say text source

def note (notice : Notice) : Asking σ Unit :=
  fun source => (.ok (), Answers.note notice source)

def remark (remarks : List Remark) : Asking σ Unit :=
  fun source => Answers.remark remarks source

@[simp] theorem remark_nil : (remark [] : Asking σ Unit) = pure () := rfl

@[simp] theorem remark_say (text : String) (rest : List Remark) :
    (remark (.say text :: rest) : Asking σ Unit) = (do say text; remark rest) := by
  refine ext fun source => ?_
  rw [run_bind, run, remark, Answers.remark, run, say]
  rcases Answers.say text source with ⟨_ | _, next⟩ <;> rfl

@[simp] theorem remark_note (notice : Notice) (rest : List Remark) :
    (remark (.note notice :: rest) : Asking σ Unit) = (do note notice; remark rest) :=
  ext fun _ => rfl

theorem remark_append (first second : List Remark) :
    (remark (first ++ second) : Asking σ Unit) = (do remark first; remark second) := by
  induction first with
  | nil => rw [List.nil_append, remark_nil, pure_bind]
  | cons head rest ih =>
      cases head <;> simp only [List.cons_append, remark_say, remark_note, ih, bind_assoc]

/-! What an act uses up: where it has a result, at least so many answers fewer are pending, and the
result is as it is said to be. -/

def Spends (act : Asking σ α) (count : Nat) (post : α → Prop) : Prop :=
  ∀ source value rest, act.run source = (.ok value, rest) →
    post value ∧ pending rest + count ≤ pending source

section

variable {act : Asking σ α} {count more : Nat} {post : α → Prop}

theorem spends_pure {value : α} (h : post value) : Spends (pure value : Asking σ α) 0 post := by
  intro source found rest hrun
  cases hrun
  exact ⟨h, Nat.le_refl _⟩

theorem Spends.bind (h : Spends act count post) {next : α → Asking σ β} {after : β → Prop}
    (hnext : ∀ value, post value → Spends (next value) more after) :
    Spends (act >>= next) (count + more) after := by
  intro source found rest hrun
  rw [run_bind] at hrun
  rcases hact : act.run source with ⟨failure | value, middle⟩
  · rw [hact] at hrun
    cases hrun
  · rw [hact] at hrun
    obtain ⟨hvalue, hfewer⟩ := h source value middle hact
    obtain ⟨hfound, hrest⟩ := hnext value hvalue middle found rest hrun
    exact ⟨hfound, by omega⟩

theorem Spends.first (h : Spends act count post) {next : α → Asking σ β} {after : β → Prop}
    (hnext : ∀ value, post value → Spends (next value) 0 after) :
    Spends (act >>= next) count after :=
  h.bind hnext

theorem Spends.then (h : Spends act 0 post) {next : α → Asking σ β} {after : β → Prop}
    (hnext : ∀ value, post value → Spends (next value) count after) :
    Spends (act >>= next) count after :=
  Nat.zero_add count ▸ h.bind hnext

/-- What comes after an act is looked at for the results of the act alone. -/
theorem Spends.bind_congr (h : Spends act count post) {first second : α → Asking σ β}
    (hsame : ∀ value, post value → first value = second value) :
    (do first (← act)) = (do second (← act)) := by
  refine ext fun source => ?_
  rw [run_bind, run_bind]
  rcases hact : act.run source with ⟨failure | value, rest⟩
  · rfl
  · dsimp only
    rw [hsame value (h source value rest hact).1]

theorem Spends.mono (h : Spends act count post) {fewer : Nat} {weaker : α → Prop}
    (hcount : fewer ≤ count) (hpost : ∀ value, post value → weaker value) :
    Spends act fewer weaker := by
  intro source value rest hrun
  obtain ⟨hvalue, hspent⟩ := h source value rest hrun
  exact ⟨hpost value hvalue, by omega⟩

theorem Spends.any (h : Spends act count post) : Spends act 0 fun _ => True :=
  h.mono (Nat.zero_le _) fun _ _ => trivial

end

theorem spends_ask (label : String) :
    Spends (ask label : Asking σ String) 1 fun text => trimmed text = text := by
  intro source text rest hrun
  have hfewer := pending_ask label source text (congrArg Prod.fst hrun)
  have htrimmed := trimmed_ask label source text (congrArg Prod.fst hrun)
  have hrest : (Answers.ask label source).2 = rest := congrArg Prod.snd hrun
  rw [hrest] at hfewer
  exact ⟨htrimmed, hfewer⟩

section

variable {act : Asking σ α} {count : Nat} {post : α → Prop}

theorem Spends.after_ask {label : String} {next : String → Asking σ α}
    (h : ∀ text, trimmed text = text → Spends (next text) 0 post) :
    Spends (do next (← ask label)) 1 post :=
  (spends_ask label).bind h

theorem Spends.after_say (h : Spends act count post) (text : String) :
    Spends (do say text; act) count post := by
  intro source value rest hrun
  have hfewer := pending_say text source
  rw [run_bind] at hrun
  rcases hsaid : (say text : Asking σ Unit).run source with ⟨failure | _, next⟩
  · rw [hsaid] at hrun
    cases hrun
  · rw [hsaid] at hrun
    have hnext : (Answers.say text source).2 = next := congrArg Prod.snd hsaid
    obtain ⟨hvalue, hspent⟩ := h next value rest hrun
    rw [hnext] at hfewer
    exact ⟨hvalue, by omega⟩

theorem Spends.after_note (h : Spends act count post) (notice : Notice) :
    Spends (do note notice; act) count post := by
  intro source value rest hrun
  have hfewer := pending_note notice source
  obtain ⟨hvalue, hspent⟩ := h (Answers.note notice source) value rest hrun
  exact ⟨hvalue, by omega⟩

end

/-! A loop goes round by round: a round ends it or leads to the next state. A loop whose rounds all
ask, the last one perhaps excepted, comes to an end. -/

def Asks (round : Asking σ (β ⊕ α)) : Prop :=
  ∀ source next rest, round.run source = (.ok (.inl next), rest) → pending rest < pending source

theorem Spends.asks {round : Asking σ (β ⊕ α)} {post : β ⊕ α → Prop}
    (h : Spends round 1 post) : Asks round :=
  fun source next rest hrun => (h source (.inl next) rest hrun).2

set_option linter.unusedVariables false in
def loopFrom (round : β → Asking σ (β ⊕ α)) (hround : ∀ state, Asks (round state)) (state : β)
    (source : σ) : Except Failure α × σ :=
  match h : (round state).run source with
  | (.error failure, rest) => (.error failure, rest)
  | (.ok (.inr result), rest) => (.ok result, rest)
  | (.ok (.inl next), rest) => loopFrom round hround next rest
termination_by pending source
decreasing_by exact hround state source next rest h

def loop (round : β → Asking σ (β ⊕ α)) (hround : ∀ state, Asks (round state)) (state : β) :
    Asking σ α :=
  fun source => loopFrom round hround state source

theorem run_loop (round : β → Asking σ (β ⊕ α)) (hround : ∀ state, Asks (round state))
    (state : β) (source : σ) :
    (loop round hround state).run source =
      match (round state).run source with
      | (.error failure, rest) => (.error failure, rest)
      | (.ok (.inr result), rest) => (.ok result, rest)
      | (.ok (.inl next), rest) => (loop round hround next).run rest := by
  rw [run, loop, loopFrom]
  split
  · next hrun => rw [hrun]
  · next hrun => rw [hrun]
  · next hrun =>
      rw [hrun]
      rfl

/-- A loop and what comes after it are one act if this act begins with a round. Only the states that
the rounds keep to need to be looked at. -/
theorem loop_bind_kept {round : β → Asking σ (β ⊕ α)} {hround : ∀ state, Asks (round state)}
    (kept : β → Prop) (act : β → Asking σ γ) {after : α → Asking σ γ}
    (hkept : ∀ state, kept state → ∀ source next rest,
      (round state).run source = (.ok (.inl next), rest) → kept next)
    (hact : ∀ state, kept state → act state = (do
      match ← round state with
      | .inl next => act next
      | .inr result => after result))
    {state : β} (h : kept state) : (do after (← loop round hround state)) = act state := by
  refine ext fun source => ?_
  induction hpending : pending source using Nat.strongRecOn generalizing state source with
  | ind count ih =>
      rw [hact state h, run_bind, run_bind, run_loop]
      rcases hrun : (round state).run source with ⟨failure | next | result, rest⟩
      · rfl
      · have hfewer := hround state source next rest hrun
        have hnext := hkept state h source next rest hrun
        have hrest := ih (pending rest) (hpending ▸ hfewer) hnext rest rfl
        rw [run_bind] at hrest
        exact hrest
      · rfl

theorem loop_bind {round : β → Asking σ (β ⊕ α)} {hround : ∀ state, Asks (round state)}
    (act : β → Asking σ γ) {after : α → Asking σ γ}
    (hact : ∀ state, act state = (do
      match ← round state with
      | .inl next => act next
      | .inr result => after result))
    (state : β) : (do after (← loop round hround state)) = act state :=
  loop_bind_kept (fun _ => True) act (fun _ _ _ _ _ _ => trivial) (fun state _ => hact state)
    trivial

theorem spends_loop {round : β → Asking σ (β ⊕ α)} {hround : ∀ state, Asks (round state)}
    {count : Nat} {post : α → Prop}
    (hpost : ∀ state, Spends (round state) count fun reached =>
      ∀ result, reached = .inr result → post result)
    (state : β) : Spends (loop round hround state) count post := by
  intro source value rest hrun
  induction hpending : pending source using Nat.strongRecOn generalizing state source with
  | ind bound ih =>
      rw [run_loop] at hrun
      rcases hstep : (round state).run source with ⟨failure | next | result, middle⟩
      · rw [hstep] at hrun
        cases hrun
      · rw [hstep] at hrun
        have hfewer := hround state source next middle hstep
        obtain ⟨hvalue, hrest⟩ := ih (pending middle) (hpending ▸ hfewer) next middle hrun rfl
        exact ⟨hvalue, by omega⟩
      · rw [hstep] at hrun
        cases hrun
        obtain ⟨hvalue, hrest⟩ := hpost state source (.inr value) rest hstep
        exact ⟨hvalue value rfl, hpending ▸ hrest⟩

theorem spends_loop_any {round : β → Asking σ (β ⊕ α)} {hround : ∀ state, Asks (round state)}
    (h : ∀ state, Spends (round state) 0 fun _ => True) (state : β) :
    Spends (loop round hround state) 0 fun _ => True :=
  spends_loop (fun state => (h state).mono (Nat.le_refl _) fun _ _ _ _ => trivial) state

/-! The interview from a turn on, as an act. -/

def conversing (guide : Guide τ α) (turn : Turn τ α) : Asking σ α :=
  fun source => converse guide turn source

section

variable (guide : Guide τ α)

theorem conversing_eq (turn : Turn τ α) :
    (conversing guide turn : Asking σ α) = (do
      remark turn.remarks
      match turn.next with
      | .finish result => return result
      | .ask question =>
          conversing guide (guide.answer question (← ask (guide.wording question)))) := by
  refine ext fun source => ?_
  rw [run_bind, run, conversing, converse_turn, run, remark]
  rcases Answers.remark turn.remarks source with ⟨_ | _, next⟩
  · rfl
  · cases turn.next with
    | finish result => rfl
    | ask question =>
        dsimp only
        rw [run_bind, run, ask]
        rcases Answers.ask (guide.wording question) next with ⟨_ | _, rest⟩ <;> rfl

theorem conversing_finish (result : α) :
    (conversing guide (.finish result) : Asking σ α) = pure result := by
  rw [conversing_eq]
  rfl

theorem conversing_ask (question : τ) :
    (conversing guide (.ask question) : Asking σ α) = (do
      conversing guide (guide.answer question (← ask (guide.wording question)))) := by
  rw [conversing_eq]
  rfl

theorem conversing_after (turn : Turn τ α) (remarks : List Remark) :
    (conversing guide (turn.after remarks) : Asking σ α) = (do
      remark remarks
      conversing guide turn) := by
  rw [conversing_eq, conversing_eq guide turn, Turn.after, remark_append, bind_assoc]

theorem conversing_retry (hint : String) (question : τ) :
    (conversing guide (.retry hint question) : Asking σ α) = (do
      say hint
      conversing guide (.ask question)) := by
  change conversing guide ((Turn.ask question).after [.say hint]) = _
  rw [conversing_after, remark_say, remark_nil, bind_assoc]
  simp only [pure_bind]

end

/-- An interview inside another one is held first, and the other one goes on with its result. -/
theorem conversing_within {inner : Guide τ α} {outer : Guide υ β} {embed : τ → υ}
    {continued : α → Turn υ β} (hembeds : inner.Embeds outer embed continued) (turn : Turn τ α) :
    (conversing outer (turn.within embed continued) : Asking σ β) = (do
      conversing outer (continued (← conversing inner turn))) := by
  refine ext fun source => ?_
  induction hpending : pending source using Nat.strongRecOn generalizing turn source with
  | ind count ih =>
      obtain ⟨remarks, question | result⟩ := turn
      · rw [conversing_eq, conversing_eq inner, bind_assoc, run_bind, run_bind]
        have hspent := pending_remark remarks source
        rcases hsaid : (remark remarks : Asking σ Unit).run source with ⟨failure | _, next⟩
        · rw [Turn.within]
          dsimp only
          rw [hsaid]
        · have hnext : (Answers.remark remarks source).2 = next := congrArg Prod.snd hsaid
          rw [hnext] at hspent
          rw [Turn.within]
          dsimp only
          rw [hsaid]
          dsimp only
          rw [bind_assoc, run_bind, run_bind, hembeds.wording]
          rcases hasked : (ask (inner.wording question) : Asking σ String).run next with
            ⟨failure | text, rest⟩
          · rfl
          · have hfewer := (spends_ask (inner.wording question) next text rest hasked).2
            dsimp only
            rw [hembeds.answer]
            exact ih (pending rest) (by omega) (inner.answer question text) rest rfl
      · change (conversing outer ((continued result).after remarks)).run source = _
        rw [conversing_after, conversing_eq inner, bind_assoc]
        rfl

end Asking

end Interview

end SuiteScribe
