import SuiteScribe.Answers.Source

namespace SuiteScribe

open Text

/-! Answers from a fixed list, in order. What is asked and said is kept. -/

structure Scripted where
  answers : List String
  asked : List String := []
  shown : List String := []
  journal : List Notice := []

namespace Scripted

def ask (label : String) (source : Scripted) : Except Failure String × Scripted :=
  let next := { source with asked := source.asked ++ [label] }
  match source.answers with
  | [] => (.error (.inputClosed label), next)
  | text :: rest => (.ok (trimmed text), { next with answers := rest })

def say (text : String) (source : Scripted) : Except Failure Unit × Scripted :=
  (.ok (), { source with shown := source.shown ++ [text] })

def note (notice : Notice) (source : Scripted) : Scripted :=
  { source with journal := source.journal ++ [notice] }

theorem ask_closed {label prompt : String} {source : Scripted}
    (h : (source.ask label).1 = .error (.inputClosed prompt)) : prompt = label := by
  cases hanswers : source.answers with
  | nil =>
      simp only [ask, hanswers, Except.error.injEq, Failure.inputClosed.injEq] at h
      exact h.symm
  | cons first rest => simp [ask, hanswers] at h

theorem ask_ok {label text : String} {source : Scripted}
    (h : (source.ask label).1 = .ok text) :
    ∃ first rest, source.answers = first :: rest ∧ text = trimmed first ∧
      (source.ask label).2.answers = rest := by
  cases hanswers : source.answers with
  | nil => simp [ask, hanswers] at h
  | cons first rest =>
      simp only [ask, hanswers, Except.ok.injEq] at h
      exact ⟨first, rest, rfl, h.symm, by simp [ask, hanswers]⟩

instance : Answers Scripted where
  ask := ask
  say := say
  note := note
  pending source := source.answers.length
  pending_ask label source text h := by
    obtain ⟨first, rest, hanswers, _, hrest⟩ := ask_ok h
    simp [hanswers, hrest]
  pending_say _ _ := Nat.le_refl _
  pending_note _ _ := Nat.le_refl _
  trimmed_ask label source text h := by
    obtain ⟨first, rest, _, htext, _⟩ := ask_ok h
    rw [htext, trimmed_trimmed]
  closed_ask _ _ _ := ask_closed
  open_say _ _ _ := nofun

end Scripted

end SuiteScribe
