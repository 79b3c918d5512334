import SuiteScribe.Answers.Source

namespace SuiteScribe

open Text

/-! Where prompts and remarks are written. An outlet may have room for so many bytes only; what
fits is written, and the rest is a fault. -/

structure Outlet where
  written : Bytes := []
  room : Option Nat := none

namespace Outlet

def push (outlet : Outlet) (bytes : Bytes) : Except Fault Unit × Outlet :=
  match outlet.room with
  | none => (.ok (), { outlet with written := outlet.written ++ bytes })
  | some room =>
      (if bytes.length ≤ room then .ok () else .error .outputFull,
        { written := outlet.written ++ bytes.take room
          room := some (room - bytes.length) })

def print (outlet : Outlet) (text : String) : Except Fault Unit × Outlet :=
  outlet.push (encode text)

end Outlet

/-! Answers typed line by line. A line that is not text is read and refused. -/

structure Terminal where
  input : Bytes
  outlet : Outlet := {}
  journal : List Notice := []

namespace Terminal

def lineFeed : UInt8 := 10

/-- The first line without its line feed. -/
def firstLine (input : Bytes) : Bytes :=
  input.takeWhile (· != lineFeed)

def afterFirstLine (input : Bytes) : Bytes :=
  (input.dropWhile (· != lineFeed)).drop 1

def answerLine (label : String) (source : Terminal) : Except Failure String × Terminal :=
  if source.input.isEmpty then (.error (.inputClosed label), source)
  else
    let next := { source with input := afterFirstLine source.input }
    match decode? (firstLine source.input) with
    | some text => (.ok (trimmed text), next)
    | none => (.error (.terminal .invalidText), next)

def ask (label : String) (source : Terminal) : Except Failure String × Terminal :=
  match source.outlet.print (label ++ ": ") with
  | (.ok (), outlet) => answerLine label { source with outlet }
  | (.error fault, outlet) => (.error (.terminal fault), { source with outlet })

def say (text : String) (source : Terminal) : Except Failure Unit × Terminal :=
  match source.outlet.print (text ++ "\n") with
  | (.ok (), outlet) => (.ok (), { source with outlet })
  | (.error fault, outlet) => (.error (.terminal fault), { source with outlet })

def note (notice : Notice) (source : Terminal) : Terminal :=
  { source with journal := source.journal ++ [notice] }

theorem length_afterFirstLine {input : Bytes} (h : input ≠ []) :
    (afterFirstLine input).length < input.length := by
  have shorter := (List.dropWhile_sublist (l := input) (· != lineFeed)).length_le
  have positive := List.length_pos_iff.mpr h
  rw [afterFirstLine, List.length_drop]
  omega

theorem answerLine_ok {label text : String} {source : Terminal}
    (h : (source.answerLine label).1 = .ok text) :
    source.input ≠ [] ∧ (∃ line, decode? (firstLine source.input) = some line ∧
      text = trimmed line) ∧
      (source.answerLine label).2 =
        { source with input := afterFirstLine source.input } := by
  by_cases hempty : source.input.isEmpty
  · simp [answerLine, hempty] at h
  · cases hline : decode? (firstLine source.input) with
    | none => simp [answerLine, hempty, hline] at h
    | some line =>
        simp only [answerLine, hempty, hline, Bool.false_eq_true, if_false, Except.ok.injEq] at h
        refine ⟨fun hnil => hempty (by simp [hnil]), ⟨line, rfl, h.symm⟩, ?_⟩
        simp [answerLine, hempty, hline]

theorem ask_ok {label text : String} {source : Terminal}
    (h : (source.ask label).1 = .ok text) :
    source.input ≠ [] ∧ (∃ line, decode? (firstLine source.input) = some line ∧
      text = trimmed line) ∧
      (source.ask label).2.input = afterFirstLine source.input := by
  rcases hprint : source.outlet.print (label ++ ": ") with ⟨_ | _, outlet⟩
  · simp [ask, hprint] at h
  · simp only [ask, hprint] at h ⊢
    obtain ⟨hne, hline, hnext⟩ := answerLine_ok h
    exact ⟨hne, hline, by rw [hnext]⟩

theorem ask_closed {label prompt : String} {source : Terminal}
    (h : (source.ask label).1 = .error (.inputClosed prompt)) : prompt = label := by
  rcases hprint : source.outlet.print (label ++ ": ") with ⟨_ | _, outlet⟩
  · simp [ask, hprint] at h
  · simp only [ask, hprint, answerLine] at h
    split at h
    · cases h
      rfl
    · split at h <;> simp at h

theorem say_open (text prompt : String) (source : Terminal) :
    (source.say text).1 ≠ .error (.inputClosed prompt) := by
  rcases hprint : source.outlet.print (text ++ "\n") with ⟨_ | _, outlet⟩ <;> simp [say, hprint]

theorem input_say (text : String) (source : Terminal) :
    (source.say text).2.input = source.input := by
  rcases hprint : source.outlet.print (text ++ "\n") with ⟨_ | _, outlet⟩ <;> simp [say, hprint]

instance : Answers Terminal where
  ask := ask
  say := say
  note := note
  pending source := source.input.length
  pending_ask label source text h := by
    obtain ⟨hne, _, hnext⟩ := ask_ok h
    rw [hnext]
    exact length_afterFirstLine hne
  pending_say text source := Nat.le_of_eq (congrArg List.length (input_say text source))
  pending_note _ _ := Nat.le_refl _
  trimmed_ask label source text h := by
    obtain ⟨_, ⟨line, _, htext⟩, _⟩ := ask_ok h
    rw [htext, trimmed_trimmed]
  closed_ask _ _ _ := ask_closed
  open_say text source prompt := say_open text prompt source

end Terminal

end SuiteScribe
