import SuiteScribe.Json

namespace SuiteScribe

open Json

/-! One answered prompt of a session, numbered from one. -/

structure Event where
  seq : Nat
  prompt : String
  answer : String
  timestampMs : Nat := 0
  deriving DecidableEq, Repr

/-- An event but for its time. -/
def Event.entry (event : Event) : Nat × String × String :=
  (event.seq, event.prompt, event.answer)

/-! A line of a transcript file is one event in JSON: an object, or an array of its parts in order.
The time may be left out. -/

inductive LineFault
  | malformed
  | missingField (name : String)
  deriving DecidableEq, Repr

namespace Event

def seqLimit : Nat := Nat.pow 2 64

def timeLimit : Nat := Nat.pow 2 128

def naturalBelow? (limit : Nat) (value : Json) : Option Nat :=
  value.natural?.bind fun n => if n < limit then some n else none

/-! The members of an event. Others are passed over; one of these may not repeat. -/

structure Members where
  seq : Option Nat := none
  prompt : Option String := none
  answer : Option String := none
  timestampMs : Option Nat := none

namespace Members

def set? (members : Members) (name : String) (value : Json) : Option Members :=
  if name == "seq" then
    if members.seq.isSome then none
    else (naturalBelow? seqLimit value).map fun n => { members with seq := some n }
  else if name == "prompt" then
    if members.prompt.isSome then none
    else value.text?.map fun text => { members with prompt := some text }
  else if name == "answer" then
    if members.answer.isSome then none
    else value.text?.map fun text => { members with answer := some text }
  else if name == "timestamp_ms" then
    if members.timestampMs.isSome then none
    else (naturalBelow? timeLimit value).map fun n => { members with timestampMs := some n }
  else some members

def gather? : Members → List (Option String × Json) → Option Members
  | members, [] => some members
  | _, (none, _) :: _ => none
  | members, (some name, value) :: rest =>
      match members.set? name value with
      | some next => gather? next rest
      | none => none

def event (members : Members) : Except LineFault Event :=
  match members.seq with
  | none => .error (.missingField "seq")
  | some seq =>
      match members.prompt with
      | none => .error (.missingField "prompt")
      | some prompt =>
          match members.answer with
          | none => .error (.missingField "answer")
          | some answer =>
              .ok { seq, prompt, answer, timestampMs := members.timestampMs.getD 0 }

end Members

def ofParts? : List Json → Option Event
  | [seq, prompt, answer] => do
      return {
        seq := ← naturalBelow? seqLimit seq
        prompt := ← prompt.text?
        answer := ← answer.text? }
  | [seq, prompt, answer, time] => do
      return {
        seq := ← naturalBelow? seqLimit seq
        prompt := ← prompt.text?
        answer := ← answer.text?
        timestampMs := ← naturalBelow? timeLimit time }
  | _ => none

def ofJson : Json → Except LineFault Event
  | .object members =>
      match Members.gather? {} members with
      | some found => found.event
      | none => .error .malformed
  | .array parts =>
      match ofParts? parts with
      | some event => .ok event
      | none => .error .malformed
  | _ => .error .malformed

/-- The event of a line. What an object lacks counts before anything that stands after it. -/
def ofLine (line : List Char) : Except LineFault Event :=
  match first? line with
  | none => .error .malformed
  | some (value, rest) =>
      match ofJson value with
      | .error fault => .error fault
      | .ok event => if rest.isEmpty then .ok event else .error .malformed

/-! Events are written as objects without white space. -/

def lineChars (event : Event) : List Char :=
  "\x7b\"seq\":".toList ++ Text.decimal event.seq ++
  ",\"prompt\":".toList ++ quoted event.prompt ++
  ",\"answer\":".toList ++ quoted event.answer ++
  ",\"timestamp_ms\":".toList ++ Text.decimal event.timestampMs ++ ['\x7d']

def line (event : Event) : String :=
  String.ofList event.lineChars

end Event

end SuiteScribe
