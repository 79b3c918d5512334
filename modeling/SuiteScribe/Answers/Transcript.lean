import SuiteScribe.Answers.Terminal

namespace SuiteScribe.Transcript

open Text

/-! Transcript files hold one event a line. Blank lines count as lines but hold nothing, and the
first line that holds no event decides what is wrong. -/

def loadLines (path : String) (number : Nat) : List Bytes → Except Failure (List Event)
  | [] => .ok []
  | line :: rest =>
      match decode? line with
      | none => .error (.transcript path .invalidText)
      | some text =>
          if blank text then loadLines path (number + 1) rest
          else
            match Event.ofLine text.toList with
            | .error fault => .error (.transcriptLine number fault)
            | .ok event => (loadLines path (number + 1) rest).map (event :: ·)

def load (path : String) (bytes : Bytes) : Except Failure (List Event) :=
  loadLines path 1 (byteLines bytes)

/-- The file of a list of events. -/
def fileText (events : List Event) : String :=
  String.join (events.map fun event => event.line ++ "\n")

end SuiteScribe.Transcript

namespace SuiteScribe

open Text

/-! Answers from a recorded transcript. The recorded answer counts even where it was given to
another prompt; that is worth a warning. An event is used up whether or not its echo is written. -/

structure Replay where
  events : List Event
  outlet : Outlet := {}
  journal : List Notice := []

namespace Replay

def mismatchNotice : Notice :=
  ⟨.warn, "transcript prompt mismatch, using recorded answer"⟩

def promptNotices (label : String) (event : Event) : List Notice :=
  if event.prompt == label then [] else [mismatchNotice]

def ask (label : String) (source : Replay) : Except Failure String × Replay :=
  match source.events with
  | [] => (.error (.inputClosed label), source)
  | event :: rest =>
      let journal := source.journal ++ promptNotices label event
      match source.outlet.print (label ++ ": " ++ event.answer ++ "\n") with
      | (.ok (), outlet) => (.ok (trimmed event.answer), { events := rest, outlet, journal })
      | (.error fault, outlet) => (.error (.terminal fault), { events := rest, outlet, journal })

def say (text : String) (source : Replay) : Except Failure Unit × Replay :=
  match source.outlet.print (text ++ "\n") with
  | (.ok (), outlet) => (.ok (), { source with outlet })
  | (.error fault, outlet) => (.error (.terminal fault), { source with outlet })

def note (notice : Notice) (source : Replay) : Replay :=
  { source with journal := source.journal ++ [notice] }

theorem ask_ok {label text : String} {source : Replay}
    (h : (source.ask label).1 = .ok text) :
    ∃ event rest, source.events = event :: rest ∧ text = trimmed event.answer ∧
      (source.ask label).2.events = rest := by
  cases hevents : source.events with
  | nil => simp [ask, hevents] at h
  | cons event rest =>
      rcases hprint : source.outlet.print (label ++ ": " ++ event.answer ++ "\n")
        with ⟨_ | _, outlet⟩
      · simp [ask, hevents, hprint] at h
      · simp only [ask, hevents, hprint, Except.ok.injEq] at h
        exact ⟨event, rest, rfl, h.symm, by simp [ask, hevents, hprint]⟩

theorem ask_closed {label prompt : String} {source : Replay}
    (h : (source.ask label).1 = .error (.inputClosed prompt)) : prompt = label := by
  cases hevents : source.events with
  | nil =>
      simp only [ask, hevents, Except.error.injEq, Failure.inputClosed.injEq] at h
      exact h.symm
  | cons event rest =>
      rcases hprint : source.outlet.print (label ++ ": " ++ event.answer ++ "\n")
        with ⟨_ | _, outlet⟩ <;> simp [ask, hevents, hprint] at h

theorem say_open (text prompt : String) (source : Replay) :
    (source.say text).1 ≠ .error (.inputClosed prompt) := by
  rcases hprint : source.outlet.print (text ++ "\n") with ⟨_ | _, outlet⟩ <;> simp [say, hprint]

theorem events_say (text : String) (source : Replay) :
    (source.say text).2.events = source.events := by
  rcases hprint : source.outlet.print (text ++ "\n") with ⟨_ | _, outlet⟩ <;> simp [say, hprint]

instance : Answers Replay where
  ask := ask
  say := say
  note := note
  pending source := source.events.length
  pending_ask label source text h := by
    obtain ⟨event, rest, hevents, _, hrest⟩ := ask_ok h
    simp [hevents, hrest]
  pending_say text source := Nat.le_of_eq (congrArg List.length (events_say text source))
  pending_note _ _ := Nat.le_refl _
  trimmed_ask label source text h := by
    obtain ⟨event, rest, _, htext, _⟩ := ask_ok h
    rw [htext, trimmed_trimmed]
  closed_ask _ _ _ := ask_closed
  open_say text source prompt := say_open text prompt source

end Replay

/-! A source inside a recorder answers as before. Each answer is kept as an event, numbered from
one and stamped with the time at which it was given. Numbers and times are counters of the widths
that transcripts hold. -/

structure Recorder (σ : Type) where
  source : σ
  clock : Nat → Nat
  /-- The number of the last event. -/
  seq : Nat := 0
  events : List Event := []
  counted : seq = events.length % Event.seqLimit := by rfl

namespace Recorder

def nextSeq (recorder : Recorder σ) : Nat :=
  (recorder.seq + 1) % Event.seqLimit

theorem nextSeq_eq (recorder : Recorder σ) :
    recorder.nextSeq = (recorder.events.length + 1) % Event.seqLimit := by
  rw [nextSeq, recorder.counted, Nat.mod_add_mod]

/-- The clock is read once for each event. -/
def event (recorder : Recorder σ) (prompt answer : String) : Event :=
  { seq := recorder.nextSeq, prompt, answer
    timestampMs := recorder.clock (recorder.events.length + 1) % Event.timeLimit }

def record (recorder : Recorder σ) (prompt answer : String) : Recorder σ :=
  { recorder with
    seq := recorder.nextSeq
    events := recorder.events ++ [recorder.event prompt answer]
    counted := by rw [nextSeq_eq, List.length_append, List.length_singleton] }

@[simp] theorem events_record (recorder : Recorder σ) (prompt answer : String) :
    (recorder.record prompt answer).events = recorder.events ++ [recorder.event prompt answer] :=
  rfl

/-- What a recorder makes of what is answered to a prompt. -/
@[simp] def received (label : String) (recorder : Recorder σ) :
    Except Failure String × σ → Except Failure String × Recorder σ
  | (.ok text, source) => (.ok text, { recorder.record label text with source })
  | (.error failure, source) => (.error failure, { recorder with source })

def ask [Answers σ] (label : String) (recorder : Recorder σ) :
    Except Failure String × Recorder σ :=
  recorder.received label (Answers.ask label recorder.source)

def say [Answers σ] (text : String) (recorder : Recorder σ) :
    Except Failure Unit × Recorder σ :=
  let said := Answers.say text recorder.source
  (said.1, { recorder with source := said.2 })

def note [Answers σ] (notice : Notice) (recorder : Recorder σ) : Recorder σ :=
  { recorder with source := Answers.note notice recorder.source }

theorem fst_ask [Answers σ] (label : String) (recorder : Recorder σ) :
    (recorder.ask label).1 = (Answers.ask label recorder.source).1 := by
  rcases hask : Answers.ask label recorder.source with ⟨_ | _, source⟩ <;> simp [ask, hask]

theorem source_ask [Answers σ] (label : String) (recorder : Recorder σ) :
    (recorder.ask label).2.source = (Answers.ask label recorder.source).2 := by
  rcases hask : Answers.ask label recorder.source with ⟨_ | _, source⟩ <;> simp [ask, hask]

instance [Answers σ] : Answers (Recorder σ) where
  ask := ask
  say := say
  note := note
  pending recorder := Answers.pending recorder.source
  pending_ask label recorder text h := by
    rw [source_ask]
    exact Answers.pending_ask label recorder.source text (by rw [← fst_ask, h])
  pending_say text recorder := Answers.pending_say text recorder.source
  pending_note notice recorder := Answers.pending_note notice recorder.source
  trimmed_ask label recorder text h :=
    Answers.trimmed_ask label recorder.source text (by rw [← fst_ask, h])
  closed_ask label recorder prompt h :=
    Answers.closed_ask label recorder.source prompt (by rw [← fst_ask, h])
  open_say text recorder prompt := Answers.open_say text recorder.source prompt

end Recorder

end SuiteScribe
