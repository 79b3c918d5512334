import Mathlib.Data.List.Forall2
import SuiteScribe.Answers.Transcript
import SuiteScribe.Proofs.Json

namespace SuiteScribe

open Json Text

/-! Events are read back from the lines that they are written as. -/

namespace Event

/-- Numbers and times are read back only up to the widths that transcripts hold. -/
structure Fits (event : Event) : Prop where
  seq : event.seq < seqLimit
  time : event.timestampMs < timeLimit

def tokens (event : Event) : List Token :=
  [.openBrace,
   .text (some "seq"), .colon, .number (decimal event.seq), .comma,
   .text (some "prompt"), .colon, .text (some event.prompt), .comma,
   .text (some "answer"), .colon, .text (some event.answer), .comma,
   .text (some "timestamp_ms"), .colon, .number (decimal event.timestampMs), .closeBrace]

theorem lineChars_eq (event : Event) :
    event.lineChars =
      '\x7b' :: (quoted "seq" ++ ':' :: (decimal event.seq ++
      ',' :: (quoted "prompt" ++ ':' :: (quoted event.prompt ++
      ',' :: (quoted "answer" ++ ':' :: (quoted event.answer ++
      ',' :: (quoted "timestamp_ms" ++ ':' :: (decimal event.timestampMs ++ ['\x7d'])))))))) := by
  have hseq : "\x7b\"seq\":".toList = '\x7b' :: (quoted "seq" ++ [':']) := by rfl
  have hprompt : ",\"prompt\":".toList = ',' :: (quoted "prompt" ++ [':']) := by rfl
  have hanswer : ",\"answer\":".toList = ',' :: (quoted "answer" ++ [':']) := by rfl
  have htime : ",\"timestamp_ms\":".toList = ',' :: (quoted "timestamp_ms" ++ [':']) := by rfl
  unfold lineChars
  simp only [hseq, hprompt, hanswer, htime, List.append_assoc, List.cons_append,
    List.nil_append]

theorem scans_lineChars (event : Event) : Token.Scans event.lineChars event.tokens [] := by
  rw [lineChars_eq]
  refine .cons rfl rfl (.text _ (.cons rfl rfl (.number _ rfl (.cons rfl rfl ?_))))
  refine .text _ (.cons rfl rfl (.text _ (.cons rfl rfl ?_)))
  refine .text _ (.cons rfl rfl (.text _ (.cons rfl rfl ?_)))
  exact .text _ (.cons rfl rfl (.number _ rfl (.cons rfl rfl (.nil []))))

theorem list_lineChars (event : Event) : Token.list event.lineChars = event.tokens := by
  refine (scans_lineChars event).list ?_
  simp only [lineChars_eq, tokens, quoted, List.length_cons, List.length_append,
    List.length_nil]
  omega

/-- What the line of an event holds. -/
def json (event : Event) : Json :=
  .object
    [(some "seq", .number (decimal event.seq)),
     (some "prompt", .text (some event.prompt)),
     (some "answer", .text (some event.answer)),
     (some "timestamp_ms", .number (decimal event.timestampMs))]

theorem first?_lineChars (event : Event) : first? event.lineChars = some (event.json, []) := by
  rw [first?, list_lineChars]
  rfl

theorem naturalBelow?_decimal {limit n : Nat} (h : n < limit) :
    naturalBelow? limit (.number (decimal n)) = some n := by
  rw [naturalBelow?, natural?, if_pos (all_isDigit_decimal n), decimalValue_decimal,
    Option.bind_some, if_pos h]

theorem ofJson_json {event : Event} (h : event.Fits) : ofJson event.json = .ok event := by
  have hseq := naturalBelow?_decimal h.seq
  have htime := naturalBelow?_decimal h.time
  simp [ofJson, json, Members.gather?, Members.set?, hseq, htime, Json.text?, Members.event]

theorem ofLine_lineChars {event : Event} (h : event.Fits) : ofLine event.lineChars = .ok event := by
  rw [ofLine, first?_lineChars]
  simp only [ofJson_json h]
  rfl

/-! A line stays one line of text: line feeds in a prompt or an answer are written escaped, it is
not blank, and it ends with a brace. -/

theorem feed_not_mem_hexadecimal {code : Nat} (h : code < 32) : '\n' ∉ hexadecimal 4 code := by
  revert code
  decide

theorem feed_not_mem_escape (c : Char) : '\n' ∉ escape c := by
  unfold escape
  repeat' split
  all_goals try decide
  · next hcode =>
      rw [List.mem_cons, List.mem_cons, not_or, not_or]
      exact ⟨by decide, by decide, feed_not_mem_hexadecimal hcode⟩
  · next hfeed _ _ _ _ _ =>
      intro hmem
      rw [List.mem_singleton] at hmem
      rw [← hmem] at hfeed
      exact hfeed rfl

theorem feed_not_mem_quoted (text : String) : '\n' ∉ quoted text := by
  simp [quoted, feed_not_mem_escape]

theorem feed_not_mem_decimal (n : Nat) : '\n' ∉ decimal n := by
  intro hmem
  cases isDigit_of_mem_decimal hmem

theorem feed_not_mem_lineChars (event : Event) : '\n' ∉ event.lineChars := by
  rw [lineChars_eq]
  simp [feed_not_mem_quoted, feed_not_mem_decimal]

theorem toList_line (event : Event) : event.line.toList = event.lineChars :=
  String.toList_ofList

theorem feed_not_mem_encode_line (event : Event) : (10 : UInt8) ∉ encode event.line := by
  apply feed_not_mem_encode
  rw [toList_line]
  exact feed_not_mem_lineChars event

theorem getLast?_encode_line (event : Event) : (encode event.line).getLast? = some 125 := by
  have hclose : ∃ before, event.lineChars = before ++ ['\x7d'] := ⟨_, rfl⟩
  have hbrace : String.utf8EncodeChar '\x7d' = [125] := by decide
  obtain ⟨before, hbefore⟩ := hclose
  rw [encode_eq_flatMap, toList_line, hbefore, List.flatMap_append, List.flatMap_singleton, hbrace,
    List.getLast?_append]
  rfl

theorem blank_line (event : Event) : blank event.line = false := by
  have hopen : ∃ rest, event.lineChars = '\x7b' :: rest := ⟨_, lineChars_eq event⟩
  have hbrace : isBlank '\x7b' = false := by decide
  obtain ⟨rest, hrest⟩ := hopen
  rw [blank, toList_line, hrest, List.all_cons, hbrace, Bool.false_and]

end Event

namespace Transcript

/-! The file of a list of events falls into their lines again, and is loaded as these events. -/

theorem byteLines_fileText (events : List Event) :
    byteLines (encode (fileText events)) = events.map fun event => encode event.line := by
  rw [fileText, encode_join]
  induction events with
  | nil => rfl
  | cons event events ih =>
      have hfeed : encode "\n" = [10] := by decide
      have hline : dropEnding 10 13 (encode event.line ++ [10]) = encode event.line := by
        apply dropEnding_append_feed
        rw [event.getLast?_encode_line]
        decide
      rw [byteLines] at ih ⊢
      rw [List.map_cons, List.flatMap_cons, encode_append, hfeed, List.append_assoc,
        List.singleton_append, splitLines_append event.feed_not_mem_encode_line, List.map_cons,
        hline, ih, List.map_cons]

theorem loadLines_lines (path : String) (number : Nat) {events : List Event}
    (h : ∀ event ∈ events, event.Fits) :
    loadLines path number (events.map fun event => encode event.line) = .ok events := by
  induction events generalizing number with
  | nil => rfl
  | cons event events ih =>
      have hread := Event.ofLine_lineChars (h event List.mem_cons_self)
      have hrest := ih (number + 1) fun other hother => h other (List.mem_cons_of_mem _ hother)
      simp only [List.map_cons, loadLines, decode?_encode, event.blank_line, event.toList_line,
        hread, hrest]
      rfl

/-- What was written is loaded. -/
theorem load_fileText (path : String) {events : List Event} (h : ∀ event ∈ events, event.Fits) :
    load path (encode (fileText events)) = .ok events := by
  rw [load, byteLines_fileText]
  exact loadLines_lines path 1 h

end Transcript

end SuiteScribe

namespace SuiteScribe.Transcript

open Text

/-! The lines of a file. Each ends before a line feed, or before a carriage return and a line feed;
only the last one may be without an ending, and it keeps its carriage return. -/

inductive CutInto : Bytes → List Bytes → Prop
  | nothing : CutInto [] []
  | unended {line : Bytes} : line ≠ [] → 10 ∉ line → CutInto line [line]
  | feed {line rest : Bytes} {lines : List Bytes} :
      10 ∉ line → line.getLast? ≠ some 13 → CutInto rest lines →
        CutInto (line ++ 10 :: rest) (line :: lines)
  | returned {line rest : Bytes} {lines : List Bytes} :
      10 ∉ line → CutInto rest lines → CutInto (line ++ 13 :: 10 :: rest) (line :: lines)

theorem dropEnding_append_return (line : Bytes) :
    dropEnding 10 13 (line ++ [13, 10]) = line := by
  simp [dropEnding]

theorem cutInto_byteLines (bytes : Bytes) : CutInto bytes (byteLines bytes) := by
  -- By length, for a whole line is cut off at once.
  induction hlength : bytes.length using Nat.strongRecOn generalizing bytes with
  | _ length ih =>
    by_cases hfeed : 10 ∈ bytes
    · obtain ⟨line, rest, rfl, hline⟩ := List.eq_append_cons_of_mem hfeed
      have hshorter : rest.length < length := by
        rw [List.length_append, List.length_cons] at hlength
        omega
      have hrest : CutInto rest (byteLines rest) := ih rest.length hshorter rest rfl
      rw [byteLines, splitLines_append hline, List.map_cons]
      by_cases hreturn : line.getLast? = some 13
      · obtain ⟨body, rfl⟩ := List.getLast?_eq_some_iff.mp hreturn
        rw [List.append_assoc, List.append_assoc, List.singleton_append, List.singleton_append,
          dropEnding_append_return]
        exact .returned (fun hbody => hline (List.mem_append_left [13] hbody)) hrest
      · rw [dropEnding_append_feed hreturn]
        exact .feed hline hreturn hrest
    · cases bytes with
      | nil => exact .nothing
      | cons c rest =>
          rw [byteLines, splitLines_of_not_mem (List.cons_ne_nil c rest) hfeed, List.map_singleton,
            dropEnding_of_not_mem hfeed]
          exact .unended (List.cons_ne_nil c rest) hfeed

/-! What there is on a line: nothing but white space, an event, or an offence against both. -/

def isBlankLine (line : Bytes) : Bool :=
  (decode? line).any blank

def Holds (line : Bytes) (event : Event) : Prop :=
  ∃ text, decode? line = some text ∧ blank text = false ∧ Event.ofLine text.toList = .ok event

inductive Offends (path : String) (number : Nat) (line : Bytes) : Failure → Prop
  | noText : decode? line = none → Offends path number line (.transcript path .invalidText)
  | noEvent {text : String} {fault : LineFault} :
      decode? line = some text → blank text = false → Event.ofLine text.toList = .error fault →
        Offends path number line (.transcriptLine number fault)

/-- A line that does not end the loading of its file. -/
def Sound (line : Bytes) : Prop :=
  isBlankLine line = true ∨ ∃ event, Holds line event

/-- The lines of a file but for blank ones. -/
def heldLines (bytes : Bytes) : List Bytes :=
  (byteLines bytes).filter (!isBlankLine ·)

theorem not_blank_of_holds {line : Bytes} {event : Event} (h : Holds line event) :
    isBlankLine line = false := by
  obtain ⟨text, htext, hblank, -⟩ := h
  simpa [isBlankLine, htext] using hblank

theorem holds_unique {line : Bytes} {event other : Event} (h : Holds line event)
    (hother : Holds line other) : event = other := by
  obtain ⟨text, htext, -, hevent⟩ := h
  obtain ⟨same, hsame, -, hread⟩ := hother
  cases htext.symm.trans hsame
  cases hevent.symm.trans hread
  rfl

theorem sound_or_offends (path : String) (number : Nat) (line : Bytes) :
    Sound line ∨ ∃ failure, Offends path number line failure := by
  cases htext : decode? line with
  | none => exact .inr ⟨_, .noText htext⟩
  | some text =>
      cases hblank : blank text with
      | true => exact .inl (.inl (by simp [isBlankLine, htext, hblank]))
      | false =>
          cases hevent : Event.ofLine text.toList with
          | ok event => exact .inl (.inr ⟨event, text, htext, hblank, hevent⟩)
          | error fault => exact .inr ⟨_, .noEvent htext hblank hevent⟩

theorem not_sound_of_offends {path : String} {number : Nat} {line : Bytes} {failure : Failure}
    (h : Offends path number line failure) : ¬Sound line := by
  cases h with
  | noText htext =>
      rintro (hblank | ⟨event, text, hsame, -⟩)
      · simp [isBlankLine, htext] at hblank
      · cases htext.symm.trans hsame
  | noEvent htext hblank hevent =>
      rintro (hall | ⟨event, text, hsame, -, hread⟩)
      · simp [isBlankLine, htext, hblank] at hall
      · cases htext.symm.trans hsame
        cases hevent.symm.trans hread

/-! One line at a time. -/

section

variable {path : String} {number : Nat} {line : Bytes} {rest : List Bytes}

theorem loadLines_blank (h : isBlankLine line = true) :
    loadLines path number (line :: rest) = loadLines path (number + 1) rest := by
  cases htext : decode? line with
  | none => simp [isBlankLine, htext] at h
  | some text =>
      have hblank : blank text = true := by simpa [isBlankLine, htext] using h
      simp only [loadLines, htext, hblank, if_true]

theorem loadLines_event {event : Event} (h : Holds line event) :
    loadLines path number (line :: rest) =
      (loadLines path (number + 1) rest).map (event :: ·) := by
  obtain ⟨text, htext, hblank, hevent⟩ := h
  simp only [loadLines, htext, hblank, hevent]
  rfl

theorem loadLines_offence {failure : Failure} (h : Offends path number line failure) :
    loadLines path number (line :: rest) = .error failure := by
  cases h with
  | noText htext => simp only [loadLines, htext]
  | noEvent htext hblank hevent =>
      simp only [loadLines, htext, hblank, hevent]
      rfl

theorem loadLines_sound {failure : Failure} (h : Sound line) :
    loadLines path number (line :: rest) = .error failure ↔
      loadLines path (number + 1) rest = .error failure := by
  rcases h with hblank | ⟨event, hevent⟩
  · rw [loadLines_blank hblank]
  · rw [loadLines_event hevent]
    cases loadLines path (number + 1) rest <;> simp [Except.map]

end

/-! All lines of a file. -/

section

variable {path : String} {number : Nat} {lines : List Bytes}

theorem loadLines_eq_ok_iff {events : List Event} :
    loadLines path number lines = .ok events ↔
      List.Forall₂ Holds (lines.filter (!isBlankLine ·)) events := by
  induction lines generalizing number events with
  | nil => simp [loadLines, eq_comm]
  | cons line rest ih =>
      rcases sound_or_offends path number line with (hblank | ⟨event, hevent⟩) | ⟨failure, hoffends⟩
      · rw [loadLines_blank hblank, ih, List.filter_cons_of_neg (by simp [hblank])]
      · rw [loadLines_event hevent,
          List.filter_cons_of_pos (by simp [not_blank_of_holds hevent]), List.forall₂_cons_left_iff]
        constructor
        · intro hload
          cases hrest : loadLines path (number + 1) rest with
          | error failure =>
              rw [hrest] at hload
              cases hload
          | ok others =>
              rw [hrest] at hload
              cases hload
              exact ⟨event, others, hevent, ih.mp hrest, rfl⟩
        · rintro ⟨other, others, hother, hothers, rfl⟩
          rw [ih.mpr hothers, holds_unique hother hevent]
          rfl
      · have hunsound := not_sound_of_offends hoffends
        have hfull : isBlankLine line = false :=
          Bool.eq_false_iff.mpr fun hblank => hunsound (.inl hblank)
        rw [loadLines_offence hoffends, List.filter_cons_of_pos (by simp [hfull])]
        constructor
        · intro hload
          cases hload
        · intro hheld
          cases hheld with
          | cons hholds _ => exact absurd (.inr ⟨_, hholds⟩) hunsound

theorem loadLines_of_offence {before after : List Bytes} {line : Bytes} {failure : Failure}
    (hbefore : ∀ earlier ∈ before, Sound earlier)
    (h : Offends path (number + before.length) line failure) :
    loadLines path number (before ++ line :: after) = .error failure := by
  induction before generalizing number with
  | nil => exact loadLines_offence h
  | cons earlier before ih =>
      rw [List.forall_mem_cons] at hbefore
      rw [List.length_cons, Nat.add_comm before.length, ← Nat.add_assoc] at h
      exact (loadLines_sound hbefore.1).mpr (ih hbefore.2 h)

theorem offence_of_loadLines {failure : Failure}
    (h : loadLines path number lines = .error failure) :
    ∃ before line after, lines = before ++ line :: after ∧ (∀ earlier ∈ before, Sound earlier) ∧
      Offends path (number + before.length) line failure := by
  induction lines generalizing number with
  | nil => cases h
  | cons line rest ih =>
      rcases sound_or_offends path number line with hsound | ⟨other, hoffends⟩
      · obtain ⟨before, found, after, rfl, hbefore, hfound⟩ := ih ((loadLines_sound hsound).mp h)
        refine ⟨line :: before, found, after, rfl, List.forall_mem_cons.mpr ⟨hsound, hbefore⟩, ?_⟩
        rwa [List.length_cons, Nat.add_comm before.length, ← Nat.add_assoc]
      · cases (loadLines_offence hoffends).symm.trans h
        exact ⟨[], line, rest, rfl, List.forall_mem_nil _, hoffends⟩

end

/-- A file is loaded line by line. If every line is sound, its events are those of the lines that
are not blank, in order; otherwise the first line that is not sound decides what is wrong, and
where. So blank lines count for no more than the numbers of the lines after them, and the file of
some events is loaded as these events. -/
theorem load_line_by_line (path : String) (bytes : Bytes) :
    CutInto bytes (byteLines bytes) ∧
      (∀ events, load path bytes = .ok events ↔ List.Forall₂ Holds (heldLines bytes) events) ∧
      (∀ failure, load path bytes = .error failure ↔
        ∃ before line after, byteLines bytes = before ++ line :: after ∧
          (∀ earlier ∈ before, Sound earlier) ∧
          Offends path (before.length + 1) line failure) ∧
      (∀ other, heldLines other = heldLines bytes →
        ∀ events, load path other = .ok events ↔ load path bytes = .ok events) ∧
      ∀ events : List Event, (∀ event ∈ events, event.Fits) →
        load path (encode (fileText events)) = .ok events := by
  refine ⟨cutInto_byteLines bytes, fun events => loadLines_eq_ok_iff, fun failure => ?_, ?_,
    fun events => load_fileText path⟩
  · constructor
    · intro hload
      obtain ⟨before, line, after, hlines, hbefore, hline⟩ := offence_of_loadLines hload
      rw [Nat.add_comm] at hline
      exact ⟨before, line, after, hlines, hbefore, hline⟩
    · rintro ⟨before, line, after, hlines, hbefore, hline⟩
      rw [Nat.add_comm] at hline
      rw [load, hlines]
      exact loadLines_of_offence hbefore hline
  · intro other hheld events
    rw [load, load, loadLines_eq_ok_iff, loadLines_eq_ok_iff]
    exact Iff.of_eq (congrArg (List.Forall₂ Holds · events) hheld)

def vastEvent : Event :=
  { seq := 18446744073709551615, prompt := "Title", answer := " \n\u2028"
    timestampMs := 340282366920938463463374607431768211455 }

/-- The file of one event, and white space around it. -/
theorem load_line_by_line_vast :
    (∀ event ∈ [vastEvent], event.Fits) ∧
      heldLines (encode (" \r\n" ++ fileText [vastEvent] ++ "\n\u00a0")) =
        heldLines (encode (fileText [vastEvent])) ∧
      load "t" (encode (" \r\n" ++ fileText [vastEvent] ++ "\n\u00a0")) = .ok [vastEvent] := by
  have hfits : ∀ event ∈ [vastEvent], event.Fits := by
    intro event hevent
    rw [List.mem_singleton.mp hevent]
    exact ⟨by decide, by decide⟩
  have hheld : heldLines (encode (" \r\n" ++ fileText [vastEvent] ++ "\n\u00a0")) =
      heldLines (encode (fileText [vastEvent])) := by
    decide +kernel
  obtain ⟨-, -, -, hblank, hfile⟩ := load_line_by_line "t" (encode (fileText [vastEvent]))
  exact ⟨hfits, hheld, (hblank _ hheld _).mpr (hfile _ hfits)⟩

end SuiteScribe.Transcript
