import Mathlib.Data.List.TakeWhile
import SuiteScribe.Text.Letters

namespace SuiteScribe.Text

/-! The words of a text are what stands between its white space, as far as that is not empty. -/

def separated (text : List Char) : List (List Char) :=
  (text.splitOnP isBlank).filter (!·.isEmpty)

theorem separated_append_blank {c : Char} (h : isBlank c = true) (before after : List Char) :
    separated (before ++ c :: after) = separated before ++ separated after := by
  rw [separated, List.splitOnP_append_cons before after h, List.filter_append]
  rfl

theorem separated_cons_blank {c : Char} (h : isBlank c = true) (text : List Char) :
    separated (c :: text) = separated text :=
  separated_append_blank h [] text

theorem separated_of_unbroken {word : List Char} (hne : word ≠ [])
    (h : ∀ c ∈ word, isBlank c = false) : separated word = [word] := by
  rw [separated, List.splitOnP_eq_singleton h]
  exact List.filter_cons_of_pos (by simpa using hne)

theorem separated_singleton {c : Char} (h : isBlank c = false) : separated [c] = [[c]] :=
  separated_of_unbroken (List.cons_ne_nil c []) (List.forall_mem_singleton.mpr h)

/-- A character in front of a word is in the same word. -/
theorem separated_cons_word {c d : Char} (hc : isBlank c = false) (hd : isBlank d = false)
    (text : List Char) :
    ∃ word others, separated (d :: text) = word :: others ∧
      separated (c :: d :: text) = (c :: word) :: others := by
  have hcons : ∀ {e : Char}, isBlank e = false → ∀ rest : List Char,
      (e :: rest).splitOnP isBlank = (rest.splitOnP isBlank).modifyHead (e :: ·) := by
    intro e he rest
    rw [List.splitOnP_cons_eq_if_modifyHead, if_neg (by simp [he])]
  obtain ⟨first, pieces, hpieces⟩ :=
    List.exists_cons_of_ne_nil (List.splitOnP_ne_nil isBlank text)
  refine ⟨d :: first, pieces.filter (!·.isEmpty), ?_, ?_⟩
  · rw [separated, hcons hd, hpieces]
    rfl
  · rw [separated, hcons hc, hcons hd, hpieces]
    rfl

/-- Between a character and the next word there is a gap. -/
theorem separated_cons_gap {c d : Char} (hc : isBlank c = false) (hd : isBlank d = true)
    (text : List Char) : separated (c :: d :: text) = [c] :: separated text := by
  have hparts : separated ([c] ++ d :: text) = separated [c] ++ separated text :=
    separated_append_blank hd [c] text
  rwa [separated_singleton hc] at hparts

theorem words_eq_separated (text : List Char) : words text = separated text := by
  induction text with
  | nil => rfl
  | cons c rest ih =>
      rw [words]
      split
      · next hblank => rw [separated_cons_blank hblank, ih]
      · next hblank =>
          have hc : isBlank c = false := by simpa using hblank
          cases rest with
          | nil => exact (separated_singleton hc).symm
          | cons d rest =>
              cases hd : isBlank d with
              | true =>
                  simp only [opensWithWord, hd, ih, separated_cons_blank hd,
                    separated_cons_gap hc hd]
                  rfl
              | false =>
                  obtain ⟨word, others, hrest, hall⟩ := separated_cons_word hc hd rest
                  simp only [opensWithWord, hd, ih, hrest, hall]
                  rfl

/-! What is a word, and which texts have given words. -/

theorem flatten_words (text : List Char) : (words text).flatten = text.filter (!isBlank ·) := by
  induction text with
  | nil => rfl
  | cons c rest ih =>
      rw [words]
      split
      · next hblank => rw [List.filter_cons_of_neg (by simpa using hblank), ih]
      · next hblank =>
          rw [List.filter_cons_of_pos (by simpa using hblank), ← ih]
          split
          · cases words rest <;> rfl
          · rfl

theorem isBlank_of_mem_words {text word : List Char} (hword : word ∈ words text) :
    ∀ c ∈ word, isBlank c = false := by
  intro c hc
  have hmem : c ∈ (words text).flatten := List.mem_flatten.mpr ⟨word, hword, hc⟩
  rw [flatten_words] at hmem
  simpa using (List.mem_filter.mp hmem).2

theorem word_of_mem_separated {text word : List Char} (hword : word ∈ separated text) :
    word ≠ [] ∧ ∀ c ∈ word, isBlank c = false := by
  constructor
  · simpa using (List.mem_filter.mp hword).2
  · rw [← words_eq_separated] at hword
    exact isBlank_of_mem_words hword

theorem separated_intercalate {parts : List (List Char)}
    (h : ∀ part ∈ parts, part ≠ [] ∧ ∀ c ∈ part, isBlank c = false) :
    separated ([' '].intercalate parts) = parts := by
  have hspace : isBlank ' ' = true := by decide
  induction parts with
  | nil => rfl
  | cons part parts ih =>
      rw [List.forall_mem_cons] at h
      obtain ⟨⟨hne, hword⟩, hparts⟩ := h
      cases parts with
      | nil =>
          rw [List.intercalate_singleton]
          exact separated_of_unbroken hne hword
      | cons next parts =>
          rw [List.intercalate_cons_cons, List.append_assoc, List.singleton_append,
            separated_append_blank hspace, separated_of_unbroken hne hword, ih hparts]
          rfl

/-! A line that is written with a line feed is cut off and loses it again. The last line may do
without one. -/

section

variable [BEq α] [LawfulBEq α] {feed ret : α} {line : List α}

theorem splitLines_append (h : feed ∉ line) (rest : List α) :
    splitLines feed (line ++ feed :: rest) = (line ++ [feed]) :: splitLines feed rest := by
  induction line with
  | nil => simp [splitLines]
  | cons c line ih =>
      rw [List.mem_cons, not_or] at h
      obtain ⟨hc, hline⟩ := h
      have hother : (c == feed) = false := by simpa using Ne.symm hc
      rw [List.cons_append, splitLines, hother, ih hline]
      rfl

theorem splitLines_of_not_mem (hne : line ≠ []) (h : feed ∉ line) :
    splitLines feed line = [line] := by
  induction line with
  | nil => exact absurd rfl hne
  | cons c rest ih =>
      rw [List.mem_cons, not_or] at h
      have hother : (c == feed) = false := by simpa using Ne.symm h.1
      rw [splitLines, hother]
      cases rest with
      | nil => rfl
      | cons d rest => rw [ih (List.cons_ne_nil d rest) h.2]; rfl

theorem dropEnding_append_feed (h : line.getLast? ≠ some ret) :
    dropEnding feed ret (line ++ [feed]) = line := by
  rw [dropEnding, List.reverse_append]
  cases hline : line.reverse with
  | nil => simpa using hline.symm
  | cons c before =>
      have hlast : line = before.reverse ++ [c] := by
        rw [← List.reverse_reverse line, hline, List.reverse_cons]
      have hother : (c == ret) = false := by
        rw [hlast] at h
        simpa using h
      simp [hother, hlast]

theorem dropEnding_of_not_mem (h : feed ∉ line) : dropEnding feed ret line = line := by
  unfold dropEnding
  cases hline : line.reverse with
  | nil => exact (List.reverse_eq_nil_iff.mp hline).symm
  | cons last before =>
      have hlast : last ∈ line := List.mem_reverse.mp (hline ▸ List.mem_cons_self)
      have hother : (last == feed) = false := by
        simpa using ne_of_mem_of_not_mem hlast h
      simp [hother]

/-- Nothing but the ending of a line is dropped. -/
theorem exists_dropEnding_append (feed ret : α) (line : List α) :
    ∃ ending, dropEnding feed ret line ++ ending = line ∧ ∀ c ∈ ending, c = feed ∨ c = ret := by
  unfold dropEnding
  split
  · next last before hline =>
      have hparts : before.reverse ++ [last] = line := by
        rw [← List.reverse_cons, ← hline, List.reverse_reverse]
      split
      · next hfeed =>
          have hlast : last = feed := eq_of_beq hfeed
          split
          · next c body =>
              split
              · next hreturn =>
                  have hc : c = ret := eq_of_beq hreturn
                  exact ⟨[c, last], by simpa using hparts, by simp [hc, hlast]⟩
              · exact ⟨[last], hparts, by simp [hlast]⟩
          · exact ⟨[last], hparts, by simp [hlast]⟩
      · exact ⟨[], List.append_nil line, nofun⟩
  · next hline => exact ⟨[], (List.reverse_eq_nil_iff.mp hline).symm, nofun⟩

omit [LawfulBEq α] in
theorem flatten_splitLines (feed : α) (text : List α) :
    (splitLines feed text).flatten = text := by
  induction text with
  | nil => rfl
  | cons c rest ih =>
      rw [splitLines]
      split
      · rw [List.flatten_cons, ih]
        rfl
      · cases hlines : splitLines feed rest with
        | nil =>
            rw [hlines] at ih
            rw [← ih]
            rfl
        | cons first others =>
            rw [hlines] at ih
            rw [← ih]
            rfl

theorem mem_splitLines {text : List α} (h : line ∈ splitLines feed text) :
    ∃ body, feed ∉ body ∧ (line = body ++ [feed] ∨ line = body) := by
  induction text generalizing line with
  | nil => cases h
  | cons c rest ih =>
      rw [splitLines] at h
      split at h
      · next hfeed =>
          rcases List.mem_cons.mp h with rfl | hrest
          · exact ⟨[], List.not_mem_nil, .inl (by rw [eq_of_beq hfeed]; rfl)⟩
          · exact ih hrest
      · next hfeed =>
          have hother : feed ≠ c := fun heq => hfeed (by rw [heq]; exact beq_self_eq_true c)
          cases hlines : splitLines feed rest with
          | nil =>
              rw [hlines] at h
              rw [List.mem_singleton.mp h]
              exact ⟨[c], by simpa using hother, .inr rfl⟩
          | cons first others =>
              rw [hlines] at h ih
              rcases List.mem_cons.mp h with rfl | hrest
              · obtain ⟨body, hbody, hfirst⟩ := ih List.mem_cons_self
                refine ⟨c :: body, by simp [hother, hbody], ?_⟩
                rcases hfirst with rfl | rfl
                · exact .inl rfl
                · exact .inr rfl
              · exact ih (List.mem_cons_of_mem first hrest)

theorem feed_not_mem_dropEnding {text : List α} (h : line ∈ splitLines feed text) :
    feed ∉ dropEnding feed ret line := by
  obtain ⟨body, hbody, rfl | rfl⟩ := mem_splitLines h
  · rw [dropEnding, List.reverse_append]
    cases hlast : body.reverse with
    | nil => simp
    | cons c before =>
        have hparts : body = before.reverse ++ [c] := by
          rw [← List.reverse_reverse body, hlast, List.reverse_cons]
        rw [hparts, List.mem_append, not_or] at hbody
        cases hreturn : c == ret with
        | true => simpa [hreturn] using hbody.1
        | false => simpa [hreturn] using hbody
  · rwa [dropEnding_of_not_mem hbody]

end

theorem feed_not_mem_lines {text line : List Char} (h : line ∈ lines text) : '\n' ∉ line := by
  obtain ⟨piece, hpiece, rfl⟩ := List.mem_map.mp h
  exact feed_not_mem_dropEnding hpiece

/-- A text is blank if and only if all of its lines are. -/
theorem isBlank_lines_iff (text : List Char) :
    (∀ line ∈ lines text, ∀ c ∈ line, isBlank c = true) ↔ ∀ c ∈ text, isBlank c = true := by
  have hpiece : ∀ piece : List Char, (∀ c ∈ dropEnding '\n' '\r' piece, isBlank c = true) ↔
      ∀ c ∈ piece, isBlank c = true := by
    intro piece
    obtain ⟨ending, hparts, hending⟩ := exists_dropEnding_append '\n' '\r' piece
    have hblank : ∀ c ∈ ending, isBlank c = true := by
      intro c hc
      rcases hending c hc with rfl | rfl <;> decide
    conv => rhs; rw [← hparts, List.forall_mem_append]
    exact (and_iff_left hblank).symm
  conv => rhs; rw [← flatten_splitLines '\n' text]
  simp only [lines, List.forall_mem_map, hpiece, List.mem_flatten]
  exact ⟨fun h c ⟨piece, hmem, hc⟩ => h piece hmem c hc,
    fun h piece hmem c hc => h c ⟨piece, hmem, hc⟩⟩

/-- Lines that are joined by line feeds are the lines of the whole, unless the last one is empty. -/
theorem lines_intercalate {block : List (List Char)} (hfeed : ∀ line ∈ block, '\n' ∉ line)
    (hreturn : ∀ line ∈ block, line.getLast? ≠ some '\r') (hlast : block.getLast? ≠ some []) :
    lines (['\n'].intercalate block) = block := by
  induction block with
  | nil => rfl
  | cons line block ih =>
      rw [List.forall_mem_cons] at hfeed hreturn
      cases block with
      | nil =>
          have hne : line ≠ [] := by simpa using hlast
          rw [List.intercalate_singleton, lines, splitLines_of_not_mem hne hfeed.1,
            List.map_singleton, dropEnding_of_not_mem hfeed.1]
      | cons next block =>
          have hrest : lines (['\n'].intercalate (next :: block)) = next :: block :=
            ih hfeed.2 hreturn.2 (by simpa using hlast)
          rw [List.intercalate_cons_cons, List.append_assoc, List.singleton_append, lines,
            splitLines_append hfeed.1, List.map_cons, dropEnding_append_feed hreturn.1, ← lines,
            hrest]

/-! Decimal numerals: nothing but digits, no leading zero, and the number can be read off them. -/

theorem isDigit_of_mem_decimal {n : Nat} {c : Char} (h : c ∈ decimal n) : c.isDigit = true :=
  Nat.isDigit_of_mem_toDigits (by decide) (by decide) h

theorem all_isDigit_decimal (n : Nat) : (decimal n).all Char.isDigit = true :=
  List.all_eq_true.mpr fun _ hc => isDigit_of_mem_decimal hc

theorem decimal_ne_nil (n : Nat) : decimal n ≠ [] :=
  Nat.toDigits_ne_nil

theorem decimalValue_eq (digits : List Char) :
    decimalValue digits = Nat.ofDigitChars 10 digits 0 := by
  simp only [decimalValue, Nat.ofDigitChars_eq_foldl, Nat.mul_comm]

theorem decimalValue_decimal (n : Nat) : decimalValue (decimal n) = n := by
  rw [decimalValue_eq, decimal, Nat.ofDigitChars_ten_toDigits]

theorem isDigit_iff (c : Char) : c.isDigit = true ↔ 48 ≤ c.toNat ∧ c.toNat ≤ 57 := by
  simp [Char.isDigit, UInt32.le_iff_toNat_le]

theorem isBlank_of_isDigit {c : Char} (h : c.isDigit = true) : isBlank c = false := by
  obtain ⟨hlow, hhigh⟩ := (isDigit_iff c).mp h
  have hlate : ¬ c.toNat ≤ 32 := by omega
  have hearly : c.toNat < 133 := by omega
  have hrest : ¬ c.toNat < 9 ∧ ¬ c.toNat ≤ 13 ∧ ¬ c.toNat < 32 := by omega
  simp [isBlank, whiteSpaceRanges, inRanges, hlate, hearly, hrest]

theorem trim_decimal (n : Nat) : trim (decimal n) = decimal n := by
  have hstart : trimStart (decimal n) = decimal n :=
    trimStart_eq_self fun c hc =>
      isBlank_of_isDigit (isDigit_of_mem_decimal (List.mem_of_mem_head? hc))
  have hend : trimEnd (decimal n) = decimal n :=
    trimEnd_eq_self fun c hc =>
      isBlank_of_isDigit (isDigit_of_mem_decimal (List.mem_of_getLast? hc))
  rw [trim, hstart, hend]

theorem toList_toString (n : Nat) : (toString n).toList = decimal n := by
  rw [Nat.toString_eq_ofList_toDigits, String.toList_ofList, decimal]

/-- A number of more than one digit starts with another digit than zero. -/
theorem head?_decimal_ne_zero {n : Nat} (h : 0 < n) : (decimal n).head? ≠ some '0' := by
  induction n using Nat.strongRecOn with
  | ind n ih =>
      by_cases hsmall : n < 10
      · have hdigit : decimal n = [n.digitChar] := Nat.toDigits_of_lt_base hsmall
        rw [hdigit]
        have hnonzero : n.digitChar ≠ '0' := by
          rcases n with _ | _ | _ | _ | _ | _ | _ | _ | _ | _ | n <;> first | omega | decide
        simpa using hnonzero
      · have hsplit : decimal n = decimal (n / 10) ++ [(n % 10).digitChar] :=
          Nat.toDigits_of_base_le (by decide) (by omega)
        have hrest := ih (n / 10) (by omega) (by omega)
        cases hdigits : decimal (n / 10) with
        | nil => exact absurd hdigits (decimal_ne_nil _)
        | cons c rest => simpa [hsplit, hdigits] using hrest

/-! Letters and numbers are no white space. -/

theorem exists_range_of_inRanges {code : Nat} {ranges : List (Nat × Nat)}
    (h : inRanges code ranges = true) : ∃ range ∈ ranges, range.1 ≤ code ∧ code ≤ range.2 := by
  induction ranges with
  | nil => cases h
  | cons range rest ih =>
      rw [inRanges] at h
      split at h
      · cases h
      · next hlow =>
          split at h
          · next hhigh => exact ⟨range, List.mem_cons_self, Nat.not_lt.mp hlow, hhigh⟩
          · obtain ⟨other, hother, hcode⟩ := ih h
            exact ⟨other, List.mem_cons_of_mem range hother, hcode⟩

theorem isAlphanumeric_of_isBlank {c : Char} (h : isBlank c = true) :
    isAlphanumeric c = false := by
  -- There are few code points of white space, so that each one can be looked up.
  have hapart : ∀ range ∈ whiteSpaceRanges,
      ∀ code ∈ List.range' range.1 (range.2 + 1 - range.1),
        inRanges code alphanumericRanges = false := by decide +kernel
  obtain ⟨range, hrange, hlow, hhigh⟩ := exists_range_of_inRanges h
  exact hapart range hrange c.toNat (List.mem_range'_1.mpr ⟨hlow, by omega⟩)

/-! Filled text is what a required answer turns into: it has no white space around it and is not
empty. Trimming fills every text that is not blank. -/

structure Filled (text : String) : Prop where
  trimmed_eq : trimmed text = text
  ne_empty : text ≠ ""

/-- Text without white space inside it, such as a role. -/
def Unbroken (text : String) : Prop :=
  ∀ c ∈ text.toList, isBlank c = false

instance (text : String) : Decidable (Filled text) :=
  decidable_of_iff (trimmed text = text ∧ text ≠ "")
    ⟨fun h => ⟨h.1, h.2⟩, fun h => ⟨h.trimmed_eq, h.ne_empty⟩⟩

-- The characters of the text are tried, not all there are.
instance (text : String) : Decidable (Unbroken text) :=
  List.decidableBAll (fun c => isBlank c = false) text.toList

theorem trimEnd_eq_nil_iff (text : List Char) :
    trimEnd text = [] ↔ ∀ c ∈ text, isBlank c = true := by
  simp [trimEnd, List.dropWhile_eq_nil_iff]

theorem trim_eq_nil_iff (text : List Char) :
    trim text = [] ↔ ∀ c ∈ text, isBlank c = true := by
  constructor
  · intro h
    have hrest : ∀ c ∈ trimStart text, isBlank c = true := (trimEnd_eq_nil_iff _).mp h
    cases hstart : trimStart text with
    | nil => exact List.dropWhile_eq_nil_iff.mp hstart
    | cons c rest =>
        have hblank : isBlank c = true := hrest c (by simp [hstart])
        have hnot : isBlank c = false := head?_trimStart text (by simp [hstart])
        simp [hblank] at hnot
  · intro h
    rw [trim, trimStart, List.dropWhile_eq_nil_iff.mpr h]
    rfl

/-- White space at the end of a text is lost when it is trimmed. -/
theorem trim_concat_blank (text : List Char) {c : Char} (h : isBlank c = true) :
    trim (text ++ [c]) = trim text := by
  have hend : trimEnd (trimStart text ++ [c]) = trimEnd (trimStart text) := by
    rw [trimEnd, List.reverse_append, List.reverse_singleton, List.singleton_append,
      List.dropWhile_cons_of_pos h, trimEnd]
  rw [trim, trimStart, List.dropWhile_append]
  cases hstart : text.dropWhile isBlank with
  | nil =>
      rw [trim, trimStart, hstart]
      simp [h]
  | cons first rest =>
      rw [trim, ← hend, trimStart, hstart]
      rfl

theorem trim_append_blank (text : List Char) {gap : List Char} (h : ∀ c ∈ gap, isBlank c = true) :
    trim (text ++ gap) = trim text := by
  induction gap generalizing text with
  | nil => rw [List.append_nil]
  | cons c gap ih =>
      obtain ⟨hc, hgap⟩ := List.forall_mem_cons.mp h
      rw [List.append_cons, ih _ hgap, trim_concat_blank text hc]

theorem trim_blank_append {gap : List Char} (h : ∀ c ∈ gap, isBlank c = true)
    (text : List Char) : trim (gap ++ text) = trim text := by
  rw [trim, trimStart, List.dropWhile_append_of_pos h]
  rfl

/-- Nothing but white space is trimmed from the end of a text. -/
theorem exists_trimEnd_append (text : List Char) :
    ∃ gap, trimEnd text ++ gap = text ∧ ∀ c ∈ gap, isBlank c = true := by
  refine ⟨(text.reverse.takeWhile isBlank).reverse, ?_, fun c hc => ?_⟩
  · rw [trimEnd, ← List.reverse_append, List.takeWhile_append_dropWhile, List.reverse_reverse]
  · exact List.mem_takeWhile_imp (List.mem_reverse.mp hc)

theorem trim_trimEnd (text : List Char) : trim (trimEnd text) = trim text := by
  obtain ⟨gap, hparts, hblank⟩ := exists_trimEnd_append text
  rw [← trim_append_blank (trimEnd text) hblank, hparts]

/-- The end of a text is trimmed in its last part, unless that is all white space. -/
theorem trimEnd_append (front : List Char) {text : List Char} (h : trimEnd text ≠ []) :
    trimEnd (front ++ text) = front ++ trimEnd text := by
  have hrest : text.reverse.dropWhile isBlank ≠ [] := by simpa [trimEnd] using h
  rw [trimEnd, List.reverse_append, List.dropWhile_append, if_neg (by simpa using hrest),
    List.reverse_append, List.reverse_reverse, trimEnd]

theorem trimmed_eq_empty_iff (text : String) : trimmed text = "" ↔ blank text = true := by
  rw [blank, List.all_eq_true, ← trim_eq_nil_iff, trimmed, ← String.toList_eq_nil_iff,
    String.toList_ofList]

theorem filled_trimmed {text : String} (h : blank text = false) : Filled (trimmed text) where
  trimmed_eq := trimmed_trimmed text
  ne_empty hempty := by
    have hblank := (trimmed_eq_empty_iff text).mp hempty
    simp [h] at hblank

theorem trim_ne_nil {text : String} (h : blank text = false) : trim text.toList ≠ [] := by
  intro htrim
  have hblank : blank text = true :=
    (trimmed_eq_empty_iff text).mp (by simp [trimmed, htrim])
  exact Bool.false_ne_true (h.symm.trans hblank)

theorem trim_eq_cons {text : String} (h : blank text = false) :
    ∃ c rest, trim text.toList = c :: rest ∧ isBlank c = false := by
  cases htrim : trim text.toList with
  | nil => exact absurd htrim (trim_ne_nil h)
  | cons c rest => exact ⟨c, rest, rfl, @head?_trim text.toList c (by simp [htrim])⟩

theorem Filled.not_blank {text : String} (h : Filled text) : blank text = false := by
  rw [Bool.eq_false_iff]
  intro hblank
  exact h.ne_empty (h.trimmed_eq ▸ (trimmed_eq_empty_iff text).mpr hblank)

theorem Filled.isEmpty {text : String} (h : Filled text) : text.isEmpty = false := by
  rw [Bool.eq_false_iff]
  exact fun hempty => h.ne_empty (String.isEmpty_iff.mp hempty)

/-- An answer arrives trimmed; unless it is empty, it is filled. -/
theorem filled_of_answer {text : String} (htrimmed : trimmed text = text)
    (hne : text.isEmpty = false) : Filled text where
  trimmed_eq := htrimmed
  ne_empty hempty := by simp [hempty] at hne

theorem unbroken_of_any_eq_false {text : String} (h : text.toList.any isBlank = false) :
    Unbroken text := by
  simpa [Unbroken] using h

theorem Unbroken.any_eq_false {text : String} (h : Unbroken text) :
    text.toList.any isBlank = false := by
  simpa [Unbroken] using h

/-- What stands in front of the first white space has none inside. -/
theorem unbroken_takeWhile (text : List Char) :
    Unbroken (String.ofList (text.takeWhile (!isBlank ·))) := by
  intro c hc
  rw [String.toList_ofList] at hc
  have hnot := List.all_eq_true.mp (List.all_takeWhile (p := (!isBlank ·)) (l := text)) c hc
  simpa using hnot

theorem Unbroken.trimmed_eq {text : String} (h : Unbroken text) : trimmed text = text := by
  have hstart : trimStart text.toList = text.toList :=
    trimStart_eq_self fun c hc => h c (List.mem_of_mem_head? hc)
  have hend : trimEnd text.toList = text.toList :=
    trimEnd_eq_self fun c hc => h c (List.mem_of_getLast? hc)
  rw [trimmed, trim, hstart, hend, String.ofList_toList]

/-! Encoded text. Its bytes are the encodings of its characters one after another, and the text is
read back from them. -/

theorem encode_eq_flatMap (text : String) :
    encode text = text.toList.flatMap String.utf8EncodeChar := by
  rw [encode, String.toUTF8_eq_toByteArray, ← String.utf8Encode_toList, List.utf8Encode,
    List.toList_data_toByteArray]

@[simp] theorem encode_append (first second : String) :
    encode (first ++ second) = encode first ++ encode second := by
  simp only [encode_eq_flatMap, String.toList_append, List.flatMap_append]

theorem encode_join (texts : List String) :
    encode (String.join texts) = texts.flatMap encode := by
  rw [encode_eq_flatMap, String.toList_join, List.flatMap_assoc]
  exact congrArg (List.flatMap · texts) (funext fun text => (encode_eq_flatMap text).symm)

@[simp] theorem decode?_encode (text : String) : decode? (encode text) = some text := by
  have hbytes : (⟨(encode text).toArray⟩ : ByteArray) = text.toByteArray := by
    rw [encode, String.toUTF8_eq_toByteArray]
  rw [decode?, hbytes, String.fromUTF8?, dif_pos text.isValidUTF8]
  rfl

theorem encode_inj {first second : String} (h : encode first = encode second) :
    first = second := by
  have hdecoded := congrArg decode? h
  rw [decode?_encode, decode?_encode] at hdecoded
  exact Option.some.inj hdecoded

/-! Every byte of a longer encoding is beyond the seven-bit range, so that a line feed among the
bytes is one among the characters. -/

theorem feed_ne_byte {value : Nat} (hlow : 128 ≤ value) (hhigh : value < 256) :
    (10 : UInt8) ≠ UInt8.ofNat value := by
  intro heq
  have hvalue : 10 = (UInt8.ofNat value).toNat := congrArg UInt8.toNat heq
  rw [UInt8.toNat_ofNat'] at hvalue
  omega

theorem feed_mem_utf8EncodeChar {c : Char} (h : (10 : UInt8) ∈ String.utf8EncodeChar c) :
    c = '\n' := by
  simp only [String.utf8EncodeChar] at h
  split at h
  · next hshort =>
      have hvalue : 10 = (UInt8.ofNat c.val.toNat).toNat :=
        congrArg UInt8.toNat (List.mem_singleton.mp h)
      rw [UInt8.toNat_ofNat'] at hvalue
      have hcode : c.toNat = '\n'.toNat := by
        have hfeed : '\n'.toNat = 10 := rfl
        rw [Char.toNat]
        omega
      exact Char.toNat_inj.mp hcode
  · exfalso
    split at h
    · simp only [List.mem_cons, List.not_mem_nil, or_false] at h
      obtain h | h := h <;> exact feed_ne_byte (by omega) (by omega) h
    · split at h <;> simp only [List.mem_cons, List.not_mem_nil, or_false] at h
      · obtain h | h | h := h <;> exact feed_ne_byte (by omega) (by omega) h
      · obtain h | h | h | h := h <;> exact feed_ne_byte (by omega) (by omega) h

theorem feed_not_mem_encode {text : String} (h : '\n' ∉ text.toList) :
    (10 : UInt8) ∉ encode text := by
  intro hmem
  rw [encode_eq_flatMap, List.mem_flatMap] at hmem
  obtain ⟨c, hc, hbyte⟩ := hmem
  rw [feed_mem_utf8EncodeChar hbyte] at hc
  exact h hc

end SuiteScribe.Text
