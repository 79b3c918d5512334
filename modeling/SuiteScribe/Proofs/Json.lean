import Mathlib.Data.List.Forall2
import Mathlib.Data.List.TakeDrop
import SuiteScribe.Json
import SuiteScribe.Proofs.Text

namespace SuiteScribe.Json

open Text

/-! A piece spells a character as it stands, or by the unit of its code. Codes below the halves of
pairs are units of their own. -/

inductive Spells : Piece → Char → Prop
  | plain (c : Char) : Spells (.plain c) c
  | unit {c : Char} (h : c.toNat < 0xD800) : Spells (.unit c.toNat) c

theorem characters?_unit {code : Nat} (h : code < 0xD800) (rest : List Piece) :
    characters? (.unit code :: rest) = (characters? rest).map (Char.ofNat code :: ·) := by
  have hleading : isLeading code = false := by
    simp only [isLeading, Bool.and_eq_false_iff, decide_eq_false_iff_not]
    omega
  have htrailing : isTrailing code = false := by
    simp only [isTrailing, Bool.and_eq_false_iff, decide_eq_false_iff_not]
    omega
  cases rest with
  | nil => simp [characters?, hleading, htrailing]
  | cons piece rest => cases piece <;> simp [characters?, hleading, htrailing]

theorem characters?_of_spells {pieces : List Piece} {text : List Char}
    (h : List.Forall₂ Spells pieces text) : characters? pieces = some text := by
  induction h with
  | nil => rfl
  | cons hpiece hrest ih =>
      cases hpiece with
      | plain c => simp [characters?, ih]
      | unit hcode => simp [characters?_unit hcode, ih]

/-! Every character is written so that one piece is read, and it spells that character. -/

theorem numberIn?_hexadecimal {code : Nat} (h : code < 32) :
    ∃ a b c d, hexadecimal 4 code = [a, b, c, d] ∧ numberIn? 16 [a, b, c, d] = some code := by
  have hall : ∀ code < 32,
      ∃ digits : List Char, digits.length = 4 ∧ hexadecimal 4 code = digits ∧
        numberIn? 16 digits = some code := by
    intro code hcode
    refine ⟨hexadecimal 4 code, ?_, rfl, ?_⟩ <;> revert code <;> decide
  obtain ⟨digits, hlength, hdigits, hnumber⟩ := hall code h
  match digits, hlength with
  | [a, b, c, d], _ => exact ⟨a, b, c, d, hdigits, hnumber⟩

theorem pieces?_plain {c : Char} (hquote : c ≠ '"') (hslash : c ≠ '\\') (hcode : ¬c.toNat < 32)
    (rest : List Char) : pieces? (c :: rest) = consPiece (.plain c) (pieces? rest) := by
  rw [pieces?]
  · simp [hcode, hslash]
  all_goals simp_all

theorem pieces?_unit {code : Nat} (h : code < 32) (rest : List Char) :
    pieces? ('\\' :: 'u' :: hexadecimal 4 code ++ rest) =
      consPiece (.unit code) (pieces? rest) := by
  obtain ⟨a, b, c, d, hdigits, hnumber⟩ := numberIn?_hexadecimal h
  simp [hdigits, pieces?, hnumber]

theorem pieces?_escape (c : Char) :
    ∃ piece, Spells piece c ∧
      ∀ rest, pieces? (escape c ++ rest) = consPiece piece (pieces? rest) := by
  by_cases hletter : c ∈ ['"', '\\', '\n', '\r', '\t', '\x08', '\x0c']
  · refine ⟨.plain c, .plain c, fun rest => ?_⟩
    simp only [List.mem_cons, List.not_mem_nil, or_false] at hletter
    obtain rfl | rfl | rfl | rfl | rfl | rfl | rfl := hletter <;> rfl
  · simp only [List.mem_cons, List.not_mem_nil, or_false, not_or] at hletter
    obtain ⟨hquote, hslash, hfeed, hreturn, htab, hback, hform⟩ := hletter
    by_cases hcode : c.toNat < 32
    · refine ⟨.unit c.toNat, .unit (by omega), fun rest => ?_⟩
      have hescape : escape c = '\\' :: 'u' :: hexadecimal 4 c.toNat := by
        simp [escape, *]
      rw [hescape]
      exact pieces?_unit hcode rest
    · refine ⟨.plain c, .plain c, fun rest => ?_⟩
      have hescape : escape c = [c] := by
        simp [escape, *]
      rw [hescape]
      exact pieces?_plain hquote hslash hcode rest

theorem pieces?_escapes (text rest : List Char) :
    ∃ pieces, List.Forall₂ Spells pieces text ∧
      pieces? (text.flatMap escape ++ '"' :: rest) = some (pieces, rest) := by
  induction text with
  | nil => exact ⟨[], .nil, by simp [pieces?]⟩
  | cons c text ih =>
      obtain ⟨piece, hpiece, hread⟩ := pieces?_escape c
      obtain ⟨pieces, hpieces, hrest⟩ := ih
      refine ⟨piece :: pieces, .cons hpiece hpieces, ?_⟩
      rw [List.flatMap_cons, List.append_assoc, hread, hrest]
      rfl

/-- Quoted text is read back as it was, whatever follows it. -/
theorem textOf?_quoted (text : String) (rest : List Char) :
    ∃ pieces, pieces? (text.toList.flatMap escape ++ '"' :: rest) = some (pieces, rest) ∧
      textOf? pieces = some text := by
  obtain ⟨pieces, hpieces, hread⟩ := pieces?_escapes text.toList rest
  refine ⟨pieces, hread, ?_⟩
  rw [textOf?, characters?_of_spells hpieces, Option.map_some, String.ofList_toList]

end SuiteScribe.Json

namespace SuiteScribe.Json.Token

open Text

/-! A source scans into tokens if reading them leaves a certain rest, however many more tokens may
be read. -/

def Scans (source : List Char) (tokens : List Token) (rest : List Char) : Prop :=
  ∀ fuel, listFrom (fuel + tokens.length) source = tokens ++ listFrom fuel rest

theorem Scans.nil (source : List Char) : Scans source [] source :=
  fun _ => rfl

theorem Scans.cons {c : Char} {source middle rest : List Char} {token : Token}
    {tokens : List Token} (hspace : isSpace c = false)
    (hnext : next? (c :: source) = some (token, middle)) (hrest : Scans middle tokens rest) :
    Scans (c :: source) (token :: tokens) rest := by
  intro fuel
  have hdrop : (c :: source).dropWhile isSpace = c :: source := by simp [hspace]
  rw [List.length_cons, ← Nat.add_assoc, listFrom, hdrop]
  simp only [hnext]
  rw [hrest fuel, List.cons_append]

theorem listFrom_nil (fuel : Nat) : listFrom fuel [] = [] := by
  cases fuel <;> rfl

theorem Scans.list {source : List Char} {tokens : List Token} (h : Scans source tokens [])
    (hlength : tokens.length ≤ source.length) : list source = tokens := by
  have hscan := h (source.length - tokens.length)
  rwa [Nat.sub_add_cancel hlength, listFrom_nil, List.append_nil] at hscan

/-! Quoted text is one token. -/

theorem next?_quoted (text : String) (rest : List Char) :
    next? (quoted text ++ rest) = some (.text (some text), rest) := by
  obtain ⟨pieces, hread, htext⟩ := textOf?_quoted text rest
  rw [quoted, List.append_assoc, List.cons_append, List.singleton_append, next?, hread,
    Option.map_some, htext]

theorem Scans.text (text : String) {source rest : List Char} {tokens : List Token}
    (hrest : Scans source tokens rest) :
    Scans (quoted text ++ source) (.text (some text) :: tokens) rest :=
  Scans.cons (c := '"') rfl (next?_quoted text source) hrest

/-! So is a decimal numeral, up to a character that cannot continue it. -/

def endsNumeral (c : Char) : Bool :=
  !c.isDigit && c != '.' && c != 'e' && c != 'E'

theorem span_decimal (n : Nat) {c : Char} (h : c.isDigit = false) (rest : List Char) :
    (decimal n ++ c :: rest).span Char.isDigit = (decimal n, c :: rest) := by
  have hdigits : ∀ d ∈ decimal n, d.isDigit = true := fun _ => isDigit_of_mem_decimal
  rw [List.span_eq_takeWhile_dropWhile, List.takeWhile_append_of_pos hdigits,
    List.dropWhile_append_of_pos hdigits]
  simp [h]

theorem whole?_decimal (n : Nat) {c : Char} (h : c.isDigit = false) (rest : List Char) :
    whole? (decimal n ++ c :: rest) = some (decimal n, c :: rest) := by
  have hne : (decimal n).isEmpty = false := by
    rw [List.isEmpty_eq_false_iff]
    exact decimal_ne_nil n
  have hzero : ((decimal n).head? == some '0' && (decimal n).length != 1) = false := by
    rcases Nat.eq_zero_or_pos n with hn | hn
    · subst hn
      rfl
    · simp [head?_decimal_ne_zero hn]
  simp only [whole?, digits?, span_decimal n h, hne]
  rw [if_neg (by simp)]
  simp only [Option.bind_eq_bind, Option.bind_some, hzero]
  rfl

theorem numeral?_decimal (n : Nat) {c : Char} (h : endsNumeral c = true) (rest : List Char) :
    numeral? (decimal n ++ c :: rest) = some (decimal n, c :: rest) := by
  simp only [endsNumeral, Bool.and_eq_true, Bool.not_eq_true', bne_iff_ne] at h
  obtain ⟨⟨⟨hdigit, hpoint⟩, hsmall⟩, hlarge⟩ := h
  have hsigned : signed (decimal n ++ c :: rest) = ([], decimal n ++ c :: rest) := by
    cases hdecimal : decimal n with
    | nil => exact absurd hdecimal (decimal_ne_nil n)
    | cons d digits =>
        have hd : d.isDigit = true := isDigit_of_mem_decimal (by rw [hdecimal]; simp)
        rw [List.cons_append, signed]
        intro _ heq
        injection heq with hsign
        rw [hsign] at hd
        cases hd
  have hdecimals : decimals? (c :: rest) = some ([], c :: rest) := by
    rw [decimals?]
    simpa using hpoint
  have hscale : scale? (c :: rest) = some ([], c :: rest) := by
    simp [scale?, hsmall, hlarge]
  simp [numeral?, hsigned, whole?_decimal n hdigit, hdecimals, hscale]

theorem next?_of_isDigit {c : Char} (h : c.isDigit = true) (source : List Char) :
    next? (c :: source) = (numeral? (c :: source)).map fun found => (.number found.1, found.2) := by
  rw [next?]
  · intro heq
    cases heq
  all_goals
    intro rest heq
    injection heq with hmark
    rw [hmark] at h
    cases h

theorem Scans.number (n : Nat) {c : Char} (hc : endsNumeral c = true)
    {source rest : List Char} {tokens : List Token} (hrest : Scans (c :: source) tokens rest) :
    Scans (decimal n ++ c :: source) (.number (decimal n) :: tokens) rest := by
  have hnumeral := numeral?_decimal n hc source
  cases hdecimal : decimal n with
  | nil => exact absurd hdecimal (decimal_ne_nil n)
  | cons d digits =>
      have hd : d.isDigit = true := isDigit_of_mem_decimal (by rw [hdecimal]; simp)
      have hspace : isSpace d = false := by
        have hcode := (isDigit_iff d).mp hd
        simp only [isSpace, Bool.or_eq_false_iff, beq_eq_false_iff_ne]
        refine ⟨⟨⟨?_, ?_⟩, ?_⟩, ?_⟩ <;> rintro rfl <;> revert hcode <;> decide
      rw [hdecimal, List.cons_append] at hnumeral
      refine Scans.cons hspace ?_ hrest
      rw [List.append_eq, next?_of_isDigit hd, hnumeral]
      rfl

end SuiteScribe.Json.Token
