import Mathlib.Computability.RegularExpressions
import SuiteScribe.Proofs.Script.LineBreaks
import SuiteScribe.Proofs.Script.Reading

namespace SuiteScribe.Script

open Text

/-! Texts as scripts hold them at run time: sequences of 16-bit units. A character beyond the first
plane takes two of them, a leading and a trailing one. -/

def codeUnits (code : Nat) : List Nat :=
  if code < 0x10000 then [code]
  else [0xD800 + (code - 0x10000) / 0x400, 0xDC00 + (code - 0x10000) % 0x400]

def units (text : List Char) : List Nat :=
  text.flatMap fun c => codeUnits c.toNat

/-- No character is a half of a pair, so that units tell where each character ends. -/
theorem codeUnits_append_inj {first second : Char} {rest more : List Nat}
    (h : codeUnits first.toNat ++ rest = codeUnits second.toNat ++ more) :
    first = second ∧ rest = more := by
  have hfirst : first.toNat < 0xD800 ∨ 0xDFFF < first.toNat ∧ first.toNat < 0x110000 := first.valid
  have hsecond : second.toNat < 0xD800 ∨ 0xDFFF < second.toNat ∧ second.toNat < 0x110000 :=
    second.valid
  rw [← Char.toNat_inj]
  unfold codeUnits at h
  split at h <;> split at h <;>
    simp only [List.cons_append, List.nil_append, List.cons.injEq] at h
  · exact h
  · omega
  · omega
  · exact ⟨by omega, h.2.2⟩

theorem units_cons (c : Char) (text : List Char) :
    units (c :: text) = codeUnits c.toNat ++ units text :=
  List.flatMap_cons

theorem units_cons_ne_nil (c : Char) (text : List Char) : units (c :: text) ≠ [] := by
  rw [units_cons, codeUnits]
  split <;> exact List.cons_ne_nil _ _

theorem units_inj {first second : List Char} (h : units first = units second) :
    first = second := by
  induction first generalizing second with
  | nil =>
      cases second with
      | nil => rfl
      | cons c second => exact absurd h.symm (units_cons_ne_nil c second)
  | cons c first ih =>
      cases second with
      | nil => exact absurd h (units_cons_ne_nil c first)
      | cons d second =>
          rw [units_cons, units_cons] at h
          obtain ⟨rfl, hrest⟩ := codeUnits_append_inj h
          rw [ih hrest]

/-! What a backslash stands for, together with what belongs to it. -/

def escapedCharacter : Char → Char
  | 'b' => '\x08'
  | 'f' => '\x0c'
  | 'n' => '\n'
  | 'r' => '\r'
  | 't' => '\t'
  | 'v' => '\x0b'
  | c => c

def hexadecimalUnit? (width : Nat) (source : List Char) : Option (List Nat × List Char) :=
  if source.length < width then none
  else (numberIn? 16 (source.take width)).map fun unit => ([unit], source.drop width)

def bracedCode? (source : List Char) : Option (List Nat × List Char) :=
  match source.dropWhile (· != '\x7d') with
  | [] => none
  | _ :: rest =>
      (numberIn? 16 (source.takeWhile (· != '\x7d'))).bind fun code =>
        if code < 0x110000 then some (codeUnits code, rest) else none

/-- A line that ends behind a backslash goes on. Digits behind one are numerals of old, and only a
lone zero is left of them. -/
def escapeSequence? : List Char → Option (List Nat × List Char)
  | [] => none
  | '\r' :: '\n' :: rest => some ([], rest)
  | 'x' :: rest => hexadecimalUnit? 2 rest
  | 'u' :: '\x7b' :: rest => bracedCode? rest
  | 'u' :: rest => hexadecimalUnit? 4 rest
  | '0' :: rest => if rest.head?.any Char.isDigit then none else some ([0], rest)
  | c :: rest =>
      if isLineTerminator c then some ([], rest)
      else if c.isDigit then none
      else some (codeUnits (escapedCharacter c).toNat, rest)

theorem length_hexadecimalUnit? {width : Nat} {source rest : List Char} {found : List Nat}
    (h : hexadecimalUnit? width source = some (found, rest)) : rest.length ≤ source.length := by
  unfold hexadecimalUnit? at h
  split at h
  · cases h
  · obtain ⟨unit, -, heq⟩ := Option.map_eq_some_iff.mp h
    cases heq
    rw [List.length_drop]
    omega

theorem length_bracedCode? {source rest : List Char} {found : List Nat}
    (h : bracedCode? source = some (found, rest)) : rest.length ≤ source.length := by
  unfold bracedCode? at h
  split at h
  · cases h
  · next hdrop =>
      obtain ⟨code, -, hcode⟩ := Option.bind_eq_some_iff.mp h
      have hsuffix := (List.dropWhile_suffix (· != '\x7d') (l := source)).length_le
      split at hcode
      · cases hcode
        rw [hdrop, List.length_cons] at hsuffix
        omega
      · cases hcode

theorem length_escapeSequence? {source rest : List Char} {found : List Nat}
    (h : escapeSequence? source = some (found, rest)) : rest.length < source.length := by
  unfold escapeSequence? at h
  split at h
  · cases h
  · cases h
    exact Nat.lt_add_of_pos_right Nat.two_pos
  · exact Nat.lt_succ_of_le (length_hexadecimalUnit? h)
  · exact Nat.lt_succ_of_lt (Nat.lt_succ_of_le (length_bracedCode? h))
  · exact Nat.lt_succ_of_le (length_hexadecimalUnit? h)
  · split at h
    · cases h
    · cases h
      simp
  · split at h
    · cases h
      simp
    · split at h
      · cases h
      · cases h
        simp

/-- The units up to the closing mark, and what stands after it. -/
def literalBody? (source : List Char) : Option (List Nat × List Char) :=
  match source with
  | [] => none
  | '\'' :: rest => some ([], rest)
  | '\\' :: rest =>
      match h : escapeSequence? rest with
      | none => none
      | some (found, after) =>
          have : after.length < rest.length := length_escapeSequence? h
          (literalBody? after).map fun (more, left) => (found ++ more, left)
  | c :: rest =>
      if isLineBreak c then none
      else (literalBody? rest).map fun (more, left) => (codeUnits c.toNat ++ more, left)
termination_by source.length

def stringLiteral : Reader (List Nat)
  | '\'' :: rest => literalBody? rest
  | _ => none

example :
    stringLiteral "'\\x41\\u\x7b1f600\x7d\\\r\n\\0\u2028\\q' + x".toList =
      some ([0x41, 0xD83D, 0xDE00, 0, 0x2028, 0x71], " + x".toList) := by
  cbv

/-! A quoted text is read as it is, character by character. -/

theorem literalBody?_escape {source rest left : List Char} {found text : List Nat}
    (h : escapeSequence? source = some (found, rest))
    (hrest : literalBody? rest = some (text, left)) :
    literalBody? ('\\' :: source) = some (found ++ text, left) := by
  rw [literalBody?]
  split
  · next hnone => cases h.symm.trans hnone
  · next heq =>
      cases h.symm.trans heq
      rw [hrest]
      rfl

theorem literalBody?_plain {c : Char} {rest left : List Char} {text : List Nat}
    (hmark : c ≠ '\'') (hslash : c ≠ '\\') (hbreak : isLineBreak c = false)
    (hrest : literalBody? rest = some (text, left)) :
    literalBody? (c :: rest) = some (codeUnits c.toNat ++ text, left) := by
  rw [literalBody?]
  · rw [hbreak, hrest]
    rfl
  · exact hmark
  · exact hslash

theorem literalBody?_escapeQuoted (c : Char) {rest left : List Char} {text : List Nat}
    (hrest : literalBody? rest = some (text, left)) :
    literalBody? (escapeQuoted c ++ rest) = some (codeUnits c.toNat ++ text, left) := by
  unfold escapeQuoted
  split
  · exact literalBody?_escape rfl hrest
  · exact literalBody?_escape rfl hrest
  · exact literalBody?_escape rfl hrest
  · exact literalBody?_escape rfl hrest
  · exact literalBody?_escape rfl hrest
  · next hslash hmark hfeed hreturn _ =>
      have hbreak : isLineBreak c = false := by
        simpa [isLineBreak] using ⟨hfeed, hreturn⟩
      exact literalBody?_plain hmark hslash hbreak hrest

theorem recovers_stringLiteral (value : String) :
    Recovers stringLiteral (quote value) (units value.toList) := by
  intro rest
  rw [toList_quote, quoteChars, List.cons_append, List.cons_append, List.append_assoc]
  change literalBody? _ = _
  induction value.toList with
  | nil =>
      rw [List.flatMap_nil, List.nil_append, List.singleton_append, literalBody?]
      rfl
  | cons c text ih =>
      rw [List.flatMap_cons, List.append_assoc]
      exact literalBody?_escapeQuoted c ih

/-- A quoted text is one literal of the script, whatever follows it, and its value is the text. So
two texts are never quoted alike, and no quoted text begins with another one. -/
theorem quote_decodes (value : String) :
    (∀ rest, stringLiteral ((quote value).toList ++ rest) = some (units value.toList, rest)) ∧
      (∀ other : String, units other.toList = units value.toList ↔ other = value) ∧
      (∀ other, quote other = quote value ↔ other = value) ∧
      ∀ other, (quote value).toList <+: (quote other).toList ↔ other = value := by
  have hunits : ∀ other : String, units other.toList = units value.toList ↔ other = value :=
    fun other => ⟨fun h => String.toList_inj.mp (units_inj h), fun h => h ▸ rfl⟩
  have hbegins : ∀ other, (quote value).toList <+: (quote other).toList → other = value := by
    rintro other ⟨rest, hrest⟩
    have hother := recovers_stringLiteral other []
    rw [List.append_nil, ← hrest, recovers_stringLiteral value rest] at hother
    have hread : units value.toList = units other.toList :=
      congrArg Prod.fst (Option.some.inj hother)
    exact (hunits other).mp hread.symm
  refine ⟨recovers_stringLiteral value, hunits, fun other => ?_, fun other => ?_⟩
  · exact ⟨fun hsame => hbegins other (hsame ▸ List.prefix_rfl), fun heq => heq ▸ rfl⟩
  · exact ⟨hbegins other, fun heq => heq ▸ List.prefix_rfl⟩

/-! The body of a pattern is read from left to right: a backslash belongs to the character after it,
and every other character stands alone. Line ends are characters like any other here, and a body may
be empty. -/

inductive PatternUnit
  | plain (c : Char)
  | escaped (c : Char)
  deriving DecidableEq, Repr

def PatternUnit.character : PatternUnit → Char
  | plain c => c
  | escaped c => c

/-- A backslash at the very end belongs to nothing. -/
def units? : List Char → Option (List PatternUnit)
  | [] => some []
  | ['\\'] => none
  | '\\' :: c :: rest => (units? rest).map (.escaped c :: ·)
  | c :: rest => (units? rest).map (.plain c :: ·)

theorem units?_escaped (c : Char) (rest : List Char) :
    units? ('\\' :: c :: rest) = (units? rest).map (.escaped c :: ·) := rfl

theorem units?_plain {c : Char} (h : c ≠ '\\') (rest : List Char) :
    units? (c :: rest) = (units? rest).map (.plain c :: ·) := by
  rw [units?] <;> simp_all

/-! What each character of a fragment is read as. -/

def unitOf (c : Char) : PatternUnit :=
  if patternOperators.contains c || c == '/' then .escaped c else .plain c

theorem character_unitOf (c : Char) : (unitOf c).character = c := by
  unfold unitOf
  split <;> rfl

theorem map_character_unitOf (fragment : List Char) :
    (fragment.map unitOf).map PatternUnit.character = fragment := by
  rw [List.map_map]
  exact List.map_id'' character_unitOf fragment

theorem units?_escapePattern (c : Char) (rest : List Char) :
    units? (escapePattern c ++ rest) = (units? rest).map (unitOf c :: ·) := by
  unfold escapePattern unitOf
  split
  · exact units?_escaped c rest
  · next hplain =>
      apply units?_plain
      rintro rfl
      exact hplain rfl

theorem units?_flatMap_escapePattern (fragment : List Char) :
    units? (fragment.flatMap escapePattern) = some (fragment.map unitOf) := by
  induction fragment with
  | nil => rfl
  | cons c rest ih => rw [List.flatMap_cons, units?_escapePattern, ih]; rfl

theorem not_mem_of_plain_mem {fragment : List Char} {c : Char}
    (h : .plain c ∈ fragment.map unitOf) : c ≠ '/' ∧ c ∉ patternOperators := by
  obtain ⟨d, -, hd⟩ := List.mem_map.mp h
  unfold unitOf at hd
  split at hd
  · cases hd
  · next hplain =>
      cases hd
      simpa [and_comm] using hplain

/-! What a pattern matches. Some characters are operators unless a backslash stands before them, and
letters and digits are operators, classes or references behind one; such units are left without a
meaning here. All other units match their character. -/

def syntaxCharacters : List Char :=
  ['^', '$', '\\', '.', '*', '+', '?', '(', ')', '[', ']', '\x7b', '\x7d', '|']

def PatternUnit.expression? : PatternUnit → Option (RegularExpression Char)
  | plain c => if c ∈ syntaxCharacters then none else some (.char c)
  | escaped c => if c.isAlphanum then none else some (.char c)

def expression? (units : List PatternUnit) : Option (RegularExpression Char) :=
  (units.mapM PatternUnit.expression?).map List.prod

/-- An expression finds itself in a text if some part of the text matches it. -/
def Finds (expression : RegularExpression Char) (text : List Char) : Prop :=
  ∃ part ∈ expression.matches', part <:+: text

theorem syntaxCharacters_subset : ∀ c ∈ syntaxCharacters, c ∈ patternOperators := by
  simp [syntaxCharacters, patternOperators]

theorem isAlphanum_of_mem_patternOperators : ∀ c ∈ patternOperators, c.isAlphanum = false := by
  simp [patternOperators]

theorem expression?_unitOf (c : Char) : (unitOf c).expression? = some (.char c) := by
  unfold unitOf
  split
  · next hescaped =>
      have hmeaning : c.isAlphanum = false := by
        rcases Bool.or_eq_true_iff.mp hescaped with hoperator | hslash
        · exact isAlphanum_of_mem_patternOperators c (List.contains_iff_mem.mp hoperator)
        · rw [eq_of_beq hslash]
          rfl
      simp [PatternUnit.expression?, hmeaning]
  · next hplain =>
      have hmeaning : c ∉ syntaxCharacters := by
        intro hmem
        apply hplain
        rw [List.contains_iff_mem.mpr (syntaxCharacters_subset c hmem)]
        rfl
      simp [PatternUnit.expression?, hmeaning]

theorem expression?_map_unitOf (fragment : List Char) :
    expression? (fragment.map unitOf) = some (fragment.map RegularExpression.char).prod := by
  have hunits : (fragment.map unitOf).mapM PatternUnit.expression? =
      some (fragment.map RegularExpression.char) := by
    induction fragment with
    | nil => rfl
    | cons c rest ih => simp [List.mapM_cons, expression?_unitOf, ih]
  rw [expression?, hunits, Option.map_some]

theorem matches'_prod_char (text : List Char) :
    (text.map RegularExpression.char).prod.matches' = {text} := by
  induction text with
  | nil => rfl
  | cons c rest ih =>
      rw [List.map_cons, List.prod_cons, RegularExpression.matches'_mul, ih,
        RegularExpression.matches'_char]
      exact Set.image2_singleton

theorem finds_prod_char_iff {fragment text : List Char} :
    Finds (fragment.map RegularExpression.char).prod text ↔ fragment <:+: text := by
  unfold Finds
  rw [matches'_prod_char]
  constructor
  · rintro ⟨part, rfl, hpart⟩
    exact hpart
  · intro hfragment
    exact ⟨fragment, rfl, hfragment⟩

/-- The pattern of a fragment means the fragment and nothing else. Between its slashes stands what
the two passes make of the fragment; read unit by unit, this spells the fragment, with a backslash
wherever a character could be taken for the end or for an operator. Therefore a reader leaves the
pattern exactly at its last slash, whatever follows, two fragments never share a pattern, and a
text matches if and only if it contains the fragment. -/
theorem urlPattern_means_fragment (fragment : String) :
    ∃ body units,
      (urlPattern fragment).toList = '/' :: body ++ ['/'] ∧
      body = escapeSlashes (escapeOperators fragment.toList) ∧
      units? body = some units ∧
      units.map PatternUnit.character = fragment.toList ∧
      (∀ c, .plain c ∈ units → c ≠ '/' ∧ c ∉ patternOperators) ∧
      (∀ rest, pattern ((urlPattern fragment).toList ++ rest) = some (fragment, rest)) ∧
      (∀ other, urlPattern other = urlPattern fragment → other = fragment) ∧
      ∃ expression, expression? units = some expression ∧
        ∀ text : String, Finds expression text.toList ↔ fragment.toList <:+: text.toList := by
  have hsource : (urlPattern fragment).toList =
      '/' :: fragment.toList.flatMap escapePattern ++ ['/'] := by
    rw [toList_urlPattern, urlPatternChars]
  refine ⟨fragment.toList.flatMap escapePattern, fragment.toList.map unitOf, hsource, ?_, ?_, ?_,
    ?_, recovers_pattern fragment, ?_, _, expression?_map_unitOf _, fun text => ?_⟩
  · exact (escapeSlashes_escapeOperators _).symm
  · exact units?_flatMap_escapePattern _
  · exact map_character_unitOf _
  · exact fun c => not_mem_of_plain_mem
  · intro other hsame
    exact ((recovers_pattern other).eq_of_append_eq (recovers_pattern fragment)
      (congrArg (· ++ "") hsame)).1
  · exact finds_prod_char_iff

/-- Slashes behind backslashes, and operators next to slashes. -/
theorem urlPattern_means_fragment_mixed :
    (∃ body, (urlPattern "\\/a.*/").toList = '/' :: body ++ ['/'] ∧
      units? body = some
        [.escaped '\\', .escaped '/', .plain 'a', .escaped '.', .escaped '*', .escaped '/']) ∧
      "b" ≠ "\\/a.*/" ∧ urlPattern "b" ≠ urlPattern "\\/a.*/" := by
  obtain ⟨body, units, hsource, hbody, hunits, -, -, -, hinjective, -⟩ :=
    urlPattern_means_fragment "\\/a.*/"
  have hne : "b" ≠ "\\/a.*/" := by decide
  refine ⟨⟨body, hsource, ?_⟩, hne, fun hsame => hne (hinjective "b" hsame)⟩
  rw [hbody]
  decide

end SuiteScribe.Script
