import SuiteScribe.Proofs.Text
import SuiteScribe.Script

namespace SuiteScribe.Script

/-! A lexical scan of a script. In quoted text and in a pattern a backslash takes the next character
along. A slash in code opens a comment or a pattern, as the character after it tells. -/

inductive Mode
  | code
  | quoted
  | pattern
  | lineComment
  | blockComment
  deriving DecidableEq, Repr

/-- Where a scan ends, and what it met in code. -/
structure Scan where
  mode : Mode
  code : List Char
  deriving DecidableEq, Repr

def Scan.meet (met : List Char) (scan : Scan) : Scan :=
  { scan with code := met ++ scan.code }

def scan : Mode → List Char → Scan
  | mode, [] => { mode, code := [] }
  | .code, '\'' :: rest => (scan .quoted rest).meet ['\'']
  | .code, '/' :: '/' :: rest => (scan .lineComment rest).meet ['/', '/']
  | .code, '/' :: '*' :: rest => (scan .blockComment rest).meet ['/', '*']
  | .code, '/' :: rest => (scan .pattern rest).meet ['/']
  | .code, c :: rest => (scan .code rest).meet [c]
  | .quoted, '\\' :: _ :: rest => scan .quoted rest
  | .quoted, '\'' :: rest => scan .code rest
  | .quoted, _ :: rest => scan .quoted rest
  | .pattern, '\\' :: _ :: rest => scan .pattern rest
  | .pattern, '/' :: rest => scan .code rest
  | .pattern, _ :: rest => scan .pattern rest
  | .lineComment, '\n' :: rest => (scan .code rest).meet ['\n']
  | .lineComment, _ :: rest => scan .lineComment rest
  | .blockComment, '*' :: '/' :: rest => scan .code rest
  | .blockComment, _ :: rest => scan .blockComment rest

@[simp] theorem Scan.meet_meet (first second : List Char) (scan : Scan) :
    (scan.meet second).meet first = scan.meet (first ++ second) := by
  simp [meet]

section

attribute [local simp] scan

theorem scan_code {c : Char} (hquote : c ≠ '\'') (hslash : c ≠ '/') (rest : List Char) :
    scan .code (c :: rest) = (scan .code rest).meet [c] := by
  simp [hslash]

theorem scan_code_pattern {c : Char} (hslash : c ≠ '/') (hstar : c ≠ '*') (rest : List Char) :
    scan .code ('/' :: c :: rest) = (scan .pattern (c :: rest)).meet ['/'] := by
  simp [hslash, hstar]

theorem scan_quoted {c : Char} (hquote : c ≠ '\'') (hslash : c ≠ '\\') (rest : List Char) :
    scan .quoted (c :: rest) = scan .quoted rest := by
  simp [hslash]

theorem scan_pattern {c : Char} (hslash : c ≠ '/') (hback : c ≠ '\\') (rest : List Char) :
    scan .pattern (c :: rest) = scan .pattern rest := by
  simp [hback]

theorem scan_lineComment {c : Char} (h : c ≠ '\n') (rest : List Char) :
    scan .lineComment (c :: rest) = scan .lineComment rest := by
  simp

theorem scan_blockComment {c : Char} (h : c ≠ '*') (rest : List Char) :
    scan .blockComment (c :: rest) = scan .blockComment rest := by
  simp [h]

end

/-! Brackets of a script. What is open is the list of the brackets that have yet to come, the next
one first. -/

def closer? : Char → Option Char
  | '(' => some ')'
  | '[' => some ']'
  | '\x7b' => some '\x7d'
  | _ => none

def isCloser (c : Char) : Bool :=
  c == ')' || c == ']' || c == '\x7d'

/-- What is open after a text, unless a bracket closes what is not open. -/
def settle (awaited : List Char) : List Char → Option (List Char)
  | [] => some awaited
  | c :: rest =>
      match closer? c with
      | some closer => settle (closer :: awaited) rest
      | none =>
          if isCloser c then
            match awaited with
            | [] => none
            | expected :: outer => if c == expected then settle outer rest else none
          else settle awaited rest

def Balanced (code : List Char) : Prop :=
  settle [] code = some []

theorem settle_append (awaited first second : List Char) :
    settle awaited (first ++ second) =
      (settle awaited first).bind fun between => settle between second := by
  induction first generalizing awaited with
  | nil => rfl
  | cons c first ih =>
      simp only [List.cons_append, settle]
      cases closer? c with
      | some closer => exact ih (closer :: awaited)
      | none =>
          cases isCloser c with
          | false => exact ih awaited
          | true =>
              cases awaited with
              | nil => rfl
              | cons expected outer =>
                  by_cases hexpected : c == expected
                  · simpa [hexpected] using ih outer
                  · simp [hexpected]

/-! A literal is left exactly where it ends, whatever text it was made from. All that the scan meets
of it in code is the mark that opens it. -/

theorem scan_escapeQuoted (c : Char) (rest : List Char) :
    scan .quoted (escapeQuoted c ++ rest) = scan .quoted rest := by
  unfold escapeQuoted
  split
  · rfl
  · rfl
  · rfl
  · rfl
  · rfl
  · next hslash hquote _ _ _ => exact scan_quoted hquote hslash rest

theorem scan_escapesQuoted (value rest : List Char) :
    scan .quoted (value.flatMap escapeQuoted ++ rest) = scan .quoted rest := by
  induction value with
  | nil => rfl
  | cons c value ih => rw [List.flatMap_cons, List.append_assoc, scan_escapeQuoted, ih]

theorem scan_quoteChars (value rest : List Char) :
    scan .code (quoteChars value ++ rest) = (scan .code rest).meet ['\''] := by
  have hvalue := scan_escapesQuoted value ('\'' :: rest)
  rw [quoteChars, List.append_assoc, List.cons_append, scan, List.singleton_append, hvalue, scan]

theorem scan_escapePattern (c : Char) (rest : List Char) :
    scan .pattern (escapePattern c ++ rest) = scan .pattern rest := by
  unfold escapePattern
  split
  · rfl
  · next hplain =>
      have hslash : c ≠ '/' := by
        rintro rfl
        exact hplain rfl
      have hback : c ≠ '\\' := by
        rintro rfl
        exact hplain rfl
      exact scan_pattern hslash hback rest

theorem scan_escapesPattern (fragment rest : List Char) :
    scan .pattern (fragment.flatMap escapePattern ++ rest) = scan .pattern rest := by
  induction fragment with
  | nil => rfl
  | cons c fragment ih => rw [List.flatMap_cons, List.append_assoc, scan_escapePattern, ih]

/-- An escaped character opens neither kind of comment after a slash. -/
theorem escapePattern_eq_cons (c : Char) :
    ∃ first more, escapePattern c = first :: more ∧ first ≠ '/' ∧ first ≠ '*' := by
  unfold escapePattern
  split
  · exact ⟨'\\', [c], rfl, by decide, by decide⟩
  · next hplain =>
      refine ⟨c, [], rfl, ?_, ?_⟩
      · rintro rfl
        exact hplain rfl
      · rintro rfl
        exact hplain rfl

theorem scan_urlPatternChars {fragment : List Char} (h : fragment ≠ []) (rest : List Char) :
    scan .code (urlPatternChars fragment ++ rest) = (scan .code rest).meet ['/'] := by
  have hbody := scan_escapesPattern fragment ('/' :: rest)
  cases fragment with
  | nil => exact absurd rfl h
  | cons c fragment =>
      obtain ⟨first, more, hfirst, hslash, hstar⟩ := escapePattern_eq_cons c
      rw [List.flatMap_cons, hfirst] at hbody
      rw [urlPatternChars, List.flatMap_cons, hfirst]
      simp only [List.cons_append, List.append_assoc, List.nil_append] at hbody ⊢
      rw [scan_code_pattern hslash hstar, hbody, scan]

open Text

/-! Text on a single line: what is left of white space is spaces. -/

theorem mem_intercalate {separator : List Char} {parts : List (List Char)} {c : Char}
    (h : c ∈ separator.intercalate parts) : c ∈ separator ∨ ∃ part ∈ parts, c ∈ part := by
  induction parts with
  | nil => cases h
  | cons part parts ih =>
      cases parts with
      | nil =>
          rw [List.intercalate_singleton] at h
          exact .inr ⟨part, List.mem_cons_self, h⟩
      | cons next parts =>
          rw [List.intercalate_cons_cons, List.mem_append, List.mem_append] at h
          rcases h with (hpart | hseparator) | hrest
          · exact .inr ⟨part, List.mem_cons_self, hpart⟩
          · exact .inl hseparator
          · exact (ih hrest).imp_right fun ⟨other, hother, hc⟩ =>
              ⟨other, List.mem_cons_of_mem part hother, hc⟩

theorem mem_singleLineChars {text : List Char} {c : Char} (h : c ∈ singleLineChars text) :
    c = ' ' ∨ isBlank c = false := by
  rcases mem_intercalate h with hspace | ⟨word, hword, hc⟩
  · exact .inl (List.mem_singleton.mp hspace)
  · exact .inr (isBlank_of_mem_words hword c hc)

theorem feed_not_mem_singleLine (text : String) : '\n' ∉ (singleLine text).toList := by
  intro hmem
  rw [toList_singleLine] at hmem
  rcases mem_singleLineChars hmem with hspace | hblank
  · revert hspace
    decide
  · revert hblank
    decide

/-- A comment of one line is left with the line. -/
theorem scan_lineComment_text {text : List Char} (h : '\n' ∉ text) (rest : List Char) :
    scan .code ('/' :: '/' :: text ++ '\n' :: rest) =
      (scan .code rest).meet ['/', '/', '\n'] := by
  have htext : scan .lineComment (text ++ '\n' :: rest) = (scan .code rest).meet ['\n'] := by
    induction text with
    | nil => rfl
    | cons c text ih =>
        rw [List.mem_cons, not_or] at h
        rw [List.cons_append, scan_lineComment (Ne.symm h.1), ih h.2]
  rw [List.cons_append, List.cons_append, scan, htext, Scan.meet_meet]
  rfl

/-! Text is contained in a block comment if it does not close it, even in part. -/

def Contained (text : List Char) : Prop :=
  ∀ rest, scan .blockComment (text ++ rest) = scan .blockComment rest

theorem Contained.append {first second : List Char} (hfirst : Contained first)
    (hsecond : Contained second) : Contained (first ++ second) := by
  intro rest
  rw [List.append_assoc, hfirst, hsecond]

theorem contained_of_not_mem {text : List Char} (h : '*' ∉ text) : Contained text := by
  intro rest
  induction text with
  | nil => rfl
  | cons c text ih =>
      rw [List.mem_cons, not_or] at h
      rw [List.cons_append, scan_blockComment (Ne.symm h.1), ih h.2]

theorem scan_star {c : Char} (h : c ≠ '/') (rest : List Char) :
    scan .blockComment ('*' :: c :: rest) = scan .blockComment (c :: rest) := by
  rw [scan]
  simpa using h

theorem contained_star {c : Char} (hslash : c ≠ '/') (hstar : c ≠ '*') : Contained ['*', c] := by
  intro rest
  rw [List.cons_append, List.cons_append, scan_star hslash, scan_blockComment hstar,
    List.nil_append]

theorem splitClosers_cons (c : Char) (text : List Char) :
    ∃ more, splitClosers (c :: text) = c :: more := by
  rw [splitClosers.eq_def]
  split
  · next heq =>
      cases heq
      exact ⟨_, rfl⟩
  · next heq =>
      cases heq
      exact ⟨_, rfl⟩
  · next heq => cases heq

theorem contained_splitClosers (text : List Char) : Contained (splitClosers text ++ ['\n']) := by
  intro rest
  rw [List.append_assoc, List.singleton_append]
  fun_induction splitClosers text with
  | case1 text ih =>
      have hclose : scan .blockComment ('*' :: ' ' :: '/' :: (splitClosers text ++ '\n' :: rest)) =
          scan .blockComment (splitClosers text ++ '\n' :: rest) := by
        rw [scan_star (by decide), scan_blockComment (by decide), scan_blockComment (by decide)]
      exact hclose.trans ih
  | case2 c text hopen ih =>
      rw [List.cons_append]
      by_cases hstar : c = '*'
      · subst hstar
        rw [← ih]
        cases text with
        | nil => exact scan_star (by decide) rest
        | cons d text =>
            have hslash : d ≠ '/' := by
              rintro rfl
              exact hopen text rfl rfl
            obtain ⟨more, hmore⟩ := splitClosers_cons d text
            rw [hmore, List.cons_append]
            exact scan_star hslash _
      · rw [scan_blockComment hstar, ih]
  | case3 => rfl

theorem contained_commentText (text : String) :
    Contained ((commentText text).toList ++ ['\n']) := by
  rw [toList_commentText]
  exact contained_splitClosers _

/-! Times are written without a star. -/

theorem star_not_mem_padded (width n : Nat) : '*' ∉ (padded width n).toList := by
  have hdigits : '*' ∉ decimal n := fun hmem => by cases isDigit_of_mem_decimal hmem
  rw [padded, String.toList_append, String.toList_ofList, toList_toString]
  intro hmem
  rcases List.mem_append.mp hmem with hzero | hdigit
  · cases (List.mem_replicate.mp hzero).2
  · exact hdigits hdigit

theorem star_not_mem_yearText (year : Int) : '*' ∉ (yearText year).toList := by
  have hpadded := star_not_mem_padded 4 year.natAbs
  rw [yearText]
  split
  · simp [hpadded]
  · split
    · exact hpadded
    · simp [hpadded]

theorem star_not_mem_timestamp (seconds : Int) : '*' ∉ (timestamp seconds).toList := by
  simp [timestamp, star_not_mem_padded, star_not_mem_yearText]

end SuiteScribe.Script
