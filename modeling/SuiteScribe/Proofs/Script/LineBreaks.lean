import Mathlib.Data.List.Chain
import SuiteScribe.Proofs.Script.Lexical

namespace SuiteScribe

open Text

/-- The fragment of an address that an action looks for. -/
def Action.fragment? : Action → Option String
  | .verify (.hasUrl expected) => some expected
  | _ => none

theorem Action.fragment?_eq_some_iff {action : Action} {fragment : String} :
    action.fragment? = some fragment ↔ action = .verify (.hasUrl fragment) := by
  unfold Action.fragment?
  split
  · simp
  · next hother => exact ⟨nofun, fun haction => absurd haction (hother fragment)⟩

namespace Script

/-! Line breaks in what is written of a step. Comments have none, and neither have quoted texts, but
a pattern has those of its fragment. -/

def isLineBreak (c : Char) : Bool :=
  c == '\n' || c == '\r'

/-- What ends a line in a script, though not in every kind of text. -/
def isLineTerminator (c : Char) : Bool :=
  isLineBreak c || c == '\u2028' || c == '\u2029'

def breaks (text : String) : List Char :=
  text.toList.filter isLineBreak

@[simp] theorem breaks_append (first second : String) :
    breaks (first ++ second) = breaks first ++ breaks second := by
  simp [breaks]

theorem breaks_eq_nil_iff {text : String} :
    breaks text = [] ↔ ∀ c ∈ text.toList, c ≠ '\n' ∧ c ≠ '\r' := by
  simp [breaks, isLineBreak]

theorem breaks_singleLine (text : String) : breaks (singleLine text) = [] := by
  rw [breaks_eq_nil_iff, toList_singleLine]
  intro c hc
  have hkept : c = ' ' ∨ isBlank c = false := mem_singleLineChars hc
  constructor
  · rintro rfl
    revert hkept
    decide
  · rintro rfl
    revert hkept
    decide

theorem filter_escapeQuoted (c : Char) : (escapeQuoted c).filter isLineBreak = [] := by
  unfold escapeQuoted
  split
  · rfl
  · rfl
  · rfl
  · rfl
  · rfl
  · next hfeed hreturn _ => simpa [isLineBreak] using ⟨hfeed, hreturn⟩

theorem breaks_quote (value : String) : breaks (quote value) = [] := by
  have hvalue : (value.toList.flatMap escapeQuoted).filter isLineBreak = [] := by
    induction value.toList with
    | nil => rfl
    | cons c rest ih => rw [List.flatMap_cons, List.filter_append, filter_escapeQuoted, ih]; rfl
  rw [breaks, toList_quote, quoteChars, List.cons_append, List.filter_cons, List.filter_append,
    hvalue]
  rfl

theorem filter_escapePattern (c : Char) :
    (escapePattern c).filter isLineBreak = [c].filter isLineBreak := by
  unfold escapePattern
  split
  · rfl
  · rfl

theorem breaks_urlPattern (fragment : String) : breaks (urlPattern fragment) = breaks fragment := by
  have hfragment : ∀ text : List Char,
      (text.flatMap escapePattern).filter isLineBreak = text.filter isLineBreak := by
    intro text
    induction text with
    | nil => rfl
    | cons c rest ih =>
        rw [List.flatMap_cons, List.filter_append, filter_escapePattern, ih, ← List.filter_append]
        rfl
  rw [breaks, toList_urlPattern, urlPatternChars, List.cons_append, List.filter_cons,
    List.filter_append, hfragment, breaks]
  exact List.append_nil _

theorem breaks_locator (target : Target) : breaks (locator target) = [] := by
  unfold locator
  split
  · simp only [breaks_append, breaks_quote]
    rfl
  · simp only [breaks_append, breaks_quote]
    rfl

/-! Statements, form by form. -/

theorem breaks_assertionStatement (assertion : Assertion) :
    breaks (assertionStatement assertion) =
      ((Action.verify assertion).fragment?.map breaks).getD [] := by
  unfold assertionStatement
  cases assertion with
  | hasText target expected =>
      simp only [breaks_append, breaks_locator, breaks_quote]
      rfl
  | hasUrl expected =>
      simp only [breaks_append, breaks_urlPattern]
      exact List.append_nil _
  | _ target =>
      simp only [breaks_append, breaks_locator]
      rfl

/-- An action that brings no code of its own is one statement. Its line breaks are those of the
fragment that it looks for. -/
theorem breaks_statement {action : Action} (hcustom : action.kind ≠ .custom) :
    ∃ statement, actionLines action = [stepIndent ++ statement] ∧
      breaks statement = (action.fragment?.map breaks).getD [] := by
  cases action with
  | click target =>
      refine ⟨_, by simp only [actionLines, String.append_assoc]; rfl, ?_⟩
      change _ = []
      simp only [breaks_append, breaks_locator]
      rfl
  | fill target value =>
      refine ⟨_, by simp only [actionLines, String.append_assoc]; rfl, ?_⟩
      change _ = []
      simp only [breaks_append, breaks_locator, breaks_quote]
      rfl
  | verify assertion => exact ⟨_, rfl, breaks_assertionStatement assertion⟩
  | navigate path =>
      refine ⟨_, by simp only [actionLines, String.append_assoc]; rfl, ?_⟩
      change _ = []
      simp only [breaks_append, breaks_quote]
      rfl
  | screenshot name =>
      refine ⟨_, by simp only [actionLines, String.append_assoc]; rfl, ?_⟩
      change _ = []
      simp only [breaks_append, breaks_quote]
      rfl
  | custom statement => exact absurd rfl hcustom

theorem breaks_commentLine (step : Step) : breaks (commentLine step) = [] := by
  rw [commentLine, breaks_append, breaks_append, breaks_singleLine]
  rfl

/-- Unless it brings code of its own, a step is written as one comment and one statement, each at
the depth of steps. Both stand on one line, whatever the texts of the step are, except that a
pattern breaks its line wherever the fragment does. -/
theorem stepLines_on_one_line {step : Step} (hcustom : step.action.kind ≠ .custom) :
    ∃ statement,
      stepLines step =
        [stepIndent ++ "// " ++ singleLine step.description, stepIndent ++ statement] ∧
      ((∀ line ∈ stepLines step, ∀ c ∈ line.toList, c ≠ '\n' ∧ c ≠ '\r') ↔
        ∀ fragment, step.action = .verify (.hasUrl fragment) →
          ∀ c ∈ fragment.toList, c ≠ '\n' ∧ c ≠ '\r') := by
  obtain ⟨statement, hlines, hbreaks⟩ := breaks_statement hcustom
  have hstep : stepLines step = [commentLine step, stepIndent ++ statement] := by
    rw [stepLines, hlines]
  have hindent : breaks (stepIndent ++ statement) = (step.action.fragment?.map breaks).getD [] := by
    rw [breaks_append, hbreaks]
    rfl
  have hfragment : (step.action.fragment?.map breaks).getD [] = [] ↔
      ∀ fragment, step.action = .verify (.hasUrl fragment) → breaks fragment = [] := by
    simp only [← Action.fragment?_eq_some_iff]
    cases step.action.fragment? <;> simp
  refine ⟨statement, hstep, ?_⟩
  simp only [← breaks_eq_nil_iff]
  rw [hstep, List.forall_mem_cons, List.forall_mem_singleton, hindent, hfragment]
  exact and_iff_right (breaks_commentLine step)

theorem stepLines_on_one_line_hostile :
    Action.kind (.fill ⟨"a\r", "'\n"⟩ "\r\n") ≠ .custom ∧
      ∀ line ∈ stepLines ⟨"\nb\r", .fill ⟨"a\r", "'\n"⟩ "\r\n"⟩,
        ∀ c ∈ line.toList, c ≠ '\n' ∧ c ≠ '\r' := by
  have hcustom : Action.kind (.fill ⟨"a\r", "'\n"⟩ "\r\n") ≠ .custom := nofun
  obtain ⟨statement, -, hlines⟩ :=
    @stepLines_on_one_line ⟨"\nb\r", .fill ⟨"a\r", "'\n"⟩ "\r\n"⟩ hcustom
  exact ⟨hcustom, hlines.mpr nofun⟩

/-- The fragment of an address may hold a line break, and then the statement is cut in two. -/
def brokenStep : Step :=
  ⟨"see it", .verify (.hasUrl "a\nb")⟩

theorem stepLines_broken :
    brokenStep.missing? = none ∧ brokenStep.action.kind ≠ .custom ∧
      stepLines brokenStep =
        ["      // see it", "      await expect(page).toHaveURL(/a\nb/);"] ∧
      ¬∀ line ∈ stepLines brokenStep, ∀ c ∈ line.toList, c ≠ '\n' ∧ c ≠ '\r' := by
  have hlines : stepLines brokenStep =
      ["      // see it", "      await expect(page).toHaveURL(/a\nb/);"] := by decide
  refine ⟨by decide, by decide, hlines, fun hunbroken => ?_⟩
  rw [hlines] at hunbroken
  have hfeed := hunbroken _ (.tail _ (.head _)) '\n' (by decide)
  exact hfeed.1 rfl

end Script

end SuiteScribe

namespace SuiteScribe.Script

open Text

/-! Text on a single line as a normal form. Its words are separated by single spaces, and a text of
that form is left as it is. -/

/-- The only white space of a text is spaces, no two of them stand together, and none at the end. -/
structure Spaced (text : List Char) : Prop where
  spaces : ∀ c ∈ text, isBlank c = true → c = ' '
  last : ∀ c ∈ text.getLast?, isBlank c = false
  apart : text.IsChain fun c d => isBlank c = false ∨ isBlank d = false

/-- And none stands at the front. -/
structure SingleSpaced (text : List Char) : Prop extends Spaced text where
  first : ∀ c ∈ text.head?, isBlank c = false

/-! Words with single spaces between them are of that form. -/

theorem singleSpaced_word {word : List Char} (h : ∀ c ∈ word, isBlank c = false) :
    SingleSpaced word where
  spaces c hc hblank := absurd hblank (by simp [h c hc])
  first c hc := h c (List.mem_of_mem_head? hc)
  last c hc := h c (List.mem_of_mem_getLast? hc)
  apart := (List.pairwise_of_forall_mem_list fun c hc _ _ => .inl (h c hc)).isChain

theorem SingleSpaced.append {before after : List Char} (hbefore : SingleSpaced before)
    (hne : before ≠ []) (hafter : SingleSpaced after) (hne' : after ≠ []) :
    SingleSpaced (before ++ ' ' :: after) where
  spaces := by
    intro c hc hblank
    rcases List.mem_append.mp hc with hfront | hrest
    · exact hbefore.spaces c hfront hblank
    · rcases List.mem_cons.mp hrest with rfl | hback
      · rfl
      · exact hafter.spaces c hback hblank
  first := by
    rw [List.head?_append_of_ne_nil before hne]
    exact hbefore.first
  last := by
    rw [List.getLast?_append_cons, List.getLast?_cons_of_ne_nil hne']
    exact hafter.last
  apart := by
    rw [List.isChain_append, List.isChain_cons]
    refine ⟨hbefore.apart, ⟨fun d hd => .inr (hafter.first d hd), hafter.apart⟩, ?_⟩
    exact fun c hc _ _ => .inl (hbefore.last c hc)

theorem singleSpaced_intercalate {parts : List (List Char)}
    (h : ∀ part ∈ parts, part ≠ [] ∧ ∀ c ∈ part, isBlank c = false) :
    SingleSpaced ([' '].intercalate parts) := by
  induction parts with
  | nil => exact singleSpaced_word (List.forall_mem_nil _)
  | cons part parts ih =>
      rw [List.forall_mem_cons] at h
      obtain ⟨⟨hne, hword⟩, hparts⟩ := h
      cases parts with
      | nil =>
          rw [List.intercalate_singleton]
          exact singleSpaced_word hword
      | cons next parts =>
          have hrest : [' '].intercalate (next :: parts) ≠ [] := by
            have hnext : next ≠ [] := (hparts next List.mem_cons_self).1
            cases parts <;> simp [hnext]
          rw [List.intercalate_cons_cons, List.append_assoc, List.singleton_append]
          exact (singleSpaced_word hword).append hne (ih hparts) hrest

theorem singleLineChars_eq_intercalate (text : List Char) :
    singleLineChars text = [' '].intercalate (separated text) := by
  rw [singleLineChars, words_eq_separated]

theorem singleSpaced_singleLine (text : String) : SingleSpaced (singleLine text).toList := by
  rw [toList_singleLine, singleLineChars_eq_intercalate]
  exact singleSpaced_intercalate fun _ => word_of_mem_separated

theorem separated_singleLine (text : String) :
    separated (singleLine text).toList = separated text.toList := by
  rw [toList_singleLine, singleLineChars_eq_intercalate]
  exact separated_intercalate fun _ => word_of_mem_separated

/-! Character by character, a text of that form is left as it is. -/

theorem singleLineChars_cons_blank {c : Char} (h : isBlank c = true) (rest : List Char) :
    singleLineChars (c :: rest) = singleLineChars rest := by
  rw [singleLineChars_eq_intercalate, separated_cons_blank h, ← singleLineChars_eq_intercalate]

theorem singleLineChars_cons_word {c d : Char} (hc : isBlank c = false) (hd : isBlank d = false)
    (rest : List Char) : singleLineChars (c :: d :: rest) = c :: singleLineChars (d :: rest) := by
  obtain ⟨word, others, hrest, hall⟩ := separated_cons_word hc hd rest
  rw [singleLineChars_eq_intercalate, singleLineChars_eq_intercalate, hrest, hall]
  cases others with
  | nil => rfl
  | cons next others => rw [List.intercalate_cons_cons, List.intercalate_cons_cons]; rfl

theorem singleLineChars_cons_gap {c d : Char} (hc : isBlank c = false) (hd : isBlank d = true)
    {rest : List Char} (hne : singleLineChars rest ≠ []) :
    singleLineChars (c :: d :: rest) = c :: ' ' :: singleLineChars rest := by
  rw [singleLineChars_eq_intercalate] at hne ⊢
  rw [singleLineChars_eq_intercalate, separated_cons_gap hc hd]
  cases hrest : separated rest with
  | nil => exact absurd (by rw [hrest]; rfl) hne
  | cons next others =>
      rw [List.intercalate_cons_cons]
      rfl

section

variable {c : Char} {text rest : List Char}

theorem Spaced.tail (h : Spaced (c :: rest)) : Spaced rest where
  spaces d hd := h.spaces d (List.mem_cons_of_mem c hd)
  last d hd := h.last d (by rw [List.getLast?_cons, Option.mem_def.mp hd]; rfl)
  apart := h.apart.tail

/-- Behind a space there is a word. -/
theorem Spaced.behind_space (h : Spaced (c :: rest)) (hc : isBlank c = true) :
    rest ≠ [] ∧ trimStart rest = rest := by
  constructor
  · rintro rfl
    exact Bool.false_ne_true ((h.last c rfl).symm.trans hc)
  · apply trimStart_eq_self
    intro d hd
    exact ((List.isChain_cons.mp h.apart).1 d hd).resolve_left (by simp [hc])

-- Behind a character that was left a space may follow, so the front is not asked to be a word.
theorem Spaced.singleLineChars_eq (h : Spaced text) : singleLineChars text = trimStart text := by
  induction text with
  | nil => rfl
  | cons c rest ih =>
      have hrest : singleLineChars rest = trimStart rest := ih h.tail
      cases hc : isBlank c with
      | true => rw [singleLineChars_cons_blank hc, hrest, trimStart_cons_blank hc]
      | false =>
          rw [trimStart_cons_word hc]
          cases rest with
          | nil =>
              rw [singleLineChars_eq_intercalate, separated_singleton hc]
              rfl
          | cons d rest =>
              cases hd : isBlank d with
              | false => rw [singleLineChars_cons_word hc hd, hrest, trimStart_cons_word hd]
              | true =>
                  obtain ⟨hne, hfirst⟩ := h.tail.behind_space hd
                  have hkept : singleLineChars rest = rest := by
                    rw [← singleLineChars_cons_blank hd, hrest, trimStart_cons_blank hd, hfirst]
                  rw [singleLineChars_cons_gap hc hd (hkept.symm ▸ hne), hkept,
                    h.spaces d (by simp) hd]

end

theorem singleLine_eq_self_iff (text : String) :
    singleLine text = text ↔ SingleSpaced text.toList := by
  constructor
  · intro h
    rw [← h]
    exact singleSpaced_singleLine text
  · intro h
    rw [← String.toList_inj, toList_singleLine, h.toSpaced.singleLineChars_eq]
    exact trimStart_eq_self h.first

theorem singleLine_eq_iff (text other : String) :
    singleLine text = singleLine other ↔ separated text.toList = separated other.toList := by
  constructor
  · intro h
    rw [← separated_singleLine text, h, separated_singleLine other]
  · intro h
    rw [singleLine, singleLine, singleLineChars_eq_intercalate, h,
      ← singleLineChars_eq_intercalate]

/-- Text on a single line is a normal form of its words. They are separated by single spaces, with
nothing before the first and behind the last one, and are the words of the text; what has that form
is left as it is, so that nothing changes the second time; and two texts are alike on a single line
if and only if they have the same words. -/
theorem singleLine_normal_form (text : String) :
    SingleSpaced (singleLine text).toList ∧
      separated (singleLine text).toList = separated text.toList ∧
      (singleLine text = text ↔ SingleSpaced text.toList) ∧
      singleLine (singleLine text) = singleLine text ∧
      ∀ other, singleLine text = singleLine other ↔
        separated text.toList = separated other.toList := by
  have hspaced : SingleSpaced (singleLine text).toList := singleSpaced_singleLine text
  refine ⟨hspaced, separated_singleLine text, singleLine_eq_self_iff text, ?_,
    singleLine_eq_iff text⟩
  exact (singleLine_eq_self_iff (singleLine text)).mpr hspaced

example : singleLine "\t two\u00a0\u2003words\r\n" = "two words" := by decide

end SuiteScribe.Script
