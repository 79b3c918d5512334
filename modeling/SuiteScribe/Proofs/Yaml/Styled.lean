import Mathlib.Data.Option.NAry
import SuiteScribe.Proofs.Text
import SuiteScribe.Proofs.Yaml.Shown

namespace SuiteScribe.Text

/-! Digits of base ten, taken one by one. -/

theorem digitIn?_ten {c : Char} (h : c.isDigit = true) :
    digitIn? 10 c = some (c.toNat - '0'.toNat) := by
  obtain ⟨hlow, hhigh⟩ := (isDigit_iff c).mp h
  have hdigit : '0' ≤ c ∧ c ≤ '9' := by
    simpa [Char.le_def, UInt32.le_iff_toNat_le] using And.intro hlow hhigh
  have hsmall : c.toNat - '0'.toNat < 10 := by
    change c.toNat - 48 < 10
    omega
  rw [digitIn?, if_pos hdigit, Option.bind_some, if_pos hsmall]

theorem foldlM_digitIn?_ten {digits : List Char} (h : digits.all Char.isDigit = true)
    (start : Nat) :
    digits.foldlM (fun value c => (digitIn? 10 c).map (value * 10 + ·)) start =
      some (digits.foldl (fun value c => value * 10 + (c.toNat - '0'.toNat)) start) := by
  induction digits generalizing start with
  | nil => rfl
  | cons c rest ih =>
      rw [List.all_cons, Bool.and_eq_true] at h
      rw [List.foldlM_cons, List.foldl_cons, digitIn?_ten h.1]
      exact ih h.2 _

theorem numberIn?_decimal (n : Nat) : numberIn? 10 (decimal n) = some n := by
  have hvalue := foldlM_digitIn?_ten (all_isDigit_decimal n) 0
  rw [numberIn?, if_neg (by simpa using decimal_ne_nil n), hvalue]
  exact congrArg some (decimalValue_decimal n)

end SuiteScribe.Text

namespace SuiteScribe.Yaml.Scalar

open Text

/-! Plain numerals. What a writer of integers writes is read as that integer. -/

/-- A numeral starts like a number, and so it is none of the words with a meaning. -/
def opensNumber : List Char → Bool
  | [] => false
  | c :: _ => c.isDigit || c == '-'

theorem not_mem_of_opensNumber {text : List Char} {words : List String}
    (h : opensNumber text = true) (hwords : ∀ word ∈ words, opensNumber word.toList = false) :
    words.contains (String.ofList text) = false := by
  rw [Bool.eq_false_iff]
  intro hmem
  have hword := hwords _ (List.contains_iff_mem.mp hmem)
  rw [String.toList_ofList, h] at hword
  cases hword

theorem isNull_of_opensNumber {text : List Char} (h : opensNumber text = true) :
    isNull text = false :=
  not_mem_of_opensNumber h (by decide)

theorem bool?_of_opensNumber {text : List Char} (h : opensNumber text = true) :
    bool? text = none := by
  have htrue : ["true", "True", "TRUE"].contains (String.ofList text) = false :=
    not_mem_of_opensNumber h (by decide)
  have hfalse : ["false", "False", "FALSE"].contains (String.ofList text) = false :=
    not_mem_of_opensNumber h (by decide)
  rw [bool?, htrue, hfalse]
  rfl

theorem opensNumber_decimal (n : Nat) : opensNumber (decimal n) = true := by
  cases hdigits : decimal n with
  | nil => exact absurd hdigits (decimal_ne_nil n)
  | cons c rest =>
      have hdigit : c.isDigit = true := isDigit_of_mem_decimal (by rw [hdigits]; simp)
      simp [opensNumber, hdigit]

theorem decimal_ne_cons {c : Char} (h : c.isDigit = false) (n : Nat) (rest : List Char) :
    decimal n ≠ c :: rest := by
  intro hdigits
  have hdigit : c.isDigit = true := isDigit_of_mem_decimal (by rw [hdigits]; exact .head rest)
  rw [h] at hdigit
  cases hdigit

theorem unsigned_decimal (n : Nat) : unsigned (decimal n) = decimal n := by
  unfold unsigned
  split
  · next rest hdigits => exact absurd hdigits (decimal_ne_cons rfl n rest)
  · next rest hdigits => exact absurd hdigits (decimal_ne_cons rfl n rest)
  · rfl

theorem isZeroFilled_decimal (n : Nat) : isZeroFilled (decimal n) = false := by
  cases n with
  | zero => rfl
  | succ n =>
      have hfirst : (decimal (n + 1)).head? ≠ some '0' := head?_decimal_ne_zero (by omega)
      simp [isZeroFilled, unsigned_decimal, hfirst]

/-- Decimal digits are not taken for the prefix of another base. -/
theorem magnitude?_decimal (n : Nat) : magnitude? (decimal n) = some n := by
  have hprefix : ∀ c rest, decimal n ≠ '0' :: c :: rest := by
    intro c rest hdigits
    have hfilled : isZeroFilled ('0' :: c :: rest) = true := by
      have hall := all_isDigit_decimal n
      rw [hdigits] at hall
      simp [isZeroFilled, unsigned, hall]
    rw [← hdigits, isZeroFilled_decimal] at hfilled
    cases hfilled
  rw [magnitude?]
  · rw [if_neg (by simp [isZeroFilled_decimal]), numberIn?_decimal]
  all_goals
    intro rest hdigits
    exact hprefix _ _ hdigits

theorem within_eq_some {low high value : Int} (hlow : low ≤ value) (hhigh : value < high) :
    within low high value = some value :=
  if_pos ⟨hlow, hhigh⟩

theorem isWide_eq_false_iff {value : Int} :
    isWide value = false ↔ -beyondBits 63 ≤ value ∧ value < beyondBits 64 := by
  unfold isWide within
  split <;> simp_all

/-- The numeral of an integer. -/
def numeral : Int → List Char
  | .ofNat n => decimal n
  | .negSucc n => '-' :: decimal (n + 1)

theorem toList_toString (n : Int) : (toString n).toList = numeral n := by
  cases n with
  | ofNat n => exact Text.toList_toString n
  | negSucc n =>
      change ("-" ++ toString (n + 1)).toList = _
      rw [String.toList_append, Text.toList_toString]
      rfl

theorem opensNumber_numeral (n : Int) : opensNumber (numeral n) = true := by
  cases n with
  | ofNat n => exact opensNumber_decimal n
  | negSucc n => rfl

theorem integer?_numeral {n : Int} (h : isWide n = false) : integer? (numeral n) = some n := by
  obtain ⟨hlow, hhigh⟩ := isWide_eq_false_iff.mp h
  have hbits : -beyondBits 127 ≤ -beyondBits 63 ∧ beyondBits 64 ≤ beyondBits 128 := by decide
  cases n with
  | ofNat n =>
      have hwithin : within 0 (beyondBits 128) (Int.ofNat n) = some (Int.ofNat n) :=
        within_eq_some (Int.natCast_nonneg n) (by omega)
      unfold integer?
      split
      · next rest hdigits => exact absurd hdigits (decimal_ne_cons rfl n rest)
      · next rest hdigits => exact absurd hdigits (decimal_ne_cons rfl n rest)
      · rw [numeral, magnitude?_decimal, Option.bind_some, hwithin]
  | negSucc n =>
      have hnegative : Int.negSucc n < 0 := Int.negSucc_lt_zero n
      have hpositive : 0 < beyondBits 127 := by decide
      rw [numeral, integer?, magnitude?_decimal, Option.bind_some]
      exact within_eq_some (Int.le_trans hbits.1 hlow) (Int.lt_trans hnegative hpositive)

theorem ofPlain_numeral {n : Int} (h : isWide n = false) : ofPlain (numeral n) = .integer n := by
  have hopens := opensNumber_numeral n
  have hnonempty : (numeral n).isEmpty = false := by
    cases hdigits : numeral n with
    | nil => rw [hdigits] at hopens; cases hopens
    | cons c rest => rfl
  rw [ofPlain, hnonempty, isNull_of_opensNumber hopens, bool?_of_opensNumber hopens,
    integer?_numeral h]
  rfl

/-- A plain scalar that means text means its own. -/
theorem ofPlain_eq_text {text other : List Char} (h : ofPlain text = .text other) :
    other = text := by
  unfold ofPlain at h
  split at h
  · cases h
  · split at h
    · cases h
    · cases h
    · split at h
      · cases h
        rfl
      · split at h
        · cases h
        · cases h
          rfl

/-- Words that mean themselves, plain or quoted, as the keys of a record do. -/
def IsWord (word : String) : Prop :=
  ofPlain word.toList = .text word.toList

instance (word : String) : Decidable (IsWord word) :=
  inferInstanceAs (Decidable (_ = _))

theorem untagged_word {word : String} (h : IsWord word) (plain : Bool) :
    untagged word.toList plain = .text word.toList := by
  cases plain with
  | false => rfl
  | true => exact h

end SuiteScribe.Yaml.Scalar

namespace SuiteScribe.Yaml

/-! Walks that have the same outcome whatever the document is: a value, or none where they
refuse. -/

def Yields (walk : Walk ε α) (value? : Option α) : Prop :=
  ∀ document count, (walk document count).toOption = value?.map (·, count)

namespace Yields

theorem pure (value : α) : Yields (Pure.pure value : Walk ε α) (some value) :=
  fun _ _ => rfl

theorem refused (refusal : ε) : Yields (throw refusal : Walk ε α) none :=
  fun _ _ => rfl

theorem bind {walk : Walk ε α} {next : α → Walk ε β} {value? : Option α} {result? : α → Option β}
    (h : Yields walk value?) (hnext : ∀ value, Yields (next value) (result? value)) :
    Yields (walk >>= next) (value?.bind result?) := by
  intro document count
  have hrun := h document count
  change ((walk document count).bind fun read => next read.1 document read.2).toOption = _
  cases hwalk : walk document count with
  | error refusal =>
      rw [hwalk] at hrun
      cases value? with
      | none => rfl
      | some value => cases hrun
  | ok result =>
      rw [hwalk] at hrun
      cases value? with
      | none => cases hrun
      | some value =>
          cases hrun
          exact hnext value document count

theorem after {walk : Walk ε α} {next : α → Walk ε β} {value : α} {result? : Option β}
    (h : Gives walk value) (hnext : Yields (next value) result?) :
    Yields (walk >>= next) result? := by
  intro document count
  change ((walk document count).bind fun read => next read.1 document read.2).toOption = _
  rw [h]
  exact hnext document count

theorem map {walk : Walk ε α} {value? : Option α} (h : Yields walk value?) (f : α → β) :
    Yields (walk >>= fun value => Pure.pure (f value)) (value?.map f) := by
  rw [Option.map_eq_bind]
  exact h.bind fun value => .pure (f value)

theorem mapM_cons {read : α → Walk ε β} {first : α} {rest : List α} {value? : Option β}
    {values? : Option (List β)} (hfirst : Yields (read first) value?)
    (hrest : Yields (rest.mapM read) values?) :
    Yields ((first :: rest).mapM read)
      (value?.bind fun value => values?.map fun values => value :: values) := by
  rw [List.mapM_cons]
  exact hfirst.bind fun value => hrest.map _

end Yields

/-! Trees as they may be entered by hand: each key and each text plain or quoted. What a plain text
means is up to its scalar, and so the value that is read need not be that of the tree. -/

/-- Which keys are plain, and under which keys the text is. -/
structure Style where
  key : String → Bool
  text : String → Bool

/-- What a text is read as, unless it stands for a number that is too wide. -/
def Scalar.entered? (text : String) (plain : Bool) : Option Value :=
  (Value.ofScalar () (untagged text.toList plain)).toOption

namespace Tree

mutual

def styled (style : Style) (name : String) : Tree → Node
  | .text content => .scalar none content (style.text name)
  | .sequence items => .sequence none (itemsStyled style name items)
  | .mapping entries => .mapping none (entriesStyled style entries)

def itemsStyled (style : Style) (name : String) : List Tree → List Node
  | [] => []
  | item :: items => item.styled style name :: itemsStyled style name items

def entriesStyled (style : Style) : List (String × Tree) → List (Node × Node)
  | [] => []
  | (name, item) :: entries =>
      (.scalar none name (style.key name), item.styled style name) :: entriesStyled style entries

end

mutual

def entered? (style : Style) (name : String) : Tree → Option Value
  | .text content => Scalar.entered? content (style.text name)
  | .sequence items => (itemsEntered? style name items).map .sequence
  | .mapping entries => (entriesEntered? style entries).map .mapping

def itemsEntered? (style : Style) (name : String) : List Tree → Option (List Value)
  | [] => some []
  | item :: items =>
      (item.entered? style name).bind fun value =>
        (itemsEntered? style name items).map fun values => value :: values

def entriesEntered? (style : Style) : List (String × Tree) → Option (List (Value × Value))
  | [] => some []
  | (name, item) :: entries =>
      ((Scalar.entered? name (style.key name)).bind fun key =>
        (item.entered? style name).map fun value => (key, value)).bind fun entry =>
          (entriesEntered? style entries).map fun rest => entry :: rest

end

end Tree

theorem Scalar.entered?_quoted (text : String) : entered? text false = some (.text text) := by
  change some (Value.text (String.ofList text.toList)) = _
  rw [String.ofList_toList]

/-! Short mappings under keys that are read as themselves. -/

theorem Scalar.entered?_word {word : String} (h : IsWord word) (plain : Bool) :
    entered? word plain = some (.text word) := by
  rw [entered?, untagged_word h]
  exact entered?_quoted word

namespace Tree

variable {style : Style} {name other : String}

theorem entriesEntered?_cons (hname : Scalar.IsWord name) (item : Tree)
    (rest : List (String × Tree)) :
    entriesEntered? style ((name, item) :: rest) =
      (item.entered? style name).bind fun value =>
        (entriesEntered? style rest).map fun values => (.text name, value) :: values := by
  rw [entriesEntered?, Scalar.entered?_word hname, Option.bind_some]
  exact Option.bind_map

theorem entriesEntered?_word {word : String} (hname : Scalar.IsWord name)
    (hword : Scalar.IsWord word) (rest : List (String × Tree)) :
    entriesEntered? style ((name, .text word) :: rest) =
      (entriesEntered? style rest).map fun values => (.text name, .text word) :: values := by
  rw [entriesEntered?_cons hname, entered?, Scalar.entered?_word hword, Option.bind_some]

theorem entriesEntered?_single (hname : Scalar.IsWord name) (item : Tree) :
    entriesEntered? style [(name, item)] =
      (item.entered? style name).map fun value => [(.text name, value)] := by
  rw [entriesEntered?_cons hname, Option.map_eq_bind]
  rfl

theorem entriesEntered?_pair (hname : Scalar.IsWord name) (hother : Scalar.IsWord other)
    (item second : Tree) :
    entriesEntered? style [(name, item), (other, second)] =
      Option.map₂ (fun value third => [(.text name, value), (.text other, third)])
        (item.entered? style name) (second.entered? style other) := by
  rw [entriesEntered?_cons hname, entriesEntered?_single hother, Option.map₂]
  simp only [Option.map_map]
  rfl

end Tree

theorem yields_scalar (refusal : ε) (depth : Nat) (text : String) (plain : Bool) :
    Yields (Value.untagged refusal depth (.scalar none text plain))
      (Scalar.entered? text plain) := by
  have hscalar : ∀ scalar : Scalar,
      (Value.ofScalar refusal scalar).toOption = (Value.ofScalar () scalar).toOption := by
    intro scalar
    cases scalar with
    | integer value =>
        simp only [Value.ofScalar]
        split <;> rfl
    | _ => rfl
  have hcontent : Yields (Value.ofContent.liftExcept
      (Value.ofScalar refusal (Scalar.untagged text.toList plain)))
      (Scalar.entered? text plain) := by
    intro document count
    rw [Scalar.entered?, ← hscalar]
    cases Value.ofScalar refusal (Scalar.untagged text.toList plain) <;> rfl
  cases depth with
  | zero => exact hcontent
  | succ depth => exact hcontent

/-! By induction on the tree, with as much depth left as it needs. -/

mutual

theorem yields_untagged {refusal : ε} {style : Style} :
    ∀ (tree : Tree) (name : String) {depth : Nat}, tree.height ≤ depth →
      Yields (Value.untagged refusal depth (tree.styled style name)) (tree.entered? style name)
  | .text content, name, depth, _ => by
      rw [Tree.styled, Tree.entered?]
      exact yields_scalar refusal depth content (style.text name)
  | .sequence items, name, depth + 1, hdepth => by
      rw [Tree.height, Nat.add_le_add_iff_right] at hdepth
      rw [Tree.styled, Tree.entered?]
      exact (yields_items items name hdepth).map Value.sequence
  | .mapping entries, name, depth + 1, hdepth => by
      rw [Tree.height, Nat.add_le_add_iff_right] at hdepth
      rw [Tree.styled, Tree.entered?]
      exact (yields_entries entries hdepth).map Value.mapping

theorem yields_items {refusal : ε} {style : Style} :
    ∀ (items : List Tree) (name : String) {depth : Nat}, Tree.itemsHeight items ≤ depth →
      Yields ((Tree.itemsStyled style name items).mapM (Value.untagged refusal depth))
        (Tree.itemsEntered? style name items)
  | [], name, depth, _ => by
      rw [Tree.itemsStyled, Tree.itemsEntered?]
      exact .pure _
  | item :: items, name, depth, hdepth => by
      rw [Tree.itemsHeight, Nat.max_le] at hdepth
      rw [Tree.itemsStyled, Tree.itemsEntered?]
      exact .mapM_cons (yields_untagged item name hdepth.1) (yields_items items name hdepth.2)

theorem yields_entries {refusal : ε} {style : Style} :
    ∀ (entries : List (String × Tree)) {depth : Nat}, Tree.entriesHeight entries ≤ depth →
      Yields ((Tree.entriesStyled style entries).mapM
        (Value.readEntry (Value.untagged refusal depth))) (Tree.entriesEntered? style entries)
  | [], depth, _ => by
      rw [Tree.entriesStyled, Tree.entriesEntered?]
      exact .pure _
  | (name, item) :: entries, depth, hdepth => by
      rw [Tree.entriesHeight, Nat.max_le] at hdepth
      rw [Tree.entriesStyled, Tree.entriesEntered?]
      refine .mapM_cons ?_ (yields_entries entries hdepth.2)
      exact (yields_scalar refusal depth name (style.key name)).bind fun key =>
        (yields_untagged item name hdepth.1).map _

end

end SuiteScribe.Yaml
