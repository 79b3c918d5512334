import Mathlib.Data.List.Nodup
import SuiteScribe.Proofs.Text
import SuiteScribe.Suite.Menu

namespace SuiteScribe.Menu

open Text

variable {α : Type} [DecidableEq α]

/-- The number under which a menu lists an option. -/
def numeral (menu : Menu α) (option : α) : String :=
  toString (menu.options.idxOf option + 1)

theorem numeralDigits_of_isDigit {digits : List Char} (h : ∀ c ∈ digits, c.isDigit = true) :
    numeralDigits digits = digits := by
  cases digits with
  | nil => rfl
  | cons c rest =>
      have hplus : c ≠ '+' := by
        rintro rfl
        exact absurd (h '+' List.mem_cons_self) (by decide)
      simp [numeralDigits, hplus]

theorem numeralDigits_decimal (n : Nat) : numeralDigits (decimal n) = decimal n :=
  numeralDigits_of_isDigit fun _ => isDigit_of_mem_decimal

theorem number?_decimal {n : Nat} (h : n < numeralLimit) : number? (decimal n) = some n := by
  simp [number?, numeralDigits_decimal, decimal_ne_nil, all_isDigit_decimal,
    decimalValue_decimal, h]

/-- The number of an option selects it. -/
theorem parse_numeral {menu : Menu α} {option : α} (h : option ∈ menu.options)
    (hsize : menu.options.length < numeralLimit) :
    menu.parse (menu.numeral option) = .selected option := by
  have hindex : menu.options.idxOf option < menu.options.length := List.idxOf_lt_length_iff.mpr h
  have hfound : menu.options[menu.options.idxOf option]? = some option := by
    rw [List.getElem?_eq_getElem hindex, List.getElem_idxOf hindex]
  have hnumber : menu.find? (decimal (menu.options.idxOf option + 1)) = some option := by
    rw [find?, number?_decimal (by omega)]
    simpa [byNumber] using hfound
  simp only [parse, numeral, toList_toString, trim_decimal, hnumber]
  simp [decimal_ne_nil]

theorem trimmed_numeral (menu : Menu α) (option : α) :
    trimmed (menu.numeral option) = menu.numeral option := by
  rw [trimmed, numeral, toList_toString, trim_decimal, ← toList_toString, String.ofList_toList]

/-! What a menu makes of an answer does not depend on the white space around it. -/

section

omit [DecidableEq α]

variable (menu : Menu α)

theorem parse_trimmed (text : String) : menu.parse (trimmed text) = menu.parse text := by
  simp [parse, trimmed, trim_trim]

theorem parse_of_blank {text : String} (h : blank text = true) : menu.parse text = .empty := by
  rw [← parse_trimmed, (trimmed_eq_empty_iff text).mpr h]
  rfl

theorem parse_empty {text : String} (h : menu.parse text = .empty) : blank text = true := by
  rw [← trimmed_eq_empty_iff, trimmed]
  by_cases htrim : trim text.toList = []
  · rw [htrim]
  · simp only [parse, List.isEmpty_iff, htrim, if_false] at h
    split at h <;> cases h

theorem parse_unrecognized {text other : String} (h : menu.parse text = .unrecognized other) :
    other = trimmed text ∧ blank text = false := by
  by_cases hblank : blank text = true
  · rw [menu.parse_of_blank hblank] at h
    cases h
  · refine ⟨?_, by simpa using hblank⟩
    simp only [parse] at h
    split at h
    · cases h
    · split at h
      · cases h
      · cases h
        rfl

/-- An answer misses a menu if it holds something, but nothing that the menu knows. -/
def misses (text : String) : Bool :=
  match menu.parse text with
  | .unrecognized _ => true
  | _ => false

theorem misses_iff {text : String} :
    menu.misses text = true ↔ menu.parse text = .unrecognized (trimmed text) := by
  cases hparse : menu.parse text with
  | unrecognized other => simp [misses, hparse, (menu.parse_unrecognized hparse).1]
  | _ => simp [misses, hparse]

theorem parse_of_known {text : String} (h : menu.misses text = false) :
    (∃ option, menu.parse text = .selected option) ∨ menu.parse text = .empty := by
  cases hparse : menu.parse text with
  | selected option => exact .inl ⟨option, rfl⟩
  | empty => exact .inr rfl
  | unrecognized other => simp [misses, hparse] at h

theorem not_blank_of_misses {text : String} (h : menu.misses text = true) : blank text = false :=
  (menu.parse_unrecognized (menu.misses_iff.mp h)).2

theorem misses_of_blank {text : String} (h : blank text = true) : menu.misses text = false := by
  rw [misses, menu.parse_of_blank h]

end

end SuiteScribe.Menu

namespace SuiteScribe

open Text

namespace Menu

variable {α : Type} {menu : Menu α} {option : α} {text : List Char} {number : Nat}

/-! An answer is a numeral or a name. Numerals are read by their value, whatever their length. -/

/-- A numeral: one decimal digit or more, behind a plus sign or not. -/
inductive Numeral : List Char → Nat → Prop
  | plain {digits : List Char} (hne : digits ≠ []) (hdigits : ∀ c ∈ digits, c.isDigit = true) :
      Numeral digits (Nat.ofDigitChars 10 digits 0)
  | signed {digits : List Char} (hne : digits ≠ []) (hdigits : ∀ c ∈ digits, c.isDigit = true) :
      Numeral ('+' :: digits) (Nat.ofDigitChars 10 digits 0)

theorem numeralDigits_cases (text : List Char) :
    numeralDigits text = text ∨ text = '+' :: numeralDigits text := by
  unfold numeralDigits
  split
  · exact .inr rfl
  · exact .inl rfl

theorem numeral_iff :
    Numeral text number ↔
      numeralDigits text ≠ [] ∧ (∀ c ∈ numeralDigits text, c.isDigit = true) ∧
        decimalValue (numeralDigits text) = number := by
  constructor
  · intro h
    cases h with
    | plain hne hdigits =>
        rw [numeralDigits_of_isDigit hdigits]
        exact ⟨hne, hdigits, decimalValue_eq text⟩
    | signed hne hdigits => exact ⟨hne, hdigits, decimalValue_eq _⟩
  · rintro ⟨hne, hdigits, rfl⟩
    rw [decimalValue_eq]
    obtain hsame | hsign := numeralDigits_cases text
    · rw [hsame] at hne hdigits ⊢
      exact .plain hne hdigits
    · have hsigned := Numeral.signed hne hdigits
      rwa [← hsign] at hsigned

theorem Numeral.unique {other : Nat} (h : Numeral text number) (hother : Numeral text other) :
    number = other :=
  (numeral_iff.mp h).2.2.symm.trans (numeral_iff.mp hother).2.2

theorem Numeral.ne_nil (h : Numeral text number) : text ≠ [] := by
  rintro rfl
  exact (numeral_iff.mp h).1 rfl

theorem number?_eq_some_iff :
    number? text = some number ↔ Numeral text number ∧ number < numeralLimit := by
  have hdigits : ((numeralDigits text).isEmpty || !(numeralDigits text).all Char.isDigit) = false ↔
      numeralDigits text ≠ [] ∧ ∀ c ∈ numeralDigits text, c.isDigit = true := by
    simp
  rw [numeral_iff, ← and_assoc, ← hdigits, number?]
  cases (numeralDigits text).isEmpty || !(numeralDigits text).all Char.isDigit with
  | true => simp
  | false =>
      simp only [Bool.false_eq_true, if_false, Option.ite_none_right_eq_some, Option.some.injEq,
        true_and]
      constructor
      · rintro ⟨hlimit, rfl⟩
        exact ⟨rfl, hlimit⟩
      · rintro ⟨rfl, hlimit⟩
        exact ⟨hlimit, rfl⟩

/-! What is left of a text when its names are compared: white space around it is not, and the digits
of a numeral are. -/

theorem normalize_append (front back : List Char) :
    normalize (front ++ back) = normalize front ++ normalize back := by
  simp [normalize, lowercaseAll]

theorem normalize_of_blank {gap : List Char} (h : ∀ c ∈ gap, isBlank c = true) :
    normalize gap = [] := by
  have hnone : gap.filter isAlphanumeric = [] :=
    List.filter_eq_nil_iff.mpr fun c hc => by simp [isAlphanumeric_of_isBlank (h c hc)]
  rw [normalize, hnone]
  rfl

theorem normalize_trim (text : List Char) : normalize (trim text) = normalize text := by
  obtain ⟨gap, hparts, hgap⟩ := exists_trimEnd_append (trimStart text)
  have hlead : ∀ c ∈ text.takeWhile isBlank, isBlank c = true := fun _ => List.mem_takeWhile_imp
  calc
    normalize (trim text) = normalize (trim text ++ gap) := by
      rw [normalize_append, normalize_of_blank hgap, List.append_nil]
    _ = normalize (trimStart text) := by rw [trim, hparts]
    _ = normalize (text.takeWhile isBlank ++ trimStart text) := by
      rw [normalize_append, normalize_of_blank hlead, List.nil_append]
    _ = normalize text := by rw [trimStart, List.takeWhile_append_dropWhile]

theorem normalize_isDigit {c : Char} (h : c.isDigit = true) : normalize [c] = [c] := by
  -- There are ten digits, so that each one can be looked up.
  have hten : ∀ code ∈ List.range' 48 10,
      normalize [Char.ofNat code] = [Char.ofNat code] := by decide +kernel
  obtain ⟨hlow, hhigh⟩ := (isDigit_iff c).mp h
  have hcode := hten c.toNat (List.mem_range'_1.mpr ⟨hlow, by omega⟩)
  rwa [Char.ofNat_toNat] at hcode

theorem normalize_digits {digits : List Char} (h : ∀ c ∈ digits, c.isDigit = true) :
    normalize digits = digits := by
  induction digits with
  | nil => rfl
  | cons c rest ih =>
      obtain ⟨hc, hrest⟩ := List.forall_mem_cons.mp h
      rw [← List.singleton_append, normalize_append, normalize_isDigit hc, ih hrest]

theorem Numeral.normalize_isDigit (h : Numeral text number) :
    ∀ c ∈ normalize text, c.isDigit = true := by
  cases h with
  | plain _ hdigits => rwa [normalize_digits hdigits]
  | @signed digits _ hdigits =>
      have hsign : normalize ['+'] = [] := by decide
      rwa [← List.singleton_append, normalize_append, hsign, List.nil_append,
        normalize_digits hdigits]

/-! Menus whose names can be told apart. -/

/-- The letters and digits of an option's name. -/
def spelling (menu : Menu α) (option : α) : List Char :=
  normalize (menu.label option).toList

/-- What a menu needs for its answers to be clear. -/
structure Legible (menu : Menu α) : Prop where
  nodup : (menu.options.map menu.spelling).Nodup
  /-- No name can be taken for a numeral. -/
  lettered : ∀ option ∈ menu.options, (menu.spelling option).all Char.isDigit = false
  short : menu.options.length < numeralLimit

/-- The text has the letters and digits of the option's name. -/
def Names (menu : Menu α) (text : List Char) (option : α) : Prop :=
  option ∈ menu.options ∧ menu.spelling option = normalize text

theorem Legible.unique (h : menu.Legible) {other : α} (hoption : menu.Names text option)
    (hother : menu.Names text other) : option = other :=
  List.inj_on_of_nodup_map h.nodup hoption.1 hother.1 (hoption.2.trans hother.2.symm)

theorem Legible.not_numeral (h : menu.Legible) (hnames : menu.Names text option) (number : Nat) :
    ¬Numeral text number := by
  intro hnumeral
  have hletter : (normalize text).all Char.isDigit = false := hnames.2 ▸ h.lettered option hnames.1
  have hdigits : (normalize text).all Char.isDigit = true :=
    List.all_eq_true.mpr hnumeral.normalize_isDigit
  exact Bool.false_ne_true (hletter.symm.trans hdigits)

theorem Legible.ne_nil (h : menu.Legible) (hnames : menu.Names text option) : text ≠ [] := by
  rintro rfl
  have hletter := h.lettered option hnames.1
  rw [hnames.2] at hletter
  cases hletter

theorem names_of_byName (h : menu.byName text = some option) : menu.Names text option :=
  ⟨List.mem_of_find?_eq_some h, by simpa [spelling] using List.find?_some h⟩

theorem byName_eq_none_iff : menu.byName text = none ↔ ∀ option, ¬menu.Names text option := by
  simp [byName, Names, spelling]

theorem Legible.byName_eq_some_iff (h : menu.Legible) :
    menu.byName text = some option ↔ menu.Names text option := by
  constructor
  · exact names_of_byName
  · intro hnames
    cases hfound : menu.byName text with
    | none => exact absurd hnames (byName_eq_none_iff.mp hfound option)
    | some other =>
        rw [h.unique hnames (names_of_byName hfound)]

theorem byNumber_eq_some_iff :
    menu.byNumber number = some option ↔ 1 ≤ number ∧ menu.options[number - 1]? = some option := by
  rw [byNumber]
  split <;> grind

theorem byNumber_eq_none_iff :
    menu.byNumber number = none ↔ number = 0 ∨ menu.options.length < number := by
  rw [byNumber]
  split <;> grind

/-- A numeral counts the options, also when it is too long to be read as a number: no name is all
digits. -/
theorem Legible.find?_numeral (h : menu.Legible) (hnumeral : Numeral text number) :
    menu.find? text = menu.byNumber number := by
  by_cases hlimit : number < numeralLimit
  · rw [find?, number?_eq_some_iff.mpr ⟨hnumeral, hlimit⟩]
  · have hvast : number? text = none := by
      rw [Option.eq_none_iff_forall_not_mem]
      intro other hother
      obtain ⟨hread, hsmall⟩ := number?_eq_some_iff.mp hother
      obtain rfl : other = number := hread.unique hnumeral
      exact hlimit hsmall
    have hname : menu.byName text = none :=
      byName_eq_none_iff.mpr fun option hnames => h.not_numeral hnames number hnumeral
    have hbeyond : menu.options.length < number :=
      Nat.lt_of_lt_of_le h.short (Nat.le_of_not_lt hlimit)
    have houtside : menu.byNumber number = none := byNumber_eq_none_iff.mpr (.inr hbeyond)
    rw [find?, hvast, hname, houtside]

theorem find?_name (h : ∀ number, ¬Numeral text number) : menu.find? text = menu.byName text := by
  have hnone : number? text = none := by
    rw [Option.eq_none_iff_forall_not_mem]
    exact fun number hnumber => h number (number?_eq_some_iff.mp hnumber).1
  rw [find?, hnone]

/-! What a menu makes of an answer. -/

/-- The outcome of an answer without white space around it. -/
inductive Reads (menu : Menu α) : String → Choice α → Prop
  | empty : Reads menu "" .empty
  | counted {answer : String} {number : Nat} {option : α} (hnumeral : Numeral answer.toList number)
      (hfirst : 1 ≤ number) (hoption : menu.options[number - 1]? = some option) :
      Reads menu answer (.selected option)
  | outside {answer : String} {number : Nat} (hnumeral : Numeral answer.toList number)
      (hnone : number = 0 ∨ menu.options.length < number) :
      Reads menu answer (.unrecognized answer)
  | named {answer : String} {option : α} (hne : answer ≠ "")
      (hname : ∀ number, ¬Numeral answer.toList number)
      (hoption : menu.Names answer.toList option) :
      Reads menu answer (.selected option)
  | unknown {answer : String} (hne : answer ≠ "")
      (hname : ∀ number, ¬Numeral answer.toList number)
      (hnone : ∀ option, ¬menu.Names answer.toList option) :
      Reads menu answer (.unrecognized answer)

theorem parse_filled {raw answer : String} (hanswer : trimmed raw = answer)
    (hne : answer.toList ≠ []) :
    menu.parse raw = (menu.find? answer.toList).elim (.unrecognized answer) .selected := by
  subst hanswer
  have hfilled : (trim raw.toList).isEmpty = false := by simpa [trimmed] using hne
  simp only [parse, trimmed, String.toList_ofList, hfilled, Bool.false_eq_true, if_false]
  cases menu.find? (trim raw.toList) <;> rfl

theorem Legible.parse_of_reads (h : menu.Legible) {raw answer : String} {choice : Choice α}
    (hanswer : trimmed raw = answer) (hreads : menu.Reads answer choice) :
    menu.parse raw = choice := by
  cases hreads with
  | empty => exact menu.parse_of_blank ((trimmed_eq_empty_iff raw).mp hanswer)
  | counted hnumeral hfirst hoption =>
      rw [parse_filled hanswer hnumeral.ne_nil, h.find?_numeral hnumeral,
        byNumber_eq_some_iff.mpr ⟨hfirst, hoption⟩, Option.elim_some]
  | outside hnumeral hnone =>
      rw [parse_filled hanswer hnumeral.ne_nil, h.find?_numeral hnumeral,
        byNumber_eq_none_iff.mpr hnone, Option.elim_none]
  | named hne hname hoption =>
      rw [parse_filled hanswer (mt String.toList_eq_nil_iff.mp hne), find?_name hname,
        h.byName_eq_some_iff.mpr hoption, Option.elim_some]
  | unknown hne hname hnone =>
      rw [parse_filled hanswer (mt String.toList_eq_nil_iff.mp hne), find?_name hname,
        byName_eq_none_iff.mpr hnone, Option.elim_none]

theorem exists_reads (menu : Menu α) (answer : String) : ∃ choice, menu.Reads answer choice := by
  by_cases hempty : answer = ""
  · subst hempty
    exact ⟨_, .empty⟩
  by_cases hnumeral : ∃ number, Numeral answer.toList number
  · obtain ⟨number, hnumeral⟩ := hnumeral
    cases hfound : menu.byNumber number with
    | some option =>
        obtain ⟨hfirst, hoption⟩ := byNumber_eq_some_iff.mp hfound
        exact ⟨_, .counted hnumeral hfirst hoption⟩
    | none => exact ⟨_, .outside hnumeral (byNumber_eq_none_iff.mp hfound)⟩
  have hname : ∀ number, ¬Numeral answer.toList number := not_exists.mp hnumeral
  by_cases hnames : ∃ option, menu.Names answer.toList option
  · obtain ⟨option, hoption⟩ := hnames
    exact ⟨_, .named hempty hname hoption⟩
  · exact ⟨_, .unknown hempty hname (not_exists.mp hnames)⟩

theorem Legible.parse_eq_iff (h : menu.Legible) (raw : String) (choice : Choice α) :
    menu.parse raw = choice ↔ menu.Reads (trimmed raw) choice := by
  constructor
  · rintro rfl
    obtain ⟨choice, hreads⟩ := menu.exists_reads (trimmed raw)
    rwa [h.parse_of_reads rfl hreads]
  · exact h.parse_of_reads rfl

/-- A name in other letter case, with other spaces and punctuation. -/
inductive Respelled : List Char → List Char → Prop
  | nil : Respelled [] []
  | letter {c d : Char} {name text : List Char} (hc : isAlphanumeric c = true)
      (hd : isAlphanumeric d = true) (hcase : lowercase c = lowercase d)
      (hrest : Respelled name text) : Respelled (c :: name) (d :: text)
  | inserted {d : Char} {name text : List Char} (hd : isAlphanumeric d = false)
      (hrest : Respelled name text) : Respelled name (d :: text)
  | removed {c : Char} {name text : List Char} (hc : isAlphanumeric c = false)
      (hrest : Respelled name text) : Respelled (c :: name) text

theorem Respelled.normalize_eq {name text : List Char} (h : Respelled name text) :
    normalize name = normalize text := by
  induction h with
  | nil => rfl
  | letter hc hd hcase _ ih =>
      simp only [normalize, lowercaseAll] at ih
      simp only [normalize, lowercaseAll, List.filter_cons_of_pos hc, List.filter_cons_of_pos hd,
        List.flatMap_cons, hcase, ih]
  | inserted hd _ ih => rw [ih, normalize, normalize, List.filter_cons_of_neg (by simp [hd])]
  | removed hc _ ih => rw [← ih, normalize, normalize, List.filter_cons_of_neg (by simp [hc])]

theorem Legible.parse_respelled (h : menu.Legible) (hoption : option ∈ menu.options) {raw : String}
    (hspelled : Respelled (menu.label option).toList raw.toList) :
    menu.parse raw = .selected option := by
  have hnames : menu.Names (trimmed raw).toList option := by
    refine ⟨hoption, ?_⟩
    rw [spelling, trimmed, String.toList_ofList, normalize_trim, hspelled.normalize_eq]
  have hne : trimmed raw ≠ "" := mt String.toList_eq_nil_iff.mpr (h.ne_nil hnames)
  exact h.parse_of_reads rfl (.named hne (h.not_numeral hnames) hnames)

/-- The menus that questions are asked with. -/
inductive Offered : {α : Type} → Menu α → Prop
  | action : Offered actionMenu
  | assertion : Offered assertionMenu
  | category : Offered categoryMenu

theorem Offered.legible (h : menu.Offered) : menu.Legible := by
  cases h with
  | action => exact ⟨by decide +kernel, by decide +kernel, by decide⟩
  | assertion => exact ⟨by decide +kernel, by decide +kernel, by decide⟩
  | category => exact ⟨by decide +kernel, by decide +kernel, by decide⟩

/-- An answer is read by its value if it is a numeral and by its letters and digits if it is not.
No two options of a menu go by the same name, and however the name of an option is spelled, it
selects that option. -/
theorem parse_by_value_or_name (hmenu : menu.Offered) (raw : String) :
    (∀ choice, menu.parse raw = choice ↔ menu.Reads (trimmed raw) choice) ∧
      (∀ option other, menu.Names (trimmed raw).toList option →
        menu.Names (trimmed raw).toList other → option = other) ∧
      ∀ option ∈ menu.options, Respelled (menu.label option).toList raw.toList →
        menu.parse raw = .selected option := by
  have hlegible := hmenu.legible
  refine ⟨hlegible.parse_eq_iff raw, ?_, ?_⟩
  · intro option other hoption hother
    exact hlegible.unique hoption hother
  · intro option hoption hspelled
    exact hlegible.parse_respelled hoption hspelled

theorem parse_by_value_or_name_vast :
    Offered actionMenu ∧ actionMenu.parse " +18446744073709551617" =
        .unrecognized "+18446744073709551617" ∧
      Offered assertionMenu ∧ AssertionKind.hasUrl ∈ assertionMenu.options ∧
        Respelled (assertionMenu.label .hasUrl).toList "has_url".toList ∧
        assertionMenu.parse "has_url" = .selected .hasUrl := by
  have hspelled : Respelled (assertionMenu.label .hasUrl).toList "has_url".toList := by
    have hname : (assertionMenu.label .hasUrl).toList = ['H', 'a', 's', ' ', 'U', 'R', 'L'] := by
      decide
    have hanswer : "has_url".toList = ['h', 'a', 's', '_', 'u', 'r', 'l'] := by decide
    rw [hname, hanswer]
    apply Respelled.letter (by decide) (by decide) (by decide)
    apply Respelled.letter (by decide) (by decide) (by decide)
    apply Respelled.letter (by decide) (by decide) (by decide)
    apply Respelled.removed (by decide)
    apply Respelled.inserted (by decide)
    apply Respelled.letter (by decide) (by decide) (by decide)
    apply Respelled.letter (by decide) (by decide) (by decide)
    exact .letter (by decide) (by decide) (by decide) .nil
  have hvast : Numeral "+18446744073709551617".toList 18446744073709551617 :=
    numeral_iff.mpr ⟨by decide, List.all_eq_true.mp (by decide), by decide⟩
  have hoption : AssertionKind.hasUrl ∈ assertionMenu.options := by decide
  refine ⟨.action, ?_, .assertion, hoption, hspelled, ?_⟩
  · rw [(parse_by_value_or_name .action " +18446744073709551617").1]
    exact .outside hvast (by decide)
  · exact (parse_by_value_or_name .assertion "has_url").2.2 .hasUrl hoption hspelled

end Menu

end SuiteScribe
