namespace SuiteScribe.Text

/-! Sets of code points as ascending lists of ranges, both ends included. -/

def inRanges (code : Nat) : List (Nat × Nat) → Bool
  | [] => false
  | (low, high) :: rest =>
      if code < low then false
      else if code ≤ high then true
      else inRanges code rest

/-! The Unicode property White_Space, and what is measured by it: trimmed text, blank text and
words. All functions work on lists of characters; `trimmed` and `blank` lift them to strings. -/

def whiteSpaceRanges : List (Nat × Nat) :=
  [(9, 13), (32, 32), (133, 133), (160, 160), (5760, 5760), (8192, 8202), (8232, 8233),
   (8239, 8239), (8287, 8287), (12288, 12288)]

def isBlank (c : Char) : Bool :=
  inRanges c.toNat whiteSpaceRanges

def trimStart (text : List Char) : List Char :=
  text.dropWhile isBlank

def trimEnd (text : List Char) : List Char :=
  (text.reverse.dropWhile isBlank).reverse

def trim (text : List Char) : List Char :=
  trimEnd (trimStart text)

def trimmed (text : String) : String :=
  String.ofList (trim text.toList)

def blank (text : String) : Bool :=
  text.toList.all isBlank

/-! Trimmed text neither starts nor ends with white space, and trimming leaves it as it is. -/

theorem head?_trimStart (text : List Char) {c : Char}
    (h : (trimStart text).head? = some c) : isBlank c = false := by
  have first := List.head?_dropWhile_not isBlank text
  rw [trimStart] at h
  rw [h] at first
  exact first

theorem trimStart_eq_self {text : List Char}
    (h : ∀ c, text.head? = some c → isBlank c = false) : trimStart text = text := by
  cases text with
  | nil => rfl
  | cons c rest => simp [trimStart, h c rfl]

theorem trimStart_cons_blank {c : Char} (h : isBlank c = true) (text : List Char) :
    trimStart (c :: text) = trimStart text :=
  List.dropWhile_cons_of_pos h

theorem trimStart_cons_word {c : Char} (h : isBlank c = false) (text : List Char) :
    trimStart (c :: text) = c :: text :=
  trimStart_eq_self (by simp [h])

theorem trimEnd_prefix (text : List Char) : trimEnd text <+: text := by
  rw [trimEnd, ← List.reverse_suffix, List.reverse_reverse]
  exact List.dropWhile_suffix isBlank

theorem getLast?_trimEnd (text : List Char) {c : Char}
    (h : (trimEnd text).getLast? = some c) : isBlank c = false := by
  rw [trimEnd, List.getLast?_reverse] at h
  exact head?_trimStart text.reverse h

theorem trimEnd_eq_self {text : List Char}
    (h : ∀ c, text.getLast? = some c → isBlank c = false) : trimEnd text = text := by
  have first : trimStart text.reverse = text.reverse :=
    trimStart_eq_self fun c hc => h c (by rwa [List.head?_reverse] at hc)
  rw [trimStart] at first
  rw [trimEnd, first, List.reverse_reverse]

theorem head?_trim {text : List Char} {c : Char}
    (h : (trim text).head? = some c) : isBlank c = false := by
  obtain ⟨rest, hrest⟩ := trimEnd_prefix (trimStart text)
  apply head?_trimStart text
  rw [← hrest, List.head?_append]
  rw [trim] at h
  simp [h]

theorem trim_trim (text : List Char) : trim (trim text) = trim text := by
  have first : trimStart (trim text) = trim text := trimStart_eq_self fun c => head?_trim
  have last : trimEnd (trim text) = trim text :=
    trimEnd_eq_self fun c hc => getLast?_trimEnd (trimStart text) hc
  rw [trim, first, last]

theorem trimmed_trimmed (text : String) : trimmed (trimmed text) = trimmed text := by
  simp [trimmed, trim_trim]

/-! A word is a longest run of characters without white space. -/

def opensWithWord : List Char → Bool
  | [] => false
  | c :: _ => !isBlank c

def words : List Char → List (List Char)
  | [] => []
  | c :: rest =>
      if isBlank c then words rest
      else if opensWithWord rest then
        match words rest with
        | [] => [[c]]
        | word :: others => (c :: word) :: others
      else [c] :: words rest

/-! Digits and the numbers that they stand for. Letters of either case continue the ten digits. -/

def digitIn? (base : Nat) (c : Char) : Option Nat :=
  let value :=
    if '0' ≤ c ∧ c ≤ '9' then some (c.toNat - '0'.toNat)
    else if 'a' ≤ c ∧ c ≤ 'z' then some (c.toNat - 'a'.toNat + 10)
    else if 'A' ≤ c ∧ c ≤ 'Z' then some (c.toNat - 'A'.toNat + 10)
    else none
  value.bind fun digit => if digit < base then some digit else none

/-- The number that some digits of a base stand for. -/
def numberIn? (base : Nat) (digits : List Char) : Option Nat :=
  if digits.isEmpty then none
  else digits.foldlM (fun value c => (digitIn? base c).map (value * base + ·)) 0

/-- The number that decimal digits stand for. -/
def decimalValue (digits : List Char) : Nat :=
  digits.foldl (fun value c => value * 10 + (c.toNat - '0'.toNat)) 0

def decimal (n : Nat) : List Char :=
  Nat.toDigits 10 n

/-- Hexadecimal digits in lower case, filled up with zeros to a width. -/
def hexadecimal (width n : Nat) : List Char :=
  let digits := Nat.toDigits 16 n
  List.replicate (width - digits.length) '0' ++ digits

/-! Physical lines. A line ends after each line feed; what follows the last one is a line only if
it is not empty. The same cutting serves characters and bytes. -/

def splitLines [BEq α] (feed : α) : List α → List (List α)
  | [] => []
  | c :: rest =>
      if c == feed then [c] :: splitLines feed rest
      else
        match splitLines feed rest with
        | [] => [[c]]
        | line :: lines => (c :: line) :: lines

/-! The ending of a line: one line feed, and one carriage return right before it. -/

def dropEnding [BEq α] (feed ret : α) (line : List α) : List α :=
  match line.reverse with
  | last :: before =>
      if last == feed then
        match before with
        | c :: body => if c == ret then body.reverse else before.reverse
        | [] => []
      else line
  | [] => []

def lines (text : List Char) : List (List Char) :=
  (splitLines '\n' text).map (dropEnding '\n' '\r')

def byteLines (bytes : List UInt8) : List (List UInt8) :=
  (splitLines 10 bytes).map (dropEnding 10 13)

/-! Text as bytes. Files, the terminal and the output carry bytes; text is their UTF-8 reading. -/

abbrev Bytes := List UInt8

def encode (text : String) : Bytes :=
  text.toUTF8.data.toList

def decode? (bytes : Bytes) : Option String :=
  String.fromUTF8? ⟨bytes.toArray⟩

end SuiteScribe.Text
