import SuiteScribe.Text.Basic

namespace SuiteScribe.Json

open Text

/-! Quoted text. Between quotation marks a character stands for itself or is escaped: by a letter,
or by the four hexadecimal digits of a UTF-16 unit. -/

/-- Only the quotation mark, the backslash and control characters are written escaped. -/
def escape (c : Char) : List Char :=
  if c == '"' then ['\\', '"']
  else if c == '\\' then ['\\', '\\']
  else if c == '\n' then ['\\', 'n']
  else if c == '\r' then ['\\', 'r']
  else if c == '\t' then ['\\', 't']
  else if c == '\x08' then ['\\', 'b']
  else if c == '\x0c' then ['\\', 'f']
  else if c.toNat < 32 then '\\' :: 'u' :: hexadecimal 4 c.toNat
  else [c]

def quoted (text : String) : List Char :=
  '"' :: text.toList.flatMap escape ++ ['"']

/-! Reading takes two steps: the pieces between the quotation marks, and their characters. -/

inductive Piece
  | plain (c : Char)
  | unit (code : Nat)
  deriving DecidableEq, Repr

def letterEscape? (c : Char) : Option Char :=
  if c == '"' || c == '\\' || c == '/' then some c
  else if c == 'n' then some '\n'
  else if c == 'r' then some '\r'
  else if c == 't' then some '\t'
  else if c == 'b' then some '\x08'
  else if c == 'f' then some '\x0c'
  else none

def consPiece (piece : Piece) (more : Option (List Piece × List Char)) :
    Option (List Piece × List Char) :=
  more.map fun found => (piece :: found.1, found.2)

/-- The pieces up to the closing quotation mark, and what stands after it. -/
def pieces? : List Char → Option (List Piece × List Char)
  | [] => none
  | '"' :: rest => some ([], rest)
  | '\\' :: 'u' :: a :: b :: c :: d :: rest =>
      match numberIn? 16 [a, b, c, d] with
      | some code => consPiece (.unit code) (pieces? rest)
      | none => none
  | '\\' :: c :: rest =>
      match letterEscape? c with
      | some value => consPiece (.plain value) (pieces? rest)
      | none => none
  | c :: rest =>
      if c.toNat < 32 || c == '\\' then none else consPiece (.plain c) (pieces? rest)

/-! Two escaped units may form one character; a half of such a pair alone is no text. -/

def isLeading (code : Nat) : Bool :=
  0xD800 ≤ code && code < 0xDC00

def isTrailing (code : Nat) : Bool :=
  0xDC00 ≤ code && code < 0xE000

def pairValue (leading trailing : Nat) : Nat :=
  0x10000 + (leading - 0xD800) * 0x400 + (trailing - 0xDC00)

def characters? : List Piece → Option (List Char)
  | [] => some []
  | .plain c :: rest => (characters? rest).map (c :: ·)
  | .unit leading :: .unit trailing :: rest =>
      if isLeading leading then
        if isTrailing trailing then
          (characters? rest).map (Char.ofNat (pairValue leading trailing) :: ·)
        else none
      else if isTrailing leading then none
      else (characters? (.unit trailing :: rest)).map (Char.ofNat leading :: ·)
  | .unit code :: rest =>
      if isLeading code || isTrailing code then none
      else (characters? rest).map (Char.ofNat code :: ·)

def textOf? (pieces : List Piece) : Option String :=
  (characters? pieces).map String.ofList

/-! The tokens of a JSON text. Where no token can be read the list ends with `broken`, so that what
comes before it can still be understood. -/

inductive Token
  | openBrace
  | closeBrace
  | openBracket
  | closeBracket
  | colon
  | comma
  | null
  | bool (value : Bool)
  | number (numeral : List Char)
  | text (value : Option String)
  | broken
  deriving DecidableEq, Repr

def isSpace (c : Char) : Bool :=
  c == ' ' || c == '\n' || c == '\t' || c == '\r'

namespace Token

/-! Numerals: an optional minus sign, digits without a leading zero, optional decimals and an
optional exponent. -/

def digits? (source : List Char) : Option (List Char × List Char) :=
  let (digits, rest) := source.span Char.isDigit
  if digits.isEmpty then none else some (digits, rest)

def whole? (source : List Char) : Option (List Char × List Char) := do
  let (digits, rest) ← digits? source
  if digits.head? == some '0' && digits.length != 1 then none else some (digits, rest)

def signed (source : List Char) : List Char × List Char :=
  match source with
  | '-' :: rest => (['-'], rest)
  | rest => ([], rest)

def decimals? (source : List Char) : Option (List Char × List Char) :=
  match source with
  | '.' :: rest => (digits? rest).map fun found => ('.' :: found.1, found.2)
  | rest => some ([], rest)

def scaleSign (source : List Char) : List Char × List Char :=
  match source with
  | '-' :: rest => (['-'], rest)
  | '+' :: rest => (['+'], rest)
  | rest => ([], rest)

def scale? (source : List Char) : Option (List Char × List Char) :=
  match source with
  | [] => some ([], [])
  | c :: rest =>
      if c == 'e' || c == 'E' then
        let (sign, rest) := scaleSign rest
        (digits? rest).map fun found => (c :: sign ++ found.1, found.2)
      else some ([], c :: rest)

def numeral? (source : List Char) : Option (List Char × List Char) := do
  let (sign, rest) := signed source
  let (whole, rest) ← whole? rest
  let (decimals, rest) ← decimals? rest
  let (scale, rest) ← scale? rest
  return (sign ++ whole ++ decimals ++ scale, rest)

def word? (word : List Char) (token : Token) (source : List Char) :
    Option (Token × List Char) :=
  if word.isPrefixOf source then some (token, source.drop word.length) else none

/-- The first token of a source that does not start with white space. -/
def next? (source : List Char) : Option (Token × List Char) :=
  match source with
  | [] => none
  | '\x7b' :: rest => some (.openBrace, rest)
  | '\x7d' :: rest => some (.closeBrace, rest)
  | '[' :: rest => some (.openBracket, rest)
  | ']' :: rest => some (.closeBracket, rest)
  | ':' :: rest => some (.colon, rest)
  | ',' :: rest => some (.comma, rest)
  | '"' :: rest => (pieces? rest).map fun found => (.text (textOf? found.1), found.2)
  | 'n' :: _ => word? "null".toList .null source
  | 't' :: _ => word? "true".toList (.bool true) source
  | 'f' :: _ => word? "false".toList (.bool false) source
  | _ => (numeral? source).map fun found => (.number found.1, found.2)

def listFrom : Nat → List Char → List Token
  | 0, _ => []
  | fuel + 1, source =>
      match source.dropWhile isSpace with
      | [] => []
      | c :: rest =>
          match next? (c :: rest) with
          | some (token, rest) => token :: listFrom fuel rest
          | none => [.broken]

def list (source : List Char) : List Token :=
  listFrom source.length source

end Token

end SuiteScribe.Json

namespace SuiteScribe

/-! JSON values. Members keep their order and may repeat. A text is missing where its escapes name
half of a character. -/

inductive Json
  | null
  | bool (value : Bool)
  | number (numeral : List Char)
  | text (value : Option String)
  | array (items : List Json)
  | object (members : List (Option String × Json))

namespace Json

/-! Values are read token by token. What is open around the current place is a stack of frames. -/

inductive Frame
  | items (before : List Json)
  | members (before : List (Option String × Json)) (name : Option String)

/-- What may come next. -/
inductive Reading
  | someValue (stack : List Frame)
  | firstItem (stack : List Frame)
  | afterValue (inner : Frame) (stack : List Frame) (value : Json)
  | firstName (stack : List Frame)
  | nextName (before : List (Option String × Json)) (stack : List Frame)
  | colon (before : List (Option String × Json)) (name : Option String) (stack : List Frame)
  | complete (value : Json)

namespace Reading

def deliver (value : Json) : List Frame → Reading
  | [] => .complete value
  | inner :: stack => .afterValue inner stack value

def open? (stack : List Frame) : Token → Option Reading
  | .openBracket => some (.firstItem stack)
  | .openBrace => some (.firstName stack)
  | .null => some (deliver .null stack)
  | .bool value => some (deliver (.bool value) stack)
  | .number numeral => some (deliver (.number numeral) stack)
  | .text value => some (deliver (.text value) stack)
  | _ => none

def name? (before : List (Option String × Json)) (stack : List Frame) : Token → Option Reading
  | .text name => some (.colon before name stack)
  | _ => none

def afterValue? (inner : Frame) (stack : List Frame) (value : Json) (token : Token) :
    Option Reading :=
  match inner with
  | .items before =>
      match token with
      | .comma => some (.someValue (.items (before ++ [value]) :: stack))
      | .closeBracket => some (deliver (.array (before ++ [value])) stack)
      | _ => none
  | .members before name =>
      match token with
      | .comma => some (.nextName (before ++ [(name, value)]) stack)
      | .closeBrace => some (deliver (.object (before ++ [(name, value)])) stack)
      | _ => none

def step? : Reading → Token → Option Reading
  | .someValue stack, token => open? stack token
  | .firstItem stack, token =>
      if token = .closeBracket then some (deliver (.array []) stack)
      else open? (.items [] :: stack) token
  | .firstName stack, token =>
      if token = .closeBrace then some (deliver (.object []) stack)
      else name? [] stack token
  | .nextName before stack, token => name? before stack token
  | .colon before name stack, token =>
      if token = .colon then some (.someValue (.members before name :: stack)) else none
  | .afterValue inner stack value, token => afterValue? inner stack value token
  | .complete _, _ => none

/-- The value that a reading completes, and the tokens after it. -/
def run : Reading → List Token → Option (Json × List Token)
  | .complete value, rest => some (value, rest)
  | _, [] => none
  | reading, token :: rest =>
      match reading.step? token with
      | some next => run next rest
      | none => none

end Reading

def first? (text : List Char) : Option (Json × List Token) :=
  Reading.run (.someValue []) (Token.list text)

/-- The natural number that a numeral without sign, decimals and exponent stands for. -/
def natural? : Json → Option Nat
  | .number numeral =>
      if numeral.all Char.isDigit then some (Text.decimalValue numeral) else none
  | _ => none

def text? : Json → Option String
  | .text value => value
  | _ => none

end Json

end SuiteScribe
