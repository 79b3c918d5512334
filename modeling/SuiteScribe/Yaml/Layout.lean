import SuiteScribe.Yaml.Value

namespace SuiteScribe.Yaml

/-! Trees are what is written: texts, sequences and mappings with texts as keys. -/

inductive Tree
  | text (value : String)
  | sequence (items : List Tree)
  | mapping (entries : List (String × Tree))

/-! How a text is written. It stands plain where that reads back as the same text, and quoted or
as a literal block otherwise. -/

inductive Quotation
  | plain
  | single
  | double
  | literal
  deriving DecidableEq, Repr

namespace Quotation

/-- Line feeds and the characters of the basic plane that show. -/
def isPrintable (c : Char) : Bool :=
  let code := c.toNat
  c == '\n' || (0x20 ≤ code && code ≤ 0x7E) ||
    (0xA0 ≤ code && code ≤ 0xFFFD && code != 0xFEFF)

def anyPair (p : Char → Char → Bool) : List Char → Bool
  | a :: b :: rest => p a b || anyPair p (b :: rest)
  | _ => false

def isSpace (c : Char) : Bool :=
  c == ' '

def spaceBeforeBreak (text : List Char) : Bool :=
  anyPair (fun a b => isSpace a && isBreak b) text

def spaceAfterBreak (text : List Char) : Bool :=
  anyPair (fun a b => isBreak a && isSpace b) text

def endsWith (p : Char → Bool) (text : List Char) : Bool :=
  text.getLast?.any p

/-! Marks that would be read as something else than text. -/

def opensLikeMark : List Char → Bool
  | [] => false
  | c :: rest =>
      isOneOf "#,[]\x7b\x7d&*!|>'\"%@`" c || (isOneOf "?:-" c && gapAhead rest)

def opensLikeDocument (text : List Char) : Bool :=
  "---".toList.isPrefixOf text || "...".toList.isPrefixOf text

def hasKeyMark : List Char → Bool
  | [] => false
  | c :: rest => (c == ':' && gapAhead rest) || hasKeyMark rest

def hasCommentMark (text : List Char) : Bool :=
  anyPair (fun a b => isGap a && b == '#') text

def hasMarks (text : List Char) : Bool :=
  opensLikeMark text || opensLikeDocument text || hasKeyMark text || hasCommentMark text

/-! Which forms can hold a text. -/

def onlyDouble (text : List Char) : Bool :=
  spaceBeforeBreak text || !text.all isPrintable

def allowsLiteral (text : List Char) : Bool :=
  !onlyDouble text && !endsWith isSpace text

def allowsSingle (text : List Char) : Bool :=
  !onlyDouble text && !spaceAfterBreak text

def allowsPlain (text : List Char) : Bool :=
  !onlyDouble text && !text.any isBreak && !startsWith isSpace text && !endsWith isSpace text &&
    !hasMarks text

def isOtherThanText (text : List Char) : Bool :=
  Scalar.ofPlain text != .text text || Scalar.isZeroFilled text

/-- Texts with line feeds become literal blocks if they can. -/
def ofText (text : List Char) : Quotation :=
  if text.contains '\n' then
    if allowsLiteral text then .literal else .double
  else if !isOtherThanText text && allowsPlain text then .plain
  else if allowsSingle text then .single
  else .double

end Quotation

/-! Trees as block text. Mappings are indented by two more spaces at each level; the items of a
sequence stand below its key. -/

namespace Layout

def step : Nat := 2

def spaces (count : Nat) : List Char :=
  List.replicate count ' '

/-- Each line that is not empty is indented; the first one only on demand. -/
def indented (indent : Nat) (atStart : Bool) : List Char → List Char
  | [] => []
  | c :: rest =>
      if isBreak c then c :: indented indent true rest
      else (if atStart then spaces indent else []) ++ c :: indented indent false rest

/-! Quoted forms. -/

def doubled (text : List Char) : List Char :=
  text.flatMap fun c => if c == '\'' then ['\'', '\''] else [c]

def single (indent : Nat) (text : List Char) : List Char :=
  '\'' :: indented indent false (doubled text) ++
    (if Quotation.endsWith isBreak text then spaces indent else []) ++ ['\'']

def hexDigits (width code : Nat) : List Char :=
  (Text.hexadecimal width code).map Char.toUpper

def codedEscape (code : Nat) : List Char :=
  if code ≤ 0xFF then 'x' :: hexDigits 2 code
  else if code ≤ 0xFFFF then 'u' :: hexDigits 4 code
  else 'U' :: hexDigits 8 code

def letterEscape? (c : Char) : Option Char :=
  match c with
  | '\x00' => some '0'
  | '\x07' => some 'a'
  | '\x08' => some 'b'
  | '\t' => some 't'
  | '\n' => some 'n'
  | '\x0b' => some 'v'
  | '\x0c' => some 'f'
  | '\r' => some 'r'
  | '\x1b' => some 'e'
  | '"' => some '"'
  | '\\' => some '\\'
  | '\x85' => some 'N'
  | '\u2028' => some 'L'
  | '\u2029' => some 'P'
  | _ => none

def escape (c : Char) : List Char :=
  match letterEscape? c with
  | some letter => ['\\', letter]
  | none => if Quotation.isPrintable c then [c] else '\\' :: codedEscape c.toNat

def double (text : List Char) : List Char :=
  '"' :: text.flatMap escape ++ ['"']

/-! Literal blocks. The header tells the indentation where the text would hide it, and what to do
with line breaks at the end. -/

def indentMark (text : List Char) : List Char :=
  if startsWith (fun c => c == ' ' || isBreak c) text then Text.decimal step else []

def endMark (text : List Char) : List Char :=
  match text.reverse with
  | [] => ['-']
  | [c] => if isBreak c then ['+'] else ['-']
  | c :: d :: _ => if !isBreak c then ['-'] else if isBreak d then ['+'] else []

def literal (indent : Nat) (text : List Char) : List Char :=
  '|' :: indentMark text ++ endMark text ++ '\n' :: indented indent true text

def scalar (indent : Nat) (text : List Char) : List Char :=
  match Quotation.ofText text with
  | .plain => text
  | .single => single indent text
  | .double => double text
  | .literal => literal indent text

/-- Ends a line that no break has ended yet. -/
def ended (line : List Char) : List Char :=
  if Quotation.endsWith isBreak line then line else line ++ ['\n']

mutual

/-- What follows the mark of a key or an item: the rest of its line, and further lines. -/
def afterMark (indent : Nat) : Tree → List Char
  | .text value => ended (' ' :: scalar (indent + step) value.toList)
  | .sequence [] => " []\n".toList
  | .sequence (first :: rest) => '\n' :: items indent (first :: rest)
  | .mapping [] => " \x7b\x7d\n".toList
  | .mapping (first :: rest) => '\n' :: entries (indent + step) (first :: rest)

def entries (indent : Nat) : List (String × Tree) → List Char
  | [] => []
  | (key, value) :: rest =>
      spaces indent ++ key.toList ++ ':' :: afterMark indent value ++ entries indent rest

/-- The first line of an item stands behind its mark. -/
def item (indent : Nat) : Tree → List Char
  | .text value => ended (' ' :: scalar (indent + step) value.toList)
  | .sequence [] => " []\n".toList
  | .sequence (first :: rest) => ' ' :: (items (indent + step) (first :: rest)).drop (indent + step)
  | .mapping [] => " \x7b\x7d\n".toList
  | .mapping (first :: rest) =>
      ' ' :: (entries (indent + step) (first :: rest)).drop (indent + step)

def items (indent : Nat) : List Tree → List Char
  | [] => []
  | first :: rest => spaces indent ++ '-' :: item indent first ++ items indent rest

end

end Layout

/-- A document whose root is a mapping with these entries. -/
def Tree.renderEntries (entries : List (String × Tree)) : String :=
  String.ofList (Layout.entries 0 entries)

end SuiteScribe.Yaml
