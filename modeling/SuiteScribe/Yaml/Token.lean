import SuiteScribe.Text.Basic

namespace SuiteScribe.Yaml

/-! Classes of characters in a YAML stream. -/

def isAllowed (c : Char) : Bool :=
  let code := c.toNat
  c == '\t' || c == '\n' || c == '\r' || (32 ≤ code && code ≤ 126) || code == 0x85 ||
    (0xA0 ≤ code && code != 0xFFFE && code != 0xFFFF)

def isBlank (c : Char) : Bool :=
  c == ' ' || c == '\t'

def isBreak (c : Char) : Bool :=
  c == '\n' || c == '\r' || c == '\x85' || c == '\u2028' || c == '\u2029'

def isGap (c : Char) : Bool :=
  isBlank c || isBreak c

/-- Letters, digits, hyphens and underscores make the names of anchors and handles. -/
def isWord (c : Char) : Bool :=
  c.isAlphanum || c == '-' || c == '_'

/-- White space or the end comes next. -/
def gapAhead : List Char → Bool
  | [] => true
  | c :: _ => isGap c

def startsWith (p : Char → Bool) : List Char → Bool
  | [] => false
  | c :: _ => p c

def isOneOf (characters : String) (c : Char) : Bool :=
  characters.toList.contains c

/-! A place in the stream: what is left, and where it is. -/

structure Cursor where
  rest : List Char
  index : Nat := 0
  line : Nat := 0
  column : Nat := 0

namespace Cursor

def advance (cursor : Cursor) (count : Nat) : Cursor :=
  { cursor with
    rest := cursor.rest.drop count
    index := cursor.index + count
    column := cursor.column + count }

/-- Moves on in the same line to a later rest. -/
def moveTo (cursor : Cursor) (rest : List Char) : Cursor :=
  cursor.advance (cursor.rest.length - rest.length)

def skipWhile (cursor : Cursor) (p : Char → Bool) : Cursor :=
  cursor.advance (cursor.rest.takeWhile p).length

def atEnd (cursor : Cursor) : Bool :=
  cursor.rest.isEmpty

def isAt (cursor : Cursor) (p : Char → Bool) : Bool :=
  startsWith p cursor.rest

def nextLine (cursor : Cursor) (rest : List Char) : Cursor :=
  { rest
    index := cursor.index + (cursor.rest.length - rest.length)
    line := cursor.line + 1
    column := 0 }

/-- The line break at a cursor as text. Only the two Unicode separators keep their form. -/
def lineBreak? (cursor : Cursor) : Option (List Char × Cursor) :=
  match cursor.rest with
  | '\r' :: '\n' :: rest => some (['\n'], cursor.nextLine rest)
  | c :: rest =>
      if c == '\u2028' || c == '\u2029' then some ([c], cursor.nextLine rest)
      else if isBreak c then some (['\n'], cursor.nextLine rest)
      else none
  | [] => none

def skipLineBreak (cursor : Cursor) : Cursor :=
  match cursor.lineBreak? with
  | some (_, next) => next
  | none => cursor

/-- Skips blanks and a comment; after them the line has to end. -/
def endOfLine? (cursor : Cursor) : Option Cursor :=
  let cursor := cursor.skipWhile isBlank
  let cursor := if cursor.isAt (· == '#') then cursor.skipWhile (!isBreak ·) else cursor
  if cursor.atEnd || cursor.isAt isBreak then some cursor.skipLineBreak else none

/-- Three equal marks at the start of a line, with white space after them. -/
def isAtMarks (cursor : Cursor) (mark : Char) : Bool :=
  cursor.column == 0 && [mark, mark, mark].isPrefixOf cursor.rest && gapAhead (cursor.rest.drop 3)

def isAtDocumentMark (cursor : Cursor) : Bool :=
  cursor.isAtMarks '-' || cursor.isAtMarks '.'

end Cursor

/-! The gap between two words of a scalar. A gap without line breaks is kept as it is. In one with
breaks blanks do not count: a single break becomes a space, and of several the first is dropped. -/

structure Gap where
  blanks : List Char := []
  broken : Bool := false
  first : List Char := []
  others : List Char := []

namespace Gap

def text (gap : Gap) : List Char :=
  if gap.broken then
    if gap.first == ['\n'] then
      if gap.others.isEmpty then [' '] else gap.others
    else gap.first ++ gap.others
  else gap.blanks

def addBreak (gap : Gap) (text : List Char) : Gap :=
  if gap.broken then { gap with others := gap.others ++ text }
  else { broken := true, first := text }

/-- Reads on in a gap. A tab may not stand left of the given column. -/
def readFrom? (column : Nat) : Nat → Gap → Cursor → Option (Gap × Cursor)
  | 0, gap, cursor => some (gap, cursor)
  | fuel + 1, gap, cursor =>
      match cursor.rest with
      | [] => some (gap, cursor)
      | c :: _ =>
          if isBlank c then
            if gap.broken then
              if c == '\t' && cursor.column < column then none
              else readFrom? column fuel gap (cursor.advance 1)
            else
              readFrom? column fuel { gap with blanks := gap.blanks ++ [c] } (cursor.advance 1)
          else
            match cursor.lineBreak? with
            | some (text, next) => readFrom? column fuel (gap.addBreak text) next
            | none => some (gap, cursor)

def read? (column : Nat) (gap : Gap) (cursor : Cursor) : Option (Gap × Cursor) :=
  readFrom? column cursor.rest.length gap cursor

end Gap

/-! The tokens of a YAML stream. Indentation shows as starts and ends of block collections. -/

inductive Token
  | versionDirective (major minor : Nat)
  | tagDirective (handle replacement : String)
  | documentStart
  | documentEnd
  | blockSequenceStart
  | blockMappingStart
  | blockEnd
  | flowSequenceStart
  | flowSequenceEnd
  | flowMappingStart
  | flowMappingEnd
  | blockEntry
  | flowEntry
  | key
  | value
  | alias (name : String)
  | anchor (name : String)
  | tag (handle suffix : String)
  | scalar (text : String) (plain : Bool)
  deriving DecidableEq, Repr

end SuiteScribe.Yaml

namespace SuiteScribe.Yaml.Block

/-! Block scalars. The header tells how line breaks inside are kept, how those at the end are, and
possibly how deep the lines are indented; otherwise the first line that is not blank tells it. -/

inductive Style
  | literal
  | folded
  deriving DecidableEq, Repr

inductive Chomping
  | strip
  | clip
  | keep
  deriving DecidableEq, Repr

structure Header where
  chomping : Chomping := .clip
  increment : Option Nat := none

def chomping? (c : Char) : Option Chomping :=
  if c == '-' then some .strip
  else if c == '+' then some .keep
  else none

def increment? (c : Char) : Option Nat :=
  if '1' ≤ c ∧ c ≤ '9' then some (c.toNat - '0'.toNat) else none

/-- The header and what comes after it. The two indicators may come in either order. -/
def header (rest : List Char) : Header × List Char :=
  match rest with
  | [] => ({}, [])
  | c :: more =>
      match chomping? c, increment? c with
      | some chomping, _ =>
          match more with
          | [] => ({ chomping }, [])
          | d :: after =>
              match increment? d with
              | some increment => ({ chomping, increment := some increment }, after)
              | none => ({ chomping }, more)
      | none, some increment =>
          match more with
          | [] => ({ increment := some increment }, [])
          | d :: after =>
              match chomping? d with
              | some chomping => ({ chomping, increment := some increment }, after)
              | none => ({ increment := some increment }, more)
      | none, none => ({}, rest)

/-! Blank lines, with the deepest column that they reach. Without a known indentation all leading
spaces count; a tab among them is refused. -/

structure Blanks where
  breaks : List Char := []
  deepest : Nat := 0
  cursor : Cursor

def skipIndent (indent : Option Nat) (cursor : Cursor) : Cursor :=
  let spaces := (cursor.rest.takeWhile (· == ' ')).length
  match indent with
  | none => cursor.advance spaces
  | some column => cursor.advance (min spaces (column - cursor.column))

def inIndent (indent : Option Nat) (cursor : Cursor) : Bool :=
  match indent with
  | none => true
  | some column => cursor.column < column

def blanksFrom? (indent : Option Nat) : Nat → Blanks → Option Blanks
  | 0, blanks => some blanks
  | fuel + 1, blanks =>
      let cursor := skipIndent indent blanks.cursor
      let blanks := { blanks with cursor, deepest := max blanks.deepest cursor.column }
      if inIndent indent cursor && cursor.isAt (· == '\t') then none
      else
        match cursor.lineBreak? with
        | none => some blanks
        | some (text, next) =>
            blanksFrom? indent fuel { blanks with breaks := blanks.breaks ++ text, cursor := next }

def blanks? (indent : Option Nat) (cursor : Cursor) : Option Blanks :=
  blanksFrom? indent (cursor.rest.length + 1) { cursor }

/-! The lines of a scalar. What separates two lines is held back until the second is read. -/

structure Held where
  first : List Char := []
  others : List Char := []
  blankBefore : Bool := false

/-- A folded scalar joins lines by a space, unless one of them starts with a blank. -/
def Held.text (held : Held) (style : Style) (blankAfter : Bool) : List Char :=
  if style = .folded && held.first == ['\n'] && !held.blankBefore && !blankAfter then
    (if held.others.isEmpty then [' '] else []) ++ held.others
  else held.first ++ held.others

def linesFrom? (style : Style) (indent : Nat) : Nat → List Char → Held → Cursor →
    Option (List Char × Held × Cursor)
  | 0, text, held, cursor => some (text, held, cursor)
  | fuel + 1, text, held, cursor =>
      if cursor.column != indent || cursor.atEnd then some (text, held, cursor)
      else do
        let blankHere := cursor.isAt isBlank
        let line := cursor.rest.takeWhile (!isBreak ·)
        let cursor := cursor.advance line.length
        let (first, next) := (cursor.lineBreak?).getD ([], cursor)
        let blanks ← blanks? (some indent) next
        linesFrom? style indent fuel (text ++ held.text style blankHere ++ line)
          { first, others := blanks.breaks, blankBefore := blankHere } blanks.cursor

def Chomping.text (chomping : Chomping) (held : Held) : List Char :=
  match chomping with
  | strip => []
  | clip => held.first
  | keep => held.first ++ held.others

/-- Reads a scalar from behind its style mark. Its lines stand right of the enclosing block, whose
content starts one column left of the given one. -/
def read? (style : Style) (column : Nat) (cursor : Cursor) : Option (List Char × Cursor) := do
  let (header, rest) := header cursor.rest
  let cursor ← (cursor.moveTo rest).endOfLine?
  let known := header.increment.map fun increment =>
    if column = 0 then increment else column - 1 + increment
  let blanks ← blanks? known cursor
  let indent := known.getD (max blanks.deepest (max column 1))
  let (text, held, cursor) ←
    linesFrom? style indent (cursor.rest.length + 1) [] { others := blanks.breaks } blanks.cursor
  return (text ++ header.chomping.text held, cursor)

end SuiteScribe.Yaml.Block

namespace SuiteScribe.Yaml.Property

open Text

/-! What stands before a node or in place of one: anchors, aliases and tags. -/

def endsName (rest : List Char) : Bool :=
  gapAhead rest || startsWith (isOneOf "?:,]\x7d%@`") rest

/-- The name behind the mark of an anchor or an alias. -/
def name? (cursor : Cursor) : Option (String × Cursor) :=
  let name := cursor.rest.takeWhile isWord
  let after := cursor.advance name.length
  if name.isEmpty || !endsName after.rest then none else some (String.ofList name, after)

/-! Addresses inside tags. A percent sign stands before the two hexadecimal digits of a byte, and
the bytes of one character stand together. -/

def isAddress (verbatim : Bool) (c : Char) : Bool :=
  isWord c || isOneOf ";/?:@&=+$.%!~*'()" c || (verbatim && isOneOf ",[]" c)

def octet? : List Char → Option (Nat × List Char)
  | '%' :: a :: b :: rest => (numberIn? 16 [a, b]).map fun value => (value, rest)
  | _ => none

def octetCount? (first : Nat) : Option Nat :=
  if first < 0x80 then some 1
  else if first < 0xC0 then none
  else if first < 0xE0 then some 2
  else if first < 0xF0 then some 3
  else if first < 0xF8 then some 4
  else none

def laterOctets? : Nat → List Char → Option (List Nat × List Char)
  | 0, rest => some ([], rest)
  | count + 1, rest => do
      let (value, rest) ← octet? rest
      if value / 64 != 2 then none
      else
        let (more, rest) ← laterOctets? count rest
        return (value :: more, rest)

def replacement : List Char := ['\uFFFD']

def octetText (octets : List Nat) : List Char :=
  match decode? (octets.map (·.toUInt8)) with
  | some text => text.toList
  | none => replacement

def escaped? (rest : List Char) : Option (List Char × List Char) := do
  let (first, rest) ← octet? rest
  let count ← octetCount? first
  let (later, rest) ← laterOctets? (count - 1) rest
  return (octetText (first :: later), rest)

def addressFrom? (verbatim : Bool) : Nat → List Char → Option (List Char × List Char)
  | 0, rest => some ([], rest)
  | fuel + 1, rest =>
      match rest with
      | [] => some ([], [])
      | c :: more =>
          if c == '%' then do
            let (text, rest) ← escaped? rest
            let (later, rest) ← addressFrom? verbatim fuel rest
            return (text ++ later, rest)
          else if isAddress verbatim c then
            (addressFrom? verbatim fuel more).map fun found => (c :: found.1, found.2)
          else some ([], rest)

def address? (verbatim : Bool) (rest : List Char) : Option (List Char × List Char) :=
  addressFrom? verbatim rest.length rest

/-- An address that may not be empty. -/
def someAddress? (verbatim : Bool) (rest : List Char) : Option (List Char × List Char) := do
  let (text, after) ← address? verbatim rest
  if after.length == rest.length then none else some (text, after)

/-! Tags: an address in angle brackets, or a handle with a suffix. -/

/-- What may be a handle: an exclamation mark, a word, and possibly another mark. -/
def handle (rest : List Char) : List Char × List Char :=
  let word := (rest.drop 1).takeWhile isWord
  let after := rest.drop (1 + word.length)
  if startsWith (· == '!') after then (rest.take (2 + word.length), rest.drop (2 + word.length))
  else (rest.take (1 + word.length), after)

def isClosedHandle (handle : List Char) : Bool :=
  1 < handle.length && handle.getLast? == some '!'

def tagParts? (rest : List Char) : Option (List Char × List Char × List Char) :=
  match rest with
  | '!' :: '<' :: address => do
      let (suffix, after) ← someAddress? true address
      match after with
      | '>' :: after => some ([], suffix, after)
      | _ => none
  | _ =>
      let (handle, after) := handle rest
      if isClosedHandle handle then do
        let (suffix, after) ← someAddress? false after
        return (handle, suffix, after)
      else do
        let (more, after) ← address? false after
        match handle.drop 1 ++ more with
        | [] => return ([], ['!'], after)
        | suffix => return (['!'], suffix, after)

def tag? (flow : Bool) (cursor : Cursor) : Option (Token × Cursor) := do
  let (handle, suffix, rest) ← tagParts? cursor.rest
  if (flow && startsWith (· == ',') rest) || gapAhead rest then
    some (.tag (String.ofList handle) (String.ofList suffix), cursor.moveTo rest)
  else none

end SuiteScribe.Yaml.Property

namespace SuiteScribe.Yaml.Directive

/-! Directives: the version of the language, and replacements of tag handles. -/

def versionDigits : Nat := 9

def number? (rest : List Char) : Option (Nat × List Char) :=
  let digits := rest.takeWhile Char.isDigit
  if digits.isEmpty || versionDigits < digits.length then none
  else
    some (Text.decimalValue digits, rest.drop digits.length)

def version? (rest : List Char) : Option (Token × List Char) := do
  let (major, rest) ← number? (rest.dropWhile isBlank)
  match rest with
  | '.' :: rest =>
      let (minor, rest) ← number? rest
      return (.versionDirective major minor, rest)
  | _ => none

def isWholeHandle (handle : List Char) : Bool :=
  handle.head? == some '!' && handle.getLast? == some '!'

def replacement? (rest : List Char) : Option (Token × List Char) := do
  let (handle, rest) := Property.handle (rest.dropWhile isBlank)
  if !isWholeHandle handle || !startsWith isBlank rest then none
  else
    let (address, rest) ← Property.someAddress? true (rest.dropWhile isBlank)
    if gapAhead rest then
      some (.tagDirective (String.ofList handle) (String.ofList address), rest)
    else none

/-- Reads a directive from behind its percent sign. -/
def read? (cursor : Cursor) : Option (Token × Cursor) := do
  let name := cursor.rest.takeWhile isWord
  let rest := cursor.rest.drop name.length
  if !gapAhead rest then none
  else
    let (token, rest) ←
      if name = "YAML".toList then version? rest
      else if name = "TAG".toList then replacement? rest
      else none
    return (token, ← (cursor.moveTo rest).endOfLine?)

end SuiteScribe.Yaml.Directive

namespace SuiteScribe.Yaml.Plain

/-! Plain scalars: words with gaps between them. A word ends at white space, at a colon before
white space and, inside a flow collection, at the marks of such collections. -/

def endsFlowWord (c : Char) : Bool :=
  isOneOf ",[]\x7b\x7d" c

def word? (flow : Bool) : List Char → Option (List Char × List Char)
  | [] => some ([], [])
  | c :: rest =>
      if isGap c then some ([], c :: rest)
      else if flow && c == ':' && startsWith (isOneOf ",?[]\x7b\x7d") rest then none
      else if (c == ':' && gapAhead rest) || (flow && endsFlowWord c) then some ([], c :: rest)
      else (word? flow rest).map fun found => (c :: found.1, found.2)

/-- The text of a scalar, and whether a line break is the last that was read. -/
def readFrom? (flow : Bool) (column : Nat) : Nat → List Char → Gap → Cursor →
    Option (List Char × Bool × Cursor)
  | 0, text, gap, cursor => some (text, gap.broken, cursor)
  | fuel + 1, text, gap, cursor =>
      if cursor.isAtDocumentMark || cursor.isAt (· == '#') then some (text, gap.broken, cursor)
      else do
        let (word, rest) ← word? flow cursor.rest
        let cursor := cursor.moveTo rest
        if word.isEmpty then some (text, gap.broken, cursor)
        else
          let text := text ++ gap.text ++ word
          if !cursor.isAt isGap then some (text, false, cursor)
          else
            let (gap, cursor) ← Gap.read? column {} cursor
            if !flow && cursor.column < column then some (text, gap.broken, cursor)
            else readFrom? flow column fuel text gap cursor

/-- Reads a plain scalar whose later lines stand at a column or right of it. -/
def read? (flow : Bool) (column : Nat) (cursor : Cursor) : Option (List Char × Bool × Cursor) :=
  readFrom? flow column (cursor.rest.length + 1) [] {} cursor

end SuiteScribe.Yaml.Plain

namespace SuiteScribe.Yaml.Quoted

/-! Quoted scalars. Between single quotation marks only a doubled mark is special; between double
ones a backslash escapes. Gaps are folded as in plain scalars. -/

inductive Style
  | single
  | double
  deriving DecidableEq, Repr

def Style.mark : Style → Char
  | single => '\''
  | double => '"'

/-- A word, whether an escaped line break ends it, and what comes after it. -/
structure Word where
  text : List Char
  escapedBreak : Bool := false
  rest : List Char

def Word.cons (c : Char) (word : Word) : Word :=
  { word with text := c :: word.text }

def singleWord : List Char → Word
  | [] => { text := [], rest := [] }
  | '\'' :: '\'' :: rest => (singleWord rest).cons '\''
  | c :: rest =>
      if isGap c || c == '\'' then { text := [], rest := c :: rest }
      else (singleWord rest).cons c

/-! Escapes of double quotation marks. -/

def letterEscape? (c : Char) : Option Char :=
  match c with
  | '0' => some '\x00'
  | 'a' => some '\x07'
  | 'b' => some '\x08'
  | 't' => some '\t'
  | '\t' => some '\t'
  | 'n' => some '\n'
  | 'v' => some '\x0b'
  | 'f' => some '\x0c'
  | 'r' => some '\r'
  | 'e' => some '\x1b'
  | ' ' => some ' '
  | '"' => some '"'
  | '/' => some '/'
  | '\\' => some '\\'
  | 'N' => some '\x85'
  | '_' => some '\xa0'
  | 'L' => some '\u2028'
  | 'P' => some '\u2029'
  | _ => none

def scalarValue? (code : Nat) : Option Char :=
  if h : code.isValidChar then some (Char.ofNatAux code h) else none

def coded? (digits : List Char) : Option Char :=
  (Text.numberIn? 16 digits).bind scalarValue?

def consEscaped (c : Option Char) (word : Option Word) : Option Word := do
  return (← word).cons (← c)

def doubleWord? : List Char → Option Word
  | [] => some { text := [], rest := [] }
  | '\\' :: 'x' :: a :: b :: rest => consEscaped (coded? [a, b]) (doubleWord? rest)
  | '\\' :: 'u' :: a :: b :: c :: d :: rest =>
      consEscaped (coded? [a, b, c, d]) (doubleWord? rest)
  | '\\' :: 'U' :: a :: b :: c :: d :: e :: f :: g :: h :: rest =>
      consEscaped (coded? [a, b, c, d, e, f, g, h]) (doubleWord? rest)
  | '\\' :: c :: rest =>
      if isBreak c then some { text := [], escapedBreak := true, rest := c :: rest }
      else consEscaped (letterEscape? c) (doubleWord? rest)
  | c :: rest =>
      if isGap c || c == '"' then some { text := [], rest := c :: rest }
      else if c == '\\' then none
      else (doubleWord? rest).map (·.cons c)

def Style.word? : Style → List Char → Option Word
  | single, rest => some (singleWord rest)
  | double, rest => doubleWord? rest

def readFrom? (style : Style) : Nat → List Char → Cursor → Option (List Char × Cursor)
  | 0, _, _ => none
  | fuel + 1, text, cursor =>
      if cursor.isAtDocumentMark || cursor.atEnd then none
      else do
        let word ← style.word? cursor.rest
        let text := text ++ word.text
        let cursor := cursor.moveTo word.rest
        let cursor := if word.escapedBreak then cursor.skipLineBreak else cursor
        if cursor.isAt (· == style.mark) then some (text, cursor.advance 1)
        else
          let (gap, cursor) ← Gap.read? 0 { broken := word.escapedBreak } cursor
          readFrom? style fuel (text ++ gap.text) cursor

/-- Reads a scalar from behind its opening quotation mark. -/
def read? (style : Style) (cursor : Cursor) : Option (List Char × Cursor) :=
  readFrom? style (cursor.rest.length + 1) [] cursor

end SuiteScribe.Yaml.Quoted
