import SuiteScribe.Yaml.Value

namespace SuiteScribe.Yaml

/-! From characters to tokens. That a scalar is a key shows only at the colon after it, so each
place where a key may have started is remembered; such a key has to end in its line, within a
limited number of characters. -/

def keyLimit : Nat := 1024

/-- A place where a key may have started: between which tokens, and where in the stream. -/
structure KeyStart where
  position : Nat
  required : Bool
  index : Nat
  line : Nat
  column : Nat

/-- The state of reading. The columns are those of the open block collections, innermost first. The
innermost level of flow collections is apart from the ones around it. -/
structure Lexing where
  cursor : Cursor
  tokens : Array Token := #[]
  columns : List Nat := []
  key : Option KeyStart := none
  outerKeys : List (Option KeyStart) := []
  keyAllowed : Bool := true

namespace Lexing

def inFlow (lexing : Lexing) : Bool :=
  !lexing.outerKeys.isEmpty

/-- The first column that is right of the open block. -/
def inside (lexing : Lexing) : Nat :=
  match lexing.columns with
  | [] => 0
  | column :: _ => column + 1

def push (lexing : Lexing) (token : Token) : Lexing :=
  { lexing with tokens := lexing.tokens.push token }

/-! White space and comments between tokens. Tabs do not count where they would indent, and a byte
order mark at the start of the stream takes up a column. -/

def skipFrom : Nat → Lexing → Lexing
  | 0, lexing => lexing
  | fuel + 1, lexing =>
      let cursor := lexing.cursor
      let cursor :=
        if cursor.index == 0 && cursor.isAt (· == '\uFEFF') then cursor.advance 1 else cursor
      let cursor := cursor.skipWhile fun c =>
        c == ' ' || ((lexing.inFlow || !lexing.keyAllowed) && c == '\t')
      let cursor := if cursor.isAt (· == '#') then cursor.skipWhile (!isBreak ·) else cursor
      match cursor.lineBreak? with
      | none => { lexing with cursor }
      | some (_, next) =>
          skipFrom fuel
            { lexing with cursor := next, keyAllowed := !lexing.inFlow || lexing.keyAllowed }

def skip (lexing : Lexing) : Lexing :=
  skipFrom (lexing.cursor.rest.length + 1) lexing

/-! Keys that may have started. -/

def isStale (cursor : Cursor) (start : KeyStart) : Bool :=
  start.line < cursor.line || start.index + keyLimit < cursor.index

def freshKey? (cursor : Cursor) : Option KeyStart → Option (Option KeyStart)
  | none => some none
  | some start =>
      if isStale cursor start then
        if start.required then none else some none
      else some (some start)

def dropStaleKeys? (lexing : Lexing) : Option Lexing := do
  return { lexing with
    key := ← freshKey? lexing.cursor lexing.key
    outerKeys := ← lexing.outerKeys.mapM (freshKey? lexing.cursor) }

def removeKey? (lexing : Lexing) : Option Lexing :=
  match lexing.key with
  | none => some lexing
  | some start => if start.required then none else some { lexing with key := none }

def saveKey? (lexing : Lexing) : Option Lexing :=
  if lexing.keyAllowed then do
    let cursor := lexing.cursor
    let lexing ← lexing.removeKey?
    return { lexing with
      key := some
        { position := lexing.tokens.size
          required := !lexing.inFlow && lexing.columns.head? == some cursor.column
          index := cursor.index, line := cursor.line, column := cursor.column } }
  else some lexing

/-! Block collections open where the column grows and close where it shrinks. -/

def openBlock (lexing : Lexing) (column position : Nat) (token : Token) : Lexing :=
  if !lexing.inFlow && lexing.inside ≤ column then
    { lexing with
      columns := column :: lexing.columns
      tokens := lexing.tokens.insertIdxIfInBounds position token }
  else lexing

def openBlockHere (lexing : Lexing) (token : Token) : Lexing :=
  lexing.openBlock lexing.cursor.column lexing.tokens.size token

/-- Closes the blocks that start at a column or right of it. -/
def closeBlocks (lexing : Lexing) (column : Nat) : Lexing :=
  if lexing.inFlow then lexing
  else
    let closed := lexing.columns.takeWhile (column ≤ ·)
    { lexing with
      columns := lexing.columns.drop closed.length
      tokens := lexing.tokens ++ closed.map fun _ => Token.blockEnd }

/-! One function for each kind of token. -/

def advance (lexing : Lexing) (count : Nat) : Lexing :=
  { lexing with cursor := lexing.cursor.advance count }

def allowKey (lexing : Lexing) (allowed : Bool) : Lexing :=
  { lexing with keyAllowed := allowed }

def documentMark? (lexing : Lexing) (token : Token) : Option Lexing := do
  let lexing ← (lexing.closeBlocks 0).removeKey?
  return (lexing.allowKey false).push token |>.advance 3

def directive? (lexing : Lexing) : Option Lexing := do
  let lexing ← (lexing.closeBlocks 0).removeKey?
  let (token, cursor) ← Directive.read? (lexing.cursor.advance 1)
  return ({ lexing with cursor }.allowKey false).push token

def openFlow? (lexing : Lexing) (token : Token) : Option Lexing := do
  let lexing ← lexing.saveKey?
  let lexing := { lexing with key := none, outerKeys := lexing.key :: lexing.outerKeys }
  return (lexing.allowKey true).push token |>.advance 1

def leaveFlow (lexing : Lexing) : Lexing :=
  match lexing.outerKeys with
  | [] => lexing
  | key :: outerKeys => { lexing with key, outerKeys }

def closeFlow? (lexing : Lexing) (token : Token) : Option Lexing := do
  let lexing ← lexing.removeKey?
  return (lexing.leaveFlow.allowKey false).push token |>.advance 1

def flowEntry? (lexing : Lexing) : Option Lexing := do
  let lexing ← lexing.removeKey?
  return (lexing.allowKey true).push .flowEntry |>.advance 1

/-- Entries, keys and values of block collections stand where a key may start. -/
def inBlock? (lexing : Lexing) (token : Token) : Option Lexing :=
  if lexing.inFlow then some lexing
  else if lexing.keyAllowed then some (lexing.openBlockHere token)
  else none

def blockEntry? (lexing : Lexing) : Option Lexing := do
  let lexing ← (← lexing.inBlock? .blockSequenceStart).removeKey?
  return (lexing.allowKey true).push .blockEntry |>.advance 1

def key? (lexing : Lexing) : Option Lexing := do
  let lexing ← (← lexing.inBlock? .blockMappingStart).removeKey?
  return (lexing.allowKey (!lexing.inFlow)).push .key |>.advance 1

/-- A value belongs to the key that may have started, or else to an explicit one. -/
def value? (lexing : Lexing) : Option Lexing :=
  match lexing.key with
  | some start =>
      let lexing := { lexing with
        key := none
        tokens := lexing.tokens.insertIdxIfInBounds start.position .key }
      let lexing := lexing.openBlock start.column start.position .blockMappingStart
      some ((lexing.allowKey false).push .value |>.advance 1)
  | none => do
      let lexing ← lexing.inBlock? .blockMappingStart
      return (lexing.allowKey (!lexing.inFlow)).push .value |>.advance 1

def named? (lexing : Lexing) (token : String → Token) : Option Lexing := do
  let lexing ← lexing.saveKey?
  let (name, cursor) ← Property.name? (lexing.cursor.advance 1)
  return ({ lexing with cursor }.allowKey false).push (token name)

def tag? (lexing : Lexing) : Option Lexing := do
  let lexing ← lexing.saveKey?
  let (token, cursor) ← Property.tag? lexing.inFlow lexing.cursor
  return ({ lexing with cursor }.allowKey false).push token

def block? (lexing : Lexing) (style : Block.Style) : Option Lexing := do
  let lexing ← lexing.removeKey?
  let (text, cursor) ← Block.read? style lexing.inside (lexing.cursor.advance 1)
  return ({ lexing with cursor }.allowKey true).push (.scalar (String.ofList text) false)

def quoted? (lexing : Lexing) (style : Quoted.Style) : Option Lexing := do
  let lexing ← lexing.saveKey?
  let (text, cursor) ← Quoted.read? style (lexing.cursor.advance 1)
  return ({ lexing with cursor }.allowKey false).push (.scalar (String.ofList text) false)

/-- After the last line break of a plain scalar a key may start. -/
def plain? (lexing : Lexing) : Option Lexing := do
  let lexing ← lexing.saveKey?
  let (text, broken, cursor) ← Plain.read? lexing.inFlow lexing.inside lexing.cursor
  return ({ lexing with cursor }.allowKey broken).push (.scalar (String.ofList text) true)

def indicators : String := "-?:,[]\x7b\x7d#&*!|>'\"%@`"

def startsPlain (lexing : Lexing) (c : Char) (rest : List Char) : Bool :=
  !(isGap c || isOneOf indicators c) ||
    (c == '-' && !startsWith isBlank rest) ||
    (!lexing.inFlow && (c == '?' || c == ':') && !gapAhead rest)

def token? (lexing : Lexing) (c : Char) (rest : List Char) : Option Lexing :=
  if lexing.cursor.column == 0 && c == '%' then lexing.directive?
  else if lexing.cursor.isAtMarks '-' then lexing.documentMark? .documentStart
  else if lexing.cursor.isAtMarks '.' then lexing.documentMark? .documentEnd
  else if c == '[' then lexing.openFlow? .flowSequenceStart
  else if c == '\x7b' then lexing.openFlow? .flowMappingStart
  else if c == ']' then lexing.closeFlow? .flowSequenceEnd
  else if c == '\x7d' then lexing.closeFlow? .flowMappingEnd
  else if c == ',' then lexing.flowEntry?
  else if c == '-' && gapAhead rest then lexing.blockEntry?
  else if c == '?' && (lexing.inFlow || gapAhead rest) then lexing.key?
  else if c == ':' && (lexing.inFlow || gapAhead rest) then lexing.value?
  else if c == '*' then lexing.named? .alias
  else if c == '&' then lexing.named? .anchor
  else if c == '!' then lexing.tag?
  else if c == '|' && !lexing.inFlow then lexing.block? .literal
  else if c == '>' && !lexing.inFlow then lexing.block? .folded
  else if c == '\'' then lexing.quoted? .single
  else if c == '"' then lexing.quoted? .double
  else if lexing.startsPlain c rest then lexing.plain?
  else none

/-- The end of the stream closes all blocks. -/
def finish? (lexing : Lexing) : Option Lexing :=
  (lexing.closeBlocks 0).removeKey?

def run? : Nat → Lexing → Option Lexing
  | 0, _ => none
  | fuel + 1, lexing => do
      let lexing ← lexing.skip.dropStaleKeys?
      let lexing := lexing.closeBlocks (lexing.cursor.column + 1)
      match lexing.cursor.rest with
      | [] => lexing.finish?
      | c :: rest => run? fuel (← lexing.token? c rest)

end Lexing

/-- The tokens of a stream, if each of its characters is allowed and belongs to one. -/
def Token.list? (stream : List Char) : Option (List Token) :=
  if stream.all isAllowed then
    (Lexing.run? (stream.length + 1) { cursor := { rest := stream } }).map (·.tokens.toList)
  else none

/-! From tokens to nodes. -/

/-- The state of building. An anchor gets the number of names that are known when it is met, also
where its own name is known already. -/
structure Building where
  tokens : List Token
  handles : List (String × String) := []
  names : List (String × Nat) := []
  serial : Nat := 0
  anchored : List Anchored := []

abbrev Build (α : Type) := StateT Building Option α

namespace Build

def peek : Build (Option Token) := do
  return (← get).tokens.head?

def drop : Build Unit :=
  modify fun state => { state with tokens := state.tokens.tail }

/-- Drops a certain token, or fails at any other. -/
def expect (token : Token) : Build Unit := do
  if (← peek) = some token then drop else failure

def nextIs (tokens : List Token) : Build Bool := do
  match ← peek with
  | none => return false
  | some token => return tokens.contains token

/-! Anchors and aliases. -/

def anchor (name : String) : Build (Nat × Nat) := do
  let state ← get
  let number := state.names.length
  let others := state.names.filter (·.1 != name)
  set { state with names := (name, number) :: others, serial := state.serial + 1 }
  return (number, state.serial)

def anchorNode (mark : Option (Nat × Nat)) (node : Node) : Build Node := do
  match mark with
  | none => return node
  | some (number, serial) =>
      modify fun state => { state with anchored := ⟨number, serial, node⟩ :: state.anchored }
      return node

def aliasNode (name : String) : Build Node := do
  match (← get).names.lookup name with
  | none => failure
  | some number => return .alias number

/-! Tags. A handle stands for the text that replaces it. -/

def tagText (handle suffix : String) : Build String := do
  if handle.isEmpty then return suffix
  else
    match (← get).handles.lookup handle with
    | none => failure
    | some replacement => return replacement ++ suffix

structure Properties where
  mark : Option (Nat × Nat) := none
  tag : Option String := none

/-- One more property, if a token of its kind comes next and none came before. -/
def property (found : Properties) : Build Properties := do
  match ← peek with
  | some (.anchor name) =>
      if found.mark.isSome then return found
      drop
      return { found with mark := some (← anchor name) }
  | some (.tag handle suffix) =>
      if found.tag.isSome then return found
      drop
      return { found with tag := some (← tagText handle suffix) }
  | _ => return found

/-- Where a node stands. Only block nodes may be block collections, and only those in a mapping may
be sequences without indentation. -/
inductive Position
  | flow
  | block
  | blockInMapping
  deriving DecidableEq

def absent : Build Node :=
  return .empty none

mutual

def node : Nat → Position → Build Node
  | 0, _ => failure
  | fuel + 1, position => do
      match ← peek with
      | some (.alias name) =>
          drop
          aliasNode name
      | _ =>
          let found ← property (← property {})
          anchorNode found.mark (← content fuel position found)

def content : Nat → Position → Properties → Build Node
  | 0, _, _ => failure
  | fuel + 1, position, found => do
      match ← peek with
      | some .blockEntry =>
          if position = .blockInMapping then return .sequence found.tag (← looseItems fuel)
          else bare found
      | some (.scalar text plain) =>
          drop
          return .scalar found.tag text plain
      | some .flowSequenceStart =>
          drop
          return .sequence found.tag (← flowItems fuel true)
      | some .flowMappingStart =>
          drop
          return .mapping found.tag (← flowEntries fuel true)
      | some .blockSequenceStart =>
          if position = .flow then bare found
          else
            drop
            return .sequence found.tag (← blockItems fuel)
      | some .blockMappingStart =>
          if position = .flow then bare found
          else
            drop
            return .mapping found.tag (← blockEntries fuel)
      | _ => bare found

/-- Properties without content make an empty node. -/
def bare (found : Properties) : Build Node :=
  if found.mark.isSome || found.tag.isSome then return .empty found.tag else failure

def nodeUnless : Nat → Position → List Token → Build Node
  | 0, _, _ => failure
  | fuel + 1, position, ends => do
      if ← nextIs ends then absent else node fuel position

def blockItems : Nat → Build (List Node)
  | 0 => failure
  | fuel + 1 => do
      if ← nextIs [.blockEntry] then
        drop
        let item ← nodeUnless fuel .block [.blockEntry, .blockEnd]
        return item :: (← blockItems fuel)
      else
        expect .blockEnd
        return []

/-- Items of a sequence without indentation, which ends with the last of them. -/
def looseItems : Nat → Build (List Node)
  | 0 => failure
  | fuel + 1 => do
      if ← nextIs [.blockEntry] then
        drop
        let item ← nodeUnless fuel .block [.blockEntry, .key, .value, .blockEnd]
        return item :: (← looseItems fuel)
      else return []

def blockValue : Nat → Build Node
  | 0 => failure
  | fuel + 1 => do
      if ← nextIs [.value] then
        drop
        nodeUnless fuel .blockInMapping [.key, .value, .blockEnd]
      else absent

def blockEntries : Nat → Build (List (Node × Node))
  | 0 => failure
  | fuel + 1 => do
      if ← nextIs [.key] then
        drop
        let key ← nodeUnless fuel .blockInMapping [.key, .value, .blockEnd]
        let value ← blockValue fuel
        return (key, value) :: (← blockEntries fuel)
      else
        expect .blockEnd
        return []

/-- One entry inside a flow sequence makes a mapping of its own. An absent key takes the place of
the token that is there. -/
def singleKey : Nat → Build Node
  | 0 => failure
  | fuel + 1 => do
      if ← nextIs [.value, .flowEntry, .flowSequenceEnd] then
        drop
        absent
      else node fuel .flow

def flowValue : Nat → Token → Build Node
  | 0, _ => failure
  | fuel + 1, last => do
      if ← nextIs [.value] then
        drop
        nodeUnless fuel .flow [.flowEntry, last]
      else absent

def flowItem : Nat → Build Node
  | 0 => failure
  | fuel + 1 => do
      if ← nextIs [.key] then
        drop
        let key ← singleKey fuel
        return .mapping none [(key, ← flowValue fuel .flowSequenceEnd)]
      else node fuel .flow

/-- Items are separated by commas; one more comma may stand behind the last. -/
def flowItems : Nat → Bool → Build (List Node)
  | 0, _ => failure
  | fuel + 1, first => do
      if ← nextIs [.flowSequenceEnd] then
        drop
        return []
      else
        if !first then expect .flowEntry
        if ← nextIs [.flowSequenceEnd] then
          drop
          return []
        else
          let item ← flowItem fuel
          return item :: (← flowItems fuel false)

def flowEntry : Nat → Build (Node × Node)
  | 0 => failure
  | fuel + 1 => do
      if ← nextIs [.key] then
        drop
        let key ← nodeUnless fuel .flow [.value, .flowEntry, .flowMappingEnd]
        return (key, ← flowValue fuel .flowMappingEnd)
      else return (← node fuel .flow, .empty none)

def flowEntries : Nat → Bool → Build (List (Node × Node))
  | 0, _ => failure
  | fuel + 1, first => do
      if ← nextIs [.flowMappingEnd] then
        drop
        return []
      else
        if !first then expect .flowEntry
        if ← nextIs [.flowMappingEnd] then
          drop
          return []
        else
          let entry ← flowEntry fuel
          return entry :: (← flowEntries fuel false)

end

/-! Directives come before the mark that starts a document. -/

def addHandle (handle replacement : String) : Build Unit := do
  let state ← get
  if (state.handles.lookup handle).isSome then failure
  else set { state with handles := (handle, replacement) :: state.handles }

def isKnownVersion (major minor : Nat) : Bool :=
  major == 1 && (minor == 1 || minor == 2)

def directives : Nat → Bool → Build Unit
  | 0, _ => failure
  | fuel + 1, versionSeen => do
      match ← peek with
      | some (.versionDirective major minor) =>
          if versionSeen || !isKnownVersion major minor then failure
          else
            drop
            directives fuel true
      | some (.tagDirective handle replacement) =>
          drop
          addHandle handle replacement
          directives fuel versionSeen
      | _ => return ()

def standardHandles : List (String × String) :=
  [("!", "!"), ("!!", "tag:yaml.org,2002:")]

/-- Handles that a document replaces come before the standard ones. -/
def useStandardHandles : Build Unit :=
  modify fun state => { state with handles := state.handles ++ standardHandles }

def root (fuel : Nat) : Build Node := do
  if (← peek).isNone then absent
  else
    nodeUnless fuel .block [.documentStart, .documentEnd]

def isDirective : Token → Bool
  | .versionDirective _ _ => true
  | .tagDirective _ _ => true
  | _ => false

/-- The root of the only document. A document without directives needs no mark. -/
def onlyRoot (fuel : Nat) : Build Node := do
  let first ← peek
  let marked := first = some .documentStart || first.any isDirective
  directives fuel false
  useStandardHandles
  if marked then expect .documentStart
  let node ← if marked then markedRoot fuel else node fuel .block
  modify fun state => { state with tokens := state.tokens.dropWhile (· == .documentEnd) }
  if (← peek).isSome then failure else return node
where
  markedRoot (fuel : Nat) : Build Node := do
    let next ← peek
    if next.isNone || next.any isDirective then absent else root fuel

def fuel (tokens : List Token) : Nat :=
  4 * tokens.length + 8

end Build

/-- The document of a list of tokens, which may be empty. -/
def Document.ofTokens? (tokens : List Token) : Option Document :=
  ((Build.onlyRoot (Build.fuel tokens)).run { tokens }).map fun (root, state) =>
    { root, anchored := state.anchored }

/-- What a stream holds: nothing at all, or one document. -/
def Document.ofStream? (stream : List Char) : Option (Option Document) := do
  match ← Token.list? stream with
  | [] => return none
  | tokens => return some (← Document.ofTokens? tokens)

end SuiteScribe.Yaml
