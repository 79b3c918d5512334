import SuiteScribe.Number
import SuiteScribe.Yaml.Token

namespace SuiteScribe.Yaml

/-! Nodes of a document. An alias stands for the node that was anchored under its number. -/

inductive Node
  | alias (number : Nat)
  | scalar (tag : Option String) (text : String) (plain : Bool)
  | sequence (tag : Option String) (items : List Node)
  | mapping (tag : Option String) (entries : List (Node × Node))

/-- What an absent node is. -/
def Node.empty (tag : Option String) : Node :=
  .scalar tag "" true

/-! The size of a node counts scalars and aliases once, and collections twice: for their start and
for their end. -/

mutual

def Node.size : Node → Nat
  | .alias _ => 1
  | .scalar _ _ _ => 1
  | .sequence _ items => 2 + Node.sizeItems items
  | .mapping _ entries => 2 + Node.sizeEntries entries

def Node.sizeItems : List Node → Nat
  | [] => 0
  | item :: rest => item.size + Node.sizeItems rest

def Node.sizeEntries : List (Node × Node) → Nat
  | [] => 0
  | (key, value) :: rest => key.size + value.size + Node.sizeEntries rest

end

/-- An anchored node. The serial number tells which anchor came first. -/
structure Anchored where
  number : Nat
  serial : Nat
  node : Node

structure Document where
  root : Node
  anchored : List Anchored := []

namespace Document

def laterOf (best : Option Anchored) (next : Anchored) : Option Anchored :=
  match best with
  | none => some next
  | some found => if found.serial < next.serial then some next else some found

/-- The node that was anchored last under a number. -/
def find? (document : Document) (number : Nat) : Option Node :=
  ((document.anchored.filter (·.number == number)).foldl laterOf none).map (·.node)

end Document

/-! Walking through a document. Aliases are followed where they are met. How often that may happen
depends on the size of the document, and collections may nest only so deep. -/

abbrev Walk (ε : Type) := ReaderT Document (StateT Nat (Except ε))

def depthLimit : Nat := 128

namespace Document

def followLimit (document : Document) : Nat :=
  100 * document.root.size

end Document

namespace Walk

def run (document : Document) (walk : Walk ε α) : Except ε α :=
  (walk document 0).map (·.1)

/-- The node that a node stands for. -/
def follow (refusal : ε) (node : Node) : Walk ε Node := do
  match node with
  | .alias number =>
      let document ← read
      let count := (← get) + 1
      set count
      if document.followLimit < count then throw refusal
      else
        match document.find? number with
        | some found => return found
        | none => throw refusal
  | node => return node

end Walk

open Number Text

/-! What a scalar means. A plain one may be null, a boolean or a number; a quoted one is text. A tag
of the core schema decides the kind, and a local tag, which starts with an exclamation mark, leaves
the meaning to the application. -/

inductive Scalar
  | null
  | bool (value : Bool)
  | integer (value : Int)
  | float (value : Binary64)
  | text (value : List Char)
  | tagged (name : String)
  | invalid
  deriving DecidableEq, Repr

namespace Scalar

def isNull (text : List Char) : Bool :=
  ["~", "null", "Null", "NULL"].contains (String.ofList text)

def bool? (text : List Char) : Option Bool :=
  if ["true", "True", "TRUE"].contains (String.ofList text) then some true
  else if ["false", "False", "FALSE"].contains (String.ofList text) then some false
  else none

/-! Integers are decimal without leading zeros, or have the prefix of another base. They fit into
128 bits. -/

def unsigned (text : List Char) : List Char :=
  match text with
  | '-' :: rest => rest
  | '+' :: rest => rest
  | rest => rest

/-- Digits that start with a needless zero are text. -/
def isZeroFilled (text : List Char) : Bool :=
  let digits := unsigned text
  1 < digits.length && digits.head? == some '0' && digits.all Char.isDigit

def magnitude? (text : List Char) : Option Nat :=
  match text with
  | '0' :: 'x' :: digits => numberIn? 16 digits
  | '0' :: 'o' :: digits => numberIn? 8 digits
  | '0' :: 'b' :: digits => numberIn? 2 digits
  | digits => if isZeroFilled digits then none else numberIn? 10 digits

/-- The first number that so many bits cannot hold. -/
def beyondBits (bits : Nat) : Int :=
  Int.ofNat (Nat.pow 2 bits)

def within (low high value : Int) : Option Int :=
  if low ≤ value ∧ value < high then some value else none

def integer? (text : List Char) : Option Int :=
  match text with
  | '-' :: rest =>
      (magnitude? rest).bind fun size =>
        within (-beyondBits 127) (beyondBits 127) (-Int.ofNat size)
  | '+' :: rest =>
      (magnitude? rest).bind fun size => within 0 (beyondBits 128) (Int.ofNat size)
  | rest => (magnitude? rest).bind fun size => within 0 (beyondBits 128) (Int.ofNat size)

/-- Most readers of integers stop at 64 bits. -/
def isWide (value : Int) : Bool :=
  (within (-beyondBits 63) (beyondBits 64) value).isNone

/-! Floating-point numbers. A numeral beyond their range is text. -/

def finite? (negative : Bool) (text : List Char) : Option Binary64 :=
  (Decimal.ofNumeral? text).bind fun number =>
    let value := Binary64.ofDecimal negative number
    if value.isFinite then some value else none

def isInfinity (text : List Char) : Bool :=
  [".inf", ".Inf", ".INF"].contains (String.ofList text)

def isNotANumber (text : List Char) : Bool :=
  [".nan", ".NaN", ".NAN"].contains (String.ofList text)

def float? (text : List Char) : Option Binary64 :=
  if isNotANumber text then some .nan
  else
    let (negative, rest) :=
      match text with
      | '-' :: rest => (true, rest)
      | '+' :: rest => (false, rest)
      | rest => (false, rest)
    if isInfinity rest then some (.infinite negative) else finite? negative rest

def ofPlain (text : List Char) : Scalar :=
  if text.isEmpty || isNull text then .null
  else
    match bool? text, integer? text with
    | some value, _ => .bool value
    | none, some value => .integer value
    | none, none =>
        if isZeroFilled text then .text text
        else
          match float? text with
          | some value => .float value
          | none => .text text

/-! Tags. -/

def localName? (tag : Option String) : Option String :=
  tag.bind fun tag =>
    match tag.toList with
    | '!' :: name => some (String.ofList name)
    | _ => none

def coreTag (kind : String) : String :=
  "tag:yaml.org,2002:" ++ kind

def orInvalid (value : Option Scalar) : Scalar :=
  value.getD .invalid

def ofCore? (tag : String) (text : List Char) : Option Scalar :=
  if tag = coreTag "bool" then some (orInvalid ((bool? text).map .bool))
  else if tag = coreTag "int" then some (orInvalid ((integer? text).map .integer))
  else if tag = coreTag "float" then some (orInvalid ((float? text).map .float))
  else if tag = coreTag "null" then some (if isNull text then .null else .invalid)
  else none

def untagged (text : List Char) (plain : Bool) : Scalar :=
  if plain then ofPlain text else .text text

def resolve (tag : Option String) (text : List Char) (plain : Bool) : Scalar :=
  match tag, localName? tag with
  | none, _ => untagged text plain
  | some _, some name => .tagged name
  | some tag, none => (ofCore? tag text).getD (.text text)

end Scalar

/-! Values: what nodes mean, without aliases and styles. -/

inductive Value
  | null
  | bool (value : Bool)
  | integer (value : Int)
  | float (value : Binary64)
  | text (value : String)
  | sequence (items : List Value)
  | mapping (entries : List (Value × Value))
  | tagged (name : String) (content : Value)

namespace Value

/-! Equality of values. The order of entries does not matter. -/

mutual

def same : Value → Value → Bool
  | .null, .null => true
  | .bool a, .bool b => a == b
  | .integer a, .integer b => a == b
  | .float a, .float b => a.same b
  | .text a, .text b => a == b
  | .sequence a, .sequence b => sameItems a b
  | .mapping a, .mapping b => a.length == b.length && sameEntries a b
  | .tagged name a, .tagged other b => name == other && same a b
  | _, _ => false

def sameItems : List Value → List Value → Bool
  | [], [] => true
  | a :: as, b :: bs => same a b && sameItems as bs
  | _, _ => false

def sameEntries : List (Value × Value) → List (Value × Value) → Bool
  | [], _ => true
  | (key, value) :: rest, others =>
      others.any (fun other => same key other.1 && same value other.2) && sameEntries rest others

end

def repeats : List Value → Bool
  | [] => false
  | key :: rest => rest.any (same key) || repeats rest

/-! From nodes to values, level by level. The reader of what lies inside a collection is missing
where the limit of depth is reached. -/

def ofScalar (refusal : ε) : Scalar → Except ε Value
  | .null => .ok .null
  | .bool value => .ok (.bool value)
  | .integer value => if Scalar.isWide value then .error refusal else .ok (.integer value)
  | .float value => .ok (.float value)
  | .text value => .ok (.text (String.ofList value))
  | .tagged _ => .error refusal
  | .invalid => .error refusal

def readEntry (inner : Node → Walk ε Value) (entry : Node × Node) : Walk ε (Value × Value) := do
  return (← inner entry.1, ← inner entry.2)

def ofContent (refusal : ε) (inner : Option (Node → Walk ε Value)) : Node → Walk ε Value
  | .alias _ => throw refusal
  | .scalar tag content plain =>
      liftExcept (ofScalar refusal (Scalar.resolve tag content.toList plain))
  | .sequence _ items =>
      match inner with
      | none => throw refusal
      | some inner => return .sequence (← items.mapM inner)
  | .mapping _ entries =>
      match inner with
      | none => throw refusal
      | some inner => return .mapping (← entries.mapM (readEntry inner))
where
  liftExcept {α : Type} (result : Except ε α) : Walk ε α :=
    fun _ count => result.map fun value => (value, count)

def nodeTag : Node → Option String
  | .alias _ => none
  | .scalar tag _ _ => tag
  | .sequence tag _ => tag
  | .mapping tag _ => tag

def withoutTag : Node → Node
  | .alias number => .alias number
  | .scalar _ content plain => .scalar none content plain
  | .sequence _ items => .sequence none items
  | .mapping _ entries => .mapping none entries

/-- Values without local tags. Keys may repeat. -/
def untaggedLevel (refusal : ε) (inner : Option (Node → Walk ε Value)) (node : Node) :
    Walk ε Value := do
  let node ← Walk.follow refusal node
  if (Scalar.localName? (nodeTag node)).isSome then throw refusal
  else ofContent refusal inner node

def untagged (refusal : ε) : Nat → Node → Walk ε Value
  | 0 => untaggedLevel refusal none
  | depth + 1 => untaggedLevel refusal (some (untagged refusal depth))

def distinct : Value → Walk Unit Value
  | .mapping entries =>
      if repeats (entries.map (·.1)) then throw () else return .mapping entries
  | value => return value

/-- Values of any kind. A local tag has a name, and keys do not repeat. -/
def generalLevel (inner : Option (Node → Walk Unit Value)) (node : Node) :
    Walk Unit Value := do
  let node ← Walk.follow () node
  match Scalar.localName? (nodeTag node) with
  | none => distinct (← ofContent () inner node)
  | some name =>
      if name.isEmpty then throw ()
      else return .tagged name (← distinct (← ofContent () inner (withoutTag node)))

def general : Nat → Node → Walk Unit Value
  | 0 => generalLevel none
  | depth + 1 => generalLevel (some (general depth))

end Value

/-- The value of a document as such, whatever it is used for. -/
def Document.value? (document : Document) : Option Value :=
  (Walk.run document (Value.general depthLimit document.root)).toOption

end SuiteScribe.Yaml
