import SuiteScribe.Suite.Basic
import SuiteScribe.Yaml.Document
import SuiteScribe.Yaml.Layout

namespace SuiteScribe.SuiteFile

open Yaml

/-! Why a well-formed document is not a suite: a place in the document, and what is wrong there. -/

inductive Segment
  | key (name : String)
  | item (index : Nat)
  | unnamed
  deriving DecidableEq, Repr

abbrev Trail := List Segment

/-- A trail as text: keys with dots between them, indices in brackets. -/
def Trail.textFrom (before : String) : Trail → String
  | [] => before
  | .item index :: rest => textFrom (before ++ "[" ++ toString index ++ "]") rest
  | .key name :: rest =>
      textFrom ((if before.isEmpty then "" else before ++ ".") ++ name) rest
  | .unnamed :: rest =>
      textFrom ((if before.isEmpty then "" else before ++ ".") ++ "?") rest

def Trail.text (trail : Trail) : String :=
  Trail.textFrom "" trail

/-- What stands where a text was expected. -/
inductive Shape
  | null
  | sequence
  | mapping
  | tagged
  deriving DecidableEq, Repr

def Shape.label : Shape → String
  | null => "unit value"
  | sequence => "sequence"
  | mapping => "map"
  | tagged => "enum"

inductive Problem
  | missingField (name : String)
  | unknownVariant (given : String) (known : List String)
  | notText (found : Shape)
  | other
  deriving DecidableEq, Repr

structure Mismatch where
  trail : Trail
  problem : Problem
  deriving DecidableEq, Repr

def codeQuoted (text : String) : String :=
  "`" ++ text ++ "`"

def Problem.message? : Problem → Option String
  | missingField name => some ("missing field " ++ codeQuoted name)
  | unknownVariant given known =>
      some ("unknown variant " ++ codeQuoted given ++ ", expected one of " ++
        ", ".intercalate (known.map codeQuoted))
  | notText found =>
      some ("invalid type: " ++ found.label ++ ", expected a string, number or boolean")
  | other => none

def Mismatch.message? (mismatch : Mismatch) : Option String :=
  mismatch.problem.message?.map fun text =>
    if mismatch.trail.isEmpty then text else mismatch.trail.text ++ ": " ++ text

/-! The action of a step, from the entries of its mapping. Texts may be given as numbers and
booleans. A record is a mapping by field names or field numbers, or a sequence of its fields. -/

abbrev Checked (α : Type) := Except Problem α

namespace Payload

def text : Value → Checked String
  | .null => .error (.notText .null)
  | .bool value => .ok (if value then "true" else "false")
  | .integer value => .ok (toString value)
  | .float value => .ok (String.ofList value.text)
  | .text value => .ok value
  | .sequence _ => .error (.notText .sequence)
  | .mapping _ => .error (.notText .mapping)
  | .tagged _ _ => .error (.notText .tagged)

/-- The field that a key names, if any. -/
def field? (names : List String) : Value → Checked (Option String)
  | .text name => .ok (if names.contains name then some name else none)
  | .integer (.ofNat number) => .ok names[number]?
  | _ => .error .other

/-- Reads a field that has not been read yet. -/
def once (current : Option α) (found : Checked α) : Checked (Option α) :=
  if current.isSome then .error .other else found.map some

def required (name : String) : Option α → Checked α
  | some value => .ok value
  | none => .error (.missingField name)

def gather (names : List String) (set : σ → String → Value → Checked σ) :
    σ → List (Value × Value) → Checked σ
  | state, [] => .ok state
  | state, (key, value) :: rest => do
      match ← field? names key with
      | some name => gather names set (← set state name value) rest
      | none => gather names set state rest

/-! Targets. -/

structure TargetFields where
  role : Option String := none
  name : Option String := none

def TargetFields.set (fields : TargetFields) (name : String) (value : Value) :
    Checked TargetFields := do
  if name == "role" then return { fields with role := ← once fields.role (text value) }
  else return { fields with name := ← once fields.name (text value) }

def target : Value → Checked Target
  | .mapping entries => do
      let fields ← gather ["role", "name"] TargetFields.set {} entries
      return { role := ← required "role" fields.role, name := fields.name.getD "" }
  | .sequence [role] => do
      return { role := ← text role, name := "" }
  | .sequence (role :: name :: rest) => do
      let target : Target := { role := ← text role, name := ← text name }
      if rest.isEmpty then return target else throw .other
  | _ => .error .other

/-! Variants are chosen by their tag or their number. -/

def variant (all : List α) (tag : α → String) : Value → Checked α
  | .text name =>
      match all.find? (tag · == name) with
      | some found => .ok found
      | none => .error (.unknownVariant name (all.map tag))
  | .integer (.ofNat number) =>
      match all[number]? with
      | some found => .ok found
      | none => .error .other
  | _ => .error .other

/-- The variant that an entry names, and the other entries. -/
def splitVariant (tagName : String) (all : List α) (tag : α → String) :
    Option α → List (Value × Value) → Checked (Option α × List (Value × Value))
  | found, [] => .ok (found, [])
  | found, (key, value) :: rest => do
      if isTag key then
        let found ← once found (variant all tag value)
        splitVariant tagName all tag found rest
      else
        let (found, others) ← splitVariant tagName all tag found rest
        return (found, (key, value) :: others)
where
  isTag : Value → Bool
    | .text name => name == tagName
    | _ => false

/-! Assertions. -/

structure AssertionFields where
  target : Option Target := none
  expected : Option String := none

def AssertionFields.set (fields : AssertionFields) (name : String) (value : Value) :
    Checked AssertionFields := do
  if name == "target" then
    return { fields with target := ← once fields.target (Payload.target value) }
  else return { fields with expected := ← once fields.expected (text value) }

def AssertionFields.names (kind : AssertionKind) : List String :=
  (if kind.needsTarget then ["target"] else []) ++
    (if kind.needsExpected then ["expected"] else [])

def AssertionFields.assertion (fields : AssertionFields) : AssertionKind → Checked Assertion
  | .visible => return .visible (← required "target" fields.target)
  | .hasText =>
      return .hasText (← required "target" fields.target) (← required "expected" fields.expected)
  | .enabled => return .enabled (← required "target" fields.target)
  | .disabled => return .disabled (← required "target" fields.target)
  | .hasUrl => return .hasUrl (← required "expected" fields.expected)

/-- A sequence holds all fields in order and nothing else. -/
def listed (set : σ → String → Value → Checked σ) : σ → List String → List Value → Checked σ
  | state, [], [] => .ok state
  | state, name :: names, value :: values => do
      listed set (← set state name value) names values
  | _, _, _ => .error .other

def assertion : Value → Checked Assertion
  | .mapping entries => do
      let (found, others) ← splitVariant "type" AssertionKind.all AssertionKind.tag none entries
      let kind ← required "type" found
      let fields ← gather (AssertionFields.names kind) AssertionFields.set {} others
      fields.assertion kind
  | .sequence [] => .error (.missingField "type")
  | .sequence (first :: values) => do
      let kind ← variant AssertionKind.all AssertionKind.tag first
      let fields ← listed AssertionFields.set {} (AssertionFields.names kind) values
      fields.assertion kind
  | _ => .error .other

/-! Actions. -/

structure ActionFields where
  target : Option Target := none
  text : Option String := none
  assertion : Option Assertion := none

def ActionFields.set (fields : ActionFields) (name : String) (value : Value) :
    Checked ActionFields := do
  if name == "target" then
    return { fields with target := ← once fields.target (Payload.target value) }
  else if name == "assertion" then
    return { fields with assertion := ← once fields.assertion (Payload.assertion value) }
  else return { fields with text := ← once fields.text (Payload.text value) }

def ActionFields.names : ActionKind → List String
  | .click => ["target"]
  | .fill => ["target", "value"]
  | .verify => ["assertion"]
  | .navigate => ["path"]
  | .screenshot => ["name"]
  | .custom => ["statement"]

def ActionFields.action (fields : ActionFields) : ActionKind → Checked Action
  | .click => return .click (← required "target" fields.target)
  | .fill => return .fill (← required "target" fields.target) (← required "value" fields.text)
  | .verify => return .verify (← required "assertion" fields.assertion)
  | .navigate => return .navigate (← required "path" fields.text)
  | .screenshot => return .screenshot (← required "name" fields.text)
  | .custom => return .custom (← required "statement" fields.text)

def action (entries : List (Value × Value)) : Checked Action := do
  let (found, others) ← splitVariant "action" ActionKind.all ActionKind.tag none entries
  let kind ← required "action" found
  let fields ← gather (ActionFields.names kind) ActionFields.set {} others
  fields.action kind

end Payload

/-! Reading records from nodes whose form is known. Errors carry the trail to where they are, and
the first one in the order of the document counts. -/

abbrev Reading := Walk Mismatch

namespace Reading

def refuse (trail : Trail) (problem : Problem := .other) : Reading α :=
  throw ⟨trail, problem⟩

def follow (trail : Trail) (node : Node) : Reading Node :=
  Walk.follow ⟨trail, .other⟩ node

/-- The text of a scalar as it is written, whatever it might mean. -/
def rawText (trail : Trail) (node : Node) : Reading String := do
  match ← follow trail node with
  | .scalar _ text _ => return text
  | _ => refuse trail

/-- An absent node is an empty collection. -/
def isAbsent : Node → Bool
  | .scalar _ text plain => text.isEmpty && plain
  | _ => false

/-! The name of a key, and how a trail shows it. -/

def segment : Node → Segment
  | .scalar _ text _ => .key text
  | _ => .unnamed

def entry (trail : Trail) (read : σ → String → Trail → Node → Reading σ) (state : σ)
    (entry : Node × Node) : Reading σ := do
  let name ← rawText trail entry.1
  read state name (trail ++ [segment entry.1]) entry.2

/-- Reads a record entry by entry. -/
def record (trail : Trail) (read : σ → String → Trail → Node → Reading σ) (start : σ)
    (node : Node) : Reading σ := do
  let node ← follow trail node
  match node with
  | .mapping _ entries => entries.foldlM (entry trail read) start
  | _ => if isAbsent node then return start else refuse trail

def itemsFrom (trail : Trail) (read : Trail → Node → Reading α) : Nat → List Node →
    Reading (List α)
  | _, [] => return []
  | index, node :: rest => do
      let first ← read (trail ++ [.item index]) node
      return first :: (← itemsFrom trail read (index + 1) rest)

def items (trail : Trail) (read : Trail → Node → Reading α) (node : Node) :
    Reading (List α) := do
  let node ← follow trail node
  match node with
  | .sequence _ nodes => itemsFrom trail read 0 nodes
  | _ => if isAbsent node then return [] else refuse trail

/-- Reads a field that has not been read yet. -/
def once (trail : Trail) (current : Option α) (read : Reading α) : Reading (Option α) := do
  if current.isSome then refuse trail else return some (← read)

def required (trail : Trail) (name : String) : Option α → Reading α
  | some value => return value
  | none => refuse trail (.missingField name)

def ofChecked (trail : Trail) : Except Problem α → Reading α
  | .ok value => return value
  | .error problem => refuse trail problem

/-! A text that may be left out: absent and null stand for none. -/

def isNullScalar (tag : Option String) (text : String) (plain : Bool) : Bool :=
  plain && Scalar.resolve tag text.toList plain == .null

def optionalText (trail : Trail) (node : Node) : Reading (Option String) := do
  match ← follow trail node with
  | .scalar tag text plain =>
      if isNullScalar tag text plain then return none
      else if plain && tag == some (Scalar.coreTag "null") then refuse trail
      else return some text
  | _ => refuse trail

def bool (trail : Trail) (node : Node) : Reading Bool := do
  match ← follow trail node with
  | .scalar _ text true =>
      match Scalar.bool? text.toList with
      | some value => return value
      | none => refuse trail
  | _ => refuse trail

end Reading

open Reading

/-! Suites from documents. -/

/-! The word for a category, plain or as the tag of a null. -/

def category (trail : Trail) (node : Node) : Reading Category := do
  let node ← follow trail node
  let known (trail : Trail) (name : String) : Reading Category :=
    ofChecked trail (Payload.variant Category.all Category.tag (.text name))
  match Scalar.localName? (Value.nodeTag node) with
  | some name =>
      let found ← known [] name
      match node with
      | .scalar _ text plain => if isNullScalar none text plain then return found else refuse trail
      | _ => refuse trail
  | none =>
      match node with
      | .scalar _ text _ => known trail text
      | _ => refuse trail

/-! Steps. The description is read where it stands; all other entries are kept until the
description is known to be there. -/

def describedBy (trail : Trail) (node : Node) : Reading String := do
  let node ← follow trail node
  match Scalar.localName? (Value.nodeTag node), node with
  | some _, _ => refuse trail (.notText .tagged)
  | none, .sequence _ _ => refuse trail (.notText .sequence)
  | none, .mapping _ _ => refuse trail (.notText .mapping)
  | none, node => do
      let value ← Value.untagged ⟨trail, .other⟩ 0 node
      ofChecked trail (Payload.text value)

structure StepFields where
  description : Option String := none
  others : List (Value × Value) := []

/-- Reads an entry of a step; values inside may nest as deep as given. -/
def StepFields.read (depth : Nat) (fields : StepFields) (name : String) (trail : Trail)
    (node : Node) : Reading StepFields := do
  if name == "description" then
    return { fields with description := ← once trail fields.description (describedBy trail node) }
  else
    let value ← Value.untagged ⟨trail, .other⟩ depth node
    return { fields with others := fields.others ++ [(.text name, value)] }

def step (depth : Nat) (trail : Trail) (node : Node) : Reading Step := do
  let fields ← record trail (StepFields.read depth) {} node
  let description ← required trail "description" fields.description
  return { description, action := ← ofChecked trail (Payload.action fields.others) }

/-! Test cases. -/

structure CaseFields where
  title : Option String := none
  objective : Option String := none
  steps : Option (List Step) := none

def CaseFields.read (depth : Nat) (fields : CaseFields) (name : String) (trail : Trail)
    (node : Node) : Reading CaseFields := do
  if name == "title" then
    return { fields with title := ← once trail fields.title (rawText trail node) }
  else if name == "objective" then
    return { fields with objective := ← once trail fields.objective (rawText trail node) }
  else if name == "steps" then
    return { fields with steps := ← once trail fields.steps (items trail (step (depth - 2)) node) }
  else return fields

def testCase (depth : Nat) (trail : Trail) (node : Node) : Reading TestCase := do
  let fields ← record trail (CaseFields.read depth) {} node
  return {
    title := ← required trail "title" fields.title
    objective := ← required trail "objective" fields.objective
    steps := fields.steps.getD [] }

/-! The suite itself. -/

structure SuiteFields where
  featureName : Option String := none
  fileBaseName : Option String := none
  baseUrl : Option String := none
  category : Option Category := none
  describeTitle : Option String := none
  initialPath : Option String := none
  additionalSetup : Option (Option String) := none
  testCases : Option (List TestCase) := none

def SuiteFields.read (depth : Nat) (fields : SuiteFields) (name : String) (trail : Trail)
    (node : Node) : Reading SuiteFields := do
  let text (current : Option String) := once trail current (rawText trail node)
  if name == "feature_name" then
    return { fields with featureName := ← text fields.featureName }
  else if name == "file_base_name" then
    return { fields with fileBaseName := ← text fields.fileBaseName }
  else if name == "base_url" then
    return { fields with baseUrl := ← text fields.baseUrl }
  else if name == "category" then
    return { fields with
      category := ← once trail fields.category (SuiteFile.category trail node) }
  else if name == "describe_title" then
    return { fields with describeTitle := ← text fields.describeTitle }
  else if name == "initial_path" then
    return { fields with initialPath := ← text fields.initialPath }
  else if name == "additional_setup" then
    return { fields with
      additionalSetup := ← once trail fields.additionalSetup (optionalText trail node) }
  else if name == "test_cases" then
    return { fields with
      testCases := ← once trail fields.testCases (items trail (testCase (depth - 2)) node) }
  else return fields

/-- Missing fields are looked for in the order of the record. -/
def SuiteFields.suite (trail : Trail) (fields : SuiteFields) : Reading Suite := do
  return {
    featureName := ← required trail "feature_name" fields.featureName
    fileBaseName := ← required trail "file_base_name" fields.fileBaseName
    baseUrl := ← required trail "base_url" fields.baseUrl
    category := fields.category.getD default
    describeTitle := ← required trail "describe_title" fields.describeTitle
    initialPath := ← required trail "initial_path" fields.initialPath
    additionalSetup := fields.additionalSetup.join
    testCases := fields.testCases.getD [] }

def suite (depth : Nat) (trail : Trail) (node : Node) : Reading Suite := do
  let fields ← record trail (SuiteFields.read depth) {} node
  fields.suite trail

/-! Whole documents. What is wrong is told only of documents that are sound by themselves. -/

/-- A stream without a document reads as an absent node. -/
def documentOf? (source : String) : Option Document :=
  (Document.ofStream? source.toList).map (·.getD { root := .empty none })

def detail? (document : Document) (mismatch : Mismatch) : Option String :=
  if document.value?.isSome then mismatch.message? else none

/-- Reads the root of a document, with the depth that is left inside it. -/
def readRoot (read : Nat → Trail → Node → Reading α) (source : String) :
    Except (Option String) α :=
  match documentOf? source with
  | none => .error none
  | some document =>
      match Walk.run document (read (depthLimit - 1) [] document.root) with
      | .ok value => .ok value
      | .error mismatch => .error (detail? document mismatch)

def readStep (source : String) : Except (Option String) Step :=
  readRoot step source

def readSuite (source : String) : Except (Option String) Suite :=
  readRoot suite source

/-! Suites as trees. A step is one mapping that holds its description and the fields of its
action. -/

abbrev Entries := List (String × Tree)

def targetEntries (target : Target) : Entries :=
  [("role", .text target.role), ("name", .text target.name)]

def targetEntry (target : Target) : String × Tree :=
  ("target", .mapping (targetEntries target))

def assertionEntries (assertion : Assertion) : Entries :=
  ("type", .text assertion.kind.tag) ::
    (assertion.target?.map targetEntry).toList ++
      (assertion.expected?.map fun text => ("expected", Tree.text text)).toList

def actionEntries (action : Action) : Entries :=
  ("action", .text action.kind.tag) ::
    match action with
    | .click target => [targetEntry target]
    | .fill target value => [targetEntry target, ("value", .text value)]
    | .verify assertion => [("assertion", .mapping (assertionEntries assertion))]
    | .navigate path => [("path", .text path)]
    | .screenshot name => [("name", .text name)]
    | .custom statement => [("statement", .text statement)]

def stepEntries (step : Step) : Entries :=
  ("description", .text step.description) :: actionEntries step.action

def caseEntries (case : TestCase) : Entries :=
  [("title", .text case.title), ("objective", .text case.objective),
   ("steps", .sequence (case.steps.map fun step => .mapping (stepEntries step)))]

def suiteEntries (suite : Suite) : Entries :=
  [("feature_name", .text suite.featureName), ("file_base_name", .text suite.fileBaseName),
   ("base_url", .text suite.baseUrl), ("category", .text suite.category.tag),
   ("describe_title", .text suite.describeTitle), ("initial_path", .text suite.initialPath)] ++
  (suite.additionalSetup.map fun text => ("additional_setup", Tree.text text)).toList ++
  [("test_cases", .sequence (suite.testCases.map fun case => .mapping (caseEntries case)))]

def render (suite : Suite) : String :=
  Tree.renderEntries (suiteEntries suite)

end SuiteScribe.SuiteFile
