import SuiteScribe.Text.Letters

namespace SuiteScribe

open Text

/-! A suite describes the browser tests of one feature: a header and test cases, each case an
ordered list of steps. -/

inductive Category
  | functional
  | uiVisual
  | formValidation
  | navigation
  | apiIntegration
  | accessibility
  deriving DecidableEq, Repr

namespace Category

def all : List Category :=
  [functional, uiVisual, formValidation, navigation, apiIntegration, accessibility]

def label : Category → String
  | functional => "Functional"
  | uiVisual => "UI/Visual"
  | formValidation => "Form Validation"
  | navigation => "Navigation"
  | apiIntegration => "API Integration"
  | accessibility => "Accessibility"

/-- The word for a category in suite files. -/
def tag : Category → String
  | functional => "functional"
  | uiVisual => "ui_visual"
  | formValidation => "form_validation"
  | navigation => "navigation"
  | apiIntegration => "api_integration"
  | accessibility => "accessibility"

instance : Inhabited Category := ⟨functional⟩

end Category

/-! A target is an element of the page, found by its ARIA role and its accessible name. An empty
name stands for any element of the role. -/

structure Target where
  role : String
  name : String
  deriving DecidableEq, Repr

inductive AssertionKind
  | visible
  | hasText
  | enabled
  | disabled
  | hasUrl
  deriving DecidableEq, Repr

namespace AssertionKind

def all : List AssertionKind :=
  [visible, hasText, enabled, disabled, hasUrl]

def label : AssertionKind → String
  | visible => "Visible"
  | hasText => "Has text"
  | enabled => "Enabled"
  | disabled => "Disabled"
  | hasUrl => "Has URL"

def tag : AssertionKind → String
  | visible => "visible"
  | hasText => "has_text"
  | enabled => "enabled"
  | disabled => "disabled"
  | hasUrl => "has_url"

def needsTarget (kind : AssertionKind) : Bool :=
  kind != hasUrl

def needsExpected (kind : AssertionKind) : Bool :=
  kind == hasText || kind == hasUrl

end AssertionKind

inductive Assertion
  | visible (target : Target)
  | hasText (target : Target) (expected : String)
  | enabled (target : Target)
  | disabled (target : Target)
  | hasUrl (expected : String)
  deriving DecidableEq, Repr

namespace Assertion

def kind : Assertion → AssertionKind
  | visible _ => .visible
  | hasText _ _ => .hasText
  | enabled _ => .enabled
  | disabled _ => .disabled
  | hasUrl _ => .hasUrl

def target? : Assertion → Option Target
  | visible target => some target
  | hasText target _ => some target
  | enabled target => some target
  | disabled target => some target
  | hasUrl _ => none

def expected? : Assertion → Option String
  | hasText _ expected => some expected
  | hasUrl expected => some expected
  | _ => none

end Assertion

inductive ActionKind
  | click
  | fill
  | verify
  | navigate
  | screenshot
  | custom
  deriving DecidableEq, Repr

namespace ActionKind

def all : List ActionKind :=
  [click, fill, verify, navigate, screenshot, custom]

def label : ActionKind → String
  | click => "Click"
  | fill => "Fill"
  | verify => "Verify"
  | navigate => "Navigate"
  | screenshot => "Screenshot"
  | custom => "Custom"

def tag : ActionKind → String
  | click => "click"
  | fill => "fill"
  | verify => "verify"
  | navigate => "navigate"
  | screenshot => "screenshot"
  | custom => "custom"

end ActionKind

/-! An action carries what its kind needs and nothing else. -/

inductive Action
  | click (target : Target)
  | fill (target : Target) (value : String)
  | verify (assertion : Assertion)
  | navigate (path : String)
  | screenshot (name : String)
  | custom (statement : String)
  deriving DecidableEq, Repr

def Action.kind : Action → ActionKind
  | .click _ => .click
  | .fill _ _ => .fill
  | .verify _ => .verify
  | .navigate _ => .navigate
  | .screenshot _ => .screenshot
  | .custom _ => .custom

structure Step where
  description : String
  action : Action
  deriving DecidableEq, Repr

structure TestCase where
  title : String
  objective : String
  steps : List Step
  deriving DecidableEq, Repr

structure Suite where
  featureName : String
  fileBaseName : String
  baseUrl : String
  category : Category
  describeTitle : String
  initialPath : String
  additionalSetup : Option String
  testCases : List TestCase
  deriving DecidableEq, Repr

def Suite.stepCount (suite : Suite) : Nat :=
  (suite.testCases.flatMap (·.steps)).length

/-! A draft is a step as far as it has been described. What its kind needs and it lacks is a
missing field; a draft without missing fields encodes as a step. -/

inductive StepField
  | description
  | targetRole
  | fillValue
  | assertion
  | assertionExpected
  | navigateTarget
  | screenshotName
  | customStatement
  deriving DecidableEq, Repr

def StepField.prompt : StepField → String
  | description => "Step description"
  | targetRole => "Element role (e.g. button, textbox, heading)"
  | fillValue => "Value to fill"
  | assertion => "Assertion"
  | assertionExpected => "Expected value"
  | navigateTarget => "Path to navigate to (e.g. /dashboard)"
  | screenshotName => "Screenshot name"
  | customStatement => "Custom statement"

structure Draft where
  description : String
  kind : ActionKind
  role : Option String := none
  name : Option String := none
  fillValue : Option String := none
  assertion : Option AssertionKind := none
  expected : Option String := none
  navigateTarget : Option String := none
  screenshotName : Option String := none
  customStatement : Option String := none
  deriving DecidableEq, Repr

/-- A draft with one more text in it. An assertion is no text, but a choice. -/
def Draft.filled (draft : Draft) (text : String) : StepField → Draft
  | .description => { draft with description := text }
  | .targetRole => { draft with role := some text, name := none }
  | .fillValue => { draft with fillValue := some text }
  | .assertion => draft
  | .assertionExpected => { draft with expected := some text }
  | .navigateTarget => { draft with navigateTarget := some text }
  | .screenshotName => { draft with screenshotName := some text }
  | .customStatement => { draft with customStatement := some text }

/-! The combined form of a target: the role up to the first white space, and the name after it. -/

def Target.parse (raw : String) : Target :=
  let text := trim raw.toList
  { role := String.ofList (text.takeWhile (!isBlank ·))
    name := String.ofList (trim (text.dropWhile (!isBlank ·))) }

/-- The combined form of a target; the role alone where the name is empty. -/
def Target.combined (target : Target) : String :=
  if target.name.isEmpty then target.role
  else target.role ++ " " ++ target.name

namespace Draft

def present (field : Option String) : Option String :=
  field.bind fun text => if blank text then none else some (trimmed text)

def require (field : Option String) (missing : StepField) : Except StepField String :=
  match present field with
  | some text => .ok text
  | none => .error missing

/-! A role answer without a separate name may hold the name as well. -/

def target? (draft : Draft) : Option Target :=
  (present draft.role).map fun role =>
    match draft.name with
    | some name => { role, name := trimmed name }
    | none => Target.parse role

def requireTarget (draft : Draft) : Except StepField Target :=
  match draft.target? with
  | some target => .ok target
  | none => .error .targetRole

/-! An assertion asks for a target and for an expected text as its kind needs them. -/

def assertionTarget (draft : Draft) (kind : AssertionKind) : Except StepField (Option Target) :=
  if kind.needsTarget then some <$> draft.requireTarget else .ok none

def assertionExpected (draft : Draft) (kind : AssertionKind) : Except StepField (Option String) :=
  if kind.needsExpected then some <$> require draft.expected .assertionExpected else .ok none

/-- The last two arms are for kinds that are given less than they need. -/
def assertionOf : AssertionKind → Option Target → Option String → Except StepField Assertion
  | .visible, some target, _ => .ok (.visible target)
  | .hasText, some target, some expected => .ok (.hasText target expected)
  | .enabled, some target, _ => .ok (.enabled target)
  | .disabled, some target, _ => .ok (.disabled target)
  | .hasUrl, _, some expected => .ok (.hasUrl expected)
  | _, none, _ => .error .targetRole
  | _, _, none => .error .assertionExpected

def requireAssertion (draft : Draft) : Except StepField AssertionKind :=
  match draft.assertion with
  | some kind => .ok kind
  | none => .error .assertion

def encodeAssertion (draft : Draft) : Except StepField Assertion := do
  let kind ← draft.requireAssertion
  let target ← draft.assertionTarget kind
  let expected ← draft.assertionExpected kind
  assertionOf kind target expected

def encodeAction (draft : Draft) : Except StepField Action :=
  match draft.kind with
  | .click => do
      return .click (← draft.requireTarget)
  | .fill => do
      let target ← draft.requireTarget
      return .fill target (← require draft.fillValue .fillValue)
  | .verify => do
      return .verify (← draft.encodeAssertion)
  | .navigate => do
      return .navigate (← require draft.navigateTarget .navigateTarget)
  | .screenshot => do
      return .screenshot (← require draft.screenshotName .screenshotName)
  | .custom => do
      return .custom (← require draft.customStatement .customStatement)

/-- The step that a draft describes, or the first field that it lacks. -/
def encode (draft : Draft) : Except StepField Step := do
  let description ← require (some draft.description) .description
  return { description, action := ← draft.encodeAction }

end Draft

/-! The draft that a step came from: its description, its kind and the fields of that kind. -/

def Draft.ofAssertion (description : String) (assertion : Assertion) : Draft :=
  { description, kind := .verify
    assertion := some assertion.kind
    role := assertion.target?.map (·.role)
    name := assertion.target?.map (·.name)
    expected := assertion.expected? }

def Draft.ofStep (step : Step) : Draft :=
  match step.action with
  | .click target =>
      { description := step.description, kind := .click
        role := some target.role, name := some target.name }
  | .fill target value =>
      { description := step.description, kind := .fill
        role := some target.role, name := some target.name, fillValue := some value }
  | .verify assertion => Draft.ofAssertion step.description assertion
  | .navigate path =>
      { description := step.description, kind := .navigate, navigateTarget := some path }
  | .screenshot name =>
      { description := step.description, kind := .screenshot, screenshotName := some name }
  | .custom statement =>
      { description := step.description, kind := .custom, customStatement := some statement }

/-! What keeps a step from being complete: the first required text that is blank. An accessible
name may be blank. -/

def firstBlank (fields : List (StepField × String)) : Option StepField :=
  (fields.find? fun field => blank field.2).map (·.1)

def Assertion.requiredTexts (assertion : Assertion) : List (StepField × String) :=
  (assertion.target?.map fun target => (StepField.targetRole, target.role)).toList ++
    (assertion.expected?.map fun text => (StepField.assertionExpected, text)).toList

def Action.requiredTexts : Action → List (StepField × String)
  | .click target => [(.targetRole, target.role)]
  | .fill target value => [(.targetRole, target.role), (.fillValue, value)]
  | .verify assertion => assertion.requiredTexts
  | .navigate path => [(.navigateTarget, path)]
  | .screenshot name => [(.screenshotName, name)]
  | .custom statement => [(.customStatement, statement)]

def Step.missing? (step : Step) : Option StepField :=
  firstBlank ((.description, step.description) :: step.action.requiredTexts)

/-! What keeps a suite from being acceptable. -/

inductive Defect
  | blankField (name : String)
  | unnamedCase (number : Nat)
  | incompleteStep (title : String) (number : Nat) (field : StepField)
  deriving DecidableEq, Repr

namespace Defect

def message : Defect → String
  | blankField name => name ++ " must not be empty"
  | unnamedCase number =>
      "test case " ++ toString number ++ " needs a title and an objective"
  | incompleteStep title number field =>
      "test case '" ++ title ++ "', step " ++ toString number ++ ": missing " ++
        String.ofList (lowercaseAll field.prompt.toList)

end Defect

def Suite.requiredTexts (suite : Suite) : List (String × String) :=
  [("feature_name", suite.featureName), ("file_base_name", suite.fileBaseName),
   ("base_url", suite.baseUrl), ("describe_title", suite.describeTitle),
   ("initial_path", suite.initialPath)]

def stepDefect? (title : String) : Nat → List Step → Option Defect
  | _, [] => none
  | number, step :: rest =>
      match step.missing? with
      | some field => some (.incompleteStep title number field)
      | none => stepDefect? title (number + 1) rest

def caseDefect? : Nat → List TestCase → Option Defect
  | _, [] => none
  | number, case :: rest =>
      if blank case.title || blank case.objective then some (.unnamedCase number)
      else
        match stepDefect? case.title 1 case.steps with
        | some defect => some defect
        | none => caseDefect? (number + 1) rest

/-- The first defect: header fields first, then case after case. -/
def Suite.defect? (suite : Suite) : Option Defect :=
  match suite.requiredTexts.find? fun field => blank field.2 with
  | some field => some (.blankField field.1)
  | none => caseDefect? 1 suite.testCases

end SuiteScribe
