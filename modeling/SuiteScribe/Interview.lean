import SuiteScribe.Suite.Menu

namespace SuiteScribe

/-! Notices are what a run reports besides its output. -/

inductive Level
  | debug
  | info
  | warn
  deriving DecidableEq, Repr

namespace Level

def name : Level → String
  | debug => "debug"
  | info => "info"
  | warn => "warn"

def rank : Level → Nat
  | debug => 0
  | info => 1
  | warn => 2

end Level

structure Notice where
  level : Level
  text : String
  deriving DecidableEq, Repr

namespace Interview

/-! An interview goes by turns. A turn makes its remarks in order and then either asks the next
question or ends with a result. The state of an interview is the question that is open. -/

inductive Remark
  | say (text : String)
  | note (notice : Notice)
  deriving DecidableEq, Repr

inductive Next (σ α : Type)
  | ask (question : σ)
  | finish (result : α)

structure Turn (σ α : Type) where
  remarks : List Remark
  next : Next σ α

namespace Turn

def ask (question : σ) : Turn σ α :=
  { remarks := [], next := .ask question }

def finish (result : α) : Turn σ α :=
  { remarks := [], next := .finish result }

def after (remarks : List Remark) (turn : Turn σ α) : Turn σ α :=
  { turn with remarks := remarks ++ turn.remarks }

/-- The same question once more, after a hint. -/
def retry (hint : String) (question : σ) : Turn σ α :=
  { remarks := [.say hint], next := .ask question }

/-- An interview inside another one: its questions are embedded, and its result is continued. -/
def within (turn : Turn σ α) (embed : σ → τ) (continued : α → Turn τ β) : Turn τ β :=
  match turn.next with
  | .ask question => { remarks := turn.remarks, next := .ask (embed question) }
  | .finish result => (continued result).after turn.remarks

end Turn

/-! What an interviewer knows of a kind of question: its wording, and what an answer leads to. -/

structure Guide (σ α : Type) where
  wording : σ → String
  answer : σ → String → Turn σ α

/-! Options of an interview. Under strict menus an unrecognized choice is asked again. -/

structure Options where
  strictMenus : Bool := false
  deriving DecidableEq, Repr

def requiredHint : String := "  A value is required."

def unknownSelectionHint : String := "  Unknown selection, pick a number from the list."

def customFallbackHint : String := "  Not a menu option, using it as a custom statement."

end Interview

end SuiteScribe

namespace SuiteScribe.Interview

open Text

/-! The interview about one step. After the action is chosen, the field that the draft lacks is
asked for until the draft encodes. -/

inductive StepQuestion
  | description (number : Nat)
  | action (description : String)
  | field (draft : Draft) (field : StepField)
  | accessibleName (draft : Draft) (role : String)
  deriving DecidableEq, Repr

/-- Finishes the steps of a test case. -/
def stepSentinel : String := "next"

namespace StepQuestion

def wording : StepQuestion → String
  | description number =>
      "Step " ++ toString number ++ " description (or '" ++ stepSentinel ++
        "' to finish this test case)"
  | action _ => "Select action"
  | field _ .assertion => "Select assertion"
  | field _ missing => missing.prompt
  | accessibleName _ _ => "Accessible name (optional)"

abbrev StepTurn := Turn StepQuestion (Option Step)

/-! The menu of assertions is shown before each time that one is asked for. -/

def fieldRemarks : StepField → List Remark
  | .assertion => [.say assertionMenu.render]
  | _ => []

def proceed (draft : Draft) : StepTurn :=
  match draft.encode with
  | .ok step =>
      { remarks := [.note ⟨.debug, "step encoded"⟩], next := .finish (some step) }
  | .error missing => (Turn.ask (.field draft missing)).after (fieldRemarks missing)

def askAgain (hint : String) (draft : Draft) (missing : StepField) : StepTurn :=
  (Turn.ask (.field draft missing)).after (.say hint :: fieldRemarks missing)

/-! An unrecognized choice becomes a custom statement, unless menus are strict. -/

def fallBack (subject : String) (draft : Draft) (statement : String) : StepTurn :=
  (proceed { draft with kind := .custom, customStatement := some statement }).after
    [.note ⟨.debug, "unrecognized " ++ subject ++ ", using it as a custom statement"⟩,
     .say customFallbackHint]

def chooseAction (options : Options) (description : String) (text : String) : StepTurn :=
  match actionMenu.parse text with
  | .selected kind => proceed { description, kind }
  | .empty => .retry requiredHint (.action description)
  | .unrecognized statement =>
      if options.strictMenus then .retry unknownSelectionHint (.action description)
      else fallBack "action" { description, kind := .custom } statement

def chooseAssertion (options : Options) (draft : Draft) (text : String) : StepTurn :=
  match assertionMenu.parse text with
  | .selected kind => proceed { draft with assertion := some kind }
  | .empty => askAgain requiredHint draft .assertion
  | .unrecognized statement =>
      if options.strictMenus then askAgain unknownSelectionHint draft .assertion
      else fallBack "assertion" draft statement

/-! A role answer with white space in it already holds the accessible name. -/

def fillRole (draft : Draft) (text : String) : StepTurn :=
  if text.toList.any isBlank then proceed (draft.filled text .targetRole)
  else .ask (.accessibleName draft text)

/-- After an empty answer the field is asked for once more, and the draft stays as it is. It lacks
the field, so that to store the absence of an answer would change nothing. -/
def unlessEmpty (draft : Draft) (missing : StepField) (text : String) (filled : StepTurn) :
    StepTurn :=
  if text.isEmpty then askAgain requiredHint draft missing else filled

def fillField (options : Options) (draft : Draft) (missing : StepField) (text : String) :
    StepTurn :=
  match missing with
  | .assertion => chooseAssertion options draft text
  | .targetRole => unlessEmpty draft .targetRole text (fillRole draft text)
  | missing => unlessEmpty draft missing text (proceed (draft.filled text missing))

def answer (options : Options) : StepQuestion → String → StepTurn
  | .description _, text =>
      if text.isEmpty || text == stepSentinel then .finish none
      else (Turn.ask (.action text)).after [.say actionMenu.render]
  | .action described, text => chooseAction options described text
  | .field draft missing, text => fillField options draft missing text
  | .accessibleName draft role, text =>
      proceed { draft with role := some role, name := some text }

def start (number : Nat) : StepTurn :=
  .ask (.description number)

def guide (options : Options) : Guide StepQuestion (Option Step) :=
  { wording, answer := answer options }

end StepQuestion

/-! The interview about one test case: its title and objective, then step after step. -/

inductive CaseQuestion
  | title (number : Nat)
  | objective (title : String)
  | step (title objective : String) (done : List Step) (question : StepQuestion)
  deriving DecidableEq, Repr

/-- Finishes the test cases of a suite. -/
def caseSentinel : String := "done"

namespace CaseQuestion

def wording : CaseQuestion → String
  | title _ => "Test case title (or '" ++ caseSentinel ++ "' to finish)"
  | objective _ => "Objective"
  | step _ _ _ question => question.wording

abbrev CaseTurn := Turn CaseQuestion (Option TestCase)

def askStep (title objective : String) (done : List Step) : CaseTurn :=
  (StepQuestion.start (done.length + 1)).within (.step title objective done) fun _ =>
    .finish (some { title, objective, steps := done })

def continueCase (title objective : String) (done : List Step) : Option Step → CaseTurn
  | some last => askStep title objective (done ++ [last])
  | none => .finish (some { title, objective, steps := done })

def answer (options : Options) : CaseQuestion → String → CaseTurn
  | .title _, text =>
      if text.isEmpty || text == caseSentinel then .finish none
      else .ask (.objective text)
  | .objective named, text =>
      if text.isEmpty then .retry requiredHint (.objective named)
      else askStep named text []
  | .step named aim done question, text =>
      (question.answer options text).within (.step named aim done)
        (continueCase named aim done)

def start (number : Nat) : CaseTurn :=
  (Turn.ask (.title number)).after
    [.say ("\n--- Test case " ++ toString number ++ " ---")]

def guide (options : Options) : Guide CaseQuestion (Option TestCase) :=
  { wording, answer := answer options }

end CaseQuestion

/-! The interview about a whole suite: the header field by field, then test case after test case.
The suite under construction is part of the open question. -/

inductive HeaderField
  | featureName
  | fileBaseName
  | baseUrl
  | category
  | describeTitle
  | initialPath
  | additionalSetup
  deriving DecidableEq, Repr

namespace HeaderField

def wording : HeaderField → String
  | featureName => "Feature name"
  | fileBaseName => "Test file name (without extension)"
  | baseUrl => "Base URL (e.g. http://localhost:3000)"
  | category => "Select category"
  | describeTitle => "Describe block title"
  | initialPath => "Initial path (e.g. /login)"
  | additionalSetup => "Additional setup statement (optional)"

def next? : HeaderField → Option HeaderField
  | featureName => some fileBaseName
  | fileBaseName => some baseUrl
  | baseUrl => some category
  | category => some describeTitle
  | describeTitle => some initialPath
  | initialPath => some additionalSetup
  | additionalSetup => none

def remarks : HeaderField → List Remark
  | category => [.say categoryMenu.render]
  | _ => []

end HeaderField

inductive SuiteQuestion
  | header (suite : Suite) (field : HeaderField)
  | case (suite : Suite) (question : CaseQuestion)
  deriving DecidableEq, Repr

namespace SuiteQuestion

def wording : SuiteQuestion → String
  | header _ field => field.wording
  | case _ question => question.wording

abbrev SuiteTurn := Turn SuiteQuestion Suite

def blankSuite : Suite :=
  { featureName := "", fileBaseName := "", baseUrl := "", category := default
    describeTitle := "", initialPath := "", additionalSetup := none, testCases := [] }

def askCase (suite : Suite) : SuiteTurn :=
  (CaseQuestion.start (suite.testCases.length + 1)).within (.case suite) fun _ =>
    .finish suite

def askHeader (suite : Suite) (field : HeaderField) : SuiteTurn :=
  (Turn.ask (.header suite field)).after field.remarks

def afterField (suite : Suite) (field : HeaderField) : SuiteTurn :=
  match field.next? with
  | some next => askHeader suite next
  | none => askCase suite

/-! An unrecognized category is read as the default one, unless menus are strict. -/

def chooseCategory (options : Options) (suite : Suite) (text : String) : SuiteTurn :=
  match categoryMenu.parse text with
  | .selected category => afterField { suite with category } .category
  | .empty => afterField { suite with category := default } .category
  | .unrecognized _ =>
      if options.strictMenus then .retry unknownSelectionHint (.header suite .category)
      else
        (afterField { suite with category := default } .category).after
          [.note ⟨.debug, "unrecognized category, using the default"⟩,
           .say ("  Using '" ++ (default : Category).label ++ "'.")]

def setRequired (suite : Suite) (field : HeaderField) (text : String) : Suite :=
  match field with
  | .featureName => { suite with featureName := text }
  | .fileBaseName => { suite with fileBaseName := text }
  | .baseUrl => { suite with baseUrl := text }
  | .describeTitle => { suite with describeTitle := text }
  | .initialPath => { suite with initialPath := text }
  | .category => suite
  | .additionalSetup => suite

def fillHeader (options : Options) (suite : Suite) (field : HeaderField) (text : String) :
    SuiteTurn :=
  match field with
  | .category => chooseCategory options suite text
  | .additionalSetup =>
      afterField { suite with additionalSetup := if text.isEmpty then none else some text }
        .additionalSetup
  | field =>
      if text.isEmpty then .retry requiredHint (.header suite field)
      else afterField (setRequired suite field text) field

def continueSuite (suite : Suite) : Option TestCase → SuiteTurn
  | some last =>
      (askCase { suite with testCases := suite.testCases ++ [last] }).after
        [.note ⟨.info, "test case collected"⟩]
  | none => .finish suite

def answer (options : Options) : SuiteQuestion → String → SuiteTurn
  | .header suite field, text => fillHeader options suite field text
  | .case suite question, text =>
      (question.answer options text).within (.case suite) (continueSuite suite)

def start : SuiteTurn :=
  askHeader blankSuite .featureName

def banner : String :=
  "Playwright test suite generator. Enter '" ++ caseSentinel ++
    "' (or nothing) at a test case title to finish.\n"

/-- A session opens with the banner. -/
def session : SuiteTurn :=
  start.after [.say banner]

def guide (options : Options) : Guide SuiteQuestion Suite :=
  { wording, answer := answer options }

end SuiteQuestion

end SuiteScribe.Interview
