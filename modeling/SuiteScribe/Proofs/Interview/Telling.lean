import SuiteScribe.Proofs.Answers.Supply
import SuiteScribe.Proofs.Suite.Encoding
import SuiteScribe.Proofs.Suite.Menu

namespace SuiteScribe

open Answers Interview Text

/-! The answers by which a suite is told, in the order of the prompts. Kinds are told by their menu
numbers. -/

def Target.telling (target : Target) : List String :=
  [target.role, target.name]

def Assertion.telling (assertion : Assertion) : List String :=
  assertionMenu.numeral assertion.kind ::
    (assertion.target?.toList.flatMap Target.telling ++ assertion.expected?.toList)

def Action.telling : Action → List String
  | .click target => target.telling
  | .fill target value => target.telling ++ [value]
  | .verify assertion => assertion.telling
  | .navigate path => [path]
  | .screenshot name => [name]
  | .custom statement => [statement]

def Step.telling (step : Step) : List String :=
  step.description :: actionMenu.numeral step.action.kind :: step.action.telling

def TestCase.telling (case : TestCase) : List String :=
  case.title :: case.objective :: (case.steps.flatMap Step.telling ++ [stepSentinel])

def Suite.headerTelling (suite : Suite) : List String :=
  [suite.featureName, suite.fileBaseName, suite.baseUrl, categoryMenu.numeral suite.category,
   suite.describeTitle, suite.initialPath, suite.additionalSetup.getD ""]

def Suite.telling (suite : Suite) : List String :=
  suite.headerTelling ++ (suite.testCases.flatMap TestCase.telling ++ [caseSentinel])

namespace Interview

theorem parse_actionMenu (kind : ActionKind) :
    actionMenu.parse (actionMenu.numeral kind) = .selected kind :=
  Menu.parse_numeral (by cases kind <;> decide) (by decide)

theorem parse_assertionMenu (kind : AssertionKind) :
    assertionMenu.parse (assertionMenu.numeral kind) = .selected kind :=
  Menu.parse_numeral (by cases kind <;> decide) (by decide)

theorem parse_categoryMenu (category : Category) :
    categoryMenu.parse (categoryMenu.numeral category) = .selected category :=
  Menu.parse_numeral (by cases category <;> decide) (by decide)

/-! A step: each answer fills the field that the draft lacks next. -/

namespace StepQuestion

variable {options : Options} {draft : Draft} {result : Option Step}

theorem tells_proceed (hdescription : Filled draft.description) {action : Action}
    (h : draft.encodeAction = .ok action) :
    Tells (guide options) (proceed draft) []
      (some { description := draft.description, action }) :=
  Tells.finish _ (by simp [proceed, Draft.encode_eq_ok_of_action hdescription h])

theorem tells_field (hdescription : Filled draft.description) {missing : StepField}
    (hmissing : draft.encodeAction = .error missing) {text : String}
    (htext : trimmed text = text) {answers : List String}
    (h : Tells (guide options) (fillField options draft missing text) answers result) :
    Tells (guide options) (proceed draft) (text :: answers) result := by
  have hencode := Draft.encode_eq_error_of_action hdescription hmissing
  have hopen : (proceed draft).next = .ask (field draft missing) := by
    simp [proceed, hencode, Turn.after, Turn.ask]
  exact Tells.answer hopen htext h

theorem unlessEmpty_filled (draft : Draft) (missing : StepField) {text : String}
    (h : Filled text) (filled : StepTurn) : unlessEmpty draft missing text filled = filled := by
  simp [unlessEmpty, h.isEmpty]

theorem tells_target (hdescription : Filled draft.description)
    (hmissing : draft.encodeAction = .error .targetRole) {target : Target}
    (htarget : target.NormalForm) {answers : List String}
    (h : Tells (guide options)
      (proceed { draft with role := some target.role, name := some target.name })
      answers result) :
    Tells (guide options) (proceed draft) (target.telling ++ answers) result := by
  refine tells_field hdescription hmissing htarget.role.trimmed_eq ?_
  have hopen :
      (fillField options draft .targetRole target.role).next =
        .ask (accessibleName draft target.role) := by
    simp [fillField, unlessEmpty_filled _ _ htarget.role, fillRole,
      htarget.role_unbroken.any_eq_false, Turn.ask]
  exact Tells.answer hopen htarget.name h

theorem tells_text (hdescription : Filled draft.description) (missing : StepField)
    (hmissing : draft.encodeAction = .error missing) {text : String} (htext : Filled text)
    (hfield : fillField options draft missing text =
      unlessEmpty draft missing text (proceed (draft.filled text missing)))
    {action : Action} (h : (draft.filled text missing).encodeAction = .ok action)
    (hsame : (draft.filled text missing).description = draft.description) :
    Tells (guide options) (proceed draft) [text]
      (some { description := draft.description, action }) := by
  refine tells_field hdescription hmissing htext.trimmed_eq ?_
  rw [hfield, unlessEmpty_filled _ _ htext, ← hsame]
  exact tells_proceed (hsame ▸ hdescription) h

theorem tells_assertion {description : String} (hdescription : Filled description)
    {assertion : Assertion} (h : assertion.NormalForm) :
    Tells (guide options) (proceed { description, kind := .verify }) assertion.telling
      (some { description, action := .verify assertion }) := by
  refine tells_field hdescription rfl (Menu.trimmed_numeral assertionMenu assertion.kind) ?_
  simp only [fillField, chooseAssertion, parse_assertionMenu]
  have hverify {draft : Draft} (hkind : draft.kind = .verify)
      (hencode : draft.encodeAssertion = .ok assertion) :
      draft.encodeAction = .ok (.verify assertion) := by
    rw [Draft.encodeAction_verify hkind, hencode]
    rfl
  cases assertion with
  | hasText target expected =>
      refine tells_target hdescription rfl h.1 ?_
      have hmissing :
          Draft.encodeAction
              { description, kind := .verify, assertion := some .hasText
                role := some target.role, name := some target.name } =
            .error .assertionExpected := by
        rw [Draft.encodeAction_verify rfl, Draft.encodeAssertion_lacks_expected rfl
          (Draft.requireTarget_of_target h.1 rfl rfl) rfl]
        rfl
      refine tells_text hdescription _ hmissing h.2 rfl (hverify rfl ?_) rfl
      exact Draft.encodeAssertion_of_fields h rfl (by simp [Assertion.target?, Draft.filled])
        (by simp [Assertion.expected?, Draft.filled])
  | hasUrl expected =>
      refine tells_text hdescription .assertionExpected rfl h rfl (hverify rfl ?_) rfl
      exact Draft.encodeAssertion_of_fields h rfl (by simp [Assertion.target?])
        (by simp [Assertion.expected?, Draft.filled])
  | _ target =>
      refine tells_target hdescription rfl h (tells_proceed hdescription (hverify rfl ?_))
      exact Draft.encodeAssertion_of_fields h rfl (by simp [Assertion.target?])
        (by simp [Assertion.expected?])

theorem tells_action {description : String} (hdescription : Filled description)
    {action : Action} (h : action.NormalForm) :
    Tells (guide options) (proceed { description, kind := action.kind }) action.telling
      (some { description, action }) := by
  cases action with
  | click target =>
      refine tells_target hdescription rfl h (tells_proceed hdescription ?_)
      rw [Draft.encodeAction_click rfl, Draft.requireTarget_of_target h rfl rfl]
      rfl
  | fill target value =>
      refine tells_target hdescription rfl h.1 ?_
      have hmissing :
          Draft.encodeAction
              { description, kind := .fill, role := some target.role, name := some target.name } =
            .error .fillValue := by
        rw [Draft.encodeAction_fill rfl, Draft.requireTarget_of_target h.1 rfl rfl]
        rfl
      refine tells_text hdescription _ hmissing h.2 rfl ?_ rfl
      rw [Draft.encodeAction_fill rfl, Draft.requireTarget_of_target h.1 rfl rfl]
      simp only [Draft.filled, Draft.require_some _ h.2]
      rfl
  | verify assertion => exact tells_assertion hdescription h
  | navigate path =>
      refine tells_text hdescription .navigateTarget rfl h rfl ?_ rfl
      rw [Draft.encodeAction_navigate rfl, Draft.filled, Draft.require_some _ h]
      rfl
  | screenshot name =>
      refine tells_text hdescription .screenshotName rfl h rfl ?_ rfl
      rw [Draft.encodeAction_screenshot rfl, Draft.filled, Draft.require_some _ h]
      rfl
  | custom statement =>
      refine tells_text hdescription .customStatement rfl h rfl ?_ rfl
      rw [Draft.encodeAction_custom rfl, Draft.filled, Draft.require_some _ h]
      rfl

theorem tells_step (number : Nat) {step : Step} (h : step.NormalForm) :
    Tells (guide options) (start number) step.telling (some step) := by
  refine Tells.answer rfl h.description.trimmed_eq ?_
  have hdescribed :
      (guide options).answer (description number) step.description =
        (Turn.ask (action step.description)).after [.say actionMenu.render] := by
    simp [guide, answer, h.description.isEmpty, h.not_sentinel]
  rw [hdescribed]
  refine Tells.after (Tells.answer rfl (Menu.trimmed_numeral actionMenu step.action.kind) ?_) _
  have hchosen :
      (guide options).answer (action step.description)
          (actionMenu.numeral step.action.kind) =
        proceed { description := step.description, kind := step.action.kind } := by
    simp [guide, answer, chooseAction, parse_actionMenu]
  rw [hchosen]
  exact tells_action h.description h.action

theorem tells_sentinel (number : Nat) :
    Tells (guide options) (start number) [stepSentinel] none :=
  Tells.answer rfl (by decide) (Tells.finish _ rfl)

end StepQuestion

/-! A test case: step after step, each in an interview of its own. -/

namespace CaseQuestion

variable {options : Options}

theorem embeds_step (options : Options) (title objective : String) (done : List Step) :
    (StepQuestion.guide options).Embeds (guide options) (.step title objective done)
      (continueCase title objective done) where
  wording _ := rfl
  answer _ _ := rfl

theorem askStep_eq_within (title objective : String) (done : List Step) :
    askStep title objective done =
      (StepQuestion.start (done.length + 1)).within (.step title objective done)
        (continueCase title objective done) :=
  rfl

theorem tells_steps (title objective : String) (done : List Step) {steps : List Step}
    (h : ∀ step ∈ steps, step.NormalForm) :
    Tells (guide options) (askStep title objective done)
      (steps.flatMap Step.telling ++ [stepSentinel])
      (some { title, objective, steps := done ++ steps }) := by
  rw [askStep_eq_within]
  induction steps generalizing done with
  | nil =>
      have hend := Tells.within (embeds_step options title objective done)
        (StepQuestion.tells_sentinel (done.length + 1)) (Tells.finish (guide options) rfl)
      simpa using hend
  | cons step rest ih =>
      have hrest := ih (done ++ [step]) fun other hmem => h other (List.mem_cons_of_mem step hmem)
      have hstep := Tells.within (embeds_step options title objective done)
        (StepQuestion.tells_step (done.length + 1) (h step List.mem_cons_self)) hrest
      simpa [List.append_assoc] using hstep

theorem tells_case (number : Nat) {case : TestCase} (h : case.NormalForm) :
    Tells (guide options) (start number) case.telling (some case) := by
  refine Tells.answer rfl h.title.trimmed_eq ?_
  have htitled :
      (guide options).answer (title number) case.title = .ask (objective case.title) := by
    simp [guide, answer, h.title.isEmpty, h.not_sentinel]
  rw [htitled]
  refine Tells.answer rfl h.objective.trimmed_eq ?_
  have haimed :
      (guide options).answer (objective case.title) case.objective =
        askStep case.title case.objective [] := by
    simp [guide, answer, h.objective.isEmpty]
  rw [haimed]
  exact tells_steps case.title case.objective [] h.steps

theorem tells_sentinel (number : Nat) :
    Tells (guide options) (start number) [caseSentinel] none :=
  Tells.answer rfl (by decide) (Tells.finish _ rfl)

end CaseQuestion

/-! A suite: the header field by field, then case after case. -/

namespace SuiteQuestion

variable {options : Options}

theorem embeds_case (options : Options) (suite : Suite) :
    (CaseQuestion.guide options).Embeds (guide options) (.case suite) (continueSuite suite) where
  wording _ := rfl
  answer _ _ := rfl

theorem askCase_eq_within (suite : Suite) :
    askCase suite =
      (CaseQuestion.start (suite.testCases.length + 1)).within (.case suite)
        (continueSuite suite) :=
  rfl

theorem tells_cases (suite : Suite) {cases : List TestCase}
    (h : ∀ case ∈ cases, case.NormalForm) :
    Tells (guide options) (askCase suite)
      (cases.flatMap TestCase.telling ++ [caseSentinel])
      { suite with testCases := suite.testCases ++ cases } := by
  rw [askCase_eq_within]
  induction cases generalizing suite with
  | nil =>
      have hend := Tells.within (embeds_case options suite)
        (CaseQuestion.tells_sentinel (suite.testCases.length + 1))
        (Tells.finish (guide options) rfl)
      simpa using hend
  | cons case rest ih =>
      have hrest := ih { suite with testCases := suite.testCases ++ [case] }
        fun other hmem => h other (List.mem_cons_of_mem case hmem)
      have hcase := Tells.within (embeds_case options suite)
        (CaseQuestion.tells_case (suite.testCases.length + 1) (h case List.mem_cons_self))
        (hrest.after [.note ⟨.info, "test case collected"⟩])
      simpa [List.append_assoc] using hcase

theorem tells_required {suite : Suite} (field : HeaderField) {text : String}
    (hsetup : field ≠ .additionalSetup) (hcategory : field ≠ .category) (htext : Filled text)
    {answers : List String} {result : Suite}
    (h : Tells (guide options) (afterField (setRequired suite field text) field) answers
      result) :
    Tells (guide options) (askHeader suite field) (text :: answers) result := by
  refine Tells.answer rfl htext.trimmed_eq ?_
  have hfilled :
      (guide options).answer (header suite field) text =
        afterField (setRequired suite field text) field := by
    cases field <;> simp_all [guide, answer, fillHeader, htext.isEmpty]
  rw [hfilled]
  exact h

theorem tells_category (suite : Suite) (category : Category) {answers : List String}
    {result : Suite}
    (h : Tells (guide options) (afterField { suite with category } .category) answers
      result) :
    Tells (guide options) (askHeader suite .category)
      (categoryMenu.numeral category :: answers) result := by
  refine Tells.answer rfl (Menu.trimmed_numeral categoryMenu category) ?_
  have hchosen :
      (guide options).answer (header suite .category) (categoryMenu.numeral category) =
        afterField { suite with category } .category := by
    simp [guide, answer, fillHeader, chooseCategory, parse_categoryMenu]
  rw [hchosen]
  exact h

theorem tells_setup (suite : Suite) {setup : Option String}
    (hsetup : ∀ text ∈ setup, Filled text) {answers : List String} {result : Suite}
    (h : Tells (guide options) (askCase { suite with additionalSetup := setup }) answers
      result) :
    Tells (guide options) (askHeader suite .additionalSetup)
      (setup.getD "" :: answers) result := by
  have hasked : (askHeader suite .additionalSetup).next = .ask (header suite .additionalSetup) :=
    rfl
  have htrimmed : trimmed (setup.getD "") = setup.getD "" := by
    cases setup with
    | none => rfl
    | some text => exact (hsetup text rfl).trimmed_eq
  have hfilled :
      (guide options).answer (header suite .additionalSetup) (setup.getD "") =
        askCase { suite with additionalSetup := setup } := by
    cases setup with
    | none => rfl
    | some text =>
        simp [guide, answer, fillHeader, (hsetup text rfl).isEmpty, afterField,
          HeaderField.next?]
  refine Tells.answer hasked htrimmed ?_
  rw [hfilled]
  exact h

theorem tells_suite {suite : Suite} (h : suite.NormalForm) :
    Tells (guide options) start suite.telling suite := by
  refine tells_required .featureName nofun nofun h.featureName ?_
  refine tells_required .fileBaseName nofun nofun h.fileBaseName ?_
  refine tells_required .baseUrl nofun nofun h.baseUrl ?_
  refine tells_category _ suite.category ?_
  refine tells_required .describeTitle nofun nofun h.describeTitle ?_
  refine tells_required .initialPath nofun nofun h.initialPath ?_
  refine tells_setup _ h.additionalSetup ?_
  exact tells_cases _ h.testCases

/-- Every suite in normal form can be told: its telling is read to the end, nothing after it is
touched, and the suite comes out as it was. -/
theorem telling_collected (options : Options) {suite : Suite} (h : suite.NormalForm)
    (source : Scripted) {rest : List String} (hanswers : source.answers = suite.telling ++ rest) :
    (converse (guide options) start source).1 = .ok suite ∧
      (converse (guide options) start source).2.answers = rest ∧
      (converse (guide options) session source).1 = .ok suite ∧
      (converse (guide options) session source).2.answers = rest := by
  have htelling : Tells (guide options) start suite.telling suite := tells_suite h
  have htold := htelling rest
  obtain ⟨hstart, -, hleft⟩ := Scripted.converse_eq_hold (guide options) start source
  obtain ⟨hsession, -, hsessionLeft⟩ := Scripted.converse_eq_hold (guide options) session source
  rw [hanswers] at hstart hleft hsession hsessionLeft
  rw [session, hold_after] at hsession hsessionLeft
  simp only [Held.outcome, htold.1, htold.2] at hstart hleft hsession hsessionLeft
  exact ⟨hstart, hleft, hsession, hsessionLeft⟩

/-- A login page: a value is filled in, a button has no name, a greeting is verified. -/
def loginSuite : Suite :=
  { featureName := "Login", fileBaseName := "login", baseUrl := "http://localhost:3000"
    category := .formValidation, describeTitle := "Login page", initialPath := "/login"
    additionalSetup := none
    testCases :=
      [{ title := "signs in", objective := "the form works"
         steps :=
          [⟨"type the name", .fill ⟨"textbox", "User name"⟩ "ann"⟩,
           ⟨"press the button", .click ⟨"button", ""⟩⟩,
           ⟨"greeted", .verify (.hasText ⟨"heading", "Welcome"⟩ "Hello, Ann")⟩] },
       { title := "stays away", objective := "nothing is done", steps := [] }] }

theorem telling_collected_login :
    loginSuite.NormalForm ∧
      (converse (guide { strictMenus := true }) session
        ({ answers := loginSuite.telling ++ ["more"] } : Scripted)).1 = .ok loginSuite ∧
      (converse (guide { strictMenus := true }) session
        ({ answers := loginSuite.telling ++ ["more"] } : Scripted)).2.answers = ["more"] := by
  have hnormal : loginSuite.NormalForm := by decide
  have hcollected := telling_collected { strictMenus := true } hnormal
    { answers := loginSuite.telling ++ ["more"] } rfl
  exact ⟨hnormal, hcollected.2.2⟩

end SuiteQuestion

end Interview

end SuiteScribe
