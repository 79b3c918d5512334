import SuiteScribe.Proofs.Interview.Asking
import SuiteScribe.Proofs.Interview.Telling
import SuiteScribe.Proofs.Suite.Demands

namespace SuiteScribe

open Text
open Answers hiding ask say note remark

/-! A draft while its step is told. What was given for a field is stored, also if it was nothing.
With a role that was not given goes the name. -/

namespace Draft

def stored (draft : Draft) (given : Option String) : StepField → Draft
  | .description => draft
  | .targetRole => { draft with role := given, name := none }
  | .fillValue => { draft with fillValue := given }
  | .assertion => draft
  | .assertionExpected => { draft with expected := given }
  | .navigateTarget => { draft with navigateTarget := given }
  | .screenshotName => { draft with screenshotName := given }
  | .customStatement => { draft with customStatement := given }

theorem stored_some (draft : Draft) (text : String) {field : StepField} (h : field ≠ .description) :
    draft.stored (some text) field = draft.filled text field := by
  cases field <;> first | rfl | exact absurd rfl h

/-- What a told draft holds is filled, and only a role has a name. -/
structure Told (draft : Draft) : Prop where
  held : ∀ field, field ≠ .assertion → ∀ text ∈ draft.held? field, Filled text
  named : draft.role = none → draft.name = none

variable {draft : Draft}

theorem Told.held?_eq_none (h : draft.Told) {missing : StepField} (hfield : missing ≠ .assertion)
    (hmissing : draft.encode = .error missing) : draft.held? missing = none := by
  have hlacks := lacks_of_encode hmissing
  rw [lacks] at hlacks
  cases hheld : draft.held? missing with
  | none => rfl
  | some text =>
      have hfilled := h.held missing hfield text hheld
      simp [hheld, hfilled.not_blank] at hlacks

theorem Told.ne_description (h : draft.Told) {missing : StepField}
    (hmissing : draft.encode = .error missing) : missing ≠ .description := by
  rintro rfl
  cases h.held?_eq_none (by decide) hmissing

theorem stored_held? (draft : Draft) {field : StepField}
    (h : field = .targetRole → draft.name = none) :
    draft.stored (draft.held? field) field = draft := by
  cases field with
  | targetRole =>
      rw [stored, ← h rfl]
      rfl
  | _ => rfl

/-- To store nothing for the field that a told draft lacks leaves the draft as it is, so that it
encodes as before. -/
theorem Told.stored_none (h : draft.Told) {missing : StepField}
    (hmissing : draft.encode = .error missing) : draft.stored none missing = draft := by
  by_cases hfield : missing = .assertion
  · rw [hfield]
    rfl
  · have hheld := h.held?_eq_none hfield hmissing
    have hsame : draft.stored (draft.held? missing) missing = draft := by
      refine draft.stored_held? fun hrole => h.named ?_
      rw [hrole] at hheld
      exact hheld
    rwa [hheld] at hsame

theorem held?_stored (draft : Draft) (given : Option String) {field : StepField}
    (hdescription : field ≠ .description) (hassertion : field ≠ .assertion) (other : StepField) :
    (draft.stored given field).held? other =
      if other = field then given else draft.held? other := by
  cases field <;> cases other <;> first | rfl | contradiction

theorem Told.stored_some (h : draft.Told) {text : String} (htext : Filled text) (field : StepField)
    (hdescription : field ≠ .description) (hassertion : field ≠ .assertion) :
    (draft.stored (some text) field).Told where
  held other hother found hfound := by
    rw [draft.held?_stored _ hdescription hassertion] at hfound
    split at hfound
    · cases hfound
      exact htext
    · exact h.held other hother found hfound
  named hrole := by
    cases field with
    | targetRole => cases hrole
    | _ => exact h.named hrole

theorem Told.with_role (h : draft.Told) {role : String} (hrole : Filled role)
    (name : Option String) : Told { draft with role := some role, name } where
  held := (h.stored_some hrole .targetRole (by decide) (by decide)).held
  named := nofun

/-- Which kind of step or of assertion is told does not matter. -/
theorem Told.congr (h : draft.Told) {other : Draft}
    (hheld : ∀ field, field ≠ .assertion → other.held? field = draft.held? field)
    (hname : other.name = draft.name) : other.Told where
  held field hfield text htext := h.held field hfield text (hheld field hfield ▸ htext)
  named hrole := hname.trans (h.named ((hheld .targetRole (by decide)).symm.trans hrole))

theorem told_of_description {description : String} (h : Filled description) (kind : ActionKind) :
    Told { description, kind } where
  held field _ text htext := by
    cases field <;> cases htext
    exact h
  named _ := rfl

end Draft

namespace Interview

/-! The collector, with its loops. Every round of a loop asks, but for the one that finds the step
complete. -/

namespace Collector

open Asking

variable [Answers σ]

def requiredRound (label : String) (_ : Unit) : Asking σ (Unit ⊕ String) := do
  let text ← ask label
  if text.isEmpty then
    say requiredHint
    return .inl ()
  else
    return .inr text

theorem spends_requiredRound (label : String) (state : Unit) :
    Spends (requiredRound label state : Asking σ (Unit ⊕ String)) 1 fun reached =>
      ∀ text, reached = .inr text → Filled text := by
  refine .after_ask fun text htext => ?_
  split
  · exact .after_say (spends_pure nofun) requiredHint
  · next hempty =>
      refine spends_pure fun found hfound => ?_
      cases hfound
      exact filled_of_answer htext (by simpa using hempty)

def required (label : String) : Asking σ String :=
  loop (requiredRound label) (fun state => (spends_requiredRound label state).asks) ()

theorem spends_required (label : String) : Spends (required label : Asking σ String) 1 Filled :=
  spends_loop (fun state => spends_requiredRound label state) ()

/-! One step: its action is chosen from a menu, and then field after field is asked for. -/

section

variable (options : Options)

def actionRound (description : String) (_ : Unit) : Asking σ (Unit ⊕ Draft) := do
  let text ← ask "Select action"
  match actionMenu.parse text with
  | .selected kind => return .inr { description, kind }
  | .empty =>
      say requiredHint
      return .inl ()
  | .unrecognized statement =>
      if options.strictMenus then
        say unknownSelectionHint
        return .inl ()
      else
        note ⟨.debug, "unrecognized action, using it as a custom statement"⟩
        say customFallbackHint
        return .inr { description, kind := .custom, customStatement := some statement }

theorem spends_actionRound (description : String) (state : Unit) :
    Spends (actionRound options description state : Asking σ (Unit ⊕ Draft)) 1 fun reached =>
      Filled description → ∀ draft, reached = .inr draft → draft.Told := by
  refine .after_ask fun text htext => ?_
  split
  · next kind _ =>
      refine spends_pure fun hdescription draft hdraft => ?_
      cases hdraft
      exact Draft.told_of_description hdescription kind
  · refine .after_say (spends_pure ?_) requiredHint
    intro _ draft hdraft
    cases hdraft
  · next statement hparse =>
      split
      · refine .after_say (spends_pure ?_) unknownSelectionHint
        intro _ draft hdraft
        cases hdraft
      · refine .after_note (.after_say (spends_pure fun hdescription draft hdraft => ?_) _) _
        cases hdraft
        obtain ⟨rfl, hblank⟩ := actionMenu.parse_unrecognized hparse
        exact (Draft.told_of_description hdescription .custom).stored_some
          (filled_trimmed hblank) .customStatement (by decide) (by decide)

def selectAction (description : String) : Asking σ Draft := do
  say actionMenu.render
  loop (actionRound options description)
    (fun state => (spends_actionRound options description state).asks) ()

/-- The draft stays as it is where the answer is to be given once more. -/
def selectAssertion (draft : Draft) : Asking σ Draft := do
  say assertionMenu.render
  let text ← ask "Select assertion"
  match assertionMenu.parse text with
  | .selected kind => return { draft with assertion := some kind }
  | .empty =>
      say requiredHint
      return draft
  | .unrecognized statement =>
      if options.strictMenus then
        say unknownSelectionHint
        return draft
      else
        note ⟨.debug, "unrecognized assertion, using it as a custom statement"⟩
        say customFallbackHint
        return { draft with kind := .custom, customStatement := some statement }

def given (field : StepField) : Asking σ (Option String) := do
  let text ← ask field.prompt
  if text.isEmpty then
    say requiredHint
    return none
  else
    return some text

/-- A role with white space in it carries its name already. -/
def givenName (role : Option String) : Asking σ (Option String) :=
  match role with
  | none => return none
  | some text =>
      if text.toList.any isBlank then return none
      else return some (← ask "Accessible name (optional)")

def fillField (draft : Draft) : StepField → Asking σ Draft
  | .description => return { draft with description := ← required StepField.description.prompt }
  | .targetRole => do
      let role ← given .targetRole
      let name ← givenName role
      return { draft with role, name }
  | .assertion => selectAssertion options draft
  | field => return draft.stored (← given field) field

theorem spends_given (field : StepField) :
    Spends (given field : Asking σ (Option String)) 1 fun found => ∀ text ∈ found, Filled text := by
  refine .after_ask fun text htext => ?_
  split
  · exact .after_say (spends_pure (by simp)) requiredHint
  · next hempty =>
      exact spends_pure (by simpa using filled_of_answer htext (by simpa using hempty))

theorem spends_after_given {field : StepField} {next : Option String → Asking σ α}
    {post : α → Prop}
    (h : ∀ found, (∀ text ∈ found, Filled text) → Spends (next found) 0 post) :
    Spends (do next (← given field)) 1 post :=
  (spends_given field).bind h

theorem spends_givenName (role : Option String) :
    Spends (givenName role : Asking σ (Option String)) 0 fun name => role = none → name = none := by
  cases role with
  | none => exact spends_pure fun _ => rfl
  | some text =>
      rw [givenName]
      split
      · exact spends_pure fun _ => rfl
      · exact (Spends.after_ask fun _ _ => spends_pure nofun).mono (Nat.zero_le _) fun _ h => h

theorem spends_selectAssertion (draft : Draft) :
    Spends (selectAssertion options draft : Asking σ Draft) 1 fun next =>
      draft.Told → next.Told := by
  refine .after_say (.after_ask fun text _ => ?_) _
  split
  · refine spends_pure fun h => h.congr (fun field hfield => ?_) rfl
    cases field <;> first | rfl | contradiction
  · exact .after_say (spends_pure fun h => h) _
  · next statement hparse =>
      split
      · exact .after_say (spends_pure fun h => h) _
      · refine .after_note (.after_say (spends_pure fun h => ?_) _) _
        obtain ⟨rfl, hblank⟩ := assertionMenu.parse_unrecognized hparse
        exact (h.stored_some (filled_trimmed hblank) .customStatement (by decide)
          (by decide)).congr (fun _ _ => rfl) rfl

theorem spends_storeGiven (draft : Draft) {field : StepField} (hdescription : field ≠ .description)
    (hassertion : field ≠ .assertion) :
    Spends (do return draft.stored (← given field) field : Asking σ Draft) 1 fun next =>
      draft.Told → draft.encode = .error field → next.Told := by
  refine spends_after_given fun found hfound => spends_pure fun h hmissing => ?_
  cases found with
  | none => rwa [h.stored_none hmissing]
  | some text => exact h.stored_some (hfound text rfl) field hdescription hassertion

theorem spends_fillField (draft : Draft) (field : StepField) :
    Spends (fillField options draft field : Asking σ Draft) 1 fun next =>
      draft.Told → draft.encode = .error field → next.Told := by
  cases field with
  | description =>
      refine (spends_required _).bind fun text _ => spends_pure fun h hmissing => ?_
      exact absurd rfl (h.ne_description hmissing)
  | targetRole =>
      rw [fillField]
      refine spends_after_given fun role hrole => ?_
      refine Spends.then (spends_givenName role) fun name hname => ?_
      refine spends_pure fun h hmissing => ?_
      cases role with
      | none =>
          rw [hname rfl]
          exact (h.stored_none hmissing).symm ▸ h
      | some text => exact h.with_role (hrole text rfl) name
  | assertion =>
      exact (spends_selectAssertion options draft).mono (Nat.le_refl _) fun _ htold h _ => htold h
  | _ => exact spends_storeGiven draft nofun nofun

def stepRound (draft : Draft) : Asking σ (Draft ⊕ Step) :=
  match draft.encode with
  | .ok step => do
      note ⟨.debug, "step encoded"⟩
      return .inr step
  | .error field => return .inl (← fillField options draft field)

theorem asks_stepRound (draft : Draft) :
    Asks (stepRound options draft : Asking σ (Draft ⊕ Step)) := by
  rw [stepRound]
  cases draft.encode with
  | ok step =>
      intro source next rest hrun
      cases hrun
  | error field =>
      have hfilled := spends_fillField (σ := σ) options draft field
      have hround : Spends (do return .inl (← fillField options draft field) :
          Asking σ (Draft ⊕ Step)) 1 fun _ => True :=
        hfilled.bind fun _ _ => spends_pure trivial
      exact hround.asks

theorem spends_stepRound (draft : Draft) :
    Spends (stepRound options draft : Asking σ (Draft ⊕ Step)) 0 fun reached =>
      draft.Told → ∀ next, reached = .inl next → next.Told := by
  rw [stepRound]
  cases hencode : draft.encode with
  | ok step =>
      refine .after_note (spends_pure fun _ next hreached => ?_) _
      cases hreached
  | error field =>
      have hfilled := spends_fillField (σ := σ) options draft field
      refine (hfilled.bind fun next hnext => spends_pure fun h reached hreached => ?_).mono
        (Nat.zero_le _) fun _ hpost => hpost
      cases hreached
      exact hnext h hencode

def collectStep (number : Nat) : Asking σ (Option Step) := do
  let description ← ask ("Step " ++ toString number ++ " description (or '" ++ stepSentinel ++
    "' to finish this test case)")
  if description.isEmpty || description == stepSentinel then
    return none
  else
    let draft ← selectAction options description
    return some (← loop (stepRound options) (asks_stepRound options) draft)

theorem spends_selectAction (description : String) :
    Spends (selectAction options description : Asking σ Draft) 0 fun draft =>
      Filled description → draft.Told :=
  .after_say (spends_loop (fun state =>
    (spends_actionRound options description state).mono (Nat.zero_le _)
      fun _ h draft hdraft hdescription => h hdescription draft hdraft) ()) _

theorem spends_collectStep (number : Nat) :
    Spends (collectStep options number : Asking σ (Option Step)) 1 fun _ => True := by
  refine .after_ask fun description _ => ?_
  split
  · exact spends_pure trivial
  · refine Spends.then (spends_selectAction options description) fun draft _ => ?_
    exact Spends.then (spends_loop_any (fun draft => (spends_stepRound options draft).any) draft)
      fun step _ => spends_pure trivial

/-! One test case: step after step. -/

def caseRound (done : List Step) : Asking σ (List Step ⊕ List Step) := do
  match ← collectStep options (done.length + 1) with
  | some step => return .inl (done ++ [step])
  | none => return .inr done

theorem spends_caseRound (done : List Step) :
    Spends (caseRound options done : Asking σ (List Step ⊕ List Step)) 1 fun _ => True := by
  refine Spends.first (spends_collectStep options (done.length + 1)) fun found _ => ?_
  cases found <;> exact spends_pure trivial

def collectCase (number : Nat) : Asking σ (Option TestCase) := do
  say ("\n--- Test case " ++ toString number ++ " ---")
  let title ← ask ("Test case title (or '" ++ caseSentinel ++ "' to finish)")
  if title.isEmpty || title == caseSentinel then
    return none
  else
    let objective ← required "Objective"
    let steps ← loop (caseRound options) (fun done => (spends_caseRound options done).asks) []
    return some { title, objective, steps }

theorem spends_collectCase (number : Nat) :
    Spends (collectCase options number : Asking σ (Option TestCase)) 1 fun _ => True := by
  refine .after_say (.after_ask fun title _ => ?_) _
  split
  · exact spends_pure trivial
  · refine Spends.then (spends_required "Objective").any fun objective _ => ?_
    exact Spends.then (spends_loop_any (fun done => (spends_caseRound options done).any) [])
      fun steps _ => spends_pure trivial

/-! A whole suite: the header, and test case after test case. -/

def categoryRound (_ : Unit) : Asking σ (Unit ⊕ Category) := do
  let text ← ask "Select category"
  match categoryMenu.parse text with
  | .selected category => return .inr category
  | .unrecognized _ =>
      if options.strictMenus then
        say unknownSelectionHint
        return .inl ()
      else
        note ⟨.debug, "unrecognized category, using the default"⟩
        say ("  Using '" ++ (default : Category).label ++ "'.")
        return .inr default
  | .empty => return .inr default

theorem spends_categoryRound (state : Unit) :
    Spends (categoryRound options state : Asking σ (Unit ⊕ Category)) 1 fun _ => True := by
  refine .after_ask fun text _ => ?_
  split
  · exact spends_pure trivial
  · split
    · exact .after_say (spends_pure trivial) _
    · exact .after_note (.after_say (spends_pure trivial) _) _
  · exact spends_pure trivial

def selectCategory : Asking σ Category := do
  say categoryMenu.render
  loop (categoryRound options) (fun state => (spends_categoryRound options state).asks) ()

def optional (label : String) : Asking σ (Option String) := do
  let text ← ask label
  return if text.isEmpty then none else some text

def collectHeader : Asking σ Suite := do
  let featureName ← required "Feature name"
  let fileBaseName ← required "Test file name (without extension)"
  let baseUrl ← required "Base URL (e.g. http://localhost:3000)"
  let category ← selectCategory options
  let describeTitle ← required "Describe block title"
  let initialPath ← required "Initial path (e.g. /login)"
  let additionalSetup ← optional "Additional setup statement (optional)"
  return {
    featureName, fileBaseName, baseUrl, category, describeTitle, initialPath, additionalSetup
    testCases := [] }

def suiteRound (suite : Suite) : Asking σ (Suite ⊕ Suite) := do
  match ← collectCase options (suite.testCases.length + 1) with
  | some case =>
      note ⟨.info, "test case collected"⟩
      return .inl { suite with testCases := suite.testCases ++ [case] }
  | none => return .inr suite

theorem spends_suiteRound (suite : Suite) :
    Spends (suiteRound options suite : Asking σ (Suite ⊕ Suite)) 1 fun _ => True := by
  refine Spends.first (spends_collectCase options (suite.testCases.length + 1)) fun found _ => ?_
  cases found with
  | none => exact spends_pure trivial
  | some case => exact .after_note (spends_pure trivial) _

def collectSuite : Asking σ Suite := do
  let suite ← collectHeader options
  loop (suiteRound options) (fun suite => (spends_suiteRound options suite).asks) suite

end

/-! The interview by turns asks, says and notes what the loops do, in the same order. -/

section

variable {options : Options}

/-- A question that is asked again after an empty answer. -/
theorem conversing_required (guide : Guide τ α) (question : τ) {filled : String → Turn τ α}
    (h : ∀ text, guide.answer question text =
      if text.isEmpty then .retry requiredHint question else filled text) :
    (do conversing guide (filled (← required (guide.wording question))) : Asking σ α) =
      conversing guide (.ask question) := by
  refine loop_bind (fun _ => conversing guide (.ask question)) (fun state => ?_) ()
  rw [conversing_ask, requiredRound, bind_assoc]
  apply bind_congr
  intro text
  rw [h]
  cases text.isEmpty with
  | true => simp only [if_true, conversing_retry, conversing_ask, bind_assoc, pure_bind]
  | false => simp only [Bool.false_eq_true, if_false, pure_bind]

theorem conversing_fallBack (subject : String) (draft : Draft) (statement : String) :
    (conversing (StepQuestion.guide options) (StepQuestion.fallBack subject draft statement) :
        Asking σ (Option Step)) = (do
      note ⟨.debug, "unrecognized " ++ subject ++ ", using it as a custom statement"⟩
      say customFallbackHint
      conversing (StepQuestion.guide options) (StepQuestion.proceed
        { draft with kind := .custom, customStatement := some statement })) := by
  rw [StepQuestion.fallBack, conversing_after, remark_note, remark_say, remark_nil]
  simp only [bind_assoc, pure_bind]

theorem conversing_selectAction (description : String) :
    (do conversing (StepQuestion.guide options)
          (StepQuestion.proceed (← selectAction options description)) : Asking σ (Option Step)) =
      conversing (StepQuestion.guide options)
        ((Turn.ask (.action description)).after [.say actionMenu.render]) := by
  rw [selectAction, conversing_after, remark_say, remark_nil, bind_assoc, bind_assoc]
  apply bind_congr
  intro _
  rw [pure_bind]
  refine loop_bind
    (fun _ => conversing (StepQuestion.guide options) (.ask (.action description)))
    (fun state => ?_) ()
  rw [actionRound, conversing_ask, bind_assoc]
  apply bind_congr
  intro text
  rw [← conversing_ask]
  change conversing (StepQuestion.guide options)
    (StepQuestion.chooseAction options description text) = _
  rw [StepQuestion.chooseAction]
  cases actionMenu.parse text with
  | selected kind => simp only [pure_bind]
  | empty => simp only [conversing_retry, bind_assoc, pure_bind]
  | unrecognized statement =>
      cases options.strictMenus with
      | true => simp only [if_true, conversing_retry, bind_assoc, pure_bind]
      | false =>
          simp only [Bool.false_eq_true, if_false, conversing_fallBack, bind_assoc, pure_bind]
          rfl

/-- What is asked for after a field is reported. -/
theorem conversing_proceed {draft : Draft} {field : StepField} (h : draft.encode = .error field) :
    (conversing (StepQuestion.guide options) (StepQuestion.proceed draft) :
        Asking σ (Option Step)) = (do
      remark (StepQuestion.fieldRemarks field)
      let text ← ask (StepQuestion.wording (.field draft field))
      conversing (StepQuestion.guide options)
        (StepQuestion.fillField options draft field text)) := by
  rw [StepQuestion.proceed, h, conversing_after, conversing_ask]
  rfl

theorem conversing_askAgain (hint : String) {draft : Draft} {field : StepField}
    (h : draft.encode = .error field) :
    (conversing (StepQuestion.guide options) (StepQuestion.askAgain hint draft field) :
        Asking σ (Option Step)) = (do
      say hint
      conversing (StepQuestion.guide options) (StepQuestion.proceed draft)) := by
  rw [StepQuestion.askAgain, StepQuestion.proceed, h, conversing_after, conversing_after,
    remark_say, bind_assoc]

theorem conversing_selectAssertion {draft : Draft} (h : draft.encode = .error .assertion) :
    (do conversing (StepQuestion.guide options)
          (StepQuestion.proceed (← selectAssertion options draft)) : Asking σ (Option Step)) =
      conversing (StepQuestion.guide options) (StepQuestion.proceed draft) := by
  simp only [conversing_proceed h, selectAssertion, StepQuestion.fieldRemarks, remark_say,
    remark_nil, bind_assoc, pure_bind]
  apply bind_congr
  intro _
  apply bind_congr
  intro text
  rw [StepQuestion.fillField, StepQuestion.chooseAssertion]
  cases assertionMenu.parse text with
  | selected kind => simp only [pure_bind]
  | empty => simp only [conversing_askAgain _ h, bind_assoc, pure_bind]
  | unrecognized statement =>
      cases options.strictMenus with
      | true => simp only [if_true, conversing_askAgain _ h, bind_assoc, pure_bind]
      | false =>
          simp only [Bool.false_eq_true, if_false, conversing_fallBack, bind_assoc, pure_bind]
          rfl

/-- A field is asked for once more where nothing is given for it, if the draft is then as before. -/
theorem conversing_given (options : Options) {draft : Draft} {field : StepField}
    (h : draft.encode = .error field) (hassertion : field ≠ .assertion)
    {filled : String → StepQuestion.StepTurn}
    (hfill : ∀ text, StepQuestion.fillField options draft field text =
      StepQuestion.unlessEmpty draft field text (filled text))
    (store : Option String → Asking σ Draft) (hnone : store none = pure draft)
    (hsome : ∀ text, (conversing (StepQuestion.guide options) (filled text) :
        Asking σ (Option Step)) = (do
      let next ← store (some text)
      conversing (StepQuestion.guide options) (StepQuestion.proceed next))) :
    (do
      let found ← given field
      let next ← store found
      conversing (StepQuestion.guide options) (StepQuestion.proceed next) :
        Asking σ (Option Step)) =
      conversing (StepQuestion.guide options) (StepQuestion.proceed draft) := by
  have hremarks : StepQuestion.fieldRemarks field = [] := by
    cases field <;> first | rfl | contradiction
  have hwording : StepQuestion.wording (.field draft field) = field.prompt := by
    cases field <;> first | rfl | contradiction
  rw [conversing_proceed h, hremarks, hwording, remark_nil, pure_bind, given, bind_assoc]
  apply bind_congr
  intro text
  rw [hfill, StepQuestion.unlessEmpty]
  cases text.isEmpty with
  | true => simp only [if_true, conversing_askAgain _ h, hnone, bind_assoc, pure_bind]
  | false => simp only [Bool.false_eq_true, if_false, pure_bind, hsome]

theorem conversing_fillRole (options : Options) (draft : Draft) (text : String) :
    (conversing (StepQuestion.guide options) (StepQuestion.fillRole draft text) :
        Asking σ (Option Step)) = (do
      let name ← givenName (some text)
      conversing (StepQuestion.guide options)
        (StepQuestion.proceed { draft with role := some text, name })) := by
  rw [givenName, StepQuestion.fillRole]
  cases text.toList.any isBlank with
  | true =>
      simp only [if_true, pure_bind]
      rfl
  | false =>
      simp only [Bool.false_eq_true, if_false, conversing_ask, bind_assoc, pure_bind]
      rfl

theorem fillField_eq_stored (options : Options) (draft : Draft) {field : StepField}
    (hdescription : field ≠ .description) (hrole : field ≠ .targetRole)
    (hassertion : field ≠ .assertion) :
    (fillField options draft field : Asking σ Draft) = (do
      return draft.stored (← given field) field) := by
  cases field <;> first | rfl | contradiction

theorem conversing_fillTarget {draft : Draft} (htold : draft.Told)
    (h : draft.encode = .error .targetRole) :
    (do
      let next ← fillField options draft .targetRole
      conversing (StepQuestion.guide options) (StepQuestion.proceed next) :
        Asking σ (Option Step)) =
      conversing (StepQuestion.guide options) (StepQuestion.proceed draft) := by
  -- The name is stored anew with every role, and a told draft without a role has none.
  have hname : (do
      let name ← givenName none
      return { draft with role := none, name } : Asking σ Draft) = pure draft :=
    (pure_bind _ _).trans (congrArg pure (htold.stored_none h))
  have hfill (text : String) := conversing_fillRole (σ := σ) options draft text
  have hgiven := conversing_given (σ := σ) options h (by decide) (fun _ => rfl)
    (fun role => do
      let name ← givenName role
      return { draft with role, name })
    hname fun text => (hfill text).trans (by simp only [bind_assoc, pure_bind])
  simpa only [fillField, bind_assoc, pure_bind] using hgiven

theorem conversing_fillText {draft : Draft} (htold : draft.Told) {field : StepField}
    (h : draft.encode = .error field) (hrole : field ≠ .targetRole)
    (hassertion : field ≠ .assertion) :
    (do
      let next ← fillField options draft field
      conversing (StepQuestion.guide options) (StepQuestion.proceed next) :
        Asking σ (Option Step)) =
      conversing (StepQuestion.guide options) (StepQuestion.proceed draft) := by
  have hdescription := htold.ne_description h
  have hstored := fillField_eq_stored (σ := σ) options draft hdescription hrole hassertion
  have hfill (text : String) : StepQuestion.fillField options draft field text =
      StepQuestion.unlessEmpty draft field text
        (StepQuestion.proceed (draft.stored (some text) field)) := by
    rw [draft.stored_some text hdescription]
    cases field <;> first | rfl | contradiction
  have hgiven := conversing_given (σ := σ) options h hassertion hfill
    (fun found => pure (draft.stored found field)) (congrArg pure (htold.stored_none h))
    fun text => (pure_bind _ _).symm
  simpa only [hstored, bind_assoc, pure_bind] using hgiven

/-- A round of the loop over fields. A told draft that is asked about once more is as before, also
where the round has stored that nothing was given. -/
theorem conversing_fillField {draft : Draft} (htold : draft.Told) {field : StepField}
    (h : draft.encode = .error field) :
    (do
      let next ← fillField options draft field
      conversing (StepQuestion.guide options) (StepQuestion.proceed next) :
        Asking σ (Option Step)) =
      conversing (StepQuestion.guide options) (StepQuestion.proceed draft) := by
  by_cases hassertion : field = .assertion
  · subst hassertion
    exact conversing_selectAssertion h
  by_cases hrole : field = .targetRole
  · subst hrole
    exact conversing_fillTarget htold h
  · exact conversing_fillText htold h hrole hassertion

theorem conversing_steps {draft : Draft} (h : draft.Told) :
    (do return some (← loop (stepRound options) (asks_stepRound options) draft) :
        Asking σ (Option Step)) =
      conversing (StepQuestion.guide options) (StepQuestion.proceed draft) := by
  -- The rounds keep the draft told; only then is storing nothing no change.
  refine loop_bind_kept Draft.Told
    (fun draft => conversing (StepQuestion.guide options) (StepQuestion.proceed draft))
    (fun draft h source next rest hrun => ?_) (fun draft h => ?_) h
  · exact (spends_stepRound options draft source _ rest hrun).1 h next rfl
  rw [stepRound]
  cases hencode : draft.encode with
  | ok step =>
      rw [StepQuestion.proceed, hencode]
      dsimp only
      rw [conversing_eq, remark_note, remark_nil]
      simp only [bind_assoc, pure_bind]
  | error field =>
      rw [bind_assoc, ← conversing_fillField h hencode]
      simp only [pure_bind]

theorem conversing_step (number : Nat) :
    (conversing (StepQuestion.guide options) (StepQuestion.start number) :
        Asking σ (Option Step)) = collectStep options number := by
  rw [StepQuestion.start, conversing_ask, collectStep]
  refine (spends_ask _).bind_congr fun description htrimmed => ?_
  change conversing _ (if description.isEmpty || description == stepSentinel then _ else _) = _
  cases hdone : description.isEmpty || description == stepSentinel with
  | true => simp only [if_true, conversing_finish]
  | false =>
      have hempty : description.isEmpty = false := (Bool.or_eq_false_iff.mp hdone).1
      simp only [Bool.false_eq_true, if_false]
      rw [← conversing_selectAction]
      refine (spends_selectAction options description).bind_congr fun draft htold => ?_
      exact (conversing_steps (htold (filled_of_answer htrimmed hempty))).symm

theorem conversing_stepsOf (title objective : String) (done : List Step) :
    (do return some { title, objective
                      steps := ← loop (caseRound options)
                        (fun done => (spends_caseRound options done).asks) done } :
        Asking σ (Option TestCase)) =
      conversing (CaseQuestion.guide options) (CaseQuestion.askStep title objective done) := by
  refine loop_bind
    (fun done =>
      conversing (CaseQuestion.guide options) (CaseQuestion.askStep title objective done))
    (fun done => ?_) done
  rw [CaseQuestion.askStep_eq_within,
    conversing_within (CaseQuestion.embeds_step options title objective done), conversing_step,
    caseRound, bind_assoc]
  apply bind_congr
  intro found
  cases found with
  | none => simp only [CaseQuestion.continueCase, conversing_finish, pure_bind]
  | some step => simp only [CaseQuestion.continueCase, pure_bind]

theorem conversing_case (number : Nat) :
    (conversing (CaseQuestion.guide options) (CaseQuestion.start number) :
        Asking σ (Option TestCase)) = collectCase options number := by
  rw [CaseQuestion.start, conversing_after, remark_say, remark_nil, conversing_ask, collectCase]
  simp only [bind_assoc, pure_bind]
  apply bind_congr
  intro _
  apply bind_congr
  intro title
  change conversing _ (if title.isEmpty || title == caseSentinel then _ else _) = _
  cases title.isEmpty || title == caseSentinel with
  | true => simp only [if_true, conversing_finish]
  | false =>
      simp only [Bool.false_eq_true, if_false]
      rw [← conversing_required (CaseQuestion.guide options) (.objective title) fun _ => rfl]
      exact bind_congr fun objective => (conversing_stepsOf title objective []).symm

theorem conversing_cases (suite : Suite) :
    (conversing (SuiteQuestion.guide options) (SuiteQuestion.askCase suite) : Asking σ Suite) =
      loop (suiteRound options) (fun suite => (spends_suiteRound options suite).asks) suite := by
  rw [← bind_pure (loop _ _ suite)]
  refine (loop_bind
    (fun suite => conversing (SuiteQuestion.guide options) (SuiteQuestion.askCase suite))
    (fun suite => ?_) suite).symm
  rw [SuiteQuestion.askCase_eq_within,
    conversing_within (SuiteQuestion.embeds_case options suite), conversing_case, suiteRound,
    bind_assoc]
  apply bind_congr
  intro found
  cases found with
  | none => simp only [SuiteQuestion.continueSuite, conversing_finish, pure_bind]
  | some case =>
      simp only [SuiteQuestion.continueSuite, conversing_after, remark_note, remark_nil, bind_assoc,
        pure_bind]

/-! The header, field by field. -/

theorem conversing_requiredHeader (suite : Suite) (field : HeaderField)
    (hcategory : field ≠ .category) (hsetup : field ≠ .additionalSetup) :
    (conversing (SuiteQuestion.guide options) (SuiteQuestion.askHeader suite field) :
        Asking σ Suite) = (do
      let text ← required field.wording
      conversing (SuiteQuestion.guide options)
        (SuiteQuestion.afterField (SuiteQuestion.setRequired suite field text) field)) := by
  have hremarks : field.remarks = [] := by cases field <;> first | rfl | contradiction
  rw [SuiteQuestion.askHeader, hremarks]
  refine (conversing_required (SuiteQuestion.guide options) (.header suite field)
    fun text => ?_).symm
  cases field <;> first | rfl | contradiction

theorem conversing_category (suite : Suite) :
    (conversing (SuiteQuestion.guide options) (SuiteQuestion.askHeader suite .category) :
        Asking σ Suite) = (do
      let category ← selectCategory options
      conversing (SuiteQuestion.guide options)
        (SuiteQuestion.afterField { suite with category } .category)) := by
  rw [SuiteQuestion.askHeader, HeaderField.remarks, conversing_after, remark_say, remark_nil,
    selectCategory, bind_assoc, bind_assoc]
  apply bind_congr
  intro _
  rw [pure_bind]
  refine (loop_bind
    (fun _ => conversing (SuiteQuestion.guide options) (.ask (.header suite .category)))
    (fun state => ?_) ()).symm
  rw [categoryRound, conversing_ask, bind_assoc]
  apply bind_congr
  intro text
  rw [← conversing_ask]
  change conversing (SuiteQuestion.guide options)
    (SuiteQuestion.chooseCategory options suite text) = _
  rw [SuiteQuestion.chooseCategory]
  cases categoryMenu.parse text with
  | selected category => simp only [pure_bind]
  | empty => simp only [pure_bind]
  | unrecognized statement =>
      cases options.strictMenus with
      | true => simp only [if_true, conversing_retry, bind_assoc, pure_bind]
      | false =>
          simp only [Bool.false_eq_true, if_false, conversing_after, remark_say, remark_note,
            remark_nil, bind_assoc, pure_bind]

theorem conversing_setup (suite : Suite) :
    (conversing (SuiteQuestion.guide options) (SuiteQuestion.askHeader suite .additionalSetup) :
        Asking σ Suite) = (do
      let additionalSetup ← optional HeaderField.additionalSetup.wording
      conversing (SuiteQuestion.guide options)
        (SuiteQuestion.askCase { suite with additionalSetup })) := by
  rw [optional, bind_assoc]
  exact conversing_ask _ _

/-- Over every source of answers the interview by turns is the collector with its loops. -/
theorem conversing_suite (options : Options) :
    (conversing (SuiteQuestion.guide options) SuiteQuestion.start : Asking σ Suite) =
      collectSuite options := by
  simp only [collectSuite, collectHeader, bind_assoc, pure_bind, ← conversing_cases]
  rw [SuiteQuestion.start, conversing_requiredHeader _ .featureName (by decide) (by decide)]
  apply bind_congr
  intro featureName
  refine (conversing_requiredHeader _ .fileBaseName (by decide) (by decide)).trans ?_
  apply bind_congr
  intro fileBaseName
  refine (conversing_requiredHeader _ .baseUrl (by decide) (by decide)).trans ?_
  apply bind_congr
  intro baseUrl
  refine (conversing_category _).trans ?_
  apply bind_congr
  intro category
  refine (conversing_requiredHeader _ .describeTitle (by decide) (by decide)).trans ?_
  apply bind_congr
  intro describeTitle
  refine (conversing_requiredHeader _ .initialPath (by decide) (by decide)).trans ?_
  apply bind_congr
  intro initialPath
  exact conversing_setup _

/-- A session is the banner and then the collector. -/
theorem session_eq (options : Options) (source : σ) :
    Command.collectSuite options source = (do
      say SuiteQuestion.banner
      collectSuite options : Asking σ Suite).run source := by
  rw [← conversing_suite, Command.collectSuite, SuiteQuestion.session]
  change (conversing (SuiteQuestion.guide options)
    (SuiteQuestion.start.after [.say SuiteQuestion.banner])).run source = _
  rw [conversing_after, remark_say, remark_nil, bind_assoc]
  simp only [pure_bind]

/-- The loops of the collector read from a script as its interview does. -/
theorem frugal_collectSuite (options : Options) :
    Scripted.Frugal (collectSuite options : Asking Scripted Suite).run := by
  rw [← conversing_suite]
  exact Scripted.frugal_converse _ _

end

end Collector

end Interview

end SuiteScribe
