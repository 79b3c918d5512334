import Mathlib.Data.Option.NAry
import Mathlib.Logic.Function.Basic
import SuiteScribe.Proofs.Suite.Encoding

namespace SuiteScribe

/-! The texts of a step under the names of their fields, in the order in which they are told, and
steps that differ in their texts alone. -/

/-- All texts stay as they are when they are found anew by their fields. -/
def Keeps (f : String → String → Option String) (fields : List (String × String)) : Prop :=
  ∀ field ∈ fields, f field.1 field.2 = some field.2

theorem keeps_append {f : String → String → Option String} {fields more : List (String × String)} :
    Keeps f (fields ++ more) ↔ Keeps f fields ∧ Keeps f more :=
  List.forall_mem_append

theorem keeps_cons {f : String → String → Option String} {name text : String}
    {fields : List (String × String)} :
    Keeps f ((name, text) :: fields) ↔ f name text = some text ∧ Keeps f fields :=
  List.forall_mem_cons

theorem keeps_singleton {f : String → String → Option String} {name text : String} :
    Keeps f [(name, text)] ↔ f name text = some text :=
  List.forall_mem_singleton

theorem map₂_eq_some_self_iff {make : α → β → γ} (hmake : Function.Injective2 make)
    {first? : Option α} {second? : Option β} {first : α} {second : β} :
    Option.map₂ make first? second? = some (make first second) ↔
      first? = some first ∧ second? = some second := by
  cases first? with
  | none => simp
  | some found =>
      cases second? with
      | none => simp
      | some other => simpa using hmake.eq_iff

namespace Target

def fields (target : Target) : List (String × String) :=
  [("role", target.role), ("name", target.name)]

def texts (target : Target) : List String :=
  target.fields.map (·.2)

def mapTexts (f : String → String) (target : Target) : Target :=
  { role := f target.role, name := f target.name }

/-- Texts anew, each by its field, if there is one for each. -/
def mapFields? (f : String → String → Option String) (target : Target) : Option Target :=
  Option.map₂ Target.mk (f "role" target.role) (f "name" target.name)

theorem mapTexts_eq_iff {target : Target} {f g : String → String} :
    target.mapTexts f = target.mapTexts g ↔ ∀ text ∈ target.texts, f text = g text := by
  simp [mapTexts, texts, fields]

theorem mapFields?_eq_self_iff {target : Target} {f : String → String → Option String} :
    target.mapFields? f = some target ↔ Keeps f target.fields := by
  have hmake : Function.Injective2 Target.mk := fun _ _ _ _ h => Target.mk.inj h
  rw [fields, keeps_cons, keeps_singleton]
  exact map₂_eq_some_self_iff hmake

end Target

namespace Assertion

def fields (assertion : Assertion) : List (String × String) :=
  (assertion.target?.map (·.fields)).getD [] ++
    (assertion.expected?.map fun text => ("expected", text)).toList

def texts (assertion : Assertion) : List String :=
  assertion.fields.map (·.2)

def mapTexts (f : String → String) : Assertion → Assertion
  | visible target => visible (target.mapTexts f)
  | hasText target expected => hasText (target.mapTexts f) (f expected)
  | enabled target => enabled (target.mapTexts f)
  | disabled target => disabled (target.mapTexts f)
  | hasUrl expected => hasUrl (f expected)

def mapFields? (f : String → String → Option String) : Assertion → Option Assertion
  | visible target => (target.mapFields? f).map visible
  | hasText target expected => Option.map₂ hasText (target.mapFields? f) (f "expected" expected)
  | enabled target => (target.mapFields? f).map enabled
  | disabled target => (target.mapFields? f).map disabled
  | hasUrl expected => (f "expected" expected).map hasUrl

theorem mapTexts_eq_iff {assertion : Assertion} {f g : String → String} :
    assertion.mapTexts f = assertion.mapTexts g ↔ ∀ text ∈ assertion.texts, f text = g text := by
  cases assertion <;>
    simp [mapTexts, texts, fields, target?, expected?, Target.mapTexts_eq_iff, Target.texts,
      or_imp, forall_and]

theorem mapFields?_eq_self_iff {assertion : Assertion} {f : String → String → Option String} :
    assertion.mapFields? f = some assertion ↔ Keeps f assertion.fields := by
  cases assertion with
  | hasText target expected =>
      have hmake : Function.Injective2 hasText := fun _ _ _ _ h => hasText.inj h
      rw [mapFields?, map₂_eq_some_self_iff hmake, Target.mapFields?_eq_self_iff]
      exact (keeps_append.trans (and_congr_right' keeps_singleton)).symm
  | hasUrl expected => simp [mapFields?, fields, target?, expected?, keeps_singleton]
  | _ target =>
      simp [mapFields?, fields, target?, expected?, Target.mapFields?_eq_self_iff]

end Assertion

namespace Action

def fields : Action → List (String × String)
  | click target => target.fields
  | fill target value => target.fields ++ [("value", value)]
  | verify assertion => assertion.fields
  | navigate path => [("path", path)]
  | screenshot name => [("name", name)]
  | custom statement => [("statement", statement)]

def texts (action : Action) : List String :=
  action.fields.map (·.2)

def mapTexts (f : String → String) : Action → Action
  | click target => click (target.mapTexts f)
  | fill target value => fill (target.mapTexts f) (f value)
  | verify assertion => verify (assertion.mapTexts f)
  | navigate path => navigate (f path)
  | screenshot name => screenshot (f name)
  | custom statement => custom (f statement)

def mapFields? (f : String → String → Option String) : Action → Option Action
  | click target => (target.mapFields? f).map click
  | fill target value => Option.map₂ fill (target.mapFields? f) (f "value" value)
  | verify assertion => (assertion.mapFields? f).map verify
  | navigate path => (f "path" path).map navigate
  | screenshot name => (f "name" name).map screenshot
  | custom statement => (f "statement" statement).map custom

theorem mapTexts_eq_iff {action : Action} {f g : String → String} :
    action.mapTexts f = action.mapTexts g ↔ ∀ text ∈ action.texts, f text = g text := by
  cases action <;>
    simp [mapTexts, texts, fields, Target.mapTexts_eq_iff, Target.texts,
      Assertion.mapTexts_eq_iff, Assertion.texts, or_imp, forall_and]

theorem mapFields?_eq_self_iff {action : Action} {f : String → String → Option String} :
    action.mapFields? f = some action ↔ Keeps f action.fields := by
  cases action with
  | click target => simp [mapFields?, fields, Target.mapFields?_eq_self_iff]
  | fill target value =>
      have hmake : Function.Injective2 fill := fun _ _ _ _ h => fill.inj h
      rw [mapFields?, map₂_eq_some_self_iff hmake, Target.mapFields?_eq_self_iff]
      exact (keeps_append.trans (and_congr_right' keeps_singleton)).symm
  | verify assertion => simp [mapFields?, fields, Assertion.mapFields?_eq_self_iff]
  | _ text => simp [mapFields?, fields, keeps_singleton]

end Action

namespace Step

def fields (step : Step) : List (String × String) :=
  ("description", step.description) :: step.action.fields

def texts (step : Step) : List String :=
  step.fields.map (·.2)

def mapTexts (f : String → String) (step : Step) : Step :=
  { description := f step.description, action := step.action.mapTexts f }

def mapFields? (f : String → String → Option String) (step : Step) : Option Step :=
  Option.map₂ Step.mk (f "description" step.description) (step.action.mapFields? f)

theorem mapTexts_eq_iff {step : Step} {f g : String → String} :
    step.mapTexts f = step.mapTexts g ↔ ∀ text ∈ step.texts, f text = g text := by
  simp [mapTexts, texts, fields, Action.mapTexts_eq_iff, Action.texts]

theorem mapTexts_id (step : Step) : step.mapTexts id = step := by
  obtain ⟨description, action⟩ := step
  cases action with
  | verify assertion => cases assertion <;> rfl
  | _ => rfl

/-- A step stays as it is if and only if each of its texts does. -/
theorem mapTexts_eq_self_iff {step : Step} {f : String → String} :
    step.mapTexts f = step ↔ ∀ text ∈ step.texts, f text = text := by
  calc
    step.mapTexts f = step ↔ step.mapTexts f = step.mapTexts id := by rw [mapTexts_id]
    _ ↔ ∀ text ∈ step.texts, f text = text := mapTexts_eq_iff

theorem mapFields?_eq_self_iff {step : Step} {f : String → String → Option String} :
    step.mapFields? f = some step ↔ Keeps f step.fields := by
  have hmake : Function.Injective2 Step.mk := fun _ _ _ _ h => Step.mk.inj h
  rw [fields, keeps_cons, ← Action.mapFields?_eq_self_iff]
  exact map₂_eq_some_self_iff hmake

end Step

open Text

/-! Two judges of a step: the encoder takes the fields of a draft one after the other, and the check
of a finished step looks for its first blank text. They agree on every step. -/

/-- A value, unless one of the texts that it needs is blank. -/
def unlessBlank (fields : List (StepField × String)) (value : α) : Except StepField α :=
  match firstBlank fields with
  | some field => .error field
  | none => .ok value

section

variable {fields more : List (StepField × String)} {value : α} {result : β}

theorem firstBlank_cons (field : StepField × String) (rest : List (StepField × String)) :
    firstBlank (field :: rest) = if blank field.2 then some field.1 else firstBlank rest := by
  unfold firstBlank
  rw [List.find?_cons]
  cases blank field.2 <;> rfl

theorem unlessBlank_nil : unlessBlank [] value = .ok value := rfl

theorem unlessBlank_cons (field : StepField × String) (rest : List (StepField × String)) :
    unlessBlank (field :: rest) value =
      if blank field.2 then .error field.1 else unlessBlank rest value := by
  rw [unlessBlank, firstBlank_cons]
  cases blank field.2 <;> rfl

/-- What is checked in turn is checked in one go. -/
theorem unlessBlank_bind {first : Except StepField α} {next : α → Except StepField β}
    (h : first = unlessBlank fields value) (hnext : next value = unlessBlank more result) :
    first >>= next = unlessBlank (fields ++ more) result := by
  subst h
  induction fields with
  | nil => exact hnext
  | cons field rest ih =>
      rw [List.cons_append, unlessBlank_cons, unlessBlank_cons, ← ih]
      cases blank field.2 <;> rfl

theorem unlessBlank_pure {first : Except StepField α} (h : first = unlessBlank fields value)
    (f : α → β) : (first >>= fun found => pure (f found)) = unlessBlank fields (f value) := by
  rw [← List.append_nil fields]
  exact unlessBlank_bind h rfl

theorem unlessBlank_eq_error_iff {field : StepField} :
    unlessBlank fields value = .error field ↔ firstBlank fields = some field := by
  unfold unlessBlank
  cases firstBlank fields <;> simp

theorem unlessBlank_of_none (h : firstBlank fields = none) :
    unlessBlank fields value = .ok value := by
  rw [unlessBlank, h]

end

namespace Draft

variable {draft : Draft}

/-! The encoder, on a draft that holds all fields of a step. -/

theorem require_eq_unlessBlank (text : String) (missing : StepField) :
    require (some text) missing = unlessBlank [(missing, text)] (trimmed text) := by
  rw [unlessBlank_cons, unlessBlank_nil, require, present, Option.bind_some]
  cases blank text <;> rfl

theorem requireTarget_eq_unlessBlank {target : Target} (hrole : draft.role = some target.role)
    (hname : draft.name = some target.name) :
    draft.requireTarget =
      unlessBlank [(.targetRole, target.role)] (target.mapTexts trimmed) := by
  rw [unlessBlank_cons, unlessBlank_nil, requireTarget, target?, present, hrole, hname,
    Option.bind_some]
  cases blank target.role <;> rfl

theorem encodeAssertion_ofAssertion (description : String) (assertion : Assertion) :
    (Draft.ofAssertion description assertion).encodeAssertion =
      unlessBlank assertion.requiredTexts (assertion.mapTexts trimmed) := by
  rw [encodeAssertion_eq_match]
  cases assertion with
  | hasText target expected =>
      apply unlessBlank_bind (requireTarget_eq_unlessBlank rfl rfl)
      exact unlessBlank_pure (require_eq_unlessBlank expected .assertionExpected) _
  | hasUrl expected =>
      exact unlessBlank_pure (require_eq_unlessBlank expected .assertionExpected) Assertion.hasUrl
  | _ target => exact unlessBlank_pure (requireTarget_eq_unlessBlank rfl rfl) _

theorem encodeAction_ofStep (step : Step) :
    (Draft.ofStep step).encodeAction =
      unlessBlank step.action.requiredTexts (step.action.mapTexts trimmed) := by
  obtain ⟨description, action⟩ := step
  cases action with
  | click target => exact unlessBlank_pure (requireTarget_eq_unlessBlank rfl rfl) Action.click
  | fill target value =>
      apply unlessBlank_bind (requireTarget_eq_unlessBlank rfl rfl)
      exact unlessBlank_pure (require_eq_unlessBlank value .fillValue) _
  | verify assertion =>
      exact unlessBlank_pure (encodeAssertion_ofAssertion description assertion) Action.verify
  | navigate path =>
      exact unlessBlank_pure (require_eq_unlessBlank path .navigateTarget) Action.navigate
  | screenshot name =>
      exact unlessBlank_pure (require_eq_unlessBlank name .screenshotName) Action.screenshot
  | custom statement =>
      exact unlessBlank_pure (require_eq_unlessBlank statement .customStatement) Action.custom

theorem encode_ofStep (step : Step) :
    (Draft.ofStep step).encode =
      unlessBlank ((.description, step.description) :: step.action.requiredTexts)
        (step.mapTexts trimmed) := by
  have hdescription : (Draft.ofStep step).description = step.description := by
    obtain ⟨description, action⟩ := step
    cases action <;> rfl
  rw [encode, hdescription]
  apply unlessBlank_bind (require_eq_unlessBlank step.description .description)
  exact unlessBlank_pure (encodeAction_ofStep step) _

/-! What the encoder lets through is trimmed and lacks nothing, also where a role with a name of its
own has white space in it. -/

theorem require_settled {field : Option String} {missing : StepField} {text : String}
    (h : require field missing = .ok text) : trimmed text = text ∧ blank text = false :=
  ⟨(require_filled h).trimmed_eq, (require_filled h).not_blank⟩

theorem requireTarget_settled {target : Target} (h : draft.requireTarget = .ok target) :
    (∀ text ∈ target.texts, trimmed text = text) ∧ blank target.role = false := by
  simp only [Target.texts, Target.fields, List.map_cons, List.forall_mem_cons]
  cases hrole : present draft.role with
  | none => simp [requireTarget, target?, hrole] at h
  | some role =>
      have hfilled := present_filled hrole
      simp only [requireTarget, target?, hrole, Option.map_some, Except.ok.injEq] at h
      cases hname : draft.name with
      | none =>
          rw [hname] at h
          have htarget : target.NormalForm := h ▸ parse_normalForm hfilled
          exact ⟨⟨htarget.role.trimmed_eq, htarget.name, List.forall_mem_nil _⟩,
            htarget.role.not_blank⟩
      | some name =>
          rw [hname] at h
          subst h
          exact ⟨⟨hfilled.trimmed_eq, trimmed_trimmed name, List.forall_mem_nil _⟩,
            hfilled.not_blank⟩

theorem encodeAssertion_settled {assertion : Assertion}
    (h : draft.encodeAssertion = .ok assertion) :
    (∀ text ∈ assertion.texts, trimmed text = text) ∧
      ∀ field ∈ assertion.requiredTexts, blank field.2 = false := by
  cases makesAssertion_of_ok h with
  | hasText _ htarget hexpected =>
      obtain ⟨htexts, hrole⟩ := requireTarget_settled htarget
      obtain ⟨htext, hfull⟩ := require_settled hexpected
      exact ⟨List.forall_mem_append.mpr ⟨htexts, List.forall_mem_singleton.mpr htext⟩,
        List.forall_mem_cons.mpr ⟨hrole, List.forall_mem_singleton.mpr hfull⟩⟩
  | hasUrl _ hexpected =>
      obtain ⟨htext, hfull⟩ := require_settled hexpected
      exact ⟨List.forall_mem_singleton.mpr htext, List.forall_mem_singleton.mpr hfull⟩
  | visible _ htarget | enabled _ htarget | disabled _ htarget =>
      obtain ⟨htexts, hrole⟩ := requireTarget_settled htarget
      exact ⟨htexts, List.forall_mem_singleton.mpr hrole⟩

theorem encodeAction_settled {action : Action} (h : draft.encodeAction = .ok action) :
    (∀ text ∈ action.texts, trimmed text = text) ∧
      ∀ field ∈ action.requiredTexts, blank field.2 = false := by
  cases makesAction_of_ok h with
  | click _ htarget =>
      obtain ⟨htexts, hrole⟩ := requireTarget_settled htarget
      exact ⟨htexts, List.forall_mem_singleton.mpr hrole⟩
  | fill _ htarget hvalue =>
      obtain ⟨htexts, hrole⟩ := requireTarget_settled htarget
      obtain ⟨htext, hfull⟩ := require_settled hvalue
      exact ⟨List.forall_mem_append.mpr ⟨htexts, List.forall_mem_singleton.mpr htext⟩,
        List.forall_mem_cons.mpr ⟨hrole, List.forall_mem_singleton.mpr hfull⟩⟩
  | verify _ hassertion => exact encodeAssertion_settled hassertion
  | navigate _ htext | screenshot _ htext | custom _ htext =>
      obtain ⟨htrimmed, hfull⟩ := require_settled htext
      exact ⟨List.forall_mem_singleton.mpr htrimmed, List.forall_mem_singleton.mpr hfull⟩

theorem encode_settled {step : Step} (h : draft.encode = .ok step) :
    step.mapTexts trimmed = step ∧ step.missing? = none := by
  simp only [encode, bind_eq_ok_iff] at h
  obtain ⟨description, hdescription, action, haction, heq⟩ := h
  cases heq
  obtain ⟨htext, hfull⟩ := require_settled hdescription
  obtain ⟨htexts, hfilled⟩ := encodeAction_settled haction
  constructor
  · rw [Step.mapTexts_eq_self_iff]
    exact List.forall_mem_cons.mpr ⟨htext, htexts⟩
  · rw [Step.missing?, firstBlank_eq_none_iff]
    exact List.forall_mem_cons.mpr ⟨hfull, hfilled⟩

/-- A step that is told field by field is refused for the very field for which it is refused as a
whole, and otherwise taken with its texts trimmed. So the encoder makes no step that the check of
finished steps would refuse, and none that it would not make again. -/
theorem judges_agree (step : Step) :
    (∀ field, (Draft.ofStep step).encode = .error field ↔ step.missing? = some field) ∧
      (step.missing? = none → (Draft.ofStep step).encode = .ok (step.mapTexts trimmed)) ∧
      ∀ draft : Draft, draft.encode = .ok step →
        step.missing? = none ∧ (Draft.ofStep step).encode = .ok step := by
  have hcomplete : step.missing? = none →
      (Draft.ofStep step).encode = .ok (step.mapTexts trimmed) := by
    intro hmissing
    rw [encode_ofStep, unlessBlank_of_none hmissing]
  refine ⟨fun field => ?_, hcomplete, fun draft hdraft => ?_⟩
  · rw [encode_ofStep]
    exact unlessBlank_eq_error_iff
  · obtain ⟨htrimmed, hmissing⟩ := encode_settled hdraft
    refine ⟨hmissing, ?_⟩
    rw [hcomplete hmissing, htrimmed]

/-- A role of two words with a name beside it: no answer in an interview, but a draft. -/
def wordyDraft : Draft :=
  { description := " see\tit ", kind := .verify, role := some " tab panel ", name := some " "
    assertion := some .hasText, expected := some "\u00a0a b", fillValue := some "stale" }

def wordyStep : Step :=
  ⟨"see\tit", .verify (.hasText ⟨"tab panel", ""⟩ "a b")⟩

theorem judges_agree_wordy :
    wordyDraft.encode = .ok wordyStep ∧ wordyStep.missing? = none ∧
      (Draft.ofStep wordyStep).encode = .ok wordyStep := by
  have hencode : wordyDraft.encode = .ok wordyStep := by decide
  exact ⟨hencode, (judges_agree wordyStep).2.2 wordyDraft hencode⟩

end Draft

end SuiteScribe
