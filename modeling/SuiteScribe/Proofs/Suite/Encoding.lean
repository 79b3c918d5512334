import SuiteScribe.Proofs.Suite.NormalForm

namespace SuiteScribe

open Text

theorem bind_eq_ok_iff {ε α β : Type} {first : Except ε α} {next : α → Except ε β} {result : β} :
    first >>= next = .ok result ↔ ∃ value, first = .ok value ∧ next value = .ok result := by
  cases first with
  | error fault => simp [bind, Except.bind]
  | ok value => simp [bind, Except.bind]

theorem bind_eq_error_iff {ε α β : Type} {first : Except ε α} {next : α → Except ε β}
    {fault : ε} :
    first >>= next = .error fault ↔
      first = .error fault ∨ ∃ value, first = .ok value ∧ next value = .error fault := by
  cases first with
  | error other => simp [bind, Except.bind]
  | ok value => simp [bind, Except.bind]

namespace Draft

/-! An assertion is made of what its kind needs and of nothing else. A draft is asked for what the
kind needs first, so that neither of the last two arms of `assertionOf` is reached. -/

theorem assertionOf_eq_ok {kind : AssertionKind} {target : Option Target} {expected : Option String}
    (htarget : target.isSome = kind.needsTarget)
    (hexpected : expected.isSome = kind.needsExpected) :
    ∃ assertion, assertionOf kind target expected = .ok assertion ∧ assertion.kind = kind ∧
      assertion.target? = target ∧ assertion.expected? = expected := by
  cases kind with
  | hasText =>
      obtain ⟨found, rfl⟩ := Option.isSome_iff_exists.mp htarget
      obtain ⟨text, rfl⟩ := Option.isSome_iff_exists.mp hexpected
      exact ⟨.hasText found text, rfl, rfl, rfl, rfl⟩
  | hasUrl =>
      obtain rfl : target = none := Option.not_isSome_iff_eq_none.mp (by rw [htarget]; decide)
      obtain ⟨text, rfl⟩ := Option.isSome_iff_exists.mp hexpected
      exact ⟨.hasUrl text, rfl, rfl, rfl, rfl⟩
  | visible | enabled | disabled =>
      obtain ⟨found, rfl⟩ := Option.isSome_iff_exists.mp htarget
      obtain rfl : expected = none := Option.not_isSome_iff_eq_none.mp (by rw [hexpected]; decide)
      exact ⟨_, rfl, rfl, rfl, rfl⟩

theorem isSome_of_asked {α : Type} {needed : Bool} {asked : Except StepField α} {found : Option α}
    (h : (if needed then some <$> asked else .ok none) = .ok found) : found.isSome = needed := by
  cases needed with
  | false =>
      cases h
      rfl
  | true =>
      cases asked with
      | error missing => cases h
      | ok value =>
          cases h
          rfl

/-- An assertion whose parts were asked for is made of these parts. -/
theorem assertionOf_asked {draft : Draft} {kind : AssertionKind} {target : Option Target}
    {expected : Option String} (htarget : draft.assertionTarget kind = .ok target)
    (hexpected : draft.assertionExpected kind = .ok expected) :
    ∃ assertion, assertionOf kind target expected = .ok assertion ∧ assertion.kind = kind ∧
      assertion.target? = target ∧ assertion.expected? = expected :=
  assertionOf_eq_ok (isSome_of_asked htarget) (isSome_of_asked hexpected)

theorem encodeAssertion_eq_match (draft : Draft) :
    draft.encodeAssertion =
      match draft.assertion with
      | none => .error .assertion
      | some .visible => do
          return .visible (← draft.requireTarget)
      | some .hasText => do
          let target ← draft.requireTarget
          return .hasText target (← require draft.expected .assertionExpected)
      | some .enabled => do
          return .enabled (← draft.requireTarget)
      | some .disabled => do
          return .disabled (← draft.requireTarget)
      | some .hasUrl => do
          return .hasUrl (← require draft.expected .assertionExpected) := by
  simp only [encodeAssertion, requireAssertion, assertionTarget, assertionExpected]
  cases draft.assertion with
  | none => rfl
  | some kind =>
      cases draft.requireTarget <;> cases require draft.expected .assertionExpected <;>
        cases kind <;> rfl

/-! The ways in which a draft makes an action, each with all that has been asked of the draft. -/

inductive MakesAssertion (draft : Draft) : Assertion → Prop
  | visible {target : Target} : draft.assertion = some .visible →
      draft.requireTarget = .ok target → MakesAssertion draft (.visible target)
  | hasText {target : Target} {expected : String} : draft.assertion = some .hasText →
      draft.requireTarget = .ok target → require draft.expected .assertionExpected = .ok expected →
        MakesAssertion draft (.hasText target expected)
  | enabled {target : Target} : draft.assertion = some .enabled →
      draft.requireTarget = .ok target → MakesAssertion draft (.enabled target)
  | disabled {target : Target} : draft.assertion = some .disabled →
      draft.requireTarget = .ok target → MakesAssertion draft (.disabled target)
  | hasUrl {expected : String} : draft.assertion = some .hasUrl →
      require draft.expected .assertionExpected = .ok expected →
        MakesAssertion draft (.hasUrl expected)

inductive MakesAction (draft : Draft) : Action → Prop
  | click {target : Target} : draft.kind = .click → draft.requireTarget = .ok target →
      MakesAction draft (.click target)
  | fill {target : Target} {value : String} : draft.kind = .fill →
      draft.requireTarget = .ok target → require draft.fillValue .fillValue = .ok value →
        MakesAction draft (.fill target value)
  | verify {assertion : Assertion} : draft.kind = .verify →
      draft.encodeAssertion = .ok assertion → MakesAction draft (.verify assertion)
  | navigate {path : String} : draft.kind = .navigate →
      require draft.navigateTarget .navigateTarget = .ok path → MakesAction draft (.navigate path)
  | screenshot {name : String} : draft.kind = .screenshot →
      require draft.screenshotName .screenshotName = .ok name →
        MakesAction draft (.screenshot name)
  | custom {statement : String} : draft.kind = .custom →
      require draft.customStatement .customStatement = .ok statement →
        MakesAction draft (.custom statement)

theorem makesAssertion_of_ok {draft : Draft} {assertion : Assertion}
    (h : draft.encodeAssertion = .ok assertion) : draft.MakesAssertion assertion := by
  cases hkind : draft.assertion with
  | none => simp [encodeAssertion_eq_match, hkind] at h
  | some kind =>
      cases kind <;> simp only [encodeAssertion_eq_match, hkind, bind_eq_ok_iff] at h
      case visible =>
        obtain ⟨target, htarget, heq⟩ := h
        cases heq
        exact .visible hkind htarget
      case hasText =>
        obtain ⟨target, htarget, expected, hexpected, heq⟩ := h
        cases heq
        exact .hasText hkind htarget hexpected
      case enabled =>
        obtain ⟨target, htarget, heq⟩ := h
        cases heq
        exact .enabled hkind htarget
      case disabled =>
        obtain ⟨target, htarget, heq⟩ := h
        cases heq
        exact .disabled hkind htarget
      case hasUrl =>
        obtain ⟨expected, hexpected, heq⟩ := h
        cases heq
        exact .hasUrl hkind hexpected

theorem makesAction_of_ok {draft : Draft} {action : Action}
    (h : draft.encodeAction = .ok action) : draft.MakesAction action := by
  cases hkind : draft.kind <;> simp only [encodeAction, hkind, bind_eq_ok_iff] at h
  case click =>
    obtain ⟨target, htarget, heq⟩ := h
    cases heq
    exact .click hkind htarget
  case fill =>
    obtain ⟨target, htarget, value, hvalue, heq⟩ := h
    cases heq
    exact .fill hkind htarget hvalue
  case verify =>
    obtain ⟨assertion, hassertion, heq⟩ := h
    cases heq
    exact .verify hkind hassertion
  case navigate =>
    obtain ⟨path, hpath, heq⟩ := h
    cases heq
    exact .navigate hkind hpath
  case screenshot =>
    obtain ⟨name, hname, heq⟩ := h
    cases heq
    exact .screenshot hkind hname
  case custom =>
    obtain ⟨statement, hstatement, heq⟩ := h
    cases heq
    exact .custom hkind hstatement

/-! What encodes is in normal form, as long as a role with a name of its own is one word. -/

theorem present_filled {field : Option String} {text : String}
    (h : present field = some text) : Filled text := by
  obtain ⟨raw, -, hraw⟩ := Option.bind_eq_some_iff.mp h
  by_cases hblank : blank raw
  · simp [hblank] at hraw
  · simp only [hblank, Bool.false_eq_true, if_false, Option.some.injEq] at hraw
    rw [← hraw]
    exact filled_trimmed (by simpa using hblank)

theorem present_some {text : String} (h : Filled text) : present (some text) = some text := by
  simp [present, h.not_blank, h.trimmed_eq]

theorem require_eq_ok_iff {field : Option String} {missing : StepField} {text : String} :
    require field missing = .ok text ↔ present field = some text := by
  cases hpresent : present field <;> simp [require, hpresent]

theorem require_eq_error {field : Option String} {missing other : StepField}
    (h : require field missing = .error other) : other = missing := by
  cases hpresent : present field <;> simp_all [require]

theorem require_filled {field : Option String} {missing : StepField} {text : String}
    (h : require field missing = .ok text) : Filled text :=
  present_filled (require_eq_ok_iff.mp h)

/-- A role that comes with a separate name has no white space in it. -/
def Unambiguous (draft : Draft) : Prop :=
  ∀ role ∈ draft.role, draft.name.isSome → Unbroken role

theorem unambiguous_of_name {draft : Draft} (h : draft.name = none) : draft.Unambiguous := by
  intro role _ hname
  simp [h] at hname

theorem unambiguous_of_role {draft : Draft} (h : draft.role = none) : draft.Unambiguous := by
  intro role hrole
  simp [h] at hrole

theorem parse_normalForm {text : String} (h : Filled text) : (Target.parse text).NormalForm := by
  obtain ⟨c, rest, htrim, hc⟩ := trim_eq_cons h.not_blank
  have hunbroken := unbroken_takeWhile (trim text.toList)
  refine ⟨⟨hunbroken.trimmed_eq, ?_⟩, hunbroken, ?_⟩
  · intro hempty
    simp [Target.parse, ← String.toList_eq_nil_iff, htrim, hc] at hempty
  · simp [Target.parse, trimmed, trim_trim]

theorem requireTarget_normalForm {draft : Draft} (hdraft : draft.Unambiguous)
    {target : Target} (h : draft.requireTarget = .ok target) : target.NormalForm := by
  cases hrole : present draft.role with
  | none => simp [requireTarget, target?, hrole] at h
  | some role =>
      have hfilled := present_filled hrole
      cases hname : draft.name with
      | none =>
          simp only [requireTarget, target?, hrole, hname, Option.map_some,
            Except.ok.injEq] at h
          exact h ▸ parse_normalForm hfilled
      | some name =>
          simp only [requireTarget, target?, hrole, hname, Option.map_some,
            Except.ok.injEq] at h
          obtain ⟨raw, hraw, htext⟩ := Option.bind_eq_some_iff.mp hrole
          have hunbroken : Unbroken raw := hdraft raw hraw (by simp [hname])
          by_cases hblank : blank raw
          · simp [hblank] at htext
          · simp only [hblank, Bool.false_eq_true, if_false, Option.some.injEq,
              hunbroken.trimmed_eq] at htext
            subst htext h
            exact ⟨hfilled, hunbroken, trimmed_trimmed name⟩

theorem encodeAssertion_normalForm {draft : Draft} (hdraft : draft.Unambiguous)
    {assertion : Assertion} (h : draft.encodeAssertion = .ok assertion) :
    assertion.NormalForm := by
  cases makesAssertion_of_ok h with
  | hasText _ htarget hexpected =>
      exact ⟨requireTarget_normalForm hdraft htarget, require_filled hexpected⟩
  | hasUrl _ hexpected => exact require_filled hexpected
  | visible _ htarget | enabled _ htarget | disabled _ htarget =>
      exact requireTarget_normalForm hdraft htarget

theorem encodeAction_normalForm {draft : Draft} (hdraft : draft.Unambiguous)
    {action : Action} (h : draft.encodeAction = .ok action) : action.NormalForm := by
  cases makesAction_of_ok h with
  | click _ htarget => exact requireTarget_normalForm hdraft htarget
  | fill _ htarget hvalue =>
      exact ⟨requireTarget_normalForm hdraft htarget, require_filled hvalue⟩
  | verify _ hassertion => exact encodeAssertion_normalForm hdraft hassertion
  | navigate _ htext | screenshot _ htext | custom _ htext => exact require_filled htext

theorem encode_eq_ok {draft : Draft} {step : Step} (h : draft.encode = .ok step) :
    step.description = trimmed draft.description ∧ draft.encodeAction = .ok step.action := by
  simp only [encode, bind_eq_ok_iff] at h
  obtain ⟨description, hdescription, action, haction, heq⟩ := h
  cases heq
  refine ⟨?_, haction⟩
  have hpresent := require_eq_ok_iff.mp hdescription
  by_cases hblank : blank draft.description
  · simp [present, hblank] at hpresent
  · simpa [present, hblank] using hpresent.symm

/-! Fields that hold filled text encode as they are. -/

theorem require_some {text : String} (missing : StepField) (h : Filled text) :
    require (some text) missing = .ok text :=
  require_eq_ok_iff.mpr (present_some h)

theorem requireTarget_of_target {draft : Draft} {target : Target} (h : target.NormalForm)
    (hrole : draft.role = some target.role) (hname : draft.name = some target.name) :
    draft.requireTarget = .ok target := by
  simp [requireTarget, target?, hrole, hname, present_some h.role, h.name]

theorem encodeAssertion_lacks_expected {draft : Draft} {target : Target}
    (hkind : draft.assertion = some .hasText) (htarget : draft.requireTarget = .ok target)
    (hexpected : draft.expected = none) :
    draft.encodeAssertion = .error .assertionExpected := by
  simp only [encodeAssertion_eq_match, hkind, htarget, hexpected]
  rfl

/-- A draft that holds the fields of an assertion in normal form encodes as that assertion. -/
theorem encodeAssertion_of_fields {draft : Draft} {assertion : Assertion}
    (h : assertion.NormalForm) (hkind : draft.assertion = some assertion.kind)
    (htarget : ∀ target ∈ assertion.target?,
      draft.role = some target.role ∧ draft.name = some target.name)
    (hexpected : ∀ expected ∈ assertion.expected?, draft.expected = some expected) :
    draft.encodeAssertion = .ok assertion := by
  have hfound (target : Target) (hmem : target ∈ assertion.target?) :
      draft.requireTarget = .ok target :=
    requireTarget_of_target (h.target target hmem) (htarget target hmem).1
      (htarget target hmem).2
  have hrequired (expected : String) (hmem : expected ∈ assertion.expected?) :
      require draft.expected .assertionExpected = .ok expected := by
    rw [hexpected expected hmem]
    exact require_some _ (h.expected expected hmem)
  cases assertion with
  | hasText target expected =>
      simp only [encodeAssertion_eq_match, hkind, Assertion.kind, hfound target rfl,
        hrequired expected rfl]
      rfl
  | hasUrl expected =>
      simp only [encodeAssertion_eq_match, hkind, Assertion.kind, hrequired expected rfl]
      rfl
  | _ target =>
      simp only [encodeAssertion_eq_match, hkind, Assertion.kind, hfound target rfl]
      rfl

/-! An action is encoded from the fields of its kind. -/

variable {draft : Draft}

theorem encodeAction_click (hkind : draft.kind = .click) :
    draft.encodeAction = draft.requireTarget.map .click := by
  simp only [encodeAction, hkind]
  cases draft.requireTarget <;> rfl

theorem encodeAction_fill (hkind : draft.kind = .fill) :
    draft.encodeAction = draft.requireTarget.bind fun target =>
      (require draft.fillValue .fillValue).map (.fill target) := by
  simp only [encodeAction, hkind]
  cases draft.requireTarget <;> cases require draft.fillValue .fillValue <;> rfl

theorem encodeAction_verify (hkind : draft.kind = .verify) :
    draft.encodeAction = draft.encodeAssertion.map .verify := by
  simp only [encodeAction, hkind]
  cases draft.encodeAssertion <;> rfl

theorem encodeAction_navigate (hkind : draft.kind = .navigate) :
    draft.encodeAction = (require draft.navigateTarget .navigateTarget).map .navigate := by
  simp only [encodeAction, hkind]
  cases require draft.navigateTarget .navigateTarget <;> rfl

theorem encodeAction_screenshot (hkind : draft.kind = .screenshot) :
    draft.encodeAction = (require draft.screenshotName .screenshotName).map .screenshot := by
  simp only [encodeAction, hkind]
  cases require draft.screenshotName .screenshotName <;> rfl

theorem encodeAction_custom (hkind : draft.kind = .custom) :
    draft.encodeAction = (require draft.customStatement .customStatement).map .custom := by
  simp only [encodeAction, hkind]
  cases require draft.customStatement .customStatement <;> rfl

theorem encode_eq_error_of_action (hdescription : Filled draft.description)
    {missing : StepField} (h : draft.encodeAction = .error missing) :
    draft.encode = .error missing := by
  rw [encode, require_some _ hdescription, h]
  rfl

theorem encode_eq_ok_of_action (hdescription : Filled draft.description)
    {action : Action} (h : draft.encodeAction = .ok action) :
    draft.encode = .ok { description := draft.description, action } := by
  rw [encode, require_some _ hdescription, h]
  rfl

/-! What a draft may lack: a description that is there never, and an assertion only where one is to
be verified and none is chosen. -/

theorem requireTarget_eq_error {draft : Draft} {missing : StepField}
    (h : draft.requireTarget = .error missing) : missing = .targetRole := by
  cases htarget : draft.target? <;> simp_all [requireTarget]

theorem encodeAssertion_eq_error {draft : Draft} {missing : StepField}
    (h : draft.encodeAssertion = .error missing) :
    missing ≠ .description ∧ (missing = .assertion → draft.assertion = none) := by
  cases hkind : draft.assertion with
  | none =>
      simp only [encodeAssertion_eq_match, hkind, Except.error.injEq] at h
      exact h ▸ ⟨nofun, fun _ => rfl⟩
  | some kind =>
      cases kind <;>
        simp only [encodeAssertion_eq_match, hkind, bind_eq_error_iff, pure, Except.pure,
          reduceCtorEq, and_false, exists_false, or_false] at h
      case hasText =>
        rcases h with h | ⟨target, -, h⟩
        · exact requireTarget_eq_error h ▸ ⟨nofun, nofun⟩
        · exact require_eq_error h ▸ ⟨nofun, nofun⟩
      case hasUrl => exact require_eq_error h ▸ ⟨nofun, nofun⟩
      all_goals exact requireTarget_eq_error h ▸ ⟨nofun, nofun⟩

theorem encodeAction_eq_error {draft : Draft} {missing : StepField}
    (h : draft.encodeAction = .error missing) :
    missing ≠ .description ∧
      (missing = .assertion → draft.kind = .verify ∧ draft.assertion = none) := by
  cases hkind : draft.kind <;>
    simp only [encodeAction, hkind, bind_eq_error_iff, pure, Except.pure, reduceCtorEq,
      and_false, exists_false, or_false] at h
  case click => exact requireTarget_eq_error h ▸ ⟨nofun, nofun⟩
  case fill =>
    rcases h with h | ⟨target, -, h⟩
    · exact requireTarget_eq_error h ▸ ⟨nofun, nofun⟩
    · exact require_eq_error h ▸ ⟨nofun, nofun⟩
  case verify =>
    obtain ⟨hdescription, hassertion⟩ := encodeAssertion_eq_error h
    exact ⟨hdescription, fun hmissing => ⟨rfl, hassertion hmissing⟩⟩
  all_goals exact require_eq_error h ▸ ⟨nofun, nofun⟩

theorem encode_eq_error {draft : Draft} {missing : StepField}
    (h : draft.encode = .error missing) :
    missing = .description ∨ draft.encodeAction = .error missing := by
  rcases bind_eq_error_iff.mp h with hdescription | ⟨description, -, hrest⟩
  · exact .inl (require_eq_error hdescription)
  · rcases bind_eq_error_iff.mp hrest with haction | ⟨action, -, hstep⟩
    · exact .inr haction
    · cases hstep

theorem encode_ne_description {draft : Draft} (h : Filled draft.description) :
    draft.encode ≠ .error .description := by
  intro hencode
  cases haction : draft.encodeAction with
  | ok action => cases hencode.symm.trans (encode_eq_ok_of_action h haction)
  | error missing =>
      cases hencode.symm.trans (encode_eq_error_of_action h haction)
      exact (encodeAction_eq_error haction).1 rfl

/-- Only a draft that is to verify something lacks an assertion, and only until one is chosen. -/
theorem encode_eq_error_assertion {draft : Draft} (h : draft.encode = .error .assertion) :
    draft.kind = .verify ∧ draft.assertion = none := by
  obtain hdescription | haction := encode_eq_error h
  · cases hdescription
  · exact (encodeAction_eq_error haction).2 rfl

end Draft

end SuiteScribe
