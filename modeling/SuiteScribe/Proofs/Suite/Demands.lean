import SuiteScribe.Proofs.Suite.Agreement

namespace SuiteScribe

open Text

/-! What a draft must hold depends on its kind and, where something is verified, on what is
asserted. The encoder goes through these fields in the order of the questions, names the first one
that is not there, and reads no other. -/

def AssertionKind.demands (kind : AssertionKind) : List StepField :=
  (if kind.needsTarget then [.targetRole] else []) ++
    (if kind.needsExpected then [.assertionExpected] else [])

theorem AssertionKind.label_inj {first second : AssertionKind} (h : first.label = second.label) :
    first = second := by
  revert h
  cases first <;> cases second <;> decide

theorem AssertionKind.blank_label (kind : AssertionKind) : blank kind.label = false := by
  cases kind <;> decide

theorem AssertionKind.trimmed_label (kind : AssertionKind) : trimmed kind.label = kind.label := by
  cases kind <;> decide

namespace Draft

def demands (draft : Draft) : List StepField :=
  .description ::
    match draft.kind with
    | .click => [.targetRole]
    | .fill => [.targetRole, .fillValue]
    | .verify => .assertion :: (draft.assertion.map (·.demands)).getD []
    | .navigate => [.navigateTarget]
    | .screenshot => [.screenshotName]
    | .custom => [.customStatement]

/-- What a draft holds for a field. The choice of an assertion is told by its label. -/
def held? (draft : Draft) : StepField → Option String
  | .description => some draft.description
  | .targetRole => draft.role
  | .fillValue => draft.fillValue
  | .assertion => draft.assertion.map (·.label)
  | .assertionExpected => draft.expected
  | .navigateTarget => draft.navigateTarget
  | .screenshotName => draft.screenshotName
  | .customStatement => draft.customStatement

/-- A field is lacking if it is absent or blank. -/
def lacks (draft : Draft) (field : StepField) : Bool :=
  (draft.held? field).all blank

/-- The draft with the accessible name set apart, also if it came in one answer with the role. -/
def parted (draft : Draft) : Draft :=
  match draft.role, draft.name with
  | some role, none =>
      { draft with role := some (Target.parse role).role, name := some (Target.parse role).name }
  | _, _ => draft

/-- A draft describes a step of its kind that holds what is demanded, each text trimmed. -/
structure Describes (draft : Draft) (step : Step) : Prop where
  kind : (Draft.ofStep step).kind = draft.kind
  held : ∀ field ∈ draft.demands,
    (Draft.ofStep step).held? field = (draft.parted.held? field).map trimmed
  name : .targetRole ∈ draft.demands →
    (Draft.ofStep step).name = draft.parted.name.map trimmed

variable {draft : Draft}

/-! The fields that are checked, with the texts that are looked at. An absent field counts as empty
text. -/

def asked (draft : Draft) (field : StepField) : StepField × String :=
  (field, (draft.held? field).getD "")

theorem blank_asked (field : StepField) : blank (draft.asked field).2 = draft.lacks field := by
  rw [asked, lacks]
  cases draft.held? field <;> rfl

theorem firstBlank_asked (fields : List StepField) :
    firstBlank (fields.map draft.asked) = fields.find? draft.lacks := by
  induction fields with
  | nil => rfl
  | cons field fields ih =>
      rw [List.map_cons, firstBlank_cons, List.find?_cons, blank_asked, ih]
      cases draft.lacks field <;> rfl

theorem require_asked (field : Option String) (missing : StepField) :
    require field missing =
      unlessBlank [(missing, field.getD "")] (trimmed (field.getD "")) := by
  cases field with
  | none => rfl
  | some text => exact require_eq_unlessBlank text missing

theorem requireTarget_asked (draft : Draft) :
    ∃ target, draft.requireTarget = unlessBlank [draft.asked .targetRole] target := by
  cases hrole : draft.role with
  | none =>
      refine ⟨⟨"", ""⟩, ?_⟩
      simp only [requireTarget, target?, asked, held?, hrole]
      rfl
  | some role =>
      cases hname : draft.name with
      | none =>
          refine ⟨Target.parse (trimmed role), ?_⟩
          simp only [requireTarget, target?, present, asked, held?, hrole, hname]
          cases hblank : blank role <;> simp [unlessBlank_cons, unlessBlank_nil, hblank]
      | some name =>
          refine ⟨⟨trimmed role, trimmed name⟩, ?_⟩
          simp only [requireTarget, target?, present, asked, held?, hrole, hname]
          cases hblank : blank role <;> simp [unlessBlank_cons, unlessBlank_nil, hblank]

theorem encodeAssertion_asked (draft : Draft) :
    ∃ assertion, draft.encodeAssertion =
      unlessBlank ((.assertion :: (draft.assertion.map (·.demands)).getD []).map draft.asked)
        assertion := by
  obtain ⟨target, htarget⟩ := requireTarget_asked draft
  have hexpected := require_asked draft.expected .assertionExpected
  cases hkind : draft.assertion with
  | none =>
      have hlacking : blank (draft.asked .assertion).2 = true := by
        simp only [asked, held?, hkind]
        rfl
      refine ⟨.hasUrl "", ?_⟩
      rw [List.map_cons, unlessBlank_cons, if_pos hlacking]
      simp only [encodeAssertion_eq_match, hkind]
      rfl
  | some kind =>
      have hchosen : blank (draft.asked .assertion).2 = false := by
        simpa [asked, held?, hkind] using kind.blank_label
      simp only [Option.map_some, Option.getD_some, List.map_cons, unlessBlank_cons, hchosen]
      cases kind with
      | hasText =>
          simp only [encodeAssertion_eq_match, hkind]
          exact ⟨_, unlessBlank_bind htarget (unlessBlank_pure hexpected _)⟩
      | hasUrl =>
          simp only [encodeAssertion_eq_match, hkind]
          exact ⟨_, unlessBlank_pure hexpected _⟩
      | _ =>
          simp only [encodeAssertion_eq_match, hkind]
          exact ⟨_, unlessBlank_pure htarget _⟩

theorem encode_asked (draft : Draft) :
    ∃ step, draft.encode = unlessBlank (draft.demands.map draft.asked) step := by
  have haction : ∃ action, draft.encodeAction =
      unlessBlank (draft.demands.tail.map draft.asked) action := by
    obtain ⟨target, htarget⟩ := requireTarget_asked draft
    obtain ⟨assertion, hassertion⟩ := encodeAssertion_asked draft
    unfold encodeAction demands
    cases draft.kind with
    | click => exact ⟨_, unlessBlank_pure htarget _⟩
    | fill =>
        exact ⟨_, unlessBlank_bind htarget
          (unlessBlank_pure (require_asked draft.fillValue .fillValue) _)⟩
    | verify => exact ⟨_, unlessBlank_pure hassertion _⟩
    | navigate => exact ⟨_, unlessBlank_pure (require_asked draft.navigateTarget _) _⟩
    | screenshot => exact ⟨_, unlessBlank_pure (require_asked draft.screenshotName _) _⟩
    | custom => exact ⟨_, unlessBlank_pure (require_asked draft.customStatement _) _⟩
  obtain ⟨action, haction⟩ := haction
  have hdescription := require_asked (some draft.description) .description
  exact ⟨_, unlessBlank_bind hdescription (unlessBlank_pure haction _)⟩

theorem encode_eq_error_iff (draft : Draft) (field : StepField) :
    draft.encode = .error field ↔ draft.demands.find? draft.lacks = some field := by
  obtain ⟨step, hencode⟩ := encode_asked draft
  rw [hencode, unlessBlank_eq_error_iff, firstBlank_asked]

theorem lacks_of_encode {field : StepField} (h : draft.encode = .error field) :
    draft.lacks field = true :=
  List.find?_some ((encode_eq_error_iff draft field).mp h)

/-! What a draft describes once nothing is lacking. -/

theorem parted_held? (draft : Draft) (field : StepField) (h : field ≠ .targetRole) :
    draft.parted.held? field = draft.held? field := by
  unfold parted
  split
  · cases field <;> first | rfl | exact absurd rfl h
  · rfl

theorem held_of_require (field : StepField) {text : String} (hfield : field ≠ .targetRole)
    (h : require (draft.held? field) field = .ok text) :
    some text = (draft.parted.held? field).map trimmed := by
  obtain ⟨raw, hheld, hraw⟩ := Option.bind_eq_some_iff.mp (require_eq_ok_iff.mp h)
  rw [parted_held? draft field hfield, hheld]
  by_cases hblank : blank raw
  · simp [hblank] at hraw
  · simpa [hblank] using hraw.symm

theorem parse_trimmed (text : String) : Target.parse (trimmed text) = Target.parse text := by
  simp [Target.parse, trimmed, trim_trim]

theorem held_of_requireTarget {target : Target} (h : draft.requireTarget = .ok target) :
    some target.role = (draft.parted.held? .targetRole).map trimmed ∧
      some target.name = draft.parted.name.map trimmed := by
  cases hrole : draft.role with
  | none => simp [requireTarget, target?, present, hrole] at h
  | some role =>
      cases hblank : blank role with
      | true => simp [requireTarget, target?, present, hrole, hblank] at h
      | false =>
          cases hname : draft.name with
          | none =>
              -- The role read off one answer is trimmed already, and so is the name behind it.
              have htarget : Target.parse role = target := by
                simpa [requireTarget, target?, present, hrole, hblank, hname, parse_trimmed] using h
              have hnormal : (Target.parse role).NormalForm :=
                parse_trimmed role ▸ parse_normalForm (filled_trimmed hblank)
              simp [parted, held?, hrole, hname, ← htarget, hnormal.role.trimmed_eq, hnormal.name]
          | some name =>
              have htarget : Target.mk (trimmed role) (trimmed name) = target := by
                simpa [requireTarget, target?, present, hrole, hblank, hname] using h
              simp [parted, held?, hrole, hname, ← htarget]

theorem describes_assertion (description : String) {assertion : Assertion}
    (h : draft.encodeAssertion = .ok assertion) :
    (∀ field ∈ .assertion :: (draft.assertion.map (·.demands)).getD [],
        (Draft.ofAssertion description assertion).held? field =
          (draft.parted.held? field).map trimmed) ∧
      (.targetRole ∈ (draft.assertion.map (·.demands)).getD [] →
        (Draft.ofAssertion description assertion).name = draft.parted.name.map trimmed) := by
  have hlabel : ∀ kind, draft.assertion = some kind →
      some kind.label = (draft.parted.held? .assertion).map trimmed := by
    intro kind hkind
    rw [parted_held? draft .assertion (by decide), held?, hkind, Option.map_some,
      Option.map_some, kind.trimmed_label]
  cases makesAssertion_of_ok h with
  | hasText hkind htarget hexpected =>
      obtain ⟨hrole, hname⟩ := held_of_requireTarget htarget
      have htext := held_of_require .assertionExpected (by decide) hexpected
      rw [hkind]
      exact ⟨List.forall_mem_cons.mpr ⟨hlabel _ hkind, List.forall_mem_cons.mpr
        ⟨hrole, List.forall_mem_singleton.mpr htext⟩⟩, fun _ => hname⟩
  | hasUrl hkind hexpected =>
      have htext := held_of_require .assertionExpected (by decide) hexpected
      rw [hkind]
      exact ⟨List.forall_mem_cons.mpr ⟨hlabel _ hkind, List.forall_mem_singleton.mpr htext⟩,
        fun hrole => absurd hrole (by decide)⟩
  | visible hkind htarget | enabled hkind htarget | disabled hkind htarget =>
      obtain ⟨hrole, hname⟩ := held_of_requireTarget htarget
      rw [hkind]
      exact ⟨List.forall_mem_cons.mpr ⟨hlabel _ hkind, List.forall_mem_singleton.mpr hrole⟩,
        fun _ => hname⟩

theorem describes_of_encode {step : Step} (h : draft.encode = .ok step) : draft.Describes step := by
  obtain ⟨hdescription, haction⟩ := encode_eq_ok h
  have hfirst : some step.description = (draft.parted.held? .description).map trimmed := by
    rw [parted_held? draft .description (by decide), hdescription]
    rfl
  obtain ⟨description, action⟩ := step
  cases makesAction_of_ok haction with
  | click hkind htarget =>
      obtain ⟨hrole, hname⟩ := held_of_requireTarget htarget
      refine ⟨hkind.symm, ?_, fun _ => hname⟩
      rw [demands, hkind]
      exact List.forall_mem_cons.mpr ⟨hfirst, List.forall_mem_singleton.mpr hrole⟩
  | fill hkind htarget hvalue =>
      obtain ⟨hrole, hname⟩ := held_of_requireTarget htarget
      have htext := held_of_require .fillValue (by decide) hvalue
      refine ⟨hkind.symm, ?_, fun _ => hname⟩
      rw [demands, hkind]
      exact List.forall_mem_cons.mpr ⟨hfirst, List.forall_mem_cons.mpr
        ⟨hrole, List.forall_mem_singleton.mpr htext⟩⟩
  | verify hkind hassertion =>
      obtain ⟨hheld, hname⟩ := describes_assertion description hassertion
      refine ⟨hkind.symm, ?_, ?_⟩
      · rw [demands, hkind]
        exact List.forall_mem_cons.mpr ⟨hfirst, hheld⟩
      · rw [demands, hkind]
        intro hmem
        exact hname (by simpa using hmem)
  | navigate hkind htext | screenshot hkind htext | custom hkind htext =>
      refine ⟨hkind.symm, ?_, ?_⟩
      · rw [demands, hkind]
        exact List.forall_mem_cons.mpr
          ⟨hfirst, List.forall_mem_singleton.mpr (held_of_require _ (by decide) htext)⟩
      · rw [demands, hkind]
        intro hmem
        simp at hmem

/-! What else a draft holds is not read. -/

section

variable {first second : Draft}

theorem requireTarget_congr (hrole : second.role = first.role) (hname : second.name = first.name) :
    second.requireTarget = first.requireTarget := by
  rw [requireTarget, requireTarget, target?, target?, hrole, hname]

theorem encodeAssertion_congr (hchoice : second.assertion = first.assertion)
    (hheld : ∀ field ∈ (first.assertion.map (·.demands)).getD [],
      second.held? field = first.held? field)
    (hname : .targetRole ∈ (first.assertion.map (·.demands)).getD [] →
      second.name = first.name) : second.encodeAssertion = first.encodeAssertion := by
  simp only [encodeAssertion_eq_match, hchoice]
  cases hkind : first.assertion with
  | none => rfl
  | some kind =>
      rw [hkind] at hheld hname
      cases kind with
      | hasText =>
          have hexpected : second.expected = first.expected := hheld .assertionExpected (by decide)
          rw [requireTarget_congr (hheld .targetRole (by decide)) (hname (by decide)), hexpected]
      | hasUrl =>
          have hexpected : second.expected = first.expected := hheld .assertionExpected (by decide)
          rw [hexpected]
      | _ => rw [requireTarget_congr (hheld .targetRole (by decide)) (hname (by decide))]

theorem encode_congr (hkind : second.kind = first.kind)
    (hheld : ∀ field ∈ first.demands, second.held? field = first.held? field)
    (hname : .targetRole ∈ first.demands → second.name = first.name) :
    second.encode = first.encode := by
  have haction : second.encodeAction = first.encodeAction := by
    simp only [encodeAction, hkind]
    rw [demands] at hheld hname
    cases hfirst : first.kind <;> simp only [hfirst] at hheld hname ⊢
    case click => rw [requireTarget_congr (hheld .targetRole (by decide)) (hname (by decide))]
    case fill =>
      have hvalue : second.fillValue = first.fillValue := hheld .fillValue (by decide)
      rw [requireTarget_congr (hheld .targetRole (by decide)) (hname (by decide)), hvalue]
    case verify =>
      -- Drafts are compared by the label of the choice, which tells the choice itself.
      have hchoice : second.assertion = first.assertion :=
        Option.map_injective (fun _ _ => AssertionKind.label_inj)
          (hheld .assertion (List.mem_cons_of_mem _ List.mem_cons_self))
      have hasserted := encodeAssertion_congr hchoice
        (fun field hfield =>
          hheld field (List.mem_cons_of_mem _ (List.mem_cons_of_mem _ hfield)))
        (fun hrole => hname (List.mem_cons_of_mem _ (List.mem_cons_of_mem _ hrole)))
      rw [hasserted]
    case navigate =>
      have hpath : second.navigateTarget = first.navigateTarget :=
        hheld .navigateTarget (by decide)
      rw [hpath]
    case screenshot =>
      have hfile : second.screenshotName = first.screenshotName :=
        hheld .screenshotName (by decide)
      rw [hfile]
    case custom =>
      have hstatement : second.customStatement = first.customStatement :=
        hheld .customStatement (by decide)
      rw [hstatement]
  have hdescription : second.description = first.description :=
    Option.some.inj (hheld .description List.mem_cons_self)
  rw [encode, encode, hdescription, haction]

end

/-- The encoder reports the first demanded field that is absent or blank. It succeeds if there is
none, and then the step holds just what is demanded, with each text trimmed. Drafts that agree on
their kind, on what is demanded and on the name of a demanded target are encoded alike. -/
theorem encode_reads_demands (draft : Draft) :
    (∀ field, draft.encode = .error field ↔ draft.demands.find? draft.lacks = some field) ∧
      ((∃ step, draft.encode = .ok step) ↔ ∀ field ∈ draft.demands, draft.lacks field = false) ∧
      (∀ step, draft.encode = .ok step → draft.Describes step) ∧
      ∀ other : Draft, other.kind = draft.kind →
        (∀ field ∈ draft.demands, other.held? field = draft.held? field) →
        (.targetRole ∈ draft.demands → other.name = draft.name) →
        other.encode = draft.encode := by
  obtain ⟨step, hencode⟩ := encode_asked draft
  refine ⟨encode_eq_error_iff draft, ?_, fun step => describes_of_encode,
    fun other => encode_congr⟩
  · have hnone : draft.demands.find? draft.lacks = none ↔
        ∀ field ∈ draft.demands, draft.lacks field = false := by
      simp
    rw [hencode, unlessBlank, firstBlank_asked, ← hnone]
    cases draft.demands.find? draft.lacks <;> simp

/-- A role with its name behind it, and what is left of an earlier choice. -/
def staleDraft : Draft :=
  { description := " see it ", kind := .verify, role := some " tab\u00a0 main  panel ",
    fillValue := some "", assertion := some .enabled, expected := some " ",
    screenshotName := some "old" }

theorem encode_reads_demands_stale :
    (∃ step, staleDraft.encode = .ok step ∧
      (Draft.ofStep step).role = some "tab" ∧ (Draft.ofStep step).name = some "main  panel") ∧
      { staleDraft with expected := none, screenshotName := none }.encode = staleDraft.encode ∧
      { staleDraft with role := some "\t" }.encode = .error .targetRole := by
  obtain ⟨-, hok, hdescribes, hsame⟩ := encode_reads_demands staleDraft
  obtain ⟨step, hstep⟩ := hok.mpr (by decide)
  refine ⟨⟨step, hstep, ?_, ?_⟩, ?_, ?_⟩
  · exact (hdescribes step hstep).held .targetRole (by decide)
  · exact (hdescribes step hstep).name (by decide)
  · exact hsame _ rfl (by decide) (by decide)
  · exact ((encode_reads_demands _).1 .targetRole).mpr (by decide)

end Draft

end SuiteScribe
