import Mathlib.Control.Monad.Basic
import Mathlib.Data.Option.NAry
import SuiteScribe.Proofs.Suite.Agreement
import SuiteScribe.Proofs.SuiteFile.Reading
import SuiteScribe.Proofs.Yaml.Styled

namespace SuiteScribe.SuiteFile.Payload

open Yaml

/-! Records that start with their tag and have all of their fields: what they hold, or none where
they are refused. -/

section

variable {names : List String} {set : σ → String → Value → Checked σ} {state : σ}
  {name other : String}

theorem gather_cons (h : names.contains name = true) (value : Value)
    (rest : List (Value × Value)) :
    gather names set state ((.text name, value) :: rest) =
      set state name value >>= fun next => gather names set next rest := by
  rw [gather, field?, if_pos h]
  rfl

theorem gather_single (h : names.contains name = true) (value : Value) :
    gather names set state [(.text name, value)] = set state name value := by
  rw [gather_cons h]
  exact bind_pure _

theorem gather_pair (h : names.contains name = true) (hother : names.contains other = true)
    (value second : Value) :
    gather names set state [(.text name, value), (.text other, second)] =
      set state name value >>= fun next => set next other second := by
  rw [gather_cons h]
  exact bind_congr fun next => gather_single hother second

end

theorem splitVariant_others {tagName : String} {all : List α} {tag : α → String}
    {entries : List (Value × Value)}
    (h : ∀ entry ∈ entries, splitVariant.isTag tagName entry.1 = false) (found : Option α) :
    splitVariant tagName all tag found entries = .ok (found, entries) := by
  induction entries with
  | nil => rfl
  | cons entry rest ih =>
      rw [List.forall_mem_cons] at h
      rw [splitVariant, h.1, ih h.2]
      rfl

theorem splitVariant_tagged {tagName : String} {all : List α} {tag : α → String} {one : α}
    {entries : List (Value × Value)} (hone : variant all tag (.text (tag one)) = .ok one)
    (h : ∀ entry ∈ entries, splitVariant.isTag tagName entry.1 = false) :
    splitVariant tagName all tag none ((.text tagName, .text (tag one)) :: entries) =
      .ok (some one, entries) := by
  have htag : splitVariant.isTag tagName (.text tagName) = true := beq_self_eq_true tagName
  rw [splitVariant, htag, hone]
  exact splitVariant_others h (some one)

/-- A record of one field. -/
theorem toOption_of_set {start : Checked σ} {found : Checked α} {set : Option α → σ}
    {finish : σ → Checked β} {make : α → β} (hset : start = (once none found).map set)
    (hmake : ∀ one, finish (set (some one)) = .ok (make one)) :
    (start >>= finish).toOption = found.toOption.map make := by
  subst hset
  cases found with
  | error problem => rfl
  | ok one =>
      change (finish (set (some one))).toOption = _
      rw [hmake]
      rfl

/-! Targets. -/

theorem TargetFields.set_role (fields : TargetFields) (value : Value) :
    fields.set "role" value =
      (once fields.role (text value)).map fun role => { fields with role } := by
  rw [TargetFields.set]
  cases once fields.role (text value) <;> rfl

theorem TargetFields.set_name (fields : TargetFields) (value : Value) :
    fields.set "name" value =
      (once fields.name (text value)).map fun name => { fields with name } := by
  rw [TargetFields.set]
  cases once fields.name (text value) <;> rfl

theorem target_record (role name : Value) :
    (target (.mapping [(.text "role", role), (.text "name", name)])).toOption =
      Option.map₂ Target.mk (text role).toOption (text name).toOption := by
  rw [target, gather_pair rfl rfl]
  simp only [TargetFields.set_role, TargetFields.set_name]
  cases text role <;> cases text name <;> rfl

/-! Assertions. -/

theorem AssertionFields.set_target (fields : AssertionFields) (value : Value) :
    fields.set "target" value =
      (once fields.target (Payload.target value)).map fun target => { fields with target } := by
  rw [AssertionFields.set]
  cases once fields.target (Payload.target value) <;> rfl

theorem AssertionFields.set_expected (fields : AssertionFields) (value : Value) :
    fields.set "expected" value =
      (once fields.expected (text value)).map fun expected => { fields with expected } := by
  rw [AssertionFields.set]
  cases once fields.expected (text value) <;> rfl

theorem assertion_tagged (kind : AssertionKind) {entries : List (Value × Value)}
    (h : ∀ entry ∈ entries, splitVariant.isTag "type" entry.1 = false) :
    assertion (.mapping ((.text "type", .text kind.tag) :: entries)) =
      gather (AssertionFields.names kind) AssertionFields.set {} entries >>= fun fields =>
        fields.assertion kind := by
  have hkind : variant AssertionKind.all AssertionKind.tag (.text kind.tag) = .ok kind := by
    cases kind <;> rfl
  rw [assertion, splitVariant_tagged hkind h]
  rfl

theorem assertion_single {kind : AssertionKind} {name : String} {value : Value} {found : Checked β}
    {set : Option β → AssertionFields} {make : β → Assertion} (hname : name ≠ "type")
    (hnames : AssertionFields.names kind = [name])
    (hset : AssertionFields.set {} name value = (once none found).map set)
    (hmake : ∀ one, (set (some one)).assertion kind = .ok (make one)) :
    (assertion (.mapping [(.text "type", .text kind.tag), (.text name, value)])).toOption =
      found.toOption.map make := by
  have hother : ∀ entry ∈ [(Value.text name, value)],
      splitVariant.isTag "type" entry.1 = false :=
    List.forall_mem_singleton.mpr (beq_eq_false_iff_ne.mpr hname)
  have hknown : [name].contains name = true := by simp
  rw [assertion_tagged kind hother, hnames, gather_single hknown]
  exact toOption_of_set hset hmake

theorem assertion_hasText (target expected : Value) :
    (assertion (.mapping [(.text "type", .text AssertionKind.hasText.tag), (.text "target", target),
      (.text "expected", expected)])).toOption =
      Option.map₂ Assertion.hasText (Payload.target target).toOption (text expected).toOption := by
  rw [assertion_tagged .hasText (by simp [splitVariant.isTag]), gather_pair rfl rfl]
  simp only [AssertionFields.set_target, AssertionFields.set_expected]
  cases Payload.target target <;> cases text expected <;> rfl

/-! Actions. -/

theorem ActionFields.set_target (fields : ActionFields) (value : Value) :
    fields.set "target" value =
      (once fields.target (Payload.target value)).map fun target => { fields with target } := by
  rw [ActionFields.set]
  cases once fields.target (Payload.target value) <;> rfl

theorem ActionFields.set_assertion (fields : ActionFields) (value : Value) :
    fields.set "assertion" value =
      (once fields.assertion (Payload.assertion value)).map fun assertion =>
        { fields with assertion } := by
  rw [ActionFields.set]
  cases once fields.assertion (Payload.assertion value) <;> rfl

theorem ActionFields.set_text {name : String} (htarget : name ≠ "target")
    (hassertion : name ≠ "assertion") (fields : ActionFields) (value : Value) :
    fields.set name value =
      (once fields.text (Payload.text value)).map fun text => { fields with text } := by
  have hname : (name == "target") = false ∧ (name == "assertion") = false :=
    ⟨beq_eq_false_iff_ne.mpr htarget, beq_eq_false_iff_ne.mpr hassertion⟩
  rw [ActionFields.set, hname.1, hname.2]
  cases once fields.text (Payload.text value) <;> rfl

theorem action_tagged (kind : ActionKind) {entries : List (Value × Value)}
    (h : ∀ entry ∈ entries, splitVariant.isTag "action" entry.1 = false) :
    action ((.text "action", .text kind.tag) :: entries) =
      gather (ActionFields.names kind) ActionFields.set {} entries >>= fun fields =>
        fields.action kind := by
  have hkind : variant ActionKind.all ActionKind.tag (.text kind.tag) = .ok kind := by
    cases kind <;> rfl
  rw [action, splitVariant_tagged hkind h]
  rfl

theorem action_single {kind : ActionKind} {name : String} {value : Value} {found : Checked β}
    {set : Option β → ActionFields} {make : β → Action} (hname : name ≠ "action")
    (hnames : ActionFields.names kind = [name])
    (hset : ActionFields.set {} name value = (once none found).map set)
    (hmake : ∀ one, (set (some one)).action kind = .ok (make one)) :
    (action [(.text "action", .text kind.tag), (.text name, value)]).toOption =
      found.toOption.map make := by
  have hother : ∀ entry ∈ [(Value.text name, value)],
      splitVariant.isTag "action" entry.1 = false :=
    List.forall_mem_singleton.mpr (beq_eq_false_iff_ne.mpr hname)
  have hknown : [name].contains name = true := by simp
  rw [action_tagged kind hother, hnames, gather_single hknown]
  exact toOption_of_set hset hmake

theorem action_fill (target value : Value) :
    (action [(.text "action", .text ActionKind.fill.tag), (.text "target", target),
      (.text "value", value)]).toOption =
      Option.map₂ Action.fill (Payload.target target).toOption (text value).toOption := by
  have hset : ∀ fields : ActionFields, fields.set "value" value =
      (once fields.text (text value)).map fun text => { fields with text } :=
    fun fields => ActionFields.set_text (by decide) (by decide) fields value
  rw [action_tagged .fill (by simp [splitVariant.isTag]), gather_pair rfl rfl]
  simp only [ActionFields.set_target, hset]
  cases Payload.target target <;> cases text value <;> rfl

theorem action_text {kind : ActionKind} {name : String} {make : String → Action}
    (hname : name ∉ ["action", "target", "assertion"]) (hnames : ActionFields.names kind = [name])
    (hmake : ∀ text, ActionFields.action { text := some text } kind = .ok (make text))
    (value : Value) :
    (action [(.text "action", .text kind.tag), (.text name, value)]).toOption =
      (text value).toOption.map make := by
  simp only [List.mem_cons, not_or] at hname
  exact action_single hname.1 hnames (ActionFields.set_text hname.2.1 hname.2.2.1 {} value) hmake

end SuiteScribe.SuiteFile.Payload

namespace SuiteScribe.SuiteFile

open Number Yaml Reading

/-! Texts of a step that are entered by hand. A quoted text is kept. A plain one is read as a scalar
first, and what the step holds is that scalar written anew. No two texts of a step stand under the
same key, and so a style gives each of them a form of its own. -/

/-- The text that a step holds, unless the one that was entered is refused. -/
def loaded? (plain : Bool) (text : String) : Option String :=
  (Scalar.entered? text plain).bind fun value => (Payload.text value).toOption

/-- The text in a field of a step, by the name of the field. -/
def loadedBy? (style : Style) (name text : String) : Option String :=
  loaded? (style.text name) text

theorem loaded?_quoted (text : String) : loaded? false text = some text := by
  rw [loaded?, Scalar.entered?_quoted]
  rfl

/-- Plain texts that are written as their scalar is. -/
inductive Verbatim : String → Prop
  | word {text : String} (h : Scalar.IsWord text) : Verbatim text
  | bool (value : Bool) : Verbatim (toString value)
  | integer {value : Int} (h : Scalar.isWide value = false) : Verbatim (toString value)
  | float {value : Binary64} (h : Scalar.ofPlain value.text = .float value) :
      Verbatim (String.ofList value.text)

theorem loaded?_plain {text : String} {scalar : Scalar}
    (h : Scalar.ofPlain text.toList = scalar) :
    loaded? true text =
      (Value.ofScalar () scalar).toOption.bind fun value => (Payload.text value).toOption := by
  rw [loaded?, Scalar.entered?, Scalar.untagged, if_pos rfl, h]

theorem verbatim_of_loaded {text : String} (h : loaded? true text = some text) : Verbatim text := by
  cases hscalar : Scalar.ofPlain text.toList with
  | bool value =>
      have htext : toString value = text := by
        rw [loaded?_plain hscalar] at h
        cases value <;> exact Option.some.inj h
      exact htext ▸ .bool value
  | integer value =>
      rw [loaded?_plain hscalar, Value.ofScalar] at h
      split at h
      · cases h
      · next hnarrow => exact Option.some.inj h ▸ .integer (Bool.eq_false_iff.mpr hnarrow)
  | float value =>
      rw [loaded?_plain hscalar] at h
      have htext : String.ofList value.text = text := Option.some.inj h
      -- The text is a printed number now, and so it is the printed one that reads as the number.
      rw [← htext, String.toList_ofList] at hscalar
      exact htext ▸ .float hscalar
  | text other =>
      obtain rfl := Scalar.ofPlain_eq_text hscalar
      exact .word hscalar
  | _ =>
      rw [loaded?_plain hscalar] at h
      cases h

theorem loaded?_eq_self_iff {plain : Bool} {text : String} :
    loaded? plain text = some text ↔ (plain = true → Verbatim text) := by
  cases plain with
  | false => exact iff_of_true (loaded?_quoted text) nofun
  | true =>
      refine ⟨fun h _ => verbatim_of_loaded h, fun h => ?_⟩
      cases h rfl with
      | word hword =>
          rw [loaded?, Scalar.entered?_word hword]
          rfl
      | bool value => cases value <;> decide
      | @integer value hnarrow =>
          have hscalar : Scalar.ofPlain (toString value).toList = .integer value := by
            rw [Scalar.toList_toString, Scalar.ofPlain_numeral hnarrow]
          rw [loaded?_plain hscalar, Value.ofScalar, hnarrow]
          rfl
      | @float value hfloat =>
          have hscalar : Scalar.ofPlain (String.ofList value.text).toList = .float value := by
            rw [String.toList_ofList, hfloat]
          rw [loaded?_plain hscalar]
          rfl

/-! Payloads of a step, entry by entry. -/

variable {style : Style}

theorem bind_of_pair {pair : α → β → γ} {read : γ → Option δ} {make : α' → β' → δ}
    {first : α → Option α'} {second : β → Option β'}
    (h : ∀ a b, read (pair a b) = Option.map₂ make (first a) (second b)) (a? : Option α)
    (b? : Option β) :
    (Option.map₂ pair a? b?).bind read = Option.map₂ make (a?.bind first) (b?.bind second) := by
  cases a? with
  | none => rfl
  | some a =>
      cases b? with
      | none => simp
      | some b => exact h a b

theorem bind_of_single {one : α → γ} {read : γ → Option δ} {make : α' → δ} {first : α → Option α'}
    (h : ∀ a, read (one a) = (first a).map make) (a? : Option α) :
    (a?.map one).bind read = (a?.bind first).map make := by
  cases a? with
  | none => rfl
  | some a => exact h a

theorem entered_target (target : Target) (name : String) :
    (((Tree.mapping (targetEntries target)).entered? style name).bind fun value =>
        (Payload.target value).toOption) =
      target.mapFields? (loadedBy? style) := by
  rw [Tree.entered?, targetEntries, Tree.entriesEntered?_pair (by decide) (by decide),
    Option.bind_map]
  apply bind_of_pair
  exact Payload.target_record

theorem entered_assertion (assertion : Assertion) (name : String) :
    (((Tree.mapping (assertionEntries assertion)).entered? style name).bind fun value =>
        (Payload.assertion value).toOption) =
      assertion.mapFields? (loadedBy? style) := by
  have htag : Scalar.IsWord assertion.kind.tag := by
    cases assertion.kind <;> decide
  rw [Tree.entered?, Option.bind_map, assertionEntries, List.cons_append,
    Tree.entriesEntered?_word (by decide) htag, Option.bind_map]
  cases assertion with
  | hasText target expected =>
      change (Tree.entriesEntered? style
        [targetEntry target, ("expected", .text expected)]).bind _ = _
      rw [targetEntry, Tree.entriesEntered?_pair (by decide) (by decide), Assertion.mapFields?,
        ← entered_target target "target"]
      apply bind_of_pair
      exact Payload.assertion_hasText
  | hasUrl expected =>
      change (Tree.entriesEntered? style [("expected", .text expected)]).bind _ = _
      rw [Tree.entriesEntered?_single (by decide)]
      apply bind_of_single
      intro value
      exact Payload.assertion_single (by decide) rfl
        (Payload.AssertionFields.set_expected {} value) fun _ => rfl
  | _ target =>
      change (Tree.entriesEntered? style [targetEntry target]).bind _ = _
      rw [targetEntry, Tree.entriesEntered?_single (by decide), Assertion.mapFields?,
        ← entered_target target "target"]
      apply bind_of_single
      intro value
      exact Payload.assertion_single (by decide) rfl
        (Payload.AssertionFields.set_target {} value) fun _ => rfl

theorem entered_action (action : Action) :
    ((Tree.entriesEntered? style (actionEntries action)).bind fun values =>
        (Payload.action values).toOption) =
      action.mapFields? (loadedBy? style) := by
  have htag : Scalar.IsWord action.kind.tag := by
    cases action.kind <;> decide
  unfold actionEntries
  rw [Tree.entriesEntered?_word (by decide) htag, Option.bind_map]
  cases action with
  | click target =>
      change (Tree.entriesEntered? style [targetEntry target]).bind _ = _
      rw [targetEntry, Tree.entriesEntered?_single (by decide), Action.mapFields?,
        ← entered_target target "target"]
      apply bind_of_single
      intro value
      exact Payload.action_single (by decide) rfl (Payload.ActionFields.set_target {} value)
        fun _ => rfl
  | fill target value =>
      change (Tree.entriesEntered? style [targetEntry target, ("value", .text value)]).bind _ = _
      rw [targetEntry, Tree.entriesEntered?_pair (by decide) (by decide), Action.mapFields?,
        ← entered_target target "target"]
      apply bind_of_pair
      exact Payload.action_fill
  | verify assertion =>
      rw [Tree.entriesEntered?_single (by decide), Action.mapFields?,
        ← entered_assertion assertion "assertion"]
      apply bind_of_single
      intro value
      exact Payload.action_single (by decide) rfl (Payload.ActionFields.set_assertion {} value)
        fun _ => rfl
  | _ text =>
      rw [Tree.entriesEntered?_single (by decide)]
      apply bind_of_single
      exact Payload.action_text (by decide) rfl fun _ => rfl

/-! Steps, entry by entry. -/

theorem yields_required {trail : Trail} {name : String} (value? : Option α) :
    Yields (required trail name value?) value? := by
  cases value? with
  | none => exact .refused _
  | some value => exact .pure value

theorem yields_ofChecked {trail : Trail} (checked : Checked α) :
    Yields (ofChecked trail checked) checked.toOption := by
  cases checked with
  | error problem => exact .refused _
  | ok value => exact .pure value

theorem yields_describedBy (trail : Trail) (text : String) (plain : Bool) :
    Yields (describedBy trail (.scalar none text plain)) (loaded? plain text) :=
  (yields_scalar _ 0 text plain).bind fun value => yields_ofChecked (Payload.text value)

theorem yields_others {depth : Nat} {trail : Trail} {entries : List (String × Tree)}
    (hnames : ∀ entry ∈ entries, entry.1 ≠ "description" ∧ Scalar.IsWord entry.1)
    (hdepth : Tree.entriesHeight entries ≤ depth) (fields : StepFields) :
    Yields ((Tree.entriesStyled style entries).foldlM (entry trail (StepFields.read depth)) fields)
      ((Tree.entriesEntered? style entries).map fun values =>
        { fields with others := fields.others ++ values }) := by
  induction entries generalizing fields with
  | nil =>
      rw [Tree.entriesStyled, Tree.entriesEntered?, Option.map_some, List.append_nil]
      exact .pure fields
  | cons first entries ih =>
      obtain ⟨name, item⟩ := first
      rw [List.forall_mem_cons] at hnames
      rw [Tree.entriesHeight, Nat.max_le] at hdepth
      obtain ⟨hdescription, hword⟩ := hnames.1
      have hname : (name == "description") = false := beq_eq_false_iff_ne.mpr hdescription
      rw [Tree.entriesStyled, Tree.entriesEntered?_cons hword, List.foldlM_cons]
      have hkey : Gives (rawText trail (.scalar none name (style.key name))) name :=
        fun _ _ => rfl
      have hfirst : Yields
          (entry trail (StepFields.read depth) fields
            (.scalar none name (style.key name), item.styled style name))
          ((item.entered? style name).map fun value =>
            { fields with others := fields.others ++ [(.text name, value)] }) := by
        refine .after hkey ?_
        rw [StepFields.read, hname]
        exact (yields_untagged item name hdepth.1).map _
      simpa only [Option.bind_map, Option.map_bind, Option.map_map, Function.comp_def,
        List.append_assoc, List.singleton_append] using hfirst.bind (ih hnames.2 hdepth.2)

theorem names_action (action : Action) :
    (actionEntries action).map (·.1) = "action" :: Payload.ActionFields.names action.kind := by
  cases action <;> rfl

theorem word_of_mem_action {action : Action} {entry : String × Tree}
    (h : entry ∈ actionEntries action) : entry.1 ≠ "description" ∧ Scalar.IsWord entry.1 := by
  have hnames : ∀ kind, ∀ name ∈ "action" :: Payload.ActionFields.names kind,
      name ≠ "description" ∧ Scalar.IsWord name := by
    intro kind
    cases kind <;> decide
  apply hnames action.kind
  rw [← names_action]
  exact List.mem_map_of_mem h

theorem yields_description (trail : Trail) (depth : Nat) (text : String) :
    Yields (entry trail (StepFields.read depth) {}
        (.scalar none "description" (style.key "description"),
          .scalar none text (style.text "description")))
      ((loadedBy? style "description" text).map fun description =>
        { description := some description }) := by
  have hkey : Gives (rawText trail (.scalar none "description" (style.key "description")))
      "description" := fun _ _ => rfl
  have hread := ((yields_describedBy (trail ++ [.key "description"]) text
    (style.text "description")).map some).map fun description : Option String =>
      ({ description } : StepFields)
  rw [Option.map_map] at hread
  exact .after hkey hread

/-- What has been read of a step before its payload is looked at. -/
def fieldsOf? (style : Style) (written : Step) : Option StepFields :=
  Option.map₂ (fun description others => { description := some description, others })
    (loadedBy? style "description" written.description)
    (Tree.entriesEntered? style (actionEntries written.action))

theorem yields_fields (written : Step) (trail : Trail) (depth : Nat) :
    Yields (record trail (StepFields.read (depth + 2)) {}
        ((Tree.mapping (stepEntries written)).styled style ""))
      (fieldsOf? style written) := by
  have hdepth : Tree.entriesHeight (actionEntries written.action) ≤ depth + 2 :=
    Nat.le_trans (entriesHeight_action written.action) (Nat.le_add_left 2 depth)
  have hfollow : Gives (follow trail ((Tree.mapping (stepEntries written)).styled style ""))
      (.mapping none (Tree.entriesStyled style (stepEntries written))) := by
    rw [Tree.styled]
    exact fun _ _ => rfl
  have hentries : Tree.entriesStyled style (stepEntries written) =
      (.scalar none "description" (style.key "description"),
        .scalar none written.description (style.text "description")) ::
          Tree.entriesStyled style (actionEntries written.action) := by
    rw [stepEntries, Tree.entriesStyled, Tree.styled]
  -- The description comes first and leaves the other fields empty.
  have hvalue : fieldsOf? style written =
      ((loadedBy? style "description" written.description).map fun description =>
        ({ description := some description } : StepFields)).bind fun fields =>
          (Tree.entriesEntered? style (actionEntries written.action)).map fun others =>
            { fields with others := fields.others ++ others } := by
    rw [Option.bind_map]
    rfl
  refine .after hfollow ?_
  dsimp only
  rw [hentries, List.foldlM_cons, hvalue]
  exact (yields_description trail (depth + 2) written.description).bind
    (yields_others (fun _ hentry => word_of_mem_action hentry) hdepth)

theorem mapFields?_loadedBy (written : Step) :
    written.mapFields? (loadedBy? style) =
      (fieldsOf? style written).bind fun fields =>
        fields.description.bind fun description =>
          (Payload.action fields.others).toOption.map (Step.mk description) := by
  rw [Step.mapFields?, ← entered_action, fieldsOf?]
  cases loadedBy? style "description" written.description with
  | none => rfl
  | some description =>
      cases Tree.entriesEntered? style (actionEntries written.action) with
      | none => simp
      | some others => rfl

/-- A step that is entered by hand is accepted if and only if each of its texts is, and then holds
what each is loaded as. All quoted texts are kept, and a plain one only if it is written the way
in which its scalar is. -/
theorem step_loaded (written : Step) (style : Style) (trail : Trail) (depth : Nat) :
    Yields (SuiteFile.step (depth + 2) trail ((Tree.mapping (stepEntries written)).styled style ""))
        (written.mapFields? (loadedBy? style)) ∧
      (written.mapFields? (loadedBy? style) = some written ↔
        ∀ field ∈ written.fields, style.text field.1 = true → Verbatim field.2) := by
  constructor
  · rw [mapFields?_loadedBy]
    exact (yields_fields written trail depth).bind fun fields =>
      (yields_required fields.description).bind fun description =>
        (yields_ofChecked (Payload.action fields.others)).map (Step.mk description)
  · simp only [Step.mapFields?_eq_self_iff, Keeps, loadedBy?, loaded?_eq_self_iff]

/-- A step in a file, but for the name of its picture. -/
def pictureLead : String :=
  "description: keep it\naction: screenshot\nname: "

/-- A plain name that looks like a number is replaced by the number. -/
theorem readStep_picture :
    readStep (pictureLead ++ "1.0\n") = .ok ⟨"keep it", .screenshot "1"⟩ ∧
      readStep (pictureLead ++ "'1.0'\n") = .ok ⟨"keep it", .screenshot "1.0"⟩ := by
  decide +kernel

end SuiteScribe.SuiteFile
