import SuiteScribe.Proofs.Suite.Demands

namespace SuiteScribe

open Text

/-! A target can be told in one answer, its role and its name with white space between them, or in
two. -/

theorem Text.trim_combined {role gap name : List Char} (hrole : ∀ c ∈ role, isBlank c = false)
    (hne : role ≠ []) (hname : trim name ≠ []) :
    trim (role ++ (gap ++ name)) = role ++ (gap ++ trimEnd name) := by
  have hend : trimEnd name ≠ [] := by
    intro hnil
    rw [← trim_trimEnd, hnil] at hname
    exact hname rfl
  have hstart : trimStart (role ++ (gap ++ name)) = role ++ (gap ++ name) := by
    obtain ⟨first, others, rfl⟩ := List.exists_cons_of_ne_nil hne
    exact trimStart_cons_word (hrole first List.mem_cons_self) _
  rw [trim, hstart, ← List.append_assoc, trimEnd_append _ hend, List.append_assoc]

/-- The parts that a combined answer is put together from. -/
structure Combination (role gap name : String) : Prop where
  unbroken : Unbroken role
  role_ne_empty : role ≠ ""
  blank_gap : blank gap = true
  gap_ne_empty : gap ≠ ""
  name_not_blank : blank name = false

namespace Combination

variable {role gap name : String}

theorem filled_role (h : Combination role gap name) : Filled role :=
  ⟨h.unbroken.trimmed_eq, h.role_ne_empty⟩

theorem trim_eq (h : Combination role gap name) :
    trim (role ++ gap ++ name).toList =
      role.toList ++ (gap.toList ++ trimEnd name.toList) := by
  have hrole : role.toList ≠ [] := by simpa using h.role_ne_empty
  rw [String.toList_append, String.toList_append, List.append_assoc]
  exact trim_combined h.unbroken hrole (trim_ne_nil h.name_not_blank)

theorem isBlank_of_mem_gap (h : Combination role gap name) :
    ∀ c ∈ gap.toList, isBlank c = true :=
  List.all_eq_true.mp h.blank_gap

theorem exists_blank (h : Combination role gap name) :
    ∃ c rest, gap.toList = c :: rest ∧ isBlank c = true := by
  have hne : gap.toList ≠ [] := by simpa using h.gap_ne_empty
  obtain ⟨c, rest, hgap⟩ := List.exists_cons_of_ne_nil hne
  exact ⟨c, rest, hgap, h.isBlank_of_mem_gap c (by simp [hgap])⟩

theorem not_blank (h : Combination role gap name) : blank (role ++ gap ++ name) = false := by
  have hname : name.toList.all isBlank = false := h.name_not_blank
  rw [blank, String.toList_append, List.all_append, hname, Bool.and_false]

/-- A combined answer holds white space, so that no name is asked for behind it. -/
theorem any_isBlank (h : Combination role gap name) :
    (trimmed (role ++ gap ++ name)).toList.any isBlank = true := by
  obtain ⟨c, rest, hgap, hc⟩ := h.exists_blank
  rw [trimmed, String.toList_ofList, h.trim_eq, hgap]
  simp [hc]

theorem parse_eq (h : Combination role gap name) :
    Target.parse (role ++ gap ++ name) = { role, name := trimmed name } := by
  have hword : ∀ c ∈ role.toList, (!isBlank c) = true := by simpa [Unbroken] using h.unbroken
  -- The first white space is that of the gap.
  have hgap : (gap.toList ++ trimEnd name.toList).takeWhile (!isBlank ·) = [] ∧
      (gap.toList ++ trimEnd name.toList).dropWhile (!isBlank ·) =
        gap.toList ++ trimEnd name.toList := by
    obtain ⟨c, rest, hgap, hc⟩ := h.exists_blank
    simp [hgap, hc]
  simp only [Target.parse, h.trim_eq]
  rw [List.takeWhile_append_of_pos hword, List.dropWhile_append_of_pos hword, hgap.1, hgap.2,
    List.append_nil, String.ofList_toList, trim_blank_append h.isBlank_of_mem_gap,
    trim_trimEnd, trimmed]

end Combination

namespace Draft

theorem target?_of_name {draft : Draft} {role name : String} (hrole : draft.role = some role)
    (hname : draft.name = some name) (hfilled : Filled role) :
    draft.target? = some { role, name := trimmed name } := by
  simp [target?, hrole, hname, present_some hfilled]

/-- Drafts are interchangeable if they tell the same target, each in its own form, and are alike in
all else. -/
inductive Interchangeable : Draft → Draft → Prop
  | told (draft : Draft) {role name otherRole otherName : Option String}
      (h : target? { draft with role, name } =
        target? { draft with role := otherRole, name := otherName }) :
      Interchangeable { draft with role, name }
        { draft with role := otherRole, name := otherName }

namespace Interchangeable

variable {first second : Draft}

theorem requireTarget_eq (h : Interchangeable first second) :
    first.requireTarget = second.requireTarget := by
  cases h with
  | told draft h => rw [requireTarget, requireTarget, h]

theorem encodeAssertion_eq (h : Interchangeable first second) :
    first.encodeAssertion = second.encodeAssertion := by
  have htarget := h.requireTarget_eq
  cases h with
  | told draft h => simp only [encodeAssertion_eq_match, htarget]

theorem encode_eq (h : Interchangeable first second) : first.encode = second.encode := by
  have htarget := h.requireTarget_eq
  have hassertion := h.encodeAssertion_eq
  cases h with
  | told draft h => simp only [encode, encodeAction, htarget, hassertion]

/-! They remain so when the same is entered into both of them. -/

theorem chosen (h : Interchangeable first second) (kind : AssertionKind) :
    Interchangeable { first with assertion := some kind }
      { second with assertion := some kind } := by
  cases h with
  | told draft h => exact told { draft with assertion := some kind } h

theorem stated (h : Interchangeable first second) (statement : String) :
    Interchangeable { first with kind := .custom, customStatement := some statement }
      { second with kind := .custom, customStatement := some statement } := by
  cases h with
  | told draft h => exact told { draft with kind := .custom, customStatement := some statement } h

theorem filled (h : Interchangeable first second) (text : String) (field : StepField) :
    Interchangeable (first.filled text field) (second.filled text field) := by
  cases h with
  | told draft h =>
      cases field with
      | targetRole => exact told draft rfl
      | description => exact told (draft.filled text .description) h
      | fillValue => exact told (draft.filled text .fillValue) h
      | assertion => exact told (draft.filled text .assertion) h
      | assertionExpected => exact told (draft.filled text .assertionExpected) h
      | navigateTarget => exact told (draft.filled text .navigateTarget) h
      | screenshotName => exact told (draft.filled text .screenshotName) h
      | customStatement => exact told (draft.filled text .customStatement) h

theorem named (h : Interchangeable first second) (role name : Option String) :
    Interchangeable { first with role, name } { second with role, name } := by
  cases h with
  | told draft h => exact told draft rfl

end Interchangeable

/-! The combined answer tells both parts of the target, as it was given and as it arrives, and is
interchangeable with the two answers. -/

section

variable {role gap name text : String} (h : Combination role gap name)
  (htext : trimmed text = trimmed (role ++ gap ++ name))

include h htext

theorem target?_combined {draft : Draft} (hrole : draft.role = some text)
    (hname : draft.name = none) :
    draft.target? = some { role, name := trimmed name } := by
  have hblank : blank text = false := by
    rw [Bool.eq_false_iff, Ne, ← trimmed_eq_empty_iff, htext]
    exact (filled_trimmed h.not_blank).ne_empty
  have hparse : Target.parse text = { role, name := trimmed name } := by
    rw [← parse_trimmed, htext, parse_trimmed, h.parse_eq]
  simp [target?, present, hrole, hname, hblank, parse_trimmed, hparse]

theorem interchangeable_combined {other : String} (hother : trimmed other = trimmed name)
    (draft : Draft) :
    Interchangeable { draft with role := some text, name := none }
      { draft with role := some role, name := some other } := by
  refine .told draft ?_
  rw [target?_combined h htext rfl rfl, target?_of_name rfl rfl h.filled_role, hother]

end

end Draft

end SuiteScribe

namespace SuiteScribe.Target

open Text

/-! The combined form of a target. A target that has a role and is written in that form is read as
it was, and a target that was read has a role unless nothing was there to read. -/

theorem parse_of_unbroken {role : String} (h : Unbroken role) :
    parse role = { role, name := "" } := by
  have htrim : trim role.toList = role.toList := by
    rw [← String.toList_ofList (l := trim role.toList), ← trimmed, h.trimmed_eq]
  have hword : ∀ c ∈ role.toList, (!isBlank c) = true := by simpa [Unbroken] using h
  simp only [parse, htrim]
  rw [List.takeWhile_eq_self_iff.mpr hword, List.dropWhile_eq_nil_iff.mpr hword,
    String.ofList_toList]
  rfl

theorem parse_of_blank {raw : String} (h : blank raw = true) :
    parse raw = { role := "", name := "" } := by
  rw [← Draft.parse_trimmed, (trimmed_eq_empty_iff raw).mpr h]
  exact parse_of_unbroken (List.forall_mem_nil _)

theorem parse_normalForm_of_not_blank {raw : String} (h : blank raw = false) :
    (parse raw).NormalForm := by
  rw [← Draft.parse_trimmed]
  exact Draft.parse_normalForm (filled_trimmed h)

theorem combined_of_unnamed {target : Target} (h : target.name = "") :
    target.combined = target.role := by
  rw [combined, h]
  rfl

theorem combined_of_named {target : Target} (h : target.name ≠ "") :
    target.combined = target.role ++ " " ++ target.name := by
  rw [combined, if_neg (by simpa using h)]

theorem NormalForm.combination {target : Target} (h : target.NormalForm)
    (hname : target.name ≠ "") : Combination target.role " " target.name where
  unbroken := h.role_unbroken
  role_ne_empty := h.role.ne_empty
  blank_gap := by decide
  gap_ne_empty := by decide
  name_not_blank := Filled.not_blank ⟨h.name, hname⟩

theorem NormalForm.parse_combined {target : Target} (h : target.NormalForm) :
    parse target.combined = target := by
  by_cases hname : target.name = ""
  · rw [combined_of_unnamed hname, parse_of_unbroken h.role_unbroken, ← hname]
  · rw [combined_of_named hname, (h.combination hname).parse_eq, h.name]

/-- Reading and writing the combined form of targets undo each other. Whatever is read gives a role
without white space, which is empty only for a blank text, and a trimmed name, and writing these out
and reading them again gives the same target; and every target of such a role and name that has a
role at all is read from what is written for it. -/
theorem combined_form_inverse (raw : String) :
    (Unbroken (parse raw).role ∧ trimmed (parse raw).name = (parse raw).name ∧
        ((parse raw).role = "" ↔ blank raw = true) ∧
        parse (parse raw).combined = parse raw) ∧
      ∀ target : Target, target.role ≠ "" → Unbroken target.role →
        trimmed target.name = target.name → parse target.combined = target := by
  constructor
  · cases hblank : blank raw with
    | true =>
        rw [parse_of_blank hblank]
        decide
    | false =>
        have hnormal := parse_normalForm_of_not_blank hblank
        have hrole : (parse raw).role ≠ "" := hnormal.role.ne_empty
        exact ⟨hnormal.role_unbroken, hnormal.name, iff_of_false hrole Bool.false_ne_true,
          hnormal.parse_combined⟩
  · intro target hrole hunbroken hname
    have hnormal : target.NormalForm := ⟨⟨hunbroken.trimmed_eq, hrole⟩, hunbroken, hname⟩
    exact hnormal.parse_combined

/-- A target whose name has white space of several kinds inside it. -/
def spacedTarget : Target :=
  { role := "textbox", name := "E-mail\u00a0 address\t(work)" }

theorem combined_form_inverse_spaced :
    spacedTarget.role ≠ "" ∧ Unbroken spacedTarget.role ∧
      trimmed spacedTarget.name = spacedTarget.name ∧
      parse spacedTarget.combined = spacedTarget := by
  have hrole : spacedTarget.role ≠ "" := by decide
  have hunbroken : Unbroken spacedTarget.role := by decide
  have hname : trimmed spacedTarget.name = spacedTarget.name := by decide
  obtain ⟨-, hwritten⟩ := combined_form_inverse spacedTarget.combined
  exact ⟨hrole, hunbroken, hname, hwritten spacedTarget hrole hunbroken hname⟩

end SuiteScribe.Target
