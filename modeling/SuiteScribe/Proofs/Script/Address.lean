import Mathlib.Data.List.TakeWhile
import SuiteScribe.Proofs.Script.Escaping
import SuiteScribe.Proofs.Suite.Agreement
import SuiteScribe.SuiteFile

namespace SuiteScribe

open Text

namespace Draft

variable {draft : Draft} {target : Target}

/-! The target of a step that was told is the target of its draft. -/

theorem requireTarget_of_encodeAssertion {assertion : Assertion}
    (h : draft.encodeAssertion = .ok assertion) (htarget : assertion.target? = some target) :
    draft.requireTarget = .ok target := by
  cases makesAssertion_of_ok h with
  | hasUrl => cases htarget
  | visible _ hfound | hasText _ hfound _ | enabled _ hfound | disabled _ hfound =>
      cases htarget
      exact hfound

theorem requireTarget_of_encode {step : Step} (h : draft.encode = .ok step)
    (htarget : step.action.target? = some target) : draft.requireTarget = .ok target := by
  obtain ⟨description, action⟩ := step
  cases makesAction_of_ok (encode_eq_ok h).2 with
  | click _ hfound | fill _ hfound _ =>
      cases htarget
      exact hfound
  | verify _ hassertion => exact requireTarget_of_encodeAssertion hassertion htarget
  | navigate | screenshot | custom => cases htarget

theorem name_of_requireTarget {name : String} (h : draft.requireTarget = .ok target)
    (hname : draft.name = some name) : target.name = trimmed name := by
  cases hrole : present draft.role with
  | none => simp [requireTarget, target?, hrole] at h
  | some role =>
      have htarget : { role, name := trimmed name } = target := by
        simpa [requireTarget, target?, hrole, hname] using h
      rw [← htarget]

end Draft

namespace Script

/-! Locators with and without a name. A name is left out if it is empty. Names that are told are
trimmed, and then a blank one is empty. A name that is read from a file may be blank and not
empty. -/

/-- The locator looks for an accessible name beside the role. -/
def FiltersByName (target : Target) : Prop :=
  ∃ name, locator target =
    "page.getByRole(" ++ quote target.role ++ ", \x7b name: " ++ quote name ++ " \x7d)"

theorem locator_of_empty {target : Target} (h : target.name = "") :
    locator target = "page.getByRole(" ++ quote target.role ++ ")" := by
  rw [locator, h]
  rfl

theorem filtersByName_iff (target : Target) : FiltersByName target ↔ target.name ≠ "" := by
  constructor
  · rintro ⟨name, hname⟩ hempty
    rw [locator_of_empty hempty, ← String.toList_inj] at hname
    simp at hname
  · intro hne
    have hname : target.name.isEmpty = false := by simpa using hne
    refine ⟨target.name, ?_⟩
    rw [locator, hname]
    rfl

theorem filtersByName_of_trimmed {target : Target} {text : String}
    (h : target.name = trimmed text) : FiltersByName target ↔ blank text = false := by
  rw [filtersByName_iff, h, ne_eq, trimmed_eq_empty_iff, Bool.not_eq_true]

theorem trimmed_name_of_encode {draft : Draft} {step : Step} {target : Target}
    (h : draft.encode = .ok step) (htarget : step.action.target? = some target) :
    target.name = trimmed target.name := by
  have hfound := Draft.requireTarget_of_encode h htarget
  exact ((Draft.requireTarget_settled hfound).1 target.name (.tail _ (.head _))).symm

/-- A target is looked for by its name if and only if the name has something else than white space
in it, unless the name is blank and yet not empty. No name that was told is, be it told behind the
role or apart from it; and where no name is looked for, the role alone is. -/
theorem name_filter_of_target {step : Step} {target : Target}
    (htarget : step.action.target? = some target) :
    ((FiltersByName target ↔ blank target.name = false) ↔
        ¬(blank target.name = true ∧ target.name ≠ "")) ∧
      (¬FiltersByName target → locator target = "page.getByRole(" ++ quote target.role ++ ")") ∧
      ∀ draft : Draft, draft.encode = .ok step →
        (FiltersByName target ↔ blank target.name = false) ∧
          ∀ name, draft.name = some name → (FiltersByName target ↔ blank name = false) := by
  refine ⟨?_, ?_, ?_⟩
  · have hempty : target.name = "" → blank target.name = true := by
      intro h
      rw [h]
      rfl
    rw [filtersByName_iff]
    cases hblank : blank target.name with
    | true => simp
    | false =>
        have hne : target.name ≠ "" := fun h => Bool.false_ne_true (hblank.symm.trans (hempty h))
        simpa using hne
  · intro hnone
    exact locator_of_empty (not_not.mp ((filtersByName_iff target).not.mp hnone))
  · intro draft hdraft
    refine ⟨filtersByName_of_trimmed (trimmed_name_of_encode hdraft htarget), fun name hname => ?_⟩
    have hfound := Draft.requireTarget_of_encode hdraft htarget
    exact filtersByName_of_trimmed (Draft.name_of_requireTarget hfound hname)

/-- A click that is told, with white space for a name. -/
def unnamedDraft : Draft :=
  { description := "press it", kind := .click, role := some "button", name := some " " }

theorem name_filter_of_target_unnamed :
    Action.target? (.click ⟨"button", ""⟩) = some ⟨"button", ""⟩ ∧
      unnamedDraft.encode = .ok ⟨"press it", .click ⟨"button", ""⟩⟩ ∧
      ¬FiltersByName ⟨"button", ""⟩ ∧ locator ⟨"button", ""⟩ = "page.getByRole('button')" := by
  have hencode : unnamedDraft.encode = .ok ⟨"press it", .click ⟨"button", ""⟩⟩ := by decide
  obtain ⟨-, hrole, htold⟩ :=
    @name_filter_of_target ⟨"press it", .click ⟨"button", ""⟩⟩ ⟨"button", ""⟩ rfl
  have hunnamed : ¬FiltersByName ⟨"button", ""⟩ := by
    rw [(htold unnamedDraft hencode).2 " " rfl]
    decide
  exact ⟨rfl, hencode, hunnamed, (hrole hunnamed).trans (by decide)⟩

/-- The same click in a file. -/
def unnamedText : String :=
  "description: press it\naction: click\ntarget:\n  role: button\n  name: ' '\n"

/-- A blank name in a file is accepted and looked for. -/
theorem readStep_unnamed :
    SuiteFile.readStep unnamedText = .ok ⟨"press it", .click ⟨"button", " "⟩⟩ ∧
      Step.missing? ⟨"press it", .click ⟨"button", " "⟩⟩ = none ∧
      locator ⟨"button", " "⟩ = "page.getByRole('button', \x7b name: ' ' \x7d)" ∧
      ¬(FiltersByName ⟨"button", " "⟩ ↔ blank " " = false) := by
  refine ⟨by decide +kernel, by decide, by decide, fun h => ?_⟩
  have hblank : blank " " = false := h.mp ((filtersByName_iff _).mpr (by decide))
  exact absurd hblank (by decide)

end Script

end SuiteScribe

namespace SuiteScribe.Script

/-! Addresses. What is joined to one is the base without the slashes at its end and the path without
the slashes at its front, so that it does not matter how many there are. -/

def slashes (n : Nat) : String :=
  String.ofList (List.replicate n '/')

/-- A base is its front and slashes behind it, and the front does not end with one. -/
structure Front (base front : String) : Prop where
  base_eq : ∃ n, base = front ++ slashes n
  bare : front.toList.getLast? ≠ some '/'

/-- A path is its rest and slashes before it, and the rest does not begin with one. -/
structure Rest (path rest : String) : Prop where
  path_eq : ∃ n, path = slashes n ++ rest
  bare : rest.toList.head? ≠ some '/'

/-! Leading slashes are dropped, all of them and nothing else. -/

theorem dropLeadingSlashes_append (n : Nat) (text : List Char) :
    dropLeadingSlashes (List.replicate n '/' ++ text) = dropLeadingSlashes text :=
  List.dropWhile_append_of_pos fun _ hc => beq_iff_eq.mpr (List.eq_of_mem_replicate hc)

theorem dropLeadingSlashes_eq_self {text : List Char} (h : text.head? ≠ some '/') :
    dropLeadingSlashes text = text := by
  cases text with
  | nil => rfl
  | cons c rest =>
      have hc : c ≠ '/' := by simpa using h
      exact List.dropWhile_cons_of_neg (by simpa using hc)

theorem exists_slashes_append (text : List Char) :
    ∃ n, text = List.replicate n '/' ++ dropLeadingSlashes text := by
  have hslash : ∀ c ∈ text.takeWhile (· == '/'), c = '/' := fun c hc =>
    beq_iff_eq.mp (List.mem_takeWhile_imp (p := (· == '/')) hc)
  refine ⟨(text.takeWhile (· == '/')).length, ?_⟩
  rw [← List.eq_replicate_of_mem hslash, dropLeadingSlashes, List.takeWhile_append_dropWhile]

theorem head?_dropLeadingSlashes (text : List Char) :
    (dropLeadingSlashes text).head? ≠ some '/' := by
  intro h
  have hnot := List.head?_dropWhile_not (· == '/') text
  rw [← dropLeadingSlashes, h] at hnot
  cases hnot

/-! Trailing slashes are leading ones of the reversed text. -/

theorem dropTrailingSlashes_eq_reverse (text : List Char) :
    dropTrailingSlashes text = (dropLeadingSlashes text.reverse).reverse :=
  rfl

theorem Rest.dropLeadingSlashes_eq {path rest : String} (h : Rest path rest) :
    dropLeadingSlashes path.toList = rest.toList := by
  obtain ⟨n, rfl⟩ := h.path_eq
  rw [slashes, String.toList_append, String.toList_ofList, dropLeadingSlashes_append,
    dropLeadingSlashes_eq_self h.bare]

theorem Front.dropTrailingSlashes_eq {base front : String} (h : Front base front) :
    dropTrailingSlashes base.toList = front.toList := by
  obtain ⟨n, rfl⟩ := h.base_eq
  have hbare : front.toList.reverse.head? ≠ some '/' := by
    rw [List.head?_reverse]
    exact h.bare
  rw [slashes, String.toList_append, String.toList_ofList, dropTrailingSlashes_eq_reverse,
    List.reverse_append, List.reverse_replicate, dropLeadingSlashes_append,
    dropLeadingSlashes_eq_self hbare, List.reverse_reverse]

theorem exists_rest (path : String) : ∃ rest, Rest path rest := by
  obtain ⟨n, hparts⟩ := exists_slashes_append path.toList
  refine ⟨String.ofList (dropLeadingSlashes path.toList), ⟨n, ?_⟩, ?_⟩
  · rw [slashes, ← String.ofList_append, ← hparts, String.ofList_toList]
  · rw [String.toList_ofList]
    exact head?_dropLeadingSlashes path.toList

theorem exists_front (base : String) : ∃ front, Front base front := by
  obtain ⟨n, hparts⟩ := exists_slashes_append base.toList.reverse
  have hbase : dropTrailingSlashes base.toList ++ List.replicate n '/' = base.toList := by
    rw [dropTrailingSlashes_eq_reverse, ← List.reverse_replicate, ← List.reverse_append,
      ← hparts, List.reverse_reverse]
  refine ⟨String.ofList (dropTrailingSlashes base.toList), ⟨n, ?_⟩, ?_⟩
  · rw [slashes, ← String.ofList_append, hbase, String.ofList_toList]
  · rw [String.toList_ofList, dropTrailingSlashes_eq_reverse, List.getLast?_reverse]
    exact head?_dropLeadingSlashes base.toList.reverse

/-! More slashes leave the same front and the same rest. -/

theorem slashes_append (n m : Nat) : slashes n ++ slashes m = slashes (n + m) := by
  rw [slashes, slashes, slashes, ← String.ofList_append, List.replicate_append_replicate]

theorem Front.append {base front : String} (h : Front base front) (n : Nat) :
    Front (base ++ slashes n) front := by
  obtain ⟨k, rfl⟩ := h.base_eq
  exact ⟨⟨k + n, by rw [String.append_assoc, slashes_append]⟩, h.bare⟩

theorem Rest.append {path rest : String} (h : Rest path rest) (n : Nat) :
    Rest (slashes n ++ path) rest := by
  obtain ⟨k, rfl⟩ := h.path_eq
  exact ⟨⟨n + k, by rw [← String.append_assoc, slashes_append]⟩, h.bare⟩

/-! A path without anything but slashes is told apart, though it need not be. -/

theorem joinUrl_eq_append (base path : String) :
    joinUrl base path =
      String.ofList (dropTrailingSlashes base.toList ++ '/' :: dropLeadingSlashes path.toList) := by
  rw [joinUrl, ← String.toList_inj, String.toList_ofList]
  split
  · next hempty =>
      have hnil : dropLeadingSlashes path.toList = [] := by simpa using hempty
      rw [hnil, String.toList_append, String.toList_ofList]
      rfl
  · rw [String.toList_append, String.toList_append, String.toList_ofList, List.append_assoc]
    simp

theorem joinUrl_of_parts {base path front rest : String} (hfront : Front base front)
    (hrest : Rest path rest) : joinUrl base path = front ++ "/" ++ rest := by
  rw [joinUrl_eq_append, hfront.dropTrailingSlashes_eq, hrest.dropLeadingSlashes_eq,
    ← String.toList_inj, String.toList_ofList, String.toList_append, String.toList_append,
    List.append_assoc]
  rfl

/-- Exactly one slash stands between base and path. What is before it does not end with a slash and
what is behind it does not begin with one; slashes that are added to the base or put before the path
are not seen in the address; and where nothing is left of the path, the address is as elsewhere. -/
theorem joinUrl_exactly_one_slash (base path : String) :
    (∃ front rest, Front base front ∧ Rest path rest ∧
        joinUrl base path = front ++ "/" ++ rest) ∧
      (∀ n m, joinUrl (base ++ slashes n) (slashes m ++ path) = joinUrl base path) ∧
      joinUrl base path =
        String.ofList
          (dropTrailingSlashes base.toList ++ '/' :: dropLeadingSlashes path.toList) := by
  obtain ⟨front, hfront⟩ := exists_front base
  obtain ⟨rest, hrest⟩ := exists_rest path
  have hjoin : joinUrl base path = front ++ "/" ++ rest := joinUrl_of_parts hfront hrest
  refine ⟨⟨front, rest, hfront, hrest, hjoin⟩, fun n m => ?_, joinUrl_eq_append base path⟩
  rw [hjoin, joinUrl_of_parts (hfront.append n) (hrest.append m)]

example : joinUrl "///" "" = "/" ∧ joinUrl "" "//a/" = "/a/" := by decide

end SuiteScribe.Script
