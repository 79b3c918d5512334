import SuiteScribe.Files

namespace SuiteScribe.Files

/-! Cutting at slashes and joining with slashes undo each other on pieces without slashes. -/

theorem splitSlashes_of_not_mem {piece : List Char} (h : '/' ∉ piece) :
    splitSlashes piece = [piece] := by
  induction piece with
  | nil => rfl
  | cons c piece ih =>
      rw [List.mem_cons, not_or] at h
      have hslash : (c == '/') = false := beq_eq_false_iff_ne.mpr (Ne.symm h.1)
      rw [splitSlashes, ih h.2, hslash]
      rfl

theorem splitSlashes_ne_nil (text : List Char) : splitSlashes text ≠ [] := by
  cases text with
  | nil => exact List.cons_ne_nil _ _
  | cons c text =>
      rw [splitSlashes]
      split
      · exact List.cons_ne_nil _ _
      · cases splitSlashes text <;> exact List.cons_ne_nil _ _

theorem splitSlashes_append_slash (front rest : List Char) :
    splitSlashes (front ++ '/' :: rest) = splitSlashes front ++ splitSlashes rest := by
  induction front with
  | nil => rfl
  | cons c front ih =>
      rw [List.cons_append, splitSlashes, splitSlashes, ih]
      split
      · rfl
      · cases hpieces : splitSlashes front with
        | nil => exact absurd hpieces (splitSlashes_ne_nil front)
        | cons piece pieces => rfl

theorem splitSlashes_append {piece : List Char} (h : '/' ∉ piece) (rest : List Char) :
    splitSlashes (piece ++ '/' :: rest) = piece :: splitSlashes rest := by
  rw [splitSlashes_append_slash, splitSlashes_of_not_mem h, List.singleton_append]

/-- What is put in front of a text joins its first piece. -/
theorem splitSlashes_within {piece text first : List Char} {others : List (List Char)}
    (h : '/' ∉ piece) (htext : splitSlashes text = first :: others) :
    splitSlashes (piece ++ text) = (piece ++ first) :: others := by
  induction piece with
  | nil => exact htext
  | cons c piece ih =>
      rw [List.mem_cons, not_or] at h
      have hslash : (c == '/') = false := beq_eq_false_iff_ne.mpr (Ne.symm h.1)
      rw [List.cons_append, splitSlashes, ih h.2, hslash]
      rfl

theorem slash_not_mem_splitSlashes (text : List Char) :
    ∀ piece ∈ splitSlashes text, '/' ∉ piece := by
  induction text with
  | nil => simp [splitSlashes]
  | cons c text ih =>
      rw [splitSlashes]
      split
      · exact List.forall_mem_cons.mpr ⟨List.not_mem_nil, ih⟩
      · next hslash =>
          have hc : '/' ≠ c := fun heq => hslash (beq_iff_eq.mpr heq.symm)
          cases hpieces : splitSlashes text with
          | nil => simp [hc]
          | cons first others =>
              rw [hpieces, List.forall_mem_cons] at ih
              exact List.forall_mem_cons.mpr ⟨by simp [hc, ih.1], ih.2⟩

theorem splitSlashes_joinSlashes {pieces : List (List Char)} (hne : pieces ≠ [])
    (h : ∀ piece ∈ pieces, '/' ∉ piece) : splitSlashes (joinSlashes pieces) = pieces := by
  induction pieces with
  | nil => exact absurd rfl hne
  | cons piece pieces ih =>
      rw [List.forall_mem_cons] at h
      cases pieces with
      | nil =>
          rw [joinSlashes, List.intercalate_singleton]
          exact splitSlashes_of_not_mem h.1
      | cons next pieces =>
          rw [joinSlashes, List.intercalate_cons_cons, List.append_assoc, List.singleton_append,
            splitSlashes_append h.1]
          exact congrArg _ (ih (List.cons_ne_nil _ _) h.2)

/-! The parts of a path are those of its text again. -/

/-- A part that is read from its own text. -/
def Part.Plain (part : Part) : Prop :=
  Part.ofText? part.text = some part ∧ '/' ∉ part.text

theorem Part.plain_of_ofText? {text : List Char} {part : Part} (hslash : '/' ∉ text)
    (h : Part.ofText? text = some part) : part.Plain := by
  have htext : part.text = text := by
    rw [Part.ofText?] at h
    split at h
    · cases h
    · split at h
      · next hup =>
          cases h
          exact (eq_of_beq hup).symm
      · cases h
        rfl
  rw [Part.Plain, htext]
  exact ⟨h, hslash⟩

theorem Part.filterMap_text {list : List Part} (h : ∀ part ∈ list, part.Plain) :
    (list.map Part.text).filterMap Part.ofText? = list := by
  induction list with
  | nil => rfl
  | cons part list ih =>
      rw [List.forall_mem_cons] at h
      rw [List.map_cons, List.filterMap_cons, h.1.1, ih h.2]

/-- Parts as a path has them. The first one may be a single dot where the path does not start with
a slash, and all others are read from their texts. -/
def Orderly (absolute : Bool) : List Part → Prop
  | [] => True
  | first :: rest =>
      (first.Plain ∨ first = .here ∧ absolute = false) ∧ ∀ part ∈ rest, part.Plain

theorem orderly_of_plain {absolute : Bool} {list : List Part} (h : ∀ part ∈ list, part.Plain) :
    Orderly absolute list := by
  cases list with
  | nil => trivial
  | cons first rest =>
      rw [List.forall_mem_cons] at h
      exact ⟨.inl h.1, h.2⟩

theorem orderly_parts (path : String) : Orderly (isAbsolute path) (parts path) := by
  have hplain : ∀ part ∈ (splitSlashes path.toList).filterMap Part.ofText?, part.Plain := by
    intro part hpart
    obtain ⟨piece, hpiece, hread⟩ := List.mem_filterMap.mp hpart
    exact Part.plain_of_ofText? (slash_not_mem_splitSlashes _ piece hpiece) hread
  rw [parts]
  split
  · next hdot =>
      refine ⟨.inr ⟨rfl, ?_⟩, hplain⟩
      rw [isAbsolute]
      cases htext : path.toList with
      | nil => rfl
      | cons c rest =>
          by_cases hslash : c = '/'
          · rw [htext, hslash] at hdot
            cases hdot
          · simpa using hslash
  · exact orderly_of_plain hplain

theorem Orderly.front {absolute : Bool} {list front : List Part} (h : Orderly absolute list)
    (hfront : front <+: list) : Orderly absolute front := by
  cases front with
  | nil => trivial
  | cons first front =>
      cases list with
      | nil => cases List.prefix_nil.mp hfront
      | cons other list =>
          obtain ⟨rfl, hrest⟩ := List.cons_prefix_cons.mp hfront
          exact ⟨h.1, fun part hpart => h.2 part (hrest.subset hpart)⟩

section

variable {absolute : Bool} {list : List Part}

theorem Orderly.slash_not_mem (h : Orderly absolute list) :
    ∀ piece ∈ list.map Part.text, '/' ∉ piece := by
  cases list with
  | nil => simp
  | cons first rest =>
      rw [List.map_cons, List.forall_mem_cons]
      refine ⟨?_, fun piece hpiece => ?_⟩
      · rcases h.1 with hplain | ⟨rfl, -⟩
        · exact hplain.2
        · decide
      · obtain ⟨part, hpart, rfl⟩ := List.mem_map.mp hpiece
        exact (h.2 part hpart).2

theorem splitSlashes_render (h : Orderly absolute list) (hne : list ≠ []) :
    splitSlashes (render absolute list).toList =
      (if absolute then [[]] else []) ++ list.map Part.text := by
  have hpieces : splitSlashes (joinSlashes (list.map Part.text)) = list.map Part.text :=
    splitSlashes_joinSlashes (by simpa using hne) h.slash_not_mem
  rw [render, String.toList_ofList]
  cases absolute with
  | false => simpa using hpieces
  | true => simpa [splitSlashes] using hpieces

theorem parts_render (h : Orderly absolute list) : parts (render absolute list) = list := by
  cases list with
  | nil => cases absolute <;> rfl
  | cons first rest =>
      have hrest := Part.filterMap_text h.2
      rw [parts, splitSlashes_render h (List.cons_ne_nil _ _)]
      rcases h.1 with hplain | ⟨rfl, rfl⟩
      · have hdot : first.text ≠ ['.'] := by
          intro heq
          have hread := hplain.1
          rw [heq] at hread
          cases hread
        have hempty : Part.ofText? [] = none := rfl
        cases absolute <;> simp [hdot, hplain.1, hrest, hempty]
      · simp [hrest, Part.text, Part.ofText?]

theorem isAbsolute_render (h : Orderly absolute list) :
    isAbsolute (render absolute list) = absolute := by
  cases absolute with
  | true => simp [isAbsolute, render]
  | false =>
      cases list with
      | nil => rfl
      | cons first rest =>
          have hpieces := splitSlashes_render h (List.cons_ne_nil _ _)
          have hfirst : first.text ≠ [] := by
            rcases h.1 with hplain | ⟨rfl, -⟩
            · intro heq
              have hread := hplain.1
              rw [heq] at hread
              cases hread
            · decide
          rw [isAbsolute]
          cases htext : (render false (first :: rest)).toList with
          | nil => rfl
          | cons c text =>
              by_cases hslash : c = '/'
              · rw [htext, hslash] at hpieces
                exact absurd (List.cons.inj hpieces).1.symm hfirst
              · simpa using hslash

end

/-! A relative path goes behind the parts of its directory. -/

theorem join_empty (name : String) : join "" name = name := by
  simp [join]

theorem isAbsolute_eq_false {name : String} {piece : List Char} {others : List (List Char)}
    (hname : splitSlashes name.toList = piece :: others) (hpiece : piece ≠ []) :
    isAbsolute name = false := by
  cases hchars : name.toList with
  | nil => simp [isAbsolute, hchars]
  | cons c rest =>
      have hslash : c ≠ '/' := by
        rintro rfl
        rw [hchars] at hname
        exact hpiece (List.cons.inj hname).1.symm
      simp [isAbsolute, hchars, hslash]

theorem isAbsolute_join {name : String} (h : isAbsolute name = false) (directory : String) :
    isAbsolute (join directory name) = isAbsolute directory := by
  by_cases hempty : directory = ""
  · rw [hempty, join_empty, h]
    rfl
  · obtain ⟨c, rest, hdirectory⟩ :=
      List.exists_cons_of_ne_nil (mt String.toList_eq_nil_iff.mp hempty)
    rw [join, if_neg (by simp [h])]
    split <;> simp [isAbsolute, hdirectory]

/-- A single dot counts only at the start, so that a piece that is none leaves the parts before it
as they are. -/
theorem parts_of_splitSlashes {path : String} {front back : List (List Char)} {piece : List Char}
    (h : splitSlashes path.toList = front ++ piece :: back) (hdot : piece ≠ ['.']) :
    parts path = ((if front.head? == some ['.'] then [Part.here] else []) ++
      front.filterMap Part.ofText?) ++ (piece :: back).filterMap Part.ofText? := by
  have hhead : ((front ++ piece :: back).head? == some ['.']) = (front.head? == some ['.']) := by
    cases front with
    | nil => simpa using hdot
    | cons first front => rfl
  rw [parts, h, hhead, List.filterMap_append, List.append_assoc]

theorem parts_join (directory : String) {name : String} {piece : List Char}
    {others : List (List Char)} {part : Part} (hname : splitSlashes name.toList = piece :: others)
    (hpiece : Part.ofText? piece = some part) :
    parts (join directory name) =
      parts directory ++ part :: others.filterMap Part.ofText? := by
  have hdot : piece ≠ ['.'] := by
    rintro rfl
    cases hpiece
  have hrelative : isAbsolute name = false := by
    refine isAbsolute_eq_false hname ?_
    rintro rfl
    cases hpiece
  have hread : (piece :: others).filterMap Part.ofText? =
      part :: others.filterMap Part.ofText? := List.filterMap_cons_some hpiece
  rw [← hread]
  by_cases hempty : directory = ""
  · have halone : splitSlashes name.toList = [] ++ piece :: others := hname
    rw [hempty, join_empty, parts_of_splitSlashes halone hdot]
    rfl
  · by_cases hends : endsInSlash directory
    · obtain ⟨lead, hlead⟩ := List.getLast?_eq_some_iff.mp (eq_of_beq hends)
      have hjoined : splitSlashes (join directory name).toList =
          splitSlashes lead ++ piece :: others := by
        simp [join, hrelative, hends, hlead, splitSlashes_append_slash, hname]
      have hdirectory : splitSlashes directory.toList = splitSlashes lead ++ [[]] := by
        rw [hlead, splitSlashes_append_slash]
        rfl
      rw [parts_of_splitSlashes hjoined hdot, parts_of_splitSlashes hdirectory (by decide)]
      simp [Part.ofText?]
    · have hjoined : splitSlashes (join directory name).toList =
          splitSlashes directory.toList ++ piece :: others := by
        simp [join, hrelative, hempty, hends, splitSlashes_append_slash, hname]
      rw [parts_of_splitSlashes hjoined hdot, parts]

/-! The directories above a path, as paths: its leading parts, without the path itself. -/

def Above (lead path : String) : Prop :=
  ∃ front, front <+: parts path ∧ front ≠ parts path ∧ lead = render (isAbsolute path) front

end SuiteScribe.Files
