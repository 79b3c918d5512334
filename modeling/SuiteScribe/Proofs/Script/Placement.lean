import SuiteScribe.Proofs.Files.Path
import SuiteScribe.Proofs.Suite.NormalForm
import SuiteScribe.Script

namespace SuiteScribe.Script

open Files Text

/-! A safe name is made of letters, numbers, hyphens, underscores and dots, and not of dots alone.
It is what a base name is turned into unless it is blank. -/

structure SafeName (name : String) : Prop where
  kept : ∀ c ∈ name.toList, isAlphanumeric c = true ∨ c = '-' ∨ c = '_' ∨ c = '.'
  notDots : ∃ c ∈ name.toList, c ≠ '.'

theorem keepsInName_iff {c : Char} :
    keepsInName c = true ↔ isAlphanumeric c = true ∨ c = '-' ∨ c = '_' ∨ c = '.' := by
  simp [keepsInName, or_assoc]

instance (name : String) : Decidable (SafeName name) :=
  decidable_of_iff
    (name.toList.all keepsInName = true ∧ name.toList.any (· != '.') = true)
    ⟨fun h => ⟨fun c hc => keepsInName_iff.mp (List.all_eq_true.mp h.1 c hc),
        by simpa using h.2⟩,
      fun h => ⟨List.all_eq_true.mpr fun c hc => keepsInName_iff.mpr (h.kept c hc),
        by simpa using h.notDots⟩⟩

theorem isBlank_of_keepsInName {c : Char} (h : keepsInName c = true) : isBlank c = false := by
  rw [Bool.eq_false_iff]
  intro hblank
  rcases keepsInName_iff.mp h with halphanumeric | rfl | rfl | rfl
  · exact Bool.false_ne_true ((isAlphanumeric_of_isBlank hblank).symm.trans halphanumeric)
  all_goals exact absurd hblank (by decide)

theorem slash_of_keepsInName {c : Char} (h : keepsInName c = true) : c ≠ '/' := by
  rintro rfl
  exact absurd h (by decide +kernel)

theorem keepsInName_of_mem_sanitizeChars {name : List Char} {c : Char}
    (h : c ∈ sanitizeChars name) : keepsInName c = true := by
  have hunderscore : keepsInName '_' = true := keepsInName_iff.mpr (.inr (.inr (.inl rfl)))
  rw [sanitizeChars] at h
  split at h
  · obtain ⟨other, -, rfl⟩ := List.mem_map.mp h
    exact hunderscore
  · obtain ⟨other, -, rfl⟩ := List.mem_map.mp h
    split
    · next hkeeps => exact hkeeps
    · exact hunderscore

theorem exists_ne_dot_of_sanitizeChars {name : List Char} (h : trim name ≠ []) :
    ∃ c ∈ sanitizeChars name, c ≠ '.' := by
  obtain ⟨first, rest, htrim⟩ := List.exists_cons_of_ne_nil h
  rw [sanitizeChars, htrim]
  split
  · exact ⟨'_', List.mem_cons_self, by decide⟩
  · next hdots =>
      obtain ⟨c, hc, hdot⟩ := List.all_eq_false.mp (Bool.eq_false_iff.mpr hdots)
      exact ⟨c, hc, by simpa using hdot⟩

theorem safeName_sanitizeFileName {name : String} (h : blank name = false) :
    SafeName (sanitizeFileName name) := by
  constructor
  · rw [sanitizeFileName, String.toList_ofList]
    exact fun c hc => keepsInName_iff.mp (keepsInName_of_mem_sanitizeChars hc)
  · rw [sanitizeFileName, String.toList_ofList]
    exact exists_ne_dot_of_sanitizeChars (trim_ne_nil h)

namespace SafeName

variable {name : String}

theorem keepsInName (h : SafeName name) : ∀ c ∈ name.toList, keepsInName c = true :=
  fun c hc => keepsInName_iff.mpr (h.kept c hc)

theorem slash_not_mem (h : SafeName name) : '/' ∉ name.toList :=
  fun hslash => slash_of_keepsInName (h.keepsInName '/' hslash) rfl

/-- A safe name is left as it is. -/
theorem sanitizeFileName_eq (h : SafeName name) : sanitizeFileName name = name := by
  have hunbroken : Unbroken name := fun c hc => isBlank_of_keepsInName (h.keepsInName c hc)
  have htrim : trim name.toList = name.toList := by
    rw [← String.toList_ofList (l := trim name.toList)]
    exact congrArg String.toList hunbroken.trimmed_eq
  have hkept : (name.toList.map fun c => if Script.keepsInName c then c else '_') =
      name.toList := by
    refine (List.map_congr_left fun c hc => ?_).trans (List.map_id name.toList)
    rw [if_pos (h.keepsInName c hc), id]
  obtain ⟨c, hc, hdot⟩ := h.notDots
  have hdots : name.toList.all (· == '.') = false :=
    List.all_eq_false.mpr ⟨c, hc, by simpa using hdot⟩
  rw [sanitizeFileName, sanitizeChars, htrim, hkept]
  simp only [hdots, Bool.false_eq_true, if_false, String.ofList_toList]

end SafeName

theorem sanitizeFileName_of_blank {name : String} (h : blank name = true) :
    sanitizeFileName name = "" := by
  have htrim : trim name.toList = [] := (trim_eq_nil_iff _).mpr (List.all_eq_true.mp h)
  rw [sanitizeFileName, sanitizeChars, htrim]
  rfl

theorem sanitizeFileName_sanitizeFileName (name : String) :
    sanitizeFileName (sanitizeFileName name) = sanitizeFileName name := by
  cases hblank : blank name with
  | true => rw [sanitizeFileName_of_blank hblank, sanitizeFileName_of_blank rfl]
  | false => exact (safeName_sanitizeFileName hblank).sanitizeFileName_eq

/-! A safe name with an extension behind it is one part of a path. -/

theorem bareExtension_spec (extension : String) :
    (∃ dots, extension = dots ++ bareExtension extension ∧ ∀ c ∈ dots.toList, c = '.') ∧
      (bareExtension extension).toList.head? ≠ some '.' := by
  refine ⟨⟨String.ofList (extension.toList.takeWhile (· == '.')), ?_, ?_⟩, ?_⟩
  · rw [bareExtension, ← String.ofList_append, List.takeWhile_append_dropWhile,
      String.ofList_toList]
  · rw [String.toList_ofList]
    exact fun c hc => eq_of_beq (List.mem_takeWhile_imp (p := (· == '.')) hc)
  · rw [bareExtension, String.toList_ofList]
    intro hdot
    have hfirst := List.head?_dropWhile_not (· == '.') extension.toList
    rw [hdot] at hfirst
    exact Bool.false_ne_true hfirst.symm

namespace SafeName

variable {name : String} {ending : List Char}

/-- What stands between two slashes of a path, and is more than dots. -/
theorem part_spec (h : SafeName name) (hending : '/' ∉ ending) :
    let part := name.toList ++ '.' :: ending
    '/' ∉ part ∧ part ≠ ['.'] ∧ part ≠ ['.', '.'] ∧ Part.ofText? part = some (.name part) := by
  intro part
  obtain ⟨c, hc, hdot⟩ := h.notDots
  have hpart : c ∈ part := List.mem_append_left _ hc
  have hslash : '/' ∉ part := by
    rw [List.mem_append, List.mem_cons, not_or, not_or]
    exact ⟨h.slash_not_mem, by decide, hending⟩
  have hhere : part ≠ ['.'] := by
    intro heq
    rw [heq, List.mem_singleton] at hpart
    exact hdot hpart
  have hup : part ≠ ['.', '.'] := by
    intro heq
    rw [heq] at hpart
    simp [hdot] at hpart
  have hempty : part ≠ [] := List.ne_nil_of_mem hpart
  exact ⟨hslash, hhere, hup, by simp [Part.ofText?, hempty, hhere, hup]⟩

end SafeName

/-- Whatever the base name of an acceptable suite is, the script is named behind the directory by a
safe name, a dot and the extension without its leading dots. The base name goes into one part of
the path only, which has no slash in it and is no step to this or an upper directory; all other
parts stay the same. Safe names are those that are left as they are, so that naming twice is naming
once. -/
theorem pathFor_confined :
    (∀ placement : Placement,
      (∃ dots, placement.extension = dots ++ bareExtension placement.extension ∧
        ∀ c ∈ dots.toList, c = '.') ∧
      (bareExtension placement.extension).toList.head? ≠ some '.' ∧
      ∃ ending after, ∀ suite : Suite, suite.defect? = none →
        let name := sanitizeFileName suite.fileBaseName
        let path := placement.pathFor suite.fileBaseName
        let part := name.toList ++ '.' :: ending
        SafeName name ∧
          path = join placement.directory (name ++ "." ++ bareExtension placement.extension) ∧
          isAbsolute path = isAbsolute placement.directory ∧
          parts path = parts placement.directory ++ .name part :: after ∧
          '/' ∉ part ∧ part ≠ ['.'] ∧ part ≠ ['.', '.']) ∧
      (∀ name, sanitizeFileName (sanitizeFileName name) = sanitizeFileName name) ∧
      ∀ name, SafeName name → sanitizeFileName name = name := by
  refine ⟨fun placement => ?_, sanitizeFileName_sanitizeFileName,
    fun name h => h.sanitizeFileName_eq⟩
  obtain ⟨hdots, hbare⟩ := bareExtension_spec placement.extension
  obtain ⟨ending, others, hextension⟩ := List.exists_cons_of_ne_nil
    (splitSlashes_ne_nil (bareExtension placement.extension).toList)
  have hending : '/' ∉ ending :=
    slash_not_mem_splitSlashes _ ending (hextension ▸ List.mem_cons_self)
  refine ⟨hdots, hbare, ending, others.filterMap Part.ofText?, fun suite hsuite => ?_⟩
  intro name path part
  have hbase : blank suite.fileBaseName = false :=
    (Suite.defect?_eq_none_iff.mp hsuite).1 ("file_base_name", suite.fileBaseName)
      (by simp [Suite.requiredTexts])
  have hsafe : SafeName name := safeName_sanitizeFileName hbase
  obtain ⟨hslash, hhere, hup, hread⟩ := hsafe.part_spec hending
  have hfileName : splitSlashes (placement.fileName suite.fileBaseName).toList =
      part :: others := by
    have hdot : '/' ∉ name.toList ++ ['.'] := by simp [hsafe.slash_not_mem]
    have hwithin := splitSlashes_within hdot hextension
    simpa [Placement.fileName, part, name] using hwithin
  have hpart : part ≠ [] := List.append_ne_nil_of_right_ne_nil _ (List.cons_ne_nil '.' ending)
  exact ⟨hsafe, rfl, isAbsolute_join (isAbsolute_eq_false hfileName hpart) _,
    parts_join placement.directory hfileName hread, hslash, hhere, hup⟩

/-- A suite that tries to get out of its directory. -/
def intruder : Suite :=
  { featureName := "a", fileBaseName := " ../../etc/\x00pass wd\n", baseUrl := "b"
    category := .functional, describeTitle := "c", initialPath := "d", additionalSetup := none
    testCases := [] }

theorem pathFor_confined_intruder :
    let placement : Placement := { directory := "./out/", extension := "..spec/../ts" }
    intruder.defect? = none ∧
      SafeName (sanitizeFileName intruder.fileBaseName) ∧
      placement.pathFor intruder.fileBaseName = "./out/.._.._etc__pass_wd.spec/../ts" ∧
      sanitizeFileName (sanitizeFileName " .. ") = "__" ∧
      SafeName "..a-b" ∧ sanitizeFileName "..a-b" = "..a-b" := by
  intro placement
  have hsound : intruder.defect? = none := by decide
  have hsafe : SafeName "..a-b" := by decide +kernel
  obtain ⟨hplaced, hagain, hkept⟩ := pathFor_confined
  obtain ⟨-, -, ending, after, hconfined⟩ := hplaced placement
  obtain ⟨hname, hpath, -⟩ := hconfined intruder hsound
  refine ⟨hsound, hname, hpath.trans (by decide +kernel), (hagain _).trans (by decide +kernel),
    hsafe, hkept _ hsafe⟩

end SuiteScribe.Script
