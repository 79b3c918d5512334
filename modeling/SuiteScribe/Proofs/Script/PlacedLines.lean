import Mathlib.Data.List.Forall2
import SuiteScribe.Proofs.Script.Block
import SuiteScribe.Proofs.Suite.NormalForm

namespace SuiteScribe.Script

open Text

/-! Cutting by bytes. A line can be cut behind a number of bytes only if they end inside it and
between two characters. Spaces and tabs are single bytes, and so a line can be cut wherever no more
than its depth is taken off. -/

/-- What stands behind the first bytes of a line. -/
def afterBytes? (line : String) (count : Nat) : Option String :=
  if h : (String.Pos.Raw.mk count).IsValid line then
    some (line.sliceFrom (line.pos ⟨count⟩ h)).copy
  else none

theorem afterBytes?_append (front rest : String) :
    afterBytes? (front ++ rest) front.utf8ByteSize = some rest := by
  have hvalid : (String.Pos.Raw.mk front.utf8ByteSize).IsValid (front ++ rest) :=
    String.Pos.Raw.isValid_iff_exists_append.mpr ⟨front, rest, rfl, rfl⟩
  have hsplits : ((front ++ rest).pos ⟨front.utf8ByteSize⟩ hvalid).Splits front rest :=
    ⟨rfl, rfl⟩
  rw [afterBytes?, dif_pos hvalid, String.Pos.Splits.eq_right (String.Pos.splits _) hsplits]

theorem utf8ByteSize_indent {indent : List Char} (h : ∀ c ∈ indent, isIndent c = true) :
    (String.ofList indent).utf8ByteSize = indent.length := by
  induction indent with
  | nil => rfl
  | cons c rest ih =>
      obtain ⟨hc, hrest⟩ := List.forall_mem_cons.mp h
      have hsize : c.utf8Size = 1 := by
        simp only [isIndent, Bool.or_eq_true, beq_iff_eq] at hc
        rcases hc with rfl | rfl <;> rfl
      rw [String.ofList_cons, String.utf8ByteSize_append, String.utf8ByteSize_singleton, hsize,
        ih hrest, List.length_cons, Nat.add_comm]

theorem afterBytes?_ofList {line : List Char} {count : Nat} (h : count ≤ depth line) :
    afterBytes? (String.ofList line) count = some (String.ofList (line.drop count)) := by
  have hlength : (line.take count).length = count :=
    List.length_take_of_le (Nat.le_trans h (List.takeWhile_prefix isIndent).length_le)
  have hcut :=
    afterBytes?_append (String.ofList (line.take count)) (String.ofList (line.drop count))
  rwa [utf8ByteSize_indent (isIndent_of_mem_take h), hlength, ← String.ofList_append,
    List.take_append_drop] at hcut

/-! The same block, placed by bytes alone. -/

def byteDepth (line : String) : Nat :=
  line.utf8ByteSize - (String.ofList (line.toList.dropWhile isIndent)).utf8ByteSize

def sharedBytes (block : List String) : Nat :=
  ((block.filter (!·.isEmpty)).map byteDepth).min?.getD 0

def cutLine? (indent : String) (shared : Nat) (line : String) : Option String :=
  if line.isEmpty then some "" else (afterBytes? line shared).map (indent ++ ·)

def cutLines? (text indent : String) : Option (List String) :=
  let block := (blockLines text.toList).map String.ofList
  block.mapM (cutLine? indent (sharedBytes block))

theorem byteDepth_ofList (line : List Char) : byteDepth (String.ofList line) = depth line := by
  have hindent : ∀ c ∈ line.takeWhile isIndent, isIndent c = true := fun c hc =>
    List.mem_takeWhile_imp hc
  have hsize : (String.ofList line).utf8ByteSize =
      depth line + (String.ofList (line.dropWhile isIndent)).utf8ByteSize := by
    conv => lhs; rw [← List.takeWhile_append_dropWhile (p := isIndent) (l := line)]
    rw [String.ofList_append, String.utf8ByteSize_append, utf8ByteSize_indent hindent, depth]
  rw [byteDepth, String.toList_ofList, hsize, Nat.add_sub_cancel]

theorem sharedBytes_ofList (block : List (List Char)) :
    sharedBytes (block.map String.ofList) = sharedDepth block := by
  have hdepth : byteDepth ∘ String.ofList = depth := funext byteDepth_ofList
  have hempty : (!String.isEmpty ·) ∘ String.ofList = (!List.isEmpty ·) := by
    funext line
    cases line <;> simp
  rw [sharedBytes, sharedDepth, List.filter_map, List.map_map, hdepth, hempty]

theorem mapM_eq_some_map {f : α → Option β} {g : α → β} {items : List α}
    (h : ∀ item ∈ items, f item = some (g item)) : items.mapM f = some (items.map g) := by
  induction items with
  | nil => rfl
  | cons item rest ih =>
      obtain ⟨hitem, hrest⟩ := List.forall_mem_cons.mp h
      rw [List.mapM_cons, hitem, ih hrest]
      rfl

/-- No line is cut outside itself or inside a character. -/
theorem cutLines?_eq (text indent : String) :
    cutLines? text indent = some (verbatimLines text indent) := by
  rw [cutLines?, sharedBytes_ofList, List.mapM_map, verbatimLines, placeBlock, List.map_map]
  apply mapM_eq_some_map
  intro line hline
  by_cases hne : line = []
  · rw [hne]
    rfl
  · simp only [Function.comp_apply]
    rw [cutLine?, if_neg (by simpa using hne), afterBytes?_ofList (sharedDepth_le hline hne),
      placeLine_of_ne_nil hne, String.ofList_append, String.ofList_toList]
    rfl

/-! How each line of a block stands in it. -/

/-- A blank line stands as an empty one. Another line loses spaces and tabs at its front, as many as
the block shares, and all white space at its end, and stands behind the indentation. -/
inductive Stands (indent : List Char) (shared : Nat) : List Char → List Char → Prop
  | blank {line : List Char} : line.all isBlank = true → Stands indent shared line []
  | filled {removed kept gap : List Char} {last : Char} :
      removed.length = shared → (∀ c ∈ removed, c = ' ' ∨ c = '\t') →
        kept.getLast? = some last → isBlank last = false → gap.all isBlank = true →
          Stands indent shared (removed ++ kept ++ gap) (indent ++ kept)

/-- What a block is placed from: the lines from the first to the last one that is not blank. Each of
them has an entry, and one of them loses all of its depth. -/
structure PlacedFrom (text indent : List Char) (source : List (List Char)) (shared : Nat)
    (entries : List (List Char)) : Prop where
  lines_eq : ∃ before after, lines text = before ++ source ++ after ∧
    ∀ line ∈ before ++ after, line.all isBlank = true
  head : ∃ first ∈ source.head?, first.all isBlank = false
  last : ∃ last ∈ source.getLast?, last.all isBlank = false
  stands : List.Forall₂ (Stands indent shared) source entries
  least : ∃ c rest, indent ++ c :: rest ∈ entries ∧ c ≠ ' ' ∧ c ≠ '\t'

theorem lines_eq_append (text : List Char) :
    ∃ before source after, lines text = before ++ source ++ after ∧
      source.map trimEnd = blockLines text ∧
        ∀ line ∈ before ++ after, line.all isBlank = true := by
  obtain ⟨before, after, hparts, hempty⟩ :=
    exists_append_dropBlankEnds ((lines text).map trimEnd)
  obtain ⟨front, after', hlines, hfront, rfl⟩ := List.map_eq_append_iff.mp hparts.symm
  obtain ⟨before', source, rfl, rfl, hsource⟩ := List.map_eq_append_iff.mp hfront
  refine ⟨before', source, after', hlines, hsource, fun line hline => ?_⟩
  rw [← List.map_append] at hempty
  rw [List.all_eq_true, ← trimEnd_eq_nil_iff]
  exact hempty (trimEnd line) (List.mem_map_of_mem hline)

theorem exists_filled {line? : Option (List Char)} (hsome : line? ≠ none)
    (hne : line?.map trimEnd ≠ some []) : ∃ line ∈ line?, line.all isBlank = false := by
  obtain ⟨line, rfl⟩ := Option.ne_none_iff_exists'.mp hsome
  refine ⟨line, rfl, Bool.eq_false_iff.mpr fun hblank => hne ?_⟩
  rw [Option.map_some, (trimEnd_eq_nil_iff line).mpr (List.all_eq_true.mp hblank)]

theorem blockLines_eq_nil_iff (text : List Char) :
    blockLines text = [] ↔ ∀ c ∈ text, isBlank c = true := by
  obtain ⟨before, source, after, hlines, hsource, hblank⟩ := lines_eq_append text
  rw [← isBlank_lines_iff]
  constructor
  · intro hempty
    rw [hempty, List.map_eq_nil_iff] at hsource
    subst hsource
    rw [hlines, List.append_nil]
    exact fun line hline => List.all_eq_true.mp (hblank line hline)
  · intro hall
    have hempty : ∀ line ∈ blockLines text, line = [] := by
      rw [← hsource]
      refine List.forall_mem_map.mpr fun whole hwhole => (trimEnd_eq_nil_iff whole).mpr ?_
      apply hall
      rw [hlines]
      exact List.mem_append_left after (List.mem_append_right before hwhole)
    cases hblock : blockLines text with
    | nil => rfl
    | cons line rest =>
        rw [hblock] at hempty
        have hhead := (tidy_blockLines text).head
        rw [hblock, hempty line List.mem_cons_self] at hhead
        exact absurd rfl hhead

namespace Tidy

variable {block : List (List Char)} (h : Tidy block) {line : List Char}

include h

theorem stands (hline : trimEnd line ∈ block) (indent : List Char) :
    Stands indent (sharedDepth block) line
      (placeLine indent (sharedDepth block) (trimEnd line)) := by
  by_cases hne : trimEnd line = []
  · rw [hne]
    exact .blank (List.all_eq_true.mpr ((trimEnd_eq_nil_iff line).mp hne))
  · obtain ⟨gap, hgap, hblank⟩ := exists_trimEnd_append line
    have hdepth : sharedDepth block ≤ depth (trimEnd line) := sharedDepth_le hline hne
    have hlength : ((trimEnd line).take (sharedDepth block)).length = sharedDepth block :=
      List.length_take_of_le
        (Nat.le_trans hdepth (depth_lt_length (h.trimmed _ hline) hne).le)
    have hindent : ∀ c ∈ (trimEnd line).take (sharedDepth block), c = ' ' ∨ c = '\t' := by
      simpa [isIndent] using isIndent_of_mem_take hdepth
    have hlast := h.getLast?_drop hline hne
    rw [List.getLast?_eq_some_getLast hne] at hlast
    have hfull : isBlank ((trimEnd line).getLast hne) = false :=
      getLast?_trimEnd line (List.getLast?_eq_some_getLast hne)
    have hstands : Stands indent _ _ _ :=
      .filled hlength hindent hlast hfull (List.all_eq_true.mpr hblank)
    rwa [List.take_append_drop, hgap, ← placeLine_of_ne_nil hne] at hstands

/-- A line that is no deeper than the block has something else behind the shared depth. -/
theorem exists_least (hblock : block ≠ []) (indent : List Char) :
    ∃ c rest, indent ++ c :: rest ∈ block.map (placeLine indent (sharedDepth block)) ∧
      isIndent c = false := by
  obtain ⟨least, hleast, hne, hdepth⟩ := h.exists_least_line hblock
  obtain ⟨c, rest, hrest⟩ := List.exists_cons_of_ne_nil (h.drop_ne_nil hleast hne)
  refine ⟨c, rest, ?_, ?_⟩
  · rw [← hrest, ← placeLine_of_ne_nil hne]
    exact List.mem_map_of_mem hleast
  · have hfirst := List.head?_dropWhile_not isIndent least
    rw [← hdepth, drop_depth] at hrest
    rwa [hrest] at hfirst

end Tidy

theorem verbatimLines_eq_nil_iff (text indent : String) :
    verbatimLines text indent = [] ↔ blank text = true := by
  rw [verbatimLines, placeBlock, List.map_map, List.map_eq_nil_iff, blockLines_eq_nil_iff, blank,
    List.all_eq_true]

theorem placedFrom_lines {text : String} (htext : blank text = false) (indent : String) :
    ∃ source shared, PlacedFrom text.toList indent.toList source shared
      ((verbatimLines text indent).map String.toList) := by
  obtain ⟨before, source, after, hlines, hsource, hblank⟩ := lines_eq_append text.toList
  have htidy : Tidy (blockLines text.toList) := tidy_blockLines text.toList
  have hblock : blockLines text.toList ≠ [] := by
    rw [ne_eq, blockLines_eq_nil_iff, ← List.all_eq_true]
    exact Bool.eq_false_iff.mp htext
  have hsome : source ≠ [] := by
    rintro rfl
    exact hblock hsource.symm
  rw [toList_verbatimLines, placeBlock]
  refine ⟨source, sharedDepth (blockLines text.toList), ⟨before, after, hlines, hblank⟩, ?_, ?_,
    ?_, ?_⟩
  · apply exists_filled
    · simpa using hsome
    · rw [← List.head?_map, hsource]
      exact htidy.head
  · apply exists_filled
    · simpa using hsome
    · rw [← List.getLast?_map, hsource]
      exact htidy.last
  · have hentries : ∀ shared, (blockLines text.toList).map (placeLine indent.toList shared) =
        source.map fun line => placeLine indent.toList shared (trimEnd line) := by
      intro shared
      rw [← hsource, List.map_map]
      rfl
    rw [hentries, List.forall₂_map_right_iff, List.forall₂_same]
    exact fun line hline => htidy.stands (hsource ▸ List.mem_map_of_mem hline) indent.toList
  · obtain ⟨c, rest, hentry, hc⟩ := htidy.exists_least hblock indent.toList
    exact ⟨c, rest, hentry, by simpa [isIndent] using hc⟩

theorem PlacedFrom.exists_cons {text indent : List Char} {source entries : List (List Char)}
    {shared : Nat} (h : PlacedFrom text indent source shared entries) :
    ∃ first rest, entries = first :: rest ∧ first.all isBlank = false := by
  obtain ⟨line, hline, hfull⟩ := h.head
  cases h.stands with
  | nil => cases hline
  | @cons top first lines rest hfirst hrest =>
      cases hline
      refine ⟨first, rest, rfl, ?_⟩
      cases hfirst with
      | blank hblank => exact absurd (hfull.symm.trans hblank) Bool.false_ne_true
      | filled _ _ hkept hlast _ =>
          rw [List.all_eq_false]
          refine ⟨_, List.mem_append_right indent (List.mem_of_getLast? hkept), ?_⟩
          simp [hlast]

theorem exists_code {text : String} (htext : blank text = false) (indent : String) :
    ∃ first rest, verbatimLines text indent = first :: rest ∧ blank first = false := by
  obtain ⟨source, shared, hplaced⟩ := placedFrom_lines htext indent
  obtain ⟨entry, entries, hentries, hfull⟩ := hplaced.exists_cons
  obtain ⟨first, rest, hlines, rfl, -⟩ := List.map_eq_cons_iff.mp hentries
  exact ⟨first, rest, hlines, hfull⟩

/-- A verbatim block is placed line by line, and cutting its lines by bytes places it alike. It has
no lines exactly when the text is blank; otherwise each line has its entry, from the first line that
is not blank to the last, and loses no more than the depth that it shares with the others and the
white space at its end. So a complete step that brings code of its own has a line of code. -/
theorem verbatimLines_line_by_line (text indent : String) :
    cutLines? text indent = some (verbatimLines text indent) ∧
      (verbatimLines text indent = [] ↔ blank text = true) ∧
      (blank text = false →
        ∃ source shared, PlacedFrom text.toList indent.toList source shared
          ((verbatimLines text indent).map String.toList)) ∧
      ∀ step : Step, step.action = .custom text → step.missing? = none →
        ∃ first rest, stepLines step = commentLine step :: first :: rest ∧ blank first = false := by
  refine ⟨cutLines?_eq text indent, verbatimLines_eq_nil_iff text indent,
    fun htext => placedFrom_lines htext indent, fun step haction hmissing => ?_⟩
  have hrequired := firstBlank_eq_none_iff.mp hmissing
  rw [haction] at hrequired
  have htext : blank text = false := hrequired (.customStatement, text) (.tail _ (.head _))
  obtain ⟨first, rest, hlines, hfirst⟩ := exists_code htext stepIndent
  exact ⟨first, rest, by rw [stepLines, haction, actionLines, hlines], hfirst⟩

/-- A step whose code is that block. -/
def raggedStep : Step :=
  ⟨"run it", .custom raggedBlock⟩

theorem verbatimLines_line_by_line_ragged :
    blank raggedBlock = false ∧
      cutLines? raggedBlock "\t" = some ["\tfirst", "", "\t  second\r line"] ∧
      (∃ source shared, PlacedFrom raggedBlock.toList "\t".toList source shared
        ((verbatimLines raggedBlock "\t").map String.toList)) ∧
      raggedStep.missing? = none ∧
      ∃ first rest, stepLines raggedStep = commentLine raggedStep :: first :: rest ∧
        blank first = false := by
  have hblank : blank raggedBlock = false := by decide
  have hmissing : raggedStep.missing? = none := by decide
  obtain ⟨hcut, -, hplaced, hcode⟩ := verbatimLines_line_by_line raggedBlock "\t"
  exact ⟨hblank, hcut.trans (congrArg some (by decide)), hplaced hblank, hmissing,
    hcode raggedStep rfl hmissing⟩

/-! The indentation that the lines of a block share. A block is placed by the depths of its lines
and not by their indentation, and so what it loses is shared by its lines only where the line of the
least depth is indented as all others begin. -/

def indentation (line : List Char) : List Char :=
  line.takeWhile isIndent

/-- Spaces and tabs with which all lines begin that are not empty. -/
structure Shares (block : List (List Char)) (front : List Char) : Prop where
  spaces : ∀ c ∈ front, c = ' ' ∨ c = '\t'
  begins : ∀ line ∈ block, line ≠ [] → front <+: line

/-- Of each line that is not empty one and the same front has been replaced. -/
structure Replaced (text indent : String) (front : List Char) : Prop where
  spaces : ∀ c ∈ front, c = ' ' ∨ c = '\t'
  stands : List.Forall₂
    (fun line entry => line ≠ [] → ∃ rest, line = front ++ rest ∧ entry = indent.toList ++ rest)
    (blockLines text.toList) ((verbatimLines text indent).map String.toList)

section

variable {line front : List Char}

theorem take_depth (line : List Char) : line.take (depth line) = indentation line :=
  (List.prefix_iff_eq_take.mp (List.takeWhile_prefix isIndent)).symm

theorem indentation_append (h : ∀ c ∈ front, c = ' ' ∨ c = '\t') (rest : List Char) :
    indentation (front ++ rest) = front ++ indentation rest := by
  have hfront : ∀ c ∈ front, isIndent c = true := by simpa [isIndent] using h
  rw [indentation, List.takeWhile_append_of_pos hfront, indentation]

theorem prefix_indentation_iff (h : ∀ c ∈ front, c = ' ' ∨ c = '\t') :
    front <+: indentation line ↔ front <+: line := by
  constructor
  · exact fun hfront => hfront.trans (List.takeWhile_prefix isIndent)
  · rintro ⟨rest, rfl⟩
    rw [indentation_append h]
    exact List.prefix_append front _

theorem spaces_indentation (line : List Char) : ∀ c ∈ indentation line, c = ' ' ∨ c = '\t' := by
  intro c hc
  simpa [isIndent] using List.mem_takeWhile_imp hc

end

section

variable {text indent : String} {front : List Char}

/-- What a line that is not empty has lost is as long as the shared depth. -/
theorem take_eq_iff {line : List Char} (hne : line ≠ []) :
    (∃ rest, line = front ++ rest ∧
        placeLine indent.toList (sharedDepth (blockLines text.toList)) line =
          indent.toList ++ rest) ↔
      line.take (sharedDepth (blockLines text.toList)) = front := by
  rw [placeLine_of_ne_nil hne]
  constructor
  · rintro ⟨rest, hparts, hentry⟩
    have hrest : line.drop (sharedDepth (blockLines text.toList)) = rest :=
      List.append_cancel_left hentry
    have hwhole : line.take (sharedDepth (blockLines text.toList)) ++ rest = front ++ rest := by
      rw [← hparts, ← hrest, List.take_append_drop]
    exact List.append_cancel_right hwhole
  · rintro rfl
    exact ⟨_, (List.take_append_drop _ line).symm, rfl⟩

theorem replaced_iff (hblock : blockLines text.toList ≠ []) :
    Replaced text indent front ↔
      ∀ line ∈ blockLines text.toList, line ≠ [] →
        line.take (sharedDepth (blockLines text.toList)) = front := by
  have hstands : List.Forall₂
      (fun line entry => line ≠ [] → ∃ rest, line = front ++ rest ∧ entry = indent.toList ++ rest)
      (blockLines text.toList) ((verbatimLines text indent).map String.toList) ↔
        ∀ line ∈ blockLines text.toList, line ≠ [] →
          line.take (sharedDepth (blockLines text.toList)) = front := by
    rw [toList_verbatimLines, placeBlock, List.forall₂_map_right_iff, List.forall₂_same]
    exact forall₂_congr fun line hline => forall_congr' take_eq_iff
  refine ⟨fun h => hstands.mp h.stands, fun h => ⟨?_, hstands.mpr h⟩⟩
  obtain ⟨line, hline, hne, hdepth⟩ := (tidy_blockLines text.toList).exists_least_line hblock
  rw [← h line hline hne, ← hdepth, take_depth]
  exact spaces_indentation line

theorem replaced_nil (hblock : blockLines text.toList = []) : Replaced text indent [] := by
  refine ⟨List.forall_mem_nil _, ?_⟩
  rw [toList_verbatimLines, placeBlock, hblock]
  exact .nil

/-- The front that is replaced is all of the indentation of one line. -/
theorem Replaced.exists_least (h : Replaced text indent front)
    (hblock : blockLines text.toList ≠ []) :
    ∃ least ∈ blockLines text.toList, least ≠ [] ∧ indentation least = front := by
  obtain ⟨least, hleast, hne, hdepth⟩ := (tidy_blockLines text.toList).exists_least_line hblock
  refine ⟨least, hleast, hne, ?_⟩
  rw [← take_depth, hdepth]
  exact (replaced_iff hblock).mp h least hleast hne

theorem Replaced.shares (h : Replaced text indent front) (hblock : blockLines text.toList ≠ []) :
    Shares (blockLines text.toList) front where
  spaces := h.spaces
  begins line hline hne := by
    rw [← (replaced_iff hblock).mp h line hline hne]
    exact List.take_prefix _ line

/-- The front that is replaced is the longest one that the lines share. -/
theorem Replaced.shares_iff (h : Replaced text indent front)
    (hblock : blockLines text.toList ≠ []) (other : List Char) :
    Shares (blockLines text.toList) other ↔ other <+: front := by
  obtain ⟨least, hleast, hne, rfl⟩ := h.exists_least hblock
  constructor
  · intro hother
    exact (prefix_indentation_iff hother.spaces).mpr (hother.begins least hleast hne)
  · intro hother
    exact ⟨fun c hc => h.spaces c (hother.subset hc),
      fun line hline hfull => hother.trans ((h.shares hblock).begins line hline hfull)⟩

theorem replaced_of_least {least : List Char} (hleast : least ∈ blockLines text.toList)
    (hne : least ≠ [])
    (h : ∀ line ∈ blockLines text.toList, line ≠ [] → indentation least <+: line) :
    Replaced text indent (indentation least) := by
  have hdepth : sharedDepth (blockLines text.toList) = depth least := by
    apply sharedDepth_eq hleast hne rfl
    intro line hline hfull
    exact ((prefix_indentation_iff (spaces_indentation least)).mpr (h line hline hfull)).length_le
  rw [replaced_iff (List.ne_nil_of_mem hleast), hdepth]
  exact fun line hline hfull => (List.prefix_iff_eq_take.mp (h line hline hfull)).symm

/-- Lines that are indented by characters of one kind share all that they lose. -/
theorem replaced_of_uniform {c : Char}
    (h : ∀ line ∈ blockLines text.toList, ∀ d ∈ indentation line, d = c)
    (hblock : blockLines text.toList ≠ []) :
    Replaced text indent (List.replicate (sharedDepth (blockLines text.toList)) c) := by
  rw [replaced_iff hblock]
  intro line hline hne
  have hdepth : sharedDepth (blockLines text.toList) ≤ depth line := sharedDepth_le hline hne
  have htake : line.take (sharedDepth (blockLines text.toList)) =
      (indentation line).take (sharedDepth (blockLines text.toList)) := by
    rw [← take_depth, List.take_take, Nat.min_eq_left hdepth]
  rw [List.eq_replicate_iff, htake]
  exact ⟨List.length_take_of_le hdepth, fun d hd => h line hline d (List.mem_of_mem_take hd)⟩

end

/-- What the lines of a block lose at their front is one and the same indentation if and only if a
line is indented as all others begin, and it is then the longest indentation that all of them share.
So it is always if there are no tabs among the spaces or no spaces among the tabs. -/
theorem shared_indentation_replaced_iff (text indent : String) :
    ((∃ front, Replaced text indent front) ↔
      blank text = true ∨
        ∃ least ∈ blockLines text.toList, least ≠ [] ∧
          ∀ line ∈ blockLines text.toList, line ≠ [] → indentation least <+: line) ∧
      (blank text = false → ∀ front, Replaced text indent front →
        ∀ other, Shares (blockLines text.toList) other ↔ other <+: front) ∧
      ∀ c, (∀ line ∈ blockLines text.toList, ∀ d ∈ indentation line, d = c) →
        ∃ front, Replaced text indent front := by
  have hblank : blank text = true ↔ blockLines text.toList = [] := by
    rw [blockLines_eq_nil_iff, blank, List.all_eq_true]
  refine ⟨⟨?_, ?_⟩, ?_, ?_⟩
  · rintro ⟨front, hfront⟩
    by_cases hblock : blockLines text.toList = []
    · exact .inl (hblank.mpr hblock)
    · obtain ⟨least, hleast, hne, rfl⟩ := hfront.exists_least hblock
      exact .inr ⟨least, hleast, hne, (hfront.shares hblock).begins⟩
  · rintro (htext | ⟨least, hleast, hne, hbegins⟩)
    · exact ⟨[], replaced_nil (hblank.mp htext)⟩
    · exact ⟨_, replaced_of_least hleast hne hbegins⟩
  · intro htext front hfront
    apply hfront.shares_iff
    rw [ne_eq, ← hblank, htext]
    exact Bool.false_ne_true
  · intro c huniform
    by_cases hblock : blockLines text.toList = []
    · exact ⟨[], replaced_nil hblock⟩
    · exact ⟨_, replaced_of_uniform huniform hblock⟩

/-- Indented by a space and a tab, and by more of them. -/
def evenBlock : String :=
  " \ta\n\n \t\t b"

theorem shared_indentation_replaced_iff_even :
    blank evenBlock = false ∧
      ∃ front, Replaced evenBlock "  " front ∧
        ∀ other, Shares (blockLines evenBlock.toList) other ↔ other <+: front := by
  have hblank : blank evenBlock = false := by decide
  obtain ⟨hreplaced, hlongest, -⟩ := shared_indentation_replaced_iff evenBlock "  "
  obtain ⟨front, hfront⟩ := hreplaced.mpr (.inr ⟨[' ', '\t', 'a'], by decide⟩)
  exact ⟨hblank, front, hfront, hlongest hblank front hfront⟩

/-- One line is indented by a tab and the other one by spaces. -/
def mixedBlock : String :=
  "\ta\n  b"

/-- Each line loses one character, and these are not the same. -/
theorem mixedBlock_not_replaced :
    verbatimLines mixedBlock stepIndent = ["      a", "       b"] ∧
      ¬∃ front, Replaced mixedBlock stepIndent front := by
  refine ⟨by decide, ?_⟩
  rintro ⟨front, hfront⟩
  have htake := (replaced_iff (by decide)).mp hfront
  have htab : ['\t'] = front := htake ['\t', 'a'] (by decide) (by decide)
  have hspace : [' '] = front := htake [' ', ' ', 'b'] (by decide) (by decide)
  exact absurd (htab.trans hspace.symm) (by decide)

end SuiteScribe.Script
