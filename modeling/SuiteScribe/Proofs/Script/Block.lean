import Mathlib.Data.List.Basic
import Mathlib.Data.List.TakeWhile
import SuiteScribe.Proofs.Text
import SuiteScribe.Script

namespace SuiteScribe.Script

open Text

/-! The lines of a block: none holds a line feed or ends in white space, and neither the first nor
the last one is empty. -/

structure Tidy (block : List (List Char)) : Prop where
  oneLine : ∀ line ∈ block, '\n' ∉ line
  trimmed : ∀ line ∈ block, trimEnd line = line
  head : block.head? ≠ some []
  last : block.getLast? ≠ some []

section

variable {block : List (List Char)}

theorem head?_dropWhile_isEmpty (block : List (List Char)) :
    (block.dropWhile (·.isEmpty)).head? ≠ some [] := by
  have hfirst := List.head?_dropWhile_not (·.isEmpty) block
  intro hempty
  rw [hempty] at hfirst
  cases hfirst

theorem dropWhile_isEmpty_eq_self (h : block.head? ≠ some []) :
    block.dropWhile (·.isEmpty) = block := by
  cases block with
  | nil => rfl
  | cons line rest =>
      have hline : line.isEmpty = false := by simpa using h
      simp [hline]

theorem dropBlankEnds_front (block : List (List Char)) :
    dropBlankEnds block <+: block.dropWhile (·.isEmpty) := by
  rw [dropBlankEnds, ← List.reverse_suffix, List.reverse_reverse]
  exact List.dropWhile_suffix _

theorem mem_of_mem_dropBlankEnds {line : List Char} (h : line ∈ dropBlankEnds block) :
    line ∈ block :=
  (List.dropWhile_suffix _).subset ((dropBlankEnds_front block).subset h)

theorem head?_dropBlankEnds (block : List (List Char)) :
    (dropBlankEnds block).head? ≠ some [] := by
  intro hempty
  obtain ⟨rest, hrest⟩ := dropBlankEnds_front block
  apply head?_dropWhile_isEmpty block
  rw [← hrest, List.head?_append, hempty]
  rfl

theorem getLast?_dropBlankEnds (block : List (List Char)) :
    (dropBlankEnds block).getLast? ≠ some [] := by
  rw [dropBlankEnds, List.getLast?_reverse]
  exact head?_dropWhile_isEmpty _

theorem dropBlankEnds_eq_self (hhead : block.head? ≠ some []) (hlast : block.getLast? ≠ some []) :
    dropBlankEnds block = block := by
  have hreversed : block.reverse.head? ≠ some [] := by rwa [List.head?_reverse]
  rw [dropBlankEnds, dropWhile_isEmpty_eq_self hhead, dropWhile_isEmpty_eq_self hreversed,
    List.reverse_reverse]

/-- Only empty lines are dropped, in front of all others or behind them. -/
theorem exists_append_dropBlankEnds (block : List (List Char)) :
    ∃ before after, before ++ dropBlankEnds block ++ after = block ∧
      ∀ line ∈ before ++ after, line = [] := by
  have hempty : ∀ {lines : List (List Char)}, ∀ line ∈ lines.takeWhile (·.isEmpty), line = [] :=
    fun line hline => List.isEmpty_iff.mp (List.mem_takeWhile_imp hline)
  refine ⟨block.takeWhile (·.isEmpty),
    ((block.dropWhile (·.isEmpty)).reverse.takeWhile (·.isEmpty)).reverse, ?_, ?_⟩
  · rw [dropBlankEnds, List.append_assoc, ← List.reverse_append, List.takeWhile_append_dropWhile,
      List.reverse_reverse, List.takeWhile_append_dropWhile]
  · refine List.forall_mem_append.mpr ⟨hempty, fun line hline => ?_⟩
    exact hempty line (List.mem_reverse.mp hline)

theorem tidy_blockLines (text : List Char) : Tidy (blockLines text) := by
  have htrimmed : ∀ line ∈ blockLines text, ∃ whole ∈ lines text, line = trimEnd whole := by
    intro line hline
    obtain ⟨whole, hwhole, heq⟩ := List.mem_map.mp (mem_of_mem_dropBlankEnds hline)
    exact ⟨whole, hwhole, heq.symm⟩
  refine ⟨fun line hline => ?_, fun line hline => ?_, head?_dropBlankEnds _,
    getLast?_dropBlankEnds _⟩
  · obtain ⟨whole, hwhole, rfl⟩ := htrimmed line hline
    have hfront : trimEnd whole <+: whole := trimEnd_prefix whole
    exact fun hfeed => feed_not_mem_lines hwhole (hfront.subset hfeed)
  · obtain ⟨whole, -, rfl⟩ := htrimmed line hline
    exact trimEnd_eq_self fun c hc => getLast?_trimEnd whole hc

/-- The lines of a block are found again when they are joined. -/
theorem Tidy.blockLines_intercalate (h : Tidy block) :
    blockLines (['\n'].intercalate block) = block := by
  have hreturn : ∀ line ∈ block, line.getLast? ≠ some '\r' := by
    intro line hline hlast
    rw [← h.trimmed line hline] at hlast
    exact absurd (getLast?_trimEnd line hlast) (by decide)
  have htrimmed : block.map trimEnd = block := by
    rw [List.map_congr_left h.trimmed, List.map_id']
  rw [blockLines, lines_intercalate h.oneLine hreturn h.last, htrimmed,
    dropBlankEnds_eq_self h.head h.last]

end

/-! The depth of a line. What stands behind it is not empty, for the line ends in something else
than white space. -/

section

variable {line indent : List Char}

theorem isBlank_of_isIndent {c : Char} (h : isIndent c = true) : isBlank c = true := by
  simp only [isIndent, Bool.or_eq_true, beq_iff_eq] at h
  rcases h with rfl | rfl <;> decide

theorem depth_lt_length (htrimmed : trimEnd line = line) (hne : line ≠ []) :
    depth line < line.length := by
  have hfront : line.takeWhile isIndent <+: line := List.takeWhile_prefix isIndent
  refine Nat.lt_of_le_of_ne hfront.length_le fun hall => ?_
  have hlast : line.getLast? = some (line.getLast hne) := List.getLast?_eq_some_getLast hne
  have hmem : line.getLast hne ∈ line.takeWhile isIndent := by
    rw [hfront.eq_of_length hall]
    exact List.getLast_mem hne
  have hfull : isBlank (line.getLast hne) = false := getLast?_trimEnd line (by rwa [htrimmed])
  exact Bool.false_ne_true
    (hfull.symm.trans (isBlank_of_isIndent (List.mem_takeWhile_imp hmem)))

theorem drop_depth (line : List Char) : line.drop (depth line) = line.dropWhile isIndent := by
  have hparts : line.takeWhile isIndent ++ line.dropWhile isIndent = line :=
    List.takeWhile_append_dropWhile
  calc
    line.drop (depth line) =
        (line.takeWhile isIndent ++ line.dropWhile isIndent).drop (depth line) := by rw [hparts]
    _ = line.dropWhile isIndent := List.drop_left' rfl

theorem depth_append (h : ∀ c ∈ indent, isIndent c = true) (rest : List Char) :
    depth (indent ++ rest) = indent.length + depth rest := by
  rw [depth, List.takeWhile_append_of_pos h, List.length_append, depth]

theorem isIndent_of_mem_take {n : Nat} (h : n ≤ depth line) :
    ∀ c ∈ line.take n, isIndent c = true := by
  intro c hc
  have hlength : (line.take n).length = n :=
    List.length_take_of_le (Nat.le_trans h (List.takeWhile_prefix isIndent).length_le)
  have hfront : line.take n <+: line.takeWhile isIndent :=
    List.prefix_of_prefix_length_le (List.take_prefix n line)
      (List.takeWhile_prefix isIndent) (by rwa [hlength])
  exact List.mem_takeWhile_imp (hfront.subset hc)

theorem depth_drop {n : Nat} (h : n ≤ depth line) : depth (line.drop n) = depth line - n := by
  have hlength : (line.take n).length = n :=
    List.length_take_of_le (Nat.le_trans h (List.takeWhile_prefix isIndent).length_le)
  have hwhole := depth_append (isIndent_of_mem_take h) (line.drop n)
  rw [List.take_append_drop, hlength] at hwhole
  omega

end

/-! The shared depth is the least depth of the lines that are not empty. -/

section

variable {block : List (List Char)} {line : List Char}

theorem sharedDepth_le (hline : line ∈ block) (hne : line ≠ []) :
    sharedDepth block ≤ depth line :=
  List.min?_getD_le_of_mem
    (List.mem_map_of_mem (List.mem_filter.mpr ⟨hline, by simpa using hne⟩))

theorem exists_sharedDepth (hline : line ∈ block) (hne : line ≠ []) :
    ∃ least ∈ block, least ≠ [] ∧ depth least = sharedDepth block := by
  have hdepths : (block.filter (!·.isEmpty)).map depth ≠ [] :=
    List.ne_nil_of_mem (List.mem_map_of_mem (List.mem_filter.mpr ⟨hline, by simpa using hne⟩))
  obtain ⟨least, hleast⟩ := Option.isSome_iff_exists.mp (List.isSome_min?_of_ne_nil hdepths)
  obtain ⟨other, hother, hdepth⟩ := List.mem_map.mp (List.min?_mem hleast)
  obtain ⟨hblock, hfull⟩ := List.mem_filter.mp hother
  refine ⟨other, hblock, by simpa using hfull, ?_⟩
  rw [hdepth, sharedDepth, hleast, Option.getD_some]

theorem sharedDepth_eq {n : Nat} (hline : line ∈ block) (hne : line ≠ []) (hdepth : depth line = n)
    (hle : ∀ other ∈ block, other ≠ [] → n ≤ depth other) : sharedDepth block = n := by
  obtain ⟨least, hleast, hfull, heq⟩ := exists_sharedDepth hline hne
  have hupper : sharedDepth block ≤ depth line := sharedDepth_le hline hne
  have hlower : n ≤ depth least := hle least hleast hfull
  omega

end

/-! Placing a block replaces its shared depth by the indentation. -/

section

variable {block : List (List Char)} {first : List Char}

theorem placeLine_of_ne_nil {line : List Char} (h : line ≠ []) (indent : List Char)
    (shared : Nat) : placeLine indent shared line = indent ++ line.drop shared := by
  rw [placeLine, if_neg (by simpa using h)]

namespace Tidy

variable (h : Tidy block)

include h

/-- Something is left of a line when the shared depth is taken off. -/
theorem drop_ne_nil {line : List Char} (hline : line ∈ block) (hne : line ≠ []) :
    line.drop (sharedDepth block) ≠ [] := by
  have hdepth : depth line < line.length := depth_lt_length (h.trimmed line hline) hne
  have hshared : sharedDepth block ≤ depth line := sharedDepth_le hline hne
  rw [ne_eq, List.drop_eq_nil_iff]
  omega

theorem getLast?_drop {line : List Char} (hline : line ∈ block) (hne : line ≠ []) :
    (line.drop (sharedDepth block)).getLast? = line.getLast? := by
  rw [List.getLast?_drop, if_neg (mt List.drop_eq_nil_iff.mpr (h.drop_ne_nil hline hne))]

theorem placeLine_ne_nil {line : List Char} (hline : line ∈ block) (hne : line ≠ [])
    (indent : List Char) : placeLine indent (sharedDepth block) line ≠ [] := by
  rw [placeLine_of_ne_nil hne]
  exact List.append_ne_nil_of_right_ne_nil indent (h.drop_ne_nil hline hne)

theorem trimEnd_placeLine {line : List Char} (hline : line ∈ block) (indent : List Char) :
    trimEnd (placeLine indent (sharedDepth block) line) =
      placeLine indent (sharedDepth block) line := by
  by_cases hne : line = []
  · simp [hne, placeLine, trimEnd]
  · have hrest : line.drop (sharedDepth block) ≠ [] := h.drop_ne_nil hline hne
    have hlast : (indent ++ line.drop (sharedDepth block)).getLast? = line.getLast? := by
      rw [List.getLast?_append_of_ne_nil _ hrest, h.getLast?_drop hline hne]
    rw [placeLine_of_ne_nil hne]
    refine trimEnd_eq_self fun c hc => getLast?_trimEnd line ?_
    rwa [h.trimmed line hline, ← hlast]

theorem placed (hfirst : ∀ c ∈ first, isIndent c = true) :
    Tidy (block.map (placeLine first (sharedDepth block))) := by
  refine ⟨List.forall_mem_map.mpr fun line hline => ?_,
    List.forall_mem_map.mpr fun line hline => h.trimEnd_placeLine hline first, ?_, ?_⟩
  · by_cases hne : line = []
    · simp [hne, placeLine]
    · rw [placeLine_of_ne_nil hne, List.mem_append, not_or]
      refine ⟨fun hfeed => absurd (hfirst _ hfeed) (by decide), fun hfeed => ?_⟩
      exact h.oneLine line hline (List.mem_of_mem_drop hfeed)
  · rw [List.head?_map]
    intro hempty
    obtain ⟨line, hline, hplaced⟩ := Option.map_eq_some_iff.mp hempty
    have hne : line ≠ [] := fun heq => h.head (heq ▸ hline)
    exact h.placeLine_ne_nil (List.mem_of_mem_head? hline) hne first hplaced
  · rw [List.getLast?_map]
    intro hempty
    obtain ⟨line, hline, hplaced⟩ := Option.map_eq_some_iff.mp hempty
    have hne : line ≠ [] := fun heq => h.last (heq ▸ hline)
    exact h.placeLine_ne_nil (List.mem_of_mem_getLast? hline) hne first hplaced

theorem exists_least_line (hblock : block ≠ []) :
    ∃ least ∈ block, least ≠ [] ∧ depth least = sharedDepth block := by
  obtain ⟨top, others, rfl⟩ := List.exists_cons_of_ne_nil hblock
  have htop : top ≠ [] := by simpa using h.head
  exact exists_sharedDepth List.mem_cons_self htop

/-- A placed block is as deep as its indentation. -/
theorem sharedDepth_placed (hfirst : ∀ c ∈ first, isIndent c = true) (hblock : block ≠ []) :
    sharedDepth (block.map (placeLine first (sharedDepth block))) = first.length := by
  have hdepth : ∀ line ∈ block, line ≠ [] →
      depth (placeLine first (sharedDepth block) line) =
        first.length + (depth line - sharedDepth block) := by
    intro line hline hne
    rw [placeLine_of_ne_nil hne, depth_append hfirst, depth_drop (sharedDepth_le hline hne)]
  obtain ⟨least, hleast, hfull, hshared⟩ := h.exists_least_line hblock
  refine sharedDepth_eq (List.mem_map_of_mem hleast) (h.placeLine_ne_nil hleast hfull first) ?_ ?_
  · rw [hdepth least hleast hfull, hshared]
    omega
  · refine List.forall_mem_map.mpr fun line hline hplaced => ?_
    have hne : line ≠ [] := by
      rintro rfl
      exact hplaced rfl
    rw [hdepth line hline hne]
    omega

/-- A line that is placed again stands where it would have been placed at once. -/
theorem placeLine_placeLine {line : List Char} (hline : line ∈ block) (second : List Char) :
    placeLine second first.length (placeLine first (sharedDepth block) line) =
      placeLine second (sharedDepth block) line := by
  by_cases hne : line = []
  · simp [hne, placeLine]
  · rw [placeLine_of_ne_nil (h.placeLine_ne_nil hline hne first), placeLine_of_ne_nil hne,
      List.drop_left, placeLine_of_ne_nil hne]

end Tidy

end

theorem toList_verbatimLines (text indent : String) :
    (verbatimLines text indent).map String.toList = placeBlock text.toList indent.toList := by
  simp [verbatimLines]

theorem placeBlock_intercalate (text : List Char) {first : List Char}
    (hfirst : ∀ c ∈ first, isIndent c = true) (second : List Char) :
    placeBlock (['\n'].intercalate (placeBlock text first)) second = placeBlock text second := by
  have htidy : Tidy (blockLines text) := tidy_blockLines text
  have hagain : blockLines (['\n'].intercalate (placeBlock text first)) = placeBlock text first :=
    (htidy.placed hfirst).blockLines_intercalate
  by_cases hblock : blockLines text = []
  · have hnothing : ∀ indent, placeBlock text indent = [] := fun _ => by simp [placeBlock, hblock]
    rw [hnothing, hnothing]
    rfl
  · calc
      placeBlock (['\n'].intercalate (placeBlock text first)) second =
          (placeBlock text first).map
            (placeLine second (sharedDepth (placeBlock text first))) := by
        rw [placeBlock, hagain]
      _ = (placeBlock text first).map (placeLine second first.length) := by
        rw [placeBlock, htidy.sharedDepth_placed hfirst hblock]
      _ = placeBlock text second := by
        rw [placeBlock, placeBlock, List.map_map]
        exact List.map_congr_left fun line hline => htidy.placeLine_placeLine hline second

/-- A block that was placed at one depth and is placed again stands as if it had been placed there
at once. In particular nothing moves when the depth is the same. -/
theorem verbatimLines_intercalate (text : String) {first : String}
    (hfirst : ∀ c ∈ first.toList, c = ' ' ∨ c = '\t') (second : String) :
    verbatimLines ("\n".intercalate (verbatimLines text first)) second =
      verbatimLines text second := by
  have hindent : ∀ c ∈ first.toList, isIndent c = true := by
    intro c hc
    simpa [isIndent] using hfirst c hc
  have hjoined : ("\n".intercalate (verbatimLines text first)).toList =
      ['\n'].intercalate (placeBlock text.toList first.toList) := by
    simp [String.toList_intercalate, verbatimLines]
  rw [verbatimLines, hjoined, placeBlock_intercalate text.toList hindent, ← verbatimLines]

/-- Tabs and spaces, blank lines around and between the others, and carriage returns. -/
def raggedBlock : String :=
  "\n\t\tfirst\r\n \t \r\n \t  second\r line \n\n"

theorem verbatimLines_intercalate_ragged :
    (∀ c ∈ "\t ".toList, c = ' ' ∨ c = '\t') ∧
      verbatimLines raggedBlock "\t " = ["\t first", "", "\t   second\r line"] ∧
      verbatimLines ("\n".intercalate (verbatimLines raggedBlock "\t ")) "  " =
        ["  first", "", "    second\r line"] := by
  have hfirst : ∀ c ∈ "\t ".toList, c = ' ' ∨ c = '\t' := by simp
  refine ⟨hfirst, by decide, ?_⟩
  rw [verbatimLines_intercalate raggedBlock hfirst]
  decide

end SuiteScribe.Script
