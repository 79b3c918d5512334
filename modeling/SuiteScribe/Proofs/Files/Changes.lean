import SuiteScribe.Proofs.Files.Path

namespace SuiteScribe.Files.Tree

/-! Putting an entry changes what is found at its place and nowhere else. The working directory and
those on the way to it are directories whatever is put there. -/

theorem find?_of_isPrefixOf {tree : Tree} {place : Place}
    (h : place.isPrefixOf tree.workingDirectory = true) : tree.find? place = some .directory := by
  rw [find?, if_pos h]

theorem find?_eq {tree : Tree} {place : Place}
    (h : place.isPrefixOf tree.workingDirectory = false) :
    tree.find? place = (tree.entries.find? (·.1 == place)).map (·.2) := by
  rw [find?, h, if_neg Bool.false_ne_true]

@[simp] theorem workingDirectory_put (tree : Tree) (place : Place) (entry : Entry) :
    (tree.put place entry).workingDirectory = tree.workingDirectory := rfl

theorem find?_put_of_isPrefixOf {tree : Tree} {other : Place}
    (h : other.isPrefixOf tree.workingDirectory = true) (place : Place) (entry : Entry) :
    (tree.put place entry).find? other = some .directory :=
  find?_of_isPrefixOf h

theorem find?_put_self {tree : Tree} {place : Place}
    (h : place.isPrefixOf tree.workingDirectory = false) (entry : Entry) :
    (tree.put place entry).find? place = some entry := by
  rw [find?_eq (by rwa [workingDirectory_put]), put]
  obtain ⟨entries, workingDirectory⟩ := tree
  clear h
  split
  · next hany =>
      dsimp only at hany ⊢
      induction entries with
      | nil => cases hany
      | cons item rest ih =>
          rw [List.map_cons]
          cases hitem : item.1 == place with
          | true => simp
          | false =>
              rw [List.any_cons, hitem, Bool.false_or] at hany
              simpa [hitem] using ih hany
  · next hany =>
      have hnone : entries.find? (·.1 == place) = none :=
        List.find?_eq_none.mpr fun item hitem hplace =>
          hany (List.any_eq_true.mpr ⟨item, hitem, hplace⟩)
      simp [List.find?_append, hnone]

theorem find?_put_of_not_directory {tree : Tree} {place : Place}
    (h : tree.find? place ≠ some .directory) (entry : Entry) :
    (tree.put place entry).find? place = some entry := by
  cases hprefix : place.isPrefixOf tree.workingDirectory with
  | true => exact absurd (find?_of_isPrefixOf hprefix) h
  | false => exact find?_put_self hprefix entry

theorem find?_put_of_ne (tree : Tree) {place other : Place} (h : other ≠ place) (entry : Entry) :
    (tree.put place entry).find? other = tree.find? other := by
  cases hprefix : other.isPrefixOf tree.workingDirectory with
  | true =>
      rw [find?_put_of_isPrefixOf hprefix, find?_of_isPrefixOf hprefix]
  | false =>
      have hne : (place == other) = false := by simpa using Ne.symm h
      rw [find?_eq hprefix, find?_eq (by rwa [workingDirectory_put]), put]
      obtain ⟨entries, workingDirectory⟩ := tree
      clear hprefix
      split
      · next hany =>
          clear hany
          dsimp only
          induction entries with
          | nil => rfl
          | cons item rest ih =>
              rw [List.map_cons, List.find?_cons, List.find?_cons]
              cases hitem : item.1 == place with
              | true =>
                  have hother : (item.1 == other) = false := by
                    rw [eq_of_beq hitem]
                    exact hne
                  simpa [hother, hne] using ih
              | false =>
                  cases hother : item.1 == other with
                  | true => simp [hother]
                  | false => simpa [hother] using ih
      · simp [List.find?_append, hne]

/-- Files that are put at one place make trees that differ in what is found there only. -/
theorem find?_put_file (tree : Tree) (place other : Place) (first second : Text.Bytes) :
    (tree.put place (.file first)).find? other = (tree.put place (.file second)).find? other ∨
      ((tree.put place (.file first)).find? other = some (.file first) ∧
        (tree.put place (.file second)).find? other = some (.file second)) := by
  by_cases hplace : other = place
  · subst hplace
    cases hprefix : other.isPrefixOf tree.workingDirectory with
    | true => exact .inl (by rw [find?_put_of_isPrefixOf hprefix, find?_put_of_isPrefixOf hprefix])
    | false => exact .inr ⟨find?_put_self hprefix _, find?_put_self hprefix _⟩
  · exact .inl (by rw [find?_put_of_ne tree hplace, find?_put_of_ne tree hplace])

theorem write_file (tree : Tree) (path : String) (first second : Text.Bytes) :
    (tree.write path first).1 = (tree.write path second).1 ∧
      ∀ place, (tree.write path first).2.find? place = (tree.write path second).2.find? place ∨
        ((tree.write path first).2.find? place = some (.file first) ∧
          (tree.write path second).2.find? place = some (.file second)) := by
  simp only [write]
  cases tree.writable path with
  | error fault => exact ⟨rfl, fun _ => .inl rfl⟩
  | ok place => exact ⟨rfl, fun other => find?_put_file tree place other first second⟩

end SuiteScribe.Files.Tree

namespace SuiteScribe.Files

/-! What may become of one place: it stays as it is, a file is written where no directory is, or a
directory is made where nothing is. -/

inductive Change (written made : Prop) : Option Entry → Option Entry → Prop
  | same {entry : Option Entry} : Change written made entry entry
  | write {entry : Option Entry} {content : Text.Bytes} (h : written)
      (hentry : entry ≠ some .directory) : Change written made entry (some (.file content))
  | make (h : made) : Change written made none (some .directory)

namespace Change

variable {written made : Prop} {before between after : Option Entry}

theorem trans (h : Change written made before between) (hnext : Change written made between after) :
    Change written made before after := by
  cases h with
  | same => exact hnext
  | write hwritten hentry =>
      cases hnext with
      | same => exact .write hwritten hentry
      | write => exact .write hwritten hentry
  | make hmade =>
      cases hnext with
      | same => exact .make hmade
      | write _ hentry => exact absurd rfl hentry

theorem mono {mayWrite mayMake : Prop} (h : Change written made before after)
    (hwrite : written → mayWrite) (hmake : made → mayMake) :
    Change mayWrite mayMake before after := by
  cases h with
  | same => exact .same
  | write hwritten hentry => exact .write (hwrite hwritten) hentry
  | make hmade => exact .make (hmake hmade)

/-! Other files stay as they were, and there are no other new directories. -/

theorem file_iff (h : Change written made before after) (hnever : ¬ written)
    (content : Text.Bytes) :
    after = some (.file content) ↔ before = some (.file content) := by
  cases h with
  | same => rfl
  | write hwritten => exact absurd hwritten hnever
  | make => simp

theorem made_of_directory (h : Change written made before after)
    (hafter : after = some .directory) (hbefore : before ≠ some .directory) : made := by
  cases h with
  | same => exact absurd hafter hbefore
  | write => cases hafter
  | make hmade => exact hmade

/-! What is there stays what it is. -/

theorem directory (h : Change written made before after) (hbefore : before = some .directory) :
    after = some .directory := by
  cases h with
  | same => exact hbefore
  | write _ hentry => exact absurd hbefore hentry
  | make => rfl

theorem file {content : Text.Bytes} (h : Change written made before after)
    (hbefore : before = some (.file content)) : ∃ later, after = some (.file later) := by
  cases h with
  | same => exact ⟨content, hbefore⟩
  | write => exact ⟨_, rfl⟩
  | make => cases hbefore

end Change

namespace Tree

/-- Files are written at certain places only, and directories are made at certain places only. The
working directory stays the same. -/
structure Changes (written made : Place → Prop) (before after : Tree) : Prop where
  workingDirectory : after.workingDirectory = before.workingDirectory
  at_place : ∀ place, Change (written place) (made place) (before.find? place) (after.find? place)

def nowhere (_ : Place) : Prop :=
  False

namespace Changes

variable {written made : Place → Prop} {before between after : Tree}

theorem refl (tree : Tree) : Changes written made tree tree :=
  ⟨rfl, fun _ => .same⟩

theorem trans (h : Changes written made before between)
    (hnext : Changes written made between after) : Changes written made before after :=
  ⟨hnext.workingDirectory.trans h.workingDirectory,
    fun place => (h.at_place place).trans (hnext.at_place place)⟩

theorem mono {mayWrite mayMake : Place → Prop} (h : Changes written made before after)
    (hwrite : ∀ place, written place → mayWrite place)
    (hmake : ∀ place, made place → mayMake place) :
    Changes mayWrite mayMake before after :=
  ⟨h.workingDirectory, fun place => (h.at_place place).mono (hwrite place) (hmake place)⟩

/-- Putting an entry changes its place alone. -/
theorem put {place : Place} {entry : Entry} (habsent : before.find? place ≠ some .directory)
    (hchange : Change (written place) (made place) (before.find? place) (some entry)) :
    Changes written made before (before.put place entry) where
  workingDirectory := rfl
  at_place := by
    intro other
    by_cases hplace : other = place
    · subst hplace
      rwa [find?_put_of_not_directory habsent]
    · rw [find?_put_of_ne before hplace]
      exact .same

/-! Paths lead where they led before. -/

theorem enter (h : Changes written made before after) {place next : Place} {part : Part}
    (henter : before.enter place part = .ok next) : after.enter place part = .ok next := by
  cases part with
  | here => exact henter
  | up => exact henter
  | name text =>
      rw [Tree.enter] at henter ⊢
      split at henter
      · cases henter
      · next hlength =>
          rw [if_neg hlength]
          split at henter
          · next hfound => rwa [(h.at_place _).directory hfound]
          · cases henter
          · cases henter

theorem walk (h : Changes written made before after) {place last : Place} {parts : List Part}
    (hwalk : before.walk place parts = .ok last) : after.walk place parts = .ok last := by
  induction parts generalizing place with
  | nil => exact hwalk
  | cons part parts ih =>
      rw [Tree.walk] at hwalk ⊢
      cases henter : before.enter place part with
      | error fault =>
          rw [henter] at hwalk
          cases hwalk
      | ok next =>
          rw [henter] at hwalk
          rw [h.enter henter]
          exact ih hwalk

theorem locate (h : Changes written made before after) {path : String} {destination : Destination}
    (hlocate : before.locate path = .ok destination) : after.locate path = .ok destination := by
  simp only [Tree.locate] at hlocate ⊢
  split at hlocate
  · cases hlocate
  · split at hlocate
    · cases hlocate
    · split at hlocate
      · cases hlocate
      · next hnul hempty hlong =>
          have hstart : after.start path = before.start path := by
            rw [start, start, h.workingDirectory]
          rw [if_neg hnul, if_neg hempty, if_neg hlong, hstart]
          cases hwalk : before.walk (before.start path) (walkedParts path).dropLast with
          | error fault =>
              rw [hwalk] at hlocate
              cases hlocate
          | ok place =>
              rw [hwalk] at hlocate
              rw [h.walk hwalk]
              exact hlocate

end Changes

/-! Writing. -/

section

variable {tree after : Tree} {path : String} {place : Place}

theorem writable_eq_ok (h : tree.writable path = .ok place) :
    ∃ directory name, tree.locate path = .ok (.named directory name) ∧ endsInSlash path = false ∧
      tooLong name = false ∧ tree.find? place ≠ some .directory ∧ place = directory ++ [name] := by
  rw [writable] at h
  split at h
  · cases h
  · cases h
  · next directory name hlocate =>
      split at h
      · cases h
      · next hslash =>
          split at h
          · cases h
          · next hlong =>
              split at h
              · cases h
              · next hentry =>
                  cases h
                  exact ⟨directory, name, hlocate, by simpa using hslash, by simpa using hlong,
                    hentry, rfl⟩

theorem write_of_writable (h : tree.writable path = .ok place) (content : Text.Bytes) :
    tree.write path content = (.ok (), tree.put place (.file content)) := by
  rw [write, h]

theorem find?_write (h : tree.writable path = .ok place) (content : Text.Bytes) :
    (tree.write path content).2.find? place = some (.file content) := by
  obtain ⟨-, -, -, -, -, hentry, -⟩ := writable_eq_ok h
  rw [write_of_writable h]
  exact find?_put_of_not_directory hentry _

theorem write_changes (tree : Tree) (path : String) (content : Text.Bytes) :
    Changes (tree.writable path = .ok ·) nowhere tree (tree.write path content).2 := by
  cases h : tree.writable path with
  | error fault =>
      rw [write, h]
      exact .refl tree
  | ok place =>
      obtain ⟨-, -, -, -, -, hentry, -⟩ := writable_eq_ok h
      rw [write_of_writable h]
      exact .put hentry (.write rfl hentry)

/-- Where a file is found later, it can still be written. -/
theorem Changes.writable {written made : Place → Prop} (h : Changes written made tree after)
    (hwritable : tree.writable path = .ok place) {content : Text.Bytes}
    (hfile : after.find? place = some (.file content)) : after.writable path = .ok place := by
  obtain ⟨directory, name, hlocate, hslash, hlong, -, rfl⟩ := writable_eq_ok hwritable
  rw [Tree.writable, h.locate hlocate]
  simp [hslash, hlong, hfile]

theorem read_of_writable {content : Text.Bytes} (h : tree.writable path = .ok place)
    (hfile : tree.find? place = some (.file content)) : tree.read path = .ok content := by
  obtain ⟨directory, name, hlocate, hslash, hlong, -, rfl⟩ := writable_eq_ok h
  rw [read, hlocate]
  simp [hslash, hlong, hfile]

theorem writable_write (h : tree.writable path = .ok place) (content : Text.Bytes) :
    (tree.write path content).2.writable path = .ok place :=
  (write_changes tree path content).writable h (find?_write h content)

theorem write_ok {content : Text.Bytes} (h : (tree.write path content).1 = .ok ()) :
    ∃ place, tree.writable path = .ok place := by
  cases hwritable : tree.writable path with
  | error fault =>
      rw [write, hwritable] at h
      cases h
  | ok place => exact ⟨place, rfl⟩

/-- What was written is read back. -/
theorem read_write {content : Text.Bytes} (h : (tree.write path content).1 = .ok ()) :
    (tree.write path content).2.read path = .ok content := by
  obtain ⟨place, hwritable⟩ := write_ok h
  exact read_of_writable (writable_write hwritable content) (find?_write hwritable content)

end

/-! Making directories. -/

/-- The place that a path leads to. -/
def LeadsTo (tree : Tree) (path : String) (place : Place) : Prop :=
  ∃ destination, tree.locate path = .ok destination ∧ destination.place = place

theorem Changes.leadsTo {written made : Place → Prop} {before after : Tree}
    (h : Changes written made before after) {path : String} {place : Place}
    (hleads : before.LeadsTo path place) : after.LeadsTo path place := by
  obtain ⟨destination, hlocate, hplace⟩ := hleads
  exact ⟨destination, h.locate hlocate, hplace⟩

theorem makeDirectory_changes (tree : Tree) (path : String) :
    Changes nowhere (tree.LeadsTo path) tree (tree.makeDirectory path).2 := by
  rw [makeDirectory]
  split
  · exact .refl tree
  · exact .refl tree
  · next directory name hlocate =>
      split
      · exact .refl tree
      · split
        · exact .refl tree
        · next habsent =>
            have hnone : tree.find? (directory ++ [name]) = none := by simpa using habsent
            refine .put (by simp [hnone]) ?_
            rw [hnone]
            exact .make ⟨_, hlocate, rfl⟩

theorem ensureDirectory_changes (tree : Tree) (path : String) :
    Changes nowhere (tree.LeadsTo path) tree (tree.ensureDirectory path).2 := by
  have hmade := makeDirectory_changes tree path
  rw [ensureDirectory]
  split
  · next hresult => rwa [hresult] at hmade
  · split <;> exact .refl tree

theorem makeChain_changes (tree : Tree) (leads : List String) :
    Changes nowhere (fun place => ∃ lead ∈ leads, (tree.makeChain leads).2.LeadsTo lead place) tree
      (tree.makeChain leads).2 := by
  induction leads with
  | nil => exact .refl tree
  | cons path rest ih =>
      have hfirst : ∀ before : Tree, Changes nowhere
          (fun place => ∃ lead ∈ path :: rest,
            (before.ensureDirectory path).2.LeadsTo lead place) before
          (before.ensureDirectory path).2 := by
        intro before
        have hmade := ensureDirectory_changes before path
        exact hmade.mono (fun _ hnever => hnever) fun place hplace =>
          ⟨path, List.mem_cons_self, hmade.leadsTo hplace⟩
      rw [makeChain]
      split
      · split
        · next next hchain =>
            rw [hchain] at ih
            refine .trans (ih.mono (fun _ hnever => hnever) ?_) (hfirst next)
            rintro place ⟨lead, hlead, hplace⟩
            exact ⟨lead, List.mem_cons_of_mem _ hlead,
              (ensureDirectory_changes next path).leadsTo hplace⟩
        · refine ih.mono (fun _ hnever => hnever) ?_
          rintro place ⟨lead, hlead, hplace⟩
          exact ⟨lead, List.mem_cons_of_mem _ hlead, hplace⟩
      · exact hfirst tree

theorem mem_ancestors {absolute : Bool} {list : List Part} {lead : String}
    (h : lead ∈ ancestors absolute list) :
    ∃ front, front <+: list.reverse ∧ lead = render absolute front := by
  induction list with
  | nil => cases h
  | cons last before ih =>
      rw [ancestors, List.mem_cons] at h
      rcases h with rfl | hbefore
      · exact ⟨_, List.prefix_refl _, rfl⟩
      · obtain ⟨front, hfront, hlead⟩ := ih hbefore
        rw [List.reverse_cons]
        exact ⟨front, hfront.trans (List.prefix_append _ _), hlead⟩

theorem above_of_mem_ancestors {path directory lead : String}
    (hparent : parent? path = some directory)
    (h : lead ∈ ancestors (isAbsolute directory) (parts directory).reverse) : Above lead path := by
  rw [parent?] at hparent
  split at hparent
  · cases hparent
  · next last before hparts =>
      cases hparent
      have hpath : parts path = before.reverse ++ [last] := by
        rw [← List.reverse_reverse (parts path), hparts, List.reverse_cons]
      have horderly : Orderly (isAbsolute path) before.reverse :=
        (orderly_parts path).front (hpath ▸ List.prefix_append _ _)
      rw [isAbsolute_render horderly, parts_render horderly] at h
      obtain ⟨front, hfront, hlead⟩ := mem_ancestors h
      rw [List.reverse_reverse] at hfront
      refine ⟨front, ?_, ?_, hlead⟩
      · rw [hpath]
        exact hfront.trans (List.prefix_append _ _)
      · rintro rfl
        have hlength := hfront.length_le
        rw [hpath, List.length_append, List.length_singleton] at hlength
        omega

/-- The directories above a path. -/
def LiesAbove (tree : Tree) (path : String) (place : Place) : Prop :=
  ∃ lead, Above lead path ∧ tree.LeadsTo lead place

/-- Nothing lies above a bare name. -/
theorem not_liesAbove {tree : Tree} {path : String} (hparts : (parts path).length = 1)
    (hrelative : isAbsolute path = false) (place : Place) : ¬ tree.LiesAbove path place := by
  rintro ⟨lead, ⟨front, hfront, hne, rfl⟩, destination, hlocate, -⟩
  have hshorter : front.length ≠ (parts path).length := fun heq => hne (hfront.eq_of_length heq)
  have hlength := hfront.length_le
  obtain rfl : front = [] := List.eq_nil_of_length_eq_zero (by omega)
  simp [hrelative, render, joinSlashes, locate] at hlocate

theorem makeParent_changes (tree : Tree) (path : String) :
    Changes nowhere ((tree.makeParent path).2.LiesAbove path) tree (tree.makeParent path).2 := by
  rw [makeParent]
  split
  · exact .refl tree
  · next directory hparent =>
      refine (makeChain_changes tree _).mono (fun _ hnever => hnever) ?_
      rintro place ⟨lead, hlead, hplace⟩
      exact ⟨lead, above_of_mem_ancestors hparent hlead, hplace⟩

theorem Changes.liesAbove {written made : Place → Prop} {before after : Tree}
    (h : Changes written made before after) {path : String} {place : Place}
    (hlies : before.LiesAbove path place) : after.LiesAbove path place := by
  obtain ⟨lead, habove, hleads⟩ := hlies
  exact ⟨lead, habove, h.leadsTo hleads⟩

end Tree

end SuiteScribe.Files
