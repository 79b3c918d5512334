import SuiteScribe.Proofs.Files.Changes

namespace SuiteScribe.Files.Tree

/-! What was done is not done again. An entry that is put twice is put once, and a directory that
was made is there and is left alone, even after other changes. -/

section

variable (tree : Tree) (place : Place) (entry : Entry)

theorem put_mem_entries : (place, entry) ∈ (tree.put place entry).entries := by
  rw [put]
  split
  · next hany =>
      obtain ⟨item, hitem, hplace⟩ := List.any_eq_true.mp hany
      exact List.mem_map.mpr ⟨item, hitem, if_pos hplace⟩
  · exact List.mem_append_right _ (List.mem_singleton_self _)

theorem eq_of_mem_entries_put {item : Place × Entry} (h : item ∈ (tree.put place entry).entries)
    (hplace : item.1 = place) : item = (place, entry) := by
  rw [put] at h
  split at h
  · obtain ⟨before, -, rfl⟩ := List.mem_map.mp h
    cases hbefore : before.1 == place with
    | true => rw [if_pos rfl]
    | false =>
        rw [hbefore, if_neg Bool.false_ne_true] at hplace
        exact absurd hplace (beq_eq_false_iff_ne.mp hbefore)
  · next hany =>
      rcases List.mem_append.mp h with hitem | hitem
      · have hthere : tree.entries.any (·.1 == place) = true :=
          List.any_eq_true.mpr ⟨item, hitem, beq_iff_eq.mpr hplace⟩
        exact absurd hthere hany
      · exact List.mem_singleton.mp hitem

theorem put_eq_self (hmem : (place, entry) ∈ tree.entries)
    (honly : ∀ item ∈ tree.entries, item.1 = place → item = (place, entry)) :
    tree.put place entry = tree := by
  have hany : tree.entries.any (·.1 == place) = true :=
    List.any_eq_true.mpr ⟨(place, entry), hmem, beq_self_eq_true place⟩
  have hsame : ∀ item ∈ tree.entries,
      (if item.1 == place then (place, entry) else item) = id item := by
    intro item hitem
    split
    · next hplace => exact (honly item hitem (eq_of_beq hplace)).symm
    · rfl
  rw [put, if_pos hany, List.map_congr_left hsame, List.map_id]

theorem put_put : (tree.put place entry).put place entry = tree.put place entry :=
  put_eq_self _ place entry (put_mem_entries tree place entry)
    fun _ => eq_of_mem_entries_put tree place entry

end

theorem isDirectory_iff {tree : Tree} {path : String} :
    tree.isDirectory path = true ↔
      ∃ destination, tree.locate path = .ok destination ∧
        tree.find? destination.place = some .directory := by
  rw [isDirectory]
  cases tree.locate path with
  | error fault => simp
  | ok destination => simp

section

variable {tree after : Tree} {path : String} {written made : Place → Prop}

theorem Changes.isDirectory (h : Changes written made tree after)
    (hthere : tree.isDirectory path = true) : after.isDirectory path = true := by
  obtain ⟨destination, hlocate, hfound⟩ := isDirectory_iff.mp hthere
  exact isDirectory_iff.mpr ⟨destination, h.locate hlocate, (h.at_place _).directory hfound⟩

theorem makeDirectory_of_isDirectory (h : tree.isDirectory path = true) :
    ∃ fault, tree.makeDirectory path = (.error fault, tree) := by
  obtain ⟨destination, hlocate, hfound⟩ := isDirectory_iff.mp h
  rw [makeDirectory, hlocate]
  cases destination with
  | ofDirectory place => exact ⟨_, rfl⟩
  | named directory name =>
      have hthere : (tree.find? (directory ++ [name])).isSome = true :=
        Option.isSome_of_eq_some hfound
      simp only [hthere, if_true]
      split <;> exact ⟨_, rfl⟩

theorem ensureDirectory_of_isDirectory (h : tree.isDirectory path = true) :
    tree.ensureDirectory path = (.ok (), tree) := by
  obtain ⟨fault, hmake⟩ := makeDirectory_of_isDirectory h
  rw [ensureDirectory, hmake]
  exact if_pos h

theorem makeDirectory_ok (h : (tree.makeDirectory path).1 = .ok ()) :
    ∃ directory name, tree.locate path = .ok (.named directory name) ∧
      tree.find? (directory ++ [name]) = none ∧
      tree.makeDirectory path = (.ok (), tree.put (directory ++ [name]) .directory) := by
  rw [makeDirectory] at h ⊢
  split at h
  · cases h
  · cases h
  · next directory name hlocate =>
      split at h
      · cases h
      · next hlong =>
          split at h
          · cases h
          · next habsent =>
              refine ⟨directory, name, hlocate, by simpa using habsent, ?_⟩
              rw [if_neg hlong, if_neg habsent]

theorem isDirectory_makeDirectory (h : (tree.makeDirectory path).1 = .ok ()) :
    (tree.makeDirectory path).2.isDirectory path = true := by
  have hchanges := makeDirectory_changes tree path
  obtain ⟨directory, name, hlocate, habsent, hmake⟩ := makeDirectory_ok h
  rw [hmake] at hchanges ⊢
  exact isDirectory_iff.mpr ⟨.named directory name, hchanges.locate hlocate,
    find?_put_of_not_directory (by simp [habsent]) _⟩

theorem isDirectory_ensureDirectory (h : (tree.ensureDirectory path).1 = .ok ()) :
    (tree.ensureDirectory path).2.isDirectory path = true := by
  rw [ensureDirectory] at h ⊢
  rcases hmake : tree.makeDirectory path with ⟨fault | _, made⟩
  · rw [hmake] at h
    dsimp only at h ⊢
    split at h
    · next hthere => rwa [if_pos hthere]
    · cases h
  · have hmade : (tree.makeDirectory path).2.isDirectory path = true :=
      isDirectory_makeDirectory (by rw [hmake])
    rwa [hmake] at hmade

theorem isDirectory_makeChain {rest : List String}
    (h : (tree.makeChain (path :: rest)).1 = .ok ()) :
    (tree.makeChain (path :: rest)).2.isDirectory path = true := by
  rw [makeChain] at h ⊢
  rcases hfirst : tree.ensureDirectory path with ⟨fault | _, made⟩
  · rw [hfirst] at h
    cases fault with
    | noSuchFile =>
        rcases hchain : tree.makeChain rest with ⟨_ | _, next⟩
        · rw [hchain] at h
          cases h
        · rw [hchain] at h
          exact isDirectory_ensureDirectory h
    | _ => cases h
  · have hmade : (tree.ensureDirectory path).2.isDirectory path = true :=
      isDirectory_ensureDirectory (by rw [hfirst])
    rwa [hfirst] at hmade

theorem makeDirectories_again {next : Tree} (h : tree.makeDirectories path = (.ok (), next))
    (hchanges : Changes written made next after) :
    after.makeDirectories path = (.ok (), after) := by
  rw [makeDirectories] at h ⊢
  cases hleads : ancestors (isAbsolute path) (parts path).reverse with
  | nil => rfl
  | cons lead rest =>
      rw [hleads] at h
      have hthere : next.isDirectory lead = true := by
        have hmade : (tree.makeChain (lead :: rest)).2.isDirectory lead = true :=
          isDirectory_makeChain (by rw [h])
        rwa [h] at hmade
      rw [makeChain, ensureDirectory_of_isDirectory (hchanges.isDirectory hthere)]

theorem makeParent_again {next : Tree} (h : tree.makeParent path = (.ok (), next))
    (hchanges : Changes written made next after) : after.makeParent path = (.ok (), after) := by
  rw [makeParent] at h ⊢
  split at h
  · rfl
  · exact makeDirectories_again h hchanges

end

/-! A file put where its path leads, after the directories above it. -/

def deposit (tree : Tree) (path : String) (content : Text.Bytes) : Except Fault Unit × Tree :=
  match tree.makeParent path with
  | (.error fault, made) => (.error fault, made)
  | (.ok (), made) => made.write path content

/-- The directories above a path can be made, and the path then leads to a file or to nothing. -/
def Accepts (tree : Tree) (path : String) : Prop :=
  (tree.makeParent path).1 = .ok () ∧ ∃ place, (tree.makeParent path).2.writable path = .ok place

theorem Accepts.deposit {tree : Tree} {path : String} (h : tree.Accepts path)
    (content : Text.Bytes) : (tree.deposit path content).1 = .ok () := by
  obtain ⟨hmade, place, hwritable⟩ := h
  rw [Tree.deposit]
  rcases hparent : tree.makeParent path with ⟨result, made⟩
  rw [hparent] at hmade hwritable
  cases hmade
  exact congrArg Prod.fst (write_of_writable hwritable content)

theorem deposit_changes (tree : Tree) (path : String) (content : Text.Bytes) :
    Changes
      (fun place => (tree.deposit path content).1 = .ok () ∧
        (tree.deposit path content).2.writable path = .ok place)
      ((tree.deposit path content).2.LiesAbove path) tree (tree.deposit path content).2 := by
  have hmade := makeParent_changes tree path
  rcases hparent : tree.makeParent path with ⟨fault | _, made⟩
  · rw [hparent] at hmade
    rw [deposit, hparent]
    exact hmade.mono (fun _ hnever => hnever.elim) fun _ hlies => hlies
  · rw [hparent] at hmade
    rw [deposit, hparent]
    dsimp only at hmade ⊢
    have hwritten := write_changes made path content
    refine .trans (hmade.mono (fun _ hnever => hnever.elim) fun _ => hwritten.liesAbove) ?_
    refine hwritten.mono (fun place hplace => ⟨?_, writable_write hplace content⟩)
      fun _ hnever => hnever.elim
    rw [write_of_writable hplace]

section

variable {tree : Tree} {path : String} {content : Text.Bytes}

theorem deposit_ok (h : (tree.deposit path content).1 = .ok ()) :
    ∃ made, tree.makeParent path = (.ok (), made) ∧
      tree.deposit path content = made.write path content := by
  rw [deposit] at h ⊢
  split at h
  · cases h
  · next made hmade => exact ⟨made, hmade, rfl⟩

theorem read_deposit (h : (tree.deposit path content).1 = .ok ()) :
    (tree.deposit path content).2.read path = .ok content := by
  obtain ⟨made, -, hdeposit⟩ := deposit_ok h
  rw [hdeposit] at h ⊢
  exact read_write h

/-- A bare name leads to itself in the working directory. -/
theorem locate_name (tree : Tree) {path : String} (hnul : path.contains '\x00' = false)
    (hempty : path.isEmpty = false) (hshort : path.utf8ByteSize < pathLimit)
    (hrelative : isAbsolute path = false) (hparts : walkedParts path = [.name path.toList]) :
    tree.locate path = .ok (.named tree.workingDirectory path) := by
  simp [locate, hnul, hempty, Nat.not_le.mpr hshort, hparts, walk, start, hrelative]

/-- A bare name needs no directories. -/
theorem deposit_here {place : Place} (hparent : parent? path = some "")
    (hwritable : tree.writable path = .ok place) :
    tree.deposit path content = (.ok (), (tree.write path content).2) := by
  rw [deposit, makeParent, hparent]
  change tree.write path content = _
  rw [write_of_writable hwritable]

/-- Where a file was put, it can be written again. -/
theorem writable_deposit (h : (tree.deposit path content).1 = .ok ()) :
    ∃ place, (tree.deposit path content).2.writable path = .ok place ∧
      (tree.deposit path content).2.find? place = some (.file content) := by
  obtain ⟨made, -, hdeposit⟩ := deposit_ok h
  rw [hdeposit] at h ⊢
  obtain ⟨place, hwritable⟩ := write_ok h
  exact ⟨place, writable_write hwritable content, find?_write hwritable content⟩

/-- Where a file was put, the same content can be put again, and nothing changes. -/
theorem deposit_again (h : (tree.deposit path content).1 = .ok ()) :
    (tree.deposit path content).2.deposit path content =
      (.ok (), (tree.deposit path content).2) := by
  obtain ⟨made, hmade, hdeposit⟩ := deposit_ok h
  rw [hdeposit] at h ⊢
  obtain ⟨place, hwritable⟩ := write_ok h
  have hparent := makeParent_again hmade (write_changes made path content)
  have hagain := writable_write hwritable content
  rw [deposit, hparent]
  dsimp only
  rw [write_of_writable hagain, write_of_writable hwritable, put_put]

end

end SuiteScribe.Files.Tree
