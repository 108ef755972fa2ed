import Dfs.Proofs.Disk.Changes
import Dfs.Proofs.Tree.Edit

/-!
Removing a directory with all that is in it. What is in it goes first, and then the directory
is looked up once more. It is still found and removed too, unless its path leads through what
was in it: then it stays and is empty (`Rooted.removeTree_eq`). On no disk does a removal
fail halfway (`removeTree_of_fault`).
-/

namespace Dfs.Disk

variable {d : Disk} {root : HostPath} {p place : Place} {names : List HostName}

/-! ### Without what is in a directory -/

/-- A directory that is there can be replaced. -/
theorem exists_place (isDir : d.kindAt? place = some .dir) (node : DiskNode) :
    ∃ top, Tree.place (fun _ => node) place d.top = .ok top ∧
      d.set place node = { d with top } := by
  obtain ⟨top, placed⟩ : ∃ top, Tree.place (fun _ => node) place d.top = .ok top := by
    apply Tree.place_isOk_iff.mpr
    intro js lead proper item leaf
    have inTheWay : d.kindAt? js = some .dir := kindAt?_of_isPrefix lead proper (by simp [isDir])
    rw [show d.kindAt? js = some (.leaf item) from leaf] at inTheWay
    cases inTheWay
  refine ⟨top, placed, ?_⟩
  unfold set
  rw [placed]

theorem emptied_nil (d : Disk) : d.emptied [] = d := rfl

/-- What is in a directory makes no difference if the directory goes too. -/
theorem erase_emptied (isDir : d.kindAt? place = some .dir) :
    (d.emptied place).erase place = d.erase place := by
  obtain ⟨top, placed, same⟩ := exists_place isDir (.dir [])
  have there : (Tree.dir d.top).kindAt? place ≠ none := by
    rw [show (Tree.dir d.top).kindAt? place = some .dir from isDir]
    simp
  rw [emptied, same, erase, erase, Tree.remove_of_place there placed]

section Emptied

variable (nonempty : place ≠ []) (isDir : d.kindAt? place = some .dir)

include nonempty isDir

theorem kindAt?_emptied (js : Place) :
    (d.emptied place).kindAt? js = if Inside place js then none else d.kindAt? js := by
  obtain ⟨top, placed, same⟩ := exists_place isDir (.dir [])
  rw [emptied, same]
  apply (Tree.kindAt?_place nonempty placed js).trans
  by_cases below : place <+: js
  · rw [if_pos below]
    obtain ⟨rest, rfl⟩ := below
    rw [List.drop_left]
    cases rest with
    | nil => simp [Inside, isDir]
    | cons k ks => simp [Inside]
  · have apart : ¬ Inside place js := fun inside => below inside.1
    rw [if_neg below, if_neg apart]
    split
    · next above =>
        refine (kindAt?_of_isPrefix above ?_ (by simp [isDir])).symm
        rintro rfl
        exact below (List.prefix_refl _)
    · rfl

theorem within_emptied : (d.emptied place).Within d := by
  intro js kind there
  rw [kindAt?_emptied nonempty isDir] at there
  split at there
  · cases there
  · exact there

theorem emptyAt_emptied : (d.emptied place).EmptyAt place := by
  obtain ⟨top, placed, same⟩ := exists_place isDir (.dir [])
  rw [EmptyAt, emptied, same]
  exact Tree.get?_place_self nonempty placed

end Emptied

/-! ### On whatever disk -/

/-- A removal takes nothing away, or the whole directory, or all that is in it where the path
no longer leads to it then. -/
theorem removeTree_cases (d : Disk) (h : HostPath) :
    (∃ fault, d.removeTree h = (some fault, d)) ∨
      ∃ place, d.kindAt? place = some .dir ∧
        (d.removeTree h = (none, d.erase place) ∨
          d.removeTree h = (none, d.emptied place) ∧ (d.emptied place).Misses false h) := by
  unfold removeTree
  split
  · exact .inl ⟨_, rfl⟩
  · exact .inl ⟨_, rfl⟩
  · exact .inl ⟨_, rfl⟩
  next place entries found =>
  have isDir : d.kindAt? place = some .dir := kindAt?_of_get? (get?_of_resolve found)
  by_cases top : place = []
  · -- The top of the disk is never taken away.
    subst top
    unfold removeDirectory
    dsimp only
    rw [emptied_nil, found]
    cases entries with
    | nil => exact .inr ⟨[], isDir, .inl rfl⟩
    | cons entry entries => exact .inl ⟨.notEmpty, rfl⟩
  refine .inr ⟨place, isDir, ?_⟩
  unfold removeDirectory
  dsimp only
  rcases (within_emptied top isDir).resolve_or_misses found with ⟨node, found'⟩ | misses
  · have there := get?_of_resolve found'
    rw [emptyAt_emptied top isDir] at there
    cases there
    rw [found']
    exact .inl (by rw [← erase_emptied isDir])
  · refine .inr ⟨?_, misses⟩
    rcases misses with missed | ⟨dir, name, vacant⟩
    · rw [missed]
      rfl
    · rw [vacant]
      rfl

/-- A removal that fails leaves the disk as it is. -/
theorem removeTree_of_fault {h : HostPath} {fault : Fault} {d' : Disk}
    (failed : d.removeTree h = (some fault, d')) : d' = d := by
  rcases d.removeTree_cases h with ⟨fault', same⟩ | ⟨place, -, removed | ⟨removed, -⟩⟩
  · rw [same] at failed
    exact (Prod.mk.inj failed).2.symm
  · rw [removed] at failed
    cases failed
  · rw [removed] at failed
    cases failed

/-! ### Below a root -/

theorem Rooted.removeTree_eq (rooted : d.Rooted root p) (relative : HostPath.Relative names)
    (fits : root.Fits names) (isDir : d.kindAt? (p ++ names) = some .dir) :
    d.removeTree (root.below names) = (none,
      if (d.emptied (p ++ names)).isDirectory root then d.erase (p ++ names)
      else d.emptied (p ++ names)) := by
  have nonempty : p ++ names ≠ [] := by simp [relative.nonempty]
  have within := within_emptied nonempty isDir
  have empty := emptyAt_emptied nonempty isDir
  obtain ⟨entries, there⟩ := kindAt?_eq_dir_iff.mp isDir
  have found : d.resolve false (root.below names) = .ok (.found (p ++ names) (.dir entries)) :=
    (rooted.resolve_eq_found_iff relative).mpr ⟨rfl, there, fits⟩
  unfold removeTree
  rw [found]
  dsimp only
  rw [removeDirectory]
  rcases rooted.opens_or_lost within with ⟨entries', opens⟩ | ⟨misses, lost⟩
  · have rooted' : (d.emptied (p ++ names)).Rooted root p :=
      ⟨rooted.toPlain.of_within within, entries', opens⟩
    have isRoot : (d.emptied (p ++ names)).isDirectory root = true := isDirectory_of_found opens
    rw [(rooted'.resolve_eq_found_iff relative).mpr ⟨rfl, empty, fits⟩, if_pos isRoot]
    dsimp only
    rw [erase_emptied isDir]
  · have valid := rooted.valid names (by simp [isDir])
    have taken := rooted.check_below (fun name mem => (valid name mem).noNul) fits
    have noRoot : (d.emptied (p ++ names)).isDirectory root ≠ true := by
      unfold isDirectory
      simp [stat_of_misses misses]
    rw [lost names relative taken, if_neg noRoot]
    rfl

/-- A root that leads to its place whatever is below, does so without what was in a
directory. -/
theorem Serves.isDirectory_emptied (serves : d.Serves root p) (nonempty : names ≠ [])
    (isDir : d.kindAt? (p ++ names) = some .dir) :
    (d.emptied (p ++ names)).isDirectory root = true := by
  obtain ⟨entries, opens⟩ := serves.leads (d.emptied (p ++ names)) fun js outside => by
    rw [kindAt?_emptied (by simp [nonempty]) isDir, if_neg]
    rintro ⟨below, -⟩
    refine outside p (by simp) ⟨(List.prefix_append p names).trans below, ?_⟩
    rintro rfl
    have short := below.length_le
    have long := List.length_pos_iff.mpr nonempty
    rw [List.length_append] at short
    omega
  exact isDirectory_of_found opens

end Dfs.Disk
