import Dfs.Proofs.Disk.Empty
import Dfs.Proofs.SortedSet
import Dfs.Proofs.Store.Commands
import Dfs.Store.Prune

/-!
The files that pruning takes away, one after another: exactly those at the paths of
duplicates that the host takes, each counted once. The directories to look at afterwards
are those in which one of these paths is (`Cleared.foldl`).
-/

namespace Dfs

/-- Something below a root can be at the path, and the host takes it. -/
structure Path.Hosted (root : HostPath) (p : Path) : Prop where
  notRoot : p.isRoot = false
  valid : ∀ name ∈ p.place, HostName.IsValid name
  fits : root.Fits p.place

namespace Path.Hosted

variable {root : HostPath} {p : Path}

theorem toHost (hosted : p.Hosted root) : p.toHost root = .ok (root.below p.place) :=
  Path.toHost_eq_ok_iff.mpr
    ⟨fun name mem => ⟨(hosted.valid name mem).notDot, (hosted.valid name mem).notDotDot⟩, rfl⟩

theorem relative (hosted : p.Hosted root) : HostPath.Relative p.place :=
  Path.relative_of_toHost hosted.notRoot hosted.toHost

end Path.Hosted

namespace Store

open Disk

variable {root : HostPath} {place : Place} {state : Pruning} {p q : Path}

/-- The host takes the path of what is there, unless it is too long. -/
theorem hosted_of_there {d : Disk} (rooted : d.Rooted root place) (notRoot : p.isRoot = false)
    (there : d.kindAt? (place ++ p.place) ≠ none) (fits : root.Fits p.place) : p.Hosted root :=
  ⟨notRoot, rooted.valid p.place there, fits⟩

/-! ### One duplicate -/

section Duplicate

variable (rooted : state.disk.Rooted root place)

include rooted

/-- A file at the path of a duplicate is taken away and counted. -/
theorem removeDuplicate_of_file {item : DiskItem} (hosted : p.Hosted root)
    (leaf : state.disk.kindAt? (place ++ p.place) = some (.leaf item)) :
    (removeDuplicate root state p).disk = state.disk.erase (place ++ p.place) ∧
      (removeDuplicate root state p).files = state.files + 1 := by
  obtain ⟨d, n, rfl⟩ := Path.exists_eq_child hosted.notRoot
  have done := (rooted.removeFile_eq_ok_iff hosted.relative).mpr
    ⟨hosted.fits, ⟨item, leaf⟩, rfl⟩
  unfold removeDuplicate
  rw [Path.parent_child, hosted.toHost]
  dsimp only
  rw [done]
  exact ⟨rfl, rfl⟩

/-- Without a file at the path, nothing is taken away. -/
theorem removeDuplicate_of_no_file
    (noFile : p.Hosted root → ∀ item, state.disk.kindAt? (place ++ p.place) ≠ some (.leaf item)) :
    (removeDuplicate root state p).disk = state.disk ∧
      (removeDuplicate root state p).files = state.files := by
  unfold removeDuplicate
  split
  · next parent h up mapped =>
      have notRoot := (Path.parent_eq_ok_iff.mp up).1
      have relative := Path.relative_of_toHost notRoot mapped
      obtain rfl := (Path.toHost_eq_ok_iff.mp mapped).2
      split
      · next disk done =>
          obtain ⟨fits, ⟨item, leaf⟩, -⟩ := (rooted.removeFile_eq_ok_iff relative).mp done
          exact absurd leaf (noFile (hosted_of_there rooted notRoot (by simp [leaf]) fits) item)
      · split <;> exact ⟨rfl, rfl⟩
  · exact ⟨rfl, rfl⟩

/-- The host takes away what is at the path, or says that it is missing, exactly if the
path can be asked for and no directory is there. -/
theorem removeFile_gone_iff {d : Path} {n : Name} (relative : HostPath.Relative (d.child n).place)
    (isDir : state.disk.kindAt? (place ++ d.place) = some .dir) :
    ((∃ disk, state.disk.removeFile (root.below (d.child n).place) = .ok disk) ∨
      ∃ fault, state.disk.removeFile (root.below (d.child n).place) = .error fault ∧
        fault.isMissing = true) ↔
      (d.child n).Hosted root ∧ state.disk.kindAt? (place ++ (d.child n).place) ≠ some .dir := by
  have missing := @Rooted.removeFile_missing_iff _ _ _ _ (Utf8.encode n.text) rooted
    (Path.place_child d n ▸ relative) isDir
  rw [← Path.place_child] at missing
  rw [missing]
  have notRoot := Path.isRoot_child d n
  constructor
  · rintro (⟨disk, done⟩ | ⟨fits, valid, absent⟩)
    · obtain ⟨fits, ⟨item, leaf⟩, -⟩ := (rooted.removeFile_eq_ok_iff relative).mp done
      exact ⟨hosted_of_there rooted notRoot (by simp [leaf]) fits, by simp [leaf]⟩
    · exact ⟨⟨notRoot, valid, fits⟩, by simp [absent]⟩
  · rintro ⟨hosted, noDir⟩
    cases there : state.disk.kindAt? (place ++ (d.child n).place) with
    | none => exact .inr ⟨hosted.fits, hosted.valid, rfl⟩
    | some kind =>
        cases kind with
        | dir => exact absurd there noDir
        | leaf item =>
            exact .inl ⟨_, (rooted.removeFile_eq_ok_iff relative).mpr
              ⟨hosted.fits, ⟨item, there⟩, rfl⟩⟩

/-- A directory is looked at if the path of the duplicate is in it, and is none itself. -/
theorem mem_parents_removeDuplicate_iff
    (isDir : state.disk.kindAt? (place ++ q.place) = some .dir) :
    q ∈ (removeDuplicate root state p).parents ↔ q ∈ state.parents ∨
      p.parent = .ok q ∧ p.Hosted root ∧ state.disk.kindAt? (place ++ p.place) ≠ some .dir := by
  unfold removeDuplicate
  split
  · next parent h up mapped =>
      by_cases same : parent = q
      · subst same
        obtain ⟨n, rfl⟩ := Path.exists_eq_child_of_parent up
        have relative := Path.relative_of_toHost (Path.parent_eq_ok_iff.mp up).1 mapped
        obtain rfl := (Path.toHost_eq_ok_iff.mp mapped).2
        have gone := removeFile_gone_iff rooted relative isDir
        split
        · next disk done => simp [up, gone.mp (.inl ⟨disk, done⟩)]
        · next fault failed =>
            split
            · next missing => simp [up, gone.mp (.inr ⟨fault, failed, missing⟩)]
            · next other =>
                have kept := mt gone.mpr (by simp [failed, other])
                simp [kept]
      · -- The directory of the duplicate is another one.
        have apart : ¬ q = parent := Ne.symm same
        split
        · simp [up, same, apart]
        · split <;> simp [up, same, apart]
  · next unmapped =>
      constructor
      · exact .inl
      · rintro (before | ⟨up, hosted, -⟩)
        · exact before
        · exact absurd hosted.toHost (unmapped q _ up)

end Duplicate

/-! ### All duplicates -/

/-- Of the duplicates that count, the files are gone, each from its own place below the
root, and nothing else has changed. -/
structure FilesGone (counts : Path → Prop) (duplicates : List Path) (place : Place) (before : Disk)
    (files : List Place) (after : Disk) : Prop where
  nodup : files.Nodup
  mem_iff : ∀ js, js ∈ files ↔ (∃ content, before.kindAt? js = some (.leaf (.file content))) ∧
    ∃ p ∈ duplicates, counts p ∧ js = place ++ p.place
  kinds : ∀ js, after.kindAt? js = if js ∈ files then none else before.kindAt? js

/-- What has come of a disk once some of the duplicates have been looked at. -/
structure Cleared (root : HostPath) (place : Place) (before : Disk) (seen : List Path)
    (files : List Place) (state : Pruning) : Prop
    extends FilesGone (Path.Hosted root) seen place before files state.disk where
  opened : before.Rooted root place
  worked : Worked place before state.disk
  count : state.files = files.length
  mem_parents : ∀ q, before.kindAt? (place ++ q.place) = some .dir → (q ∈ state.parents ↔
    ∃ p ∈ seen, p.parent = .ok q ∧ p.Hosted root ∧ before.kindAt? (place ++ p.place) ≠ some .dir)

theorem cleared_nil {before : Disk} (rooted : before.Rooted root place) :
    Cleared root place before [] [] ⟨before, 0, ∅⟩ where
  nodup := .nil
  mem_iff := by simp
  kinds := by simp
  opened := rooted
  worked := .refl place before
  count := rfl
  mem_parents := by simp

namespace Cleared

variable {before : Disk} {seen : List Path} {files : List Place}
  (cleared : Cleared root place before seen files state)

include cleared

/-- The root leads to its place still, as no directory is gone. -/
theorem rooted : state.disk.Rooted root place where
  toPlain := cleared.opened.toPlain.worked cleared.worked
  opens := by
    obtain ⟨entries, found⟩ := cleared.opened.opens
    refine KeepsWays.resolve_dir (fun js kind there noFile => ?_) found
    rw [cleared.kinds, if_neg]
    · exact there
    · intro gone
      obtain ⟨⟨content, file⟩, -⟩ := (cleared.mem_iff js).mp gone
      rw [file] at there
      exact noFile content (Option.some.inj there).symm

/-- Directories are where they were. -/
theorem kindAt?_eq_dir_iff {js : Place} :
    state.disk.kindAt? js = some .dir ↔ before.kindAt? js = some .dir := by
  rw [cleared.kinds]
  split
  · next gone =>
      obtain ⟨⟨content, file⟩, -⟩ := (cleared.mem_iff js).mp gone
      simp [file]
  · rfl

/-- The directories to look at after one more duplicate. -/
theorem mem_parents_step (p : Path) (q : Path)
    (isDir : before.kindAt? (place ++ q.place) = some .dir) :
    q ∈ (removeDuplicate root state p).parents ↔ ∃ p' ∈ seen ++ [p], p'.parent = .ok q ∧
      p'.Hosted root ∧ before.kindAt? (place ++ p'.place) ≠ some .dir := by
  rw [mem_parents_removeDuplicate_iff cleared.rooted (cleared.kindAt?_eq_dir_iff.mpr isDir),
    cleared.mem_parents q isDir, ne_eq, cleared.kindAt?_eq_dir_iff]
  simp [or_and_right, exists_or]

theorem step_of_file {p : Path} {item : DiskItem} (hosted : p.Hosted root)
    (leaf : state.disk.kindAt? (place ++ p.place) = some (.leaf item)) :
    Cleared root place before (seen ++ [p]) ((place ++ p.place) :: files)
      (removeDuplicate root state p) := by
  have nonempty : place ++ p.place ≠ [] := by simp [hosted.relative.nonempty]
  obtain ⟨disk, count⟩ := removeDuplicate_of_file cleared.rooted hosted leaf
  obtain ⟨new, old⟩ : place ++ p.place ∉ files ∧
      before.kindAt? (place ++ p.place) = some (.leaf item) := by
    have kinds := cleared.kinds (place ++ p.place)
    rw [leaf] at kinds
    split at kinds
    · cases kinds
    · next new => exact ⟨new, kinds.symm⟩
  obtain ⟨content, rfl⟩ := cleared.rooted.exists_eq_file leaf
  refine ⟨⟨?_, ?_, ?_⟩, cleared.opened, ?_, ?_, cleared.mem_parents_step p⟩
  · exact List.nodup_cons.mpr ⟨new, cleared.nodup⟩
  · intro js
    rw [List.mem_cons, cleared.mem_iff]
    constructor
    · rintro (rfl | ⟨there, p', mem, hosted', here⟩)
      · exact ⟨⟨content, old⟩, p, by simp, hosted, rfl⟩
      · exact ⟨there, p', List.mem_append_left _ mem, hosted', here⟩
    · rintro ⟨there, p', mem, hosted', here⟩
      rcases List.mem_append.mp mem with mem | last
      · exact .inr ⟨there, p', mem, hosted', here⟩
      · exact .inl (here.trans (by rw [List.mem_singleton.mp last]))
  · intro js
    rw [disk, kindAt?_erase_leaf nonempty leaf, cleared.kinds]
    by_cases here : js = place ++ p.place
    · simp [here]
    · simp [here]
  · rw [disk]
    exact cleared.worked.trans (.of_erase hosted.relative.nonempty)
  · rw [count, cleared.count, List.length_cons]

theorem step_of_no_file {p : Path} (noFile : p.Hosted root →
      ∀ item, state.disk.kindAt? (place ++ p.place) ≠ some (.leaf item)) :
    Cleared root place before (seen ++ [p]) files (removeDuplicate root state p) := by
  obtain ⟨disk, count⟩ := removeDuplicate_of_no_file cleared.rooted noFile
  refine ⟨⟨cleared.nodup, ?_, ?_⟩, cleared.opened, ?_, ?_, cleared.mem_parents_step p⟩
  · intro js
    constructor
    · intro mem
      obtain ⟨there, p', mem, hosted, here⟩ := (cleared.mem_iff js).mp mem
      exact ⟨there, p', List.mem_append_left _ mem, hosted, here⟩
    · rintro ⟨⟨content, there⟩, p', mem, hosted, here⟩
      rcases List.mem_append.mp mem with mem | last
      · exact (cleared.mem_iff js).mpr ⟨⟨content, there⟩, p', mem, hosted, here⟩
      · -- A file at the path of the duplicate is gone already.
        obtain rfl := List.mem_singleton.mp last
        by_contra new
        apply noFile hosted (.file content)
        rw [← here, cleared.kinds, if_neg new, there]
  · intro js
    rw [disk, cleared.kinds]
  · rw [disk]
    exact cleared.worked
  · rw [count, cleared.count]

/-- One more duplicate is looked at. -/
theorem step (p : Path) :
    ∃ files', Cleared root place before (seen ++ [p]) files' (removeDuplicate root state p) := by
  by_cases file : p.Hosted root ∧ ∃ item, state.disk.kindAt? (place ++ p.place) = some (.leaf item)
  · obtain ⟨hosted, item, leaf⟩ := file
    exact ⟨_, cleared.step_of_file hosted leaf⟩
  · exact ⟨files, cleared.step_of_no_file fun hosted item leaf => file ⟨hosted, item, leaf⟩⟩

/-- More duplicates are looked at, one after another. -/
theorem foldl (duplicates : List Path) : ∃ files', Cleared root place before (seen ++ duplicates)
    files' (duplicates.foldl (removeDuplicate root) state) := by
  induction duplicates generalizing seen files state with
  | nil => exact ⟨files, by simpa using cleared⟩
  | cons p duplicates ih =>
      obtain ⟨files', cleared'⟩ := cleared.step p
      have further := ih cleared'
      rwa [List.append_assoc, List.singleton_append] at further

/-- The empty directories to look at are those in which a duplicate could be. -/
theorem mem_parents_of_empty {q : Path} (empty : state.disk.EmptyAt (place ++ q.place)) :
    q ∈ state.parents ↔ ∃ p ∈ seen, p.Hosted root ∧ p.parent = .ok q := by
  have isDir := cleared.kindAt?_eq_dir_iff.mp empty.kindAt?_eq_dir
  rw [cleared.mem_parents q isDir]
  constructor
  · rintro ⟨p, mem, up, hosted, -⟩
    exact ⟨p, mem, hosted, up⟩
  · rintro ⟨p, mem, hosted, up⟩
    refine ⟨p, mem, up, hosted, ?_⟩
    obtain ⟨n, rfl⟩ := Path.exists_eq_child_of_parent up
    rw [ne_eq, ← cleared.kindAt?_eq_dir_iff, Path.place_child, ← List.append_assoc,
      (emptyAt_iff.mp empty).2]
    simp

theorem fits_of_empty {q : Path} (mem : q ∈ state.parents)
    (empty : state.disk.EmptyAt (place ++ q.place)) : root.Fits q.place := by
  obtain ⟨p, -, hosted, up⟩ := (cleared.mem_parents_of_empty empty).mp mem
  obtain ⟨n, rfl⟩ := Path.exists_eq_child_of_parent up
  apply hosted.fits.of_isPrefix
  rw [Path.place_child]
  exact List.prefix_append _ _

end Cleared

end Store

end Dfs
