import Dfs.Proofs.Disk.Detours
import Dfs.Proofs.Store.Clearing

/-!
The directories that pruning takes away. A climb takes away empty directories only, and
goes on until it comes to one that is not, so an empty directory is left behind only where
one was empty from the start and is not to be looked at (`Sweep.climb`). From this it
follows which directories are gone in the end, in whatever order they were looked at
(`Sweep.mem_gone_iff`). No file is taken away, wherever the path of the root leads
(`keepsFiles_climbs`).
-/

namespace Dfs.Store

open Disk

variable {root : HostPath} {place here : Place} {cleared disk : Disk} {parents : PathSet}
  {gone : List Place} {name : Name} {above : List Name}

/-! ### Files -/

/-- What a climb takes away are empty directories, also if the root cannot be reached any more
after some of them. -/
theorem keepsFiles_climb (houses : disk.Houses [place] root place) (names : List Name)
    (removed : Nat) : KeepsFiles place disk (climb root names disk removed).1 := by
  induction names generalizing disk removed with
  | nil => exact .refl place disk
  | cons name above ih =>
      unfold climb
      split
      · exact .refl place disk
      next h mapped =>
      have relative := Path.relative_of_toHost (by simp [Path.isRoot]) mapped
      obtain rfl := (Path.toHost_eq_ok_iff.mp mapped).2
      split
      · split
        · exact .refl place disk
        next disk' done =>
        obtain ⟨q, found, -⟩ := removeDirectory_eq_ok_iff.mp done
        have rooted := houses.rooted_of_resolve relative found
        obtain ⟨-, empty, rfl⟩ := (rooted.removeDirectory_eq_ok_iff relative).mp done
        have keeps := KeepsFiles.of_erase relative.nonempty empty
        exact keeps.trans (ih (houses.of_tended (houses.tended_of_worked keeps.toWorked)) _)
      · exact .refl place disk

/-- Climbs from several directories, one after another. -/
def climbs (root : HostPath) (dirs : List Path) (state : Disk × Nat) : Disk × Nat :=
  dirs.foldl (fun (disk, removed) dir => climb root dir.components.reverse disk removed) state

theorem keepsFiles_climbs (houses : disk.Houses [place] root place) (dirs : List Path)
    (removed : Nat) : KeepsFiles place disk (climbs root dirs (disk, removed)).1 := by
  induction dirs generalizing disk removed with
  | nil => exact .refl place disk
  | cons q dirs ih =>
      have keeps := keepsFiles_climb houses q.components.reverse removed
      exact keeps.trans (ih (houses.of_tended (houses.tended_of_worked keeps.toWorked)) _)

/-! ### One step of a climb -/

/-- The path with the names, last one first. -/
def lastFirst (names : List Name) : Path := ⟨names.reverse⟩

theorem lastFirst_cons (name : Name) (above : List Name) :
    lastFirst (name :: above) = (lastFirst above).child name := by
  simp [lastFirst, Path.child]

theorem lastFirst_reverse (p : Path) : lastFirst p.components.reverse = p := by
  simp [lastFirst]

section Step

variable (serves : disk.Serves root place)

include serves

/-- An empty directory is taken away, if the host takes its path. -/
theorem climb_of_empty (empty : disk.EmptyAt (place ++ (lastFirst (name :: above)).place))
    (fits : root.Fits (lastFirst (name :: above)).place) (removed : Nat) :
    climb root (name :: above) disk removed =
      climb root above (disk.erase (place ++ (lastFirst (name :: above)).place)) (removed + 1) := by
  have mapped := toHost_of_there serves.rooted (p := lastFirst (name :: above))
    (by rw [empty.kindAt?_eq_dir]; simp)
  have relative := Path.relative_of_toHost (by simp [lastFirst, Path.isRoot]) mapped
  have seen := (serves.rooted.isEmptyDirectory_iff relative).mpr ⟨fits, empty⟩
  have done := (serves.rooted.removeDirectory_eq_ok_iff relative).mpr ⟨fits, empty, rfl⟩
  rw [climb]
  unfold lastFirst at mapped seen done ⊢
  rw [mapped]
  dsimp only
  rw [if_pos seen, done]

/-- A climb ends where no empty directory is. -/
theorem climb_of_not_empty (other : ¬ disk.EmptyAt (place ++ (lastFirst (name :: above)).place))
    (removed : Nat) : climb root (name :: above) disk removed = (disk, removed) := by
  rw [climb]
  split
  · rfl
  next h mapped =>
  have relative := Path.relative_of_toHost (by simp [Path.isRoot]) mapped
  obtain rfl := (Path.toHost_eq_ok_iff.mp mapped).2
  rw [if_neg]
  intro seen
  exact other ((serves.rooted.isEmptyDirectory_iff relative).mp seen).2

end Step

/-! ### A sweep -/

/-- A directory is one of those to look at, or a directory in it is gone. -/
def Reached (place : Place) (parents : PathSet) (gone : List Place) (js : Place) : Prop :=
  (∃ q ∈ parents, js = place ++ q.place) ∨ ∃ n, js ++ [n] ∈ gone

theorem Reached.cons {js : Place} (reached : Reached place parents gone js) (new : Place) :
    Reached place parents (new :: gone) js := by
  rcases reached with first | ⟨n, mem⟩
  · exact .inl first
  · exact .inr ⟨n, List.mem_cons_of_mem _ mem⟩

/-- What has come of a disk in a sweep that is at the directory `here`: the directories
`gone` have been taken away, starting from those to look at, and only `here` may have
become empty meanwhile. -/
structure Sweep (root : HostPath) (place : Place) (cleared : Disk) (parents : PathSet)
    (here : Place) (gone : List Place) (disk : Disk) : Prop where
  served : cleared.Serves root place
  keeps : KeepsFiles place cleared disk
  nodup : gone.Nodup
  kinds : ∀ js, disk.kindAt? js = if js ∈ gone then none else cleared.kindAt? js
  directory : ∀ js ∈ gone, Inside place js ∧ cleared.kindAt? js = some .dir
  reached : ∀ js ∈ gone, Reached place parents gone js
  settled : ∀ js, Inside place js → js ≠ here → disk.EmptyAt js → cleared.EmptyAt js

namespace Sweep

theorem start (serves : cleared.Serves root place) :
    Sweep root place cleared parents place [] cleared where
  served := serves
  keeps := .refl place cleared
  nodup := .nil
  kinds := by simp
  directory := by simp
  reached := by simp
  settled := fun _ _ _ empty => empty

/-- At the root there is nothing to take away, so the sweep can go on anywhere. -/
theorem move (sweep : Sweep root place cleared parents place gone disk) (here : Place) :
    Sweep root place cleared parents here gone disk :=
  { sweep with settled := fun js inside _ empty => sweep.settled js inside inside.2.symm empty }

section At

variable (sweep : Sweep root place cleared parents here gone disk)

include sweep

theorem serves : disk.Serves root place := sweep.served.worked sweep.keeps.toWorked

/-- A directory that was empty from the start is gone, or still empty. -/
theorem mem_or_emptyAt {js : Place} (empty : cleared.EmptyAt js) : js ∈ gone ∨ disk.EmptyAt js := by
  by_cases mem : js ∈ gone
  · exact .inl mem
  · refine .inr (emptyAt_iff.mpr ⟨?_, fun n => ?_⟩)
    · rw [sweep.kinds, if_neg mem, empty.kindAt?_eq_dir]
    · rw [sweep.kinds, (emptyAt_iff.mp empty).2]
      simp

/-- The sweep stops at a directory that is not empty. -/
theorem stop (other : ¬ disk.EmptyAt here) :
    Sweep root place cleared parents place gone disk := by
  refine { sweep with settled := fun js inside _ empty => sweep.settled js inside ?_ empty }
  rintro rfl
  exact other empty

/-- The sweep takes away the empty directory that it is at, and then is at the one above. -/
theorem step {up : Place} {n : HostName} (whole : here = up ++ [n]) (inside : Inside place here)
    (empty : disk.EmptyAt here) (reached : Reached place parents gone here) :
    Sweep root place cleared parents up (here :: gone) (disk.erase here) := by
  have nonempty : here ≠ [] := by simp [whole]
  obtain ⟨new, isDir⟩ : here ∉ gone ∧ cleared.kindAt? here = some .dir := by
    have kinds := sweep.kinds here
    rw [empty.kindAt?_eq_dir] at kinds
    split at kinds
    · cases kinds
    · next new => exact ⟨new, kinds.symm⟩
  have keeps : KeepsFiles place disk (disk.erase here) := by
    obtain ⟨rest, rfl⟩ := inside.1
    refine .of_erase (fun none => inside.2 ?_) empty
    rw [none, List.append_nil]
  refine ⟨sweep.served, sweep.keeps.trans keeps, ?_, ?_, ?_, ?_, ?_⟩
  · exact List.nodup_cons.mpr ⟨new, sweep.nodup⟩
  · intro js
    rw [kindAt?_erase_empty nonempty empty, sweep.kinds]
    by_cases same : js = here
    · simp [same]
    · simp [same]
  · intro js mem
    rcases List.mem_cons.mp mem with rfl | mem
    · exact ⟨inside, isDir⟩
    · exact sweep.directory js mem
  · intro js mem
    rcases List.mem_cons.mp mem with rfl | mem
    · exact reached.cons js
    · exact (sweep.reached js mem).cons here
  · intro js inside' other emptied
    obtain ⟨there, bare⟩ := emptyAt_iff.mp emptied
    have kinds := kindAt?_erase_empty nonempty empty
    have apart : js ≠ here := by
      rintro rfl
      simp [kinds] at there
    rw [kinds, if_neg apart] at there
    -- It has no other entries than before, since `here` was not in it.
    refine sweep.settled js inside' apart (emptyAt_iff.mpr ⟨there, fun n' => ?_⟩)
    have none := bare n'
    rwa [kinds, if_neg] at none
    rintro rfl
    exact other (List.append_inj_left' whole rfl)

/-- A climb goes on until it comes to a directory that is not empty. -/
theorem climb {names : List Name} (at_ : here = place ++ (lastFirst names).place)
    (fits : Inside place here → disk.EmptyAt here → root.Fits (lastFirst names).place)
    (reached : Reached place parents gone here) :
    ∃ disk' gone', Store.climb root names disk gone.length = (disk', gone'.length) ∧
      Sweep root place cleared parents place gone' disk' ∧ (∀ js ∈ gone, js ∈ gone') ∧
      (Inside place here → cleared.EmptyAt here → here ∈ gone') := by
  induction names generalizing here gone disk with
  | nil =>
      have top : here = place := by simpa [lastFirst, Path.place] using at_
      subst top
      exact ⟨disk, gone, rfl, sweep, fun _ mem => mem, fun inside => absurd rfl inside.2⟩
  | cons name above ih =>
      by_cases empty : disk.EmptyAt here
      · have whole : here = place ++ (lastFirst above).place ++ [Utf8.encode name.text] := by
          rw [at_, lastFirst_cons, Path.place_child, List.append_assoc]
        have inside : Inside place here := by
          rw [whole, List.append_assoc]
          exact ⟨List.prefix_append _ _, by simp⟩
        have fits' : root.Fits (lastFirst above).place := by
          apply HostPath.Fits.of_isPrefix (fits inside empty)
          rw [lastFirst_cons, Path.place_child]
          exact List.prefix_append _ _
        obtain ⟨disk', gone', climbed, sweep', kept, -⟩ :=
          ih (sweep.step whole inside empty reached) rfl (fun _ _ => fits')
            (.inr ⟨Utf8.encode name.text, by simp [whole]⟩)
        refine ⟨disk', gone', ?_, sweep', fun js mem => kept js (List.mem_cons_of_mem _ mem),
          fun _ _ => kept here List.mem_cons_self⟩
        rw [climb_of_empty sweep.serves (at_ ▸ empty) (fits inside empty), ← at_]
        exact climbed
      · refine ⟨disk, gone, climb_of_not_empty sweep.serves (at_ ▸ empty) _, sweep.stop empty,
          fun _ mem => mem, fun _ first => ?_⟩
        exact (sweep.mem_or_emptyAt first).resolve_right empty

end At

section All

variable (sweep : Sweep root place cleared parents place gone disk)

include sweep

/-- Climbs from all the directories to look at, in whatever order. -/
theorem foldl {dirs : List Path} (from_ : ∀ q ∈ dirs, q ∈ parents)
    (fits : ∀ q ∈ parents, cleared.EmptyAt (place ++ q.place) → root.Fits q.place) :
    ∃ disk' gone', climbs root dirs (disk, gone.length) = (disk', gone'.length) ∧
      Sweep root place cleared parents place gone' disk' ∧ (∀ js ∈ gone, js ∈ gone') ∧
      ∀ q ∈ dirs, Inside place (place ++ q.place) → cleared.EmptyAt (place ++ q.place) →
        place ++ q.place ∈ gone' := by
  induction dirs generalizing gone disk with
  | nil => exact ⟨disk, gone, rfl, sweep, fun _ mem => mem, by simp⟩
  | cons q dirs ih =>
      have mem := from_ q List.mem_cons_self
      have same : place ++ q.place = place ++ (lastFirst q.components.reverse).place := by
        rw [lastFirst_reverse]
      have fits' : Inside place (place ++ q.place) → disk.EmptyAt (place ++ q.place) →
          root.Fits (lastFirst q.components.reverse).place := by
        intro inside empty
        rw [lastFirst_reverse]
        exact fits q mem (sweep.settled _ inside inside.2.symm empty)
      obtain ⟨disk', gone', climbed, sweep', kept, first⟩ :=
        (sweep.move (place ++ q.place)).climb same fits' (.inl ⟨q, mem, rfl⟩)
      obtain ⟨disk'', gone'', further, sweep'', kept', rest⟩ :=
        ih sweep' fun q mem => from_ q (List.mem_cons_of_mem _ mem)
      refine ⟨disk'', gone'', ?_, sweep'', fun js mem => kept' js (kept js mem), ?_⟩
      · rw [climbs, List.foldl_cons]
        dsimp only
        rw [climbed]
        exact further
      · intro q' mem' inside empty
        rcases List.mem_cons.mp mem' with rfl | mem'
        · exact kept' _ (first inside empty)
        · exact rest q' mem' inside empty

/-- With a directory, everything below it is gone. -/
theorem mem_gone_of_below {js ys : Place} (mem : js ∈ gone)
    (there : cleared.kindAt? (js ++ ys) ≠ none) : js ++ ys ∈ gone := by
  have absent : disk.kindAt? (js ++ ys) = none :=
    kindAt?_none_of_isPrefix (List.prefix_append js ys) (by rw [sweep.kinds, if_pos mem])
  by_contra left
  rw [sweep.kinds, if_neg left] at absent
  exact there absent

/-- What is left of a directory without files ends at one that was empty from the start. -/
theorem exists_empty_of_left {js : Place} (inside : Inside place js)
    (isDir : cleared.kindAt? js = some .dir)
    (noLeaf : ∀ ys item, cleared.kindAt? (js ++ ys) ≠ some (.leaf item)) (left : js ∉ gone) :
    ∃ ys, Inside place (js ++ ys) ∧ cleared.EmptyAt (js ++ ys) ∧ js ++ ys ∉ gone := by
  have isDir' : disk.kindAt? js = some .dir := by
    rw [sweep.kinds, if_neg left, isDir]
  have noLeaf' : ∀ ys item, disk.kindAt? (js ++ ys) ≠ some (.leaf item) := by
    intro ys item
    rw [sweep.kinds]
    split
    · simp
    · exact noLeaf ys item
  obtain ⟨ys, empty⟩ := exists_emptyAt isDir' noLeaf'
  have inside' : Inside place (js ++ ys) := by
    refine ⟨inside.1.trans (List.prefix_append js ys), ?_⟩
    intro same
    exact inside.2 (inside.1.eq_of_length_le (by rw [same]; simp))
  refine ⟨ys, inside', sweep.settled _ inside' inside'.2.symm empty, fun mem => ?_⟩
  have absent := sweep.kinds (js ++ ys)
  rw [if_pos mem, empty.kindAt?_eq_dir] at absent
  cases absent

/-- The directories that are gone in the end, if of those to look at all are that were
empty: no leaf is below them, and the empty ones there were all to look at. -/
theorem mem_gone_iff (done : ∀ q ∈ parents, Inside place (place ++ q.place) →
      cleared.EmptyAt (place ++ q.place) → place ++ q.place ∈ gone) (js : Place) :
    js ∈ gone ↔ Inside place js ∧ cleared.kindAt? js = some .dir ∧
      (∀ ys item, cleared.kindAt? (js ++ ys) ≠ some (.leaf item)) ∧
      ∀ ys, cleared.EmptyAt (js ++ ys) → ∃ q ∈ parents, js ++ ys = place ++ q.place := by
  constructor
  · intro mem
    obtain ⟨inside, isDir⟩ := sweep.directory js mem
    refine ⟨inside, isDir, ?_, ?_⟩
    · intro ys item leaf
      have below := sweep.mem_gone_of_below mem (by rw [leaf]; simp)
      have isDir' := (sweep.directory _ below).2
      rw [leaf] at isDir'
      cases isDir'
    · intro ys empty
      have below := sweep.mem_gone_of_below mem (by rw [empty.kindAt?_eq_dir]; simp)
      rcases sweep.reached _ below with first | ⟨n, mem'⟩
      · exact first
      · -- It had no entry that could be taken away before it.
        have isDir' := (sweep.directory _ mem').2
        rw [(emptyAt_iff.mp empty).2 n] at isDir'
        cases isDir'
  · rintro ⟨inside, isDir, noLeaf, looked⟩
    by_contra left
    obtain ⟨ys, inside', empty, left'⟩ := sweep.exists_empty_of_left inside isDir noLeaf left
    obtain ⟨q, mem, same⟩ := looked ys empty
    rw [same] at inside' empty left'
    exact left' (done q mem inside' empty)

end All

end Sweep

end Dfs.Store
