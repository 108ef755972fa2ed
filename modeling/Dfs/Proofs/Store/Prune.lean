import Dfs.Proofs.Store.Sweep

/-!
Pruning below a root that is there: of the duplicates, those are gone whose host paths
can be opened, and no other file has changed (`prune_spec`). Which files and directories
are gone, and how many are reported, is exact on a disk that the node serves (`prune_exact`),
unless the host does not take a path, or the path of the root leads through what is pruned
(`prune_inexact`).
-/

namespace Dfs.Store

open Disk

variable {root : HostPath} {place : Place} {st : Store}

/-- A node without duplicates gives nothing up. -/
theorem prune_empty (st : Store) : st.prune ∅ = (⟨0, 0⟩, st) := by
  simp [prune, deepestFirst]

/-- First the files are taken away and then the directories. -/
theorem exists_cleared (rooted : st.disk.Rooted st.root place) (duplicates : PathSet) :
    ∃ state files, Cleared st.root place st.disk duplicates.toList files state ∧
      st.prune duplicates =
        (⟨files.length, (climbs st.root (deepestFirst state.parents) (state.disk, 0)).2⟩,
          { st with disk := (climbs st.root (deepestFirst state.parents) (state.disk, 0)).1 }) := by
  obtain ⟨files, cleared⟩ := (cleared_nil rooted).foldl duplicates.toList
  rw [List.nil_append] at cleared
  refine ⟨_, files, cleared, ?_⟩
  rw [← cleared.count]
  rfl

/-- Where the root leads to its place whatever is below it, the directories are swept. -/
theorem exists_pruned (serves : st.disk.Serves st.root place) (duplicates : PathSet) :
    ∃ state files gone disk,
      Cleared st.root place st.disk duplicates.toList files state ∧
      Sweep st.root place state.disk state.parents place gone disk ∧
      (∀ q ∈ state.parents, Inside place (place ++ q.place) →
        state.disk.EmptyAt (place ++ q.place) → place ++ q.place ∈ gone) ∧
      st.prune duplicates = (⟨files.length, gone.length⟩, { st with disk }) := by
  obtain ⟨state, files, cleared, pruned⟩ := exists_cleared serves.rooted duplicates
  have looked : ∀ q, q ∈ deepestFirst state.parents ↔ q ∈ state.parents := by
    intro q
    rw [deepestFirst, List.mem_mergeSort, SortedSet.mem_toList]
  obtain ⟨disk, gone, swept, sweep, -, done⟩ := (Sweep.start (serves.worked cleared.worked)).foldl
    (fun q => (looked q).mp) fun q mem empty => cleared.fits_of_empty mem empty
  refine ⟨state, files, gone, disk, cleared, sweep, fun q mem => done q ((looked q).mpr mem), ?_⟩
  rw [pruned, ← List.length_nil, swept]

/-! ### Files -/

/-- The place is that of the path below the root, and the host takes its path. -/
def Prunable (root : HostPath) (place : Place) (p : Path) (js : Place) : Prop :=
  p.isRoot = false ∧ root.Fits p.place ∧ js = place ++ p.place

/-- On a disk where the root leads to its place, be it through directories that go. -/
theorem prune_spec (rooted : st.disk.Rooted st.root place) (duplicates : PathSet) :
    (st.prune duplicates).2.root = st.root ∧
      Worked place st.disk (st.prune duplicates).2.disk ∧
      (∀ js, (∃ p ∈ duplicates, Prunable st.root place p js) →
        (st.prune duplicates).2.disk.leafAt? js = none) ∧
      ∀ js, (¬ ∃ p ∈ duplicates, Prunable st.root place p js) →
        (st.prune duplicates).2.disk.leafAt? js = st.disk.leafAt? js := by
  obtain ⟨state, files, cleared, pruned⟩ := exists_cleared rooted duplicates
  have keeps := keepsFiles_climbs cleared.rooted.houses (deepestFirst state.parents) 0
  rw [pruned]
  generalize (climbs st.root (deepestFirst state.parents) (state.disk, 0)).1 = disk at keeps ⊢
  have leaves : ∀ js, disk.leafAt? js = if js ∈ files then none else st.disk.leafAt? js := by
    intro js
    rw [keeps.leaves, leafAt?, cleared.kinds]
    split <;> rfl
  refine ⟨rfl, cleared.worked.trans keeps.toWorked, ?_, ?_⟩
  · rintro js ⟨p, mem, notRoot, fits, rfl⟩
    refine (leaves _).trans ?_
    split
    · rfl
    next left =>
    -- A file that is there could be opened, and would be gone.
    by_contra there
    obtain ⟨item, leaf⟩ := Option.ne_none_iff_exists'.mp there
    rw [leafAt?_eq_some_iff] at leaf
    obtain ⟨content, rfl⟩ := rooted.exists_eq_file leaf
    have hosted := hosted_of_there rooted notRoot (by simp [leaf]) fits
    exact left ((cleared.mem_iff _).mpr ⟨⟨content, leaf⟩, p, mem, hosted, rfl⟩)
  · intro js none
    refine (leaves js).trans (if_neg fun mem => none ?_)
    obtain ⟨-, p, mem, hosted, here⟩ := (cleared.mem_iff js).mp mem
    exact ⟨p, mem, hosted.notRoot, hosted.fits, here⟩

/-! ### Files and directories -/

/-- Of the directories below the root, those are gone that have no file below them and in
which every empty one is the parent of a duplicate that counts; and nothing else has
changed. -/
structure DirectoriesGone (counts : Path → Prop) (duplicates : PathSet) (place : Place)
    (before : Disk) (directories : List Place) (after : Disk) : Prop where
  nodup : directories.Nodup
  mem_iff : ∀ js, js ∈ directories ↔ Inside place js ∧ before.kindAt? js = some .dir ∧
    (∀ ys item, before.kindAt? (js ++ ys) ≠ some (.leaf item)) ∧
    ∀ ys, before.EmptyAt (js ++ ys) →
      ∃ p ∈ duplicates, counts p ∧ ∃ q, p.parent = .ok q ∧ js ++ ys = place ++ q.place
  kinds : ∀ js, after.kindAt? js = if js ∈ directories then none else before.kindAt? js

/-- Pruning takes away the files of the duplicates that count and then the directories that
these leave, reports how many, and changes nothing else. -/
def PrunesExactly (counts : Path → Prop) (st : Store) (place : Place) (duplicates : PathSet) :
    Prop :=
  ∃ cleared files directories,
    FilesGone counts duplicates.toList place st.disk files cleared ∧
    DirectoriesGone counts duplicates place cleared directories (st.prune duplicates).2.disk ∧
    (st.prune duplicates).1 = ⟨files.length, directories.length⟩ ∧
    (st.prune duplicates).2.root = st.root

/-- On a disk that the node serves, pruning is exact; the duplicates that count are those
whose path the host takes. -/
theorem prune_exact (serves : st.disk.Serves st.root place) (duplicates : PathSet) :
    PrunesExactly (Path.Hosted st.root) st place duplicates := by
  obtain ⟨state, files, gone, disk, cleared, sweep, done, pruned⟩ := exists_pruned serves duplicates
  refine ⟨state.disk, files, gone, cleared.toFilesGone, ⟨sweep.nodup, ?_, ?_⟩, ?_, ?_⟩
  · intro js
    rw [sweep.mem_gone_iff done]
    refine and_congr_right fun _ => and_congr_right fun _ => and_congr_right fun _ =>
      forall₂_congr fun ys empty => ?_
    constructor
    · rintro ⟨q, mem, same⟩
      obtain ⟨p, mem', hosted, up⟩ := (cleared.mem_parents_of_empty (same ▸ empty)).mp mem
      exact ⟨p, mem', hosted, q, up, same⟩
    · rintro ⟨p, mem, hosted, q, up, same⟩
      exact ⟨q, (cleared.mem_parents_of_empty (same ▸ empty)).mpr ⟨p, mem, hosted, up⟩, same⟩
  · rw [pruned]
    exact sweep.kinds
  · rw [pruned]
  · rw [pruned]

def nameA : Name := ⟨"a", by decide⟩

def nameB : Name := ⟨"b", by decide⟩

/-- The files `/a/a` and `/a/b` and the empty directory `/b`, in the directory of a node. -/
def twoCopies : Store := ⟨⟨[0x72]⟩, { top := [([0x72], .dir [
  ([0x61], .dir [([0x61], .leaf (.file .empty)), ([0x62], .leaf (.file .empty))]),
  ([0x62], .dir [])])] }⟩

/-- With both files goes the directory that they were in, and not the one that was empty
before. -/
theorem prune_exact_twoCopies : twoCopies.disk.Serves twoCopies.root [[0x72]] ∧
    PrunesExactly (Path.Hosted twoCopies.root) twoCopies [[0x72]]
      (.ofList [⟨[nameA, nameA]⟩, ⟨[nameA, nameB]⟩]) ∧
    (twoCopies.prune (.ofList [⟨[nameA, nameA]⟩, ⟨[nameA, nameB]⟩])).1 = ⟨2, 1⟩ := by
  have ordered : (Tree.dir twoCopies.disk.top).Ordered := by decide
  have serves : twoCopies.disk.Serves twoCopies.root [[0x72]] :=
    ⟨Plain.of_places rfl ordered (by decide), Leads.of_name (by decide) rfl (by simp [Inside])⟩
  exact ⟨serves, prune_exact serves _, by decide +kernel⟩

/-! ### Where pruning is not exact -/

/-- A host path can stand for the path at all. -/
def Mapped (p : Path) : Prop := p.isRoot = false ∧ NoDots p.place

/-- A path to the top of a disk that leads through the directory `/a/b`: `a/b/../..`. -/
def throughB : HostPath := ⟨[0x61, HostPath.slash, 0x62, HostPath.slash, 0x2E, 0x2E,
  HostPath.slash, 0x2E, 0x2E]⟩

/-- A disk with nothing but the directory `/a/b`. -/
def onlyDirectories : Disk := { top := [([0x61], .dir [([0x62], .dir [])])] }

/-- A path to the top of a disk that is as long as a host takes: slashes. -/
def slashes : HostPath := ⟨List.replicate HostPath.maxLength HostPath.slash⟩

/-- A disk with nothing but the file `/a`. -/
def onlyFile : Disk := { top := [([0x61], .leaf (.file .empty))] }

/-- Its directories are the top, `/a` and `/a/b`, which is empty. -/
theorem onlyDirectories_cases {js : Place} {kind : Kind DiskItem}
    (there : onlyDirectories.kindAt? js = some kind) :
    kind = .dir ∧ (js = [] ∨ js = [[0x61]] ∨ js = [[0x61], [0x62]]) := by
  have ordered : (Tree.dir onlyDirectories.top).Ordered := by decide
  have listed : (js, kind.value?) ∈ Tree.places (.dir onlyDirectories.top) :=
    (Tree.mem_places_iff ordered).mpr (congrArg (Option.map Kind.value?) there)
  have places : Tree.places (.dir onlyDirectories.top) =
      [([], none), ([[0x61]], none), ([[0x61], [0x62]], none)] := rfl
  simp only [places, List.mem_cons, Prod.mk.injEq, List.not_mem_nil, or_false] at listed
  refine ⟨?_, by tauto⟩
  cases kind with
  | dir => rfl
  | leaf item => simp [Kind.value?] at listed

/-- Without `/a/b`, the node does not find `/a`, which is empty then. -/
theorem not_prunesExactly_throughB : ¬ PrunesExactly Mapped ⟨throughB, onlyDirectories⟩ []
    (.ofList [⟨[nameA, nameB, nameA]⟩]) := by
  rintro ⟨cleared, files, directories, filesGone, directoriesGone, report, -⟩
  have same : ∀ js, cleared.kindAt? js = onlyDirectories.kindAt? js := by
    intro js
    rw [filesGone.kinds, if_neg]
    intro mem
    obtain ⟨⟨content, file⟩, -⟩ := (filesGone.mem_iff js).mp mem
    cases (onlyDirectories_cases file).1
  have emptied : ∀ js, cleared.EmptyAt js → js = [[0x61], [0x62]] := by
    intro js empty
    rw [emptyAt_iff, same] at empty
    obtain ⟨isDir, bare⟩ := empty
    rcases (onlyDirectories_cases isDir).2 with rfl | rfl | rfl
    · have inner := bare [0x61]
      rw [same] at inner
      cases inner
    · have inner := bare [0x62]
      rw [same] at inner
      cases inner
    · rfl
  have gone : ∀ js, js ≠ [] → onlyDirectories.kindAt? js = some .dir → js ∈ directories := by
    intro js nonempty isDir
    rw [directoriesGone.mem_iff]
    refine ⟨⟨by simp, nonempty.symm⟩, (same js).trans isDir, ?_, ?_⟩
    · intro ys item leaf
      rw [same] at leaf
      cases (onlyDirectories_cases leaf).1
    · intro ys empty
      have mapped : Mapped ⟨[nameA, nameB, nameA]⟩ := ⟨rfl, by unfold NoDots; decide⟩
      exact ⟨_, by decide, mapped, ⟨[nameA, nameB]⟩, rfl, emptied _ empty⟩
  have one : directories.length = 1 := by
    have counted : ((⟨throughB, onlyDirectories⟩ : Store).prune
        (.ofList [⟨[nameA, nameB, nameA]⟩])).1 = ⟨0, 1⟩ := by decide +kernel
    rw [counted, PruneReport.mk.injEq] at report
    exact report.2.symm
  obtain ⟨js, rfl⟩ := List.length_eq_one_iff.mp one
  have first := List.mem_singleton.mp (gone [[0x61]] (by simp) rfl)
  have second := List.mem_singleton.mp (gone [[0x61], [0x62]] (by simp) rfl)
  cases first.trans second.symm

theorem length_slashes : slashes.bytes.length = HostPath.maxLength := List.length_replicate

theorem check_slashes : slashes.check = .ok () := by
  refine HostPath.check_eq_ok_iff.mpr ⟨?_, ?_, length_slashes.le⟩
  · exact fun nul => absurd (List.eq_of_mem_replicate nul) (by decide)
  · rw [← List.length_pos_iff, length_slashes]
    decide

theorem serves_slashes {d : Disk} (plain : d.Plain []) : d.Serves slashes [] where
  toPlain := plain
  leads := by
    have parts : slashes.parts = [] :=
      HostPath.parts_append_slashes [] HostPath.maxLength
    refine Leads.of_dots check_slashes fun name mem => ?_
    rcases slashes.steps_eq with same | dotted
    · simp [same, parts] at mem
    · simpa [dotted, parts] using mem

/-- Nothing fits behind them. -/
theorem not_fits_slashes {name : HostName} (nonempty : name ≠ []) : ¬ slashes.Fits [name] := by
  have room := List.length_pos_iff.mpr nonempty
  rw [HostPath.Fits, HostPath.below, List.foldl_cons, List.foldl_nil, HostPath.push]
  split <;> simp only [List.length_append, List.length_cons, length_slashes] <;> omega

theorem plain_onlyFile : onlyFile.Plain [] :=
  Plain.of_places rfl (by decide) (by decide)

/-- The node cannot remove the file. -/
theorem not_prunesExactly_slashes :
    ¬ PrunesExactly Mapped ⟨slashes, onlyFile⟩ [] (.ofList [⟨[nameA]⟩]) := by
  rintro ⟨cleared, files, directories, filesGone, -, report, -⟩
  have mem : [[0x61]] ∈ files := (filesGone.mem_iff _).mpr ⟨⟨.empty, rfl⟩, ⟨[nameA]⟩, by decide,
    ⟨rfl, by unfold NoDots; decide⟩, rfl⟩
  have long : ¬ slashes.Fits (Path.place ⟨[nameA]⟩) := not_fits_slashes (by decide)
  obtain ⟨state, files', gone, disk, cleared', -, -, pruned⟩ :=
    @exists_pruned _ ⟨slashes, onlyFile⟩ (serves_slashes plain_onlyFile) (.ofList [⟨[nameA]⟩])
  have noFiles : files' = [] := by
    rw [List.eq_nil_iff_forall_not_mem]
    intro js gone
    obtain ⟨-, p, mem, hosted, -⟩ := (cleared'.mem_iff js).mp gone
    obtain rfl := List.mem_singleton.mp (SortedSet.mem_ofList.mp mem)
    exact long hosted.fits
  rw [pruned, noFiles, PruneReport.mk.injEq] at report
  rw [List.length_eq_zero_iff.mp report.1.symm] at mem
  cases mem

/-- Where nothing has to be of the paths than that they are not the root and have no dots,
pruning is not exact: a directory stays if the path of the root leads through what is below
the root, and that is gone, and a file stays whose path is longer than the host takes. -/
theorem prune_inexact :
    (onlyDirectories.resolve true throughB = .ok (.found [] (.dir onlyDirectories.top)) ∧
      onlyDirectories.Plain [] ∧ (∀ name ∈ Path.place ⟨[nameA, nameB, nameA]⟩, name.IsValid) ∧
      ¬ PrunesExactly Mapped ⟨throughB, onlyDirectories⟩ [] (.ofList [⟨[nameA, nameB, nameA]⟩])) ∧
    (onlyFile.Serves slashes [] ∧ (∀ name ∈ Path.place ⟨[nameA]⟩, name.IsValid) ∧
      ¬ PrunesExactly Mapped ⟨slashes, onlyFile⟩ [] (.ofList [⟨[nameA]⟩])) := by
  have plain : onlyDirectories.Plain [] := Plain.of_places rfl (by decide) (by decide)
  exact ⟨⟨rfl, plain, by decide, not_prunesExactly_throughB⟩,
    ⟨serves_slashes plain_onlyFile, by decide, not_prunesExactly_slashes⟩⟩

end Dfs.Store
