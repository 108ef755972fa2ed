import Dfs.Proofs.Disk.Directories
import Dfs.Proofs.Disk.Removal
import Dfs.Proofs.Store.Writing
import Dfs.Store.Interfaces

/-!
What a storage node does to its disk on request: the creation of a file, a deletion,
a write. A file that is asked for is made where its path says, a deletion takes away
its path with all below it, and a request that fails takes nothing away.
-/

namespace Dfs.Store

open Disk

variable {st : Store} {place : Place} {p : Path} {h : HostPath}

theorem hostPath_eq_ok_iff :
    st.hostPath p = .ok h ↔ p.toHost st.root = .ok h :=
  mapError_eq_ok_iff

/-- Where there is something, the names that lead there can be asked for. -/
theorem toHost_of_there {d : Disk} {root : HostPath} (rooted : d.Rooted root place) {p : Path}
    (there : d.kindAt? (place ++ p.place) ≠ none) : p.toHost root = .ok (root.below p.place) := by
  refine Path.toHost_eq_ok_iff.mpr ⟨fun name mem => ?_, rfl⟩
  have valid := rooted.valid p.place there name mem
  exact ⟨valid.notDot, valid.notDotDot⟩

/-- The path of the root leads to a directory. -/
theorem resolve_of_isRoot {d : Disk} {root : HostPath} (rooted : d.Rooted root place) {p : Path}
    (isRoot : p.isRoot = true) :
    ∃ entries, d.resolve true (root.below p.place) = .ok (.found place (.dir entries)) := by
  rw [Path.place_eq_nil_iff.mpr isRoot, HostPath.below_nil]
  exact rooted.opens

/-! ### Outcomes -/

/-- The path is not that of the root, and `h` is where it leads on the host. -/
structure OnHost (st : Store) (p : Path) (h : HostPath) : Prop where
  notRoot : p.isRoot = false
  mapped : st.hostPath p = .ok h

/-- What a request to create a file comes to: it is refused, it ends when the directories are
made as far as they can be, or the file is made in the last of them. -/
inductive CreateOutcome (st : Store) (p : Path) : Bool × Store → Prop where
  | refused : CreateOutcome st p (false, st)
  | stopped {h : HostPath} : st.OnHost p h → st.disk.pathExists h = .ok false →
      CreateOutcome st p
        (false, { st with disk := (st.disk.makeDirectories h.parent).2 })
  | made {h : HostPath} {disk disk' : Disk} : st.OnHost p h → st.disk.pathExists h = .ok false →
      st.disk.makeDirectories h.parent = (none, disk) → disk.createFile h = .ok disk' →
      CreateOutcome st p (true, { st with disk := disk' })

/-- What a deletion comes to. What it removes is seen first, without following a last link. -/
inductive DeleteOutcome (st : Store) (p : Path) : Bool × Store → Prop where
  | refused : DeleteOutcome st p (false, st)
  | directory {h : HostPath} {entries : List (HostName × DiskNode)} {disk : Disk} :
      st.OnHost p h → st.disk.linkStat h = .ok (.dir entries) →
      st.disk.removeTree h = (none, disk) → DeleteOutcome st p (true, { st with disk })
  | leaf {h : HostPath} {item : DiskItem} {disk : Disk} :
      st.OnHost p h → st.disk.linkStat h = .ok (.leaf item) →
      st.disk.removeFile h = .ok disk → DeleteOutcome st p (true, { st with disk })

theorem create_outcome (st : Store) (p : Path) : CreateOutcome st p (st.create p) := by
  unfold create
  split
  · exact .refused
  next notRoot =>
  split
  · exact .refused
  next h mapped =>
  have mapped : st.OnHost p h := ⟨by simpa using notRoot, mapped⟩
  split
  · exact .refused
  · exact .refused
  next unseen =>
  have stopped := CreateOutcome.stopped mapped unseen
  split
  · next fault disk halted =>
      rw [halted] at stopped
      exact stopped
  · next disk made =>
      rw [made] at stopped
      split
      · exact stopped
      · next disk' done => exact .made mapped unseen made done

/-- The files on the disk may become no larger for it. -/
theorem largest_create (st : Store) (p : Path) :
    (st.create p).2.disk.largest = st.disk.largest := by
  have outcome := create_outcome st p
  generalize st.create p = result at outcome ⊢
  cases outcome with
  | refused => rfl
  | stopped => exact largest_makeDirectories st.disk _
  | @made h _ _ _ _ climbed created =>
      obtain ⟨dir, name, -, rfl⟩ := createFile_eq_ok_iff.mp created
      have kept := largest_makeDirectories st.disk h.parent
      rw [climbed] at kept
      exact (largest_set _ _ _).trans kept

/-- A directory that cannot be removed stays as it is, and so does everything below it. -/
theorem delete_outcome (st : Store) (p : Path) : DeleteOutcome st p (st.delete p) := by
  unfold delete
  split
  · exact .refused
  next notRoot =>
  split
  · exact .refused
  next h mapped =>
  have mapped : st.OnHost p h := ⟨by simpa using notRoot, mapped⟩
  split
  · exact .refused
  · next entries seen =>
      split
      · next fault disk failed =>
          rw [removeTree_of_fault failed]
          exact .refused
      · next disk done => exact .directory mapped seen done
  · next item seen =>
      split
      · exact .refused
      · next disk done => exact .leaf mapped seen done

/-- The path leads to its names below the root. -/
theorem OnHost.below (mapped : st.OnHost p h) :
    HostPath.Relative p.place ∧ h = st.root.below p.place := by
  have toHost := hostPath_eq_ok_iff.mp mapped.mapped
  exact ⟨Path.relative_of_toHost mapped.notRoot toHost, (Path.toHost_eq_ok_iff.mp toHost).2⟩

/-! ### Below a root that is there -/

/-- Either a new file is made, or at most directories are. -/
theorem create_cases (rooted : st.disk.Rooted st.root place) (p : Path) :
    (∃ disk, st.create p = (false, { st with disk }) ∧ KeepsFiles place st.disk disk) ∨
      ∃ disk, st.create p = (true, { st with disk }) ∧ p.isRoot = false ∧
        Worked place st.disk disk ∧ st.disk.leafAt? (place ++ p.place) = none ∧
        ∀ js, disk.leafAt? js =
          if js = place ++ p.place then some (.file .empty) else st.disk.leafAt? js := by
  have outcome := create_outcome st p
  generalize st.create p = result at outcome ⊢
  cases outcome with
  | refused => exact .inl ⟨st.disk, rfl, .refl place st.disk⟩
  | stopped mapped _ =>
      obtain ⟨relative, rfl⟩ := mapped.below
      exact .inl ⟨_, rfl, rooted.keepsFiles_makeDirectories relative⟩
  | made mapped _ climbed done =>
      obtain ⟨relative, rfl⟩ := mapped.below
      have keeps := rooted.keepsFiles_makeDirectories relative
      rw [climbed] at keeps
      have rooted' := (rooted.of_makeDirectories relative climbed).1
      obtain ⟨absent, leaves, worked⟩ := rooted'.createFile_eq_ok relative done
      refine .inr ⟨_, rfl, mapped.notRoot, keeps.toWorked.trans worked, ?_, fun js => ?_⟩
      · rw [← keeps.leaves, leafAt?, absent]
        rfl
      · rw [leaves js, keeps.leaves js]

/-- The path of the root leads through what is in the directory. -/
def RunsThrough (st : Store) (q : Place) : Prop :=
  st.disk.kindAt? q = some .dir ∧ (st.disk.emptied q).isDirectory st.root = false

instance (st : Store) (q : Place) : Decidable (st.RunsThrough q) :=
  inferInstanceAs (Decidable (_ ∧ _))

/-- What a deletion leaves of the disk: nothing of what is deleted, but a directory that the
path of the root leads through. -/
def leftover (st : Store) (q : Place) : Disk :=
  if st.RunsThrough q then st.disk.emptied q else st.disk.erase q

/-- What is there is deleted, if the host takes its path. -/
theorem delete_eq (rooted : st.disk.Rooted st.root place) {p : Path} (notRoot : p.isRoot = false)
    (there : st.disk.kindAt? (place ++ p.place) ≠ none) (fits : st.root.Fits p.place) :
    st.delete p = (true, { st with disk := st.leftover (place ++ p.place) }) := by
  have mapped := toHost_of_there rooted there
  have relative := Path.relative_of_toHost notRoot mapped
  obtain ⟨kind, found⟩ := Option.ne_none_iff_exists'.mp there
  obtain ⟨node, at_, rfl⟩ := Option.map_eq_some_iff.mp found
  have seen := (rooted.linkStat_eq_ok_iff relative).mpr ⟨at_, fits⟩
  have same : st.disk.kindAt? (place ++ p.place) = some node.kind := found
  unfold delete
  rw [if_neg (by simp [notRoot]), hostPath_eq_ok_iff.mpr mapped]
  dsimp only
  rw [seen]
  cases node with
  | dir entries =>
      dsimp only
      rw [rooted.removeTree_eq relative fits same]
      by_cases opens : (st.disk.emptied (place ++ p.place)).isDirectory st.root = true <;>
        simp [leftover, RunsThrough, same, opens]
  | leaf item =>
      dsimp only
      rw [(rooted.removeFile_eq_ok_iff relative).mpr ⟨fits, ⟨item, same⟩, rfl⟩]
      simp [leftover, RunsThrough, same]

/-- What is deleted was there, under a path that the host takes. -/
theorem delete_cases_of_rooted (rooted : st.disk.Rooted st.root place) (p : Path) :
    st.delete p = (false, st) ∨ p.isRoot = false ∧ (∃ h, p.toHost st.root = .ok h) ∧
      st.disk.kindAt? (place ++ p.place) ≠ none ∧ st.root.Fits p.place := by
  have seen_there {h : HostPath} {node : DiskNode} (mapped : st.OnHost p h)
      (seen : st.disk.linkStat h = .ok node) : p.isRoot = false ∧
        (∃ h, p.toHost st.root = .ok h) ∧
        st.disk.kindAt? (place ++ p.place) ≠ none ∧ st.root.Fits p.place := by
    obtain ⟨relative, rfl⟩ := mapped.below
    obtain ⟨there, fits⟩ := (rooted.linkStat_eq_ok_iff relative).mp seen
    exact ⟨mapped.notRoot, ⟨_, hostPath_eq_ok_iff.mp mapped.mapped⟩,
      by simp [kindAt?_of_get? there], fits⟩
  have outcome := delete_outcome st p
  generalize st.delete p = result at outcome ⊢
  cases outcome with
  | refused => exact .inl rfl
  | directory mapped seen _ => exact .inr (seen_there mapped seen)
  | leaf mapped seen _ => exact .inr (seen_there mapped seen)

theorem leftover_of_serves (serves : st.disk.Serves st.root place) {p : Path}
    (nonempty : p.place ≠ []) :
    st.leftover (place ++ p.place) = st.disk.erase (place ++ p.place) := by
  unfold leftover
  rw [if_neg]
  rintro ⟨isDir, closed⟩
  rw [serves.isDirectory_emptied nonempty isDir] at closed
  cases closed

/-- Either nothing is deleted, or a path other than the root with all that is below
it. -/
theorem delete_cases (serves : st.disk.Serves st.root place) (p : Path) :
    st.delete p = (false, st) ∨ p.isRoot = false ∧ p.place ≠ [] ∧
      st.delete p = (true, { st with disk := st.disk.erase (place ++ p.place) }) := by
  rcases delete_cases_of_rooted serves.rooted p with same | ⟨notRoot, -, there, fits⟩
  · exact .inl same
  · have nonempty : p.place ≠ [] := by
      rw [ne_eq, Path.place_eq_nil_iff, notRoot]
      simp
    refine .inr ⟨notRoot, nonempty, ?_⟩
    rw [delete_eq serves.rooted notRoot there fits, leftover_of_serves serves nonempty]

/-- What is there is deleted, if the host takes its path. -/
theorem delete_of_there (serves : st.disk.Serves st.root place) {p : Path}
    (notRoot : p.isRoot = false) (there : st.disk.kindAt? (place ++ p.place) ≠ none)
    (fits : st.root.Fits p.place) :
    st.delete p = (true, { st with disk := st.disk.erase (place ++ p.place) }) := by
  have nonempty : p.place ≠ [] := by
    rw [ne_eq, Path.place_eq_nil_iff, notRoot]
    simp
  rw [delete_eq serves.rooted notRoot there fits, leftover_of_serves serves nonempty]

/-- Nothing is deleted whose path the host refuses. -/
theorem delete_of_refused {p : Path} {h : HostPath} {fault : Fault}
    (mapped : p.toHost st.root = .ok h) (refused : h.check = .error fault) :
    st.delete p = (false, st) := by
  have unseen : st.disk.linkStat h = .error fault :=
    linkStat_of_fault (resolve_of_refused refused false)
  unfold delete
  rw [hostPath_eq_ok_iff.mpr mapped]
  split
  · rfl
  · dsimp only
    rw [unseen]

/-- Below the root, these are the files whose path the host takes. -/
theorem denotes_iff (rooted : st.disk.Rooted st.root place) {js : Place} :
    st.Denotes p js content ↔ js = place ++ p.place ∧
      st.disk.leafAt? js = some (.file content) ∧ st.root.Fits p.place := by
  rw [leafAt?_eq_some_iff, kindAt?_eq_leaf_iff]
  constructor
  · rintro ⟨h, mapped, found⟩
    rw [hostPath_eq_ok_iff] at mapped
    have relative : HostPath.Relative p.place := by
      apply Path.relative_of_toHost _ mapped
      by_contra root
      obtain ⟨entries, top⟩ := resolve_of_isRoot rooted (by simpa using root)
      obtain rfl := (Path.toHost_eq_ok_iff.mp mapped).2
      rw [top] at found
      cases found
    obtain rfl := (Path.toHost_eq_ok_iff.mp mapped).2
    exact (rooted.resolve_eq_found_iff relative).mp found
  · rintro ⟨rfl, file, fits⟩
    have there : st.disk.kindAt? (place ++ p.place) ≠ none := by
      rw [kindAt?_eq_leaf_iff.mpr file]
      simp
    have leaf : st.disk.leafAt? (place ++ p.place) ≠ none := by
      rw [leafAt?_eq_some_iff.mpr (kindAt?_eq_leaf_iff.mpr file)]
      simp
    have mapped := toHost_of_there rooted there
    have relative := Path.relative_of_toHost (rooted.isRoot_eq_false leaf) mapped
    exact ⟨_, hostPath_eq_ok_iff.mpr mapped,
      (rooted.resolve_eq_found_iff relative).mpr ⟨rfl, file, fits⟩⟩

/-- A file that a path is that of may get another content. -/
theorem Denotes.changed {content : Content} {q : Place} (denotes : st.Denotes p q content)
    (rooted : st.disk.Rooted st.root place) (after : Content) :
    Worked place st.disk (st.disk.set q (.leaf (.file after))) ∧
      st.disk.leafAt? (place ++ p.place) = some (.file content) ∧
      ∀ js, (st.disk.set q (.leaf (.file after))).leafAt? js =
        if js = place ++ p.place then some (.file after) else st.disk.leafAt? js := by
  obtain ⟨rfl, file, -⟩ := (denotes_iff rooted).mp denotes
  have there := leafAt?_eq_some_iff.mp file
  have notRoot : p.isRoot = false := rooted.isRoot_eq_false (by simp [file])
  have mapped := toHost_of_there rooted (p := p) (by simp [there])
  exact ⟨rooted.worked_set_file (Path.relative_of_toHost notRoot mapped) there after, file,
    leafAt?_set_leaf there (.file after)⟩

/-- A write changes nothing, or the content of its file. -/
theorem write_cases (rooted : st.disk.Rooted st.root place) (p : Path) (offset : Int64)
    (data : List UInt8) :
    (st.write p offset data).2 = st ∨
      ∃ disk content content', (st.write p offset data).2 = { st with disk } ∧
        Worked place st.disk disk ∧
        st.disk.leafAt? (place ++ p.place) = some (.file content) ∧
        ∀ js, disk.leafAt? js =
          if js = place ++ p.place then some (.file content') else st.disk.leafAt? js := by
  have outcome := write_outcome st p offset data
  generalize st.write p offset data = result at outcome ⊢
  cases outcome with
  | refused | idle => exact .inl rfl
  | written denotes | torn _ denotes =>
      obtain ⟨worked, file, leaves⟩ := denotes.changed rooted _
      exact .inr ⟨_, _, _, rfl, worked, file, leaves⟩

/-! ### Interfaces -/

/-- A request for contents leaves every file where it is. -/
theorem serveStorage_spec (serves : st.disk.Serves st.root place) (r : Request) :
    ∃ disk, (st.serveStorage r).2 = { st with disk } ∧ Worked place st.disk disk ∧
      ∀ js, disk.leafAt? js = none ↔ st.disk.leafAt? js = none := by
  have idle : ∃ disk, st = { st with disk } ∧ Worked place st.disk disk ∧
      ∀ js, disk.leafAt? js = none ↔ st.disk.leafAt? js = none :=
    ⟨st.disk, rfl, .refl place st.disk, fun _ => Iff.rfl⟩
  cases r with
  | write p offset data =>
      have written : (st.serveStorage (.write p offset data)).2 = (st.write p offset data).2 := rfl
      rw [written]
      rcases write_cases serves.rooted p offset data with
        same | ⟨disk, content, content', changed, worked, there, leaves⟩
      · rw [same]
        exact idle
      · refine ⟨disk, changed, worked, fun js => ?_⟩
        rw [leaves js]
        by_cases here : js = place ++ p.place
        · rw [if_pos here, here, there]
          simp
        · rw [if_neg here]
  | _ => exact idle

theorem serveCommand_spec (serves : st.disk.Serves st.root place) (r : Request) :
    ∃ disk, (st.serveCommand r).2 = { st with disk } ∧ Worked place st.disk disk := by
  have idle : ∃ disk, st = { st with disk } ∧ Worked place st.disk disk :=
    ⟨st.disk, rfl, .refl place st.disk⟩
  cases r with
  | create p =>
      have created : (st.serveCommand (.create p)).2 = (st.create p).2 := rfl
      rw [created]
      rcases create_cases serves.rooted p with ⟨disk, changed, keeps⟩ | ⟨disk, changed, -, worked, -⟩
      · exact ⟨disk, by rw [changed], keeps.toWorked⟩
      · exact ⟨disk, by rw [changed], worked⟩
  | delete p =>
      have deleted : (st.serveCommand (.delete p)).2 = (st.delete p).2 := rfl
      rw [deleted]
      rcases delete_cases serves p with same | ⟨-, nonempty, changed⟩
      · rw [same]
        exact idle
      · exact ⟨_, by rw [changed], .of_erase nonempty⟩
  | _ => exact idle

end Dfs.Store
