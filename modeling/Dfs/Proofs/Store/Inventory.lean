import Dfs.Proofs.Disk.Changes
import Dfs.Proofs.Path.Relative
import Dfs.Proofs.SortedSet
import Dfs.Store.Inventory

/-!
The inventory of a storage node. The directories that are opened are those below the root,
each of them once, and what is in them is met once (`visit_met`). Where the node serves its
disk, a path is listed exactly if a regular file is at its place (`mem_inventory_iff`), and
every regular file is at the place of some path (`exists_place_of_inventory`).
-/

namespace Dfs

namespace Store

open Disk

theorem joined_eq_intercalate (xs : Place) : joined xs = [HostPath.slash].intercalate xs := by
  cases xs with
  | nil => rfl
  | cons name names =>
      unfold joined
      dsimp only
      induction names generalizing name with
      | nil => simp
      | cons next names ih => rw [List.flatMap_cons, List.intercalate_cons_cons, ← ih]; simp

/-- A place is that of the path which the inventory lists for it. -/
theorem pathOfPlace_eq_ok_iff {xs : Place} (pieces : ∀ name ∈ xs, HostName.IsPiece name)
    (noDots : NoDots xs) {p : Path} : pathOfPlace xs = .ok p ↔ p.place = xs := by
  unfold pathOfPlace
  rw [joined_eq_intercalate]
  exact Path.ofRelative_intercalate_eq_ok_iff pieces noDots

/-! ### Directories that wait -/

/-- What an inventory lists for something at a place below the root. The host has to accept the
path of a directory, which is opened. -/
def listed (root : HostPath) : Place × Option DiskItem → Except Error (Option Path)
  | (place, none) =>
    match (root.below place).check with
    | .error fault => .error (.ofFault (root.below place).display fault)
    | .ok () => .ok none
  | (place, some (.file _)) => ((pathOfPlace place).mapError PathError.toError).map some
  | (_, some (.link _)) => .ok none

/-- What is at or below a directory, with its place; a directory has no value. -/
def under (place : Place) (node : DiskNode) : List (Place × Option DiskItem) :=
  (Tree.places node).map fun (xs, item) => (place ++ xs, item)

/-- What is at or below the directories that wait. -/
def pending (queue : List Waiting) : List (Place × Option DiskItem) :=
  queue.flatMap fun (place, entries) => under place (.dir entries)

/-- What is in a directory and no directory itself. -/
def leavesIn (place : Place) (entries : Tree.Folder HostName DiskItem) :
    List (Place × Option DiskItem) :=
  entries.filterMap fun (name, node) =>
    match node with
    | .leaf item => some (place ++ [name], some item)
    | .dir _ => none

variable {place : Place} {entries : Tree.Folder HostName DiskItem}

theorem under_dir (place : Place) (entries : Tree.Folder HostName DiskItem) :
    under place (.dir entries) = (place, none) ::
      entries.flatMap fun e => under (place ++ [e.1]) e.2 := by
  have inside : (Tree.folderPlaces entries).map (fun (xs, item) => (place ++ xs, item)) =
      entries.flatMap fun e => under (place ++ [e.1]) e.2 := by
    induction entries with
    | nil => rfl
    | cons e entries ih =>
        obtain ⟨name, node⟩ := e
        rw [Tree.folderPlaces, List.map_append, ih, List.flatMap_cons, List.map_map]
        unfold under
        simp only [Function.comp_def, List.append_assoc, List.singleton_append]
  rw [under, Tree.places, List.map_cons, inside]
  dsimp only
  rw [List.append_nil]

/-- What is in a directory are its leaves, and what is at or below the directories in it. -/
theorem perm_inside (place : Place) (entries : Tree.Folder HostName DiskItem) :
    (entries.flatMap fun e => under (place ++ [e.1]) e.2).Perm
      (leavesIn place entries ++ pending (subdirectories place entries)) := by
  induction entries with
  | nil => exact .refl _
  | cons e entries ih =>
      obtain ⟨name, node⟩ := e
      rw [List.flatMap_cons]
      cases node with
      | leaf item =>
          have here : under (place ++ [name]) (.leaf item) = [(place ++ [name], some item)] := by
            simp [under, Tree.places]
          rw [here]
          exact ih.cons _
      | dir inner =>
          have later : pending (subdirectories place ((name, .dir inner) :: entries)) =
              under (place ++ [name]) (.dir inner) ++ pending (subdirectories place entries) := rfl
          have same : leavesIn place ((name, .dir inner) :: entries) = leavesIn place entries := rfl
          rw [later, same]
          exact (ih.append_left _).trans (List.perm_append_comm_assoc ..)

/-- To open a directory takes it off what is pending, with what is in it. -/
theorem pending_cons (place : Place) (entries : Tree.Folder HostName DiskItem)
    (waiting : List Waiting) : (pending ((place, entries) :: waiting)).Perm
      ((place, none) :: leavesIn place entries ++
        pending (waiting ++ subdirectories place entries)) := by
  have whole : pending ((place, entries) :: waiting) =
      under place (.dir entries) ++ pending waiting := rfl
  have parts : pending (waiting ++ subdirectories place entries) =
      pending waiting ++ pending (subdirectories place entries) := List.flatMap_append
  rw [whole, parts, under_dir, List.cons_append, List.cons_append]
  refine .cons _ (((perm_inside place entries).append_right _).trans ?_)
  rw [List.append_assoc]
  exact List.perm_append_comm.append_left _

/-- What is listed for the leaves in a directory are the paths of its regular files. -/
theorem mapM_leavesIn (root : HostPath) (place : Place)
    (entries : Tree.Folder HostName DiskItem) :
    ((leavesIn place entries).mapM (listed root)).map (List.filterMap id) =
      ((regularFiles place entries).mapM pathOfPlace).mapError PathError.toError := by
  induction entries with
  | nil => rfl
  | cons e entries ih =>
      obtain ⟨name, node⟩ := e
      rcases node with (content | target) | inner
      case leaf.file =>
        have met : leavesIn place ((name, .leaf (.file content)) :: entries) =
          (place ++ [name], some (.file content)) :: leavesIn place entries := rfl
        have files : regularFiles place ((name, .leaf (.file content)) :: entries) =
          (place ++ [name]) :: regularFiles place entries := rfl
        rw [met, files, List.mapM_cons, List.mapM_cons, listed]
        cases pathOfPlace (place ++ [name]) with
        | error e => rfl
        | ok p =>
            trans (((leavesIn place entries).mapM (listed root)).map (List.filterMap id)).map (p :: ·)
            · cases (leavesIn place entries).mapM (listed root) <;> rfl
            · rw [ih]
              cases (regularFiles place entries).mapM pathOfPlace <;> rfl
      case leaf.link =>
        have met : leavesIn place ((name, .leaf (.link target)) :: entries) =
          (place ++ [name], some (.link target)) :: leavesIn place entries := rfl
        have files : regularFiles place ((name, .leaf (.link target)) :: entries) =
          regularFiles place entries := rfl
        rw [met, files, List.mapM_cons, listed, ← ih]
        cases (leavesIn place entries).mapM (listed root) <;> rfl
      case dir => exact ih

theorem visit_nil (root : HostPath) : visit root [] = .ok [] := by rw [visit]

theorem visit_of_named {root : HostPath} {waiting : List Waiting} {files : List Path}
    (accepted : (root.below place).check = .ok ())
    (named : (regularFiles place entries).mapM pathOfPlace = .ok files) :
    visit root ((place, entries) :: waiting) =
      (visit root (waiting ++ subdirectories place entries)).map (files ++ ·) := by
  rw [visit, accepted]
  dsimp only
  rw [named]

/-- Opening directories one after another comes to listing what is pending in some order. -/
theorem visit_met (root : HostPath) : ∀ queue : List Waiting,
    ∃ met : List (Place × Option DiskItem), met.Perm (pending queue) ∧
      visit root queue = (met.mapM (listed root)).map (List.filterMap id)
  | [] => ⟨[], .refl _, visit_nil root⟩
  | (place, entries) :: waiting => by
      obtain ⟨met, perm, visited⟩ := visit_met root (waiting ++ subdirectories place entries)
      refine ⟨(place, none) :: leavesIn place entries ++ met,
        (perm.append_left _).trans (pending_cons place entries waiting).symm, ?_⟩
      have inside := mapM_leavesIn root place entries
      rw [visit, visited, List.cons_append, List.mapM_cons, List.mapM_append, listed]
      cases (root.below place).check with
      | error fault => rfl
      | ok =>
          dsimp only
          generalize (regularFiles place entries).mapM pathOfPlace = files at inside
          generalize (leavesIn place entries).mapM (listed root) = leaves at inside ⊢
          rcases leaves with e | found
          · rcases files with e' | files
            · obtain rfl := Except.error.inj inside
              rfl
            · cases inside
          · rcases files with e' | files
            · cases inside
            · obtain rfl := Except.ok.inj inside
              cases met.mapM (listed root) with
              | error e => rfl
              | ok later => exact congrArg Except.ok (List.filterMap_append ..).symm
termination_by queue => waitingCount queue
decreasing_by exact waitingCount_opened_lt place entries waiting

/-! ### What is listed -/

variable {st : Store} {xs : Place} {files : PathSet} {p : Path}

theorem pending_root (entries : Tree.Folder HostName DiskItem) :
    pending [([], entries)] = Tree.places (.dir entries) := by
  simp [pending, under]

section Places

variable (there : st.disk.get? place = some (.dir entries))
  (ordered : (Tree.dir st.disk.top).Ordered)

include there ordered

theorem mem_places_iff {item : Option DiskItem} : (xs, item) ∈ Tree.places (.dir entries) ↔
    (st.disk.kindAt? (place ++ xs)).map Kind.value? = some item := by
  have kinds : st.disk.kindAt? (place ++ xs) = (Tree.dir entries).kindAt? xs :=
    Tree.kindAt?_append there
  rw [Tree.mem_places_iff (ordered.get? there), kinds]

theorem leaf_mem_places_iff {item : DiskItem} : (xs, some item) ∈ Tree.places (.dir entries) ↔
    st.disk.leafAt? (place ++ xs) = some item := by
  rw [mem_places_iff there ordered, leafAt?]
  cases st.disk.kindAt? (place ++ xs) <;> simp

theorem dir_mem_places_iff : (xs, none) ∈ Tree.places (.dir entries) ↔
    st.disk.kindAt? (place ++ xs) = some .dir := by
  rw [mem_places_iff there ordered]
  cases st.disk.kindAt? (place ++ xs) with
  | none => simp
  | some kind => cases kind <;> simp [Kind.value?]

theorem mem_leaves_iff {item : DiskItem} : (xs, item) ∈ Tree.leaves (.dir entries) ↔
    st.disk.leafAt? (place ++ xs) = some item := by
  rw [Tree.mem_leaves_iff (ordered.get? there), ← Tree.kindAt?_eq_leaf_iff,
    ← Tree.kindAt?_append there]
  exact leafAt?_eq_some_iff.symm

end Places

/-- An inventory can be taken only where the path of the root leads to something. -/
theorem exists_found_of_inventory (taken : st.inventory = .ok files) :
    ∃ q node, st.disk.resolve true st.root = .ok (.found q node) := by
  cases seen : st.disk.stat st.root with
  | ok node =>
      obtain ⟨q, found⟩ := stat_eq_ok_iff.mp seen
      exact ⟨q, node, found⟩
  | error fault =>
      unfold inventory at taken
      rw [seen] at taken
      dsimp only at taken
      split at taken <;> cases taken

theorem inventory_of_found (found : st.disk.stat st.root = .ok (.dir entries)) :
    st.inventory = (visit st.root [([], entries)]).map .ofList := by
  unfold inventory
  rw [found]

/-- An inventory lists everything below the root in some order. -/
theorem inventory_met (found : st.disk.stat st.root = .ok (.dir entries)) :
    ∃ met : List (Place × Option DiskItem), met.Perm (Tree.places (.dir entries)) ∧
      st.inventory =
        (met.mapM (listed st.root)).map fun paths => .ofList (paths.filterMap id) := by
  obtain ⟨met, perm, visited⟩ := visit_met st.root [([], entries)]
  refine ⟨met, pending_root entries ▸ perm, ?_⟩
  rw [inventory_of_found found, visited]
  cases met.mapM (listed st.root) <;> rfl

/-- If it fails, it is for something below the root. -/
theorem exists_of_inventory_error {e : Error} (found : st.disk.stat st.root = .ok (.dir entries))
    (failed : st.inventory = .error e) :
    ∃ x ∈ Tree.places (.dir entries), listed st.root x = .error e := by
  obtain ⟨met, perm, made⟩ := inventory_met found
  rw [made] at failed
  cases looked : met.mapM (listed st.root) with
  | error e' =>
      rw [looked] at failed
      obtain rfl : e' = e := Except.error.inj failed
      obtain ⟨x, mem, refused⟩ := exists_of_mapM_error looked
      exact ⟨x, perm.mem_iff.mp mem, refused⟩
  | ok paths =>
      rw [looked] at failed
      cases failed

/-- If it succeeds, nothing below the root is in its way, and a path is listed if it is for
something there. -/
theorem listed_of_inventory (found : st.disk.stat st.root = .ok (.dir entries))
    (taken : st.inventory = .ok files) :
    (∀ x ∈ Tree.places (.dir entries), ∃ path, listed st.root x = .ok path) ∧
      ∀ p, p ∈ files ↔ ∃ x ∈ Tree.places (.dir entries), listed st.root x = .ok (some p) := by
  obtain ⟨met, perm, made⟩ := inventory_met found
  rw [made, map_eq_ok_iff] at taken
  obtain ⟨paths, looked, rfl⟩ := taken
  obtain ⟨forth, back⟩ := mem_of_mapM looked
  constructor
  · intro x mem
    obtain ⟨path, -, made⟩ := forth x (perm.mem_iff.mpr mem)
    exact ⟨path, made⟩
  · intro p
    rw [SortedSet.mem_ofList, List.mem_filterMap]
    constructor
    · rintro ⟨_, mem, rfl⟩
      obtain ⟨x, isMet, made⟩ := back _ mem
      exact ⟨x, perm.mem_iff.mp isMet, made⟩
    · rintro ⟨x, mem, made⟩
      obtain ⟨path, mem', made'⟩ := forth x (perm.mem_iff.mpr mem)
      rw [made] at made'
      obtain rfl := Except.ok.inj made'
      exact ⟨some p, mem', rfl⟩

/-- Only a regular file has a path. -/
theorem exists_file_of_listed {root : HostPath} {x : Place × Option DiskItem}
    (made : listed root x = .ok (some p)) :
    ∃ xs content, x = (xs, some (.file content)) ∧ pathOfPlace xs = .ok p := by
  unfold listed at made
  split at made
  · split at made <;> cases made
  · next xs content =>
      obtain ⟨p', named, same⟩ := map_eq_ok_iff.mp made
      obtain rfl := Option.some.inj same
      exact ⟨xs, content, rfl, mapError_eq_ok_iff.mp named⟩
  · cases made

theorem listed_of_file {root : HostPath} {content : Content} (named : pathOfPlace xs = .ok p) :
    listed root (xs, some (.file content)) = .ok (some p) := by
  unfold listed
  dsimp only
  rw [named]
  rfl

section Rooted

variable (rooted : st.disk.Rooted st.root place) (ordered : (Tree.dir st.disk.top).Ordered)

include rooted

theorem stat_of_rooted : ∃ entries, st.disk.stat st.root = .ok (.dir entries) ∧
    st.disk.get? place = some (.dir entries) := by
  obtain ⟨entries, found⟩ := rooted.opens
  exact ⟨entries, stat_of_found found, get?_of_resolve found⟩

theorem pathOfPlace_of_rooted (there : st.disk.kindAt? (place ++ xs) ≠ none) :
    pathOfPlace xs = .ok p ↔ p.place = xs := by
  have valid := rooted.valid xs there
  exact pathOfPlace_eq_ok_iff (fun name mem => (valid name mem).toIsPiece)
    fun name mem => ⟨(valid name mem).notDot, (valid name mem).notDotDot⟩

include ordered

/-- A path is listed for every regular file, and for nothing else. -/
theorem mem_inventory (taken : st.inventory = .ok files) :
    (∀ p ∈ files, ∃ content, st.disk.leafAt? (place ++ p.place) = some (.file content)) ∧
    ∀ xs content, st.disk.leafAt? (place ++ xs) = some (.file content) →
      ∃ p ∈ files, p.place = xs := by
  obtain ⟨entries, found, there⟩ := stat_of_rooted rooted
  obtain ⟨passed, paths⟩ := listed_of_inventory found taken
  have named : ∀ {xs content p}, st.disk.leafAt? (place ++ xs) = some (.file content) →
      (pathOfPlace xs = .ok p ↔ p.place = xs) := fun leaf =>
    pathOfPlace_of_rooted rooted (by simp [leafAt?_eq_some_iff.mp leaf])
  constructor
  · intro p mem
    obtain ⟨x, isMet, made⟩ := (paths p).mp mem
    obtain ⟨xs, content, rfl, path⟩ := exists_file_of_listed made
    rw [leaf_mem_places_iff there ordered] at isMet
    obtain rfl := (named isMet).mp path
    exact ⟨content, isMet⟩
  · intro xs content leaf
    have isMet := (leaf_mem_places_iff there ordered).mpr leaf
    obtain ⟨path, made⟩ := passed _ isMet
    obtain ⟨p, path, rfl⟩ := map_eq_ok_iff.mp made
    exact ⟨p, (paths p).mpr ⟨_, isMet, made⟩, (named leaf).mp (mapError_eq_ok_iff.mp path)⟩

theorem mem_inventory_iff (taken : st.inventory = .ok files) : p ∈ files ↔
    ∃ content, st.disk.leafAt? (place ++ p.place) = some (.file content) := by
  obtain ⟨sound, complete⟩ := mem_inventory rooted ordered taken
  constructor
  · intro mem
    exact sound p mem
  · rintro ⟨content, leaf⟩
    obtain ⟨q, mem, same⟩ := complete p.place content leaf
    exact Path.place_injective same ▸ mem

theorem exists_place_of_inventory (taken : st.inventory = .ok files) {content : Content}
    (leaf : st.disk.leafAt? (place ++ xs) = some (.file content)) : ∃ p ∈ files, p.place = xs :=
  (mem_inventory rooted ordered taken).2 xs content leaf

/-- If the host takes the paths of all directories, and all files have paths, the inventory is
the set of these. -/
theorem inventory_of_leaves (there : st.disk.get? place = some (.dir entries))
    (fits : ∀ x ∈ Tree.places (.dir entries), x.2 = none → st.root.Fits x.1) {paths : List Path}
    (whole : (Tree.leaves (.dir entries)).map Prod.fst = paths.map Path.place) :
    st.inventory = .ok (.ofList paths) := by
  have named : ∀ xs, (∃ item, st.disk.leafAt? (place ++ xs) = some item) ↔
      ∃ p ∈ paths, p.place = xs := by
    intro xs
    rw [← List.mem_map, ← whole, List.mem_map]
    constructor
    · rintro ⟨item, leaf⟩
      exact ⟨(xs, item), (mem_leaves_iff there ordered).mpr leaf, rfl⟩
    · rintro ⟨⟨xs, item⟩, mem, rfl⟩
      exact ⟨item, (mem_leaves_iff there ordered).mp mem⟩
  obtain ⟨entries', found, there'⟩ := stat_of_rooted rooted
  obtain rfl := Tree.dir.inj (Option.some.inj (there.symm.trans there'))
  cases made : st.inventory with
  | error e =>
      obtain ⟨⟨xs, item⟩, isMet, refused⟩ := exists_of_inventory_error found made
      rcases item with _ | content | target
      · have isDir := (dir_mem_places_iff there ordered).mp isMet
        have valid := rooted.valid xs (by simp [isDir])
        rw [listed, rooted.check_below (fun name mem => (valid name mem).noNul)
          (fits _ isMet rfl)] at refused
        cases refused
      · have leaf := (leaf_mem_places_iff there ordered).mp isMet
        obtain ⟨p, -, same⟩ := (named xs).mp ⟨_, leaf⟩
        rw [listed_of_file ((pathOfPlace_of_rooted rooted
          (by simp [leafAt?_eq_some_iff.mp leaf])).mpr same)] at refused
        cases refused
      · cases refused
  | ok files =>
      refine congrArg Except.ok (SortedSet.ext_mem fun p => ?_)
      rw [SortedSet.mem_ofList]
      constructor
      · intro mem
        obtain ⟨content, leaf⟩ := (mem_inventory_iff rooted ordered made).mp mem
        obtain ⟨q, mem', same⟩ := (named p.place).mp ⟨_, leaf⟩
        exact Path.place_injective same ▸ mem'
      · intro mem
        obtain ⟨item, leaf⟩ := (named p.place).mpr ⟨p, mem, rfl⟩
        obtain ⟨content, rfl⟩ := rooted.exists_eq_file (leafAt?_eq_some_iff.mp leaf)
        exact (mem_inventory_iff rooted ordered made).mpr ⟨content, leaf⟩

end Rooted

end Store

end Dfs
