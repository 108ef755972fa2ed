import Dfs.Proofs.Store.Inventory
import Dfs.Proofs.Store.Prune
import Dfs.Proofs.Store.Transfer

/-!
What an inventory comes to (`inventory_exact`). It fails for a directory whose host path is too
long, and for a regular file with a name that no path can have; otherwise it is the set of
the paths of all regular files. The length of a file is told for exactly those of them
whose host paths are short enough, so that the two can disagree (`inventory_inexact`).
-/

namespace Dfs

/-! ### Names that no path can have -/

namespace HostName

/-- There is a colon in the name, or it is no text. -/
def Unfit (name : HostName) : Prop := 0x3A ∈ name ∨ Utf8.decode? name = none

instance (name : HostName) : Decidable name.Unfit := inferInstanceAs (Decidable (_ ∨ _))

/-- A name of an entry is that of a path, or unfit. -/
theorem exists_name_iff {name : HostName} (piece : name.IsPiece) :
    (∃ n : Name, Utf8.encode n.text = name) ↔ ¬ name.Unfit := by
  have colon : (0x3A : UInt8) = delimiter.val.toUInt8 := rfl
  have slash : HostPath.slash = separator.val.toUInt8 := rfl
  unfold Unfit
  constructor
  · rintro ⟨n, rfl⟩ (mem | noText)
    · rw [colon, Utf8.mem_encode_iff (by decide)] at mem
      exact n.delimiter_not_mem mem
    · rw [Utf8.decode?_encode] at noText
      cases noText
  · intro fit
    rw [not_or] at fit
    obtain ⟨noColon, isText⟩ := fit
    obtain ⟨text, read⟩ := Option.ne_none_iff_exists'.mp isText
    obtain rfl := Utf8.decode?_eq_some_iff.mp read
    have valid : Name.isValid text.toList = true := by
      refine Name.isValid_iff.mpr ⟨fun none => ?_, fun mem => ?_, fun mem => ?_⟩
      · exact piece.nonempty (Utf8.encode_eq_nil_iff.mpr (String.toList_eq_nil_iff.mp none))
      · rw [← Utf8.mem_encode_iff (by decide), ← slash] at mem
        exact piece.noSlash mem
      · rw [← Utf8.mem_encode_iff (by decide), ← colon] at mem
        exact noColon mem
    exact ⟨⟨text, valid⟩, rfl⟩

end HostName

theorem Path.exists_place_iff {xs : Place} (pieces : ∀ name ∈ xs, HostName.IsPiece name) :
    (∃ p : Path, p.place = xs) ↔ ∀ name ∈ xs, ¬ HostName.Unfit name := by
  constructor
  · rintro ⟨p, rfl⟩ name mem
    obtain ⟨n, -, rfl⟩ := List.mem_map.mp mem
    exact (HostName.exists_name_iff n.isPiece_encode).mp ⟨n, rfl⟩
  · intro fit
    induction xs with
    | nil => exact ⟨.root, rfl⟩
    | cons name xs ih =>
        obtain ⟨n, rfl⟩ := (HostName.exists_name_iff (pieces name List.mem_cons_self)).mpr
          (fit name List.mem_cons_self)
        obtain ⟨p, rfl⟩ := ih (fun name mem => pieces name (List.mem_cons_of_mem _ mem))
          fun name mem => fit name (List.mem_cons_of_mem _ mem)
        exact ⟨⟨n :: p.components⟩, rfl⟩

/-- A regular file is at the place. -/
def Disk.Regular (d : Disk) (place : Place) : Prop := ∃ content, d.leafAt? place = some (.file content)

namespace Store

open Disk

variable {st : Store} {place xs : Place} {p : Path} {files : PathSet} {e : Error}

/-! ### What is in the way of an inventory -/

/-- Why an inventory fails. -/
inductive Obstacle (st : Store) (place : Place) : Error → Prop where
  /-- The host does not accept the path of a directory. -/
  | directory (xs : Place) (message : String) : st.disk.kindAt? (place ++ xs) = some .dir →
      ¬ st.root.Fits xs → Obstacle st place (.io message)
  /-- A regular file has a name that no path can have. -/
  | file (xs : Place) (message : String) : st.disk.Regular (place ++ xs) →
      (∃ name ∈ xs, HostName.Unfit name) → Obstacle st place (.invalidPath message)

section Rooted

variable (rooted : st.disk.Rooted st.root place)

include rooted

/-- The path of a regular file is there, unless one of its names is unfit. -/
theorem exists_pathOfPlace_iff (there : st.disk.kindAt? (place ++ xs) ≠ none) :
    (∃ p, pathOfPlace xs = .ok p) ↔ ∀ name ∈ xs, ¬ HostName.Unfit name := by
  simp only [pathOfPlace_of_rooted rooted there]
  exact Path.exists_place_iff fun name mem => (rooted.valid xs there name mem).toIsPiece

theorem listed_directory (isDir : st.disk.kindAt? (place ++ xs) = some .dir) :
    (st.root.Fits xs ∧ listed st.root (xs, none) = .ok none) ∨
      ¬ st.root.Fits xs ∧ ∃ message, listed st.root (xs, none) = .error (.io message) := by
  have noNul : ∀ name ∈ xs, 0 ∉ name := fun name mem =>
    (rooted.valid xs (by simp [isDir]) name mem).noNul
  unfold listed
  dsimp only
  by_cases fits : st.root.Fits xs
  · rw [rooted.check_below noNul fits]
    exact .inl ⟨fits, rfl⟩
  · rw [rooted.check_of_not_fits noNul fits]
    exact .inr ⟨fits, _, rfl⟩

theorem listed_file {content : Content}
    (leaf : st.disk.leafAt? (place ++ xs) = some (.file content)) :
    ((∀ name ∈ xs, ¬ HostName.Unfit name) ∧
      ∃ p, listed st.root (xs, some (.file content)) = .ok (some p)) ∨
    (∃ name ∈ xs, HostName.Unfit name) ∧
      ∃ message, listed st.root (xs, some (.file content)) = .error (.invalidPath message) := by
  have there : st.disk.kindAt? (place ++ xs) ≠ none := by simp [leafAt?_eq_some_iff.mp leaf]
  have named := exists_pathOfPlace_iff rooted there
  unfold listed
  dsimp only
  cases found : pathOfPlace xs with
  | ok p => exact .inl ⟨named.mp ⟨p, found⟩, p, rfl⟩
  | error e =>
      refine .inr ⟨?_, _, rfl⟩
      by_contra fit
      obtain ⟨p, found'⟩ := named.mpr fun name mem unfit => fit ⟨name, mem, unfit⟩
      rw [found] at found'
      cases found'

variable (ordered : (Tree.dir st.disk.top).Ordered)

include ordered

theorem obstacle_of_error (failed : st.inventory = .error e) : Obstacle st place e := by
  obtain ⟨entries, found, there⟩ := stat_of_rooted rooted
  obtain ⟨⟨xs, item⟩, isMet, refused⟩ := exists_of_inventory_error found failed
  cases item with
  | none =>
      rw [dir_mem_places_iff there ordered] at isMet
      rcases listed_directory rooted isMet with ⟨-, passed⟩ | ⟨long, message, refused'⟩
      · rw [passed] at refused
        cases refused
      · rw [refused'] at refused
        obtain rfl := Except.error.inj refused
        exact .directory xs message isMet long
  | some item =>
      rw [leaf_mem_places_iff there ordered] at isMet
      cases item with
      | link target => exact absurd (leafAt?_eq_some_iff.mp isMet) (rooted.noLinks xs target)
      | file content =>
          rcases listed_file rooted isMet with ⟨-, p, passed⟩ | ⟨unfit, message, refused'⟩
          · rw [passed] at refused
            cases refused
          · rw [refused'] at refused
            obtain rfl := Except.error.inj refused
            exact .file xs message ⟨content, isMet⟩ unfit

/-- An inventory that succeeds has met no obstacle. -/
theorem not_obstacle_of_ok (taken : st.inventory = .ok files) : ¬ Obstacle st place e := by
  obtain ⟨entries, found, there⟩ := stat_of_rooted rooted
  obtain ⟨passed, -⟩ := listed_of_inventory found taken
  rintro (⟨xs, message, isDir, long⟩ | ⟨xs, message, ⟨content, leaf⟩, unfit⟩)
  · obtain ⟨path, accepted⟩ := passed _ ((dir_mem_places_iff there ordered).mpr isDir)
    rcases listed_directory rooted isDir with ⟨fits, -⟩ | ⟨-, message, refused⟩
    · exact long fits
    · rw [refused] at accepted
      cases accepted
  · obtain ⟨path, accepted⟩ := passed _ ((leaf_mem_places_iff there ordered).mpr leaf)
    rcases listed_file rooted leaf with ⟨fit, -⟩ | ⟨-, message, refused⟩
    · obtain ⟨name, mem, bad⟩ := unfit
      exact fit name mem bad
    · rw [refused] at accepted
      cases accepted

end Rooted

/-! ### What an inventory is -/

/-- Only what is no directory has a length. -/
theorem exists_leaf_of_fileLength {h : HostPath} {length : Nat}
    (measured : st.fileLength h p = .ok length) :
    ∃ q item, st.disk.resolve true h = .ok (.found q (.leaf item)) := by
  unfold fileLength at measured
  split at measured
  · cases measured
  · next item seen =>
      obtain ⟨q, found⟩ := stat_eq_ok_iff.mp seen
      exact ⟨q, item, found⟩
  · cases measured

/-- The length of a file is told where a regular file is, if the host takes the path. -/
theorem exists_size_iff (rooted : st.disk.Rooted st.root place) :
    (∃ size, st.size p = .ok size) ↔
      st.disk.Regular (place ++ p.place) ∧ st.root.Fits p.place := by
  constructor
  · rintro ⟨size, sized⟩
    unfold Store.size at sized
    split at sized
    · cases sized
    next h mapped =>
    obtain ⟨length, measured, -⟩ := map_eq_ok_iff.mp sized
    obtain ⟨q, item, found⟩ := exists_leaf_of_fileLength measured
    rw [hostPath_eq_ok_iff] at mapped
    obtain rfl := (Path.toHost_eq_ok_iff.mp mapped).2
    have notRoot : p.isRoot = false := by
      by_contra root
      obtain ⟨entries, top⟩ := resolve_of_isRoot rooted (by simpa using root)
      rw [top] at found
      cases found
    obtain ⟨rfl, there, fits⟩ :=
      (rooted.resolve_eq_found_iff (Path.relative_of_toHost notRoot mapped)).mp found
    have leaf := kindAt?_of_get? there
    obtain ⟨content, rfl⟩ := rooted.exists_eq_file leaf
    exact ⟨⟨content, leafAt?_eq_some_iff.mpr leaf⟩, fits⟩
  · rintro ⟨⟨content, leaf⟩, fits⟩
    obtain ⟨h, mapped, -, measured⟩ :=
      ((denotes_iff rooted).mpr ⟨rfl, leaf, fits⟩).exists_fileLength
    refine ⟨UInt64.ofNat content.size, ?_⟩
    unfold Store.size
    rw [mapped]
    dsimp only
    rw [measured]
    rfl

/-- An inventory of the directory at the place, exactly. -/
structure InventoryExact (st : Store) (place : Place) : Prop where
  /-- As long as the host takes the paths of all directories, it fails exactly for the files with
  names that no path can have. -/
  invalid_iff : (∀ xs, st.disk.kindAt? (place ++ xs) = some .dir → st.root.Fits xs) →
    ((∃ message, st.inventory = .error (.invalidPath message)) ↔
      ∃ xs, st.disk.Regular (place ++ xs) ∧ ∃ name ∈ xs, HostName.Unfit name)
  succeeds : (∀ xs, st.disk.kindAt? (place ++ xs) = some .dir → st.root.Fits xs) →
    (∀ xs, st.disk.Regular (place ++ xs) → ∀ name ∈ xs, ¬ HostName.Unfit name) →
    ∃ files, st.inventory = .ok files
  /-- If it does not, the inventory fails, and if not for such a file, for the directory. -/
  fails_of_long : (∃ xs, st.disk.kindAt? (place ++ xs) = some .dir ∧ ¬ st.root.Fits xs) →
    ∃ e, st.inventory = .error e ∧ (e.kind = .io ∨ e.kind = .invalidPath ∧
      ∃ xs, st.disk.Regular (place ++ xs) ∧ ∃ name ∈ xs, HostName.Unfit name)
  mem_iff : ∀ files, st.inventory = .ok files →
    ∀ p, p ∈ files ↔ st.disk.Regular (place ++ p.place)
  /-- Every regular file has one path, which is no other one's. -/
  exists_unique : ∀ files, st.inventory = .ok files → ∀ xs, st.disk.Regular (place ++ xs) →
    ∃ p ∈ files, p.place = xs ∧ ∀ q, q.place = xs → q = p
  /-- The length is told of the files whose paths the host takes. -/
  size_iff : ∀ files, st.inventory = .ok files →
    ∀ p, (∃ size, st.size p = .ok size) ↔ p ∈ files ∧ st.root.Fits p.place

section Rooted

variable (rooted : st.disk.Rooted st.root place) (ordered : (Tree.dir st.disk.top).Ordered)

include rooted ordered

/-- If the host takes the paths of all directories, there is no other obstacle than a file. -/
theorem exists_unfit_of_error
    (allFit : ∀ xs, st.disk.kindAt? (place ++ xs) = some .dir → st.root.Fits xs)
    (failed : st.inventory = .error e) : (∃ message, e = .invalidPath message) ∧
      ∃ xs, st.disk.Regular (place ++ xs) ∧ ∃ name ∈ xs, HostName.Unfit name := by
  rcases obstacle_of_error rooted ordered failed with
    ⟨xs, message, isDir, long⟩ | ⟨xs, message, regular, unfit⟩
  · exact absurd (allFit xs isDir) long
  · exact ⟨⟨message, rfl⟩, xs, regular, unfit⟩

theorem inventoryExact : InventoryExact st place where
  invalid_iff := by
    intro allFit
    constructor
    · rintro ⟨message, failed⟩
      exact (exists_unfit_of_error rooted ordered allFit failed).2
    · rintro ⟨xs, regular, unfit⟩
      cases made : st.inventory with
      | error e =>
          obtain ⟨⟨message, rfl⟩, -⟩ := exists_unfit_of_error rooted ordered allFit made
          exact ⟨message, rfl⟩
      | ok files =>
          exact absurd (.file xs "" regular unfit) (not_obstacle_of_ok rooted ordered made)
  succeeds := by
    intro allFit allNamed
    cases made : st.inventory with
    | ok files => exact ⟨files, rfl⟩
    | error e =>
        obtain ⟨-, xs, regular, name, mem, unfit⟩ :=
          exists_unfit_of_error rooted ordered allFit made
        exact absurd unfit (allNamed xs regular name mem)
  fails_of_long := by
    rintro ⟨xs, isDir, long⟩
    cases made : st.inventory with
    | ok files =>
        exact absurd (.directory xs "" isDir long) (not_obstacle_of_ok rooted ordered made)
    | error e =>
        refine ⟨e, rfl, ?_⟩
        rcases obstacle_of_error rooted ordered made with
          ⟨xs, message, isDir, long⟩ | ⟨xs, message, regular, unfit⟩
        · exact .inl rfl
        · exact .inr ⟨rfl, xs, regular, unfit⟩
  mem_iff := fun files taken p => mem_inventory_iff rooted ordered taken
  exists_unique := by
    rintro files taken xs ⟨content, leaf⟩
    obtain ⟨p, mem, rfl⟩ := exists_place_of_inventory rooted ordered taken leaf
    exact ⟨p, mem, rfl, fun q same => Path.place_injective same⟩
  size_iff := fun files taken p => by
    rw [exists_size_iff rooted, mem_inventory_iff rooted ordered taken]
    rfl

end Rooted

theorem inventory_of_misses (missing : st.disk.Misses true st.root) :
    st.inventory = .error (.notFound s!"no such directory '{st.root.display}'") := by
  unfold inventory
  rw [stat_of_misses missing]
  rfl

theorem inventory_of_file {q : Place} {content : Content}
    (found : st.disk.resolve true st.root = .ok (.found q (.leaf (.file content)))) :
    st.inventory = .error (.invalidArgument s!"'{st.root.display}' is not a directory") := by
  unfold inventory
  rw [stat_of_found found]

/-- An inventory is refused if the root is missing or a file. Otherwise, it is exact. -/
theorem inventory_exact (ordered : (Tree.dir st.disk.top).Ordered) :
    (st.disk.Misses true st.root →
      st.inventory = .error (.notFound s!"no such directory '{st.root.display}'")) ∧
    (∀ q content, st.disk.resolve true st.root = .ok (.found q (.leaf (.file content))) →
      st.inventory = .error (.invalidArgument s!"'{st.root.display}' is not a directory")) ∧
    ∀ place, st.disk.Rooted st.root place → InventoryExact st place :=
  ⟨inventory_of_misses, fun _ _ found => inventory_of_file found,
    fun _ rooted => inventoryExact rooted ordered⟩

/-- What is in the root directory of the next node. -/
def mixedEntries : Tree.Folder HostName DiskItem :=
  [([0x61], .leaf (.file .empty)),
    ([0x64], .dir [([0x3A], .dir []), ([0x66], .leaf (.file .empty))])]

/-- A node with the files `a` and `d/f`, and with the directory `d/:`, which does no harm. -/
def mixed : Store := ⟨⟨[0x72]⟩, { top := [([0x72], .dir mixedEntries)] }⟩

theorem inventory_exact_mixed : mixed.disk.Rooted mixed.root [[0x72]] ∧
    ∃ (f : Path) (files : PathSet), mixed.inventory = .ok files ∧ f.place = [[0x64], [0x66]] ∧
      f ∈ files ∧ ∃ size, mixed.size f = .ok size := by
  have ordered : (Tree.dir mixed.disk.top).Ordered := by decide
  have there : mixed.disk.get? [[0x72]] = some (.dir mixedEntries) := rfl
  have rooted : mixed.disk.Rooted mixed.root [[0x72]] :=
    ⟨Plain.of_places there ordered (by decide), _, rfl⟩
  have allFit : ∀ x ∈ Tree.places (.dir mixedEntries), mixed.root.Fits x.1 := by decide
  have allNamed : ∀ x ∈ Tree.places (.dir mixedEntries), x.2 ≠ none →
      ∀ name ∈ x.1, ¬ HostName.Unfit name := by decide
  obtain ⟨-, -, anywhere⟩ := inventory_exact ordered
  have isExact := anywhere _ rooted
  obtain ⟨files, taken⟩ := isExact.succeeds
    (fun xs isDir => allFit (xs, none) ((dir_mem_places_iff there ordered).mpr isDir))
    fun xs ⟨content, leaf⟩ => allNamed (xs, some (.file content))
      ((leaf_mem_places_iff there ordered).mpr leaf) (by simp)
  let f : Path := ⟨[⟨"d", by decide⟩, ⟨"f", by decide⟩]⟩
  have mem : f ∈ files := (isExact.mem_iff files taken f).mpr ⟨.empty, rfl⟩
  exact ⟨rooted, f, files, taken, by decide, mem,
    (isExact.size_iff files taken f).mpr ⟨mem, by decide⟩⟩

/-! ### Beyond the longest path -/

/-- A letter, as often as in the longest name that a host takes. -/
def longName (letter : UInt8) : HostName := List.replicate HostPath.maxName letter

/-- Directories with long names, one in another, and in the last one these entries. -/
def chain (entries : Tree.Folder HostName DiskItem) : Nat → Tree.Folder HostName DiskItem
  | 0 => entries
  | depth + 1 => [(longName 0x64, .dir (chain entries depth))]

/-- A node with nothing but them in the directory `r`. -/
def deep (depth : Nat) (entries : Tree.Folder HostName DiskItem) : Store :=
  ⟨⟨[0x72]⟩, { top := [([0x72], .dir (chain entries depth))] }⟩

/-- A file with a long name. -/
def longFile : Tree.Folder HostName DiskItem := [(longName 0x66, .leaf (.file (.ofBytes [0x66])))]

/-- A file with a name that no path can have. -/
def colonFile : Tree.Folder HostName DiskItem := [([0x3A], .leaf (.file .empty))]

def longNameD : Name :=
  ⟨String.ofList (List.replicate HostPath.maxName 'd'), by
    rw [String.toList_ofList]
    decide +kernel⟩

def longNameF : Name :=
  ⟨String.ofList (List.replicate HostPath.maxName 'f'), by
    rw [String.toList_ofList]
    decide +kernel⟩

/-- The path of the file in the last of fifteen directories. -/
def deepFile : Path := ⟨List.replicate 15 longNameD ++ [longNameF]⟩

theorem place_deepFile :
    deepFile.place = List.replicate 15 (longName 0x64) ++ [longName 0x66] := by
  decide +kernel

theorem rooted_deepFile : (deep 15 longFile).disk.Rooted (deep 15 longFile).root [[0x72]] :=
  ⟨Plain.of_places rfl (by decide +kernel) (by decide +kernel), _, rfl⟩

/-- The file is listed, though there is no host path for it. -/
theorem inventory_deepFile : (deep 15 longFile).inventory = .ok (.ofList [deepFile]) := by
  have listed : (Tree.leaves (.dir (chain longFile 15))).map Prod.fst =
      [List.replicate 15 (longName 0x64) ++ [longName 0x66]] := rfl
  refine inventory_of_leaves rooted_deepFile (by decide +kernel) rfl (by decide +kernel) ?_
  rw [listed, List.map_singleton, place_deepFile]

theorem not_fits_deepFile : ¬ (deep 15 longFile).root.Fits deepFile.place := by
  rw [place_deepFile]
  decide +kernel

/-- The file is not come upon, since its directory cannot be opened. -/
theorem kind_inventory_colonFile :
    (deep 16 colonFile).inventory.mapError Error.kind = .error .io := by
  decide +kernel

/-- The limit of the host shows: a file is listed whose length is not told, and a directory that
cannot be opened hides the file in it. And a root below a file is not said to be missing. -/
theorem inventory_inexact :
    ((deep 15 longFile).disk.Rooted (deep 15 longFile).root [[0x72]] ∧
      (deep 15 longFile).inventory = .ok (.ofList [deepFile]) ∧
      ∀ size, (deep 15 longFile).size deepFile ≠ .ok size) ∧
    ((deep 16 colonFile).disk.Rooted (deep 16 colonFile).root [[0x72]] ∧
      (deep 16 colonFile).disk.Regular ([0x72] :: List.replicate 16 (longName 0x64) ++ [[0x3A]]) ∧
      HostName.Unfit [0x3A] ∧
      ∀ message, (deep 16 colonFile).inventory ≠ .error (.invalidPath message)) ∧
    (⟨⟨[0x61, HostPath.slash, 0x62]⟩, onlyFile⟩ : Store).inventory =
      .error (.io "a/b: Not a directory (os error 20)") := by
  have colonRooted : (deep 16 colonFile).disk.Rooted (deep 16 colonFile).root [[0x72]] :=
    ⟨Plain.of_places rfl (by decide +kernel) (by decide +kernel), _, rfl⟩
  refine ⟨⟨rooted_deepFile, inventory_deepFile, fun size sized => ?_⟩,
    ⟨colonRooted, ⟨.empty, by decide +kernel⟩, by decide, fun message invalid => ?_⟩,
    by decide +kernel⟩
  · exact not_fits_deepFile ((exists_size_iff rooted_deepFile).mp ⟨size, sized⟩).2
  · have refused := kind_inventory_colonFile
    rw [invalid] at refused
    cases refused

end Store

end Dfs
