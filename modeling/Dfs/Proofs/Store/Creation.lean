import Dfs.Proofs.Disk.Room
import Dfs.Proofs.Store.Commands

/-!
What it comes to when a storage node is asked to create a file (`Store.creation`). The file is
made if there is room for it and nothing in its place. Otherwise nothing changes, except where
a name of the path is too long for the host: then the directories before it are made.
-/

namespace Dfs.Store

open Disk

variable {st : Store} {root : HostPath} {place : Place} {p : Path} {h : HostPath}

/-- The file is at its place, all that lead there are directories, and everything else is as
before. -/
def Created (d : Disk) (q : Place) (d' : Disk) : Prop :=
  ∀ js, d'.kindAt? js = if js = q then some (.leaf (.file .empty))
    else if js <+: q then some .dir else d.kindAt? js

/-- There is room for the file, and nothing is in its place. -/
structure Creatable (st : Store) (place : Place) (p : Path) : Prop where
  notRoot : p.isRoot = false
  room : st.disk.Room st.root place p.place
  absent : st.disk.kindAt? (place ++ p.place) = none

/-- The names before the first one that is too long. -/
def shortNames (p : Path) : Place := p.place.takeWhile fun name => name.length ≤ HostPath.maxName

/-- What a request to create a file comes to. -/
inductive Creation (st : Store) (place : Place) (p : Path) : Bool × Store → Prop where
  | refused : ¬ st.Creatable place p → Creation st place p (false, st)
  | made (disk : Disk) : st.Creatable place p → Created st.disk (place ++ p.place) disk →
      Creation st place p (true, { st with disk })
  | stopped (disk : Disk) : (∃ name ∈ p.place, HostPath.maxName < name.length) →
      st.disk.Paved (place ++ shortNames p) disk → Creation st place p (false, { st with disk })

/-! ### When nothing is made -/

theorem create_of_isRoot (isRoot : p.isRoot = true) : st.create p = (false, st) := by
  unfold create
  rw [if_pos isRoot]

theorem create_of_unmapped {e : Error} (unmapped : st.hostPath p = .error e) :
    st.create p = (false, st) := by
  unfold create
  rw [unmapped]
  split <;> rfl

theorem create_of_pathExists_ne (mapped : st.hostPath p = .ok h)
    (seen : st.disk.pathExists h ≠ .ok false) : st.create p = (false, st) := by
  unfold create
  rw [mapped]
  split
  · rfl
  dsimp only
  cases exists_ : st.disk.pathExists h with
  | error fault => rfl
  | ok there =>
      cases there with
      | true => rfl
      | false => exact absurd exists_ seen

theorem pathExists_of_found {d : Disk} {q : Place} {node : DiskNode}
    (found : d.resolve true h = .ok (.found q node)) : d.pathExists h = .ok true := by
  unfold pathExists
  rw [stat_of_found found]

theorem pathExists_of_fault {d : Disk} {fault : Fault} (refused : d.resolve true h = .error fault)
    (other : fault.isMissing = false) : d.pathExists h = .error fault := by
  unfold pathExists
  rw [stat_of_fault refused]
  simp [other]

theorem pathExists_of_misses {d : Disk} (misses : d.Misses true h) : d.pathExists h = .ok false := by
  unfold pathExists
  rw [stat_of_misses misses]
  rfl

/-! ### Making the file -/

section Make

variable (rooted : st.disk.Rooted st.root place) (notRoot : p.isRoot = false)
  (mapped : st.hostPath p = .ok (st.root.below p.place))
  (unseen : st.disk.pathExists (st.root.below p.place) = .ok false)

include notRoot mapped unseen

/-- Where nothing is yet, the directories come first. -/
theorem create_eq : st.create p =
    match st.disk.makeDirectories (st.root.below p.place).parent with
    | (some _, disk) => (false, { st with disk })
    | (none, disk) =>
      match disk.createFile (st.root.below p.place) with
      | .error _ => (false, { st with disk })
      | .ok disk => (true, { st with disk }) := by
  unfold create
  rw [if_neg (by simp [notRoot]), mapped]
  dsimp only
  rewrite [unseen]
  rfl

include rooted

theorem creation_of_room (room : st.disk.Room st.root place p.place)
    (absent : st.disk.kindAt? (place ++ p.place) = none) : Creation st place p (st.create p) := by
  have creatable : st.Creatable place p := ⟨notRoot, room, absent⟩
  have made := create_eq notRoot mapped unseen
  have relative := room.relative fun top => by
    rw [Path.place_eq_nil_iff, notRoot] at top
    cases top
  obtain ⟨front, name, whole⟩ := (List.eq_nil_or_concat' p.place).resolve_left relative.nonempty
  rw [whole] at room absent relative
  obtain ⟨e, climbed, paved⟩ :=
    rooted.exists_makeDirectories (room.of_isPrefix (List.prefix_append front [name])) relative
  obtain ⟨rooted', leaves⟩ := rooted.of_makeDirectories relative climbed
  have stillAbsent : e.kindAt? (place ++ (front ++ [name])) = none := by
    rw [paved.elsewhere _ ?_, absent]
    intro lead
    have short := lead.length_le
    simp only [List.length_append, List.length_singleton] at short
    omega
  have vacant := rooted'.resolve_of_vacant (room.of_leaves leaves) paved.isDir stillAbsent false
  obtain ⟨-, kinds, -⟩ := rooted'.set_vacant relative (.leaf (.file .empty)) vacant
    (fun _ _ => rfl) (by simp) (.leaf _)
  rw [made, whole, climbed]
  dsimp only
  rw [createFile_eq_ok_iff.mpr ⟨_, _, vacant, rfl⟩]
  refine .made _ creatable fun js => ?_
  rw [kinds, whole, paved.kindAt?_eq]
  by_cases same : js = place ++ (front ++ [name])
  · rw [if_pos same, if_pos same]
    rfl
  · have above : js <+: place ++ (front ++ [name]) ↔ js <+: place ++ front := by
      rw [← List.append_assoc] at same ⊢
      rw [List.prefix_concat_iff]
      exact or_iff_right same
    simp only [same, above, if_false]

/-- The directories before a name that is too long are made, and no further ones. -/
theorem creation_of_long {front rest : List HostName} {name : HostName}
    (taken : st.root.Taken (front ++ name :: rest)) (whole : p.place = front ++ name :: rest)
    (room : st.disk.Room st.root place front)
    (missing : st.disk.kindAt? (place ++ front) ≠ some .dir)
    (long : HostPath.maxName < name.length) : Creation st place p (st.create p) := by
  have made := create_eq notRoot mapped unseen
  have inPath : ∃ name ∈ p.place, HostPath.maxName < name.length := ⟨name, by simp [whole], long⟩
  have stops : shortNames p = front := by
    unfold shortNames
    rw [whole, List.takeWhile_append_of_pos (by simpa using fun n mem => (room.valid n mem).short),
      List.takeWhile_cons_of_neg (by simpa using long), List.append_nil]
  have paves : ∀ disk, st.disk.Paved (place ++ front) disk →
      Creation st place p (false, { st with disk }) := by
    intro disk paved
    rw [← stops] at paved
    exact .stopped disk inPath paved
  rw [made, whole]
  rcases List.eq_nil_or_concat' rest with rfl | ⟨rest, final, rfl⟩
  · -- The last name is too long: only the file itself cannot be made.
    have relative := taken.relative (by simp)
    obtain ⟨e, climbed, paved⟩ := rooted.exists_makeDirectories room relative
    obtain ⟨rooted', leaves⟩ := rooted.of_makeDirectories relative climbed
    rw [climbed]
    dsimp only
    rw [createFile_of_fault
      (rooted'.resolve_long taken ((room.of_leaves leaves).along paved.isDir) long false)]
    exact paves e paved
  · have nested : front ++ name :: (rest ++ [final]) = (front ++ name :: rest) ++ [final] := by simp
    rw [nested] at taken ⊢
    obtain ⟨-, up⟩ :=
      HostPath.parent_below_concat rooted.bytes_ne_nil (taken.relative (by simp)) (by simp)
    have taken' := taken.of_isPrefix (List.prefix_append _ [final])
    obtain ⟨fault, d', climbed, paved⟩ := rooted.exists_makeDirectoriesWith_of_long room missing
      long taken' (HostPath.length_le_length_below taken'.pieces st.root)
    rw [up]
    unfold makeDirectories
    rw [climbed]
    exact paves d' paved

end Make

/-! ### Names that are too long -/

theorem short_of_mem_shortNames {name : HostName} (mem : name ∈ shortNames p) :
    name.length ≤ HostPath.maxName := by
  simpa using List.mem_takeWhile_imp mem

/-- Unless all names are short, the first one that is too long comes after the short ones. -/
theorem exists_tooLong (some : ¬ ∀ name ∈ p.place, name.length ≤ HostPath.maxName) :
    ∃ name rest, p.place = shortNames p ++ name :: rest ∧ HostPath.maxName < name.length := by
  have split : shortNames p ++ p.place.dropWhile (fun name => name.length ≤ HostPath.maxName) =
      p.place := List.takeWhile_append_dropWhile
  have long := List.head?_dropWhile_not (fun name : HostName => name.length ≤ HostPath.maxName)
    p.place
  cases tail : p.place.dropWhile (fun name => name.length ≤ HostPath.maxName) with
  | nil =>
      rw [List.dropWhile_eq_nil_iff] at tail
      exact absurd (by simpa using tail) some
  | cons name rest =>
      rw [tail] at split long
      exact ⟨name, rest, split.symm, by simpa using long⟩

theorem prefix_shortNames {front rest : List HostName} {name : HostName}
    (whole : p.place = front ++ name :: rest) (before : ∀ n ∈ front, n.length ≤ HostPath.maxName)
    (short : name.length ≤ HostPath.maxName) : front ++ [name] <+: shortNames p := by
  unfold shortNames
  rw [whole, List.takeWhile_append_of_pos (by simpa using before),
    List.takeWhile_cons_of_pos (by simpa using short)]
  simp

/-! ### All requests -/

section Requests

variable (rooted : st.disk.Rooted st.root place)

include rooted

/-- Where there is room, the host sees that nothing is there. -/
theorem Creatable.unseen (creatable : st.Creatable place p) :
    st.disk.pathExists (st.root.below p.place) = .ok false := by
  apply pathExists_of_misses
  have nonempty : p.place ≠ [] := by
    rw [ne_eq, Path.place_eq_nil_iff, creatable.notRoot]
    simp
  obtain ⟨front, name, whole⟩ := (List.eq_nil_or_concat' p.place).resolve_left nonempty
  have room := creatable.room
  have absent := creatable.absent
  rw [whole] at room absent ⊢
  by_cases inDir : st.disk.kindAt? (place ++ front) = some .dir
  · exact .inr ⟨_, _, rooted.resolve_of_vacant room inDir absent true⟩
  · have above := room.of_isPrefix (List.prefix_append front [name])
    exact .inl (rooted.resolve_of_missing above inDir room.taken true)

/-- Where the host sees something or a fault, nothing is made. -/
theorem creation_of_seen (mapped : st.hostPath p = .ok (st.root.below p.place))
    (seen : st.disk.pathExists (st.root.below p.place) ≠ .ok false) :
    Creation st place p (st.create p) := by
  rw [create_of_pathExists_ne mapped seen]
  exact .refused fun creatable => seen (creatable.unseen rooted)

/-- Directories go along names, and nothing is under the next one. -/
theorem creation_of_absent (notRoot : p.isRoot = false)
    (mapped : st.hostPath p = .ok (st.root.below p.place)) (taken : st.root.Taken p.place)
    {front rest : List HostName} {name : HostName} (whole : p.place = front ++ name :: rest)
    (along : st.disk.Along place front) (short : name.length ≤ HostPath.maxName)
    (absent : st.disk.kindAt? (place ++ (front ++ [name])) = none) :
    Creation st place p (st.create p) := by
  have unseen : st.disk.pathExists (st.root.below p.place) = .ok false := by
    apply pathExists_of_misses
    rw [whole] at taken ⊢
    exact rooted.misses_of_absent taken along short absent true
  have clear : ∀ xs, xs <+: p.place → st.disk.leafAt? (place ++ xs) = none := by
    rw [whole]
    exact fun xs lead => along.leafAt?_of_absent absent lead
  have missing : ∀ names, front ++ [name] <+: names → st.disk.kindAt? (place ++ names) = none :=
    fun names lead =>
      kindAt?_none_of_isPrefix ((List.prefix_append_right_inj place).mpr lead) absent
  by_cases all : ∀ n ∈ p.place, n.length ≤ HostPath.maxName
  · exact creation_of_room rooted notRoot mapped unseen ⟨taken.isValid all, taken.fits, clear⟩
      (missing _ (by simp [whole]))
  · -- The directories stop before the first name that is too long.
    obtain ⟨tooLong, after, split, long⟩ := exists_tooLong all
    have lead : shortNames p <+: p.place := List.takeWhile_prefix _
    have room : st.disk.Room st.root place (shortNames p) :=
      { valid := (taken.of_isPrefix lead).isValid fun _ => short_of_mem_shortNames
        fits := taken.fits.of_isPrefix lead
        clear := fun xs within => clear xs (within.trans lead) }
    have further := missing _ (prefix_shortNames whole along.short short)
    exact creation_of_long rooted notRoot mapped unseen (split ▸ taken) split room
      (by rw [further]; simp) long

theorem creation (p : Path) : Creation st place p (st.create p) := by
  by_cases isRoot : p.isRoot = true
  · rw [create_of_isRoot isRoot]
    refine .refused fun creatable => ?_
    rw [creatable.notRoot] at isRoot
    cases isRoot
  have notRoot : p.isRoot = false := by simpa using isRoot
  cases mapped : st.hostPath p with
  | error e =>
      rw [create_of_unmapped mapped]
      refine .refused fun creatable => ?_
      have ok : st.hostPath p = .ok (st.root.below p.place) :=
        hostPath_eq_ok_iff.mpr (Path.toHost_eq_ok_iff.mpr ⟨creatable.room.taken.noDots, rfl⟩)
      rw [mapped] at ok
      cases ok
  | ok h =>
  have mappedTo := hostPath_eq_ok_iff.mp mapped
  obtain rfl := (Path.toHost_eq_ok_iff.mp mappedTo).2
  have faults : ∀ {fault}, st.disk.resolve true (st.root.below p.place) = .error fault →
      fault.isMissing = false → Creation st place p (st.create p) := fun refused other =>
    creation_of_seen rooted mapped (by rw [pathExists_of_fault refused other]; simp)
  cases checked : (st.root.below p.place).check with
  | error fault =>
      exact faults (resolve_of_refused checked true)
        (HostPath.isMissing_of_check (rooted.bytes_below_ne_nil p.place) checked)
  | ok =>
  have taken := Path.taken_of_toHost mappedTo checked
  cases st.disk.frontier rooted.kindAt?_place p.place with
  | whole along =>
      obtain ⟨entries, there⟩ := kindAt?_eq_dir_iff.mp along.isDir
      have relative := Path.relative_of_toHost notRoot mappedTo
      have found : st.disk.resolve true (st.root.below p.place) =
          .ok (.found (place ++ p.place) (.dir entries)) :=
        (rooted.resolve_eq_found_iff relative).mpr ⟨rfl, there, taken.fits⟩
      exact creation_of_seen rooted mapped (by rw [pathExists_of_found found]; simp)
  | leaf front name rest item same along short leaf =>
      have resolved := rooted.resolve_leaf (same ▸ taken) along short leaf true
      rw [← same] at resolved
      by_cases only : rest = []
      · rw [if_pos only] at resolved
        exact creation_of_seen rooted mapped (by rw [pathExists_of_found resolved]; simp)
      · rw [if_neg only] at resolved
        exact faults resolved rfl
  | long front name rest same along long =>
      have resolved := rooted.resolve_long (same ▸ taken) along long true
      rw [← same] at resolved
      exact faults resolved rfl
  | absent front name rest same along short absent =>
      exact creation_of_absent rooted notRoot mapped taken same along short absent

end Requests

/-- Whether a node creates a file for which there is room, depends on whether it has a
directory of that name. -/
theorem create_of_room (rooted : st.disk.Rooted st.root place)
    (room : st.disk.Room st.root place p.place) (notRoot : p.isRoot = false) :
    (st.create p).1 = decide (st.disk.kindAt? (place ++ p.place) ≠ some .dir) := by
  have outcome := creation rooted p
  generalize st.create p = result at outcome ⊢
  cases outcome with
  | refused notCreatable =>
      have isDir : st.disk.kindAt? (place ++ p.place) = some .dir := by
        by_contra noDir
        exact notCreatable ⟨notRoot, room, room.kindAt?_eq_none noDir⟩
      simp [isDir]
  | made disk creatable created => simp [creatable.absent]
  | stopped disk long paved =>
      obtain ⟨name, mem, long⟩ := long
      exact absurd long (Nat.not_lt.mpr (room.valid name mem).short)

end Dfs.Store
