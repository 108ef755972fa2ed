import Dfs.Proofs.Disk.Directories
import Dfs.Proofs.Disk.Frontier

/-!
Room for something new: where nothing but directories is in the way, and the host takes
the path, all the directories that lead there can be made
(`Rooted.exists_makeDirectories`), and then the file itself. Where a name is too long for
the host, the directories before it are made (`Rooted.exists_makeDirectoriesWith_of_long`).
-/

namespace Dfs

namespace Disk

variable {d d' : Disk} {root : HostPath} {p : Place} {names names' front rest : List HostName}
  {name : HostName} {last : Bool}

/-! ### Directories that are made -/

/-- The place and all that lead there are directories, and everything else is as before. -/
structure Paved (d : Disk) (place : Place) (d' : Disk) : Prop where
  isDir : d'.kindAt? place = some .dir
  elsewhere : ∀ js, ¬ js <+: place → d'.kindAt? js = d.kindAt? js

namespace Paved

variable {place : Place}

theorem refl (isDir : d.kindAt? place = some .dir) : d.Paved place d where
  isDir := isDir
  elsewhere := fun _ _ => rfl

theorem trans {e : Disk} {further : Place} (first : d.Paved place e) (second : e.Paved further d')
    (lead : place <+: further) : d.Paved further d' where
  isDir := second.isDir
  elsewhere := fun js other =>
    (second.elsewhere js other).trans (first.elsewhere js fun above => other (above.trans lead))

theorem kindAt?_eq (paved : d.Paved place d') (js : Place) :
    d'.kindAt? js = if js <+: place then some .dir else d.kindAt? js := by
  split
  · next above =>
      by_cases same : js = place
      · rw [same, paved.isDir]
      · exact kindAt?_of_isPrefix above same (by simp [paved.isDir])
  · next other => exact paved.elsewhere js other

end Paved

/-- A directory has been made, or was there already. -/
inductive Made (d : Disk) (h : HostPath) : Disk → Prop where
  | new {d' : Disk} : d.makeDirectory h = .ok d' → Made d h d'
  | old : d.makeDirectory h = .error .entryExists → d.isDirectory h = true → Made d h d

section Made

variable {h : HostPath} {e : Disk} (ne : h.bytes ≠ [])

include ne

theorem Made.makeDirectoriesWith (made : d.Made h d') (above : Nat) :
    makeDirectoriesWith above d h = (none, d') := by
  unfold Disk.makeDirectoriesWith
  rw [if_neg ne]
  cases made with
  | new done => rw [done]
  | old there isDir =>
      rw [there]
      simp [Fault.isMissing, Fault.entryExists, isDir]

/-- A directory whose parent has to be made before. -/
theorem Made.makeDirectoriesWith_of_missing {above : Nat} (made : e.Made h d')
    (missing : d.makeDirectory h = .error .noSuchEntry)
    (climbed : Disk.makeDirectoriesWith above d h.parent = (none, e)) :
    Disk.makeDirectoriesWith (above + 1) d h = (none, d') := by
  have isMissing : Fault.noSuchEntry.isMissing = true := rfl
  unfold Disk.makeDirectoriesWith
  rw [if_neg ne, missing]
  dsimp only
  rw [if_pos isMissing, climbed]
  dsimp only
  cases made with
  | new done => rw [done]
  | old there isDir =>
      rw [there]
      simp [isDir]

/-- A directory that cannot be made, although its parent is there by then. -/
theorem makeDirectoriesWith_of_refused {above : Nat} {fault : Fault}
    (missing : d.makeDirectory h = .error .noSuchEntry)
    (climbed : Disk.makeDirectoriesWith above d h.parent = (none, e))
    (refused : e.makeDirectory h = .error fault) (other : fault ≠ .entryExists) :
    Disk.makeDirectoriesWith (above + 1) d h = (some fault, e) := by
  have isMissing : Fault.noSuchEntry.isMissing = true := rfl
  unfold Disk.makeDirectoriesWith
  rw [if_neg ne, missing]
  dsimp only
  rw [if_pos isMissing, climbed]
  dsimp only
  rw [refused]
  simp [other]

/-- A directory whose parent cannot be made. -/
theorem makeDirectoriesWith_of_stopped {above : Nat} {fault : Fault}
    (missing : d.makeDirectory h = .error .noSuchEntry)
    (climbed : Disk.makeDirectoriesWith above d h.parent = (some fault, e)) :
    Disk.makeDirectoriesWith (above + 1) d h = (some fault, e) := by
  have isMissing : Fault.noSuchEntry.isMissing = true := rfl
  unfold Disk.makeDirectoriesWith
  rw [if_neg ne, missing]
  dsimp only
  rw [if_pos isMissing, climbed]

end Made

/-! ### Room -/

/-- Nothing but directories is at the names below the root and on the way there, and the
host takes the path. -/
structure Room (d : Disk) (root : HostPath) (p : Place) (names : List HostName) : Prop where
  valid : ∀ name ∈ names, HostName.IsValid name
  fits : root.Fits names
  clear : ∀ xs, xs <+: names → d.leafAt? (p ++ xs) = none

namespace Room

theorem of_isPrefix (room : d.Room root p names') (lead : names <+: names') :
    d.Room root p names where
  valid := fun name mem => room.valid name (lead.subset mem)
  fits := room.fits.of_isPrefix lead
  clear := fun xs before => room.clear xs (before.trans lead)

theorem of_leaves (room : d.Room root p names) (same : ∀ js, d'.leafAt? js = d.leafAt? js) :
    d'.Room root p names where
  valid := room.valid
  fits := room.fits
  clear := fun xs before => (same _).trans (room.clear xs before)

theorem taken (room : d.Room root p names) : root.Taken names where
  pieces := fun name mem => (room.valid name mem).toIsPiece
  noDots := fun name mem => ⟨(room.valid name mem).notDot, (room.valid name mem).notDotDot⟩
  noNul := fun name mem => (room.valid name mem).noNul
  fits := room.fits

theorem relative (room : d.Room root p names) (nonempty : names ≠ []) :
    HostPath.Relative names :=
  room.taken.relative nonempty

theorem kindAt?_eq_none (room : d.Room root p names) (noDir : d.kindAt? (p ++ names) ≠ some .dir) :
    d.kindAt? (p ++ names) = none := by
  cases there : d.kindAt? (p ++ names) with
  | none => rfl
  | some kind =>
      cases kind with
      | dir => exact absurd there noDir
      | leaf item =>
          have leaf := leafAt?_eq_some_iff.mpr there
          rw [room.clear names (List.prefix_refl _)] at leaf
          cases leaf

theorem along (room : d.Room root p names) (isDir : d.kindAt? (p ++ names) = some .dir) :
    d.Along p names where
  isDir := isDir
  short := fun name mem => (room.valid name mem).short

end Room

variable (rooted : d.Rooted root p)

include rooted

/-- A name under which nothing is yet in a directory that is there. -/
theorem Rooted.resolve_of_vacant (room : d.Room root p (front ++ [name]))
    (inDir : d.kindAt? (p ++ front) = some .dir)
    (absent : d.kindAt? (p ++ (front ++ [name])) = none) (last : Bool) :
    d.resolve last (root.below (front ++ [name])) = .ok (.vacant (p ++ front) name) := by
  have along := (room.of_isPrefix (List.prefix_append front [name])).along inDir
  rw [rooted.resolve_absent room.taken along (room.valid name (by simp)).short absent, if_pos rfl]

/-- Names that lead through a directory for which there is room, but which is missing. -/
theorem Rooted.resolve_of_missing (room : d.Room root p front)
    (missing : d.kindAt? (p ++ front) ≠ some .dir) (taken : root.Taken (front ++ name :: rest))
    (last : Bool) :
    d.resolve last (root.below (front ++ name :: rest)) = .error .noSuchEntry := by
  cases d.frontier rooted.kindAt?_place front with
  | whole along => exact absurd along.isDir missing
  | leaf front' name' rest' item same along short leaf =>
      have inTheWay := room.clear (front' ++ [name']) (by simp [same])
      rw [leafAt?_eq_some_iff.mpr leaf] at inTheWay
      cases inTheWay
  | long front' name' rest' same along long =>
      have short := (room.valid name' (by simp [same])).short
      exact absurd long (Nat.not_lt.mpr short)
  | absent front' name' rest' same along short absent =>
      rw [same, List.append_assoc, List.cons_append] at taken ⊢
      rw [rooted.resolve_absent taken along short absent, if_neg (by simp)]

/-- In a directory, another one can be made, or it is there already. -/
theorem Rooted.exists_made (room : d.Room root p (front ++ [name]))
    (inDir : d.kindAt? (p ++ front) = some .dir) :
    ∃ d', d.Made (root.below (front ++ [name])) d' ∧ d.Paved (p ++ (front ++ [name])) d' := by
  have relative := room.relative (by simp)
  by_cases isDir : d.kindAt? (p ++ (front ++ [name])) = some .dir
  · obtain ⟨entries, there⟩ := kindAt?_eq_dir_iff.mp isDir
    have found : ∀ last, d.resolve last (root.below (front ++ [name])) =
        .ok (.found (p ++ (front ++ [name])) (.dir entries)) := fun last =>
      (rooted.resolve_eq_found_iff relative).mpr ⟨rfl, there, room.fits⟩
    refine ⟨d, .old ?_ ?_, .refl isDir⟩
    · exact makeDirectory_of_found (found false)
    · exact isDirectory_of_found (found true)
  · have vacant := rooted.resolve_of_vacant room inDir (room.kindAt?_eq_none isDir) false
    obtain ⟨-, kinds, -⟩ := rooted.set_vacant relative (.dir []) vacant (fun _ _ => rfl) (by simp)
      Tree.ordered_empty
    refine ⟨d.set (p ++ front ++ [name]) (.dir []), .new ?_, ?_, fun js other => ?_⟩
    · exact makeDirectory_eq_ok_iff.mpr ⟨_, _, vacant, rfl⟩
    · rw [kinds, if_pos rfl]
      rfl
    · rw [kinds, if_neg]
      rintro rfl
      exact other (List.prefix_refl _)

/-- Below a missing directory for which there is room, none can be made at once. -/
theorem Rooted.makeDirectory_of_missing (room : d.Room root p front)
    (missing : d.kindAt? (p ++ front) ≠ some .dir) (taken : root.Taken (front ++ name :: rest)) :
    d.makeDirectory (root.below (front ++ name :: rest)) = .error .noSuchEntry :=
  makeDirectory_of_fault (rooted.resolve_of_missing room missing taken false)

/-- The root is there, so what is missing has a name. -/
theorem Rooted.ne_nil_of_missing (missing : d.kindAt? (p ++ front) ≠ some .dir) : front ≠ [] := by
  rintro rfl
  rw [List.append_nil] at missing
  exact missing rooted.kindAt?_place

/-- All the directories that lead to a place with room can be made, and nothing else is. -/
theorem Rooted.exists_makeDirectoriesWith (room : d.Room root p names) (nonempty : names ≠ [])
    {above : Nat} (enough : names.length ≤ above) :
    ∃ d', makeDirectoriesWith above d (root.below names) = (none, d') ∧
      d.Paved (p ++ names) d' := by
  induction above generalizing names with
  | zero => exact absurd (List.length_eq_zero_iff.mp (Nat.le_zero.mp enough)) nonempty
  | succ above ih =>
      obtain ⟨front, name, rfl⟩ := (List.eq_nil_or_concat' names).resolve_left nonempty
      have relative := room.relative (by simp)
      have ne := rooted.bytes_below_ne_nil (front ++ [name])
      by_cases inDir : d.kindAt? (p ++ front) = some .dir
      · obtain ⟨d', made, paved⟩ := rooted.exists_made room inDir
        exact ⟨d', made.makeDirectoriesWith ne _, paved⟩
      · -- The directory above is missing; it is made first.
        have frontNe := rooted.ne_nil_of_missing inDir
        obtain ⟨relative', up⟩ := HostPath.parent_below_concat rooted.bytes_ne_nil relative frontNe
        have room' := room.of_isPrefix (List.prefix_append front [name])
        rw [List.length_append, List.length_singleton] at enough
        obtain ⟨e, climbed, paved'⟩ := ih room' frontNe (Nat.le_of_succ_le_succ enough)
        obtain ⟨rooted', leaves⟩ := rooted.of_makeDirectoriesWith relative' climbed
        obtain ⟨d', made, paved⟩ := rooted'.exists_made (room.of_leaves leaves) paved'.isDir
        have missing := rooted.makeDirectory_of_missing room' inDir room.taken
        rw [← up] at climbed
        exact ⟨d', made.makeDirectoriesWith_of_missing ne missing climbed,
          paved'.trans paved (by simp)⟩

/-- Where a name is too long, all the directories before it are made. -/
theorem Rooted.exists_makeDirectoriesWith_of_long (room : d.Room root p front)
    (missing : d.kindAt? (p ++ front) ≠ some .dir) (long : HostPath.maxName < name.length)
    (taken : root.Taken (front ++ name :: rest)) {above : Nat}
    (enough : (front ++ name :: rest).length ≤ above) :
    ∃ fault d', makeDirectoriesWith above d (root.below (front ++ name :: rest)) = (some fault, d') ∧
      d.Paved (p ++ front) d' := by
  induction rest using List.reverseRecOn generalizing above with
  | nil =>
      obtain ⟨above, rfl⟩ : ∃ k, above = k + 1 :=
        Nat.exists_eq_add_one_of_ne_zero (by rintro rfl; simp at enough)
      have frontNe := rooted.ne_nil_of_missing missing
      obtain ⟨relative', up⟩ :=
        HostPath.parent_below_concat rooted.bytes_ne_nil (taken.relative (by simp)) frontNe
      rw [List.length_append, List.length_singleton] at enough
      obtain ⟨e, climbed, paved⟩ :=
        rooted.exists_makeDirectoriesWith room frontNe (Nat.le_of_succ_le_succ enough)
      obtain ⟨rooted', leaves⟩ := rooted.of_makeDirectoriesWith relative' climbed
      have refused : e.makeDirectory (root.below (front ++ [name])) = .error .nameTooLong :=
        makeDirectory_of_fault
          (rooted'.resolve_long taken ((room.of_leaves leaves).along paved.isDir) long false)
      rw [← up] at climbed
      exact ⟨.nameTooLong, e, makeDirectoriesWith_of_refused (rooted.bytes_below_ne_nil _)
        (rooted.makeDirectory_of_missing room missing taken) climbed refused (by decide), paved⟩
  | append_singleton rest final ih =>
      obtain ⟨above, rfl⟩ : ∃ k, above = k + 1 :=
        Nat.exists_eq_add_one_of_ne_zero (by rintro rfl; simp at enough)
      have nested : front ++ name :: (rest ++ [final]) = (front ++ name :: rest) ++ [final] := by
        simp
      have refused := rooted.makeDirectory_of_missing room missing taken
      have ne := rooted.bytes_below_ne_nil (front ++ name :: (rest ++ [final]))
      rw [nested] at taken enough ⊢
      obtain ⟨-, up⟩ :=
        HostPath.parent_below_concat rooted.bytes_ne_nil (taken.relative (by simp)) (by simp)
      rw [List.length_append, List.length_singleton] at enough
      obtain ⟨fault, d', climbed, paved⟩ :=
        ih (taken.of_isPrefix (List.prefix_append _ [final])) (Nat.le_of_succ_le_succ enough)
      rw [nested] at refused ne
      rw [← up] at climbed
      exact ⟨fault, d', makeDirectoriesWith_of_stopped ne refused climbed, paved⟩

/-- The directory in which a file is to be is made, with all that lead there. -/
theorem Rooted.exists_makeDirectories (room : d.Room root p front)
    (relative : HostPath.Relative (front ++ [name])) :
    ∃ d', d.makeDirectories (root.below (front ++ [name])).parent = (none, d') ∧
      d.Paved (p ++ front) d' := by
  unfold makeDirectories
  by_cases top : front = []
  · subst top
    refine ⟨d, ?_, .refl ?_⟩
    · have up : (root.below ([] ++ [name])).parent = root.stripped :=
        HostPath.parent_below_singleton rooted.bytes_ne_nil (relative.pieces name (by simp))
      rw [up, rooted.makeDirectoriesWith_stripped]
    · rw [List.append_nil]
      exact rooted.kindAt?_place
  · obtain ⟨relative', up⟩ := HostPath.parent_below_concat rooted.bytes_ne_nil relative top
    rw [up]
    exact rooted.exists_makeDirectoriesWith room top
      (HostPath.length_le_length_below relative'.pieces root)

end Disk

end Dfs
