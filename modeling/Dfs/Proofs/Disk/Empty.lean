import Dfs.Proofs.Disk.Room

/-!
Where empty directories are (`emptyAt_iff`, `exists_emptyAt`), and what is missing in a
directory: the host says so of a file exactly if its path can be asked for and nothing is
there (`Rooted.removeFile_missing_iff`).
-/

namespace Dfs

/-- In a tree without leaves some directory is empty. -/
theorem Tree.exists_empty {κ α : Type} [DecidableEq κ] {t : Tree κ α}
    (noLeaf : ∀ ys value, t.kindAt? ys ≠ some (.leaf value)) :
    ∃ ys, t.get? ys = some (.dir []) := by
  induction size : t.count using Nat.strong_induction_on generalizing t with
  | h n ih =>
      match t with
      | .leaf value => exact absurd rfl (noLeaf [] value)
      | .dir [] => exact ⟨[], rfl⟩
      | .dir ((k, u) :: es) =>
          have first : ∀ ys, (Tree.dir ((k, u) :: es)).get? (k :: ys) = u.get? ys := by
            intro ys
            rw [get?_dir_cons, Entries.find, if_pos rfl, Option.bind_some]
          have smaller : u.count < n := by
            rw [← size, count, folderCount]
            omega
          have noLeaf' : ∀ ys value, u.kindAt? ys ≠ some (.leaf value) := by
            intro ys value leaf
            apply noLeaf (k :: ys) value
            rw [kindAt?, first]
            exact leaf
          obtain ⟨ys, empty⟩ := ih u.count smaller noLeaf' rfl
          exact ⟨k :: ys, (first ys).trans empty⟩

namespace Disk

variable {d : Disk} {js p : Place} {root : HostPath} {names front : List HostName}
  {name : HostName}

theorem emptyAt_iff :
    d.EmptyAt js ↔ d.kindAt? js = some .dir ∧ ∀ name, d.kindAt? (js ++ [name]) = none := by
  constructor
  · intro empty
    refine ⟨empty.kindAt?_eq_dir, fun name => empty.kindAt?_inside ⟨?_, by simp⟩⟩
    exact List.prefix_append js [name]
  · rintro ⟨isDir, bare⟩
    obtain ⟨entries, there⟩ := kindAt?_eq_dir_iff.mp isDir
    cases entries with
    | nil => exact there
    | cons e es =>
        have inner : d.kindAt? (js ++ [e.1]) = (Tree.dir (e :: es)).kindAt? [e.1] :=
          Tree.kindAt?_append there
        rw [bare, Tree.kindAt?_dir_cons, Entries.find, if_pos rfl] at inner
        cases inner

/-- A directory without files below it has an empty one at or below it. -/
theorem exists_emptyAt (isDir : d.kindAt? js = some .dir)
    (noLeaf : ∀ ys item, d.kindAt? (js ++ ys) ≠ some (.leaf item)) :
    ∃ ys, d.EmptyAt (js ++ ys) := by
  obtain ⟨entries, there⟩ := kindAt?_eq_dir_iff.mp isDir
  obtain ⟨ys, empty⟩ := Tree.exists_empty (t := .dir entries) fun ys item leaf =>
    noLeaf ys item ((Tree.kindAt?_append there).trans leaf)
  refine ⟨ys, ?_⟩
  unfold EmptyAt
  rw [get?_append, there]
  exact empty

/-! ### What is missing -/

theorem isMissing_of_walk_error (free : d.NoLinks p) (noDots : NoDots [name]) {last : Bool}
    {fault : Fault} (failed : d.walk last p [name] = .error fault) : fault.isMissing = false := by
  rw [walk_cons free noDots] at failed
  split at failed
  · cases failed
    rfl
  split at failed
  · cases failed
  · next there =>
      rw [walk_nil, there] at failed
      cases failed
  · cases failed

/-- The host takes a path that leads somewhere. -/
theorem fits_of_resolve {last : Bool} {spot : Spot}
    (resolved : d.resolve last (root.below names) = .ok spot) : root.Fits names :=
  (HostPath.check_eq_ok_iff.mp (resolve_eq_ok_iff.mp resolved).1).2.2

section Missing

variable (rooted : d.Rooted root p)

include rooted

/-- In a directory that is there, no path is refused as missing. -/
theorem Rooted.isMissing_of_resolve_error (relative : HostPath.Relative (front ++ [name]))
    (inDir : d.kindAt? (p ++ front) = some .dir) {last : Bool} {fault : Fault}
    (failed : d.resolve last (root.below (front ++ [name])) = .error fault) :
    fault.isMissing = false := by
  obtain ⟨links, resolved⟩ := rooted.resolve_below relative last
  rw [resolved] at failed
  split at failed
  · next checked =>
      obtain rfl := Except.error.inj failed
      exact HostPath.isMissing_of_check (rooted.bytes_below_ne_nil _) checked
  · obtain ⟨entries, there⟩ := kindAt?_eq_dir_iff.mp inDir
    have noDots : NoDots front := fun n mem => relative.noDots n (by simp [mem])
    have valid := rooted.valid front (by simp [inDir])
    have before : d.walk true p front = .ok (.found (p ++ front) (.dir entries)) :=
      (walk_eq_found_iff rooted.noLinks noDots).mpr ⟨rfl, there, fun n mem => (valid n mem).short⟩
    rw [follow_eq_error_iff rooted.noLinks relative.noDots, walk_append_of_found before] at failed
    exact isMissing_of_walk_error (rooted.noLinks.append front)
      (fun n mem => relative.noDots n (List.mem_append_right _ mem)) failed

/-- In a directory that is there, a file is missing exactly if nothing is in its place and
its path can be asked for. -/
theorem Rooted.removeFile_missing_iff (relative : HostPath.Relative (front ++ [name]))
    (inDir : d.kindAt? (p ++ front) = some .dir) :
    (∃ fault, d.removeFile (root.below (front ++ [name])) = .error fault ∧ fault.isMissing = true) ↔
      root.Fits (front ++ [name]) ∧ (∀ n ∈ front ++ [name], HostName.IsValid n) ∧
        d.kindAt? (p ++ (front ++ [name])) = none := by
  constructor
  · rintro ⟨fault, failed, missing⟩
    unfold removeFile at failed
    split at failed
    · next fault' resolved =>
        cases failed
        rw [rooted.isMissing_of_resolve_error relative inDir resolved] at missing
        cases missing
    · next dir name' vacant =>
        obtain ⟨-, -, -, absent, valid⟩ := rooted.exists_of_resolve_vacant relative vacant
        exact ⟨fits_of_resolve vacant, valid, absent⟩
    · cases failed
      cases missing
    · cases failed
  · rintro ⟨fits, valid, absent⟩
    have clear : ∀ xs, xs <+: front ++ [name] → d.leafAt? (p ++ xs) = none := by
      intro xs lead
      rcases List.prefix_concat_iff.mp lead with rfl | lead
      · simp [leafAt?, absent]
      · have isDir : d.kindAt? (p ++ xs) = some .dir := by
          by_cases same : xs = front
          · rw [same, inDir]
          · have further : p ++ xs <+: p ++ front := by simpa using lead
            exact kindAt?_of_isPrefix further (by simpa using same) (by simp [inDir])
        simp [leafAt?, isDir, Kind.value?]
    have room : d.Room root p (front ++ [name]) := ⟨valid, fits, clear⟩
    refine ⟨.noSuchEntry, ?_, rfl⟩
    unfold removeFile
    rw [rooted.resolve_of_vacant room inDir absent]

end Missing

end Disk

end Dfs
