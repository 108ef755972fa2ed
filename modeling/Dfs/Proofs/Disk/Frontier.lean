import Dfs.Proofs.Disk.Changes

/-!
How far directories go along names, and what ends them there (`frontier`): nothing, a file,
or a name that is too long. A host path below a root comes that far, and what it comes to
decides what the host answers.
-/

namespace Dfs

/-! ### Names that can be asked for -/

/-- Names below a root of which a host takes the path. It may still refuse a name that is too
long when it comes to it. -/
structure HostPath.Taken (root : HostPath) (names : Place) : Prop where
  pieces : ∀ name ∈ names, HostName.IsPiece name
  noDots : Disk.NoDots names
  noNul : ∀ name ∈ names, 0 ∉ name
  fits : root.Fits names

namespace HostPath.Taken

variable {root : HostPath} {names front : Place}

theorem relative (taken : root.Taken names) (nonempty : names ≠ []) : HostPath.Relative names where
  nonempty := nonempty
  pieces := taken.pieces
  noDots := taken.noDots

theorem of_isPrefix (taken : root.Taken names) (lead : front <+: names) : root.Taken front where
  pieces := fun name mem => taken.pieces name (lead.subset mem)
  noDots := fun name mem => taken.noDots name (lead.subset mem)
  noNul := fun name mem => taken.noNul name (lead.subset mem)
  fits := taken.fits.of_isPrefix lead

theorem isValid (taken : root.Taken names) (short : ∀ name ∈ names, name.length ≤ HostPath.maxName)
    (name : HostName) (mem : name ∈ names) : HostName.IsValid name where
  toIsPiece := taken.pieces name mem
  noNul := taken.noNul name mem
  notDot := (taken.noDots name mem).1
  notDotDot := (taken.noDots name mem).2
  short := short name mem

end HostPath.Taken

theorem Path.taken_of_toHost {p : Path} {root h : HostPath} (mapped : p.toHost root = .ok h)
    (checked : h.check = .ok ()) : root.Taken p.place := by
  obtain ⟨noDots, rfl⟩ := toHost_eq_ok_iff.mp mapped
  obtain ⟨noNul, -, fits⟩ := HostPath.check_eq_ok_iff.mp checked
  rw [HostPath.mem_below_iff (by decide)] at noNul
  exact ⟨fun name mem => isPiece_of_mem_place mem, noDots,
    fun name mem nul => noNul (.inr ⟨name, mem, nul⟩), fits⟩

namespace Disk

variable {d : Disk} {root : HostPath} {p here : Place} {names front rest : List HostName}
  {name : HostName} {last : Bool}

/-- From the place, directories go along the names. -/
structure Along (d : Disk) (here : Place) (names : List HostName) : Prop where
  isDir : d.kindAt? (here ++ names) = some .dir
  short : ∀ name ∈ names, name.length ≤ HostPath.maxName

namespace Along

theorem nil (isDir : d.kindAt? here = some .dir) : d.Along here [] where
  isDir := by rwa [List.append_nil]
  short := by simp

theorem cons (along : d.Along (here ++ [name]) names) (short : name.length ≤ HostPath.maxName) :
    d.Along here (name :: names) where
  isDir := by simpa using along.isDir
  short := by
    intro n mem
    rcases List.mem_cons.mp mem with rfl | mem
    · exact short
    · exact along.short n mem

theorem of_isPrefix (along : d.Along here names) (lead : front <+: names) : d.Along here front where
  isDir := by
    by_cases same : front = names
    · rw [same]
      exact along.isDir
    · refine kindAt?_of_isPrefix ((List.prefix_append_right_inj here).mpr lead) (by simpa) ?_
      simp [along.isDir]
  short := fun name mem => along.short name (lead.subset mem)

/-- A walk comes to the end of the directories. -/
theorem walk (along : d.Along here front) (free : d.NoLinks here) (noDots : NoDots front)
    (last : Bool) (rest : List HostName) :
    d.walk last here (front ++ rest) = d.walk last (here ++ front) rest := by
  obtain ⟨entries, there⟩ := kindAt?_eq_dir_iff.mp along.isDir
  exact walk_append_of_found ((walk_eq_found_iff free noDots).mpr ⟨rfl, there, along.short⟩) last rest

/-- No file is on the way to where nothing is. -/
theorem leafAt?_of_absent (along : d.Along here front)
    (absent : d.kindAt? (here ++ (front ++ [name])) = none) {xs : List HostName}
    (lead : xs <+: front ++ name :: rest) : d.leafAt? (here ++ xs) = none := by
  unfold leafAt?
  rcases List.prefix_or_prefix_of_prefix lead (List.prefix_append front _) with
    before | ⟨further, rfl⟩
  · rw [(along.of_isPrefix before).isDir]
    rfl
  · rw [List.prefix_append_right_inj] at lead
    cases further with
    | nil =>
        rw [List.append_nil, along.isDir]
        rfl
    | cons n further =>
        obtain ⟨rfl, -⟩ := List.cons_prefix_cons.mp lead
        have below : here ++ (front ++ [n]) <+: here ++ (front ++ n :: further) := by simp
        rw [ kindAt?_none_of_isPrefix below absent]
        rfl

end Along

/-- What ends the directories along names. -/
inductive Frontier (d : Disk) (here : Place) (names : List HostName) : Prop where
  | whole : d.Along here names → Frontier d here names
  | absent (front : List HostName) (name : HostName) (rest : List HostName) :
      names = front ++ name :: rest → d.Along here front → name.length ≤ HostPath.maxName →
      d.kindAt? (here ++ (front ++ [name])) = none → Frontier d here names
  | leaf (front : List HostName) (name : HostName) (rest : List HostName) (item : DiskItem) :
      names = front ++ name :: rest → d.Along here front → name.length ≤ HostPath.maxName →
      d.kindAt? (here ++ (front ++ [name])) = some (.leaf item) → Frontier d here names
  | long (front : List HostName) (name : HostName) (rest : List HostName) :
      names = front ++ name :: rest → d.Along here front → HostPath.maxName < name.length →
      Frontier d here names

theorem frontier (isDir : d.kindAt? here = some .dir) (names : List HostName) :
    d.Frontier here names := by
  induction names generalizing here with
  | nil => exact .whole (.nil isDir)
  | cons first names ih =>
      by_cases long : HostPath.maxName < first.length
      · exact .long [] first names rfl (.nil isDir) long
      have short := Nat.le_of_not_lt long
      cases there : d.kindAt? (here ++ [first]) with
      | none => exact .absent [] first names rfl (.nil isDir) short there
      | some kind =>
          cases kind with
          | leaf item => exact .leaf [] first names item rfl (.nil isDir) short there
          | dir =>
              cases ih there with
              | whole along => exact .whole (along.cons short)
              | absent front name rest same along short' absent =>
                  exact .absent (first :: front) name rest (by simp [same]) (along.cons short)
                    short' (by simpa using absent)
              | leaf front name rest item same along short' leaf =>
                  exact .leaf (first :: front) name rest item (by simp [same]) (along.cons short)
                    short' (by simpa using leaf)
              | long front name rest same along long' =>
                  exact .long (first :: front) name rest (by simp [same]) (along.cons short) long'

/-! ### Host paths that come to the frontier -/

section Paths

variable (rooted : d.Rooted root p) (taken : root.Taken (front ++ name :: rest))
  (along : d.Along p front)

include rooted taken along

/-- The rest of the names is looked up from the end of the directories. -/
theorem Rooted.resolve_along (last : Bool) : ∃ links,
    d.resolve last (root.below (front ++ name :: rest)) =
      d.follow last links (p ++ front) (name :: rest) ∧
    d.walk last (p ++ front) (name :: rest) =
      if name.length > HostPath.maxName then .error .nameTooLong
      else match d.get? (p ++ (front ++ [name])) with
        | none => if rest = [] then .ok (.vacant (p ++ front) name) else .error .noSuchEntry
        | some (.dir _) => d.walk last (p ++ front ++ [name]) rest
        | some (.leaf item) =>
          if rest = [] then .ok (.found (p ++ front ++ [name]) (.leaf item))
          else .error .notDirectory := by
  obtain ⟨links, resolved⟩ := rooted.resolve_below (taken.relative (by simp)) last
  rw [rooted.check_below taken.noNul taken.fits] at resolved
  refine ⟨links, resolved.trans (follow_congr ?_ links), ?_⟩
  · exact along.walk rooted.noLinks
      (fun n mem => taken.noDots n (List.mem_append_left _ mem)) last _
  · rw [← List.append_assoc]
    exact walk_cons (rooted.noLinks.append front) fun n mem =>
      taken.noDots n (List.mem_append_right _ mem)

theorem Rooted.resolve_absent (short : name.length ≤ HostPath.maxName)
    (absent : d.kindAt? (p ++ (front ++ [name])) = none) (last : Bool) :
    d.resolve last (root.below (front ++ name :: rest)) =
      if rest = [] then .ok (.vacant (p ++ front) name) else .error .noSuchEntry := by
  obtain ⟨links, resolved, walked⟩ := rooted.resolve_along taken along last
  rw [if_neg (Nat.not_lt.mpr short), get?_eq_none_iff.mpr absent] at walked
  rw [resolved]
  dsimp only at walked
  by_cases only : rest = []
  · rw [if_pos only] at walked ⊢
    exact follow_of_vacant walked
  · rw [if_neg only] at walked ⊢
    exact follow_of_fault walked

theorem Rooted.misses_of_absent (short : name.length ≤ HostPath.maxName)
    (absent : d.kindAt? (p ++ (front ++ [name])) = none) (last : Bool) :
    d.Misses last (root.below (front ++ name :: rest)) := by
  have resolved := rooted.resolve_absent taken along short absent last
  by_cases only : rest = []
  · rw [if_pos only] at resolved
    exact .inr ⟨_, _, resolved⟩
  · rw [if_neg only] at resolved
    exact .inl resolved

theorem Rooted.resolve_leaf {item : DiskItem} (short : name.length ≤ HostPath.maxName)
    (leaf : d.kindAt? (p ++ (front ++ [name])) = some (.leaf item)) (last : Bool) :
    d.resolve last (root.below (front ++ name :: rest)) =
      if rest = [] then .ok (.found (p ++ (front ++ [name])) (.leaf item))
      else .error .notDirectory := by
  obtain ⟨links, resolved, walked⟩ := rooted.resolve_along taken along last
  rw [if_neg (Nat.not_lt.mpr short), kindAt?_eq_leaf_iff.mp leaf, List.append_assoc] at walked
  dsimp only at walked
  rw [resolved]
  by_cases only : rest = []
  · rw [if_pos only] at walked ⊢
    exact follow_of_found walked
  · rw [if_neg only] at walked ⊢
    exact follow_of_fault walked

theorem Rooted.resolve_long (long : HostPath.maxName < name.length) (last : Bool) :
    d.resolve last (root.below (front ++ name :: rest)) = .error .nameTooLong := by
  obtain ⟨links, resolved, walked⟩ := rooted.resolve_along taken along last
  rw [if_pos long] at walked
  rw [resolved]
  exact follow_of_fault walked

end Paths

end Disk

end Dfs
