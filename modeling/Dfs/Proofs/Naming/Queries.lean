import Dfs.Proofs.Naming.Coherence

/-!
The answers to queries belong together. Each query answers from what is at its path, so
nothing, a file and a directory each have answers of their own (`answers`), and no other
combination of answers is ever given.

`queries_consistent`: together the queries describe one tree.
-/

namespace Dfs.Registry

variable {reg : Registry} {p q d : Path} {h : Handle}

/-- The answers where nothing is. -/
structure Absent (reg : Registry) (p : Path) : Prop where
  contains : reg.contains p = false
  isDirectory : reg.isDirectory p = .error (.notFound p.text)
  list : reg.list p = .error (.notFound p.text)
  storage : reg.getStorage p = .error (.notFound p.text)

/-- The answers where a file is. -/
structure HasFile (reg : Registry) (p : Path) : Prop where
  contains : reg.contains p = true
  isDirectory : reg.isDirectory p = .ok false
  list : reg.list p = .error (.notFound s!"{p} is a file")
  storage : ∃ h, reg.owner p = .ok h ∧ reg.getStorage p = .ok h.storage

/-- The answers where a directory is. -/
structure HasDirectory (reg : Registry) (p : Path) : Prop where
  contains : reg.contains p = true
  isDirectory : reg.isDirectory p = .ok true
  list : ∃ names, reg.list p = .ok names
  /-- The root has no entry, so it is not even known as a directory here. -/
  storage : reg.getStorage p =
    .error (.notFound (if p.isRoot then p.text else s!"{p} is a directory"))

theorem absent_of_kind (absent : reg.names.kindAt? p = none) : reg.Absent p := by
  have notRoot := Namespace.isRoot_eq_false absent (by simp)
  have missing : reg.names.lookup p = none := by
    rwa [← Namespace.map_kind_lookup notRoot, Option.map_eq_none_iff] at absent
  exact
    { contains := contains_eq_false_iff.mpr absent
      isDirectory := by
        simp only [isDirectory, Namespace.isDirectory, notRoot, missing]
        rfl
      list := by
        simp only [list, Namespace.list, notRoot, missing]
        rfl
      storage := by
        simp only [getStorage, owner, Namespace.owner, missing]
        rfl }

theorem hasFile_of_kind (file : reg.names.kindAt? p = some (.leaf h)) : reg.HasFile p := by
  have notRoot := Namespace.isRoot_eq_false file (by simp)
  have found : reg.names.lookup p = some (.leaf h) := by
    rw [← Namespace.map_kind_lookup notRoot, Option.map_eq_some_iff] at file
    obtain ⟨entry, found, kind⟩ := file
    rw [found, Tree.kind_eq_leaf_iff.mp kind]
  have owned : reg.owner p = .ok h := owner_eq_ok_iff.mpr file
  exact
    { contains := Namespace.contains_iff.mpr (by simp [file])
      isDirectory := isDirectory_of_leaf file
      list := by
        simp only [list, Namespace.list, notRoot, found]
        rfl
      storage := ⟨h, owned, by rw [getStorage, owned]; rfl⟩ }

theorem hasDirectory_of_kind (dir : reg.names.kindAt? p = some .dir) : reg.HasDirectory p := by
  obtain ⟨names, listed⟩ := Namespace.exists_list_iff.mpr dir
  refine ⟨Namespace.contains_iff.mpr (by simp [dir]), isDirectory_of_dir dir,
    ⟨_, by rw [list, listed]⟩, ?_⟩
  cases root : p.isRoot with
  | true =>
      simp only [getStorage, owner, Namespace.owner, Namespace.lookup, root]
      rfl
  | false =>
      rw [← Namespace.map_kind_lookup root, Option.map_eq_some_iff] at dir
      obtain ⟨entry, found, kind⟩ := dir
      obtain ⟨es, rfl⟩ := Tree.kind_eq_dir_iff.mp kind
      simp only [getStorage, owner, Namespace.owner, found]
      rfl

theorem answers (reg : Registry) (p : Path) :
    reg.Absent p ∨ reg.HasFile p ∨ reg.HasDirectory p := by
  cases kind : reg.names.kindAt? p with
  | none => exact .inl (absent_of_kind kind)
  | some kind' =>
      cases kind' with
      | leaf h => exact .inr (.inl (hasFile_of_kind kind))
      | dir => exact .inr (.inr (hasDirectory_of_kind kind))

theorem HasFile.not_absent (file : reg.HasFile p) : ¬ reg.Absent p := fun absent => by
  have present := file.contains
  rw [absent.contains] at present
  cases present

theorem HasDirectory.not_absent (dir : reg.HasDirectory p) : ¬ reg.Absent p := fun absent => by
  have present := dir.contains
  rw [absent.contains] at present
  cases present

theorem HasDirectory.not_hasFile (dir : reg.HasDirectory p) : ¬ reg.HasFile p := fun file => by
  have same := dir.isDirectory
  rw [file.isDirectory] at same
  cases same

/-- Whatever leads to something is a directory. -/
theorem hasDirectory_of_isUnder (there : reg.contains p = true) (lead : p.isUnder q = true)
    (other : q ≠ p) : reg.HasDirectory q :=
  hasDirectory_of_kind (Namespace.kindAt?_of_isUnder lead other (Namespace.contains_iff.mp there))

/-- Every registry answers each query as if from one tree. At a path is nothing, a file or a
directory, and never two of these. What leads to something that exists is a directory, and a
directory lists the names of what exists in it. -/
theorem queries_consistent (reg : Registry) :
    (∀ p, (reg.Absent p ∨ reg.HasFile p ∨ reg.HasDirectory p) ∧
      ¬ (reg.Absent p ∧ reg.HasFile p) ∧ ¬ (reg.Absent p ∧ reg.HasDirectory p) ∧
      ¬ (reg.HasFile p ∧ reg.HasDirectory p)) ∧
    (∀ p q, reg.contains p = true → p.isUnder q = true → q ≠ p → reg.HasDirectory q) ∧
    ∀ d, reg.HasDirectory d → ∃ names, reg.list d = .ok names ∧
      ∀ text, text ∈ names ↔ ∃ q, d.join text = .ok q ∧ reg.contains q = true := by
  refine ⟨fun p => ⟨reg.answers p, ?_, ?_, ?_⟩, fun p q => hasDirectory_of_isUnder, fun d dir => ?_⟩
  · rintro ⟨absent, file⟩
    exact file.not_absent absent
  · rintro ⟨absent, dir⟩
    exact dir.not_absent absent
  · rintro ⟨file, dir⟩
    exact dir.not_hasFile file
  · obtain ⟨names, listed⟩ := dir.list
    exact ⟨names, listed, fun text => mem_list_iff listed⟩

end Dfs.Registry
