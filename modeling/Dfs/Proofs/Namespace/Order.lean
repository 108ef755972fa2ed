import Dfs.Proofs.Namespace
import Dfs.Proofs.SortedSet
import Dfs.Proofs.Tree.Order

/-!
Namespaces whose directories are in the order of the names. Changes keep the order, and
two such namespaces with the same at every path are equal (`Ordered.ext`).

A directory is listed with the names of the paths below it (`mem_list_iff`).
-/

namespace Dfs

namespace Namespace

variable {ns ns' : Namespace} {p d : Path} {h : Handle}

/-- The entries of every directory are in the order of their names. -/
def Ordered (ns : Namespace) : Prop := (Tree.dir ns.top).Ordered

theorem ordered_empty : empty.Ordered := Tree.ordered_empty

theorem ordered_of_file (h : Handle) (found : Option Entry) (_ : ∀ t ∈ found, Tree.Ordered t) :
    Tree.Ordered (.leaf h : Entry) :=
  .leaf h

theorem ordered_of_directory (found : Option Entry) (inner : ∀ t ∈ found, Tree.Ordered t) :
    Tree.Ordered (found.getD (.dir [])) := by
  cases found with
  | none => exact Tree.ordered_empty
  | some t => exact inner t rfl

theorem Ordered.insert (ordered : ns.Ordered) (done : ns.insert p h = .ok ns') : ns'.Ordered := by
  obtain ⟨-, placed⟩ := change_eq_ok_iff.mp done
  exact Tree.Ordered.place (ordered_of_file h) ordered placed

theorem Ordered.insertDirectory (ordered : ns.Ordered) (done : ns.insertDirectory p = .ok ns') :
    ns'.Ordered := by
  obtain ⟨-, placed⟩ := change_eq_ok_iff.mp done
  exact Tree.Ordered.place ordered_of_directory ordered placed

theorem Ordered.remove (ordered : ns.Ordered) {entry : Entry}
    (done : ns.remove p = some (entry, ns')) : ns'.Ordered := by
  obtain ⟨-, rfl⟩ := remove_eq_some_iff.mp done
  exact Tree.Ordered.remove ordered

/-- Two ordered namespaces with the same at every path are equal. -/
theorem Ordered.ext (ordered : ns.Ordered) (ordered' : ns'.Ordered)
    (same : ∀ q, ns.kindAt? q = ns'.kindAt? q) : ns = ns' := by
  have trees := Tree.Ordered.ext ordered ordered' fun names => same ⟨names⟩
  obtain ⟨top⟩ := ns
  exact congrArg Namespace.mk (Tree.dir.inj trees)

/-! ### Listings -/

theorem list_eq_ok_iff {names : List Name} : ns.list d = .ok names ↔
    ∃ es, (Tree.dir ns.top).get? d.components = some (.dir es) ∧ names = Entries.names es := by
  rw [list]
  cases root : d.isRoot with
  | true =>
      rw [if_pos rfl, Path.isRoot_iff.mp root, Tree.get?_nil]
      simp [topNames, eq_comm]
  | false =>
      rw [if_neg (by simp), lookup_of_not_isRoot root]
      rcases (Tree.dir ns.top).get? d.components with _ | (h | es) <;> simp [eq_comm]

/-- Directories are listed, and nothing else is. -/
theorem exists_list_iff : (∃ names, ns.list d = .ok names) ↔ ns.kindAt? d = some .dir := by
  simp only [list_eq_ok_iff]
  rw [kindAt?, Tree.kindAt?_eq_dir_iff]
  constructor
  · rintro ⟨names, es, there, -⟩
    exact ⟨es, there⟩
  · rintro ⟨es, there⟩
    exact ⟨_, es, there, rfl⟩

/-- The names in a directory are those of the paths below it. -/
theorem mem_list_iff {names : List Name} (listed : ns.list d = .ok names) {n : Name} :
    n ∈ names ↔ ns.kindAt? (d.child n) ≠ none := by
  obtain ⟨es, there, rfl⟩ := list_eq_ok_iff.mp listed
  rw [Entries.mem_names_iff, kindAt?, Path.child, Tree.kindAt?_append there,
    Tree.kindAt?_dir_cons]
  cases Entries.find n es <;> simp

end Namespace

end Dfs
