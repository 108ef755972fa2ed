import Dfs.Proofs.Namespace.Insertion

/-!
Removal, and what is listed of a removed entry. The stack of `Entry.listFiles` holds disjoint
parts of a tree, the last one on top, so emptying it lists the leaves of these parts from the
last to the first (`listFiles_eq_flatMap`). Leaves are in the order of their paths
(`Tree.Ordered.leaves`), so files come out in descending order.

`removal_exact` puts this together for the namespaces that insertions and removals make.
-/

namespace Dfs

namespace Tree

variable {κ α : Type} [LT κ]

/-- The leaves of an ordered tree are listed in the order of their places. -/
theorem Ordered.leaves {t : Tree κ α} (ordered : Ordered t) :
    (Tree.leaves t).Pairwise fun a b => a.1 < b.1 := by
  induction ordered with
  | leaf value => exact List.pairwise_singleton _ _
  | @dir es increasing _ ih =>
      rw [Tree.leaves, folderLeaves_eq_flatMap, List.pairwise_flatMap]
      constructor
      · intro e mem
        rw [List.pairwise_map]
        exact (ih e mem).imp fun before => List.cons_lt_cons_iff.mpr (.inr ⟨rfl, before⟩)
      · rw [Entries.Increasing, Entries.names, List.pairwise_map] at increasing
        refine increasing.imp fun {e f} before x memX y memY => ?_
        obtain ⟨l, -, rfl⟩ := List.mem_map.mp memX
        obtain ⟨m, -, rfl⟩ := List.mem_map.mp memY
        exact List.cons_lt_cons_iff.mpr (.inl before)

end Tree

/-! ### Listing files -/

namespace Entry

/-- Every name in a directory is a name, so nothing is left out. -/
theorem children_eq_map (path : Path) (entries : Tree.Folder Name Handle) :
    children path entries = entries.map fun e => (path.child e.1, e.2) := by
  have joined : (fun e : Name × Entry => (path.join e.1.text).toOption.map (·, e.2)) =
      fun e => some (path.child e.1, e.2) := by
    funext e
    simp [Path.join, Except.toOption]
  rw [← List.filterMap_eq_map', ← joined]
  rfl

/-- The files at or below an entry that sits at a path, the last one first. -/
def backwards (x : Path × Entry) : List (Path × Handle) :=
  (Tree.leaves x.2).reverse.map fun l => (⟨x.1.components ++ l.1⟩, l.2)

theorem backwards_dir (path : Path) (entries : Tree.Folder Name Handle) :
    backwards (path, .dir entries) = (children path entries).reverse.flatMap backwards := by
  have inside : ∀ e : Name × Entry, (backwards (path.child e.1, e.2)).reverse =
      ((Tree.leaves e.2).map fun l => (e.1 :: l.1, l.2)).map
        fun l => ((⟨path.components ++ l.1⟩ : Path), l.2) := by
    intro e
    simp [backwards, Path.child, List.map_reverse]
  rw [List.flatMap_reverse, children_eq_map, List.flatMap_map]
  simp only [Function.comp_def, inside]
  rw [← List.map_flatMap, ← Tree.folderLeaves_eq_flatMap, ← List.map_reverse]
  rfl

/-- A stack of entries is emptied from the top, each entry from its end. -/
theorem listFiles_eq_flatMap (pending : List (Path × Entry)) :
    listFiles pending = pending.flatMap backwards := by
  induction pending using listFiles.induct with
  | case1 => simp [listFiles]
  | case2 path owner pending ih =>
      rw [listFiles, ih, List.flatMap_cons]
      simp [backwards, Tree.leaves]
  | case3 path entries pending ih =>
      rw [listFiles, ih, List.flatMap_append, List.flatMap_cons, backwards_dir]

theorem files_eq (path : Path) (entry : Entry) : files path entry =
    (Tree.leaves entry).reverse.map fun l => (⟨path.components ++ l.1⟩, l.2) := by
  rw [files, listFiles_eq_flatMap, List.flatMap_singleton, backwards]

/-- The owners of an entry are those of the files that are listed. -/
theorem owners_eq (path : Path) (entry : Entry) :
    owners entry = .ofList ((files path entry).map Prod.snd) := by
  ext h
  simp [owners, files_eq]

theorem mem_files_iff {path q : Path} {entry : Entry} {h : Handle} (ordered : Tree.Ordered entry) :
    (q, h) ∈ files path entry ↔ ∃ names, q = ⟨path.components ++ names⟩ ∧
      entry.get? names = some (.leaf h) := by
  simp only [files_eq, List.mem_map, List.mem_reverse, Prod.exists, Prod.mk.injEq]
  constructor
  · rintro ⟨names, _, mem, rfl, rfl⟩
    exact ⟨names, rfl, (Tree.mem_leaves_iff ordered).mp mem⟩
  · rintro ⟨names, rfl, found⟩
    exact ⟨names, h, (Tree.mem_leaves_iff ordered).mpr found, rfl, rfl⟩

/-- Files are listed in descending order of their paths. -/
theorem files_descending {entry : Entry} (ordered : Tree.Ordered entry) (path : Path) :
    (files path entry).Pairwise fun a b => b.1 < a.1 := by
  rw [files_eq, List.pairwise_map, List.pairwise_reverse]
  exact ordered.leaves.imp fun before => List.append_left_lt before

end Entry

/-! ### Removal -/

namespace Namespace

variable {ns ns' : Namespace} {p q : Path} {entry : Entry}

theorem removeInPlace_of_lookup (found : ns.lookup p = some entry) :
    ns.removeInPlace p = (some entry, ⟨Tree.remove p.components ns.top⟩) := by
  rw [removeInPlace, if_neg (by simp [not_isRoot_of_lookup found]), found]

theorem removeInPlace_eq_iff : ns.removeInPlace p = (some entry, ns') ↔
    ns.remove p = some (entry, ns') := by
  rw [remove_eq_some_iff]
  constructor
  · intro done
    have found : ns.lookup p = some entry := by
      unfold removeInPlace at done
      split at done
      · cases done
      · exact congrArg Prod.fst done
    rw [removeInPlace_of_lookup found, Prod.mk.injEq] at done
    exact ⟨found, done.2.symm⟩
  · rintro ⟨found, rfl⟩
    exact removeInPlace_of_lookup found

theorem kindAt?_removeInPlace (notRoot : p.isRoot = false) (q : Path) :
    (ns.removeInPlace p).2.kindAt? q = if q.isUnder p then none else ns.kindAt? q := by
  have ne : p.components ≠ [] := by simpa [Path.isRoot] using notRoot
  have kinds := Tree.kindAt?_remove ne ns.top q.components
  rw [removeInPlace, if_neg (by simp [notRoot])]
  simp only [kindAt?, Path.isUnder_iff]
  exact kinds

theorem Ordered.removeInPlace (ordered : ns.Ordered) (p : Path) :
    (ns.removeInPlace p).2.Ordered := by
  unfold Namespace.removeInPlace
  split
  · exact ordered
  · exact Tree.Ordered.remove ordered

/-- Where nothing is found, nothing is taken, and the namespace stays as it is. -/
theorem removeInPlace_of_missing (ordered : ns.Ordered) (missing : ns.lookup p = none) :
    ns.removeInPlace p = (none, ns) := by
  cases root : p.isRoot with
  | true => rw [removeInPlace, if_pos root]
  | false =>
      have absent : ns.kindAt? p = none := by rw [← map_kind_lookup root, missing]; rfl
      have same : (ns.removeInPlace p).2 = ns := by
        refine (ordered.removeInPlace p).ext ordered fun q => ?_
        rw [kindAt?_removeInPlace root]
        split
        · next lead => exact (kindAt?_none_of_isUnder lead absent).symm
        · rfl
      have nothing : (ns.removeInPlace p).1 = none := by
        rw [removeInPlace, if_neg (by simp [root]), missing]
      exact Prod.ext nothing same

/-- A removal leaves alone what neither leads to its path nor is below it. -/
theorem lookup_removeInPlace (notBelow : q.isUnder p = false) (notAbove : p.isUnder q = false) :
    (ns.removeInPlace p).2.lookup q = ns.lookup q := by
  have below : ¬ p.components <+: q.components := by rw [← Path.isUnder_iff, notBelow]; simp
  have above : ¬ q.components <+: p.components := by rw [← Path.isUnder_iff, notAbove]; simp
  have same := Tree.get?_remove_of_apart ns.top below above
  unfold removeInPlace
  split
  · rfl
  · unfold lookup
    rw [same]

/-- The files that are listed of an entry are those at or below its path. -/
theorem mem_files_iff (ordered : ns.Ordered) (found : ns.lookup p = some entry) {h : Handle} :
    (q, h) ∈ Entry.files p entry ↔ q.isUnder p = true ∧ ns.owner q = .ok h := by
  have notRoot := not_isRoot_of_lookup found
  have there := found
  rw [lookup_of_not_isRoot notRoot] at there
  rw [Entry.mem_files_iff (ordered.get? there), owner_eq_ok_iff, Path.isUnder_iff, kindAt?,
    Tree.kindAt?_eq_leaf_iff]
  constructor
  · rintro ⟨names, rfl, file⟩
    exact ⟨List.prefix_append _ _, by rw [Tree.get?_append, there, Option.bind_some, file]⟩
  · rintro ⟨⟨names, whole⟩, file⟩
    rw [← whole, Tree.get?_append, there, Option.bind_some] at file
    exact ⟨names, Path.ext_components whole.symm, file⟩

/-! ### Namespaces that come about -/

/-- The namespaces that insertions and removals make, be it that some of them fail. -/
inductive Built : Namespace → Prop
  | empty : Built .empty
  | insert {ns : Namespace} (p : Path) (h : Handle) : Built ns → Built (ns.insertInPlace p h).2
  | insertDirectory {ns : Namespace} (p : Path) : Built ns → Built (ns.insertDirectoryInPlace p).2
  | remove {ns : Namespace} (p : Path) : Built ns → Built (ns.removeInPlace p).2

theorem Built.ordered (built : Built ns) : ns.Ordered := by
  induction built with
  | empty => exact ordered_empty
  | insert p h _ ih => exact ih.edit (ordered_of_file h) p
  | insertDirectory p _ ih => exact ih.edit ordered_of_directory p
  | remove p _ ih => exact ih.removeInPlace p

/-- At the root and where nothing is, nothing is removed and nothing changes. Otherwise the entry
that was found is taken out with all that is below it, and everything else stays, also a
directory that is empty now. Of what was taken out, exactly the files that were at or below
the path are listed with their owners, in strictly descending order of their paths. -/
theorem removal_exact (built : Built ns) (p : Path) :
    (p.isRoot = true → ns.lookup p = none) ∧
    (ns.lookup p = none → ns.removeInPlace p = (none, ns)) ∧
    ∀ entry, ns.lookup p = some entry → ∃ ns',
      ns.removeInPlace p = (some entry, ns') ∧ ns.remove p = some (entry, ns') ∧
      (∀ q, q.isUnder p = true → ns'.lookup q = none) ∧
      (∀ q, q.isUnder p = false →
        (ns'.lookup q).map Tree.kind = (ns.lookup q).map Tree.kind) ∧
      (∀ q, q.isUnder p = false → p.isUnder q = false → ns'.lookup q = ns.lookup q) ∧
      (∀ q h, (q, h) ∈ Entry.files p entry ↔ q.isUnder p = true ∧ ns.owner q = .ok h) ∧
      (Entry.files p entry).Pairwise fun a b => b.1 < a.1 := by
  have ordered := built.ordered
  refine ⟨fun root => by rw [lookup, if_pos root], removeInPlace_of_missing ordered,
    fun entry found => ?_⟩
  have notRoot := not_isRoot_of_lookup found
  have taken := removeInPlace_of_lookup found
  have kinds : ∀ q, (ns.removeInPlace p).2.kindAt? q =
      if q.isUnder p then none else ns.kindAt? q := kindAt?_removeInPlace notRoot
  have apart : ∀ q, q.isUnder p = false → p.isUnder q = false →
      (ns.removeInPlace p).2.lookup q = ns.lookup q := fun _ => lookup_removeInPlace
  rw [taken] at kinds apart
  refine ⟨_, taken, removeInPlace_eq_iff.mp taken, fun q below => ?_, fun q notBelow => ?_, apart,
    fun q h => mem_files_iff ordered found, ?_⟩
  · have absent := kinds q
    rw [if_pos below] at absent
    have notRootQ := isRoot_eq_false absent (by simp)
    rw [lookup_of_not_isRoot notRootQ]
    exact Tree.kindAt?_eq_none_iff.mp absent
  · cases root : q.isRoot with
    | true => simp [lookup, root]
    | false => rw [map_kind_lookup root, map_kind_lookup root, kinds, if_neg (by simp [notBelow])]
  · rw [lookup_of_not_isRoot notRoot] at found
    exact Entry.files_descending (ordered.get? found) p

/-- With its only entry `/d/s` removed, `/d` stays as a directory. -/
theorem removal_exact_nested :
    let d : Path := ⟨[⟨"d", by decide⟩]⟩
    let s : Path := d.child ⟨"s", by decide⟩
    let a : Path := s.child ⟨"a", by decide⟩
    let b : Path := s.child ⟨"b", by decide⟩
    let node : Handle := ⟨.loopback 7000, .loopback 7001⟩
    ∃ ns entry ns', Built ns ∧ ns.lookup s = some entry ∧ ns.removeInPlace s = (some entry, ns') ∧
      ns'.lookup b = none ∧ (ns'.lookup d).map Tree.kind = some .dir ∧
      (a, node) ∈ Entry.files s entry ∧ (b, node) ∈ Entry.files s entry ∧
      (Entry.files s entry).Pairwise fun x y => y.1 < x.1 := by
  intro d s a b node
  have built : Built ((Namespace.empty.insertInPlace a node).2.insertInPlace b node).2 :=
    .insert b node (.insert a node .empty)
  obtain ⟨-, -, whole⟩ := removal_exact built s
  obtain ⟨ns', taken, -, gone, kinds, -, listed, descending⟩ := whole _ rfl
  refine ⟨_, _, ns', built, rfl, taken, gone b rfl, ?_, (listed a node).mpr ⟨rfl, rfl⟩,
    (listed b node).mpr ⟨rfl, rfl⟩, descending⟩
  rw [kinds d rfl]
  rfl

end Namespace

end Dfs
