import Dfs.Namespace
import Dfs.Proofs.Path
import Dfs.Proofs.Tree

/-!
The namespace seen from its paths. At a path there is a directory, a file with its
owner, or nothing; the root is a directory.

`conflicts_iff` says which paths cannot be added as files, and `kindAt?_insert`,
`kindAt?_insertDirectory` and `kindAt?_remove` what an operation leaves at every path.
-/

namespace Dfs

namespace Namespace

variable {ns ns' : Namespace} {p q : Path} {h : Handle}

/-- What is at a path: a directory, a file with its owner, or nothing. -/
def kindAt? (ns : Namespace) (p : Path) : Option (Kind Handle) :=
  (Tree.dir ns.top).kindAt? p.components

theorem kindAt?_of_isRoot (root : p.isRoot = true) : ns.kindAt? p = some .dir := by
  simp [kindAt?, Path.isRoot_iff.mp root]

/-- What is no directory is not the root. -/
theorem isRoot_eq_false {kind : Option (Kind Handle)} (found : ns.kindAt? p = kind)
    (other : kind ≠ some .dir) : p.isRoot = false := by
  by_contra root
  rw [kindAt?_of_isRoot (by simpa using root)] at found
  exact other found.symm

theorem kindAt?_empty (notRoot : p.isRoot = false) : Namespace.empty.kindAt? p = none := by
  obtain ⟨names⟩ := p
  cases names with
  | nil => simp [Path.isRoot] at notRoot
  | cons n names => rfl

/-- Nothing is owned at first. -/
theorem kindAt?_empty_ne_leaf (p : Path) (h : Handle) : Namespace.empty.kindAt? p ≠ some (.leaf h) := by
  cases root : p.isRoot with
  | true => simp [kindAt?_of_isRoot root]
  | false => simp [kindAt?_empty root]

/-- Whatever leads to something is a directory. -/
theorem kindAt?_of_isUnder (lead : p.isUnder q = true) (proper : q ≠ p)
    (there : ns.kindAt? p ≠ none) : ns.kindAt? q = some .dir :=
  Tree.kindAt?_of_isPrefix (Path.isUnder_iff.mp lead) (fun e => proper (Path.ext_components e))
    there

/-- Nothing is below a path where nothing is. -/
theorem kindAt?_none_of_isUnder (lead : p.isUnder q = true) (absent : ns.kindAt? q = none) :
    ns.kindAt? p = none :=
  Tree.kindAt?_none_of_isPrefix (Path.isUnder_iff.mp lead) absent

/-- Whatever was in the namespace is still there. -/
def Kept (ns ns' : Namespace) : Prop :=
  ∀ p kind, ns.kindAt? p = some kind → ns'.kindAt? p = some kind

theorem Kept.refl (ns : Namespace) : ns.Kept ns := fun _ _ there => there

/-! ### Queries -/

theorem lookup_of_not_isRoot (notRoot : p.isRoot = false) :
    ns.lookup p = (Tree.dir ns.top).get? p.components := by
  simp [lookup, notRoot]

theorem map_kind_lookup (notRoot : p.isRoot = false) :
    (ns.lookup p).map Tree.kind = ns.kindAt? p := by
  rw [lookup_of_not_isRoot notRoot, kindAt?, Tree.kindAt?]

theorem contains_iff : ns.contains p = true ↔ ns.kindAt? p ≠ none := by
  cases root : p.isRoot with
  | true => simp [contains, root, kindAt?_of_isRoot root]
  | false =>
      rw [← map_kind_lookup root]
      simp [contains, root, Option.isSome_iff_ne_none]

theorem owner_eq_ok_iff : ns.owner p = .ok h ↔ ns.kindAt? p = some (.leaf h) := by
  cases root : p.isRoot with
  | true => simp [owner, lookup, root, kindAt?_of_isRoot root]
  | false =>
      rw [← map_kind_lookup root, owner]
      rcases ns.lookup p with _ | (h' | es) <;> simp

theorem isDirectory_eq_true_iff : ns.isDirectory p = .ok true ↔ ns.kindAt? p = some .dir := by
  cases root : p.isRoot with
  | true => simp [isDirectory, root, kindAt?_of_isRoot root]
  | false =>
      rw [← map_kind_lookup root, isDirectory, root]
      rcases ns.lookup p with _ | (h' | es) <;> simp [Tree.isDir]

/-! ### Conflicts -/

theorem meets_iff (names : List Name) (es : Tree.Folder Name Handle) :
    meets names es = true ↔ (Tree.dir es).kindAt? names ≠ none ∨
      ∃ front, front <+: names ∧ front ≠ names ∧
        ∃ h, (Tree.dir es).kindAt? front = some (.leaf h) := by
  induction names generalizing es with
  | nil => simp [meets]
  | cons n names ih =>
      rw [meets, Tree.kindAt?_dir_cons]
      cases found : Entries.find n es with
      | none =>
          simp only [Option.bind_none, ne_eq, not_true_eq_false, false_or, Bool.false_eq_true,
            false_iff]
          rintro ⟨front, lead, -, h, file⟩
          rcases List.prefix_cons_iff.mp lead with rfl | ⟨rest, rfl, -⟩
          · simp at file
          · simp [Tree.kindAt?_dir_cons, found] at file
      | some t =>
          cases t with
          | leaf h =>
              simp only [true_iff, Option.bind_some]
              cases names with
              | nil => simp
              | cons m names =>
                  exact .inr ⟨[n], by simp, by simp, h, by simp [Tree.kindAt?_dir_cons, found]⟩
          | dir inner =>
              rw [ih inner, Option.bind_some]
              refine or_congr Iff.rfl ⟨?_, ?_⟩
              · rintro ⟨front, lead, proper, h, file⟩
                refine ⟨n :: front, by simpa using lead, by simpa using proper, h, ?_⟩
                rw [Tree.kindAt?_dir_cons, found, Option.bind_some, file]
              · rintro ⟨front, lead, proper, h, file⟩
                rcases List.prefix_cons_iff.mp lead with rfl | ⟨rest, rfl, inside⟩
                · simp at file
                · rw [Tree.kindAt?_dir_cons, found, Option.bind_some] at file
                  exact ⟨rest, inside, by simpa using proper, h, file⟩

/-- A path cannot be added as a file exactly if something is there, or a file is on
the way to it. -/
theorem conflicts_iff : ns.conflicts p = true ↔ ns.kindAt? p ≠ none ∨
    ∃ q, p.isUnder q = true ∧ q ≠ p ∧ ∃ h, ns.kindAt? q = some (.leaf h) := by
  rw [conflicts, meets_iff]
  refine or_congr Iff.rfl ⟨?_, ?_⟩
  · rintro ⟨front, lead, proper, file⟩
    refine ⟨⟨front⟩, Path.isUnder_iff.mpr lead, ?_, file⟩
    rintro rfl
    exact proper rfl
  · rintro ⟨q, lead, proper, file⟩
    exact ⟨q.components, Path.isUnder_iff.mp lead, fun e => proper (Path.ext_components e), file⟩

theorem conflicts_of_isRoot (root : p.isRoot = true) : ns.conflicts p = true :=
  conflicts_iff.mpr (.inl (by simp [kindAt?_of_isRoot root]))

theorem kindAt?_of_not_conflicts (free : ns.conflicts p = false) : ns.kindAt? p = none := by
  by_contra there
  rw [conflicts_iff.mpr (.inl there)] at free
  cases free

/-! ### Changes -/

theorem change_eq_ok_iff {f : Option Entry → Entry} : ns.change p f = .ok ns' ↔
    p.isRoot = false ∧ Tree.place f p.components ns.top = .ok ns'.top := by
  rw [change]
  cases p.isRoot with
  | true => simp
  | false =>
      obtain ⟨top⟩ := ns'
      cases Tree.place f p.components ns.top <;> simp

/-- A path other than the root can be added exactly if no file is on the way. -/
theorem change_isOk_iff {f : Option Entry → Entry} : (∃ ns', ns.change p f = .ok ns') ↔
    p.isRoot = false ∧
      ∀ q, p.isUnder q = true → q ≠ p → ∀ h, ns.kindAt? q ≠ some (.leaf h) := by
  have free : (∃ top, Tree.place f p.components ns.top = .ok top) ↔ _ := Tree.place_isOk_iff
  simp only [change_eq_ok_iff]
  constructor
  · rintro ⟨ns', notRoot, placed⟩
    refine ⟨notRoot, fun q lead proper h => ?_⟩
    exact free.mp ⟨_, placed⟩ q.components (Path.isUnder_iff.mp lead)
      (fun e => proper (Path.ext_components e)) h
  · rintro ⟨notRoot, clear⟩
    obtain ⟨top, placed⟩ := free.mpr fun front lead proper h =>
      clear ⟨front⟩ (Path.isUnder_iff.mpr lead) (by rintro rfl; exact proper rfl) h
    exact ⟨⟨top⟩, notRoot, placed⟩

theorem insert_isOk_of_not_conflicts (free : ns.conflicts p = false) :
    ∃ ns', ns.insert p h = .ok ns' := by
  refine change_isOk_iff.mpr ⟨?_, fun q lead proper h file => ?_⟩
  · cases root : p.isRoot with
    | true => simp [conflicts_of_isRoot root] at free
    | false => rfl
  · rw [conflicts_iff.mpr (.inr ⟨q, lead, proper, h, file⟩)] at free
    cases free

/-- Below a change is what the change made, on the way to it are directories, and
elsewhere is what was there. -/
theorem kindAt?_change {f : Option Entry → Entry} (done : ns.change p f = .ok ns') (q : Path) :
    ns'.kindAt? q =
      if q.isUnder p then
        (f ((Tree.dir ns.top).get? p.components)).kindAt? (q.components.drop p.depth)
      else if p.isUnder q then some .dir else ns.kindAt? q := by
  obtain ⟨notRoot, placed⟩ := change_eq_ok_iff.mp done
  have ne : p.components ≠ [] := by simpa [Path.isRoot] using notRoot
  rw [kindAt?, Tree.kindAt?_place ne placed]
  simp only [Path.isUnder_iff, kindAt?, Path.depth]

theorem drop_depth_of_isUnder (lead : q.isUnder p = true) (other : q ≠ p) :
    q.components.drop p.depth ≠ [] := by
  obtain ⟨rest, whole⟩ := Path.isUnder_iff.mp lead
  rw [Path.depth, ← whole, List.drop_left]
  rintro rfl
  exact other (Path.ext_components (by simpa using whole.symm))

/-- A new file replaces what was at its path; the paths that lead to it are
directories, and all else stays. -/
theorem kindAt?_insert (done : ns.insert p h = .ok ns') (q : Path) :
    ns'.kindAt? q =
      if q = p then some (.leaf h) else if q.isUnder p then none
      else if p.isUnder q then some .dir else ns.kindAt? q := by
  rw [kindAt?_change done]
  by_cases same : q = p
  · subst same
    simp [Path.isUnder_refl, Path.depth]
  · rw [if_neg same]
    split
    · next lead =>
        cases below : q.components.drop p.depth with
        | nil => exact absurd below (drop_depth_of_isUnder lead same)
        | cons n names => rfl
    · rfl

/-- A new file where there is room for one adds its path and the paths that lead to
it, and changes nothing that was there. -/
theorem kindAt?_insert_of_not_conflicts (free : ns.conflicts p = false)
    (done : ns.insert p h = .ok ns') (q : Path) :
    ns'.kindAt? q =
      if q = p then some (.leaf h) else if p.isUnder q then some .dir else ns.kindAt? q := by
  rw [kindAt?_insert done]
  have absent := kindAt?_of_not_conflicts free
  by_cases same : q = p
  · simp [same]
  · rw [if_neg same, if_neg same]
    by_cases below : q.isUnder p = true
    · have above : ¬ p.isUnder q = true := fun above => same (Path.isUnder_antisymm below above)
      rw [if_pos below, if_neg above, kindAt?_none_of_isUnder below absent]
    · rw [if_neg below]

/-- A new directory is added with the paths that lead to it; if something is at its
path already, that stays, and so does all else. -/
theorem kindAt?_insertDirectory (done : ns.insertDirectory p = .ok ns') (q : Path) :
    ns'.kindAt? q =
      if q = p ∧ ns.kindAt? p = none then some .dir
      else if p.isUnder q ∧ q ≠ p then some .dir else ns.kindAt? q := by
  rw [kindAt?_change done]
  by_cases lead : q.isUnder p = true
  · obtain ⟨rest, whole⟩ := Path.isUnder_iff.mp lead
    have there : ns.kindAt? q =
        ((Tree.dir ns.top).get? p.components).bind (Tree.kindAt? rest) := by
      rw [kindAt?, ← whole, Tree.kindAt?, Tree.get?_append]
      cases (Tree.dir ns.top).get? p.components <;> rfl
    rw [if_pos lead, Path.depth, ← whole, List.drop_left]
    by_cases same : q = p
    · subst same
      have : rest = [] := by simpa using whole
      subst this
      cases found : (Tree.dir ns.top).get? q.components with
      | none => simp [kindAt?, Tree.kindAt?, found]
      | some t => simp [kindAt?, Tree.kindAt?, found]
    · have above : ¬ p.isUnder q = true := fun above => same (Path.isUnder_antisymm lead above)
      rw [if_neg (by simp [same]), if_neg (by simp [above]), there]
      cases found : (Tree.dir ns.top).get? p.components with
      | some t => rfl
      | none =>
          cases rest with
          | nil => exact absurd (Path.ext_components (by simpa using whole.symm)) same
          | cons n names => rfl
  · have other : q ≠ p := by
      rintro rfl
      exact lead (Path.isUnder_refl q)
    rw [if_neg lead]
    simp [other]

theorem remove_eq_some_iff {entry : Entry} : ns.remove p = some (entry, ns') ↔
    ns.lookup p = some entry ∧ ns' = ⟨Tree.remove p.components ns.top⟩ := by
  rw [remove, Option.map_eq_some_iff]
  constructor
  · rintro ⟨found, there, same⟩
    cases same
    exact ⟨there, rfl⟩
  · rintro ⟨there, rfl⟩
    exact ⟨entry, there, rfl⟩

theorem not_isRoot_of_lookup {entry : Entry} (found : ns.lookup p = some entry) :
    p.isRoot = false := by
  cases root : p.isRoot with
  | true => simp [lookup, root] at found
  | false => rfl

/-- A removal takes away a path and all below it, and nothing else. -/
theorem kindAt?_remove {entry : Entry} (done : ns.remove p = some (entry, ns')) (q : Path) :
    ns'.kindAt? q = if q.isUnder p then none else ns.kindAt? q := by
  obtain ⟨found, rfl⟩ := remove_eq_some_iff.mp done
  have notRoot := not_isRoot_of_lookup found
  have ne : p.components ≠ [] := by simpa [Path.isRoot] using notRoot
  rw [kindAt?, Tree.kindAt?_remove ne]
  simp only [Path.isUnder_iff, kindAt?]

theorem remove_eq_none_iff : ns.remove p = none ↔ p.isRoot = true ∨ ns.kindAt? p = none := by
  rw [remove, Option.map_eq_none_iff]
  cases root : p.isRoot with
  | true => simp [lookup, root]
  | false => simp [← map_kind_lookup root]

theorem exists_removed (notRoot : p.isRoot = false) (there : ns.kindAt? p ≠ none) :
    ∃ entry names, ns.remove p = some (entry, names) := by
  have present : ns.remove p ≠ none := by
    rw [Ne, remove_eq_none_iff, not_or]
    exact ⟨by simp [notRoot], there⟩
  obtain ⟨⟨entry, names⟩, removed⟩ := Option.ne_none_iff_exists'.mp present
  exact ⟨entry, names, removed⟩

end Namespace

end Dfs
