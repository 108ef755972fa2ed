import Dfs.Proofs.Namespace.Order
import Dfs.Proofs.Tree.Edit

/-!
Insertion of files and directories. A path is refused if it is the root or a file is on the
way to it, and then the namespace is what it was, although directories are made while the
way is walked. Otherwise the entry is at its path, directories lead to it, and every
entry that neither leads to it nor was below it is the very one that was there.

`insertion_exact` puts this together with `conflicts`, which foretells it.
-/

namespace Dfs

namespace Namespace

variable {ns ns' : Namespace} {p q : Path} {h : Handle} {f : Option Entry → Entry}

/-! ### Files on the way -/

/-- The file at `q` is on the way to `p`. -/
def Blocks (ns : Namespace) (q p : Path) : Prop :=
  p.isUnder q = true ∧ q ≠ p ∧ ∃ h, ns.owner q = .ok h

theorem blocks_iff : ns.Blocks q p ↔
    p.isUnder q = true ∧ q ≠ p ∧ ∃ h, ns.kindAt? q = some (.leaf h) := by
  simp only [Blocks, owner_eq_ok_iff]

/-- At most one file is on the way to a path. -/
theorem Blocks.unique {r : Path} (first : ns.Blocks q p) (second : ns.Blocks r p) : q = r := by
  obtain ⟨leadQ, -, h, fileQ⟩ := blocks_iff.mp first
  obtain ⟨leadR, -, h', fileR⟩ := blocks_iff.mp second
  by_contra other
  rcases List.prefix_or_prefix_of_prefix (Path.isUnder_iff.mp leadQ) (Path.isUnder_iff.mp leadR)
    with above | above
  · have there : ns.kindAt? r ≠ none := by simp [fileR]
    rw [kindAt?_of_isUnder (Path.isUnder_iff.mpr above) other there] at fileQ
    cases fileQ
  · have there : ns.kindAt? q ≠ none := by simp [fileQ]
    rw [kindAt?_of_isUnder (Path.isUnder_iff.mpr above) (Ne.symm other) there] at fileR
    cases fileR

/-- Only an entry of a directory can be on the way. -/
theorem not_blocks_of_children (free : ∀ (d : Path) (n : Name), ¬ ns.Blocks (d.child n) p) :
    ∀ q, ¬ ns.Blocks q p := by
  intro q blocks
  obtain ⟨-, -, h, file⟩ := blocks_iff.mp blocks
  obtain ⟨d, n, rfl⟩ := Path.exists_eq_child (isRoot_eq_false file (by simp))
  exact free d n blocks

theorem conflicts_iff_blocks : ns.conflicts p = true ↔
    p.isRoot = true ∨ ns.lookup p ≠ none ∨ ∃ q, ns.Blocks q p := by
  simp only [conflicts_iff, blocks_iff]
  cases root : p.isRoot with
  | true => simp [kindAt?_of_isRoot root]
  | false => simp [← map_kind_lookup root]

/-! ### Refused changes -/

theorem Blocks.isRoot_eq_false (blocks : ns.Blocks q p) : p.isRoot = false := by
  obtain ⟨lead, other, -⟩ := blocks
  by_contra root
  have top := Path.isRoot_iff.mp (by simpa using root)
  rw [Path.isUnder_iff, top, List.prefix_nil] at lead
  exact other (Path.ext_components (lead.trans top.symm))

/-- A change fails only at the root, or at a file on the way. -/
theorem blocks_of_change_error {e : NamespaceError} (failed : ns.change p f = .error e) :
    p.isRoot = true ∧ e = .path .rootHasNoLast ∨
      ∃ (d : Path) (n : Name), ns.Blocks (d.child n) p ∧ e = .blocked p n := by
  rw [change] at failed
  split at failed
  · next root => exact .inl ⟨root, (Except.error.inj failed).symm⟩
  split at failed
  · cases failed
  · next n stopped =>
      obtain ⟨front, lead, proper, h, file⟩ := Tree.exists_leaf_of_place_error stopped
      refine .inr ⟨⟨front⟩, n, ?_, (Except.error.inj failed).symm⟩
      refine blocks_iff.mpr ⟨Path.isUnder_iff.mpr lead, ?_, h, file⟩
      rintro rfl
      exact proper rfl

theorem change_of_isRoot (root : p.isRoot = true) :
    ns.change p f = .error (.path .rootHasNoLast) := by
  rw [change, if_pos root]

theorem change_of_blocks {d : Path} {n : Name} (blocks : ns.Blocks (d.child n) p) :
    ns.change p f = .error (.blocked p n) := by
  cases changed : ns.change p f with
  | ok ns' =>
      obtain ⟨lead, proper, h, file⟩ := blocks_iff.mp blocks
      exact absurd file ((change_isOk_iff.mp ⟨ns', changed⟩).2 _ lead proper h)
  | error e =>
      rcases blocks_of_change_error changed with ⟨root, -⟩ | ⟨d', n', again, rfl⟩
      · rw [blocks.isRoot_eq_false] at root
        cases root
      · -- It stops at a file on the way, and there is no other.
        have same := congrArg (fun q => q.components.getLast?) (blocks.unique again)
        simp only [Path.child, List.getLast?_concat, Option.some.injEq] at same
        rw [same]

theorem exists_change_of_not_blocks (notRoot : p.isRoot = false) (free : ∀ q, ¬ ns.Blocks q p)
    (f : Option Entry → Entry) : ∃ ns', ns.change p f = .ok ns' :=
  change_isOk_iff.mpr ⟨notRoot, fun q lead proper h file =>
    free q (blocks_iff.mpr ⟨lead, proper, h, file⟩)⟩

/-- A change in place that failed with the error `e` and left everything as it was. -/
structure Refused (ns : Namespace) (e : Error)
    (attempt : Except NamespaceError Unit × Namespace) : Prop where
  error : attempt.1.mapError NamespaceError.toError = .error e
  kinds : ∀ q, attempt.2.kindAt? q = ns.kindAt? q
  same : ns.Ordered → attempt.2 = ns

theorem edit_of_ok (done : ns.change p f = .ok ns') : ns.edit p f = (.ok (), ns') := by
  obtain ⟨notRoot, placed⟩ := change_eq_ok_iff.mp done
  rw [edit, if_neg (by simp [notRoot]), Tree.edit_of_ok placed]

theorem Ordered.edit (ordered : ns.Ordered)
    (made : ∀ found, (∀ t ∈ found, Tree.Ordered t) → Tree.Ordered (f found)) (p : Path) :
    (ns.edit p f).2.Ordered := by
  have kept := Tree.Ordered.edit made p.components ordered
  unfold Namespace.edit
  split
  · exact ordered
  · split
    · next top changed =>
        rw [changed] at kept
        exact kept
    · next n top stopped =>
        rw [stopped] at kept
        exact kept

theorem refused_edit {e : NamespaceError} (failed : ns.change p f = .error e)
    (made : ∀ found, (∀ t ∈ found, Tree.Ordered t) → Tree.Ordered (f found)) :
    Refused ns e.toError (ns.edit p f) := by
  have left : ∃ ns', ns.edit p f = (.error e, ns') ∧ ∀ q, ns'.kindAt? q = ns.kindAt? q := by
    rw [change] at failed
    unfold Namespace.edit
    split at failed
    · next root =>
        obtain rfl := Except.error.inj failed
        exact ⟨ns, by rw [if_pos root], fun _ => rfl⟩
    · next notRoot =>
        split at failed
        · cases failed
        · next n stopped =>
            obtain rfl := Except.error.inj failed
            obtain ⟨top, edited, kinds⟩ := Tree.edit_of_error stopped
            exact ⟨⟨top⟩, by rw [if_neg notRoot, edited], fun q => kinds q.components⟩
  obtain ⟨ns', edited, kinds⟩ := left
  refine ⟨by rw [edited]; rfl, by rw [edited]; exact kinds, fun ordered => ?_⟩
  have kept := ordered.edit made p
  rw [edited] at kept ⊢
  exact kept.ext ordered kinds

/-! ### Changes that succeed -/

/-- Whatever neither leads to the place of a change nor is below it, is found unchanged. -/
theorem lookup_of_apart (done : ns.change p f = .ok ns') (notBelow : q.isUnder p = false)
    (notAbove : p.isUnder q = false) : ns'.lookup q = ns.lookup q := by
  obtain ⟨notRoot, placed⟩ := change_eq_ok_iff.mp done
  have below : ¬ p.components <+: q.components := by rw [← Path.isUnder_iff, notBelow]; simp
  have above : ¬ q.components <+: p.components := by rw [← Path.isUnder_iff, notAbove]; simp
  have same := Tree.get?_place_of_apart placed below above
  unfold lookup
  rw [same]

/-- What is found at the place of a change, and below it. -/
theorem lookup_of_below (done : ns.change p f = .ok ns') (names : List Name) :
    ns'.lookup ⟨p.components ++ names⟩ = (f (ns.lookup p)).get? names := by
  obtain ⟨notRoot, placed⟩ := change_eq_ok_iff.mp done
  have ne : p.components ≠ [] := by simpa [Path.isRoot] using notRoot
  have below : Path.isRoot ⟨p.components ++ names⟩ = false := by simp [Path.isRoot, ne]
  rw [lookup_of_not_isRoot below, lookup_of_not_isRoot notRoot, Tree.get?_append,
    Tree.get?_place_self ne placed, Option.bind_some]

theorem isDir_of_above (done : ns.change p f = .ok ns') (notRoot : q.isRoot = false)
    (lead : p.isUnder q = true) (other : q ≠ p) :
    (ns'.lookup q).map Tree.kind = some .dir := by
  rw [map_kind_lookup notRoot, kindAt?_change done, if_neg, if_pos lead]
  exact fun below => other (Path.isUnder_antisymm below lead)

/-- A file is added: it is at its path, directories lead there, nothing is below, and
every other entry is as before. -/
structure FileAdded (ns : Namespace) (p : Path) (h : Handle) (ns' : Namespace) : Prop where
  here : ns'.lookup p = some (.leaf h)
  above : ∀ q, q.isRoot = false → p.isUnder q = true → q ≠ p →
    (ns'.lookup q).map Tree.kind = some .dir
  below : ∀ q, q.isUnder p = true → q ≠ p → ns'.lookup q = none
  elsewhere : ∀ q, q.isUnder p = false → p.isUnder q = false → ns'.lookup q = ns.lookup q

/-- A directory is added: it is at its path unless something was there, which stays, and
then directories lead there, and every other entry is as before. -/
structure DirectoryAdded (ns : Namespace) (p : Path) (ns' : Namespace) : Prop where
  here : ns'.lookup p = some ((ns.lookup p).getD (.dir []))
  above : ∀ q, q.isRoot = false → p.isUnder q = true → q ≠ p →
    (ns'.lookup q).map Tree.kind = some .dir
  elsewhere : ∀ q, p.isUnder q = false → ns'.lookup q = ns.lookup q

theorem fileAdded_of_insert (done : ns.insert p h = .ok ns') : FileAdded ns p h ns' where
  here := by
    have there := lookup_of_below done []
    rwa [List.append_nil, Tree.get?_nil] at there
  above := fun _ notRoot => isDir_of_above done notRoot
  below := by
    intro q lead other
    obtain ⟨rest, whole⟩ := Path.isUnder_iff.mp lead
    obtain rfl : (⟨p.components ++ rest⟩ : Path) = q := Path.ext_components whole
    rw [lookup_of_below done rest]
    cases rest with
    | nil => exact absurd (Path.ext_components (List.append_nil _)) other
    | cons n names => rfl
  elsewhere := fun _ => lookup_of_apart done

theorem directoryAdded_of_insertDirectory (done : ns.insertDirectory p = .ok ns') :
    DirectoryAdded ns p ns' where
  here := by
    have there := lookup_of_below done []
    rwa [List.append_nil, Tree.get?_nil] at there
  above := fun _ notRoot => isDir_of_above done notRoot
  elsewhere := by
    intro q notAbove
    cases lead : q.isUnder p with
    | false => exact lookup_of_apart done lead notAbove
    | true =>
        obtain ⟨rest, whole⟩ := Path.isUnder_iff.mp lead
        obtain rfl : (⟨p.components ++ rest⟩ : Path) = q := Path.ext_components whole
        obtain ⟨notRoot, -⟩ := change_eq_ok_iff.mp done
        have ne : p.components ≠ [] := by simpa [Path.isRoot] using notRoot
        have below : Path.isRoot ⟨p.components ++ rest⟩ = false := by simp [Path.isRoot, ne]
        have before : ns.lookup ⟨p.components ++ rest⟩ =
            (ns.lookup p).bind (Tree.get? rest) := by
          rw [lookup_of_not_isRoot below, lookup_of_not_isRoot notRoot, Tree.get?_append]
        rw [lookup_of_below done rest, before]
        cases ns.lookup p with
        | some entry => rfl
        | none =>
            cases rest with
            | nil => simp [Path.isUnder_refl] at notAbove
            | cons n names => rfl

/-- Where there is room for it, a file replaces nothing. -/
theorem kept_insert (free : ns.conflicts p = false) (done : ns.insert p h = .ok ns') :
    ns.Kept ns' := by
  intro q kind there
  rw [kindAt?_insert_of_not_conflicts free done]
  by_cases same : q = p
  · rw [same, kindAt?_of_not_conflicts free] at there
    cases there
  rw [if_neg same]
  split
  · next lead =>
      cases kind with
      | dir => rfl
      | leaf h' =>
          rw [conflicts_iff.mpr (.inr ⟨q, lead, same, h', there⟩)] at free
          cases free
  · exact there

/-! ### Insertion -/

/-- A file or a directory cannot be inserted at the root, nor where a file is on the way, and
then the namespace is left as it was, whatever has been made on the way. Everywhere else it is
inserted. A path conflicts if it is the root, if something is there, or if a file is on the
way; otherwise a file can be inserted and everything that was there stays. -/
theorem insertion_exact (ns : Namespace) (p : Path) (h : Handle) :
    (p.isRoot = true →
      Refused ns (.invalidPath "the root directory has no last component")
        (ns.insertInPlace p h) ∧
      Refused ns (.invalidPath "the root directory has no last component")
        (ns.insertDirectoryInPlace p)) ∧
    (∀ (d : Path) (n : Name), ns.Blocks (d.child n) p →
      Refused ns (.invalidArgument s!"cannot place {p}: {n.text} is a file")
        (ns.insertInPlace p h) ∧
      Refused ns (.invalidArgument s!"cannot place {p}: {n.text} is a file")
        (ns.insertDirectoryInPlace p)) ∧
    (p.isRoot = false → (∀ (d : Path) (n : Name), ¬ ns.Blocks (d.child n) p) →
      (∃ ns', ns.insertInPlace p h = (.ok (), ns') ∧ ns.insert p h = .ok ns' ∧
        FileAdded ns p h ns') ∧
      ∃ ns', ns.insertDirectoryInPlace p = (.ok (), ns') ∧ ns.insertDirectory p = .ok ns' ∧
        DirectoryAdded ns p ns') ∧
    (ns.conflicts p = true ↔ p.isRoot = true ∨ ns.lookup p ≠ none ∨
      ∃ q, p.isUnder q = true ∧ q ≠ p ∧ ∃ h, ns.owner q = .ok h) ∧
    (ns.conflicts p = false → ∃ ns', ns.insertInPlace p h = (.ok (), ns') ∧
      ∀ q entry, ns.lookup q = some entry → (ns'.lookup q).map Tree.kind = some entry.kind) := by
  refine ⟨fun root => ?_, fun d n blocks => ?_, fun notRoot free => ?_, conflicts_iff_blocks,
    fun free => ?_⟩
  · exact ⟨refused_edit (change_of_isRoot root) (ordered_of_file h),
      refused_edit (change_of_isRoot root) ordered_of_directory⟩
  · exact ⟨refused_edit (change_of_blocks blocks) (ordered_of_file h),
      refused_edit (change_of_blocks blocks) ordered_of_directory⟩
  · have clear := not_blocks_of_children free
    obtain ⟨ns', inserted⟩ := exists_change_of_not_blocks notRoot clear fun _ => .leaf h
    obtain ⟨ns'', made⟩ :=
      exists_change_of_not_blocks notRoot clear fun found => found.getD (.dir [])
    exact ⟨⟨ns', edit_of_ok inserted, inserted, fileAdded_of_insert inserted⟩,
      ns'', edit_of_ok made, made, directoryAdded_of_insertDirectory made⟩
  · obtain ⟨ns', inserted⟩ := insert_isOk_of_not_conflicts (h := h) free
    refine ⟨ns', edit_of_ok inserted, fun q entry found => ?_⟩
    have notRoot := not_isRoot_of_lookup found
    have there : ns.kindAt? q = some entry.kind := by rw [← map_kind_lookup notRoot, found]; rfl
    rw [map_kind_lookup notRoot, kept_insert free inserted q entry.kind there]

end Namespace

end Dfs
