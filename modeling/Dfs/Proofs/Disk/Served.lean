import Dfs.Disk.Operations
import Dfs.Proofs.Disk.Within
import Dfs.Proofs.Tree.Order

/-!
Disks that storage nodes serve. The root of a node leads to a directory, its place, and
below the place are only directories and regular files (`Rooted`). Then a host path below
the root leads where its names say, as long as the host takes a path of that length
(`Rooted.resolve_eq_found_iff`).

Whatever an operation of the node changes is strictly below the place (`Worked`). What is
new there leaves the root where it is (`Rooted.worked`). A root that leads to its place
whatever is below it (`Serves`) stays also if something is taken away (`Serves.worked`).
-/

namespace Dfs

instance : StrictTotal UInt8 where
  irrefl := UInt8.lt_irrefl
  trans := UInt8.lt_trans
  connex a b := by
    rcases Nat.lt_trichotomy a.toNat b.toNat with before | same | after
    · exact .inl (UInt8.lt_iff_toNat_lt.mpr before)
    · exact .inr (.inl (UInt8.toNat_inj.mp same))
    · exact .inr (.inr (UInt8.lt_iff_toNat_lt.mpr after))

/-- Names that lead from a root to something below it: at least one, and none with a
meaning of its own. -/
structure HostPath.Relative (names : List HostName) : Prop where
  nonempty : names ≠ []
  pieces : ∀ name ∈ names, HostName.IsPiece name
  noDots : Disk.NoDots names

/-- A host takes the path of the names below the root. -/
def HostPath.Fits (root : HostPath) (names : Place) : Prop :=
  (root.below names).bytes.length ≤ HostPath.maxLength

instance (root : HostPath) (names : Place) : Decidable (root.Fits names) :=
  inferInstanceAs (Decidable (_ ≤ _))

/-- A path of the namespace that has a host path leads from the root to something below
it, unless it is the root itself. -/
theorem Path.relative_of_toHost {p : Path} {root h : HostPath} (notRoot : p.isRoot = false)
    (mapped : p.toHost root = .ok h) : HostPath.Relative p.place where
  nonempty := by
    rw [ne_eq, place_eq_nil_iff, notRoot]
    simp
  pieces := fun _ mem => isPiece_of_mem_place mem
  noDots := (toHost_eq_ok_iff.mp mapped).1

theorem HostPath.bytes_below_ne_nil {root : HostPath} (ne : root.bytes ≠ []) (names : Place) :
    (root.below names).bytes ≠ [] := by
  intro none
  have lead := bytes_prefix_below root names
  rw [none, List.prefix_nil] at lead
  exact ne lead

theorem HostPath.Fits.of_isPrefix {root : HostPath} {names names' : Place}
    (fits : root.Fits names') (lead : names <+: names') : root.Fits names :=
  (length_below_le lead).trans fits

namespace Disk

/-- The place `js` is below the place `p`. -/
def Inside (p js : Place) : Prop := p <+: js ∧ p ≠ js

instance (p js : Place) : Decidable (Inside p js) := inferInstanceAs (Decidable (_ ∧ _))

/-- The disks differ at most below some of the places. -/
def SameOutside (ps : List Place) (d d' : Disk) : Prop :=
  ∀ js, (∀ p ∈ ps, ¬ Inside p js) → d'.kindAt? js = d.kindAt? js

theorem SameOutside.refl (ps : List Place) (d : Disk) : SameOutside ps d d := fun _ _ => rfl

theorem SameOutside.trans {ps : List Place} {d d' d'' : Disk} (first : SameOutside ps d d')
    (second : SameOutside ps d' d'') : SameOutside ps d d'' :=
  fun js outside => (second js outside).trans (first js outside)

theorem SameOutside.mono {ps qs : List Place} {d d' : Disk} (same : SameOutside ps d d')
    (subset : ∀ p ∈ ps, p ∈ qs) : SameOutside qs d d' :=
  fun js outside => same js fun p mem => outside p (subset p mem)

/-- The path leads to the directory at `p`, whatever is below the places `ps`. -/
def Leads (d : Disk) (ps : List Place) (root : HostPath) (p : Place) : Prop :=
  ∀ d', SameOutside ps d d' → ∃ entries, d'.resolve true root = .ok (.found p (.dir entries))

theorem Leads.sameOutside {ps : List Place} {d d' : Disk} {root : HostPath} {p : Place}
    (leads : d.Leads ps root p) (same : SameOutside ps d d') : d'.Leads ps root p :=
  fun _ same' => leads _ (same.trans same')

theorem Leads.mono {ps qs : List Place} {d : Disk} {root : HostPath} {p : Place}
    (leads : d.Leads qs root p) (subset : ∀ p ∈ ps, p ∈ qs) : d.Leads ps root p :=
  fun _ same => leads _ (same.mono subset)

theorem Leads.stat {ps : List Place} {d : Disk} {root : HostPath} {p : Place}
    {entries : Tree.Folder HostName DiskItem} (leads : d.Leads ps root p)
    (there : d.get? p = some (.dir entries)) : d.stat root = .ok (.dir entries) := by
  obtain ⟨entries', found⟩ := leads d (.refl _ d)
  have same := get?_of_resolve found
  rw [there] at same
  obtain rfl := Tree.dir.inj (Option.some.inj same)
  exact stat_of_found found

/-- Below the place are only directories and regular files, under names that a host
accepts. -/
structure Plain (d : Disk) (p : Place) : Prop where
  noLinks : d.NoLinks p
  valid : ∀ xs, d.kindAt? (p ++ xs) ≠ none → ∀ name ∈ xs, HostName.IsValid name

/-- The root leads to the directory at the place. -/
structure Rooted (d : Disk) (root : HostPath) (p : Place) : Prop extends Plain d p where
  opens : ∃ entries, d.resolve true root = .ok (.found p (.dir entries))

/-- A storage node with this root serves what is below the place. -/
structure Serves (d : Disk) (root : HostPath) (p : Place) : Prop extends Plain d p where
  leads : d.Leads [p] root p

/-- The disk has changed at most below the place, and to what may be there. -/
structure Worked (p : Place) (d d' : Disk) : Prop where
  outside : SameOutside [p] d d'
  inside : ∀ xs kind, d'.kindAt? (p ++ xs) = some kind → d.kindAt? (p ++ xs) = some kind ∨
    (∀ target, kind ≠ .leaf (.link target)) ∧ ∀ name ∈ xs, HostName.IsValid name
  ordered : (Tree.dir d.top).Ordered → (Tree.dir d'.top).Ordered

variable {d d' d'' : Disk} {root : HostPath} {p : Place}

theorem Serves.rooted (serves : d.Serves root p) : d.Rooted root p where
  toPlain := serves.toPlain
  opens := serves.leads d (.refl _ d)

theorem Worked.refl (p : Place) (d : Disk) : Worked p d d where
  outside := .refl [p] d
  inside := fun _ _ there => .inl there
  ordered := fun ordered => ordered

theorem Worked.trans (first : Worked p d d') (second : Worked p d' d'') : Worked p d d'' where
  outside := first.outside.trans second.outside
  inside := by
    intro xs kind there
    rcases second.inside xs kind there with before | new
    · exact first.inside xs kind before
    · exact .inr new
  ordered := fun ordered => second.ordered (first.ordered ordered)

/-- What a plain directory has left is plain. -/
theorem Plain.of_within (plain : d.Plain p) (within : d'.Within d) : d'.Plain p where
  noLinks := fun xs target there => plain.noLinks xs target (within _ _ there)
  valid := by
    intro xs there
    obtain ⟨kind, there⟩ := Option.ne_none_iff_exists'.mp there
    exact plain.valid xs (by simp [within _ _ there])

theorem Plain.worked (plain : d.Plain p) (worked : Worked p d d') : d'.Plain p where
  noLinks := by
    intro xs target there
    rcases worked.inside xs _ there with before | ⟨noLink, -⟩
    · exact plain.noLinks xs target before
    · exact noLink target rfl
  valid := by
    intro xs there
    obtain ⟨kind, there⟩ := Option.ne_none_iff_exists'.mp there
    rcases worked.inside xs kind there with before | ⟨-, valid⟩
    · exact plain.valid xs (by simp [before])
    · exact valid

theorem Serves.worked (serves : d.Serves root p) (worked : Worked p d d') : d'.Serves root p where
  toPlain := serves.toPlain.worked worked
  leads := serves.leads.sameOutside worked.outside

theorem Rooted.worked (rooted : d.Rooted root p) (worked : Worked p d d') (within : d.Within d') :
    d'.Rooted root p where
  toPlain := rooted.toPlain.worked worked
  opens := by
    obtain ⟨entries, found⟩ := rooted.opens
    obtain ⟨node, found', same⟩ := within.resolve_found found
    obtain ⟨entries', rfl⟩ := Tree.kind_eq_dir_iff.mp same
    exact ⟨entries', found'⟩

/-! ### Where host paths lead -/

theorem Rooted.kindAt?_place (rooted : d.Rooted root p) : d.kindAt? p = some .dir := by
  obtain ⟨entries, found⟩ := rooted.opens
  exact kindAt?_eq_dir_iff.mpr ⟨entries, get?_of_resolve found⟩

theorem Plain.exists_eq_file (plain : d.Plain p) {xs : List HostName} {item : DiskItem}
    (leaf : d.kindAt? (p ++ xs) = some (.leaf item)) : ∃ content, item = .file content := by
  cases item with
  | file content => exact ⟨content, rfl⟩
  | link target => exact absurd leaf (plain.noLinks xs target)

variable {names : List HostName} {last : Bool} {q dir : Place} {node : DiskNode}

/-- A path below the root goes on from the place of the root. -/
theorem Rooted.resolve_below (rooted : d.Rooted root p) (relative : HostPath.Relative names)
    (last : Bool) :
    ∃ links, d.resolve last (root.below names) =
      match (root.below names).check with
      | .error fault => .error fault
      | .ok () => d.follow last links p names := by
  obtain ⟨entries, found⟩ := rooted.opens
  obtain ⟨links, onward⟩ := follow_append (follow_parts found).2 relative.nonempty last
  refine ⟨links, ?_⟩
  cases checked : (root.below names).check with
  | error fault => exact resolve_of_refused checked last
  | ok =>
      rw [resolve_of_check checked, HostPath.steps_below relative.pieces relative.nonempty]
      exact onward

theorem Rooted.bytes_ne_nil (rooted : d.Rooted root p) : root.bytes ≠ [] := by
  obtain ⟨entries, found⟩ := rooted.opens
  exact (HostPath.check_eq_ok_iff.mp (follow_parts found).1).2.1

theorem Rooted.bytes_below_ne_nil (rooted : d.Rooted root p) (names : List HostName) :
    (root.below names).bytes ≠ [] :=
  HostPath.bytes_below_ne_nil rooted.bytes_ne_nil names

theorem Rooted.noNul_below (rooted : d.Rooted root p) (noNul : ∀ name ∈ names, 0 ∉ name) :
    0 ∉ (root.below names).bytes := by
  obtain ⟨entries, found⟩ := rooted.opens
  have rootNoNul := (HostPath.check_eq_ok_iff.mp (follow_parts found).1).1
  rw [HostPath.mem_below_iff (by decide)]
  rintro (mem | ⟨name, mem, inside⟩)
  · exact rootNoNul mem
  · exact noNul name mem inside

theorem Rooted.check_below (rooted : d.Rooted root p) (noNul : ∀ name ∈ names, 0 ∉ name)
    (fits : root.Fits names) : (root.below names).check = .ok () :=
  HostPath.check_eq_ok_iff.mpr ⟨rooted.noNul_below noNul, rooted.bytes_below_ne_nil names, fits⟩

theorem Rooted.check_of_not_fits (rooted : d.Rooted root p) (noNul : ∀ name ∈ names, 0 ∉ name)
    (long : ¬ root.Fits names) : (root.below names).check = .error .nameTooLong := by
  unfold HostPath.check
  rw [if_neg (rooted.noNul_below noNul), if_neg (rooted.bytes_below_ne_nil names),
    if_pos (Nat.lt_of_not_le long)]

/-- Something is found exactly if it is where the names say, and the host takes the
path. -/
theorem Rooted.resolve_eq_found_iff (rooted : d.Rooted root p)
    (relative : HostPath.Relative names) : d.resolve last (root.below names) = .ok (.found q node) ↔
      q = p ++ names ∧ d.get? q = some node ∧ root.Fits names := by
  obtain ⟨links, resolved⟩ := rooted.resolve_below relative last
  rw [resolved]
  constructor
  · intro found
    split at found
    · cases found
    next checked =>
    obtain ⟨rfl, there, -⟩ := (follow_eq_found_iff rooted.noLinks relative.noDots links).mp found
    exact ⟨rfl, there, (HostPath.check_eq_ok_iff.mp checked).2.2⟩
  · rintro ⟨rfl, there, fits⟩
    have valid := rooted.valid names (by simp [kindAt?_of_get? there])
    rw [rooted.check_below (fun name mem => (valid name mem).noNul) fits]
    exact (follow_eq_found_iff rooted.noLinks relative.noDots links).mpr
      ⟨rfl, there, fun name mem => (valid name mem).short⟩

/-- Where nothing is found and something can be made, the directory is there, and all
names are such as a host accepts. -/
theorem Rooted.exists_of_resolve_vacant (rooted : d.Rooted root p)
    (relative : HostPath.Relative names) {name : HostName}
    (vacant : d.resolve last (root.below names) = .ok (.vacant dir name)) :
    dir ++ [name] = p ++ names ∧ p <+: dir ∧ d.kindAt? dir = some .dir ∧
      d.kindAt? (p ++ names) = none ∧ ∀ n ∈ names, HostName.IsValid n := by
  obtain ⟨links, resolved⟩ := rooted.resolve_below relative last
  obtain ⟨entries, start⟩ := kindAt?_eq_dir_iff.mp rooted.kindAt?_place
  rw [resolved] at vacant
  split at vacant
  · cases vacant
  next checked =>
  rw [follow_eq_vacant_iff rooted.noLinks relative.noDots] at vacant
  obtain ⟨front, rfl, rfl, isDir, absent, lengths⟩ :=
    exists_of_walk_vacant start rooted.noLinks relative.noDots vacant
  have noNul := (HostPath.check_eq_ok_iff.mp checked).1
  rw [HostPath.mem_below_iff (by decide)] at noNul
  refine ⟨by simp, by simp, isDir, ?_, ?_⟩
  · rw [← List.append_assoc, ← get?_eq_none_iff]
    exact absent
  · intro n mem
    exact { relative.pieces n mem with
      noNul := fun nul => noNul (.inr ⟨n, mem, nul⟩)
      notDot := (relative.noDots n mem).1
      notDotDot := (relative.noDots n mem).2
      short := lengths n mem }

/-- On a disk with less on it, the root leads to the same place, or no path below it leads
anywhere. -/
theorem Rooted.opens_or_lost {e : Disk} (rooted : d.Rooted root p) (within : e.Within d) :
    (∃ entries, e.resolve true root = .ok (.found p (.dir entries))) ∨
      e.Misses true root ∧ ∀ names, HostPath.Relative names →
        (root.below names).check = .ok () → ∀ last,
          e.resolve last (root.below names) = .error .noSuchEntry := by
  obtain ⟨entries, found⟩ := rooted.opens
  rcases within.resolve_or_misses found with ⟨node, found'⟩ | misses
  · have isDir := within p _ (kindAt?_of_get? (get?_of_resolve found'))
    rw [rooted.kindAt?_place, Option.some.injEq, eq_comm, Tree.kind_eq_dir_iff] at isDir
    obtain ⟨entries', rfl⟩ := isDir
    exact .inl ⟨entries', found'⟩
  · refine .inr ⟨misses, fun names relative taken last => ?_⟩
    obtain ⟨checked, there⟩ := follow_parts found
    have lost : e.FollowMisses true maxLinks [] root.parts := by
      rcases within.follow true maxLinks [] root.parts with
        ⟨q, node, node', small, large⟩ | lost | ⟨fault, -, large⟩
      · -- Then the root leads there too, a slash at its end or not.
        rw [there] at large
        cases large
        have isDir := within p _ (kindAt?_of_get? (get?_of_follow small))
        rw [rooted.kindAt?_place, Option.some.injEq, eq_comm, Tree.kind_eq_dir_iff] at isDir
        obtain ⟨entries', rfl⟩ := isDir
        exact absurd misses (not_misses_of_found (resolve_of_parts checked small))
      · exact lost
      · rw [there] at large
        cases large
    rw [resolve_of_check taken, HostPath.steps_below relative.pieces relative.nonempty]
    exact lost.append rfl relative.nonempty last

/-! ### What makes a disk fit to be served -/

/-- A path of one name leads to the directory of that name, unless it is replaced. -/
theorem Leads.of_name {ps : List Place} {name : HostName} (valid : name.IsValid)
    (isDir : d.kindAt? [name] = some .dir) (kept : ∀ q ∈ ps, ¬ Inside q [name]) :
    d.Leads ps ⟨name⟩ [name] := by
  intro d' same
  obtain ⟨entries, there⟩ := kindAt?_eq_dir_iff.mp ((same [name] kept).trans isDir)
  have short : name.length ≤ HostPath.maxLength :=
    valid.short.trans (by decide)
  have checked : HostPath.check ⟨name⟩ = .ok () :=
    HostPath.check_eq_ok_iff.mpr ⟨valid.noNul, valid.nonempty, short⟩
  have steps : HostPath.steps ⟨name⟩ = [name] := by
    have noSlash : name.getLast? ≠ some HostPath.slash := fun last =>
      valid.noSlash (List.mem_of_getLast? last)
    unfold HostPath.steps
    dsimp only
    rw [if_neg fun both => noSlash both.1, HostPath.splitAt_piece valid.toIsPiece]
  have walked : d'.walk true [] [name] = .ok (.found [name] (.dir entries)) := by
    rw [walk_dir ⟨valid.notDot, valid.notDotDot, valid.short⟩ there, List.nil_append, walk_nil, there]
  refine ⟨entries, ?_⟩
  rw [resolve_of_check checked, steps]
  exact follow_of_found walked

/-- A path of nothing but dots leads to the top. -/
theorem Leads.of_dots {ps : List Place} (checked : root.check = .ok ())
    (dots : ∀ name ∈ root.steps, name = HostPath.dot) : d.Leads ps root [] := by
  intro d' _
  have walked : ∀ names : List HostName, (∀ name ∈ names, name = HostPath.dot) →
      d'.walk true [] names = .ok (.found [] (.dir d'.top)) := by
    intro names dots
    induction names with
    | nil => rw [walk_nil, get?, Tree.get?]
    | cons name names ih =>
        obtain rfl := dots _ List.mem_cons_self
        rw [walk_dot]
        exact ih fun name mem => dots name (List.mem_cons_of_mem _ mem)
  refine ⟨d'.top, ?_⟩
  rw [resolve_of_check checked]
  exact follow_of_found (walked _ dots)

/-- What may be at a place below a site. -/
def IsPlain : Place × Option DiskItem → Prop
  | (_, some (.link _)) => False
  | (xs, _) => ∀ name ∈ xs, HostName.IsValid name

instance (e : Place × Option DiskItem) : Decidable (IsPlain e) :=
  match e with
  | (_, some (.link _)) => inferInstanceAs (Decidable False)
  | (xs, some (.file _)) => inferInstanceAs (Decidable (∀ name ∈ xs, HostName.IsValid name))
  | (xs, none) => inferInstanceAs (Decidable (∀ name ∈ xs, HostName.IsValid name))

/-- A directory is plain if all that is listed below it is. -/
theorem Plain.of_places {entries : Tree.Folder HostName DiskItem}
    (there : d.get? p = some (.dir entries)) (ordered : (Tree.dir d.top).Ordered)
    (plain : ∀ e ∈ Tree.places (.dir entries), IsPlain e) : d.Plain p := by
  have listed : ∀ {xs kind}, d.kindAt? (p ++ xs) = some kind → IsPlain (xs, kind.value?) := by
    intro xs kind found
    have inner : (Tree.dir entries).kindAt? xs = some kind :=
      (Tree.kindAt?_append there).symm.trans found
    exact plain _ ((Tree.mem_places_iff (ordered.get? there)).mpr (by simp [inner]))
  constructor
  · intro xs target link
    exact listed link
  · intro xs onDisk
    obtain ⟨kind, found⟩ := Option.ne_none_iff_exists'.mp onDisk
    have may := listed found
    cases kind with
    | dir => exact may
    | leaf item =>
        cases item with
        | file content => exact may
        | link target => exact may.elim

end Disk

end Dfs
