import Dfs.Naming.Registry
import Dfs.Proofs.Namespace.Insertion
import Dfs.Proofs.SortedSet

/-!
Registration of a storage node with a batch of files.

The files are taken in one after another, each against a namespace that the ones
before have made larger. `Clashes` says which of them are refused without a look at
that order: what was there before refuses them, or a file of the batch that leads to
them. The order of paths, in which whatever leads to a path comes before it, makes
the two agree (`conflicts_iff_clashes`).
-/

namespace Dfs

namespace Namespace

/-- The namespace holds the files of a node besides what it held before, and the
directories that lead to them. -/
def Holds (ns : Namespace) (node : Handle) (files : List Path) (ns' : Namespace) : Prop :=
  ∀ q, ns'.kindAt? q =
    if q ∈ files then some (.leaf node)
    else if ∃ p ∈ files, p.isUnder q = true then some .dir
    else ns.kindAt? q

theorem Holds.nil (ns : Namespace) (node : Handle) : ns.Holds node [] ns := by
  intro q
  simp

end Namespace

namespace Registry

variable {ns ns' : Namespace} {node : Handle} {batch : PathSet} {taken : List Path} {p : Path}

/-- A file of a batch cannot be taken in: it clashes with what is there, or with a
file of the batch on the way to it that could be taken in by itself. -/
def Clashes (ns : Namespace) (batch : PathSet) (p : Path) : Prop :=
  ns.conflicts p = true ∨
    ∃ q ∈ batch, q.isRoot = false ∧ p.isUnder q = true ∧ q ≠ p ∧ ns.conflicts q = false

/-- The files of a batch that are taken in. -/
def Admitted (ns : Namespace) (batch : PathSet) (p : Path) : Prop :=
  p ∈ batch ∧ p.isRoot = false ∧ ¬ Clashes ns batch p

/-- If a file of the batch on the way to a path could be taken in by itself, then the
highest one is taken in. -/
theorem exists_admitted_of_lead {q : Path} (mem : q ∈ batch) (notRoot : q.isRoot = false)
    (lead : p.isUnder q = true) (other : q ≠ p) (free : ns.conflicts q = false) :
    ∃ r, Admitted ns batch r ∧ p.isUnder r = true ∧ r ≠ p := by
  induction depth : q.depth using Nat.strong_induction_on generalizing q with
  | _ n ih =>
      subst depth
      by_cases clash : Clashes ns batch q
      · rcases clash with there | ⟨r, memR, notRootR, leadR, otherR, freeR⟩
        · rw [free] at there
          cases there
        · have above : r.depth < q.depth := by
            refine Nat.lt_of_le_of_ne (Path.isUnder_iff.mp leadR).length_le fun same => otherR ?_
            exact Path.ext_components ((Path.isUnder_iff.mp leadR).eq_of_length same)
          refine ih _ above memR notRootR (Path.isUnder_trans lead leadR) ?_ freeR rfl
          rintro rfl
          exact otherR (Path.isUnder_antisymm lead leadR)
      · exact ⟨q, ⟨mem, notRoot, clash⟩, lead, other⟩

/-- Where a batch stands after its files up to some path have been looked at: the
files that were taken in, and the namespace that has them. -/
structure Progress (ns : Namespace) (node : Handle) (batch : PathSet) (done : List Path)
    (state : PathSet × Namespace) : Prop where
  duplicates : ∀ p, p ∈ state.1 ↔ p ∈ done ∧ p.isRoot = false ∧ Clashes ns batch p
  names : ∃ taken, (∀ p, p ∈ taken ↔ p ∈ done ∧ Admitted ns batch p) ∧
    ns.Holds node taken state.2

/-! ### The next file -/

section Next

variable (holds : ns.Holds node taken ns') (before : ∀ q ∈ taken, q < p ∧ Admitted ns batch q)

/-- Files that come before a path do not lie below it. -/
theorem isUnder_eq_false_of_taken (earlier : ∀ q ∈ taken, q < p) {q : Path} (mem : q ∈ taken) :
    q.isUnder p = false := by
  by_contra below
  have lead := Path.isUnder_iff.mp (by simpa using below)
  by_cases same : p = q
  · exact StrictTotal.irrefl p (same ▸ earlier q mem)
  · have later : p < q := lt_of_isPrefix lead fun e => same (Path.ext_components e)
    exact StrictTotal.irrefl p (StrictTotal.trans later (earlier q mem))

/-- No file that is taken in goes through a file that was there before. -/
theorem mem_taken_of_file (admitted : ∀ q ∈ taken, Admitted ns batch q) {q : Path} {h : Handle}
    (file : ns.kindAt? q = some (.leaf h)) (leads : ∃ a ∈ taken, a.isUnder q = true) :
    q ∈ taken := by
  obtain ⟨a, mem, lead⟩ := leads
  by_cases same : q = a
  · exact same ▸ mem
  · exact absurd (.inl (Namespace.conflicts_iff.mpr (.inr ⟨q, lead, same, h, file⟩)))
      (admitted a mem).2.2

include holds before

theorem clashes_of_conflicts (met : ns'.conflicts p = true) : Clashes ns batch p := by
  rcases Namespace.conflicts_iff.mp met with there | ⟨q, lead, proper, h, file⟩
  · refine .inl (Namespace.conflicts_iff.mpr (.inl fun absent => there ?_))
    have notTaken : p ∉ taken := fun mem => StrictTotal.irrefl p (before p mem).1
    have noneBelow : ¬ ∃ a ∈ taken, a.isUnder p = true := by
      rintro ⟨a, mem, below⟩
      rw [isUnder_eq_false_of_taken (fun q mem => (before q mem).1) mem] at below
      cases below
    rw [holds p, if_neg notTaken, if_neg noneBelow, absent]
  · rw [holds q] at file
    split at file
    · next mem =>
        obtain ⟨inBatch, notRoot, noClash⟩ := (before q mem).2
        have free : ns.conflicts q = false := by
          by_contra there
          exact noClash (.inl (by simpa using there))
        exact .inr ⟨q, inBatch, notRoot, lead, proper, free⟩
    · split at file
      · cases file
      · exact .inl (Namespace.conflicts_iff.mpr (.inr ⟨q, lead, proper, h, file⟩))

/-- What was there before refuses the file in the larger namespace too. -/
theorem conflicts_of_holds (met : ns.conflicts p = true) : ns'.conflicts p = true := by
  refine Namespace.conflicts_iff.mpr ?_
  rcases Namespace.conflicts_iff.mp met with there | ⟨q, lead, proper, h, file⟩
  · refine .inl ?_
    rw [holds p]
    split
    · simp
    · split
      · simp
      · exact there
  · refine .inr ⟨q, lead, proper, ?_⟩
    rw [holds q]
    split
    · exact ⟨node, rfl⟩
    · next notTaken =>
        rw [if_neg fun below =>
          notTaken (mem_taken_of_file (fun q mem => (before q mem).2) file below)]
        exact ⟨h, file⟩

/-- The next file meets something in the larger namespace exactly if it clashes with
the batch: of the files taken in, those that are not on the way to it come before
it and so do not lie below it. -/
theorem conflicts_iff_clashes (complete : ∀ q, Admitted ns batch q → q < p → q ∈ taken) :
    ns'.conflicts p = true ↔ Clashes ns batch p := by
  refine ⟨clashes_of_conflicts holds before, ?_⟩
  rintro (there | ⟨q, mem, notRoot, lead, proper, free⟩)
  · exact conflicts_of_holds holds before there
  · obtain ⟨r, admitted, leadR, properR⟩ := exists_admitted_of_lead mem notRoot lead proper free
    have earlier : r < p :=
      lt_of_isPrefix (Path.isUnder_iff.mp leadR) fun e => properR (Path.ext_components e)
    refine Namespace.conflicts_iff.mpr (.inr ⟨r, leadR, properR, node, ?_⟩)
    rw [holds r, if_pos (complete r admitted earlier)]

end Next

/-- A file that finds room joins those that were taken in. -/
theorem holds_insert (holds : ns.Holds node taken ns') (free : ns'.conflicts p = false)
    {ns'' : Namespace} (done : ns'.insert p node = .ok ns'') :
    ns.Holds node (p :: taken) ns'' := by
  intro q
  have absent := Namespace.kindAt?_of_not_conflicts free
  rw [Namespace.kindAt?_insert_of_not_conflicts free done, holds q]
  simp only [List.mem_cons, exists_eq_or_imp]
  by_cases same : q = p
  · simp [same]
  · rw [if_neg same]
    by_cases mem : q ∈ taken
    · have above : ¬ p.isUnder q = true := by
        intro lead
        have file : ns'.kindAt? q = some (.leaf node) := by rw [holds q, if_pos mem]
        rw [Namespace.conflicts_iff.mpr (.inr ⟨q, lead, same, node, file⟩)] at free
        cases free
      rw [if_neg above, if_pos mem, if_pos (.inr mem)]
    · have neither : ¬ (q = p ∨ q ∈ taken) := not_or.mpr ⟨same, mem⟩
      rw [if_neg mem, if_neg neither]
      by_cases above : p.isUnder q = true
      · rw [if_pos above, if_pos (.inl above)]
      · simp [above]

/-- What was there is in nobody's way: no file that is taken in is at its path, or goes
through a file. -/
theorem kept_of_holds (holds : ns.Holds node taken ns')
    (admitted : ∀ p ∈ taken, Admitted ns batch p) : ns.Kept ns' := by
  intro p kind there
  rw [holds p]
  split
  · next mem =>
      have noClash := (admitted p mem).2.2
      exact absurd (.inl (Namespace.conflicts_iff.mpr (.inl (by simp [there])))) noClash
  · next notTaken =>
      split
      · next below =>
          obtain ⟨a, mem, lead⟩ := below
          have noClash := (admitted a mem).2.2
          cases kind with
          | dir => rfl
          | leaf h =>
              have proper : p ≠ a := fun e => notTaken (e ▸ mem)
              exact absurd
                (.inl (Namespace.conflicts_iff.mpr (.inr ⟨p, lead, proper, h, there⟩))) noClash
      · exact there

/-- One more file without a property adds nothing to those that have it. -/
theorem mem_and_iff_concat_of_not {S : Path → Prop} {done : List Path} (lacks : ¬ S p) (q : Path) :
    q ∈ done ∧ S q ↔ q ∈ done ++ [p] ∧ S q := by
  simp only [List.mem_append, List.mem_singleton]
  constructor
  · rintro ⟨inDone, found⟩
    exact ⟨.inl inDone, found⟩
  · rintro ⟨inDone | rfl, found⟩
    · exact ⟨inDone, found⟩
    · exact absurd found lacks

/-- One more file with a property is added to those that have it. -/
theorem eq_or_mem_and_iff_concat {S : Path → Prop} {done : List Path} (has : S p) (q : Path) :
    q = p ∨ q ∈ done ∧ S q ↔ q ∈ done ++ [p] ∧ S q := by
  simp only [List.mem_append, List.mem_singleton]
  constructor
  · rintro (rfl | ⟨inDone, found⟩)
    · exact ⟨.inr rfl, has⟩
    · exact ⟨.inl inDone, found⟩
  · rintro ⟨inDone | rfl, found⟩
    · exact .inr ⟨inDone, found⟩
    · exact .inl rfl

/-- One file is looked at. -/
theorem Progress.step {done : List Path} {state : PathSet × Namespace}
    (progress : Progress ns node batch done state) (mem : p ∈ batch)
    (before : ∀ q ∈ done, q < p) (complete : ∀ q ∈ batch, q < p → q ∈ done) :
    ∃ next, takeIn node state p = (.ok (), next) ∧
      Progress ns node batch (done ++ [p]) next := by
  obtain ⟨duplicates, taken, members, holds⟩ := progress
  have here : state.2.conflicts p = true ↔ Clashes ns batch p := by
    refine conflicts_iff_clashes holds (fun q memQ => ?_) fun q admitted earlier => ?_
    · obtain ⟨inDone, admitted⟩ := (members q).mp memQ
      exact ⟨before q inDone, admitted⟩
    · exact (members q).mpr ⟨complete q admitted.1 earlier, admitted⟩
  rw [takeIn]
  cases root : p.isRoot with
  | true =>
      rw [if_pos rfl]
      refine ⟨state, rfl, fun q => ?_, taken, fun q => ?_, holds⟩
      · rw [duplicates q]
        exact mem_and_iff_concat_of_not (S := fun q => q.isRoot = false ∧ Clashes ns batch q)
          (by simp [root]) q
      · rw [members q]
        exact mem_and_iff_concat_of_not (S := Admitted ns batch) (by simp [Admitted, root]) q
  | false =>
      rw [if_neg (by simp)]
      by_cases clash : Clashes ns batch p
      · rw [if_pos (here.mpr clash)]
        refine ⟨_, rfl, fun q => ?_, taken, fun q => ?_, holds⟩
        · rw [SortedSet.mem_insert, duplicates q]
          exact eq_or_mem_and_iff_concat (S := fun q => q.isRoot = false ∧ Clashes ns batch q)
            ⟨root, clash⟩ q
        · rw [members q]
          exact mem_and_iff_concat_of_not (S := Admitted ns batch) (fun a => a.2.2 clash) q
      · have free : state.2.conflicts p = false := by
          by_contra there
          exact clash (here.mp (by simpa using there))
        obtain ⟨names, done'⟩ := Namespace.insert_isOk_of_not_conflicts (h := node) free
        have inserted : state.2.insertInPlace p node = (.ok (), names) := Namespace.edit_of_ok done'
        rw [if_neg (by simp [free]), inserted]
        refine ⟨_, rfl, fun q => ?_, p :: taken, fun q => ?_, holds_insert holds free done'⟩
        · rw [duplicates q]
          exact mem_and_iff_concat_of_not (S := fun q => q.isRoot = false ∧ Clashes ns batch q)
            (fun s => clash s.2) q
        · rw [List.mem_cons, members q]
          exact eq_or_mem_and_iff_concat (S := Admitted ns batch) ⟨mem, root, clash⟩ q

/-- All files are looked at, in path order. -/
theorem Progress.run {done rest : List Path} {state : PathSet × Namespace}
    (whole : batch.toList = done ++ rest) (progress : Progress ns node batch done state) :
    ∃ last, takeAll node rest state = (.ok (), last) ∧
      Progress ns node batch batch.toList last := by
  induction rest generalizing done state with
  | nil => exact ⟨state, rfl, by rw [whole, List.append_nil]; exact progress⟩
  | cons p rest ih =>
      have sorted := batch.sorted
      rw [whole, List.pairwise_append, List.pairwise_cons] at sorted
      obtain ⟨-, ⟨after, -⟩, across⟩ := sorted
      have mem : p ∈ batch.toList := by simp [whole]
      obtain ⟨next, stepped, progress⟩ := progress.step mem
        (fun q inDone => across q inDone p List.mem_cons_self) fun q inBatch earlier => by
          have : q ∈ done ++ p :: rest := whole ▸ inBatch
          rcases List.mem_append.mp this with inDone | later
          · exact inDone
          rcases List.mem_cons.mp later with rfl | later
          · exact absurd earlier (StrictTotal.irrefl _)
          · exact absurd (StrictTotal.trans earlier (after q later)) (StrictTotal.irrefl _)
      obtain ⟨last, rested, progress⟩ := ih (by simp [whole]) progress
      exact ⟨last, by rw [takeAll, stepped]; exact rested, progress⟩

/-- What a registration does to the namespace, and what it answers. -/
theorem takeAll_spec (ns : Namespace) (node : Handle) (batch : PathSet) :
    ∃ last, takeAll node batch.toList (∅, ns) = (.ok (), last) ∧
      Progress ns node batch batch.toList last := by
  have start : Progress ns node batch [] (∅, ns) := ⟨by simp, [], by simp, .nil ns node⟩
  exact Progress.run (by rfl) start

theorem register_of_mem {reg : Registry} (known : node ∈ reg.nodes) (files : PathSet) :
    reg.register node files = (.error (.alreadyRegistered node.text), reg) := by
  rw [register, if_pos known]

/-- A registration of a new node succeeds. Its duplicates are the files that clash,
and the namespace then has the other files besides what it had. -/
theorem register_of_not_mem {reg : Registry} (new : node ∉ reg.nodes) (files : PathSet) :
    ∃ duplicates names taken,
      reg.register node files = (.ok duplicates, { reg with names, nodes := reg.nodes ++ [node] }) ∧
      (∀ p, p ∈ duplicates ↔ p ∈ files ∧ p.isRoot = false ∧ Clashes reg.names files p) ∧
      (∀ p, p ∈ taken ↔ Admitted reg.names files p) ∧
      reg.names.Holds node taken names := by
  obtain ⟨⟨duplicates, names⟩, looked, found, taken, members, holds⟩ :=
    takeAll_spec reg.names node files
  refine ⟨duplicates, names, taken, ?_, found, fun p => ?_, holds⟩
  · rw [register, if_neg new, looked]
  · rw [members p]
    exact ⟨fun m => m.2, fun m => ⟨m.1, m⟩⟩

theorem kept_register (reg : Registry) (node : Handle) (files : PathSet) :
    reg.names.Kept (reg.register node files).2.names := by
  by_cases known : node ∈ reg.nodes
  · rw [register_of_mem known]
    exact .refl _
  · obtain ⟨duplicates, names, taken, answer, -, members, holds⟩ := register_of_not_mem known files
    rw [answer]
    exact kept_of_holds holds fun p mem => (members p).mp mem

/-- A registration is refused exactly when the node is registered already, and then
changes nothing. Otherwise it answers with the files that clash, and adds the node,
its other files and the directories that lead to them, and nothing else; whatever
was there stays as it was. -/
theorem registration_exact (reg : Registry) (node : Handle) (files : PathSet) :
    (node ∈ reg.nodes →
      reg.register node files = (.error (.alreadyRegistered node.text), reg)) ∧
    (node ∉ reg.nodes → ∃ duplicates names,
      reg.register node files = (.ok duplicates, { reg with names, nodes := reg.nodes ++ [node] }) ∧
      (∀ p, p ∈ duplicates ↔ p ∈ files ∧ p.isRoot = false ∧ (reg.names.conflicts p = true ∨
        ∃ q ∈ files, q.isRoot = false ∧ p.isUnder q = true ∧ q ≠ p ∧
          reg.names.conflicts q = false)) ∧
      (∀ p ∈ files, p.isRoot = false → p ∉ duplicates →
        names.kindAt? p = some (.leaf node) ∧
        ∀ q, p.isUnder q = true → q ≠ p → names.kindAt? q = some .dir) ∧
      (∀ p kind, reg.names.kindAt? p = some kind → names.kindAt? p = some kind) ∧
      (∀ p, names.kindAt? p ≠ none → reg.names.kindAt? p ≠ none ∨
        ∃ q ∈ files, q.isRoot = false ∧ q ∉ duplicates ∧ q.isUnder p = true)) := by
  refine ⟨fun known => register_of_mem known files, fun new => ?_⟩
  obtain ⟨duplicates, names, taken, answer, found, members, holds⟩ :=
    register_of_not_mem new files
  have admitted_iff : ∀ p, p ∈ taken ↔ p ∈ files ∧ p.isRoot = false ∧ p ∉ duplicates := by
    intro p
    rw [members p, found p, Admitted]
    tauto
  refine ⟨duplicates, names, answer, found, fun p mem notRoot kept => ?_,
    kept_of_holds holds fun p mem => (members p).mp mem, fun p there => ?_⟩
  · have mem := (admitted_iff p).mpr ⟨mem, notRoot, kept⟩
    have file : names.kindAt? p = some (.leaf node) := by rw [holds p, if_pos mem]
    exact ⟨file, fun q lead proper => Namespace.kindAt?_of_isUnder lead proper (by simp [file])⟩
  · rw [holds p] at there
    split at there
    · next mem =>
        obtain ⟨inFiles, notRoot, kept⟩ := (admitted_iff p).mp mem
        exact .inr ⟨p, inFiles, notRoot, kept, Path.isUnder_refl p⟩
    · split at there
      · next below =>
          obtain ⟨a, mem, lead⟩ := below
          obtain ⟨inFiles, notRoot, kept⟩ := (admitted_iff a).mp mem
          exact .inr ⟨a, inFiles, notRoot, kept, lead⟩
      · exact .inl there

end Registry

end Dfs
