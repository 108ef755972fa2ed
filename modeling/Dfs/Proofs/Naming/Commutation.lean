import Dfs.Proofs.Naming.Coherence

/-!
Two registrations in either order. If no file of one batch leads to a file of the other, the
files that the first node brings are on nobody's way: the second batch meets in the larger
namespace what it would have met before (`conflicts_of_apart`), so it has the same duplicates
and the same files are taken in. At every path the two orders leave the same
(`holds_swap`), and hence the same names (`registrations_commute`).
-/

namespace Dfs

namespace Registry

variable {ns ns' : Namespace} {node : Handle} {batch other : PathSet} {taken : List Path} {p : Path}

/-- No file of one batch is that of the other or leads to it. The root is no file. -/
def Independent (batch other : PathSet) : Prop :=
  ∀ p ∈ batch, p.isRoot = false → ∀ q ∈ other, q.isRoot = false →
    p.isUnder q = false ∧ q.isUnder p = false

theorem Independent.symm (independent : Independent batch other) : Independent other batch :=
  fun p memP rootP q memQ rootQ => (independent q memQ rootQ p memP rootP).symm

/-! ### The second batch -/

/-- Files that were taken in are in nobody's way, other than that of the paths which they lead to
or which lead to them. -/
theorem conflicts_of_apart (holds : ns.Holds node taken ns')
    (admitted : ∀ a ∈ taken, Admitted ns batch a)
    (apart : ∀ a ∈ taken, a.isUnder p = false ∧ p.isUnder a = false) :
    ns'.conflicts p = ns.conflicts p := by
  have here : ns'.kindAt? p = ns.kindAt? p := by
    rw [holds p, if_neg, if_neg]
    · rintro ⟨a, mem, lead⟩
      rw [(apart a mem).1] at lead
      cases lead
    · intro mem
      have self := (apart p mem).1
      rw [Path.isUnder_refl] at self
      cases self
  have files : ∀ q h, p.isUnder q = true →
      (ns'.kindAt? q = some (.leaf h) ↔ ns.kindAt? q = some (.leaf h)) := by
    intro q h lead
    constructor
    · intro file
      rw [holds q] at file
      split at file
      · next mem =>
          rw [(apart q mem).2] at lead
          cases lead
      · split at file
        · cases file
        · exact file
    · exact kept_of_holds holds admitted q (.leaf h)
  rw [Bool.eq_iff_iff, Namespace.conflicts_iff, Namespace.conflicts_iff, here]
  refine or_congr Iff.rfl (exists_congr fun q => and_congr_right fun lead =>
    and_congr_right fun _ => exists_congr fun h => files q h lead)

variable (independent : Independent batch other) (holds : ns.Holds node taken ns')
  (admitted : ∀ a ∈ taken, Admitted ns batch a)

include independent holds admitted

theorem conflicts_of_independent (mem : p ∈ other) (notRoot : p.isRoot = false) :
    ns'.conflicts p = ns.conflicts p :=
  conflicts_of_apart holds admitted fun a memA =>
    independent a (admitted a memA).1 (admitted a memA).2.1 p mem notRoot

/-- The second batch clashes with what was there before the first one, or with itself. -/
theorem clashes_of_independent (mem : p ∈ other) (notRoot : p.isRoot = false) :
    Clashes ns' other p ↔ Clashes ns other p := by
  unfold Clashes
  rw [conflicts_of_independent independent holds admitted mem notRoot]
  refine or_congr Iff.rfl (exists_congr fun q => and_congr_right fun memQ =>
    and_congr_right fun notRootQ => ?_)
  rw [conflicts_of_independent independent holds admitted memQ notRootQ]

theorem admitted_of_independent : Admitted ns' other p ↔ Admitted ns other p :=
  and_congr_right fun mem => and_congr_right fun notRoot =>
    not_congr (clashes_of_independent independent holds admitted mem notRoot)

end Registry

/-! ### Both orders -/

namespace Namespace

theorem Holds.of_mem_iff {ns ns' : Namespace} {node : Handle} {xs ys : List Path}
    (holds : ns.Holds node xs ns') (same : ∀ p, p ∈ xs ↔ p ∈ ys) : ns.Holds node ys ns' := by
  intro q
  simpa only [same] using holds q

/-- Files of two nodes that are apart can be added in either order. -/
theorem holds_swap {ns ns₁ ns₂ ns₁₂ ns₂₁ : Namespace} {a b : Handle} {xs ys : List Path}
    (first : ns.Holds a xs ns₁) (second : ns₁.Holds b ys ns₁₂)
    (first' : ns.Holds b ys ns₂) (second' : ns₂.Holds a xs ns₂₁)
    (apart : ∀ x ∈ xs, ∀ y ∈ ys, x.isUnder y = false ∧ y.isUnder x = false) (q : Path) :
    ns₁₂.kindAt? q = ns₂₁.kindAt? q := by
  have onlyFirst : q ∈ xs → q ∉ ys ∧ ¬ ∃ y ∈ ys, y.isUnder q = true := by
    intro mem
    refine ⟨fun mem' => ?_, fun ⟨y, mem', lead⟩ => ?_⟩
    · have self := (apart q mem q mem').1
      rw [Path.isUnder_refl] at self
      cases self
    · rw [(apart q mem y mem').2] at lead
      cases lead
  have onlySecond : q ∈ ys → ¬ ∃ x ∈ xs, x.isUnder q = true := by
    rintro mem' ⟨x, mem, lead⟩
    rw [(apart x mem q mem').1] at lead
    cases lead
  rw [second q, first q, second' q, first' q]
  by_cases inFirst : q ∈ xs
  · rw [if_neg (onlyFirst inFirst).1, if_neg (onlyFirst inFirst).2, if_pos inFirst, if_pos inFirst]
  · rw [if_neg inFirst, if_neg inFirst]
    by_cases inSecond : q ∈ ys
    · rw [if_pos inSecond, if_neg (onlySecond inSecond), if_pos inSecond]
    · rw [if_neg inSecond, if_neg inSecond]
      -- What is left is a directory if it leads to a file of either node.
      split <;> split <;> rfl

end Namespace

namespace Registry

variable {reg : Registry} {a b : Handle} {A B : PathSet}

/-- What two registrations come to, one after the other: the second one has the duplicates and
takes in the files that it would have by itself. -/
theorem register_register (distinct : a ≠ b) (newA : a ∉ reg.nodes) (newB : b ∉ reg.nodes)
    (independent : Independent A B) : ∃ da db names names' xs ys,
      reg.register a A = (.ok da, { reg with names, nodes := reg.nodes ++ [a] }) ∧
      (reg.register a A).2.register b B =
        (.ok db, { reg with names := names', nodes := reg.nodes ++ [a, b] }) ∧
      (∀ p, p ∈ da ↔ p ∈ A ∧ p.isRoot = false ∧ Clashes reg.names A p) ∧
      (∀ p, p ∈ db ↔ p ∈ B ∧ p.isRoot = false ∧ Clashes reg.names B p) ∧
      (∀ p, p ∈ xs ↔ Admitted reg.names A p) ∧ (∀ p, p ∈ ys ↔ Admitted reg.names B p) ∧
      reg.names.Holds a xs names ∧ names.Holds b ys names' := by
  obtain ⟨da, names, xs, first, foundA, membersA, holdsA⟩ := register_of_not_mem newA A
  have newB' : b ∉ reg.nodes ++ [a] := by
    rw [List.mem_append, List.mem_singleton, not_or]
    exact ⟨newB, Ne.symm distinct⟩
  obtain ⟨db, names', ys, second, foundB, membersB, holdsB⟩ :=
    @register_of_not_mem b { reg with names, nodes := reg.nodes ++ [a] } newB' B
  have admitted : ∀ x ∈ xs, Admitted reg.names A x := fun x mem => (membersA x).mp mem
  refine ⟨da, db, names, names', xs, ys, first, ?_, foundA, fun p => ?_, membersA, fun p => ?_,
    holdsA, holdsB⟩
  · rw [first, second, List.append_assoc]
    rfl
  · rw [foundB p]
    exact and_congr_right fun mem => and_congr_right fun notRoot =>
      clashes_of_independent independent holdsA admitted mem notRoot
  · rw [membersB p]
    exact admitted_of_independent independent holdsA admitted

end Registry

namespace Session

open Registry

variable {s : Session} {events : List Event} {a b : Handle} {A B : PathSet}

/-- Two new nodes register, and no file of the one is that of the other or leads to it. Each of
them is told the same duplicates, whichever comes first. The registry is the same in the end,
but for the order of the nodes; so every path is looked up with the same result, and every
file has the same owner. -/
theorem registrations_commute (run : Run start events s) (distinct : a ≠ b)
    (newA : a ∉ s.registry.nodes) (newB : b ∉ s.registry.nodes) (independent : Independent A B) :
    let reg := s.registry
    ∃ duplicatesA duplicatesB names,
      (reg.register a A).1 = .ok duplicatesA ∧
      (reg.register a A).2.register b B =
        (.ok duplicatesB, { reg with names, nodes := reg.nodes ++ [a, b] }) ∧
      (reg.register b B).1 = .ok duplicatesB ∧
      (reg.register b B).2.register a A =
        (.ok duplicatesA, { reg with names, nodes := reg.nodes ++ [b, a] }) := by
  intro reg
  obtain ⟨da, db, names₁, names, xs, ys, first, second, foundA, foundB, membersA, membersB,
    holds₁, holds⟩ := register_register distinct newA newB independent
  obtain ⟨db', da', names₂, names', ys', xs', first', second', foundB', foundA', membersB',
    membersA', holds₂, holds'⟩ :=
    register_register (Ne.symm distinct) newB newA independent.symm
  have sameA : da = da' := SortedSet.ext_mem fun p => (foundA p).trans (foundA' p).symm
  have sameB : db = db' := SortedSet.ext_mem fun p => (foundB p).trans (foundB' p).symm
  have sameNames : names = names' := by
    have coherent := run.coherent
    have ordered : names.Ordered := by
      have both := (grows_register reg a A).trans (grows_register _ b B)
      rw [second] at both
      exact (both.coherent coherent).ordered
    have ordered' : names'.Ordered := by
      have both := (grows_register reg b B).trans (grows_register _ a A)
      rw [second'] at both
      exact (both.coherent coherent).ordered
    have swapped₂ := holds₂.of_mem_iff fun p => (membersB' p).trans (membersB p).symm
    have swapped := holds'.of_mem_iff fun p => (membersA' p).trans (membersA p).symm
    refine ordered.ext ordered'
      (Namespace.holds_swap holds₁ holds swapped₂ swapped fun x mem y mem' => ?_)
    obtain ⟨memA, notRootA, -⟩ := (membersA x).mp mem
    obtain ⟨memB, notRootB, -⟩ := (membersB y).mp mem'
    exact independent x memA notRootA y memB notRootB
  subst sameA sameB sameNames
  exact ⟨da, db, names, by rw [first], second, by rw [first'], second'⟩

/-- With the file `/d` in the namespace, each node gives up its file below it, and both have a
file in the directory `/s`. -/
theorem registrations_commute_side_by_side :
    let d : Path := ⟨[⟨"d", by decide⟩]⟩
    let s : Path := ⟨[⟨"s", by decide⟩]⟩
    let x : Name := ⟨"x", by decide⟩
    let y : Name := ⟨"y", by decide⟩
    let node : Handle := ⟨.loopback 7000, .loopback 7001⟩
    let a : Handle := ⟨.loopback 8000, .loopback 8001⟩
    let b : Handle := ⟨.loopback 9000, .loopback 9001⟩
    let A : PathSet := .ofList [d.child x, s.child x]
    let B : PathSet := .ofList [d.child y, s.child y]
    ∃ t : Session, ∃ names,
      Run start [.served .registration
        (.register (some node.storage) (some node.command) (some (.ofList [d])))] t ∧
      a ∉ t.registry.nodes ∧ b ∉ t.registry.nodes ∧ Independent A B ∧
      (t.registry.register a A).2.register b B =
        (.ok (.ofList [d.child y]), { t.registry with names, nodes := [node, a, b] }) ∧
      (t.registry.register b B).2.register a A =
        (.ok (.ofList [d.child x]), { t.registry with names, nodes := [node, b, a] }) := by
  intro d s x y node a b A B
  have run := Run.cons
    (.node start (.register (some node.storage) (some node.command) (some (.ofList [d])))) (.nil _)
  have newA : a ∉ (Registry.empty.register node (.ofList [d])).2.nodes := by decide
  have newB : b ∉ (Registry.empty.register node (.ofList [d])).2.nodes := by decide
  have independent : Independent A B := by
    unfold Independent
    decide
  obtain ⟨da, db, names, alone, second, alone', second'⟩ :=
    registrations_commute run (by decide) newA newB independent
  have sameA : da = .ofList [d.child x] := Except.ok.inj (alone.symm.trans rfl)
  have sameB : db = .ofList [d.child y] := Except.ok.inj (alone'.symm.trans rfl)
  subst sameA sameB
  exact ⟨_, names, run, newA, newB, independent, second, second'⟩

end Session

end Dfs
