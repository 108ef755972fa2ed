import Dfs.Proofs.Namespace.Order
import Dfs.Proofs.Naming.Handles
import Dfs.Proofs.Naming.Ownership

/-!
What always holds of a registry. Its nodes are distinct, each file belongs to one of them,
and directories are in the order of the names (`Coherent`). Nodes are added, at the end
of the list, and never taken away. Both are kept by each operation (`Grows`), and so
between any two events of a run (`registry_invariant`).
-/

namespace Dfs

namespace Registry

variable {reg reg' reg'' : Registry} {p d : Path} {node : Handle} {σ : Type}

/-- What holds of a registry between any two events. -/
structure Coherent (reg : Registry) : Prop where
  distinct : reg.nodes.Nodup
  known : ∀ h, reg.Knows h → h ∈ reg.nodes
  ordered : reg.names.Ordered

theorem coherent_empty : empty.Coherent where
  distinct := List.nodup_nil
  known := by
    rintro h (mem | ⟨p, file⟩)
    · exact mem
    · exact absurd file (Namespace.kindAt?_empty_ne_leaf p h)
  ordered := Namespace.ordered_empty

/-- A change that adds nodes at the end, if any, and keeps a registry coherent. -/
structure Grows (reg reg' : Registry) : Prop where
  nodes : reg.nodes <+: reg'.nodes
  coherent : reg.Coherent → reg'.Coherent

theorem Grows.refl (reg : Registry) : Grows reg reg := ⟨List.prefix_rfl, id⟩

theorem Grows.trans (first : Grows reg reg') (second : Grows reg' reg'') : Grows reg reg'' :=
  ⟨first.nodes.trans second.nodes, fun coherent => second.coherent (first.coherent coherent)⟩

/-- A change to the names that brings no handle. -/
theorem Grows.of_nodes (nodes : reg'.nodes = reg.nodes) (known : ∀ h, reg'.Knows h → reg.Knows h)
    (ordered : reg.names.Ordered → reg'.names.Ordered) : Grows reg reg' where
  nodes := by rw [nodes]
  coherent coherent :=
    { distinct := nodes ▸ coherent.distinct
      known := fun h knows => nodes ▸ coherent.known h (known h knows)
      ordered := ordered coherent.ordered }

/-! ### Operations -/

/-- Files are taken in at their places in the order. -/
theorem ordered_takeAll {state : PathSet × Namespace} (ordered : state.2.Ordered) (node : Handle)
    (paths : List Path) : (takeAll node paths state).2.2.Ordered := by
  induction paths generalizing state with
  | nil => exact ordered
  | cons p rest ih =>
      have next : (takeIn node state p).2.2.Ordered := by
        unfold takeIn
        split
        · exact ordered
        split
        · exact ordered
        · exact ordered.edit (Namespace.ordered_of_file node) p
      rw [takeAll]
      generalize takeIn node state p = taken at next ⊢
      obtain ⟨answer, state'⟩ := taken
      cases answer with
      | error e => exact next
      | ok done => exact ih next

theorem grows_register (reg : Registry) (node : Handle) (files : PathSet) :
    Grows reg (reg.register node files).2 := by
  by_cases old : node ∈ reg.nodes
  · rw [register_of_mem old]
    exact .refl reg
  obtain ⟨last, looked, -⟩ := takeAll_spec reg.names node files
  have registered : reg.register node files =
      (.ok last.1, { reg with names := last.2, nodes := reg.nodes ++ [node] }) := by
    rw [register, if_neg old, looked]
  refine ⟨?_, fun coherent => ⟨?_, fun h known => ?_, ?_⟩⟩
  · rw [registered]
    exact List.prefix_append _ _
  · rw [registered]
    refine List.nodup_append.mpr ⟨coherent.distinct, by simp, ?_⟩
    rintro h mem h' mem' rfl
    rw [List.mem_singleton.mp mem'] at mem
    exact old mem
  · have member : h ∈ reg.nodes ∨ h = node := (knows_register known).imp_left (coherent.known h)
    rw [registered]
    exact List.mem_append.mpr (member.imp_right List.mem_singleton.mpr)
  · have ordered : (takeAll node files.toList (∅, reg.names)).2.2.Ordered :=
      ordered_takeAll coherent.ordered node files.toList
    rw [looked] at ordered
    rw [registered]
    exact ordered

theorem grows_createDirectory (reg : Registry) (p : Path) :
    Grows reg (reg.createDirectory p).2 := by
  refine .of_nodes ?_ (fun h => knows_createDirectory) fun ordered => ?_
  · rcases createDirectory_cases reg p with same | ⟨-, names, changed, -⟩
    · rw [same]
    · rw [changed]
  · rw [createDirectory]
    split
    · exact ordered
    split
    · exact ordered
    split
    · next names done => exact ordered.insertDirectory done
    · exact ordered

theorem ordered_of_reserved (ordered : reg.names.Ordered)
    (reserved : reg.reserve p = .reserved node reg') : reg'.names.Ordered := by
  obtain ⟨-, -, -, names, inserted, rfl⟩ := insert_of_reserved reserved
  exact ordered.insert inserted

theorem grows_of_reserved (reserved : reg.reserve p = .reserved node reg') : Grows reg reg' := by
  obtain ⟨-, -, nodes, -, -⟩ := reserve_eq_reserved reserved
  exact .of_nodes nodes (fun h => knows_of_reserved reserved) fun ordered =>
    ordered_of_reserved ordered reserved

theorem ordered_withdraw (ordered : reg.names.Ordered) (p : Path) (node : Handle) :
    (reg.withdraw p node).names.Ordered := by
  rw [withdraw]
  split
  · split
    · next entry names done => exact ordered.remove done
    · exact ordered
  · exact ordered

theorem grows_settle (reg : Registry) (p : Path) (node : Handle) (reply : Except Error Bool) :
    Grows reg (reg.settle p node reply).2 := by
  refine .of_nodes ?_ (fun h => knows_settle) fun ordered => ?_
  · rcases settle_cases reg p node reply with same | same
    · rw [same]
    · rw [same, nodes_withdraw]
  · rcases settle_cases reg p node reply with same | same
    · rwa [same]
    · rw [same]
      exact ordered_withdraw ordered p node

theorem grows_createFile (calls : NodeCalls σ) (reg : Registry) (p : Path) (w : σ) :
    Grows reg (reg.createFile calls p w).2.1 := by
  cases reserved : reg.reserve p with
  | settled answer =>
      rw [createFile_of_settled reserved]
      exact .refl reg
  | reserved node reg' =>
      rw [createFile_of_reserved reserved rfl]
      exact (grows_of_reserved reserved).trans (grows_settle reg' p node _)

theorem grows_delete (calls : NodeCalls σ) (reg : Registry) (p : Path) (w : σ) :
    Grows reg (reg.delete calls p w).2.1 := by
  refine .of_nodes ?_ (fun h => knows_delete) fun ordered => ?_
  · rcases names_delete calls reg p w with same | ⟨-, names, changed, -⟩
    · rw [same]
    · rw [changed]
  · rcases delete_cases calls reg p w with ⟨-, kept⟩ | ⟨-, entry, names, removed, deleted⟩
    · rwa [kept]
    · rw [deleted]
      exact ordered.remove removed

theorem grows_serveClient (calls : NodeCalls σ) (reg : Registry) (r : Request) (w : σ) :
    Grows reg (reg.serveClient calls r w).2.1 := by
  cases r with
  | createFile p => exact grows_createFile calls reg p w
  | createDirectory p => exact grows_createDirectory reg p
  | deletePath p => exact grows_delete calls reg p w
  | _ => exact .refl reg

theorem grows_serveNode (reg : Registry) (r : Request) : Grows reg (reg.serveNode r).2 := by
  cases r with
  | register storage command files =>
      rw [serveNode]
      split
      · exact .refl reg
      next node _ =>
      split
      · exact .refl reg
      next files =>
      exact grows_register reg node files
  | _ => exact .refl reg

/-! ### Listings -/

/-- A directory is listed with the texts that lead from it to what is there. -/
theorem mem_list_iff {texts : NameSet} (listed : reg.list d = .ok texts) {text : String} :
    text ∈ texts ↔ ∃ q, d.join text = .ok q ∧ reg.contains q = true := by
  rw [list] at listed
  cases found : reg.names.list d with
  | error e =>
      rw [found] at listed
      cases listed
  | ok names =>
      rw [found] at listed
      cases listed
      rw [SortedSet.mem_ofList, List.mem_map]
      simp only [contains, Namespace.contains_iff, Path.join_eq_ok_iff]
      constructor
      · rintro ⟨n, mem, rfl⟩
        exact ⟨d.child n, ⟨n, rfl, rfl⟩, (Namespace.mem_list_iff found).mp mem⟩
      · rintro ⟨q, ⟨n, rfl, rfl⟩, there⟩
        exact ⟨n, (Namespace.mem_list_iff found).mpr there, rfl⟩

/-- What is not the root is listed by the directory that it is in. -/
theorem exists_mem_list (there : reg.contains p = true) (notRoot : p.isRoot = false) :
    ∃ (d : Path) (n : Name) (texts : NameSet),
      p = d.child n ∧ reg.list d = .ok texts ∧ n.text ∈ texts := by
  obtain ⟨d, n, rfl⟩ := Path.exists_eq_child notRoot
  have lead : (d.child n).isUnder d = true := Path.isUnder_iff.mpr (List.prefix_append _ _)
  have other : d ≠ d.child n := by
    intro same
    simpa [Path.child] using congrArg (fun q => q.components.length) same
  have dir := Namespace.kindAt?_of_isUnder lead other (Namespace.contains_iff.mp there)
  obtain ⟨names, found⟩ := Namespace.exists_list_iff.mpr dir
  have listed : reg.list d = .ok (.ofList (names.map Name.text)) := by rw [list, found]
  refine ⟨d, n, _, rfl, listed, (mem_list_iff listed).mpr ⟨d.child n, ?_, there⟩⟩
  exact Path.join_eq_ok_iff.mpr ⟨n, rfl, rfl⟩

end Registry

namespace Session

variable {s t : Session} {e : Event} {events events' : List Event}

/-- A naming service starts with nothing registered. -/
def start : Session := ⟨.empty, []⟩

theorem Step.grows (step : Step s e t) : Registry.Grows s.registry t.registry := by
  cases step with
  | client calls world s r => exact Registry.grows_serveClient calls s.registry r world
  | node s r => exact Registry.grows_serveNode s.registry r
  | reserve reserved => exact Registry.grows_of_reserved reserved
  | answer reply waits => exact Registry.grows_settle s.registry _ _ reply

theorem Run.grows (run : Run s events t) : Registry.Grows s.registry t.registry := by
  induction run with
  | nil s => exact .refl _
  | cons step rest ih => exact step.grows.trans ih

theorem Run.coherent (run : Run start events s) : s.registry.Coherent :=
  run.grows.coherent Registry.coherent_empty

/-- Whatever clients and storage nodes do, and whatever nodes answer, no handle is twice
among the nodes, and those of an earlier moment begin the list of a later one, in their
order, and are refused when they register again. Every file belongs to a node of the list.
Everything but the root is listed by the directory that it is in, under a name that can be
a component of a path and leads to it. -/
theorem registry_invariant (run : Run start events s) (later : Run s events' t) :
    s.registry.nodes.Nodup ∧ s.registry.nodes <+: t.registry.nodes ∧
    (∀ node ∈ s.registry.nodes, ∀ files, t.registry.register node files =
      (.error (.alreadyRegistered node.text), t.registry)) ∧
    (∀ p node, s.registry.owner p = .ok node → node ∈ s.registry.nodes) ∧
    (∀ p, s.registry.contains p = true → p.isRoot = false → ∃ (d : Path) (n : Name)
      (texts : NameSet), p = d.child n ∧ s.registry.list d = .ok texts ∧ n.text ∈ texts) ∧
    ∀ d texts, s.registry.list d = .ok texts → ∀ text ∈ texts,
      text ≠ "" ∧ separator ∉ text.toList ∧ delimiter ∉ text.toList ∧
        ∃ q, d.join text = .ok q ∧ s.registry.contains q = true := by
  have coherent := run.coherent
  have nodes := later.grows.nodes
  refine ⟨coherent.distinct, nodes, fun node mem files => ?_, fun p node owner => ?_,
    fun p => Registry.exists_mem_list, fun d texts listed text mem => ?_⟩
  · exact Registry.register_of_mem (nodes.subset mem) files
  · exact coherent.known node (.inr ⟨p, Registry.owner_eq_ok_iff.mp owner⟩)
  · obtain ⟨q, joined, there⟩ := (Registry.mem_list_iff listed).mp mem
    obtain ⟨n, rfl, -⟩ := Path.join_eq_ok_iff.mp joined
    obtain ⟨nonempty, noSeparator, noDelimiter⟩ := Name.isValid_iff.mp n.valid
    refine ⟨fun empty => nonempty ?_, noSeparator, noDelimiter, q, joined, there⟩
    rw [empty]
    rfl

/-- A second node registers between the reservation of a file and the answer to it. -/
theorem registry_invariant_amid_creation :
    let a : Path := ⟨[⟨"a", by decide⟩]⟩
    let b : Path := ⟨[⟨"b", by decide⟩]⟩
    let node : Handle := ⟨.loopback 7000, .loopback 7001⟩
    let other : Handle := ⟨.loopback 8000, .loopback 8001⟩
    let files : PathSet := .ofList [a]
    ∃ s t : Session,
      Run start
        [.served .registration (.register (some node.storage) (some node.command) (some files)),
          .reserved b node,
          .served .registration (.register (some other.storage) (some other.command) (some files))]
        s ∧
      Run s [.answered b node (.ok false), .served .service (.deletePath a)] t ∧
      s.registry.nodes = [node, other] ∧ s.registry.nodes.Nodup ∧
      s.registry.nodes <+: t.registry.nodes ∧
      t.registry.register other files = (.error (.alreadyRegistered other.text), t.registry) := by
  intro a b node other files
  let s₁ : Session := ⟨(Registry.empty.register node files).2, []⟩
  have run := Run.cons
    (.node start (.register (some node.storage) (some node.command) (some files)))
    (.cons (Step.reserve (s := s₁) (p := b) rfl)
      (.cons (.node _ (.register (some other.storage) (some other.command) (some files))) (.nil _)))
  have later (s : Session) (waits : (b, node) ∈ s.waiting) := Run.cons (.answer (.ok false) waits)
    (.cons (.client (σ := Unit) ⟨fun _ _ s => (.ok true, s), fun _ _ s => (.ok true, s)⟩ () _
      (.deletePath a)) (.nil _))
  obtain ⟨distinct, grown, refused, -⟩ := registry_invariant run (later _ List.mem_cons_self)
  exact ⟨_, _, run, later _ List.mem_cons_self, rfl, distinct, grown,
    refused other (List.mem_cons_of_mem _ List.mem_cons_self) files⟩

end Session

end Dfs
