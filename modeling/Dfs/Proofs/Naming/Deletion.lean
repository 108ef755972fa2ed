import Dfs.Proofs.Exchange
import Dfs.Proofs.Naming.Coherence

/-!
Deletion. A path is taken out of the names with all that is below it, and then every
owner of a file there is asked to delete it, each once and in the order of the handles
(`askAll_recorded`). Errors of nodes neither stop the others from being asked nor bring the
path back; the first of them is the answer (`verdict_of_error`).

`delete_complete` puts this together.
-/

namespace Dfs

namespace Registry

variable {reg : Registry} {p : Path} {h : Handle} {names : Namespace} {entry : Entry} {σ : Type}

/-- The owners of an entry are those of the files at or below its path. -/
theorem mem_owners_iff (ordered : reg.names.Ordered)
    (removed : reg.names.remove p = some (entry, names)) : h ∈ Entry.owners entry ↔
      ∃ q, q.isUnder p = true ∧ reg.names.kindAt? q = some (.leaf h) := by
  refine ⟨fun mem => ?_, fun ⟨q, below, file⟩ => mem_owners removed below file⟩
  obtain ⟨found, -⟩ := Namespace.remove_eq_some_iff.mp removed
  have there : (Tree.dir reg.names.top).get? p.components = some entry := by
    rwa [Namespace.lookup_of_not_isRoot (Namespace.not_isRoot_of_lookup found)] at found
  rw [Entry.owners, SortedSet.mem_ofList, List.mem_map] at mem
  obtain ⟨⟨rest, owner⟩, listed, rfl⟩ := mem
  refine ⟨⟨p.components ++ rest⟩, Path.isUnder_iff.mpr (List.prefix_append _ _), ?_⟩
  rw [Namespace.kindAt?, Tree.kindAt?_append there, Tree.kindAt?_eq_leaf_iff]
  exact (Tree.mem_leaves_iff (Tree.Ordered.get? ordered there)).mp listed

/-! ### Asking -/

/-- Nodes that are asked in turn: each is sent the one command, in the order of the list. -/
theorem askAll_recorded (ask : Caller σ) (p : Path) (nodes : List Handle) (record : List Exchange)
    (w : σ) : ∃ (asked : List (Handle × Exchange)) (w' : σ),
      askAll (Call.nodeCalls ask) p nodes w = (asked.map fun x => (x.1, x.2.answer), w') ∧
      askAll (Call.nodeCalls ask.recorded) p nodes (record, w) =
        (asked.map fun x => (x.1, x.2.answer), record ++ asked.map Prod.snd, w') ∧
      asked.map Prod.fst = nodes ∧
      ∀ x ∈ asked, x.2.target = x.1.command ∧ x.2.request = .delete p := by
  induction nodes generalizing record w with
  | nil => exact ⟨[], w, rfl, by simp [askAll], rfl, by simp⟩
  | cons node nodes ih =>
      obtain ⟨asked, w', plain, recorded, order, commands⟩ :=
        ih (record ++ [ask.exchange node.command (.delete p) w])
          (ask node.command (.delete p) w).2
      have plainFirst : (Call.nodeCalls ask).delete node p w = _ :=
        Call.invoke_toBool ask node.command (.delete p) w
      have recordedFirst : (Call.nodeCalls ask.recorded).delete node p (record, w) = _ :=
        Call.invoke_toBool_recorded ask node.command (.delete p) record w
      refine ⟨(node, ask.exchange node.command (.delete p) w) :: asked, w', ?_, ?_, ?_, ?_⟩
      · rw [askAll, plainFirst]
        simp only [plain, List.map_cons]
      · rw [askAll, recordedFirst]
        simp only [recorded, List.map_cons, List.append_assoc, List.cons_append, List.nil_append]
      · rw [List.map_cons, order]
      · intro y mem
        rcases List.mem_cons.mp mem with rfl | mem
        · exact ⟨rfl, rfl⟩
        · exact commands y mem

/-! ### Answering -/

/-- The first error is the answer. -/
theorem verdict_of_error {before after : List (Handle × Except Error Bool)} {node : Handle}
    {e : Error} (answered : ∀ x ∈ before, ∃ deleted, x.2 = .ok deleted) :
    verdict (before ++ (node, .error e) :: after) = .error (ofNode node e) := by
  induction before with
  | nil => rfl
  | cons x before ih =>
      obtain ⟨other, reply⟩ := x
      obtain ⟨deleted, rfl⟩ := answered _ List.mem_cons_self
      rw [List.cons_append, verdict, ih fun y mem => answered y (List.mem_cons_of_mem _ mem)]
      rfl

/-- Without errors the answer is whether every node has deleted its part. -/
theorem verdict_of_answered {replies : List (Handle × Except Error Bool)}
    (answered : ∀ x ∈ replies, ∃ deleted, x.2 = .ok deleted) :
    verdict replies = .ok (decide (∀ x ∈ replies, x.2 = .ok true)) := by
  induction replies with
  | nil => rfl
  | cons x replies ih =>
      obtain ⟨node, reply⟩ := x
      obtain ⟨deleted, rfl⟩ := answered _ List.mem_cons_self
      rw [verdict, ih fun y mem => answered y (List.mem_cons_of_mem _ mem)]
      cases deleted <;> simp [Except.map]

theorem verdict_of_deleted {replies : List (Handle × Except Error Bool)}
    (deleted : ∀ x ∈ replies, x.2 = .ok true) : verdict replies = .ok true := by
  rw [verdict_of_answered fun x mem => ⟨true, deleted x mem⟩, decide_eq_true deleted]

theorem verdict_of_refused {replies : List (Handle × Except Error Bool)}
    (answered : ∀ x ∈ replies, ∃ deleted, x.2 = .ok deleted)
    (refused : ∃ x ∈ replies, x.2 = .ok false) : verdict replies = .ok false := by
  have notAll : ¬ ∀ x ∈ replies, x.2 = .ok true := by
    intro deleted
    obtain ⟨x, mem, refuses⟩ := refused
    rw [deleted x mem] at refuses
    cases refuses
  rw [verdict_of_answered answered, decide_eq_false notAll]

end Registry

namespace Session

open Registry

variable {s : Session} {events : List Event} {σ : Type}

/-- The root is not deleted, and what is not there is not found; then no node is asked and
nothing changes. Otherwise each owner of a file at or below the path is sent one command, to
delete the path, in the order of the handles and whatever the others reply, and nobody
else is sent anything. The path and all below it are gone then, and the rest of the names, the
nodes and the turn are as before. The answer is the first error, if there is one, and else
whether all have deleted their part. -/
theorem delete_complete (run : Run start events s) (ask : Caller σ) (p : Path) (w : σ) :
    (p.isRoot = true → s.registry.delete (Call.nodeCalls ask.recorded) p ([], w) =
      (.ok false, s.registry, [], w)) ∧
    (s.registry.contains p = false → s.registry.delete (Call.nodeCalls ask.recorded) p ([], w) =
      (.error (.notFound p.text), s.registry, [], w)) ∧
    (p.isRoot = false → s.registry.contains p = true →
      ∃ answer names w', ∃ asked : List (Handle × Exchange),
        s.registry.delete (Call.nodeCalls ask) p w = (answer, { s.registry with names }, w') ∧
        s.registry.delete (Call.nodeCalls ask.recorded) p ([], w) =
          (answer, { s.registry with names }, asked.map Prod.snd, w') ∧
        (∀ q, names.kindAt? q = if q.isUnder p then none else s.registry.names.kindAt? q) ∧
        (asked.map Prod.fst).Pairwise (· < ·) ∧
        (∀ h, h ∈ asked.map Prod.fst ↔ ∃ q, q.isUnder p = true ∧ s.registry.owner q = .ok h) ∧
        (∀ x ∈ asked, x.2.target = x.1.command ∧ x.2.request = .delete p) ∧
        (∀ before node x e after, asked = before ++ (node, x) :: after →
          (∀ y ∈ before, ∃ deleted, y.2.answer = .ok deleted) → x.answer = .error e →
          answer = .error
            (if e.isTransport then .unavailable s!"storage node {node}: {e.text}" else e)) ∧
        ((∀ x ∈ asked, x.2.answer = .ok true) → answer = .ok true) ∧
        ((∀ x ∈ asked, ∃ deleted, x.2.answer = .ok deleted) →
          (∃ x ∈ asked, x.2.answer = .ok false) → answer = .ok false)) := by
  refine ⟨fun root => ?_, fun absent => ?_, fun notRoot there => ?_⟩
  · rw [delete, if_pos root]
  · have nothing := contains_eq_false_iff.mp absent
    have notRoot : p.isRoot = false := Namespace.isRoot_eq_false nothing (by simp)
    rw [delete, if_neg (by simp [notRoot]), Namespace.remove_eq_none_iff.mpr (.inr nothing)]
  · obtain ⟨entry, names, removed⟩ :=
      Namespace.exists_removed notRoot (Namespace.contains_iff.mp there)
    obtain ⟨asked, w', plain, recorded, order, commands⟩ :=
      askAll_recorded ask p (Entry.owners entry).toList [] w
    refine ⟨verdict (asked.map fun x => (x.1, x.2.answer)), names, w', asked, ?_, ?_,
      Namespace.kindAt?_remove removed, ?_, fun h => ?_, commands, ?_, ?_, ?_⟩
    · rw [delete_of_removed notRoot removed, plain]
    · rw [delete_of_removed notRoot removed, recorded, List.nil_append]
    · rw [order]
      exact (Entry.owners entry).sorted
    · rw [order, SortedSet.mem_toList, mem_owners_iff run.coherent.ordered removed]
      simp only [owner_eq_ok_iff]
    · rintro before node x e after rfl answered failed
      have first : ∀ y ∈ before.map fun x => (x.1, x.2.answer), ∃ deleted, y.2 = .ok deleted :=
        List.forall_mem_map.mpr answered
      rw [List.map_append, List.map_cons, failed, verdict_of_error first, ofNode]
    · exact fun deleted => verdict_of_deleted (List.forall_mem_map.mpr deleted)
    · rintro answered ⟨x, mem, refused⟩
      exact verdict_of_refused (List.forall_mem_map.mpr answered)
        ⟨_, List.mem_map_of_mem mem, refused⟩

/-- A node that cannot be reached does not keep the next one from being asked. -/
theorem delete_complete_past_unreachable :
    let d : Path := ⟨[⟨"d", by decide⟩]⟩
    let a : Path := ⟨[⟨"d", by decide⟩, ⟨"a", by decide⟩]⟩
    let b : Path := ⟨[⟨"d", by decide⟩, ⟨"b", by decide⟩]⟩
    let dead : Handle := ⟨.loopback 7000, .loopback 7001⟩
    let live : Handle := ⟨.loopback 8000, .loopback 8001⟩
    let ask : Caller Unit := fun target _ w =>
      (if target = dead.command then .error (.transport "refused") else .ok (.bool true), w)
    ∃ t : Session, Run start
        [.served .registration
            (.register (some dead.storage) (some dead.command) (some (.ofList [a]))),
          .served .registration
            (.register (some live.storage) (some live.command) (some (.ofList [b])))] t ∧
      t.registry.contains d = true ∧ ∃ message names,
        t.registry.delete (Call.nodeCalls ask.recorded) d ([], ()) =
          (.error (.unavailable message), { t.registry with names },
            [⟨dead.command, .delete d, .error (.transport "refused")⟩,
              ⟨live.command, .delete d, .ok (.bool true)⟩], ()) ∧
        names.kindAt? d = none ∧ names.kindAt? a = none ∧ names.kindAt? b = none := by
  intro d a b dead live ask
  have run := Run.cons
    (.node start (.register (some dead.storage) (some dead.command) (some (.ofList [a]))))
    (.cons (.node _ (.register (some live.storage) (some live.command) (some (.ofList [b]))))
      (.nil _))
  obtain ⟨-, -, complete⟩ := delete_complete run ask d ()
  obtain ⟨answer, names, w', asked, -, recorded, kinds, -, -, -, first, -⟩ := complete rfl rfl
  let refused : Exchange := ⟨dead.command, .delete d, .error (.transport "refused")⟩
  let deleted : Exchange := ⟨live.command, .delete d, .ok (.bool true)⟩
  have record : asked.map Prod.snd = [refused, deleted] :=
    (congrArg (fun r => r.2.2.1) recorded).symm
  obtain ⟨⟨node, x⟩, others, rfl, rfl, -⟩ := List.map_eq_cons_iff.mp record
  have unavailable := first [] node refused _ others rfl (List.forall_mem_nil _) rfl
  rw [unavailable, record] at recorded
  exact ⟨_, run, rfl, _, names, recorded, kinds d, kinds a, kinds b⟩

end Session

end Dfs
