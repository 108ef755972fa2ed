import Dfs.Proofs.Exchange
import Dfs.Proofs.Naming.Coherence

/-!
Creation of a file. The name is reserved before a node is asked, and given back unless the
node has created the file; the names are then exactly what they were
(`names_withdraw_of_reserved`), since a reservation brings no directory and the order of
the names leaves one way to write them down.

`createFile_atomic` says what is asked of whom, what is answered, and what remains.
-/

namespace Dfs

namespace Registry

variable {reg reg' : Registry} {p d : Path} {node : Handle} {answer : Except Error Bool} {σ : Type}

/-- There is room for a file and somebody to ask: nothing is at the path, its parent is a
directory, and there are nodes. -/
def Placeable (reg : Registry) (p : Path) : Prop :=
  reg.contains p = false ∧ (∃ d, p.parent = .ok d ∧ reg.isDirectory d = .ok true) ∧ reg.nodes ≠ []

theorem isDirectory_eq_true_iff :
    reg.isDirectory d = .ok true ↔ reg.names.kindAt? d = some .dir := by
  rw [isDirectory, mapError_eq_ok_iff, Namespace.isDirectory_eq_true_iff]

theorem placeable_iff : reg.Placeable p ↔
    reg.contains p = false ∧ reg.checkParent p = .ok () ∧ reg.nodes ≠ [] := by
  simp only [Placeable, checkParent_eq_ok_iff, isDirectory_eq_true_iff]

/-- A path that is not there has a parent, and if that is no directory, it is missed. -/
theorem checkParent_eq_error {e : Error} (absent : reg.contains p = false)
    (failed : reg.checkParent p = .error e) : ∃ message, e = .notFound message := by
  rw [checkParent] at failed
  cases up : p.parent with
  | error e =>
      have notRoot : p.isRoot = false :=
        Namespace.isRoot_eq_false (contains_eq_false_iff.mp absent) (by simp)
      have parent := Path.parent_eq_ok_iff.mpr
        ⟨notRoot, (rfl : (⟨p.components.dropLast⟩ : Path).components = _)⟩
      rw [up] at parent
      cases parent
  | ok d =>
      rw [up] at failed
      simp only [Namespace.isDirectory] at failed
      cases root : d.isRoot with
      | true => simp [root] at failed
      | false =>
          rcases found : reg.names.lookup d with _ | (h | es)
          all_goals simp only [root, found, Tree.isDir, Bool.false_eq_true, if_false] at failed
          · exact ⟨_, (Except.error.inj failed).symm⟩
          · exact ⟨_, (Except.error.inj failed).symm⟩
          · cases failed

/-- How far a creation gets when no node is asked. -/
theorem reserve_of_not_placeable (noRoom : ¬ reg.Placeable p) :
    ∃ answer, reg.reserve p = .settled answer ∧
      (reg.contains p = true ∧ answer = .ok false ∨
        (∃ message, answer = .error (.notFound message)) ∨
        reg.nodes = [] ∧ ∃ message, answer = .error (.unavailable message)) := by
  rw [placeable_iff] at noRoom
  cases there : reg.contains p with
  | true => exact ⟨.ok false, by rw [reserve, if_pos there], .inl ⟨rfl, rfl⟩⟩
  | false =>
      cases checked : reg.checkParent p with
      | error e =>
          obtain ⟨message, rfl⟩ := checkParent_eq_error there checked
          exact ⟨_, by rw [reserve, if_neg (by simp [there]), checked], .inr (.inl ⟨message, rfl⟩)⟩
      | ok =>
          have nobody : reg.nodes = [] := by
            by_contra some
            exact noRoom ⟨there, checked, some⟩
          have nobodyPicked : reg.pick = none := by rw [pick, if_pos nobody]
          refine ⟨.error (.unavailable "no storage node is registered"), ?_,
            .inr (.inr ⟨nobody, _, rfl⟩)⟩
          rw [reserve, if_neg (by simp [there]), checked]
          simp only [nobodyPicked]

/-- A reservation that is withdrawn leaves the names as they were. -/
theorem names_withdraw_of_reserved (ordered : reg.names.Ordered)
    (reserved : reg.reserve p = .reserved node reg') :
    (reg'.withdraw p node).names = reg.names := by
  obtain ⟨free, -, -, -, kinds⟩ := reserve_eq_reserved reserved
  have before := ordered_of_reserved ordered reserved
  refine (ordered_withdraw before p node).ext ordered fun q => ?_
  by_cases same : q = p
  · have file : reg'.names.kindAt? p = some (.leaf node) := by rw [kinds p, if_pos rfl]
    rw [same, withdraw_of_owner file, Namespace.kindAt?_of_not_conflicts free]
  · rw [kindAt?_withdraw_of_ne reg' node same, kinds q, if_neg same]

/-- The nodes stay whatever the node of the file replies. -/
theorem nodes_settle (reg : Registry) (p : Path) (node : Handle) (reply : Except Error Bool) :
    (reg.settle p node reply).2.nodes = reg.nodes := by
  rcases settle_cases reg p node reply with same | same
  · rw [same]
  · rw [same, nodes_withdraw]

/-- A creation succeeds exactly if the node has created the file. -/
theorem settle_eq_created_iff {reply : Except Error Bool} :
    (reg.settle p node reply).1 = .ok true ↔ reply = .ok true := by
  rcases reply with e | created
  · simp [settle, Except.mapError]
  · rw [settle_of_answer]

theorem settle_of_created (reg : Registry) (p : Path) (node : Handle) :
    (reg.settle p node (.ok true)).2 = reg := rfl

/-- Unless the file was created, its name is given back. -/
theorem settle_of_not_created {reply : Except Error Bool} (failed : reply ≠ .ok true) :
    (reg.settle p node reply).2 = reg.withdraw p node := by
  rcases reply with e | created
  · rfl
  · cases created with
    | false => rfl
    | true => exact absurd rfl failed

/-- An error of the node ends the creation, as another one if it is of the transport. -/
theorem settle_of_error (reg : Registry) (p : Path) (node : Handle) (e : Error) :
    (reg.settle p node (.error e)).1 = .error (ofNode node e) := rfl

end Registry

namespace Session

open Registry

variable {s : Session} {events : List Event} {σ : Type}

/-- If there is room for the file, exactly one command is sent, to create the file, and it
goes to the node whose turn it is; if not, none is sent. If the creation succeeds, the file is
added, and it belongs to that node; if not, the names are what they were. The nodes stay in
any case. The answer is that of the node, but an error of the transport becomes one that
says that the node is unavailable. -/
theorem createFile_atomic (run : Run start events s) (ask : Caller σ) (p : Path) (w : σ) :
    ∃ answer reg record w',
      s.registry.createFile (Call.nodeCalls ask) p w = (answer, reg, w') ∧
      s.registry.createFile (Call.nodeCalls ask.recorded) p ([], w) = (answer, reg, record, w') ∧
      reg.nodes = s.registry.nodes ∧
      (answer ≠ .ok true → reg.names = s.registry.names) ∧
      (answer = .ok true → ∃ node, s.registry.pick = some node ∧ ∀ q, reg.names.kindAt? q =
        if q = p then some (.leaf node) else s.registry.names.kindAt? q) ∧
      (s.registry.Placeable p → ∃ node x, s.registry.pick = some node ∧ record = [x] ∧
        x.target = node.command ∧ x.request = .create p ∧
        (∀ created, x.answer = .ok created → answer = .ok created) ∧
        ∀ e, x.answer = .error e → answer = .error
          (if e.isTransport then .unavailable s!"storage node {node}: {e.text}" else e)) ∧
      (¬ s.registry.Placeable p → record = [] ∧
        (s.registry.contains p = true ∧ answer = .ok false ∨
          (∃ message, answer = .error (.notFound message)) ∨
          s.registry.nodes = [] ∧ ∃ message, answer = .error (.unavailable message))) := by
  have ordered := run.coherent.ordered
  by_cases room : s.registry.Placeable p
  · obtain ⟨absent, checked, some⟩ := placeable_iff.mp room
    obtain ⟨node, reg, reserved⟩ := exists_reserved absent checked some
    obtain ⟨-, picked, nodes, -, kinds⟩ := reserve_eq_reserved reserved
    have asked := Call.invoke_toBool ask node.command (.create p) w
    have recorded := Call.invoke_toBool_recorded ask node.command (.create p) [] w
    refine ⟨_, _, _, _, createFile_of_reserved reserved asked,
      createFile_of_reserved reserved recorded, ?_, ?_, ?_, fun _ => ?_,
      fun noRoom => absurd room noRoom⟩
    · rw [nodes_settle, nodes]
    · intro failed
      rw [settle_of_not_created (mt settle_eq_created_iff.mpr failed),
        names_withdraw_of_reserved ordered reserved]
    · intro succeeded
      refine ⟨node, picked, fun q => ?_⟩
      rw [settle_eq_created_iff.mp succeeded, settle_of_created, kinds q]
    · refine ⟨node, _, picked, rfl, rfl, rfl, fun created answered => ?_, fun e failed => ?_⟩
      · rw [answered, settle_of_answer]
      · rw [failed, settle_of_error, ofNode]
  · obtain ⟨answer, settled, answers⟩ := reserve_of_not_placeable room
    refine ⟨answer, s.registry, [], w, createFile_of_settled settled, createFile_of_settled settled,
      rfl, fun _ => rfl, fun succeeded => ?_, fun room' => absurd room' room,
      fun _ => ⟨rfl, answers⟩⟩
    rcases answers with ⟨-, rfl⟩ | ⟨message, rfl⟩ | ⟨-, message, rfl⟩ <;> cases succeeded

/-- A node that cannot be reached is asked once, and the name is free again. -/
theorem createFile_atomic_unreachable :
    let node : Handle := ⟨.loopback 7000, .loopback 7001⟩
    let f : Path := ⟨[⟨"f", by decide⟩]⟩
    let ask : Caller Unit := fun _ _ w => (.error (.transport "refused"), w)
    ∃ t : Session, Run start
        [.served .registration (.register (some node.storage) (some node.command) (some ∅))] t ∧
      t.registry.Placeable f ∧ ∃ message reg,
        t.registry.createFile (Call.nodeCalls ask.recorded) f ([], ()) =
          (.error (.unavailable message), reg,
            [⟨node.command, .create f, .error (.transport "refused")⟩], ()) ∧
        reg.names = t.registry.names := by
  intro node f ask
  have run := Run.cons
    (.node start (.register (some node.storage) (some node.command) (some ∅))) (.nil _)
  have room : (Registry.empty.register node ∅).2.Placeable f :=
    ⟨rfl, ⟨.root, rfl, rfl⟩, List.cons_ne_nil _ _⟩
  obtain ⟨answer, reg, record, w', -, recorded, -, restored, -, asked, -⟩ :=
    createFile_atomic run ask f ()
  obtain ⟨node', x, -, rfl, -, -, -, failed⟩ := asked room
  have exchange : x = ⟨node.command, .create f, .error (.transport "refused")⟩ := by
    have records := congrArg (fun r => r.2.2.1) recorded
    exact (List.head_eq_of_cons_eq records).symm
  subst exchange
  have unavailable := failed (.transport "refused") rfl
  rw [unavailable] at recorded restored
  exact ⟨_, run, room, _, reg, recorded, restored (by simp)⟩

end Session

end Dfs
