import Dfs.Proofs.Naming.Creation
import Mathlib.Data.List.Rotate

/-!
Whose turn it is to take a new file. A turn is used up by a creation that gets as far as
asking a node, whatever that node answers, and by nothing else (`Step.turn`). While no node
joins, the nodes that are asked are therefore those of the list one after another, over
and over again (`Placing.getElem?`).

`placement_rotates`: as many creations as there are nodes ask each node once.
-/

namespace Dfs

/-- Calls that also note which nodes are asked to create a file. -/
def NodeCalls.noting {σ : Type} (calls : NodeCalls σ) : NodeCalls (List Handle × σ) where
  create node p w := ((calls.create node p w.2).1, w.1 ++ [node], (calls.create node p w.2).2)
  delete node p w := ((calls.delete node p w.2).1, w.1, (calls.delete node p w.2).2)

namespace Registry

variable {reg reg' : Registry} {p : Path} {node : Handle} {σ : Type}

/-- The node that a client's request chooses for a new file, if it gets that far. -/
def chosen (reg : Registry) : Request → Option Handle
  | .createFile p =>
    match reg.reserve p with
    | .reserved node _ => some node
    | .settled _ => none
  | _ => none

theorem chosen_of_settled {answer : Except Error Bool} (settled : reg.reserve p = .settled answer) :
    reg.chosen (.createFile p) = none := by
  simp only [chosen, settled]

theorem chosen_of_reserved (reserved : reg.reserve p = .reserved node reg') :
    reg.chosen (.createFile p) = some node := by
  simp only [chosen, reserved]

theorem pick_of_chosen {r : Request} (chosen : reg.chosen r = some node) :
    reg.pick = some node := by
  unfold Registry.chosen at chosen
  split at chosen
  · split at chosen
    · next reserved =>
        cases chosen
        obtain ⟨-, picked, -⟩ := reserve_eq_reserved reserved
        exact picked
    · cases chosen
  · cases chosen

theorem chosen_createFile_iff :
    (reg.chosen (.createFile p)).isSome = true ↔ reg.Placeable p := by
  constructor
  · intro chosen
    by_contra noRoom
    obtain ⟨answer, settled, -⟩ := reserve_of_not_placeable noRoom
    rw [chosen_of_settled settled] at chosen
    cases chosen
  · intro room
    obtain ⟨absent, checked, some⟩ := placeable_iff.mp room
    obtain ⟨node, reg', reserved⟩ := exists_reserved absent checked some
    rw [chosen_of_reserved reserved]
    rfl

/-! ### Who is asked -/

theorem askAll_noting (calls : NodeCalls σ) (p : Path) (nodes : List Handle) (noted : List Handle)
    (w : σ) : askAll calls.noting p nodes (noted, w) =
      ((askAll calls p nodes w).1, noted, (askAll calls p nodes w).2) := by
  induction nodes generalizing w with
  | nil => rfl
  | cons node nodes ih =>
      unfold askAll
      simp only [NodeCalls.noting] at ih ⊢
      rw [ih]

/-- The nodes that are asked to create a file are those that are chosen, and what is asked
changes nothing else. -/
theorem serveClient_noting (calls : NodeCalls σ) (reg : Registry) (r : Request)
    (noted : List Handle) (w : σ) : reg.serveClient calls.noting r (noted, w) =
      ((reg.serveClient calls r w).1, (reg.serveClient calls r w).2.1,
        noted ++ (reg.chosen r).toList, (reg.serveClient calls r w).2.2) := by
  cases r with
  | createFile p =>
      cases reserved : reg.reserve p with
      | settled answer =>
          simp [serveClient, createFile_of_settled reserved, chosen_of_settled reserved]
      | reserved node reg' =>
          simp [serveClient, createFile_of_reserved reserved rfl, chosen_of_reserved reserved,
            NodeCalls.noting]
  | deletePath p =>
      cases removed : reg.names.remove p with
      | none => simp [serveClient, delete_of_not_removed removed, Registry.chosen]
      | some found =>
          have notRoot := Namespace.not_isRoot_of_lookup (Namespace.remove_eq_some_iff.mp removed).1
          simp [serveClient, delete_of_removed notRoot removed, Registry.chosen, askAll_noting]
  | _ => simp [serveClient, Registry.chosen]

/-! ### Turns -/

theorem turn_withdraw (reg : Registry) (p : Path) (node : Handle) :
    (reg.withdraw p node).turn = reg.turn := by
  rcases withdraw_cases reg p node with same | ⟨-, names, changed, -⟩
  · rw [same]
  · rw [changed]

theorem turn_settle (reg : Registry) (p : Path) (node : Handle) (reply : Except Error Bool) :
    (reg.settle p node reply).2.turn = reg.turn := by
  rcases settle_cases reg p node reply with same | same
  · rw [same]
  · rw [same, turn_withdraw]

/-- A request of a client uses up a turn exactly if it chooses a node, and adds no node. -/
theorem turn_serveClient (calls : NodeCalls σ) (reg : Registry) (r : Request) (w : σ) :
    (reg.serveClient calls r w).2.1.turn =
        reg.turn + (if (reg.chosen r).isSome then 1 else 0) ∧
      (reg.serveClient calls r w).2.1.nodes = reg.nodes := by
  cases r with
  | createFile p =>
      cases reserved : reg.reserve p with
      | settled answer =>
          simp [serveClient, createFile_of_settled reserved, chosen_of_settled reserved]
      | reserved node reg' =>
          obtain ⟨-, -, nodes, turn, -⟩ := reserve_eq_reserved reserved
          simp [serveClient, createFile, reserved, chosen_of_reserved reserved, turn_settle,
            nodes_settle, nodes, turn]
  | createDirectory p =>
      rcases createDirectory_cases reg p with same | ⟨-, names, changed, -⟩
      · simp [serveClient, Registry.chosen, same]
      · simp [serveClient, Registry.chosen, changed]
  | deletePath p =>
      rcases names_delete calls reg p w with same | ⟨-, names, changed, -⟩
      · simp [serveClient, Registry.chosen, same]
      · simp [serveClient, Registry.chosen, changed]
  | _ => simp [serveClient, Registry.chosen]

/-- A registration uses up no turn, and adds no node if it is refused. -/
theorem turn_register (reg : Registry) (node : Handle) (files : PathSet) :
    (reg.register node files).2.turn = reg.turn ∧
      ∀ e, (reg.register node files).1 = .error e →
        (reg.register node files).2.nodes = reg.nodes := by
  by_cases known : node ∈ reg.nodes
  · rw [register_of_mem known]
    exact ⟨rfl, fun _ _ => rfl⟩
  · obtain ⟨duplicates, names, taken, answer, -⟩ := register_of_not_mem known files
    rw [answer]
    exact ⟨rfl, fun _ refused => by cases refused⟩

theorem turn_serveNode (reg : Registry) (r : Request) :
    (reg.serveNode r).2.turn = reg.turn ∧
      ∀ e, (reg.serveNode r).1 = .error e → (reg.serveNode r).2.nodes = reg.nodes := by
  cases r with
  | register storage command files =>
      rw [serveNode]
      split
      · exact ⟨rfl, fun _ _ => rfl⟩
      next node _ =>
      split
      · exact ⟨rfl, fun _ _ => rfl⟩
      next files =>
      obtain ⟨turn, nodes⟩ := turn_register reg node files
      refine ⟨turn, fun e refused => ?_⟩
      dsimp only at refused
      cases answer : (reg.register node files).1 with
      | error e' => exact nodes e' answer
      | ok duplicates =>
          rw [answer] at refused
          cases refused
  | _ => exact ⟨rfl, fun _ _ => rfl⟩

end Registry

namespace Session

variable {s t : Session} {e : Event}

/-- The node that is chosen for a new file when something happens. -/
def chosen (s : Session) : Event → Option Handle
  | .served .service r => s.registry.chosen r
  | .reserved _ node => some node
  | _ => none

/-- A node registers, and is not refused. -/
def Joins (s : Session) : Event → Prop
  | .served .registration r => ∃ reply, (s.registry.serveNode r).1 = .ok reply
  | _ => False

/-- A turn is used up exactly if a node is chosen. -/
theorem Step.turn (step : Step s e t) :
    t.registry.turn = s.registry.turn + (if (s.chosen e).isSome then 1 else 0) := by
  cases step with
  | client calls world s r => exact (Registry.turn_serveClient calls s.registry r world).1
  | node s r => simpa [chosen] using (Registry.turn_serveNode s.registry r).1
  | reserve reserved =>
      obtain ⟨-, -, -, turn, -⟩ := Registry.reserve_eq_reserved reserved
      simpa [chosen] using turn
  | answer reply waits => simpa [chosen] using Registry.turn_settle s.registry _ _ reply

/-- The nodes stay as they are if none joins. -/
theorem Step.nodes (step : Step s e t) (nobody : ¬ s.Joins e) :
    t.registry.nodes = s.registry.nodes := by
  cases step with
  | client calls world s r => exact (Registry.turn_serveClient calls s.registry r world).2
  | node s r =>
      cases answer : (s.registry.serveNode r).1 with
      | error e => exact (Registry.turn_serveNode s.registry r).2 e answer
      | ok reply => exact absurd ⟨reply, answer⟩ nobody
  | reserve reserved =>
      obtain ⟨-, -, nodes, -⟩ := Registry.reserve_eq_reserved reserved
      exact nodes
  | answer reply waits => exact Registry.nodes_settle s.registry _ _ reply

/-- It is the turn of the node that is chosen. -/
theorem Step.pick_of_chosen {node : Handle} (step : Step s e t) (chosen : s.chosen e = some node) :
    s.registry.nodes[s.registry.turn.toNat % s.registry.nodes.length]? = some node := by
  have picked : s.registry.pick = some node := by
    cases step with
    | client calls world s r => exact Registry.pick_of_chosen chosen
    | node s r => cases chosen
    | reserve reserved =>
        obtain rfl := Option.some.inj chosen
        obtain ⟨-, picked, -⟩ := Registry.reserve_eq_reserved reserved
        exact picked
    | answer reply waits => cases chosen
  unfold Registry.pick at picked
  split at picked
  · cases picked
  · exact picked

/-! ### Runs -/

/-- A run during which no node joins, with the nodes that are chosen for new files. -/
inductive Placing : Session → List Event → List Handle → Session → Prop where
  | nil (s : Session) : Placing s [] [] s
  | cons {s t u : Session} {e : Event} {events : List Event} {nodes : List Handle} :
      Step s e t → ¬ s.Joins e → Placing t events nodes u →
      Placing s (e :: events) ((s.chosen e).toList ++ nodes) u

variable {events earlier : List Event} {nodes : List Handle}

/-- The nodes that are chosen are those of the list one after another, over and over again. -/
theorem Placing.getElem? (placing : Placing s events nodes t)
    (bound : s.registry.turn.toNat + nodes.length ≤ UInt64.size) {i : Nat}
    (inRange : i < nodes.length) :
    nodes[i]? = s.registry.nodes[(s.registry.turn.toNat + i) % s.registry.nodes.length]? := by
  induction placing generalizing i with
  | nil s => cases inRange
  | @cons s t u e events rest step nobody _ ih =>
      have same := step.nodes nobody
      have turn := step.turn
      cases chosen : s.chosen e with
      | none =>
          have unchanged : t.registry.turn = s.registry.turn := by simpa [chosen] using turn
          simp only [chosen, Option.toList_none, List.nil_append] at bound inRange ⊢
          rw [ih (by rwa [unchanged]) inRange, same, unchanged]
      | some node =>
          have picked := step.pick_of_chosen chosen
          have next : t.registry.turn.toNat = (s.registry.turn.toNat + 1) % UInt64.size := by
            rw [turn, chosen, UInt64.toNat_add]
            rfl
          simp only [chosen, Option.toList_some, List.singleton_append, List.length_cons]
            at bound inRange ⊢
          cases i with
          | zero => simpa using picked.symm
          | succ i =>
              have noWrap : t.registry.turn.toNat = s.registry.turn.toNat + 1 := by
                rw [next, Nat.mod_eq_of_lt (by omega)]
              rw [List.getElem?_cons_succ, ih (by omega) (by omega), same, noWrap]
              congr 2
              omega

/-- As many choices as there are nodes go once around the list. -/
theorem Placing.window (placing : Placing s events nodes t)
    (bound : s.registry.turn.toNat + nodes.length ≤ UInt64.size) {i : Nat}
    (inRange : i + s.registry.nodes.length ≤ nodes.length) :
    (nodes.drop i).take s.registry.nodes.length =
      s.registry.nodes.rotate (s.registry.turn.toNat + i) := by
  apply List.ext_getElem?
  intro j
  by_cases inside : j < s.registry.nodes.length
  · rw [List.getElem?_take_of_lt inside, List.getElem?_drop, List.getElem?_rotate inside,
      placing.getElem? bound (by omega)]
    congr 2
    omega
  · rw [List.getElem?_eq_none (by simp; omega), List.getElem?_eq_none (by simp; omega)]

/-- New files are placed on the nodes in turn. As long as no node joins and the count of the turns
does not run over, as many choices as there are nodes go once around the list of the nodes,
from the one whose turn it is, so that no node is chosen twice among them. Other requests
may come in between, and the nodes that are asked may answer anything. A node is chosen by a
creation for which there is room, and it is the one that is asked; this uses up a turn, and
nothing else does. -/
theorem placement_rotates (run : Run start earlier s) (placing : Placing s events nodes t)
    (bound : s.registry.turn.toNat + nodes.length ≤ UInt64.size) :
    (∀ i, i + s.registry.nodes.length ≤ nodes.length →
      (nodes.drop i).take s.registry.nodes.length =
        s.registry.nodes.rotate ((s.registry.turn.toNat + i) % s.registry.nodes.length) ∧
      ((nodes.drop i).take s.registry.nodes.length).Nodup) ∧
    (∀ i < nodes.length,
      nodes[i]? = s.registry.nodes[(s.registry.turn.toNat + i) % s.registry.nodes.length]?) ∧
    (∀ p, (s.chosen (.served .service (.createFile p))).isSome = true ↔ s.registry.Placeable p) ∧
    (∀ (σ : Type) (calls : NodeCalls σ) r w,
      (s.registry.serveClient calls.noting r ([], w)).2.2.1 =
        (s.chosen (.served .service r)).toList) ∧
    ∀ e u, Step s e u →
      u.registry.turn = s.registry.turn + if (s.chosen e).isSome then 1 else 0 := by
  refine ⟨fun i inRange => ?_, fun i => placing.getElem? bound,
    fun p => Registry.chosen_createFile_iff, fun σ calls r w => ?_, fun e u step => step.turn⟩
  · rw [List.rotate_mod, placing.window bound inRange]
    exact ⟨rfl, List.nodup_rotate.mpr run.coherent.distinct⟩
  · rw [Registry.serveClient_noting]
    rfl

/-! ### Two nodes -/

def leftNode : Handle := ⟨.loopback 7000, .loopback 7001⟩

def rightNode : Handle := ⟨.loopback 8000, .loopback 8001⟩

def draft : Path := ⟨[⟨"draft", by decide⟩]⟩

/-- A node registers without files. -/
def joining (node : Handle) : Request :=
  .register (some node.storage) (some node.command) (some ∅)

/-- Both nodes have registered, and `turn` files have been placed. -/
def pair (turn : UInt64) : Session := ⟨⟨.empty, [leftNode, rightNode], turn⟩, []⟩

/-- The second node is asked for `/draft`. -/
def asking : Session :=
  ⟨⟨⟨[(⟨"draft", by decide⟩, .leaf rightNode)]⟩, [leftNode, rightNode], 2⟩, [(draft, rightNode)]⟩

/-- The first node cannot be reached, the second one is asked next and refuses, and then it is
the turn of the first one again. In between, a file is to be created where there is no
directory, and the first node registers once more. -/
theorem placement_rotates_past_failures :
    ∃ t : Session, Run start
        [.served .registration (joining leftNode), .served .registration (joining rightNode)]
        (pair 0) ∧
      Placing (pair 0) [.served .service (.createFile draft),
        .served .service (.createFile (draft.child ⟨"page", by decide⟩)),
        .reserved draft rightNode, .served .registration (joining leftNode),
        .answered draft rightNode (.ok false), .served .service (.createFile draft)]
        [leftNode, rightNode, leftNode] t ∧
      (pair 0).registry.turn.toNat + 3 ≤ UInt64.size ∧
      [leftNode, rightNode] = (pair 0).registry.nodes.rotate 0 ∧
      [rightNode, leftNode] = (pair 0).registry.nodes.rotate 1 := by
  have run := Run.cons (.node start (joining leftNode))
    (.cons (.node _ (joining rightNode)) (.nil _))
  let unreachable : NodeCalls Unit :=
    ⟨fun _ _ w => (.error (.transport "refused"), w), fun _ _ w => (.ok true, w)⟩
  let obedient : NodeCalls Unit := ⟨fun _ _ w => (.ok true, w), fun _ _ w => (.ok true, w)⟩
  have reserved : (pair 1).registry.reserve draft = .reserved rightNode asking.registry := rfl
  have placing := Placing.cons (.client unreachable () (pair 0) (.createFile draft)) id
    (.cons (.client obedient () (pair 1) (.createFile (draft.child ⟨"page", by decide⟩))) id
      (.cons (.reserve reserved) id
        (.cons (.node asking (joining leftNode)) (by rintro ⟨reply, done⟩; cases done)
          (.cons (.answer (s := asking) (.ok false) List.mem_cons_self) id
            (.cons (.client obedient () (pair 2) (.createFile draft)) id (.nil _))))))
  obtain ⟨windows, -⟩ := placement_rotates run placing (by decide)
  exact ⟨_, run, placing, by decide, (windows 0 (by decide)).1, (windows 1 (by decide)).1⟩

end Session

end Dfs
