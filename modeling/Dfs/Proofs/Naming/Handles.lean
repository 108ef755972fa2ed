import Dfs.Proofs.Address
import Dfs.Proofs.Naming.Changes

/-!
The handles that a registry knows, as nodes or as owners of files: a registration
brings the one of its node, and nothing else brings any. So a registry has no flow
information in its addresses as long as none is registered.
-/

namespace Dfs

/-- Neither address of the handle has flow information. -/
def Handle.FlowFree (h : Handle) : Prop := h.storage.flow = 0 ∧ h.command.flow = 0

instance : DecidablePred Handle.FlowFree := fun h =>
  inferInstanceAs (Decidable (h.storage.flow = 0 ∧ h.command.flow = 0))

namespace Registry

variable {reg : Registry} {h : Handle} {p : Path} {names : Namespace}

/-- The handle is one of a node, or owns a file. -/
def Knows (reg : Registry) (h : Handle) : Prop :=
  h ∈ reg.nodes ∨ ∃ p, reg.names.kindAt? p = some (.leaf h)

/-- No address in the registry has flow information. -/
def FlowFree (reg : Registry) : Prop := ∀ h, reg.Knows h → h.FlowFree

theorem flowFree_empty : empty.FlowFree := by
  rintro h (mem | ⟨p, file⟩)
  · cases mem
  · exact absurd file (Namespace.kindAt?_empty_ne_leaf p h)

/-- A change that puts no file anywhere makes no handle known. -/
theorem Knows.of_names {changed : Path → Prop} [DecidablePred changed]
    {kind : Option (Kind Handle)} (noFile : kind ≠ some (.leaf h))
    (kinds : ∀ q, names.kindAt? q = if changed q then kind else reg.names.kindAt? q)
    (known : ({ reg with names } : Registry).Knows h) : reg.Knows h := by
  rcases known with mem | ⟨q, file⟩
  · exact .inl mem
  · replace file : names.kindAt? q = some (.leaf h) := file
    rw [kinds q] at file
    split at file
    · exact absurd file noFile
    · exact .inr ⟨q, file⟩

/-- A registration makes no handle known but that of the node. -/
theorem knows_register {node : Handle} {files : PathSet}
    (known : (reg.register node files).2.Knows h) : reg.Knows h ∨ h = node := by
  by_cases old : node ∈ reg.nodes
  · rw [register_of_mem old] at known
    exact .inl known
  obtain ⟨duplicates, names, taken, answer, -, -, holds⟩ := register_of_not_mem old files
  rw [answer] at known
  rcases known with mem | ⟨p, file⟩
  · rcases List.mem_append.mp mem with mem | mem
    · exact .inl (.inl mem)
    · exact .inr (List.mem_singleton.mp mem)
  · replace file : names.kindAt? p = some (.leaf h) := file
    rw [holds p] at file
    split at file
    · cases file
      exact .inr rfl
    · split at file
      · cases file
      · exact .inl (.inr ⟨p, file⟩)

theorem knows_createDirectory (known : (reg.createDirectory p).2.Knows h) : reg.Knows h := by
  rcases createDirectory_cases reg p with same | ⟨-, names, changed, kinds⟩
  · rwa [same] at known
  · rw [changed] at known
    exact known.of_names (by simp) kinds

theorem knows_withdraw {node : Handle} (known : (reg.withdraw p node).Knows h) : reg.Knows h := by
  rcases withdraw_cases reg p node with same | ⟨-, names, changed, kinds⟩
  · rwa [same] at known
  · rw [changed] at known
    exact known.of_names (by simp) kinds

/-- The owner of a new file is one of the nodes. -/
theorem knows_of_reserved {node : Handle} {reg' : Registry}
    (reserved : reg.reserve p = .reserved node reg') (known : reg'.Knows h) : reg.Knows h := by
  obtain ⟨-, picked, nodes, -, kinds⟩ := reserve_eq_reserved reserved
  rcases known with mem | ⟨q, file⟩
  · exact .inl (nodes ▸ mem)
  · rw [kinds q] at file
    split at file
    · cases file
      exact .inl (mem_nodes_of_pick picked)
    · exact .inr ⟨q, file⟩

theorem knows_settle {node : Handle} {reply : Except Error Bool}
    (known : (reg.settle p node reply).2.Knows h) : reg.Knows h := by
  rcases settle_cases reg p node reply with same | same
  · rwa [same] at known
  · rw [same] at known
    exact knows_withdraw known

theorem knows_createFile {σ : Type} {calls : NodeCalls σ} {s : σ}
    (known : (reg.createFile calls p s).2.1.Knows h) : reg.Knows h := by
  cases reserved : reg.reserve p with
  | settled answer => rwa [createFile_of_settled reserved] at known
  | reserved node reg' =>
      rw [createFile_of_reserved reserved rfl] at known
      exact knows_of_reserved reserved (knows_settle known)

theorem knows_delete {σ : Type} {calls : NodeCalls σ} {s : σ}
    (known : (reg.delete calls p s).2.1.Knows h) : reg.Knows h := by
  rcases names_delete calls reg p s with same | ⟨-, names, changed, kinds⟩
  · rwa [same] at known
  · rw [changed] at known
    exact known.of_names (by simp) kinds

end Registry

end Dfs
