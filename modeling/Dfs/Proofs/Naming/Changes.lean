import Dfs.Naming.Interfaces
import Dfs.Proofs.Naming.Registration
import Dfs.Proofs.Tree.Order

/-!
What each operation of the registry leaves in the namespace: a new directory, a
reservation, its withdrawal, a deletion. Only a deletion and a withdrawal take
anything away, and a withdrawal takes away no more than one file.
-/

namespace Dfs

namespace Registry

variable {reg reg' : Registry} {p q : Path} {node : Handle}

theorem contains_eq_false_iff : reg.contains p = false ↔ reg.names.kindAt? p = none := by
  rw [contains, ← Bool.not_eq_true, Namespace.contains_iff, not_not]

/-- The parent of a path is a directory. -/
theorem checkParent_eq_ok_iff : reg.checkParent p = .ok () ↔
    ∃ parent, p.parent = .ok parent ∧ reg.names.kindAt? parent = some .dir := by
  rw [checkParent]
  cases up : p.parent with
  | error e => simp
  | ok parent =>
      simp only [Except.ok.injEq, exists_eq_left']
      rw [← Namespace.isDirectory_eq_true_iff]
      cases reg.names.isDirectory parent with
      | error e => simp
      | ok isDir => cases isDir <;> simp

/-- All that leads to a path whose parent is a directory, is a directory. -/
theorem kindAt?_of_checkParent (checked : reg.checkParent p = .ok ()) (lead : p.isUnder q = true)
    (other : q ≠ p) : reg.names.kindAt? q = some .dir := by
  obtain ⟨parent, up, dir⟩ := checkParent_eq_ok_iff.mp checked
  have onTheWay := (Path.isUnder_parent_iff up).mpr ⟨lead, other⟩
  by_cases same : q = parent
  · rw [same, dir]
  · exact Namespace.kindAt?_of_isUnder onTheWay same (by simp [dir])

/-- There is room for a path whose parent is a directory, if nothing is there yet. -/
theorem not_conflicts_of_checkParent (absent : reg.names.kindAt? p = none)
    (checked : reg.checkParent p = .ok ()) : reg.names.conflicts p = false := by
  by_contra conflict
  rcases Namespace.conflicts_iff.mp (by simpa using conflict) with there | ⟨q, lead, other, h, file⟩
  · exact there absent
  · rw [kindAt?_of_checkParent checked lead other] at file
    cases file

/-! ### Directories -/

theorem isDirectory_of_dir (dir : reg.names.kindAt? p = some .dir) :
    reg.isDirectory p = .ok true := by
  rw [isDirectory, Namespace.isDirectory_eq_true_iff.mpr dir]
  rfl

theorem isDirectory_of_leaf (file : reg.names.kindAt? p = some (.leaf node)) :
    reg.isDirectory p = .ok false := by
  have notRoot := Namespace.isRoot_eq_false file (by simp)
  rw [← Namespace.map_kind_lookup notRoot] at file
  rw [isDirectory, Namespace.isDirectory, notRoot]
  rcases found : reg.names.lookup p with _ | (h | entries)
  · simp [found] at file
  · rfl
  · simp [found] at file

/-- Either nothing changes, or one directory is added where nothing was. -/
theorem createDirectory_cases (reg : Registry) (p : Path) :
    (reg.createDirectory p).2 = reg ∨
      reg.names.kindAt? p = none ∧ ∃ names, reg.createDirectory p = (.ok true, { reg with names }) ∧
        ∀ q, names.kindAt? q = if q = p then some .dir else reg.names.kindAt? q := by
  rw [createDirectory]
  split
  · exact .inl rfl
  next absent =>
  rw [Bool.not_eq_true, contains_eq_false_iff] at absent
  split
  · exact .inl rfl
  next checked =>
  split
  · next names done =>
      refine .inr ⟨absent, names, rfl, fun q => ?_⟩
      rw [Namespace.kindAt?_insertDirectory done]
      by_cases same : q = p
      · simp [same, absent]
      · rw [if_neg (fun both => same both.1), if_neg same]
        split
        · next lead => rw [kindAt?_of_checkParent checked lead.1 same]
        · rfl
  · exact .inl rfl

theorem createDirectory_of_present (present : reg.names.kindAt? p ≠ none) :
    reg.createDirectory p = (.ok false, reg) := by
  rw [createDirectory, if_pos]
  rwa [contains, Namespace.contains_iff]

/-- What has no directory to be in is not made. -/
theorem createDirectory_of_unchecked (absent : reg.names.kindAt? p = none)
    (unchecked : reg.checkParent p ≠ .ok ()) :
    ∃ e, reg.createDirectory p = (.error e, reg) := by
  rw [createDirectory, if_neg (by simp [contains_eq_false_iff.mpr absent])]
  split
  · exact ⟨_, rfl⟩
  · next checked => exact absurd checked unchecked

/-- In a directory, a name that is free can be taken by a directory. -/
theorem createDirectory_of_checked (absent : reg.names.kindAt? p = none)
    (checked : reg.checkParent p = .ok ()) :
    ∃ names, reg.createDirectory p = (.ok true, { reg with names }) ∧
      ∀ q, names.kindAt? q = if q = p then some .dir else reg.names.kindAt? q := by
  have clear : ∀ q, p.isUnder q = true → q ≠ p → ∀ h, reg.names.kindAt? q ≠ some (.leaf h) := by
    intro q lead other h file
    rw [kindAt?_of_checkParent checked lead other] at file
    cases file
  obtain ⟨names, inserted⟩ : ∃ names, reg.names.insertDirectory p = .ok names :=
    Namespace.change_isOk_iff.mpr ⟨Namespace.isRoot_eq_false absent (by simp), clear⟩
  have done : reg.createDirectory p = (.ok true, { reg with names }) := by
    rw [createDirectory, if_neg (by simp [contains_eq_false_iff.mpr absent]), checked]
    dsimp only
    rw [inserted]
  rcases createDirectory_cases reg p with same | ⟨-, names', changed, kinds⟩
  · -- A registry that stays as it is would have the new directory already.
    have kept : names = reg.names := by
      rw [done] at same
      exact congrArg Registry.names same
    have added := Namespace.kindAt?_insertDirectory inserted p
    rw [if_pos ⟨rfl, absent⟩, kept, absent] at added
    cases added
  · obtain rfl : names' = names := by
      rw [done] at changed
      exact (congrArg (fun outcome => outcome.2.names) changed).symm
    exact ⟨names', done, kinds⟩

theorem kept_createDirectory (reg : Registry) (p : Path) :
    reg.names.Kept (reg.createDirectory p).2.names := by
  rcases createDirectory_cases reg p with same | ⟨absent, names, changed, kinds⟩
  · rw [same]
    exact .refl _
  · rw [changed]
    intro q kind there
    rw [kinds q, if_neg]
    · exact there
    · rintro rfl
      rw [absent] at there
      cases there

/-! ### Files -/

/-- What a reservation finds, and how it changes the registry. -/
theorem insert_of_reserved (reserved : reg.reserve p = .reserved node reg') :
    reg.contains p = false ∧ reg.checkParent p = .ok () ∧ reg.pick = some node ∧
      ∃ names, reg.names.insert p node = .ok names ∧
        reg' = { reg with names, turn := reg.turn + 1 } := by
  rw [reserve] at reserved
  split at reserved
  · cases reserved
  next absent =>
  split at reserved
  · cases reserved
  next checked =>
  split at reserved
  · cases reserved
  next turn picked =>
  split at reserved
  · next names inserted =>
      cases reserved
      exact ⟨by simpa using absent, checked, picked, names, inserted, rfl⟩
  · cases reserved

/-- A reservation puts one file where nothing was, and uses up the turn of its
node. -/
theorem reserve_eq_reserved (reserved : reg.reserve p = .reserved node reg') :
    reg.names.conflicts p = false ∧ reg.pick = some node ∧ reg'.nodes = reg.nodes ∧
      reg'.turn = reg.turn + 1 ∧
      ∀ q, reg'.names.kindAt? q = if q = p then some (.leaf node) else reg.names.kindAt? q := by
  obtain ⟨absent, checked, picked, names, inserted, rfl⟩ := insert_of_reserved reserved
  have free := not_conflicts_of_checkParent (contains_eq_false_iff.mp absent) checked
  refine ⟨free, picked, rfl, rfl, fun q => ?_⟩
  rw [Namespace.kindAt?_insert_of_not_conflicts free inserted]
  by_cases same : q = p
  · simp [same]
  · rw [if_neg same, if_neg same]
    split
    · next lead => rw [kindAt?_of_checkParent checked lead same]
    · rfl

theorem kept_of_reserved (reserved : reg.reserve p = .reserved node reg') :
    reg.names.Kept reg'.names := by
  obtain ⟨free, -, -, -, kinds⟩ := reserve_eq_reserved reserved
  intro q kind there
  rw [kinds q, if_neg]
  · exact there
  · rintro rfl
    rw [Namespace.kindAt?_of_not_conflicts free] at there
    cases there

theorem mem_nodes_of_pick (picked : reg.pick = some node) : node ∈ reg.nodes := by
  unfold pick at picked
  split at picked
  · cases picked
  · exact List.mem_of_getElem? picked

theorem exists_pick (nonempty : reg.nodes ≠ []) : ∃ node, reg.pick = some node := by
  have some := List.length_pos_iff.mpr nonempty
  have inRange : reg.turn.toNat % reg.nodes.length < reg.nodes.length := Nat.mod_lt _ some
  refine ⟨reg.nodes[reg.turn.toNat % reg.nodes.length], ?_⟩
  rw [pick, if_neg nonempty, List.getElem?_eq_getElem inRange]

/-- In a directory, a name that is free can be reserved, if there are nodes. -/
theorem exists_reserved (absent : reg.contains p = false) (checked : reg.checkParent p = .ok ())
    (nonempty : reg.nodes ≠ []) : ∃ node reg', reg.reserve p = .reserved node reg' := by
  obtain ⟨node, picked⟩ := exists_pick nonempty
  have free := not_conflicts_of_checkParent (contains_eq_false_iff.mp absent) checked
  obtain ⟨names, inserted⟩ := @Namespace.insert_isOk_of_not_conflicts _ _ node free
  refine ⟨node, { reg with names, turn := reg.turn + 1 }, ?_⟩
  rw [reserve, if_neg (by simp [absent]), checked]
  dsimp only
  rw [picked]
  dsimp only
  rw [inserted]

/-- Either nothing changes, or one file of the node is taken away. -/
theorem withdraw_cases (reg : Registry) (p : Path) (node : Handle) :
    reg.withdraw p node = reg ∨
      reg.names.kindAt? p = some (.leaf node) ∧ ∃ names, reg.withdraw p node = { reg with names } ∧
        ∀ q, names.kindAt? q = if q = p then none else reg.names.kindAt? q := by
  rw [withdraw]
  split
  · next owned =>
      have file : reg.names.kindAt? p = some (.leaf node) := by
        rw [← Namespace.owner_eq_ok_iff]
        cases found : reg.names.owner p with
        | error e => simp [found, Except.toOption] at owned
        | ok h => simpa [found, Except.toOption] using owned
      split
      · next entry names done =>
          refine .inr ⟨file, names, rfl, fun q => ?_⟩
          rw [Namespace.kindAt?_remove done]
          by_cases same : q = p
          · simp [same, Path.isUnder_refl]
          · rw [if_neg same]
            split
            · next below =>
                by_contra there
                have dir := Namespace.kindAt?_of_isUnder below (Ne.symm same) (Ne.symm there)
                rw [file] at dir
                cases dir
            · rfl
      · exact .inl rfl
  · exact .inl rfl

/-- A reservation that still belongs to its node is withdrawn. -/
theorem withdraw_of_owner (file : reg.names.kindAt? p = some (.leaf node)) :
    (reg.withdraw p node).names.kindAt? p = none := by
  rcases withdraw_cases reg p node with same | ⟨-, names, changed, kinds⟩
  · have owned : (reg.names.owner p).toOption = some node := by
      rw [Namespace.owner_eq_ok_iff.mpr file]
      rfl
    have notRoot : p.isRoot = false := Namespace.isRoot_eq_false file (by simp)
    have there : reg.names.kindAt? p ≠ none := by simp [file]
    obtain ⟨entry, names, removed⟩ := Namespace.exists_removed notRoot there
    rw [withdraw, if_pos owned, removed]
    dsimp only
    rw [Namespace.kindAt?_remove removed, if_pos (Path.isUnder_refl p)]
  · rw [changed, kinds, if_pos rfl]

theorem nodes_withdraw (reg : Registry) (p : Path) (node : Handle) :
    (reg.withdraw p node).nodes = reg.nodes := by
  rcases withdraw_cases reg p node with same | ⟨-, names, changed, -⟩
  · rw [same]
  · rw [changed]

/-- What is not the withdrawn file stays. -/
theorem kindAt?_withdraw_of_ne (reg : Registry) (node : Handle) (other : q ≠ p) :
    (reg.withdraw p node).names.kindAt? q = reg.names.kindAt? q := by
  rcases withdraw_cases reg p node with same | ⟨-, names, changed, kinds⟩
  · rw [same]
  · rw [changed, kinds q, if_neg other]

/-- A file of another node is not withdrawn. -/
theorem withdraw_of_other_owner {h : Handle} (file : reg.names.kindAt? p = some (.leaf h))
    (other : h ≠ node) : reg.withdraw p node = reg := by
  rcases withdraw_cases reg p node with same | ⟨file', -⟩
  · exact same
  · rw [file] at file'
    cases file'
    exact absurd rfl other

theorem settle_cases (reg : Registry) (p : Path) (node : Handle) (reply : Except Error Bool) :
    (reg.settle p node reply).2 = reg ∨
      (reg.settle p node reply).2 = reg.withdraw p node := by
  rw [settle]
  split
  · exact .inl rfl
  · exact .inr rfl

/-- The answer of a node is the answer of the naming service. -/
theorem settle_of_answer (reg : Registry) (p : Path) (node : Handle) (created : Bool) :
    (reg.settle p node (.ok created)).1 = .ok created := by
  cases created <;> rfl

/-- A creation that is settled at once asks nobody. -/
theorem createFile_of_settled {σ : Type} {calls : NodeCalls σ} {answer : Except Error Bool} {w : σ}
    (settled : reg.reserve p = .settled answer) :
    reg.createFile calls p w = (answer, reg, w) := by
  rw [createFile, settled]

/-- A creation that gets as far as its node ends with what the node answers. -/
theorem createFile_of_reserved {σ : Type} {calls : NodeCalls σ} {w w' : σ}
    {reply : Except Error Bool} (reserved : reg.reserve p = .reserved node reg')
    (asked : calls.create node p w = (reply, w')) : reg.createFile calls p w =
      ((reg'.settle p node reply).1, (reg'.settle p node reply).2, w') := by
  unfold createFile
  rw [reserved]
  simp only [asked]

/-- The creation of a file, whatever its node answers, adds at most that file and
takes nothing away. -/
theorem kept_createFile {σ : Type} (calls : NodeCalls σ) (reg : Registry) (p : Path) (s : σ) :
    reg.names.Kept (reg.createFile calls p s).2.1.names := by
  cases reserved : reg.reserve p with
  | settled answer =>
      rw [createFile_of_settled reserved]
      exact .refl _
  | reserved node reg' =>
  rw [createFile_of_reserved reserved rfl]
  intro q kind there
  have there' := kept_of_reserved reserved q kind there
  rcases settle_cases reg' p node (calls.create node p s).1 with same | same
  · simpa [same] using there'
  · have other : q ≠ p := by
      rintro rfl
      obtain ⟨free, -⟩ := reserve_eq_reserved reserved
      rw [Namespace.kindAt?_of_not_conflicts free] at there
      cases there
    simpa [same, kindAt?_withdraw_of_ne reg' node other] using there'

/-! ### Deletion -/

/-- A deletion of what is not there, or of the root, asks nobody. -/
theorem delete_of_not_removed {σ : Type} {calls : NodeCalls σ} {w : σ}
    (kept : reg.names.remove p = none) : reg.delete calls p w =
      (if p.isRoot then .ok false else .error (.notFound p.text), reg, w) := by
  unfold delete
  split
  · rfl
  · rw [kept]

/-- A deletion of what is there. -/
theorem delete_of_removed {σ : Type} {calls : NodeCalls σ} {entry : Entry} {names : Namespace}
    {w : σ} (notRoot : p.isRoot = false) (removed : reg.names.remove p = some (entry, names)) :
    reg.delete calls p w = (verdict (askAll calls p (Entry.owners entry).toList w).1,
      { reg with names }, (askAll calls p (Entry.owners entry).toList w).2) := by
  unfold delete
  rw [if_neg (by simp [notRoot]), removed]

/-- All that a deletion can do. -/
theorem delete_cases {σ : Type} (calls : NodeCalls σ) (reg : Registry) (p : Path) (w : σ) :
    (reg.names.remove p = none ∧ reg.delete calls p w =
      (if p.isRoot then .ok false else .error (.notFound p.text), reg, w)) ∨
    p.isRoot = false ∧ ∃ entry names, reg.names.remove p = some (entry, names) ∧
      reg.delete calls p w = (verdict (askAll calls p (Entry.owners entry).toList w).1,
        { reg with names }, (askAll calls p (Entry.owners entry).toList w).2) := by
  cases removed : reg.names.remove p with
  | none => exact .inl ⟨rfl, delete_of_not_removed removed⟩
  | some found =>
      obtain ⟨entry, names⟩ := found
      have notRoot := Namespace.not_isRoot_of_lookup (Namespace.remove_eq_some_iff.mp removed).1
      exact .inr ⟨notRoot, entry, names, rfl, delete_of_removed notRoot removed⟩

/-- A deletion takes a path and all below it out of the namespace, if it is there and
not the root. -/
theorem names_delete {σ : Type} (calls : NodeCalls σ) (reg : Registry) (p : Path) (s : σ) :
    (reg.delete calls p s).2.1 = reg ∨
      p.isRoot = false ∧ ∃ names, (reg.delete calls p s).2.1 = { reg with names } ∧
        ∀ q, names.kindAt? q = if q.isUnder p then none else reg.names.kindAt? q := by
  rcases delete_cases calls reg p s with ⟨-, kept⟩ | ⟨notRoot, entry, names, removed, deleted⟩
  · exact .inl (by rw [kept])
  · exact .inr ⟨notRoot, names, by rw [deleted], Namespace.kindAt?_remove removed⟩

/-- A deletion of what belongs to one node. -/
theorem delete_of_owner {σ : Type} {calls : NodeCalls σ} {entry : Entry} {names : Namespace}
    {w : σ} (notRoot : p.isRoot = false)
    (removed : reg.names.remove p = some (entry, names))
    (owners : (Entry.owners entry).toList = [node]) :
    (reg.delete calls p w).2 = ({ reg with names }, (calls.delete node p w).2) := by
  rw [delete_of_removed notRoot removed, owners]
  rfl

/-- Whoever owns a file at or below an entry is among its owners. -/
theorem mem_owners {entry : Entry} {names : Namespace} {h : Handle}
    (removed : reg.names.remove p = some (entry, names)) (below : q.isUnder p = true)
    (file : reg.names.kindAt? q = some (.leaf h)) : h ∈ Entry.owners entry := by
  obtain ⟨found, -⟩ := Namespace.remove_eq_some_iff.mp removed
  have there : (Tree.dir reg.names.top).get? p.components = some entry := by
    rwa [Namespace.lookup_of_not_isRoot (Namespace.not_isRoot_of_lookup found)] at found
  obtain ⟨rest, whole⟩ := Path.isUnder_iff.mp below
  have leaf : entry.get? rest = some (.leaf h) := by
    rw [Namespace.kindAt?, ← whole, Tree.kindAt?_append there] at file
    exact Tree.kindAt?_eq_leaf_iff.mp file
  rw [Entry.owners, SortedSet.mem_ofList]
  exact List.mem_map.mpr ⟨(rest, h), Tree.mem_leaves_of_get? leaf, rfl⟩

/-! ### The world of the nodes -/

section World

variable {σ : Type} {calls : NodeCalls σ} {holds : σ → Prop} {w : σ}

theorem world_askAll (deletes : ∀ h p w, holds w → holds (calls.delete h p w).2) (p : Path)
    (nodes : List Handle) (before : holds w) : holds (askAll calls p nodes w).2 := by
  induction nodes generalizing w with
  | nil => exact before
  | cons node nodes ih => exact ih (deletes node p w before)

theorem world_createFile (creates : ∀ h p w, holds w → holds (calls.create h p w).2)
    (reg : Registry) (p : Path) (before : holds w) : holds (reg.createFile calls p w).2.2 := by
  cases reserved : reg.reserve p with
  | settled answer => rwa [createFile_of_settled reserved]
  | reserved node reg' =>
      rw [createFile_of_reserved reserved rfl]
      exact creates node p w before

theorem world_delete (deletes : ∀ h p w, holds w → holds (calls.delete h p w).2)
    (reg : Registry) (p : Path) (before : holds w) : holds (reg.delete calls p w).2.2 := by
  rcases delete_cases calls reg p w with ⟨-, kept⟩ | ⟨-, entry, names, -, deleted⟩
  · rwa [kept]
  · rw [deleted]
    exact world_askAll deletes p _ before

/-- Whatever the creation and the deletion of files leave true in the world, a request of
a client leaves true. -/
theorem world_serveClient (creates : ∀ h p w, holds w → holds (calls.create h p w).2)
    (deletes : ∀ h p w, holds w → holds (calls.delete h p w).2) (reg : Registry) (r : Request)
    (before : holds w) : holds (reg.serveClient calls r w).2.2 := by
  cases r with
  | createFile p => exact world_createFile creates reg p before
  | deletePath p => exact world_delete deletes reg p before
  | _ => exact before

end World

end Registry

end Dfs
