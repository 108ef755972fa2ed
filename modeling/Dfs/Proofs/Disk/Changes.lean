import Dfs.Proofs.Disk.Served

/-!
What the operations on a disk that a node serves leave on it: a new directory, a new
file, new content, and whatever is taken away. Each changes one place below that of
the node, or nothing.
-/

namespace Dfs.Disk

variable {d d' : Disk} {root : HostPath} {p place dir : Place} {names : List HostName}
  {node : DiskNode}

/-! ### Operations that succeed -/

section Operations

variable {h : HostPath} {fault : Fault}

/-- A directory is made where the path leads to nothing. -/
theorem makeDirectory_eq_ok_iff : d.makeDirectory h = .ok d' ↔
    ∃ dir name, d.resolve false h = .ok (.vacant dir name) ∧ d' = d.set (dir ++ [name]) (.dir []) := by
  unfold makeDirectory
  constructor
  · intro done
    split at done
    · cases done
    · cases done
    · next dir name vacant => exact ⟨dir, name, vacant, (Except.ok.inj done).symm⟩
  · rintro ⟨dir, name, vacant, rfl⟩
    rw [vacant]

theorem makeDirectory_of_found (found : d.resolve false h = .ok (.found p node)) :
    d.makeDirectory h = .error .entryExists := by
  unfold makeDirectory
  rw [found]

theorem makeDirectory_of_fault (refused : d.resolve false h = .error fault) :
    d.makeDirectory h = .error fault := by
  unfold makeDirectory
  rw [refused]

/-- A file is made where the path leads to nothing. -/
theorem createFile_eq_ok_iff : d.createFile h = .ok d' ↔
    ∃ dir name, d.resolve false h = .ok (.vacant dir name) ∧
      d' = d.set (dir ++ [name]) (.leaf (.file .empty)) := by
  unfold createFile
  constructor
  · intro done
    split at done
    · cases done
    · cases done
    · next dir name vacant => exact ⟨dir, name, vacant, (Except.ok.inj done).symm⟩
  · rintro ⟨dir, name, vacant, rfl⟩
    rw [vacant]

theorem createFile_of_fault (refused : d.resolve false h = .error fault) :
    d.createFile h = .error fault := by
  unfold createFile
  rw [refused]

/-- A directory is removed where the path leads to an empty one. -/
theorem removeDirectory_eq_ok_iff : d.removeDirectory h = .ok d' ↔
    ∃ q, d.resolve false h = .ok (.found q (.dir [])) ∧ d' = d.erase q := by
  unfold removeDirectory
  constructor
  · intro done
    split at done
    · cases done
    · cases done
    · cases done
    · next q found => exact ⟨q, found, (Except.ok.inj done).symm⟩
    · cases done
  · rintro ⟨q, found, rfl⟩
    rw [found]

end Operations

/-! ### One place -/

/-- Something without entries takes the place of what has none either. -/
theorem kindAt?_set (node : DiskNode) (nonempty : place ≠ [])
    (lead : ∀ js, js <+: place → js ≠ place → d.kindAt? js = some .dir)
    (bare : ∀ js, Inside place js → d.kindAt? js = none)
    (empty : ∀ k ks, node.kindAt? (k :: ks) = none) (js : Place) :
    (d.set place node).kindAt? js = if js = place then some node.kind else d.kindAt? js := by
  have free : ∀ js, js <+: place → js ≠ place → ∀ item,
      (Tree.dir d.top).kindAt? js ≠ some (.leaf item) := by
    intro js before proper item there
    rw [show (Tree.dir d.top).kindAt? js = some .dir from lead js before proper] at there
    cases there
  obtain ⟨top, placed⟩ : ∃ top, Tree.place (fun _ => node) place d.top = .ok top :=
    Tree.place_isOk_iff.mpr free
  have kinds := Tree.kindAt?_place nonempty placed js
  have changed : d.set place node = { d with top } := by
    unfold set
    rw [placed]
  rw [changed]
  apply kinds.trans
  by_cases same : js = place
  · subst same
    simp
  rw [if_neg same]
  by_cases below : place <+: js
  · rw [if_pos below, bare js ⟨below, Ne.symm same⟩]
    obtain ⟨rest, rfl⟩ := below
    rw [List.drop_left]
    cases rest with
    | nil => exact absurd (List.append_nil place) same
    | cons k ks => exact empty k ks
  · rw [if_neg below]
    by_cases above : js <+: place
    · rw [if_pos above, lead js above same]
    · rw [if_neg above]
      rfl

/-- Of two nodes that are put at one place, the later one stays. -/
theorem set_set (d : Disk) (place : Place) (node node' : DiskNode) :
    (d.set place node).set place node' = d.set place node' := by
  unfold set
  cases placed : Tree.place (fun _ => node) place d.top with
  | error k => rfl
  | ok top =>
      -- What is put there does not decide whether there is a place for it.
      obtain ⟨top', again⟩ : ∃ top', Tree.place (fun _ => node') place d.top = .ok top' :=
        Tree.place_isOk_iff.mpr (Tree.place_isOk_iff.mp ⟨top, placed⟩)
      dsimp only
      rw [Tree.place_place node' placed, again]

@[simp] theorem largest_set (d : Disk) (place : Place) (node : DiskNode) :
    (d.set place node).largest = d.largest := by
  unfold set
  split <;> rfl

theorem kindAt?_erase (nonempty : place ≠ []) (js : Place) :
    (d.erase place).kindAt? js = if place <+: js then none else d.kindAt? js :=
  Tree.kindAt?_remove nonempty d.top js

theorem ordered_set (ordered : (Tree.dir d.top).Ordered) (inner : node.Ordered) :
    (Tree.dir (d.set place node).top).Ordered := by
  unfold set
  split
  · next placed => exact ordered.place (fun _ _ => inner) placed
  · exact ordered

theorem ordered_erase (ordered : (Tree.dir d.top).Ordered) (place : Place) :
    (Tree.dir (d.erase place).top).Ordered :=
  ordered.remove

/-- Whatever leads to something on a disk is a directory. -/
theorem kindAt?_of_isPrefix {js ks : Place} (lead : js <+: ks) (proper : js ≠ ks)
    (there : d.kindAt? ks ≠ none) : d.kindAt? js = some .dir :=
  Tree.kindAt?_of_isPrefix lead proper there

theorem kindAt?_none_of_isPrefix {js ks : Place} (lead : js <+: ks) (absent : d.kindAt? js = none) :
    d.kindAt? ks = none :=
  Tree.kindAt?_none_of_isPrefix lead absent

/-- Nothing is below a leaf. -/
theorem kindAt?_inside_leaf {item : DiskItem} (leaf : d.kindAt? place = some (.leaf item))
    {js : Place} (inside : Inside place js) : d.kindAt? js = none := by
  by_contra there
  have isDir := kindAt?_of_isPrefix inside.1 inside.2 there
  rw [leaf] at isDir
  cases isDir

/-- A leaf takes the place of another one. -/
theorem kindAt?_set_leaf {item : DiskItem} (leaf : d.kindAt? place = some (.leaf item))
    (item' : DiskItem) (js : Place) : (d.set place (.leaf item')).kindAt? js =
      if js = place then some (.leaf item') else d.kindAt? js := by
  have nonempty : place ≠ [] := by
    rintro rfl
    cases leaf
  exact kindAt?_set (.leaf item') nonempty
    (fun js lead proper => kindAt?_of_isPrefix lead proper (by simp [leaf]))
    (fun js inside => kindAt?_inside_leaf leaf inside) (fun _ _ => rfl) js

/-- Something new in a directory. -/
theorem kindAt?_set_vacant {name : HostName} (node : DiskNode) (isDir : d.kindAt? dir = some .dir)
    (absent : d.kindAt? (dir ++ [name]) = none) (empty : ∀ k ks, node.kindAt? (k :: ks) = none)
    (js : Place) : (d.set (dir ++ [name]) node).kindAt? js =
      if js = dir ++ [name] then some node.kind else d.kindAt? js := by
  refine kindAt?_set node (by simp) (fun js before proper => ?_)
    (fun js inside => kindAt?_none_of_isPrefix inside.1 absent) empty js
  rcases List.prefix_concat_iff.mp before with same | inDir
  · exact absurd same proper
  · by_cases same : js = dir
    · rw [same, isDir]
    · exact kindAt?_of_isPrefix inDir same (by simp [isDir])

/-! ### Changes below the place of a node -/

/-- One place below that of a node holds something new without entries. -/
theorem Worked.of_put {kind : Kind DiskItem} (nonempty : names ≠ [])
    (kinds : ∀ js, d'.kindAt? js = if js = p ++ names then some kind else d.kindAt? js)
    (noLink : ∀ target, kind ≠ .leaf (.link target)) (valid : ∀ name ∈ names, HostName.IsValid name)
    (ordered : (Tree.dir d.top).Ordered → (Tree.dir d'.top).Ordered) : Worked p d d' where
  outside := by
    intro js outside
    rw [kinds js, if_neg]
    rintro rfl
    exact outside p (by simp) ⟨List.prefix_append p names, by simpa using nonempty.symm⟩
  inside := by
    intro xs kind' there
    rw [kinds] at there
    split at there
    · next same =>
        obtain rfl := List.append_cancel_left same
        cases there
        exact .inr ⟨noLink, valid⟩
    · exact .inl there
  ordered := ordered

/-- Something below the place of a node is gone. -/
theorem Worked.of_erase (nonempty : names ≠ []) : Worked p d (d.erase (p ++ names)) where
  outside := by
    intro js outside
    rw [kindAt?_erase (by simp [nonempty]), if_neg]
    intro below
    refine outside p (by simp) ⟨(List.prefix_append p names).trans below, ?_⟩
    rintro rfl
    have short := below.length_le
    have long := List.length_pos_iff.mpr nonempty
    rw [List.length_append] at short
    omega
  inside := by
    intro xs kind there
    rw [kindAt?_erase (by simp [nonempty])] at there
    split at there
    · cases there
    · exact .inl there
  ordered := fun ordered => ordered_erase ordered _

/-! ### Leaves -/

/-- The file or link at a place. -/
def leafAt? (d : Disk) (place : Place) : Option DiskItem := (d.kindAt? place).bind Kind.value?

theorem leafAt?_eq_some_iff {item : DiskItem} :
    d.leafAt? place = some item ↔ d.kindAt? place = some (.leaf item) := by
  unfold leafAt?
  cases d.kindAt? place with
  | none => simp
  | some kind => cases kind <;> simp [Kind.value?]

/-- In place of one leaf there is another. -/
theorem leafAt?_set_leaf {item : DiskItem} (leaf : d.kindAt? place = some (.leaf item))
    (item' : DiskItem) (js : Place) : (d.set place (.leaf item')).leafAt? js =
      if js = place then some item' else d.leafAt? js := by
  unfold leafAt?
  rw [kindAt?_set_leaf leaf]
  split <;> rfl

/-- The root of a node is no file. -/
theorem Rooted.isRoot_eq_false {root : HostPath} {p : Path} (rooted : d.Rooted root place)
    (there : d.leafAt? (place ++ p.place) ≠ none) : p.isRoot = false := by
  by_contra isRoot
  have top : p.place = [] := Path.place_eq_nil_iff.mpr (by simpa using isRoot)
  rw [top, List.append_nil, leafAt?, rooted.kindAt?_place] at there
  exact there rfl

theorem leafAt?_erase (nonempty : place ≠ []) (js : Place) :
    (d.erase place).leafAt? js = if place <+: js then none else d.leafAt? js := by
  unfold leafAt?
  rw [kindAt?_erase nonempty]
  split <;> rfl

/-- What has nothing below it is taken away alone. -/
theorem kindAt?_erase_bare (nonempty : place ≠ [])
    (bare : ∀ js, Inside place js → d.kindAt? js = none) (js : Place) :
    (d.erase place).kindAt? js = if js = place then none else d.kindAt? js := by
  rw [kindAt?_erase nonempty]
  by_cases same : js = place
  · simp [same]
  rw [if_neg same]
  split
  · next below => exact (bare js ⟨below, Ne.symm same⟩).symm
  · rfl

theorem kindAt?_erase_leaf (nonempty : place ≠ []) {item : DiskItem}
    (leaf : d.kindAt? place = some (.leaf item)) (js : Place) :
    (d.erase place).kindAt? js = if js = place then none else d.kindAt? js :=
  kindAt?_erase_bare nonempty (fun _ inside => kindAt?_inside_leaf leaf inside) js

/-! ### Empty directories -/

/-- An empty directory is at the place. -/
def EmptyAt (d : Disk) (place : Place) : Prop := d.get? place = some (.dir [])

theorem EmptyAt.kindAt?_eq_dir (empty : d.EmptyAt place) : d.kindAt? place = some .dir :=
  kindAt?_of_get? empty

theorem EmptyAt.kindAt?_inside (empty : d.EmptyAt place) {js : Place} (inside : Inside place js) :
    d.kindAt? js = none := by
  obtain ⟨⟨rest, rfl⟩, other⟩ := inside
  cases rest with
  | nil => simp at other
  | cons name rest => exact Tree.kindAt?_append empty

theorem kindAt?_erase_empty (nonempty : place ≠ []) (empty : d.EmptyAt place) (js : Place) :
    (d.erase place).kindAt? js = if js = place then none else d.kindAt? js :=
  kindAt?_erase_bare nonempty (fun _ inside => empty.kindAt?_inside inside) js

theorem leafAt?_erase_empty (nonempty : place ≠ []) (empty : d.EmptyAt place) (js : Place) :
    (d.erase place).leafAt? js = d.leafAt? js := by
  unfold leafAt?
  rw [kindAt?_erase_empty nonempty empty]
  split
  · next same => rw [same, empty.kindAt?_eq_dir]; rfl
  · rfl

/-- Directories were made or removed below the place, and no file has changed. -/
structure KeepsFiles (p : Place) (d d' : Disk) : Prop extends Worked p d d' where
  leaves : ∀ js, d'.leafAt? js = d.leafAt? js

theorem KeepsFiles.refl (p : Place) (d : Disk) : KeepsFiles p d d where
  toWorked := .refl p d
  leaves := fun _ => rfl

theorem KeepsFiles.trans {d'' : Disk} (first : KeepsFiles p d d') (second : KeepsFiles p d' d'') :
    KeepsFiles p d d'' where
  toWorked := first.toWorked.trans second.toWorked
  leaves := fun js => (second.leaves js).trans (first.leaves js)

/-- An empty directory is taken away. -/
theorem KeepsFiles.of_erase (nonempty : names ≠ []) (empty : d.EmptyAt (p ++ names)) :
    KeepsFiles p d (d.erase (p ++ names)) where
  toWorked := .of_erase nonempty
  leaves := leafAt?_erase_empty (by simp [nonempty]) empty

/-! ### Directories that were made -/

/-- Directories were made where nothing was, and nothing else has changed. -/
def Furnished (d d' : Disk) : Prop :=
  ∀ js, d'.kindAt? js = d.kindAt? js ∨ d.kindAt? js = none ∧ d'.kindAt? js = some .dir

theorem Furnished.refl (d : Disk) : d.Furnished d := fun _ => .inl rfl

theorem Furnished.trans {d'' : Disk} (first : d.Furnished d') (second : d'.Furnished d'') :
    d.Furnished d'' := by
  intro js
  rcases first js with same | ⟨absent, made⟩
  · rw [← same]
    exact second js
  · rcases second js with same' | ⟨absent', -⟩
    · exact .inr ⟨absent, same'.trans made⟩
    · rw [made] at absent'
      cases absent'

theorem Furnished.within (furnished : d.Furnished d') : d.Within d' := by
  intro js kind there
  rcases furnished js with same | ⟨absent, -⟩
  · rw [same, there]
  · rw [absent] at there
    cases there

theorem Furnished.leafAt?_eq (furnished : d.Furnished d') (js : Place) :
    d'.leafAt? js = d.leafAt? js := by
  unfold leafAt?
  rcases furnished js with same | ⟨absent, made⟩
  · rw [same]
  · rw [absent, made]
    rfl

/-! ### Operations -/

section Operations

variable (rooted : d.Rooted root p) (relative : HostPath.Relative names)

include rooted relative

/-- Something new where nothing was found. -/
theorem Rooted.set_vacant (node : DiskNode) {last : Bool} {name : HostName}
    (vacant : d.resolve last (root.below names) = .ok (.vacant dir name))
    (empty : ∀ k ks, node.kindAt? (k :: ks) = none)
    (noLink : ∀ target, node.kind ≠ .leaf (.link target)) (inner : node.Ordered) :
    d.kindAt? (p ++ names) = none ∧
      (∀ js, (d.set (dir ++ [name]) node).kindAt? js =
        if js = p ++ names then some node.kind else d.kindAt? js) ∧
      Worked p d (d.set (dir ++ [name]) node) := by
  obtain ⟨whole, -, isDir, absent, valid⟩ := rooted.exists_of_resolve_vacant relative vacant
  have kinds := kindAt?_set_vacant node isDir (by rw [whole]; exact absent) empty
  rw [whole] at kinds ⊢
  exact ⟨absent, kinds, .of_put relative.nonempty kinds noLink valid fun ordered =>
    ordered_set ordered inner⟩

theorem Rooted.createFile_eq_ok (done : d.createFile (root.below names) = .ok d') :
    d.kindAt? (p ++ names) = none ∧
      (∀ js, d'.leafAt? js = if js = p ++ names then some (.file .empty) else d.leafAt? js) ∧
      Worked p d d' := by
  obtain ⟨dir, name, vacant, rfl⟩ := createFile_eq_ok_iff.mp done
  obtain ⟨absent, kinds, worked⟩ := rooted.set_vacant relative
    (.leaf (.file .empty)) vacant (fun _ _ => rfl) (by simp) (.leaf _)
  refine ⟨absent, fun js => ?_, worked⟩
  unfold leafAt?
  rw [kinds js]
  split <;> rfl

theorem Rooted.worked_makeDirectory (done : d.makeDirectory (root.below names) = .ok d') :
    Worked p d d' := by
  obtain ⟨dir, name, vacant, rfl⟩ := makeDirectory_eq_ok_iff.mp done
  exact (rooted.set_vacant relative (.dir []) vacant (fun _ _ => rfl) (by simp)
    Tree.ordered_empty).2.2

theorem Rooted.linkStat_eq_ok_iff :
    d.linkStat (root.below names) = .ok node ↔ d.get? (p ++ names) = some node ∧ root.Fits names := by
  rw [Disk.linkStat_eq_ok_iff]
  constructor
  · rintro ⟨q, found⟩
    obtain ⟨rfl, there, fits⟩ := (rooted.resolve_eq_found_iff relative).mp found
    exact ⟨there, fits⟩
  · rintro ⟨there, fits⟩
    exact ⟨_, (rooted.resolve_eq_found_iff relative).mpr ⟨rfl, there, fits⟩⟩

theorem Rooted.removeFile_eq_ok_iff : d.removeFile (root.below names) = .ok d' ↔
    root.Fits names ∧ (∃ item, d.kindAt? (p ++ names) = some (.leaf item)) ∧
      d' = d.erase (p ++ names) := by
  unfold removeFile
  constructor
  · intro done
    split at done
    · cases done
    · cases done
    · cases done
    · next item resolved =>
        obtain ⟨rfl, there, fits⟩ := (rooted.resolve_eq_found_iff relative).mp resolved
        exact ⟨fits, ⟨item, kindAt?_eq_leaf_iff.mpr there⟩, (Except.ok.inj done).symm⟩
  · rintro ⟨fits, ⟨item, leaf⟩, rfl⟩
    have there := kindAt?_eq_leaf_iff.mp leaf
    rw [(rooted.resolve_eq_found_iff relative).mpr ⟨rfl, there, fits⟩]

theorem Rooted.isEmptyDirectory_iff :
    d.isEmptyDirectory (root.below names) = true ↔ root.Fits names ∧ d.EmptyAt (p ++ names) := by
  unfold isEmptyDirectory
  constructor
  · intro empty
    split at empty
    · next entries seen =>
        obtain ⟨q, resolved⟩ := stat_eq_ok_iff.mp seen
        obtain ⟨rfl, there, fits⟩ := (rooted.resolve_eq_found_iff relative).mp resolved
        obtain rfl := List.isEmpty_iff.mp empty
        exact ⟨fits, there⟩
    · cases empty
  · rintro ⟨fits, empty⟩
    rw [stat_of_found ((rooted.resolve_eq_found_iff relative).mpr ⟨rfl, empty, fits⟩)]
    rfl

theorem Rooted.removeDirectory_eq_ok_iff : d.removeDirectory (root.below names) = .ok d' ↔
    root.Fits names ∧ d.EmptyAt (p ++ names) ∧ d' = d.erase (p ++ names) := by
  rw [Disk.removeDirectory_eq_ok_iff]
  constructor
  · rintro ⟨q, found, rfl⟩
    obtain ⟨rfl, there, fits⟩ := (rooted.resolve_eq_found_iff relative).mp found
    exact ⟨fits, there, rfl⟩
  · rintro ⟨fits, empty, rfl⟩
    exact ⟨_, (rooted.resolve_eq_found_iff relative).mpr ⟨rfl, empty, fits⟩, rfl⟩

/-- A file below the root may get another content. -/
theorem Rooted.worked_set_file {before : Content}
    (there : d.kindAt? (p ++ names) = some (.leaf (.file before))) (after : Content) :
    Worked p d (d.set (p ++ names) (.leaf (.file after))) :=
  .of_put relative.nonempty (kindAt?_set_leaf there (.file after)) (by simp)
    (rooted.valid names (by simp [there])) fun ordered => ordered_set ordered (.leaf _)

end Operations

end Dfs.Disk
