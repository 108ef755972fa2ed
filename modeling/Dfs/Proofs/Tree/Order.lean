import Dfs.Proofs.Tree

/-!
Trees whose entries are in the order of their names. Changes keep the order, and in
its presence a tree is known from what is at its places (`Ordered.ext`), and a leaf is
listed if it is at its place (`mem_leaves_iff`).
-/

namespace Dfs

namespace Entries

variable {κ β : Type}

section Members

variable [DecidableEq κ]

theorem mem_of_find {k : κ} {b : β} {es : Entries κ β} (found : find k es = some b) :
    (k, b) ∈ es := by
  induction es with
  | nil => cases found
  | cons e es ih =>
      obtain ⟨k', b'⟩ := e
      rw [find] at found
      split at found
      · next same =>
          rw [same, Option.some.inj found]
          exact List.mem_cons_self
      · exact List.mem_cons_of_mem _ (ih found)

theorem mem_names_iff {k : κ} {es : Entries κ β} : k ∈ names es ↔ find k es ≠ none := by
  induction es with
  | nil => simp [names]
  | cons e es ih =>
      obtain ⟨k', b⟩ := e
      rw [names, List.map_cons, List.mem_cons, ← names, ih, find]
      by_cases same : k = k' <;> simp [same]

theorem mem_of_mem_erase {k : κ} {es : Entries κ β} {e : κ × β} (mem : e ∈ erase k es) :
    e ∈ es := by
  induction es with
  | nil => exact mem
  | cons e' es ih =>
      obtain ⟨k', b'⟩ := e'
      simp only [erase] at mem
      split at mem
      · exact List.mem_cons_of_mem _ (ih mem)
      · rcases List.mem_cons.mp mem with rfl | mem
        · exact List.mem_cons_self
        · exact List.mem_cons_of_mem _ (ih mem)

end Members

variable [LT κ]

/-- The names are strictly increasing. -/
def Increasing (es : Entries κ β) : Prop := (names es).Pairwise (· < ·)

instance [DecidableLT κ] (es : Entries κ β) : Decidable (Increasing es) :=
  inferInstanceAs (Decidable (List.Pairwise _ _))

theorem increasing_nil : Increasing ([] : Entries κ β) := List.Pairwise.nil

theorem increasing_cons_iff {k : κ} {b : β} {es : Entries κ β} :
    Increasing ((k, b) :: es) ↔ (∀ e ∈ es, k < e.1) ∧ Increasing es := by
  simp [Increasing, names, List.pairwise_cons]

variable [DecidableEq κ]

/-- Of increasing entries, each is found under its name. -/
theorem find_eq_some_iff [StrictTotal κ] {es : Entries κ β} (increasing : Increasing es) {k : κ}
    {b : β} : find k es = some b ↔ (k, b) ∈ es := by
  induction es with
  | nil => simp
  | cons e es ih =>
      obtain ⟨k', b'⟩ := e
      rw [increasing_cons_iff] at increasing
      rw [find, List.mem_cons, Prod.mk.injEq]
      by_cases same : k = k'
      · subst same
        have later : (k, b) ∉ es := fun mem => StrictTotal.irrefl k (increasing.1 _ mem)
        simp [later, eq_comm]
      · simp [same, ih increasing.2]

/-- Increasing entries are known from what is found under the names. -/
theorem eq_of_find [StrictTotal κ] {es es' : Entries κ β} (increasing : Increasing es)
    (increasing' : Increasing es') (same : ∀ k, find k es = find k es') : es = es' := by
  have members : ∀ e, e ∈ es ↔ e ∈ es' := by
    rintro ⟨k, b⟩
    rw [← find_eq_some_iff increasing, same k, find_eq_some_iff increasing']
  have sorted {fs : Entries κ β} (increasing : Increasing fs) : fs.Pairwise fun e f => e.1 < f.1 :=
    List.pairwise_map.mp increasing
  have nodup {fs : Entries κ β} (increasing : Increasing fs) : fs.Nodup := by
    refine (sorted increasing).imp fun {e f} before same => ?_
    rw [same] at before
    exact StrictTotal.irrefl f.1 before
  have perm := (List.perm_ext_iff_of_nodup (nodup increasing) (nodup increasing')).mpr members
  refine perm.eq_of_pairwise (fun e f _ _ before after => ?_) (sorted increasing)
    (sorted increasing')
  exact absurd (StrictTotal.trans before after) (StrictTotal.irrefl e.1)

theorem increasing_erase {k : κ} {es : Entries κ β} (increasing : Increasing es) :
    Increasing (erase k es) := by
  induction es with
  | nil => exact increasing
  | cons e es ih =>
      obtain ⟨k', b'⟩ := e
      rw [increasing_cons_iff] at increasing
      simp only [erase]
      split
      · exact ih increasing.2
      · refine increasing_cons_iff.mpr ⟨fun e mem => ?_, ih increasing.2⟩
        exact increasing.1 e (mem_of_mem_erase mem)

variable [DecidableLT κ]

theorem mem_put {k : κ} {b : β} {es : Entries κ β} {e : κ × β} (mem : e ∈ put k b es) :
    e = (k, b) ∨ e ∈ es := by
  induction es with
  | nil => simpa [put] using mem
  | cons e' es ih =>
      obtain ⟨k', b'⟩ := e'
      simp only [put] at mem
      split at mem
      · rcases List.mem_cons.mp mem with rfl | mem
        · exact .inl rfl
        · exact .inr (List.mem_cons_of_mem _ mem)
      · split at mem
        · exact List.mem_cons.mp mem
        · rcases List.mem_cons.mp mem with rfl | mem
          · exact .inr List.mem_cons_self
          · exact (ih mem).imp_right (List.mem_cons_of_mem _)

theorem increasing_put [StrictTotal κ] {k : κ} {b : β} {es : Entries κ β}
    (increasing : Increasing es) : Increasing (put k b es) := by
  induction es with
  | nil => simp [put, Increasing, names]
  | cons e es ih =>
      obtain ⟨k', b'⟩ := e
      have whole := increasing
      rw [increasing_cons_iff] at increasing
      simp only [put]
      split
      · next same =>
          subst same
          exact increasing_cons_iff.mpr increasing
      next other =>
      split
      · next before =>
          refine increasing_cons_iff.mpr ⟨fun e mem => ?_, whole⟩
          rcases List.mem_cons.mp mem with rfl | mem
          · exact before
          · exact StrictTotal.trans before (increasing.1 e mem)
      · next notBefore =>
          refine increasing_cons_iff.mpr ⟨fun e mem => ?_, ih increasing.2⟩
          rcases mem_put mem with rfl | mem
          · rcases StrictTotal.connex k' k with after | same | before
            · exact after
            · exact absurd same.symm other
            · exact absurd before notBefore
          · exact increasing.1 e mem

end Entries

namespace Tree

variable {κ α : Type} [LT κ]

/-- The entries of every directory of the tree are increasing. -/
inductive Ordered : Tree κ α → Prop where
  | leaf (value : α) : Ordered (.leaf value)
  | dir {es : Folder κ α} : Entries.Increasing es → (∀ e ∈ es, Ordered e.2) → Ordered (.dir es)

theorem ordered_empty : Ordered (.dir [] : Tree κ α) := .dir Entries.increasing_nil (by simp)

theorem ordered_dir_iff {es : Folder κ α} :
    Ordered (.dir es) ↔ Entries.Increasing es ∧ ∀ e ∈ es, Ordered e.2 := by
  constructor
  · intro ordered
    cases ordered with
    | dir increasing inner => exact ⟨increasing, inner⟩
  · rintro ⟨increasing, inner⟩
    exact .dir increasing inner

mutual

/-- Whether a tree is ordered can be told by walking it. -/
def decideOrdered [DecidableLT κ] : (t : Tree κ α) → Decidable t.Ordered
  | .leaf value => isTrue (.leaf value)
  | .dir es =>
    have := decideFolder es
    decidable_of_iff (Entries.Increasing es ∧ ∀ e ∈ es, e.2.Ordered) ordered_dir_iff.symm

def decideFolder [DecidableLT κ] : (es : List (κ × Tree κ α)) → Decidable (∀ e ∈ es, e.2.Ordered)
  | [] => isTrue (by simp)
  | (_, t) :: es =>
    have := decideOrdered t
    have := decideFolder es
    decidable_of_iff (t.Ordered ∧ ∀ e ∈ es, e.2.Ordered) (by simp)

end

instance [DecidableLT κ] (t : Tree κ α) : Decidable t.Ordered := decideOrdered t

theorem Ordered.increasing {es : Folder κ α} (ordered : Ordered (.dir es)) :
    Entries.Increasing es :=
  (ordered_dir_iff.mp ordered).1

theorem Ordered.of_mem {es : Folder κ α} (ordered : Ordered (.dir es)) {e : κ × Tree κ α}
    (mem : e ∈ es) : Ordered e.2 :=
  (ordered_dir_iff.mp ordered).2 e mem

variable [DecidableEq κ]

theorem Ordered.get? {t u : Tree κ α} (ordered : Ordered t) {ks : List κ}
    (found : t.get? ks = some u) : Ordered u := by
  induction ks generalizing t with
  | nil =>
      rw [get?_nil, Option.some.injEq] at found
      exact found ▸ ordered
  | cons k ks ih =>
      cases t with
      | leaf value => cases found
      | dir es =>
          rw [get?_dir_cons, Option.bind_eq_some_iff] at found
          obtain ⟨t, there, found⟩ := found
          exact ih (ordered.of_mem (Entries.mem_of_find there)) found

theorem Ordered.erase {es : Folder κ α} (ordered : Ordered (.dir es)) (k : κ) :
    Ordered (.dir (Entries.erase k es)) :=
  .dir (Entries.increasing_erase ordered.increasing) fun _ mem =>
    ordered.of_mem (Entries.mem_of_mem_erase mem)

section Changes

variable [DecidableLT κ] [StrictTotal κ]

theorem Ordered.put {es : Folder κ α} (ordered : Ordered (.dir es)) {t : Tree κ α}
    (inner : Ordered t) (k : κ) : Ordered (.dir (Entries.put k t es)) := by
  refine .dir (Entries.increasing_put ordered.increasing) fun e mem => ?_
  rcases Entries.mem_put mem with rfl | mem
  · exact inner
  · exact ordered.of_mem mem

/-- A change that makes ordered trees keeps a tree ordered. -/
theorem Ordered.place {change : Option (Tree κ α) → Tree κ α}
    (made : ∀ found, (∀ t ∈ found, Ordered t) → Ordered (change found)) {ks : List κ}
    {es es' : Folder κ α} (ordered : Ordered (.dir es)) (done : Tree.place change ks es = .ok es') :
    Ordered (.dir es') := by
  induction ks generalizing es es' with
  | nil =>
      rw [Tree.place, Except.ok.injEq] at done
      exact done ▸ ordered
  | cons k ks ih =>
      cases ks with
      | nil =>
          rw [place_single, Except.ok.injEq] at done
          subst done
          refine ordered.put (made _ fun t found => ?_) k
          exact ordered.of_mem (Entries.mem_of_find found)
      | cons k' ks =>
          obtain ⟨inner, inner', found, below, rfl⟩ := place_cons_cons done
          refine ordered.put (ih ?_ below) k
          rcases found with found | ⟨-, rfl⟩
          · exact ordered.of_mem (Entries.mem_of_find found)
          · exact ordered_empty

theorem Ordered.remove {ks : List κ} {es : Folder κ α} (ordered : Ordered (.dir es)) :
    Ordered (.dir (Tree.remove ks es)) := by
  induction ks generalizing es with
  | nil => exact ordered
  | cons k ks ih =>
      cases ks with
      | nil => exact ordered.erase k
      | cons k' ks =>
          simp only [Tree.remove]
          split
          · next inner found => exact ordered.put (ih (ordered.of_mem (Entries.mem_of_find found))) k
          · exact ordered

end Changes

/-! ### Lists of places -/

section Listed

omit [LT κ] [DecidableEq κ]

/-- Lists of what is in each entry, with the name of the entry put in front. -/
theorem mem_flatMap_entries_iff {β γ : Type} {listed : β → List (List κ × γ)} {es : Entries κ β}
    {ks : List κ} {c : γ} :
    (ks, c) ∈ es.flatMap (fun e => (listed e.2).map fun (ks, c) => (e.1 :: ks, c)) ↔
      ∃ k b ks', (k, b) ∈ es ∧ ks = k :: ks' ∧ (ks', c) ∈ listed b := by
  simp only [List.mem_flatMap, List.mem_map, Prod.mk.injEq, Prod.exists]
  constructor
  · rintro ⟨k, b, mem, ks', c', inside, rfl, rfl⟩
    exact ⟨k, b, ks', mem, rfl, inside⟩
  · rintro ⟨k, b, ks', mem, rfl, inside⟩
    exact ⟨k, b, mem, ks', c, inside, rfl, rfl⟩

theorem folderLeaves_eq_flatMap (es : Folder κ α) : folderLeaves es =
    es.flatMap fun e => (leaves e.2).map fun (ks, value) => (e.1 :: ks, value) := by
  induction es with
  | nil => rfl
  | cons e es ih => rw [folderLeaves, ih, List.flatMap_cons]

theorem folderPlaces_eq_flatMap (es : Folder κ α) : folderPlaces es =
    es.flatMap fun e => (places e.2).map fun (ks, value) => (e.1 :: ks, value) := by
  induction es with
  | nil => rfl
  | cons e es ih => rw [folderPlaces, ih, List.flatMap_cons]

theorem mem_folderLeaves_iff {es : Folder κ α} {ks : List κ} {value : α} :
    (ks, value) ∈ folderLeaves es ↔
      ∃ k t ks', (k, t) ∈ es ∧ ks = k :: ks' ∧ (ks', value) ∈ leaves t := by
  rw [folderLeaves_eq_flatMap, mem_flatMap_entries_iff]

theorem mem_folderPlaces_iff {es : Folder κ α} {ks : List κ} {value : Option α} :
    (ks, value) ∈ folderPlaces es ↔
      ∃ k t ks', (k, t) ∈ es ∧ ks = k :: ks' ∧ (ks', value) ∈ places t := by
  rw [folderPlaces_eq_flatMap, mem_flatMap_entries_iff]

variable [DecidableEq κ]

theorem mem_leaves_of_get? {t : Tree κ α} {ks : List κ} {value : α}
    (found : t.get? ks = some (.leaf value)) : (ks, value) ∈ leaves t := by
  induction ks generalizing t with
  | nil =>
      rw [get?_nil, Option.some.injEq] at found
      simp [found, leaves]
  | cons k ks ih =>
      cases t with
      | leaf value => cases found
      | dir es =>
          rw [get?_dir_cons, Option.bind_eq_some_iff] at found
          obtain ⟨t, there, found⟩ := found
          rw [leaves, mem_folderLeaves_iff]
          exact ⟨k, t, ks, Entries.mem_of_find there, rfl, ih found⟩

end Listed

end Tree

/-- The value of a leaf. -/
def Kind.value? {α : Type} : Kind α → Option α
  | .dir => none
  | .leaf value => some value

namespace Tree

variable {κ α : Type} [LT κ] [DecidableEq κ] [StrictTotal κ]

/-- Two ordered trees with the same at every place are equal. -/
theorem Ordered.ext {t u : Tree κ α} (ordered : Ordered t) (ordered' : Ordered u)
    (same : ∀ ks, t.kindAt? ks = u.kindAt? ks) : t = u := by
  have top := same []
  rw [kindAt?_nil, kindAt?_nil, Option.some.injEq] at top
  induction ordered generalizing u with
  | leaf value => exact (kind_eq_leaf_iff.mp top.symm).symm
  | @dir es increasing _ ih =>
      obtain ⟨es', rfl⟩ := kind_eq_dir_iff.mp top.symm
      have finds : ∀ k, Entries.find k es = Entries.find k es' := by
        intro k
        have below : ∀ ks, (Entries.find k es).bind (kindAt? ks) =
            (Entries.find k es').bind (kindAt? ks) := by
          intro ks
          rw [← kindAt?_dir_cons, ← kindAt?_dir_cons, same]
        have here := below []
        cases found : Entries.find k es with
        | none =>
            cases found' : Entries.find k es' with
            | none => rfl
            | some u => simp [found, found'] at here
        | some t =>
            cases found' : Entries.find k es' with
            | none => simp [found, found'] at here
            | some u =>
                rw [found, found'] at below
                have inner := ordered'.of_mem (Entries.mem_of_find found')
                have equal := ih _ (Entries.mem_of_find found) inner below (by simpa using below [])
                exact congrArg some equal
      rw [Entries.eq_of_find increasing ordered'.increasing finds]

/-- The leaves of an ordered tree are listed at their places. -/
theorem mem_leaves_iff {t : Tree κ α} (ordered : Ordered t) {ks : List κ} {value : α} :
    (ks, value) ∈ leaves t ↔ t.get? ks = some (.leaf value) := by
  refine ⟨fun listed => ?_, mem_leaves_of_get?⟩
  induction ordered generalizing ks with
  | leaf v =>
      rw [leaves, List.mem_singleton] at listed
      cases listed
      rfl
  | @dir es increasing _ ih =>
      rw [leaves, mem_folderLeaves_iff] at listed
      obtain ⟨k, t, ks', mem, rfl, inside⟩ := listed
      rw [get?_dir_cons, (Entries.find_eq_some_iff increasing).mpr mem, Option.bind_some]
      exact ih _ mem inside

/-- Everything in an ordered tree is listed at its place. -/
theorem mem_places_iff {t : Tree κ α} (ordered : Ordered t) {ks : List κ} {value : Option α} :
    (ks, value) ∈ places t ↔ (t.kindAt? ks).map Kind.value? = some value := by
  induction ordered generalizing ks with
  | leaf v =>
      cases ks with
      | nil => simp [places, Kind.value?, eq_comm]
      | cons k ks => simp [places]
  | @dir es increasing _ ih =>
      rw [places, List.mem_cons, mem_folderPlaces_iff]
      cases ks with
      | nil => simp [Kind.value?, eq_comm]
      | cons k ks =>
          rw [kindAt?_dir_cons]
          constructor
          · rintro (top | ⟨k', t, ks', mem, same, inside⟩)
            · cases top
            · cases same
              rw [(Entries.find_eq_some_iff increasing).mpr mem, Option.bind_some]
              exact (ih _ mem).mp inside
          · intro found
            cases there : Entries.find k es with
            | none => simp [there] at found
            | some t =>
                rw [there, Option.bind_some] at found
                have mem := (Entries.find_eq_some_iff increasing).mp there
                exact .inr ⟨k, t, ks, mem, rfl, (ih _ mem).mpr found⟩

end Tree

end Dfs
