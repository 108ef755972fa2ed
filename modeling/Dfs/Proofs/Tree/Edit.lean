import Dfs.Proofs.Tree.Order

/-!
Changes in place. Directories that are missing are made on the way, and yet a change that
meets a leaf leaves everything as it was: below a directory that it has made nothing is in
the way (`edit_of_error`). One that succeeds leaves what `place` gives (`edit_of_ok`), and a change
of what is taken away next leaves no trace (`remove_of_place`).
-/

namespace Dfs

namespace Entries

variable {κ β : Type} [DecidableEq κ] [LT κ] [DecidableLT κ]

/-- Of two things put under one name, the second stays. -/
theorem put_put (k : κ) (b b' : β) (es : Entries κ β) : put k b (put k b' es) = put k b es := by
  induction es with
  | nil => simp [put]
  | cons e es ih =>
      obtain ⟨k', c⟩ := e
      by_cases same : k = k'
      · simp [put, same]
      · by_cases before : k < k'
        · simp [put, same, before]
        · simp [put, same, before, ih]

/-- What was put under a name is taken away with the name. -/
theorem erase_put (k : κ) (b : β) (es : Entries κ β) : erase k (put k b es) = erase k es := by
  induction es with
  | nil => simp [put, erase]
  | cons e es ih =>
      obtain ⟨k', c⟩ := e
      by_cases same : k = k'
      · simp [put, erase, same]
      · by_cases before : k < k'
        · simp [put, erase, same, before]
        · simp [put, erase, same, before, ih]

end Entries

namespace Tree

variable {κ α : Type} [DecidableEq κ] [LT κ] [DecidableLT κ]
variable {change : Option (Tree κ α) → Tree κ α} {es es' : Folder κ α} {k : κ}

/-! ### One step -/

theorem edit_into {inner : Folder κ α} (found : Entries.find k es = some (.dir inner)) (k' : κ)
    (ks : List κ) : edit change (k :: k' :: ks) es =
      ((edit change (k' :: ks) inner).1,
        Entries.put k (.dir (edit change (k' :: ks) inner).2) es) := by
  simp [edit, found]

theorem edit_fresh (found : Entries.find k es = none) (k' : κ) (ks : List κ) :
    edit change (k :: k' :: ks) es =
      ((edit change (k' :: ks) []).1, Entries.put k (.dir (edit change (k' :: ks) []).2) es) := by
  simp [edit, found, Entries.put_put]

theorem edit_blocked {value : α} (found : Entries.find k es = some (.leaf value)) (k' : κ)
    (ks : List κ) : edit change (k :: k' :: ks) es = (some k, es) := by
  simp [edit, found]

/-! ### Whole changes -/

theorem edit_of_ok {ks : List κ} (done : place change ks es = .ok es') :
    edit change ks es = (none, es') := by
  induction ks generalizing es es' with
  | nil =>
      rw [place, Except.ok.injEq] at done
      simp [edit, done]
  | cons k ks ih =>
      cases ks with
      | nil =>
          rw [place_single, Except.ok.injEq] at done
          simp [edit, done]
      | cons k' ks =>
          obtain ⟨inner, inner', found, below, rfl⟩ := place_cons_cons done
          rcases found with found | ⟨found, rfl⟩
          · rw [edit_into found, ih below]
          · rw [edit_fresh found, ih below]

/-- What a directory holds is replaced by something that looks the same everywhere. -/
theorem kindAt?_put_dir {inner inner' : Folder κ α} (found : Entries.find k es = some (.dir inner))
    (same : ∀ js, (Tree.dir inner').kindAt? js = (Tree.dir inner).kindAt? js) (js : List κ) :
    (Tree.dir (Entries.put k (.dir inner') es)).kindAt? js = (Tree.dir es).kindAt? js := by
  cases js with
  | nil => simp
  | cons j js =>
      by_cases here : j = k
      · subst here
        rw [kindAt?_put_self, same, kindAt?_dir_cons, found, Option.bind_some]
      · exact kindAt?_put_of_ne here js _ es

theorem edit_of_error {ks : List κ} {stop : κ} (failed : place change ks es = .error stop) :
    ∃ es', edit change ks es = (some stop, es') ∧
      ∀ js, (Tree.dir es').kindAt? js = (Tree.dir es).kindAt? js := by
  induction ks generalizing es with
  | nil => cases failed
  | cons k ks ih =>
      cases ks with
      | nil =>
          rw [place_single] at failed
          cases failed
      | cons k' ks =>
          rcases place_cons_error failed with ⟨⟨value, found⟩, rfl⟩ | ⟨inner, found, below⟩
          · exact ⟨es, edit_blocked found k' ks, fun _ => rfl⟩
          · obtain ⟨inner', stopped, same⟩ := ih below
            refine ⟨Entries.put k (.dir inner') es, ?_, kindAt?_put_dir found same⟩
            rw [edit_into found, stopped]

/-- A change of what is then taken away makes no difference. -/
theorem remove_of_place {ks : List κ} (there : (Tree.dir es).kindAt? ks ≠ none)
    (changed : place change ks es = .ok es') : remove ks es' = remove ks es := by
  induction ks generalizing es es' with
  | nil =>
      rw [place, Except.ok.injEq] at changed
      rw [changed]
  | cons k ks ih =>
      cases ks with
      | nil =>
          rw [place_single, Except.ok.injEq] at changed
          subst changed
          simp only [remove, Entries.erase_put]
      | cons k' ks =>
          obtain ⟨inner, inner', found, below, rfl⟩ := place_cons_cons changed
          rw [kindAt?_dir_cons] at there
          rcases found with found | ⟨absent, -⟩
          · rw [found, Option.bind_some] at there
            simp only [remove, Entries.find_put_self, found, Entries.put_put, ih there below]
          · rw [absent] at there
            exact absurd rfl there

/-- A change in place that makes ordered trees keeps a tree ordered, also if it fails. -/
theorem Ordered.edit [StrictTotal κ]
    (made : ∀ found, (∀ t ∈ found, Ordered t) → Ordered (change found)) (ks : List κ)
    (ordered : Ordered (.dir es)) : Ordered (.dir (Tree.edit change ks es).2) := by
  induction ks generalizing es with
  | nil => exact ordered
  | cons k ks ih =>
      cases ks with
      | nil =>
          refine ordered.put (made _ fun t found => ?_) k
          exact ordered.of_mem (Entries.mem_of_find found)
      | cons k' ks =>
          cases found : Entries.find k es with
          | none =>
              rw [edit_fresh found]
              exact ordered.put (ih ordered_empty) k
          | some t =>
              cases t with
              | leaf value =>
                  rw [edit_blocked found]
                  exact ordered
              | dir inner =>
                  rw [edit_into found]
                  exact ordered.put (ih (ordered.of_mem (Entries.mem_of_find found))) k

end Tree

end Dfs
