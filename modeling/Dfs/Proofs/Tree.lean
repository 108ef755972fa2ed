import Dfs.Proofs.Except
import Dfs.Tree
import Mathlib.Data.List.Infix

/-!
Trees seen from their places. What is at a place is a directory or a leaf with its
value; an operation on a tree is described by what it leaves at every place.

* `kindAt?_place`: a change takes effect at one place and below it, makes
  directories of the places that lead there, and touches nothing else.
* `place_isOk_iff`: a change fails exactly when a leaf is in the way.
* `kindAt?_remove`: a removal empties one place and all below it, and nothing else.
-/

namespace Dfs

/-- What is at a place of a tree: a directory, whatever is in it, or a leaf with its
value. -/
inductive Kind (α : Type) where
  | dir
  | leaf (value : α)
  deriving DecidableEq, Repr

namespace Tree

variable {κ α : Type}

def kind : Tree κ α → Kind α
  | .leaf value => .leaf value
  | .dir _ => .dir

@[simp] theorem kind_leaf (value : α) : (Tree.leaf value : Tree κ α).kind = .leaf value := rfl

@[simp] theorem kind_dir (es : Folder κ α) : (Tree.dir es).kind = .dir := rfl

theorem kind_eq_dir_iff {t : Tree κ α} : t.kind = .dir ↔ ∃ es, t = .dir es := by
  cases t <;> simp

theorem kind_eq_leaf_iff {t : Tree κ α} {value : α} : t.kind = .leaf value ↔ t = .leaf value := by
  cases t <;> simp

section Places

variable [DecidableEq κ]

/-- What is at the place that the names lead to. -/
def kindAt? (ks : List κ) (t : Tree κ α) : Option (Kind α) := (t.get? ks).map kind

@[simp] theorem get?_nil (t : Tree κ α) : t.get? [] = some t := by
  cases t <;> rfl

@[simp] theorem get?_leaf_cons (k : κ) (ks : List κ) (value : α) :
    (Tree.leaf value : Tree κ α).get? (k :: ks) = none := rfl

theorem get?_dir_cons (k : κ) (ks : List κ) (es : Folder κ α) :
    (Tree.dir es).get? (k :: ks) = (Entries.find k es).bind (get? ks) := by
  simp only [get?]
  cases Entries.find k es <;> rfl

theorem get?_append (xs ys : List κ) (t : Tree κ α) :
    t.get? (xs ++ ys) = (t.get? xs).bind (get? ys) := by
  induction xs generalizing t with
  | nil => simp
  | cons x xs ih =>
      cases t with
      | leaf value => simp
      | dir es =>
          rw [List.cons_append, get?_dir_cons, get?_dir_cons]
          cases Entries.find x es with
          | none => rfl
          | some t => exact ih t

@[simp] theorem kindAt?_nil (t : Tree κ α) : t.kindAt? [] = some t.kind := by
  simp [kindAt?]

@[simp] theorem kindAt?_leaf_cons (k : κ) (ks : List κ) (value : α) :
    (Tree.leaf value : Tree κ α).kindAt? (k :: ks) = none := rfl

theorem kindAt?_dir_cons (k : κ) (ks : List κ) (es : Folder κ α) :
    (Tree.dir es).kindAt? (k :: ks) = (Entries.find k es).bind (kindAt? ks) := by
  simp only [kindAt?, get?_dir_cons]
  cases Entries.find k es <;> rfl

@[simp] theorem kindAt?_empty_cons (k : κ) (ks : List κ) :
    (Tree.dir [] : Tree κ α).kindAt? (k :: ks) = none := rfl

theorem kindAt?_append {xs ys : List κ} {t u : Tree κ α} (h : t.get? xs = some u) :
    t.kindAt? (xs ++ ys) = u.kindAt? ys := by
  simp [kindAt?, get?_append, h]

theorem kindAt?_eq_none_iff {ks : List κ} {t : Tree κ α} :
    t.kindAt? ks = none ↔ t.get? ks = none := by
  simp [kindAt?]

theorem kindAt?_eq_dir_iff {ks : List κ} {t : Tree κ α} :
    t.kindAt? ks = some .dir ↔ ∃ es, t.get? ks = some (.dir es) := by
  constructor
  · intro h
    obtain ⟨u, hu, kind⟩ := Option.map_eq_some_iff.mp h
    obtain ⟨es, rfl⟩ := kind_eq_dir_iff.mp kind
    exact ⟨es, hu⟩
  · rintro ⟨es, h⟩
    simp [kindAt?, h]

theorem kindAt?_eq_leaf_iff {ks : List κ} {t : Tree κ α} {value : α} :
    t.kindAt? ks = some (.leaf value) ↔ t.get? ks = some (.leaf value) := by
  constructor
  · intro h
    obtain ⟨u, hu, kind⟩ := Option.map_eq_some_iff.mp h
    rw [kind_eq_leaf_iff] at kind
    rw [hu, kind]
  · intro h
    simp [kindAt?, h]

/-- Whatever leads to a place where something is, is a directory. -/
theorem kindAt?_of_isPrefix {js ks : List κ} {t : Tree κ α} (lead : js <+: ks) (proper : js ≠ ks)
    (there : t.kindAt? ks ≠ none) : t.kindAt? js = some .dir := by
  obtain ⟨rest, rfl⟩ := lead
  cases rest with
  | nil => simp at proper
  | cons r rest =>
      cases found : t.get? js with
      | none => exact absurd (by simp [kindAt?, get?_append, found]) there
      | some u =>
          rw [kindAt?_append found] at there
          cases u with
          | leaf value => exact absurd rfl there
          | dir es => simp [kindAt?, found]

/-- Nothing is below a place where nothing is. -/
theorem kindAt?_none_of_isPrefix {js ks : List κ} {t : Tree κ α} (lead : js <+: ks)
    (absent : t.kindAt? js = none) : t.kindAt? ks = none := by
  obtain ⟨rest, rfl⟩ := lead
  rw [kindAt?_eq_none_iff] at absent ⊢
  simp [get?_append, absent]

end Places

/-! ### Changing a place -/

section Changes

variable [DecidableEq κ] [LT κ] [DecidableLT κ]
variable {change : Option (Tree κ α) → Tree κ α} {es es' : Folder κ α}

@[simp] theorem place_single (k : κ) (es : Folder κ α) :
    place change [k] es = .ok (Entries.put k (change (Entries.find k es)) es) := by
  simp [place]

theorem place_into {k : κ} {inner : Folder κ α} (found : Entries.find k es = some (.dir inner))
    (k' : κ) (ks : List κ) : place change (k :: k' :: ks) es =
      (place change (k' :: ks) inner).map fun inner' => Entries.put k (.dir inner') es := by
  simp only [place, found]
  cases place change (k' :: ks) inner <;> rfl

theorem place_fresh {k : κ} (found : Entries.find k es = none) (k' : κ) (ks : List κ) :
    place change (k :: k' :: ks) es =
      (place change (k' :: ks) []).map fun inner' => Entries.put k (.dir inner') es := by
  simp only [place, found]
  cases place change (k' :: ks) ([] : Folder κ α) <;> rfl

theorem place_blocked {k : κ} {value : α} (found : Entries.find k es = some (.leaf value)) (k' : κ)
    (ks : List κ) : place change (k :: k' :: ks) es = .error k := by
  simp only [place, found]

/-- A change further down goes into a directory that is there, or that is made. -/
theorem place_cons_cons {k k' : κ} {ks : List κ}
    (h : place change (k :: k' :: ks) es = .ok es') :
    ∃ inner inner', (Entries.find k es = some (.dir inner) ∨ Entries.find k es = none ∧ inner = []) ∧
      place change (k' :: ks) inner = .ok inner' ∧ es' = Entries.put k (.dir inner') es := by
  cases found : Entries.find k es with
  | none =>
      rw [place_fresh found, map_eq_ok_iff] at h
      obtain ⟨inner', below, rfl⟩ := h
      exact ⟨[], inner', .inr ⟨rfl, rfl⟩, below, rfl⟩
  | some t =>
      cases t with
      | leaf value =>
          rw [place_blocked found] at h
          cases h
      | dir inner =>
          rw [place_into found, map_eq_ok_iff] at h
          obtain ⟨inner', below, rfl⟩ := h
          exact ⟨inner, inner', .inl rfl, below, rfl⟩

theorem get?_put_self (k : κ) (ks : List κ) (t : Tree κ α) (es : Folder κ α) :
    (Tree.dir (Entries.put k t es)).get? (k :: ks) = t.get? ks := by
  rw [get?_dir_cons, Entries.find_put_self, Option.bind_some]

theorem kindAt?_put_self (k : κ) (ks : List κ) (t : Tree κ α) (es : Folder κ α) :
    (Tree.dir (Entries.put k t es)).kindAt? (k :: ks) = t.kindAt? ks := by
  rw [kindAt?_dir_cons, Entries.find_put_self, Option.bind_some]

theorem kindAt?_put_of_ne {j k : κ} (h : j ≠ k) (js : List κ) (t : Tree κ α) (es : Folder κ α) :
    (Tree.dir (Entries.put k t es)).kindAt? (j :: js) = (Tree.dir es).kindAt? (j :: js) := by
  rw [kindAt?_dir_cons, kindAt?_dir_cons, Entries.find_put_of_ne h]

theorem get?_put_of_ne {j k : κ} (h : j ≠ k) (js : List κ) (t : Tree κ α) (es : Folder κ α) :
    (Tree.dir (Entries.put k t es)).get? (j :: js) = (Tree.dir es).get? (j :: js) := by
  rw [get?_dir_cons, get?_dir_cons, Entries.find_put_of_ne h]

/-- The place itself gets what the change makes of what was there. -/
theorem get?_place_self {ks : List κ} (ne : ks ≠ []) (h : place change ks es = .ok es') :
    (Tree.dir es').get? ks = some (change ((Tree.dir es).get? ks)) := by
  induction ks generalizing es es' with
  | nil => exact absurd rfl ne
  | cons k ks ih =>
      cases ks with
      | nil =>
          rw [place_single, Except.ok.injEq] at h
          subst h
          rw [get?_put_self, get?_nil, get?_dir_cons]
          cases Entries.find k es <;> simp
      | cons k' ks =>
          obtain ⟨inner, inner', found, below, rfl⟩ := place_cons_cons h
          rw [get?_put_self, ih (by simp) below, get?_dir_cons k]
          rcases found with found | ⟨found, rfl⟩
          · simp [found]
          · simp [found, get?_dir_cons]

/-- Of two trees that are put at one place, the later one stays. -/
theorem place_place {ks : List κ} {t : Tree κ α} (u : Tree κ α)
    (h : place (fun _ => t) ks es = .ok es') :
    place (fun _ => u) ks es' = place (fun _ => u) ks es := by
  induction ks generalizing es es' with
  | nil =>
      obtain rfl := Except.ok.inj h
      rfl
  | cons k ks ih =>
      cases ks with
      | nil =>
          rw [place_single, Except.ok.injEq] at h
          subst h
          rw [place_single, place_single, Entries.put_put_self]
      | cons k' ks =>
          obtain ⟨inner, inner', found, below, rfl⟩ := place_cons_cons h
          rw [place_into (Entries.find_put_self k _ es), ih below]
          rcases found with found | ⟨found, rfl⟩
          · rw [place_into found]
            simp only [Entries.put_put_self]
          · rw [place_fresh found]
            simp only [Entries.put_put_self]

/-- What is where after a change at one place. -/
theorem kindAt?_place {ks : List κ} (ne : ks ≠ []) (h : place change ks es = .ok es')
    (js : List κ) : (Tree.dir es').kindAt? js =
      if ks <+: js then (change ((Tree.dir es).get? ks)).kindAt? (js.drop ks.length)
      else if js <+: ks then some .dir else (Tree.dir es).kindAt? js := by
  split
  · next lead =>
      obtain ⟨rest, rfl⟩ := lead
      rw [kindAt?_append (get?_place_self ne h), List.drop_left]
  · next above =>
      induction ks generalizing es es' js with
      | nil => exact absurd rfl ne
      | cons k ks ih =>
          cases js with
          | nil => simp
          | cons j js =>
              cases ks with
              | nil =>
                  rw [place_single, Except.ok.injEq] at h
                  subst h
                  have other : j ≠ k := by
                    rintro rfl
                    exact above (by simp)
                  rw [kindAt?_put_of_ne other, if_neg (by simp [other])]
              | cons k' ks =>
                  obtain ⟨inner, inner', found, below, rfl⟩ := place_cons_cons h
                  by_cases same : j = k
                  · subst same
                    have inside := ih (by simp) below js (by simpa using above)
                    rw [kindAt?_put_self, inside, kindAt?_dir_cons]
                    rcases found with found | ⟨found, rfl⟩
                    · simp [found]
                    · cases js <;> simp [found]
                  · rw [kindAt?_put_of_ne same, if_neg (by simp [same])]

/-- A change leaves alone what neither leads to its place nor is below it. -/
theorem get?_place_of_apart {ks : List κ} (h : place change ks es = .ok es') {js : List κ}
    (notBelow : ¬ ks <+: js) (notAbove : ¬ js <+: ks) :
    (Tree.dir es').get? js = (Tree.dir es).get? js := by
  induction ks generalizing es es' js with
  | nil => exact absurd List.nil_prefix notBelow
  | cons k ks ih =>
      cases js with
      | nil => exact absurd List.nil_prefix notAbove
      | cons j js =>
          by_cases same : j = k
          · subst same
            rw [List.prefix_cons_inj] at notBelow notAbove
            cases ks with
            | nil => exact absurd List.nil_prefix notBelow
            | cons k' ks =>
                obtain ⟨inner, inner', found, below, rfl⟩ := place_cons_cons h
                rw [get?_put_self, ih below notBelow notAbove, get?_dir_cons j]
                rcases found with found | ⟨found, rfl⟩
                · rw [found, Option.bind_some]
                · rw [found, Option.bind_none]
                  cases js with
                  | nil => exact absurd List.nil_prefix notAbove
                  | cons j' js => rfl
          · cases ks with
            | nil =>
                rw [place_single, Except.ok.injEq] at h
                subst h
                exact get?_put_of_ne same js _ es
            | cons k' ks =>
                obtain ⟨inner, inner', -, -, rfl⟩ := place_cons_cons h
                exact get?_put_of_ne same js _ es

/-- A change that succeeds has met no leaf on its way. -/
theorem clear_of_place {ks : List κ} (h : place change ks es = .ok es') {js : List κ}
    (lead : js <+: ks) (proper : js ≠ ks) (value : α) :
    (Tree.dir es).kindAt? js ≠ some (.leaf value) := by
  induction ks generalizing es es' js with
  | nil => exact absurd (List.prefix_nil.mp lead) proper
  | cons k ks ih =>
      cases js with
      | nil => simp
      | cons j js =>
          obtain ⟨rfl, inside⟩ := List.cons_prefix_cons.mp lead
          cases ks with
          | nil => exact absurd (congrArg (j :: ·) (List.prefix_nil.mp inside)) proper
          | cons k' ks =>
              obtain ⟨inner, inner', found, below, rfl⟩ := place_cons_cons h
              have clear := ih below inside (by simpa using proper)
              rw [kindAt?_dir_cons]
              rcases found with found | ⟨found, rfl⟩
              · simpa [found] using clear
              · simp [found]

theorem exists_place_of_clear {ks : List κ}
    (clear : ∀ js, js <+: ks → js ≠ ks → ∀ value, (Tree.dir es).kindAt? js ≠ some (.leaf value)) :
    ∃ es', place change ks es = .ok es' := by
  induction ks generalizing es with
  | nil => exact ⟨es, rfl⟩
  | cons k ks ih =>
      cases ks with
      | nil => exact ⟨_, place_single k es⟩
      | cons k' ks =>
          cases found : Entries.find k es with
          | none =>
              obtain ⟨inner', below⟩ := @ih [] fun js _ _ value => by cases js <;> simp
              exact ⟨_, by rw [place_fresh found, below]; rfl⟩
          | some t =>
              cases t with
              | leaf value =>
                  exact absurd (by simp [kindAt?_dir_cons, found])
                    (clear [k] (by simp) (by simp) value)
              | dir inner =>
                  obtain ⟨inner', below⟩ := @ih inner fun js lead proper value => by
                    have above := clear (k :: js) (by simpa using lead) (by simpa using proper) value
                    simpa [kindAt?_dir_cons, found] using above
                  exact ⟨_, by rw [place_into found, below]; rfl⟩

/-- A change at a place succeeds exactly when no leaf is in the way. -/
theorem place_isOk_iff {ks : List κ} : (∃ es', place change ks es = .ok es') ↔
    ∀ js, js <+: ks → js ≠ ks → ∀ value, (Tree.dir es).kindAt? js ≠ some (.leaf value) :=
  ⟨fun ⟨_, h⟩ _ lead proper => clear_of_place h lead proper, exists_place_of_clear⟩

/-- In a new directory nothing is in the way. -/
theorem exists_place_empty (change : Option (Tree κ α) → Tree κ α) (ks : List κ) :
    ∃ es', place change ks [] = .ok es' := by
  apply place_isOk_iff.mpr
  intro js _ _ value
  cases js <;> simp

/-- A change that fails meets a leaf here, or goes into a directory and fails there. -/
theorem place_cons_error {k k' stop : κ} {ks : List κ}
    (h : place change (k :: k' :: ks) es = .error stop) :
    (∃ value, Entries.find k es = some (.leaf value)) ∧ stop = k ∨
      ∃ inner, Entries.find k es = some (.dir inner) ∧ place change (k' :: ks) inner = .error stop := by
  cases found : Entries.find k es with
  | none =>
      obtain ⟨inner', below⟩ := exists_place_empty change (k' :: ks)
      rw [place_fresh found, below] at h
      cases h
  | some t =>
      cases t with
      | leaf value =>
          rw [place_blocked found] at h
          cases h
          exact .inl ⟨⟨value, rfl⟩, rfl⟩
      | dir inner =>
          rw [place_into found] at h
          cases below : place change (k' :: ks) inner with
          | ok inner' =>
              rw [below] at h
              cases h
          | error stop' =>
              rw [below] at h
              cases h
              exact .inr ⟨inner, rfl, below⟩

/-- The fault of a change that fails is the name of a leaf that is in the way. -/
theorem exists_leaf_of_place_error {ks : List κ} {stop : κ} (h : place change ks es = .error stop) :
    ∃ front, front ++ [stop] <+: ks ∧ front ++ [stop] ≠ ks ∧
      ∃ value, (Tree.dir es).kindAt? (front ++ [stop]) = some (.leaf value) := by
  induction ks generalizing es with
  | nil => cases h
  | cons k ks ih =>
      cases ks with
      | nil =>
          rw [place_single] at h
          cases h
      | cons k' ks =>
          rcases place_cons_error h with ⟨⟨value, found⟩, rfl⟩ | ⟨inner, found, below⟩
          · exact ⟨[], by simp, by simp, value, by simp [kindAt?_dir_cons, found]⟩
          · obtain ⟨front, lead, proper, value, leaf⟩ := ih below
            refine ⟨k :: front, by simpa using lead, by simpa using proper, value, ?_⟩
            rw [List.cons_append, kindAt?_dir_cons, found, Option.bind_some, leaf]

/-- What is where after a removal at one place. -/
theorem kindAt?_remove {ks : List κ} (ne : ks ≠ []) (es : Folder κ α) (js : List κ) :
    (Tree.dir (remove ks es)).kindAt? js =
      if ks <+: js then none else (Tree.dir es).kindAt? js := by
  induction ks generalizing es js with
  | nil => exact absurd rfl ne
  | cons k ks ih =>
      cases js with
      | nil => simp
      | cons j js =>
          cases ks with
          | nil =>
              rw [remove, kindAt?_dir_cons, kindAt?_dir_cons]
              by_cases same : j = k
              · subst same
                simp [Entries.find_erase_self]
              · simp [Entries.find_erase_of_ne same, Ne.symm same]
          | cons k' ks =>
              simp only [remove]
              split
              · next inner found =>
                  by_cases same : j = k
                  · subst same
                    rw [kindAt?_put_self, ih (by simp), kindAt?_dir_cons, found, Option.bind_some]
                    simp
                  · rw [kindAt?_put_of_ne same, if_neg (by simp [Ne.symm same])]
              · next blocked =>
                  split
                  · next lead =>
                      obtain ⟨rfl, rest, rfl⟩ := List.cons_prefix_cons.mp lead
                      rw [kindAt?_dir_cons]
                      cases found : Entries.find k es with
                      | none => rfl
                      | some t =>
                          cases t with
                          | leaf value => rfl
                          | dir inner => exact absurd found (blocked inner)
                  · rfl

/-- A removal leaves alone what neither leads to its place nor is below it. -/
theorem get?_remove_of_apart {ks : List κ} (es : Folder κ α) {js : List κ} (notBelow : ¬ ks <+: js)
    (notAbove : ¬ js <+: ks) : (Tree.dir (remove ks es)).get? js = (Tree.dir es).get? js := by
  induction ks generalizing es js with
  | nil => exact absurd List.nil_prefix notBelow
  | cons k ks ih =>
      cases js with
      | nil => exact absurd List.nil_prefix notAbove
      | cons j js =>
          by_cases same : j = k
          · subst same
            rw [List.prefix_cons_inj] at notBelow notAbove
            cases ks with
            | nil => exact absurd List.nil_prefix notBelow
            | cons k' ks =>
                simp only [remove]
                split
                · next inner found =>
                    rw [get?_put_self, ih inner notBelow notAbove, get?_dir_cons j, found,
                      Option.bind_some]
                · rfl
          · cases ks with
            | nil => rw [remove, get?_dir_cons, get?_dir_cons, Entries.find_erase_of_ne same]
            | cons k' ks =>
                simp only [remove]
                split
                · exact get?_put_of_ne same js _ es
                · rfl

end Changes

end Tree

end Dfs
