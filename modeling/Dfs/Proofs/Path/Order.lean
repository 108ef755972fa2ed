import Dfs.Proofs.Path.Host
import Dfs.Proofs.Text.Order

/-!
The order of paths and the way they lie below each other. A path comes before all that lies
under it, and what comes between a path and something under it lies under it too
(`isUnder_of_between`). So in a sorted set the paths under any path are one block
(`exists_block`), which they need not be in the order of the texts.

`order_follows_ancestry` has all of this together.
-/

namespace Dfs

section Lists

variable {α β : Type} [LT α] [LT β]

/-- Between a list and an extension of it there are only extensions of it. -/
theorem prefix_of_between [StrictTotal α] {xs ys zs : List α} (lead : xs <+: zs)
    (after : ¬ ys < xs) (before : ¬ zs < ys) : xs <+: ys := by
  induction xs generalizing ys zs with
  | nil => exact List.nil_prefix
  | cons x xs ih =>
      obtain ⟨rest, rfl⟩ := lead
      cases ys with
      | nil => exact absurd (List.nil_lt_cons x xs) after
      | cons y ys =>
          rw [List.cons_lt_cons_iff, not_or] at after
          rw [List.cons_append, List.cons_lt_cons_iff, not_or] at before
          rcases StrictTotal.connex x y with smaller | rfl | larger
          · exact absurd smaller before.1
          · have later := ih (List.prefix_append xs rest) (fun less => after.2 ⟨rfl, less⟩)
              fun less => before.2 ⟨rfl, less⟩
            exact List.cons_prefix_cons.mpr ⟨rfl, later⟩
          · exact absurd larger after.1

/-- Lists are in the order of their keys, if their elements are. -/
theorem map_lt_map_iff {key : α → β} (injective : Function.Injective key)
    (order : ∀ a b, key a < key b ↔ a < b) {xs ys : List α} :
    xs.map key < ys.map key ↔ xs < ys := by
  induction xs generalizing ys with
  | nil =>
      cases ys with
      | nil => simp [List.not_lt_nil]
      | cons y ys => simp [List.nil_lt_cons]
  | cons x xs ih =>
      cases ys with
      | nil => simp [List.not_lt_nil]
      | cons y ys =>
          rw [List.map_cons, List.map_cons, List.cons_lt_cons_iff, List.cons_lt_cons_iff, order,
            injective.eq_iff, ih]

/-- What holds of everything between two elements of which it holds, holds in a sorted list
of one block. -/
theorem exists_block {inside : α → Bool}
    (convex : ∀ a b c, a < b → b < c → inside a = true → inside c = true → inside b = true)
    {l : List α} (sorted : l.Pairwise (· < ·)) : ∃ before block after,
      l = before ++ block ++ after ∧ (∀ a ∈ block, inside a = true) ∧
        ∀ a ∈ before ++ after, inside a = false := by
  induction l with
  | nil => exact ⟨[], [], [], rfl, by simp, by simp⟩
  | cons x l ih =>
      rw [List.pairwise_cons] at sorted
      obtain ⟨before, block, after, rfl, all, none⟩ := ih sorted.2
      cases here : inside x with
      | false =>
          refine ⟨x :: before, block, after, rfl, all, fun a mem => ?_⟩
          rcases List.mem_cons.mp mem with rfl | mem
          · exact here
          · exact none a mem
      | true =>
          cases block with
          | nil =>
              refine ⟨[], [x], before ++ after, by simp, fun a mem => ?_, none⟩
              rwa [List.mem_singleton.mp mem]
          | cons b block =>
              -- Nothing can be between `x` and the block.
              obtain rfl : before = [] := by
                refine List.eq_nil_iff_forall_not_mem.mpr fun y mem => ?_
                have first := sorted.1 y (by simp [mem])
                have second : y < b := (List.pairwise_append.mp
                  (List.pairwise_append.mp sorted.2).1).2.2 y mem b List.mem_cons_self
                have within := convex x y b first second here (all b List.mem_cons_self)
                rw [none y (List.mem_append_left _ mem)] at within
                cases within
              refine ⟨[], x :: b :: block, after, rfl, fun a mem => ?_, none⟩
              rcases List.mem_cons.mp mem with rfl | mem
              · exact here
              · exact all a mem

end Lists

namespace Path

variable {a b c : Path}

/-! ### The comparison -/

theorem compare_eq_lt_iff : compare a b = .lt ↔ a < b := by
  unfold compare
  split_ifs <;> simp_all

theorem compare_eq_eq_iff : compare a b = .eq ↔ a = b := by
  unfold compare
  split_ifs with before same
  · simp only [false_iff]
    rintro rfl
    exact StrictTotal.irrefl a before
  · simp [same]
  · simp [same]

theorem compare_eq_gt_iff : compare a b = .gt ↔ b < a := by
  unfold compare
  split_ifs with before same
  · simp only [false_iff]
    exact fun after => StrictTotal.irrefl a (StrictTotal.trans before after)
  · subst same
    simp [StrictTotal.irrefl a]
  · simp only [true_iff]
    exact ((StrictTotal.connex a b).resolve_left before).resolve_left same

theorem isLE_compare_iff : (compare a b).isLE = true ↔ ¬ b < a := by
  rw [← compare_eq_gt_iff]
  cases compare a b <;> simp [Ordering.isLE]

theorem compare_swap (a b : Path) : compare b a = (compare a b).swap := by
  cases order : compare a b with
  | lt => exact compare_eq_gt_iff.mpr (compare_eq_lt_iff.mp order)
  | eq => exact compare_eq_eq_iff.mpr (compare_eq_eq_iff.mp order).symm
  | gt => exact compare_eq_lt_iff.mpr (compare_eq_gt_iff.mp order)

theorem isLE_compare_trans (first : (compare a b).isLE = true)
    (second : (compare b c).isLE = true) : (compare a c).isLE = true := by
  rw [isLE_compare_iff] at *
  intro less
  rcases StrictTotal.connex a b with before | rfl | after
  · exact second (StrictTotal.trans less before)
  · exact second less
  · exact first after

/-- Components are compared by their bytes. -/
theorem lt_iff_place_lt : a < b ↔ a.place < b.place :=
  (map_lt_map_iff encode_text_injective fun _ _ => Utf8.encode_lt_encode_iff).symm

/-! ### Ancestors -/

/-- A path comes before what is under it. -/
theorem not_lt_of_isUnder (under : c.isUnder a = true) : ¬ c < a := by
  intro before
  by_cases same : a.components = c.components
  · exact StrictTotal.irrefl a (ext_components same ▸ before)
  · have smaller : a < c := lt_of_isPrefix (isUnder_iff.mp under) same
    exact StrictTotal.irrefl a (StrictTotal.trans smaller before)

theorem isUnder_of_between (after : ¬ b < a) (before : ¬ c < b) (under : c.isUnder a = true) :
    b.isUnder a = true :=
  isUnder_iff.mpr (prefix_of_between (isUnder_iff.mp under) after before)

/-- A path is under none of those that come later. -/
theorem isUnder_eq_false_of_lt (before : a < b) : a.isUnder b = false := by
  by_contra under
  exact not_lt_of_isUnder (by simpa using under) before

theorem exists_block_under (s : PathSet) (a : Path) : ∃ before block after,
    s.toList = before ++ block ++ after ∧ (∀ p ∈ block, p.isUnder a = true) ∧
      ∀ p ∈ before ++ after, p.isUnder a = false := by
  refine exists_block (fun p q r first second under above => ?_) s.sorted
  have after : ¬ q < a := fun less => not_lt_of_isUnder under (StrictTotal.trans first less)
  exact isUnder_of_between after (fun less => StrictTotal.irrefl q (StrictTotal.trans second less))
    above

/-! ### Both together -/

/-- A comparison of paths is a total order, and only a path with the same components is
equal to a path. -/
structure OrdersTotally (cmp : Path → Path → Ordering) : Prop where
  eq_iff : ∀ a b, cmp a b = .eq ↔ a.components = b.components
  swap : ∀ a b, cmp b a = (cmp a b).swap
  trans : ∀ a b c, (cmp a b).isLE = true → (cmp b c).isLE = true → (cmp a c).isLE = true

structure OrdersPartially (below : Path → Path → Bool) : Prop where
  refl : ∀ a, below a a = true
  antisymm : ∀ a b, below a b = true → below b a = true → a = b
  trans : ∀ a b c, below a b = true → below b c = true → below a c = true

/-- A sorted set of paths as far as ancestry goes: none is under a later one, and the ones
under any path are next to each other. -/
structure FollowsAncestry (paths : List Path) : Prop where
  ancestorsFirst : paths.Pairwise fun p q => p.isUnder q = false
  contiguous : ∀ a, ∃ before block after, paths = before ++ block ++ after ∧
    (∀ p ∈ block, p.isUnder a = true) ∧ ∀ p ∈ before ++ after, p.isUnder a = false

/-- The order of paths, by the bytes of their components, is compatible with ancestry, and so
every set of paths follows it. The order of the texts does not: `/a-b` comes between `/a` and
`/a/c`. -/
theorem order_follows_ancestry :
    OrdersTotally compare ∧ (∀ a b, compare a b = .lt ↔ a.place < b.place) ∧
    OrdersPartially isUnder ∧
    (∀ a c, c.isUnder a = true → (compare a c).isLE = true) ∧
    (∀ a b c, (compare a b).isLE = true → (compare b c).isLE = true → c.isUnder a = true →
      b.isUnder a = true) ∧
    (∀ s : PathSet, FollowsAncestry s.toList) ∧
    ∃ a b c : Path, a.text < b.text ∧ b.text < c.text ∧ c.isUnder a = true ∧
      b.isUnder a = false := by
  refine ⟨⟨fun a b => ?_, compare_swap, fun a b c => isLE_compare_trans⟩, fun a b => ?_,
    ⟨isUnder_refl, fun a b => isUnder_antisymm, fun a b c => isUnder_trans⟩,
    fun a c under => ?_, fun a b c after before under => ?_,
    fun s => ⟨?_, exists_block_under s⟩, ?_⟩
  · exact compare_eq_eq_iff.trans ⟨congrArg components, ext_components⟩
  · rw [compare_eq_lt_iff, lt_iff_place_lt]
  · exact isLE_compare_iff.mpr (not_lt_of_isUnder under)
  · exact isUnder_of_between (isLE_compare_iff.mp after) (isLE_compare_iff.mp before) under
  · exact s.sorted.imp isUnder_eq_false_of_lt
  · exact ⟨⟨[⟨"a", by decide⟩]⟩, ⟨[⟨"a-b", by decide⟩]⟩, ⟨[⟨"a", by decide⟩, ⟨"c", by decide⟩]⟩,
      by decide, by decide, by decide, by decide⟩

end Path

end Dfs
