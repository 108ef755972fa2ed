import Dfs.SortedSet

/-!
Sets as sorted lists: what `ofList` makes, and where a list stands among its
extensions.
-/

namespace Dfs

/-- A list comes before its extensions. -/
theorem lt_of_isPrefix {α : Type} [LT α] {xs ys : List α} (lead : xs <+: ys) (other : xs ≠ ys) :
    xs < ys := by
  obtain ⟨rest, rfl⟩ := lead
  induction xs with
  | nil =>
      cases rest with
      | nil => exact absurd rfl other
      | cons r rest => exact List.nil_lt_cons r rest
  | cons x xs ih =>
      rw [List.cons_append, List.cons_lt_cons_iff]
      exact .inr ⟨rfl, ih (by simpa using other)⟩

namespace SortedSet

variable {α : Type} [LT α]

@[simp] theorem not_mem_empty (a : α) : a ∉ (∅ : SortedSet α) :=
  fun h => List.not_mem_nil h

@[simp] theorem toList_empty : (∅ : SortedSet α).toList = [] := rfl

/-- Two strictly increasing lists with the same members are equal. -/
theorem eq_of_mem_iff [StrictTotal α] {xs ys : List α} (hx : xs.Pairwise (· < ·))
    (hy : ys.Pairwise (· < ·)) (same : ∀ a, a ∈ xs ↔ a ∈ ys) : xs = ys := by
  induction xs generalizing ys with
  | nil =>
      cases ys with
      | nil => rfl
      | cons y ys => exact absurd ((same y).mpr List.mem_cons_self) List.not_mem_nil
  | cons x xs ih =>
      rw [List.pairwise_cons] at hx
      cases ys with
      | nil => exact absurd ((same x).mp List.mem_cons_self) List.not_mem_nil
      | cons y ys =>
          rw [List.pairwise_cons] at hy
          have first : x = y := by
            rcases List.mem_cons.mp ((same x).mp List.mem_cons_self) with e | later
            · exact e
            rcases List.mem_cons.mp ((same y).mpr List.mem_cons_self) with e | later'
            · exact e.symm
            exact absurd (StrictTotal.trans (hy.1 x later) (hx.1 y later')) (StrictTotal.irrefl y)
          subst first
          rw [ih hx.2 hy.2 fun a => ?_]
          constructor
          · intro mem
            rcases List.mem_cons.mp ((same a).mp (List.mem_cons_of_mem _ mem)) with e | later
            · exact absurd (e ▸ hx.1 a mem) (StrictTotal.irrefl x)
            · exact later
          · intro mem
            rcases List.mem_cons.mp ((same a).mpr (List.mem_cons_of_mem _ mem)) with e | later
            · exact absurd (e ▸ hy.1 a mem) (StrictTotal.irrefl x)
            · exact later

@[ext] theorem ext_mem [StrictTotal α] {s t : SortedSet α} (same : ∀ a, a ∈ s ↔ a ∈ t) : s = t :=
  ext_toList (eq_of_mem_iff s.sorted t.sorted same)

variable [DecidableLT α] [DecidableEq α] [StrictTotal α]

@[simp] theorem mem_ofList {l : List α} {a : α} : a ∈ ofList l ↔ a ∈ l := by
  have general : ∀ s : SortedSet α, a ∈ l.foldl insert s ↔ a ∈ s ∨ a ∈ l := by
    induction l with
    | nil => simp
    | cons b l ih =>
        intro s
        rw [List.foldl_cons, ih, mem_insert, List.mem_cons, or_comm (a := a = b), or_assoc]
  simpa [ofList] using general ∅

/-- A set is made again from the list of its members. -/
@[simp] theorem ofList_toList (s : SortedSet α) : ofList s.toList = s :=
  ext_mem fun _ => mem_ofList

end SortedSet

end Dfs
