/-!
Results taken apart: when a step that follows another succeeds.
-/

namespace Dfs

variable {ε ε' α β : Type}

theorem map_eq_ok_iff {f : α → β} {x : Except ε α} {b : β} :
    x.map f = .ok b ↔ ∃ a, x = .ok a ∧ f a = b := by
  cases x <;> simp [Except.map]

theorem mapError_eq_ok_iff {f : ε → ε'} {x : Except ε α} {a : α} :
    x.mapError f = .ok a ↔ x = .ok a := by
  constructor
  · intro done
    cases x with
    | error e => cases done
    | ok b => exact congrArg Except.ok (Except.ok.inj done)
  · rintro rfl
    rfl

theorem bind_eq_ok_iff {x : Except ε α} {f : α → Except ε β} {b : β} :
    x >>= f = .ok b ↔ ∃ a, x = .ok a ∧ f a = .ok b := by
  cases x <;> simp [bind, Except.bind]

/-- What a step makes of each member of a list, if it succeeds for all of them. -/
theorem mem_of_mapM {f : α → Except ε β} {xs : List α} {ys : List β} (done : xs.mapM f = .ok ys) :
    (∀ x ∈ xs, ∃ y ∈ ys, f x = .ok y) ∧ ∀ y ∈ ys, ∃ x ∈ xs, f x = .ok y := by
  induction xs generalizing ys with
  | nil =>
      obtain rfl : [] = ys := Except.ok.inj done
      simp
  | cons x xs ih =>
      rw [List.mapM_cons, bind_eq_ok_iff] at done
      obtain ⟨y, first, later⟩ := done
      obtain ⟨ys', rest, last⟩ := bind_eq_ok_iff.mp later
      obtain rfl : y :: ys' = ys := Except.ok.inj last
      obtain ⟨forth, back⟩ := ih rest
      constructor
      · intro x' mem
        rcases List.mem_cons.mp mem with rfl | mem
        · exact ⟨y, List.mem_cons_self, first⟩
        · obtain ⟨y', mem', made⟩ := forth x' mem
          exact ⟨y', List.mem_cons_of_mem _ mem', made⟩
      · intro y' mem
        rcases List.mem_cons.mp mem with rfl | mem
        · exact ⟨x, List.mem_cons_self, first⟩
        · obtain ⟨x', mem', made⟩ := back y' mem
          exact ⟨x', List.mem_cons_of_mem _ mem', made⟩

/-- If it fails, it fails for one of them. -/
theorem exists_of_mapM_error {f : α → Except ε β} {xs : List α} {e : ε}
    (failed : xs.mapM f = .error e) : ∃ x ∈ xs, f x = .error e := by
  induction xs with
  | nil => cases failed
  | cons x xs ih =>
      rw [List.mapM_cons] at failed
      cases first : f x with
      | error e' =>
          rw [first] at failed
          obtain rfl : e' = e := Except.error.inj failed
          exact ⟨x, List.mem_cons_self, first⟩
      | ok y =>
          cases rest : xs.mapM f with
          | error e' =>
              rw [first, rest] at failed
              obtain rfl : e' = e := Except.error.inj failed
              obtain ⟨x', mem, last⟩ := ih rest
              exact ⟨x', List.mem_cons_of_mem _ mem, last⟩
          | ok ys =>
              rw [first, rest] at failed
              cases failed

end Dfs
