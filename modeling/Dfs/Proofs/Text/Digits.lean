import Mathlib.Data.List.Basic

/-!
The digits of a number as they are written: which they are, that they are in no
doubt, and that they give the number back.
-/

namespace Dfs

/-- The digits spell the number, the most significant first and with no zero in front
of others. -/
structure Spells (base : Nat) (digits : List Nat) (n : Nat) : Prop where
  below : ∀ d ∈ digits, d < base
  value : digits.foldl (fun m d => m * base + d) 0 = n
  nonempty : digits ≠ []
  noLeadingZero : digits.head? = some 0 → digits.length = 1

namespace Spells

variable {base n d : Nat} {digits : List Nat}

theorem single (below : d < base) : Spells base [d] d where
  below := by simpa using below
  value := by simp
  nonempty := by simp
  noLeadingZero := by simp

/-- One more digit at the end of a number that is not zero. -/
theorem snoc (spells : Spells base digits n) (pos : 0 < n) (below : d < base) :
    Spells base (digits ++ [d]) (n * base + d) where
  below := by
    intro e mem
    rcases List.mem_append.mp mem with mem | mem
    · exact spells.below e mem
    · rw [List.mem_singleton.mp mem]
      exact below
  value := by simp [List.foldl_append, spells.value]
  nonempty := by simp
  noLeadingZero := by
    intro zero
    rw [List.head?_append_of_ne_nil _ spells.nonempty] at zero
    obtain ⟨e, rfl⟩ := List.length_eq_one_iff.mp (spells.noLeadingZero zero)
    -- A single zero would be the number itself.
    have value := spells.value
    simp only [List.head?_cons, Option.some.injEq] at zero
    simp [zero] at value
    omega

end Spells

/-- How a number is written in a base. -/
theorem exists_spells {base : Nat} (large : 1 < base) (n : Nat) :
    ∃ digits, Nat.toDigits base n = digits.map Nat.digitChar ∧ Spells base digits n := by
  induction n using Nat.strongRecOn with
  | ind n ih =>
      by_cases small : n < base
      · exact ⟨[n], by simp [Nat.toDigits_of_lt_base small], .single small⟩
      · have pos : 0 < n / base := Nat.div_pos (by omega) (by omega)
        obtain ⟨digits, written, spells⟩ := ih (n / base) (Nat.div_lt_self (by omega) large)
        refine ⟨digits ++ [n % base], ?_, ?_⟩
        · rw [Nat.toDigits_of_base_le large (by omega), written]
          simp
        · have whole := spells.snoc pos (Nat.mod_lt n (by omega : 0 < base))
          rwa [Nat.div_add_mod' n base] at whole

/-! ### Decimal digits -/

theorem toNat_digitChar {d : Nat} (below : d < 10) : (Nat.digitChar d).toNat = '0'.toNat + d :=
  Nat.toNat_digitChar_of_lt_ten below

theorem isDigit_digitChar {d : Nat} (below : d < 10) : (Nat.digitChar d).isDigit = true := by
  simp [Nat.isDigit_digitChar, below]

end Dfs
