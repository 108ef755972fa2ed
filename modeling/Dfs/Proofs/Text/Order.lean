import Dfs.Proofs.SortedSet
import Dfs.Proofs.Text.Utf8
import Mathlib.Algebra.GroupWithZero.Nat

/-!
The order of texts is the order of their bytes (`encode_lt_encode_iff`). The bytes of a
character are the digits of its number in base 64, behind a first byte that grows with the
number of digits; so of two characters the smaller one has a smaller byte at the first place
where they differ, and neither encoding begins the other.
-/

namespace Dfs.Utf8

theorem ofNat_cons_lt {a b : Nat} {xs ys : List UInt8} (byte : b < 256)
    (smaller : a < b ∨ a = b ∧ xs < ys) : UInt8.ofNat a :: xs < UInt8.ofNat b :: ys := by
  rw [List.cons_lt_cons_iff, UInt8.lt_iff_toNat_lt, UInt8.toNat_ofNat', UInt8.toNat_ofNat']
  rcases smaller with smaller | ⟨rfl, smaller⟩
  · exact .inl (by omega)
  · exact .inr ⟨rfl, smaller⟩

/-- The last bytes of a character of several bytes: its lowest digits in base 64. -/
def digitBytes : Nat → Nat → List UInt8
  | 0, _ => []
  | k + 1, v => UInt8.ofNat (v / 64 ^ k % 64 + 128) :: digitBytes k v

section Digits

variable {k m n : Nat} (before : m < n) (xs ys : List UInt8)

include before

/-- Numbers that differ in their lowest digits only are in the order of these. -/
theorem digitBytes_append_lt (front : m / 64 ^ k = n / 64 ^ k) :
    digitBytes k m ++ xs < digitBytes k n ++ ys := by
  induction k with
  | zero =>
      rw [Nat.pow_zero, Nat.div_one, Nat.div_one] at front
      omega
  | succ k ih =>
      have ordered : m / 64 ^ k ≤ n / 64 ^ k := Nat.div_le_div_right (Nat.le_of_lt before)
      rw [Nat.pow_succ, ← Nat.div_div_eq_div_mul, ← Nat.div_div_eq_div_mul] at front
      refine ofNat_cons_lt (by omega) ?_
      by_cases same : m / 64 ^ k = n / 64 ^ k
      · exact .inr ⟨by rw [same], ih same⟩
      · exact .inl (by omega)

/-- The same for numbers of one length behind their first bytes. -/
theorem first_digitBytes_append_lt {base : Nat} (byte : n / 64 ^ k + base < 256) :
    UInt8.ofNat (m / 64 ^ k + base) :: digitBytes k m ++ xs <
      UInt8.ofNat (n / 64 ^ k + base) :: digitBytes k n ++ ys := by
  have ordered : m / 64 ^ k ≤ n / 64 ^ k := Nat.div_le_div_right (Nat.le_of_lt before)
  refine ofNat_cons_lt byte ?_
  by_cases same : m / 64 ^ k = n / 64 ^ k
  · exact .inr ⟨by rw [same], digitBytes_append_lt before xs ys same⟩
  · exact .inl (by omega)

end Digits

/-- The number of digits behind the first byte of a character. -/
def digitCount (v : Nat) : Nat := if v ≤ 127 then 0 else if v ≤ 2047 then 1 else
  if v ≤ 65535 then 2 else 3

/-- What the first byte of a character has besides the highest digit. -/
def firstBase : Nat → Nat
  | 0 => 0
  | 1 => 192
  | 2 => 224
  | _ => 240

theorem utf8EncodeChar_eq {c : Char} : String.utf8EncodeChar c =
    UInt8.ofNat (c.val.toNat / 64 ^ digitCount c.val.toNat + firstBase (digitCount c.val.toNat)) ::
      digitBytes (digitCount c.val.toNat) c.val.toNat := by
  have valid : c.val.toNat < 0x110000 := by
    rcases c.valid with low | ⟨-, high⟩ <;> omega
  unfold String.utf8EncodeChar
  generalize c.val.toNat = v at valid
  dsimp only
  unfold digitCount
  split_ifs
  · rw [firstBase, digitBytes, Nat.pow_zero, Nat.div_one, Nat.add_zero]
  · have whole : v / 64 % 32 = v / 64 := by omega
    simp only [digitBytes, firstBase, whole, Nat.pow_zero, Nat.div_one, Nat.pow_one]
  · have whole : v / 4096 % 16 = v / 4096 := by omega
    simp only [digitBytes, firstBase, whole, Nat.pow_zero, Nat.div_one, Nat.pow_one, Nat.reducePow]
  · have whole : v / 262144 % 8 = v / 262144 := by omega
    simp only [digitBytes, firstBase, whole, Nat.pow_zero, Nat.div_one, Nat.pow_one, Nat.reducePow]

/-- Of two characters the smaller one has the smaller encoding, whatever follows them. -/
theorem utf8EncodeChar_append_lt {c d : Char} (before : c < d) (xs ys : List UInt8) :
    String.utf8EncodeChar c ++ xs < String.utf8EncodeChar d ++ ys := by
  have values : c.val.toNat < d.val.toNat := before
  have valid : d.val.toNat < 0x110000 := by
    rcases d.valid with low | ⟨-, high⟩ <;> omega
  rw [utf8EncodeChar_eq, utf8EncodeChar_eq]
  by_cases same : digitCount c.val.toNat = digitCount d.val.toNat
  · rw [same]
    refine first_digitBytes_append_lt values xs ys ?_
    unfold digitCount
    split_ifs <;> simp only [firstBase] <;> omega
  · refine ofNat_cons_lt ?_ (.inl ?_)
    · unfold digitCount
      split_ifs <;> simp only [firstBase] <;> omega
    · unfold digitCount at same ⊢
      split_ifs at same ⊢ <;> simp only [firstBase] <;> omega

theorem flatMap_utf8EncodeChar_lt {cs ds : List Char} (before : cs < ds) :
    cs.flatMap String.utf8EncodeChar < ds.flatMap String.utf8EncodeChar := by
  induction cs generalizing ds with
  | nil =>
      cases ds with
      | nil => exact absurd before (List.not_lt_nil [])
      | cons d ds =>
          rw [List.flatMap_nil, List.flatMap_cons, utf8EncodeChar_eq]
          exact List.nil_lt_cons _ _
  | cons c cs ih =>
      cases ds with
      | nil => exact absurd before (List.not_lt_nil _)
      | cons d ds =>
          rw [List.flatMap_cons, List.flatMap_cons]
          rcases List.cons_lt_cons_iff.mp before with smaller | ⟨rfl, later⟩
          · exact utf8EncodeChar_append_lt smaller _ _
          · exact List.append_left_lt (ih later)

theorem encode_lt_encode {s t : String} (before : s < t) : encode s < encode t := by
  rw [encode_eq_flatMap, encode_eq_flatMap]
  exact flatMap_utf8EncodeChar_lt (String.lt_iff.mp before)

instance : StrictTotal UInt8 :=
  .ofKey UInt8.toNat (fun _ _ => UInt8.toNat_inj.mp) fun _ _ => UInt8.lt_iff_toNat_lt

/-- Texts are ordered by their bytes. -/
theorem encode_lt_encode_iff {s t : String} : encode s < encode t ↔ s < t := by
  refine ⟨fun before => ?_, encode_lt_encode⟩
  rcases StrictTotal.connex s t with smaller | rfl | larger
  · exact smaller
  · exact absurd before (StrictTotal.irrefl _)
  · exact absurd (StrictTotal.trans before (encode_lt_encode larger)) (StrictTotal.irrefl _)

end Dfs.Utf8
