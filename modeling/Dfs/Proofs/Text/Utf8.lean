import Dfs.Text.Utf8
import Mathlib.Data.List.Basic

/-!
Texts and their bytes. Encoding is undone by decoding, and an ASCII byte stands for
its own character wherever it occurs.
-/

namespace Dfs.Utf8

theorem encode_eq_flatMap (s : String) : encode s = s.toList.flatMap String.utf8EncodeChar := by
  rw [encode, String.toUTF8_eq_toByteArray, ← String.utf8Encode_toList, List.utf8Encode,
    List.data_toByteArray]

@[simp] theorem encode_append (s t : String) : encode (s ++ t) = encode s ++ encode t := by
  simp [encode_eq_flatMap]

theorem encode_ofList (cs : List Char) :
    encode (String.ofList cs) = cs.flatMap String.utf8EncodeChar := by
  rw [encode_eq_flatMap, String.toList_ofList]

/-- The bytes of a text are read as that text. -/
@[simp] theorem decode?_encode (s : String) : decode? (encode s) = some s := by
  have same : (⟨(encode s).toArray⟩ : ByteArray) = s.toByteArray := by
    simp [encode]
  rw [decode?, same, String.fromUTF8?, dif_pos s.isValidUTF8]
  rfl

/-- Bytes that are read as a text are the bytes of that text. -/
theorem decode?_eq_some_iff {bytes : List UInt8} {s : String} :
    decode? bytes = some s ↔ encode s = bytes := by
  constructor
  · intro read
    unfold decode? String.fromUTF8? at read
    split at read
    · obtain rfl := Option.some.inj read
      rfl
    · cases read
  · rintro rfl
    exact decode?_encode s

theorem encode_injective : Function.Injective encode := by
  intro s t h
  have := congrArg decode? h
  simpa using this

theorem encode_eq_nil_iff {s : String} : encode s = [] ↔ s = "" := by
  have none : encode "" = [] := by decide
  rw [← none, encode_injective.eq_iff]

/-- The bytes that continue a character, or begin one of several bytes, are no ASCII
bytes. -/
theorem mem_utf8EncodeChar_iff {b : UInt8} (ascii : b < 0x80) {c : Char} :
    b ∈ String.utf8EncodeChar c ↔ c.val.toNat = b.toNat := by
  rw [UInt8.lt_iff_toNat_lt] at ascii
  have bound : b.toNat < 128 := ascii
  have valid := c.val.toNat_lt
  simp only [String.utf8EncodeChar]
  split
  · next small =>
      rw [List.mem_singleton, ← UInt8.toNat_inj, UInt8.toNat_ofNat']
      omega
  next large =>
  split
  · simp only [List.mem_cons, ← UInt8.toNat_inj, UInt8.toNat_ofNat', List.not_mem_nil, or_false]
    omega
  next larger =>
  split
  · simp only [List.mem_cons, ← UInt8.toNat_inj, UInt8.toNat_ofNat', List.not_mem_nil, or_false]
    omega
  · simp only [List.mem_cons, ← UInt8.toNat_inj, UInt8.toNat_ofNat', List.not_mem_nil, or_false]
    omega

/-- An ASCII byte is in the bytes of a text exactly if its character is in the text. -/
theorem mem_encode_iff {c : Char} (ascii : c.val < 0x80) {s : String} :
    c.val.toUInt8 ∈ encode s ↔ c ∈ s.toList := by
  have small : c.val.toNat < 128 := ascii
  have value : c.val.toUInt8.toNat = c.val.toNat := by
    rw [UInt32.toNat_toUInt8]
    omega
  have byte : c.val.toUInt8 < 0x80 := by
    rw [UInt8.lt_iff_toNat_lt, value]
    exact small
  rw [encode_eq_flatMap, List.mem_flatMap]
  constructor
  · rintro ⟨d, mem, inside⟩
    rw [mem_utf8EncodeChar_iff byte, value] at inside
    have same : d = c := Char.ext (UInt32.toNat_inj.mp inside)
    exact same ▸ mem
  · intro mem
    exact ⟨c, mem, (mem_utf8EncodeChar_iff byte).mpr value.symm⟩

end Dfs.Utf8
