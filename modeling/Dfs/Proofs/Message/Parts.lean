import Dfs.Message.Request
import Dfs.Proofs.Address
import Dfs.Proofs.Json.Reader
import Dfs.Proofs.Path
import Dfs.Proofs.SortedSet

/-!
The parts of messages: each is read back from the way it is written, can be written,
and is kept by a reader that keeps whole values.
-/

namespace Dfs.Json

/-! ### Reading -/

@[simp] theorem string?_ofString (text : String) : (ofString text).string? = some text := rfl

@[simp] theorem integer?_ofInt (value : Int) : (ofInt value).integer? = some value := rfl

@[simp] theorem path?_ofPath (p : Path) : (ofPath p).path? = some p := by
  simp [path?, ofPath, Path.parse_text, Except.toOption]

@[simp] theorem byte?_ofInt (b : UInt8) : (ofInt b.toNat).byte? = some b := by
  have bound := b.toNat_lt
  simp only [byte?, integer?_ofInt, Option.bind_eq_bind, Option.bind_some]
  rw [if_pos ⟨by omega, by omega⟩]
  simp

@[simp] theorem int64?_ofInt (n : Int64) : (ofInt n.toInt).int64? = some n := by
  simp only [int64?, integer?_ofInt, Option.bind_eq_bind, Option.bind_some]
  rw [if_pos ⟨n.minValue_le_toInt, n.toInt_le⟩]
  simp

@[simp] theorem uint64?_ofInt (n : UInt64) : (ofInt n.toNat).uint64? = some n := by
  have bound := n.toNat_lt_size
  simp only [uint64?, integer?_ofInt, Option.bind_eq_bind, Option.bind_some]
  rw [if_pos ⟨by omega, by simpa using bound⟩]
  simp

theorem items?_array {α : Type} {read : Json → Option α} {write : α → Json}
    (law : ∀ a, read (write a) = some a) (items : List α) :
    items? read (.array (items.map write)) = some items := by
  unfold items?
  induction items with
  | nil => rfl
  | cons a items ih => simp [law, ih]

@[simp] theorem bytes?_ofBytes (bytes : List UInt8) : (ofBytes bytes).bytes? = some bytes :=
  items?_array byte?_ofInt bytes

@[simp] theorem paths?_ofPaths (paths : PathSet) : (ofPaths paths).paths? = some paths := by
  have read := items?_array path?_ofPath paths.toList
  unfold paths? ofPaths
  rw [read]
  simp

theorem keyed?_map (fields : List (String × Json)) :
    keyed? (fields.map fun (key, value) => (some key, value)) = some fields := by
  induction fields with
  | nil => rfl
  | cons field fields ih => simp [keyed?, ih]

@[simp] theorem endpoint?_ofEndpoint (a : Address) :
    (ofEndpoint a).endpoint? = some a.withoutFlow := by
  have keys := keyed?_map [("addr", ofString a.text)]
  unfold ofEndpoint endpoint? ofFields
  simp only [keys, Option.bind_eq_bind, Option.bind_some]
  simp [Field.find, valuesOf, Field.required, Address.parse?_text]

/-- A value that may be `null` is read back, if it is never written as `null`. -/
theorem optional?_ofOption {α β : Type} {read : Json → Option β} {write : α → Json} {f : α → β}
    (law : ∀ a, read (write a) = some (f a)) (given : ∀ a, write a ≠ .null) (a : Option α) :
    (ofOption write a).optional? read = some (a.map f) := by
  cases a with
  | none => rfl
  | some a =>
      simp only [ofOption, optional?]
      split
      · next null => exact absurd null (given a)
      · rw [law]
        rfl

/-! ### Writing -/

theorem Writable.path (p : Path) : Writable (ofPath p) := .string p.text

theorem Writable.paths (paths : PathSet) : Writable (ofPaths paths) := by
  apply Writable.array
  intro item mem
  obtain ⟨p, -, rfl⟩ := List.mem_map.mp mem
  exact .path p

theorem Writable.bytes (bytes : List UInt8) : Writable (ofBytes bytes) := by
  apply Writable.array
  intro item mem
  obtain ⟨b, -, rfl⟩ := List.mem_map.mp mem
  apply Writable.integer
  have bound := b.toNat_lt
  simp only [JsonNumber.fits, Bool.and_eq_true, decide_eq_true_eq]
  exact ⟨by simp, by simp [UInt64.size]; omega⟩

theorem Writable.int64 (n : Int64) : Writable (ofInt n.toInt) := by
  apply Writable.integer
  have bound := n.toInt_lt
  simp only [JsonNumber.fits, Bool.and_eq_true, decide_eq_true_eq]
  refine ⟨n.minValue_le_toInt, ?_⟩
  rw [UInt64.size]
  omega

theorem Writable.uint64 (n : UInt64) : Writable (ofInt n.toNat) := by
  apply Writable.integer
  have bound := n.toNat_lt_size
  simp only [JsonNumber.fits, Bool.and_eq_true, decide_eq_true_eq]
  exact ⟨by simp, by simpa using bound⟩

theorem Writable.endpoint (a : Address) : Writable (ofEndpoint a) := by
  apply Writable.object
  intro member mem
  rw [List.mem_singleton.mp mem]
  exact .string a.text

theorem Writable.option {α : Type} {write : α → Json} (writable : ∀ a, Writable (write a))
    (a : Option α) : Writable (ofOption write a) := by
  cases a with
  | none => exact .null
  | some a => exact writable a

/-! ### Keeping -/

theorem areKept_iff {depth : Nat} {items : List Json} :
    areKept depth items = true ↔ ∀ item ∈ items, isKept depth item = true := by
  induction items with
  | nil => simp [areKept]
  | cons item items ih => simp [areKept, ih]

theorem isKept_ofFields_iff {depth : Nat} {fields : List (String × Json)} :
    isKept (depth + 1) (ofFields fields) = true ↔ ∀ field ∈ fields, isKept depth field.2 = true := by
  unfold ofFields
  rw [isKept]
  induction fields with
  | nil => simp [membersAreKept]
  | cons field fields ih => simp [membersAreKept, ih]

@[simp] theorem isKept_ofString (depth : Nat) (text : String) :
    isKept depth (ofString text) = true := by
  simp [ofString, isKept]

@[simp] theorem isKept_ofInt (depth : Nat) (value : Int) : isKept depth (ofInt value) = true := by
  simp [ofInt, isKept]

@[simp] theorem isKept_ofPath (depth : Nat) (p : Path) : isKept depth (ofPath p) = true :=
  isKept_ofString depth p.text

@[simp] theorem isKept_ofPaths (depth : Nat) (paths : PathSet) :
    isKept (depth + 1) (ofPaths paths) = true := by
  simp [ofPaths, isKept, areKept_iff]

@[simp] theorem isKept_ofBytes (depth : Nat) (bytes : List UInt8) :
    isKept (depth + 1) (ofBytes bytes) = true := by
  simp [ofBytes, isKept, areKept_iff]

@[simp] theorem isKept_ofEndpoint (depth : Nat) (a : Address) :
    isKept (depth + 1) (ofEndpoint a) = true := by
  simp [ofEndpoint, isKept_ofFields_iff]

theorem isKept_ofOption {α : Type} {write : α → Json} {depth : Nat}
    (kept : ∀ a, isKept depth (write a) = true) (a : Option α) :
    isKept depth (ofOption write a) = true := by
  cases a with
  | none => simp [ofOption, isKept]
  | some a => exact kept a

end Dfs.Json
