import Dfs.Json.Basic

/-!
What keeps a value from being kept whole: too many arrays and objects open at once, a number
out of range, or a text that is no string, a key included (`isKept_iff`).
-/

namespace Dfs.Json

mutual

/-- The most arrays and objects that are open at once. -/
def depth : Json → Nat
  | .array items => itemDepth items + 1
  | .object members => memberDepth members + 1
  | _ => 0

def itemDepth : List Json → Nat
  | [] => 0
  | item :: items => max (depth item) (itemDepth items)

def memberDepth : List (Option String × Json) → Nat
  | [] => 0
  | (_, value) :: members => max (depth value) (memberDepth members)

end

mutual

/-- The scalars in a value, with the keys of its objects. -/
def scalars : Json → List Json
  | .array items => itemScalars items
  | .object members => memberScalars members
  | value => [value]

def itemScalars : List Json → List Json
  | [] => []
  | item :: items => scalars item ++ itemScalars items

def memberScalars : List (Option String × Json) → List Json
  | [] => []
  | (key, value) :: members => .str key :: (scalars value ++ memberScalars members)

end

/-- None of the scalars is a number out of range or a text that is no string. -/
def Sound (scalars : List Json) : Prop := .number .huge ∉ scalars ∧ .str none ∉ scalars

theorem Sound.append_iff {xs ys : List Json} : Sound (xs ++ ys) ↔ Sound xs ∧ Sound ys := by
  simp only [Sound, List.mem_append, not_or]
  exact and_and_and_comm

theorem Sound.key_iff {key : Option String} {scalars : List Json} :
    Sound (.str key :: scalars) ↔ key.isSome = true ∧ Sound scalars := by
  cases key <;> simp [Sound]

mutual

/-- A value is kept exactly if it stays within the limits. -/
theorem isKept_iff (limit : Nat) (value : Json) :
    isKept limit value = true ↔ value.depth ≤ limit ∧ Sound value.scalars := by
  match limit, value with
  | _, .null | _, .bool _ => simp [isKept, depth, Sound, scalars]
  | _, .number value => cases value <;> simp [isKept, depth, Sound, scalars]
  | _, .str text => cases text <;> simp [isKept, depth, Sound, scalars]
  | 0, .array _ | 0, .object _ => simp [isKept, depth]
  | limit + 1, .array items =>
      rw [isKept, depth, scalars, areKept_iff_depth limit items]
      simp
  | limit + 1, .object members =>
      rw [isKept, depth, scalars, membersAreKept_iff_depth limit members]
      simp

theorem areKept_iff_depth (limit : Nat) (items : List Json) :
    areKept limit items = true ↔ itemDepth items ≤ limit ∧ Sound (itemScalars items) := by
  match items with
  | [] => simp [areKept, itemDepth, itemScalars, Sound]
  | item :: items =>
      rw [areKept, Bool.and_eq_true, isKept_iff limit item, areKept_iff_depth limit items,
        itemDepth, itemScalars, Sound.append_iff, Nat.max_le]
      exact and_and_and_comm

theorem membersAreKept_iff_depth (limit : Nat) (members : List (Option String × Json)) :
    membersAreKept limit members = true ↔
      memberDepth members ≤ limit ∧ Sound (memberScalars members) := by
  match members with
  | [] => simp [membersAreKept, memberDepth, memberScalars, Sound]
  | (key, value) :: members =>
      rw [membersAreKept, Bool.and_eq_true, Bool.and_eq_true, isKept_iff limit value,
        membersAreKept_iff_depth limit members, memberDepth, memberScalars, Sound.key_iff,
        Sound.append_iff, Nat.max_le]
      constructor
      · rintro ⟨⟨isKey, shallow, sound⟩, shallow', sound'⟩
        exact ⟨⟨shallow, shallow'⟩, isKey, sound, sound'⟩
      · rintro ⟨⟨shallow, shallow'⟩, isKey, sound, sound'⟩
        exact ⟨⟨isKey, shallow, sound⟩, shallow', sound'⟩

end

end Dfs.Json
