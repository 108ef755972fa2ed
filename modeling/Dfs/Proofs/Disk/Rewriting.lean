import Dfs.Proofs.Disk.Changes

/-!
Files with a new content. Bytes that are written stand at their offset, and everything
else is as before or zero (`Content.overwritten_written`), also if they are written one after
another (`Content.toList_written_append`); and what led to the file leads there afterwards
(`Disk.Rewritten.resolve_found`).
-/

namespace Dfs

/-! ### Contents -/

namespace Content

/-- Bytes have been written at an offset of a content. -/
structure Overwritten (before : Content) (offset : Nat) (bytes : List UInt8) (after : Content) :
    Prop where
  length : after.toList.length = max before.toList.length (offset + bytes.length)
  written : ∀ i, i < bytes.length → after.toList[offset + i]? = bytes[i]?
  gap : ∀ i, before.toList.length ≤ i → i < offset → after.toList[i]? = some 0
  kept : ∀ i, i < before.toList.length → i < offset ∨ offset + bytes.length ≤ i →
    after.toList[i]? = before.toList[i]?

/-- What comes before the bytes, zeros included, is as long as the offset. -/
theorem length_front (c : Content) (offset : Nat) :
    (c.toList.take offset ++ List.replicate (offset - c.toList.length) 0).length = offset := by
  rw [List.length_append, List.length_take, List.length_replicate]
  omega

theorem overwritten_of_toList {c after : Content} {offset : Nat} {bytes : List UInt8}
    (whole : after.toList = (c.splice offset bytes).toList) : c.Overwritten offset bytes after := by
  rw [toList_splice, ← length_toList] at whole
  have front := c.length_front offset
  constructor
  · rw [whole, List.length_append, List.length_append, front, List.length_drop]
    omega
  · intro i inside
    rw [whole, List.append_assoc, List.getElem?_append_right (by omega), front,
      Nat.add_sub_cancel_left, List.getElem?_append_left inside]
  · intro i past before
    rw [whole, List.append_assoc, List.getElem?_append_left (by omega),
      List.getElem?_append_right (by rw [List.length_take]; omega), List.getElem?_replicate,
      if_pos (by rw [List.length_take]; omega)]
  · intro i inside apart
    rw [whole]
    rcases apart with before | past
    · rw [List.append_assoc, List.getElem?_append_left (by omega),
        List.getElem?_append_left (by rw [List.length_take]; omega),
        List.getElem?_take_of_lt before]
    · rw [List.getElem?_append_right (by rw [List.length_append]; omega), List.length_append, front,
        List.getElem?_drop, Nat.add_sub_cancel' past]

/-- Bytes that are written right behind others could have been written with them. -/
theorem toList_splice_splice (c : Content) (offset : Nat) (xs ys : List UInt8) :
    ((c.splice offset xs).splice (offset + xs.length) ys).toList =
      (c.splice offset (xs ++ ys)).toList := by
  have front := c.length_front offset
  rw [toList_splice (c.splice offset xs), ← length_toList, toList_splice, toList_splice,
    ← length_toList]
  generalize c.toList.take offset ++ List.replicate (offset - c.toList.length) 0 = before at front
  have first : (before ++ xs).length = offset + xs.length := by rw [List.length_append, front]
  have noGap : offset + xs.length -
      (before ++ xs ++ c.toList.drop (offset + xs.length)).length = 0 := by
    rw [List.length_append, first]
    omega
  have behind : (before ++ xs ++ c.toList.drop (offset + xs.length)).drop
      (offset + xs.length + ys.length) = c.toList.drop (offset + (xs ++ ys).length) := by
    rw [← List.drop_drop, List.drop_left' first, List.drop_drop, List.length_append, Nat.add_assoc]
  rw [List.take_left' first, noGap, behind]
  simp

/-- The content after a write. Without bytes it stays, also where a gap would be. -/
def written (content : Content) (offset : Nat) (data : List UInt8) : Content :=
  if data = [] then content else content.splice offset data

section Written

variable {content content' : Content} {offset : Nat} {data : List UInt8}

@[simp] theorem written_nil (content : Content) (offset : Nat) :
    content.written offset [] = content := if_pos rfl

theorem written_of_ne (content : Content) (offset : Nat) (some : data ≠ []) :
    content.written offset data = content.splice offset data := if_neg some

theorem toList_written (some : data ≠ []) :
    (content.written offset data).toList =
      content.toList.take offset ++ List.replicate (offset - content.toList.length) 0 ++ data ++
        content.toList.drop (offset + data.length) := by
  rw [written_of_ne content offset some, toList_splice, length_toList]

/-- The bytes of a file after a write depend on its bytes alone. -/
theorem toList_written_congr (same : content'.toList = content.toList) (offset : Nat)
    (data : List UInt8) :
    (content'.written offset data).toList = (content.written offset data).toList := by
  by_cases none : data = []
  · rw [none, written_nil, written_nil, same]
  · rw [toList_written none, toList_written none, same]

/-- Two writes, the second right behind the first, are one. -/
theorem toList_written_append (content : Content) (offset : Nat) (xs ys : List UInt8) :
    (content.written offset (xs ++ ys)).toList =
      ((content.written offset xs).written (offset + xs.length) ys).toList := by
  by_cases first : xs = []
  · simp [first]
  by_cases second : ys = []
  · simp [second]
  rw [written_of_ne _ _ second, written_of_ne _ _ first, toList_splice_splice,
    written_of_ne _ _ (by simp [first])]

theorem overwritten_written (some : data ≠ []) {after : Content}
    (whole : after.toList = (content.written offset data).toList) :
    content.Overwritten offset data after := by
  rw [written_of_ne content offset some] at whole
  exact overwritten_of_toList whole

end Written

end Content

/-! ### Paths to the file -/

namespace Disk

/-- The file at one place has another content. -/
structure Rewritten (d : Disk) (place : Place) (before after : Content) (d' : Disk) : Prop where
  there : d.kindAt? place = some (.leaf (.file before))
  kinds : ∀ js, d'.kindAt? js = if js = place then some (.leaf (.file after)) else d.kindAt? js

theorem rewritten_set {d : Disk} {place : Place} {before : Content}
    (there : d.kindAt? place = some (.leaf (.file before))) (after : Content) :
    d.Rewritten place before after (d.set place (.leaf (.file after))) where
  there := there
  kinds := kindAt?_set_leaf there (.file after)

namespace Rewritten

variable {d d' : Disk} {place p : Place} {last : Bool} {before after : Content}
  (rewritten : d.Rewritten place before after d')

include rewritten

theorem get?_self : d'.get? place = some (.leaf (.file after)) := by
  rw [← kindAt?_eq_leaf_iff, rewritten.kinds, if_pos rfl]

/-- What is not the file is of the same kind as before. -/
theorem kindAt?_of_ne {kind : Kind DiskItem} (there : d.kindAt? p = some kind)
    (other : kind ≠ .leaf (.file before)) : d'.kindAt? p = some kind := by
  rw [rewritten.kinds, if_neg]
  · exact there
  · rintro rfl
    rw [rewritten.there] at there
    exact other (Option.some.inj there).symm

theorem keepsWays : d.KeepsWays d' := fun _ _ there other =>
  rewritten.kindAt?_of_ne there (other before)

/-- A host path that leads to the file leads to it afterwards. -/
theorem resolve_found {h : HostPath}
    (found : d.resolve last h = .ok (.found place (.leaf (.file before)))) :
    d'.resolve last h = .ok (.found place (.leaf (.file after))) :=
  rewritten.keepsWays.resolve id found (.file before) rewritten.get?_self

end Rewritten

end Disk

end Dfs
