import Dfs.Proofs.Disk.NewFile
import Dfs.Proofs.Store.Commands

/-!
Reading and writing a file, exactly. A read has the bytes that were asked for, or refuses
an offset or length that the file does not have (`ReadExact`); a write leaves its bytes at
their offset, or the first of them if it fails, and everything else as it was (`WriteExact`).
Both hold of all offsets and lengths (`transfer_exact`).
-/

namespace Dfs.Store

open Disk

variable {st : Store} {p : Path} {place : Place} {content : Content}

/-- A creation that is answered with `true` has made an empty file where none was, which the
path leads to, and no other file has changed. -/
theorem create_of_true (done : (st.create p).1 = true) :
    (st.create p).2.root = st.root ∧ ∃ place, (st.create p).2.Denotes p place .empty ∧
      st.disk.leafAt? place = none ∧
      ∀ js, js ≠ place → (st.create p).2.disk.leafAt? js = st.disk.leafAt? js := by
  have outcome := create_outcome st p
  generalize st.create p = result at outcome done ⊢
  cases outcome with
  | refused | stopped => cases done
  | @made h disk disk' mapped unseen climbed created =>
      have furnished := furnished_makeDirectories st.disk h.parent
      rw [climbed] at furnished
      obtain ⟨place, added, found⟩ := newFile_of_createFile created
      have absent : st.disk.leafAt? place = none := by
        rw [← furnished.leafAt?_eq, leafAt?, added.absent]
        rfl
      refine ⟨rfl, place, ⟨h, mapped.mapped, found⟩, absent, fun js other => ?_⟩
      exact (added.leafAt?_of_ne other).trans (furnished.leafAt?_eq js)

/-! ### Reading -/

/-- What a read answers, and what it leaves. The bounds are those of whole numbers. -/
structure ReadExact (st : Store) (p : Path) (content : Content) (offset length : Int64)
    (result : Reply × Store) : Prop where
  negative : offset.toInt < 0 ∨ length.toInt < 0 → result.1 =
    .error (.invalidArgument s!"negative offset ({offset}) or length ({length})")
  inside : 0 ≤ offset.toInt → 0 ≤ length.toInt →
    offset.toInt + length.toInt ≤ content.toList.length → result.1 =
      .ok (.bytes ((content.toList.drop offset.toInt.toNat).take length.toInt.toNat))
  outside : 0 ≤ offset.toInt → 0 ≤ length.toInt →
    content.toList.length < offset.toInt + length.toInt → result.1 = .error (.outOfBounds
      s!"{p}: {length.toInt.toNat} bytes at {offset.toInt.toNat} exceed size {content.size}")
  unchanged : result.2 = st

theorem Denotes.read (denotes : st.Denotes p place content) (offset length : Int64) :
    st.read p offset length =
      if offset.toInt < 0 ∨ length.toInt < 0 then
        .error (.invalidArgument s!"negative offset ({offset}) or length ({length})")
      else if offset.toInt.toNat + length.toInt.toNat > content.size then
        .error (.outOfBounds
          s!"{p}: {length.toInt.toNat} bytes at {offset.toInt.toNat} exceed size {content.size}")
      else .ok (content.slice offset.toInt.toNat length.toInt.toNat) := by
  obtain ⟨h, mapped, found, measured⟩ := denotes.exists_fileLength
  have seen : st.disk.readFile h = .ok content := by
    unfold readFile
    rw [stat_of_found found]
  unfold Store.read
  rw [mapped]
  dsimp only
  rw [measured]
  dsimp only
  rw [seen]

theorem Denotes.readExact (denotes : st.Denotes p place content) (offset length : Int64) :
    ReadExact st p content offset length (st.serveStorage (.read p offset length)) := by
  have answer : (st.serveStorage (.read p offset length)).1 =
      (st.read p offset length).map .bytes := rfl
  rw [denotes.read] at answer
  constructor
  · intro negative
    rw [answer, if_pos negative]
    rfl
  · intro first count bound
    rw [Content.length_toList] at bound
    rw [answer, if_neg (by omega), if_neg (by omega), Content.slice_eq]
    rfl
  · intro first count bound
    rw [Content.length_toList] at bound
    rw [answer, if_neg (by omega), if_pos (by omega)]
    rfl
  · rfl

/-! ### Writing -/

/-- What a write answers, and what it leaves. If it is not accepted, the file is as it was or has
the first bytes in it. -/
structure WriteExact (st : Store) (p : Path) (place : Place) (content : Content) (offset : Int64)
    (data : List UInt8) (result : Reply × Store) : Prop where
  accepted : result.1 = .ok .unit ↔
    0 ≤ offset.toInt ∧ (data = [] ∨ offset.toInt + data.length ≤ st.disk.largest)
  refused : result.1 ≠ .ok .unit → result.2 = st ∨ st.Torn p place content offset data result.2
  nothing : data = [] → result.2 = st
  written : result.1 = .ok .unit → data ≠ [] → ∃ content',
    result.2.Denotes p place content' ∧ content.Overwritten offset.toInt.toNat data content'
  elsewhere : ∀ js, js ≠ place → result.2.disk.kindAt? js = st.disk.kindAt? js
  root : result.2.root = st.root

theorem Denotes.writeExact (denotes : st.Denotes p place content) (offset : Int64)
    (data : List UInt8) :
    WriteExact st p place content offset data (st.serveStorage (.write p offset data)) := by
  have served : st.serveStorage (.write p offset data) =
      ((st.write p offset data).1.map fun _ => .unit, (st.write p offset data).2) := rfl
  have answer : (st.serveStorage (.write p offset data)).1 = .ok .unit ↔
      (st.write p offset data).1 = .ok () := by
    rw [served]
    cases (st.write p offset data).1 <;> simp [Except.map]
  constructor
  · rw [answer, denotes.write_eq_ok_iff, not_noRoom_iff]
  · intro refused
    rw [ne_eq, answer] at refused
    cases written : (st.write p offset data).1 with
    | error e => exact denotes.torn_of_error written
    | ok done => exact absurd written refused
  · rintro rfl
    exact write_nil st p offset
  · intro done some
    obtain ⟨after, denotes', whole, -⟩ := denotes.write_of_ok (answer.mp done)
    exact ⟨after, denotes', Content.overwritten_written some whole⟩
  · exact fun js other => denotes.kindAt?_write offset data other
  · exact root_write st p offset data

/-- Whatever the offset and the length, a read and a write of a file do what they are
asked for, exactly, or refuse it. -/
theorem transfer_exact (denotes : st.Denotes p place content) (offset length : Int64)
    (data : List UInt8) :
    ReadExact st p content offset length (st.serveStorage (.read p offset length)) ∧
      WriteExact st p place content offset data (st.serveStorage (.write p offset data)) :=
  ⟨denotes.readExact offset length, denotes.writeExact offset data⟩

/-- The file `/f` of three bytes in the directory of a node. -/
def threeBytes : Store :=
  ⟨⟨[0x68]⟩, { top := [([0x68], .dir [([0x66], .leaf (.file (.ofBytes [1, 2, 3])))])] }⟩

/-- Past the end of the file not even zero bytes can be read, and a byte that is written there
has zeros before it. -/
theorem transfer_exact_past_end : ∃ (p : Path) (place : Place) (content : Content),
    threeBytes.Denotes p place content ∧
      (∃ message, (threeBytes.serveStorage (.read p 5 0)).1 = .error (.outOfBounds message)) ∧
      ∃ content', (threeBytes.serveStorage (.write p 5 [9])).2.Denotes p place content' ∧
        content'.toList.length = 6 ∧ content'.toList[4]? = some 0 := by
  have denotes : threeBytes.Denotes ⟨[⟨"f", by decide⟩]⟩ [[0x68], [0x66]] (.ofBytes [1, 2, 3]) :=
    ⟨_, rfl, rfl⟩
  obtain ⟨reads, writes⟩ := transfer_exact denotes 5 0 [9]
  obtain ⟨content', denotes', overwritten⟩ :=
    writes.written (writes.accepted.mpr ⟨by decide, .inr (by decide)⟩) (by simp)
  refine ⟨_, _, _, denotes, ⟨_, reads.outside (by decide) (by decide) (by decide)⟩, content',
    denotes', overwritten.length, overwritten.gap 4 (by decide) (by decide)⟩

end Dfs.Store
