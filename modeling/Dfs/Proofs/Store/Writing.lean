import Dfs.Proofs.Disk.OpenFile
import Dfs.Store.Basic

/-!
A write to a file of a storage node. It ends in one of four ways (`write_outcome`): it is
refused, it has no bytes, its bytes are in the file, or the first of them are, as the disk lets
the file grow no further. Which way it is depends on the position, on the number of bytes and
on whether there is a file, and on nothing else.
-/

namespace Dfs.Store

open Disk

variable {st : Store} {p : Path} {place : Place} {content : Content} {offset : Int64}
  {data : List UInt8}

/-! ### Paths of files -/

/-- The path is that of a regular file, which is at this place and has this content. -/
def Denotes (st : Store) (p : Path) (place : Place) (content : Content) : Prop :=
  ∃ h, st.hostPath p = .ok h ∧ st.disk.resolve true h = .ok (.found place (.leaf (.file content)))

namespace Denotes

variable (denotes : st.Denotes p place content)

include denotes

theorem kindAt?_place : st.disk.kindAt? place = some (.leaf (.file content)) := by
  obtain ⟨h, -, found⟩ := denotes
  exact kindAt?_of_get? (get?_of_resolve found)

/-- The path leads there with every content that the file may get. -/
theorem rewritten (after : Content) :
    Denotes { st with disk := st.disk.set place (.leaf (.file after)) } p place after := by
  have changed := rewritten_set denotes.kindAt?_place after
  obtain ⟨h, mapped, found⟩ := denotes
  exact ⟨h, mapped, changed.resolve_found found⟩

theorem exists_fileLength : ∃ h, st.hostPath p = .ok h ∧
    st.disk.resolve true h = .ok (.found place (.leaf (.file content))) ∧
    st.fileLength h p = .ok content.size := by
  obtain ⟨h, mapped, found⟩ := denotes
  refine ⟨h, mapped, found, ?_⟩
  unfold fileLength
  rw [stat_of_found found]
  rfl

/-- A path is that of one file. -/
theorem unique {place' : Place} {content' : Content} (denotes' : st.Denotes p place' content') :
    place' = place ∧ content' = content := by
  obtain ⟨h, mapped, found⟩ := denotes
  obtain ⟨h', mapped', found'⟩ := denotes'
  rw [mapped] at mapped'
  cases mapped'
  rw [found] at found'
  cases found'
  exact ⟨rfl, rfl⟩

end Denotes

/-! ### Writing -/

/-- The bytes reach beyond the largest size of a file on the disk. -/
def NoRoom (st : Store) (offset : Int64) (data : List UInt8) : Prop :=
  data ≠ [] ∧ (st.disk.largest : Int) < offset.toInt + data.length

theorem not_noRoom_iff : ¬ st.NoRoom offset data ↔
    data = [] ∨ offset.toInt + data.length ≤ st.disk.largest := by
  rw [NoRoom, not_and_or, not_not, Int.not_lt]

/-- What a write comes to. -/
inductive WriteOutcome (st : Store) (p : Path) (offset : Int64) (data : List UInt8) :
    Except Error Unit × Store → Prop where
  | refused (e : Error) (why : offset.toInt < 0 ∨ (∀ place content, ¬ st.Denotes p place content) ∨
      st.NoRoom offset data) : WriteOutcome st p offset data (.error e, st)
  | idle (first : 0 ≤ offset.toInt) (none : data = []) : WriteOutcome st p offset data (.ok (), st)
  | written {place : Place} {before after : Content} (denotes : st.Denotes p place before)
      (first : 0 ≤ offset.toInt) (some : data ≠ []) (room : ¬ st.NoRoom offset data)
      (whole : after.toList = (before.written offset.toInt.toNat data).toList) :
      WriteOutcome st p offset data
        (.ok (), { st with disk := st.disk.set place (.leaf (.file after)) })
  /-- Not all bytes find room in the file, but the first ones do. -/
  | torn (e : Error) {place : Place} {before after : Content} {count : Nat}
      (denotes : st.Denotes p place before) (first : 0 ≤ offset.toInt) (some : 0 < count)
      (short : count < data.length) (room : offset.toInt + count ≤ st.disk.largest)
      (beyond : st.NoRoom offset data)
      (part : after.toList = (before.written offset.toInt.toNat (data.take count)).toList) :
      WriteOutcome st p offset data
        (.error e, { st with disk := st.disk.set place (.leaf (.file after)) })

/-- Once the file is open, all depends on its room. -/
theorem write_outcome_of_denotes (denotes : st.Denotes p place content)
    (first : 0 ≤ offset.toInt) (data : List UInt8) :
    WriteOutcome st p offset data (st.write p offset data) := by
  obtain ⟨h, mapped, found, measured⟩ := denotes.exists_fileLength
  have opened := OpenFile.openFile_eq_ok_iff.mpr ⟨place, content, found, rfl⟩
  unfold write
  rw [if_neg (by omega), mapped]
  dsimp only
  rw [measured]
  dsimp only
  rw [opened]
  dsimp only
  by_cases none : data = []
  · rw [if_pos none]
    exact .idle first none
  rw [if_neg none]
  rcases OpenFile.seek_cases ⟨st.disk, place, content, 0⟩ offset.toInt.toNat with
    ⟨fault, refused, far⟩ | ⟨sought, inside⟩
  · rw [refused]
    exact .refused _ (.inr (.inr ⟨none, by dsimp only at far; omega⟩))
  · rw [sought]
    dsimp only at inside ⊢
    have ended := OpenFile.writeAll_outcome
      (f := ⟨st.disk, place, content, offset.toInt.toNat⟩) inside data
    generalize OpenFile.writeAll _ data = result at ended ⊢
    cases ended with
    | whole f took room =>
        dsimp only at room ⊢
        rw [took.disk none]
        exact .written denotes first none (by rintro ⟨-, beyond⟩; omega) took.content
    | part fault count f short took room beyond =>
        dsimp only at room beyond ⊢
        have noRoom : st.NoRoom offset data := ⟨none, by omega⟩
        by_cases idle : data.take count = []
        · rw [took.idle idle]
          exact .refused _ (.inr (.inr noRoom))
        · rw [took.disk idle]
          have positive : 0 < count := by
            by_contra zero
            exact idle (by simp [Nat.eq_zero_of_not_pos zero])
          exact .torn _ denotes first positive short (by omega) noRoom took.content

theorem write_outcome (st : Store) (p : Path) (offset : Int64) (data : List UInt8) :
    WriteOutcome st p offset data (st.write p offset data) := by
  by_cases negative : offset.toInt < 0
  · rw [write, if_pos negative]
    exact .refused _ (.inl negative)
  by_cases there : ∃ place content, st.Denotes p place content
  · obtain ⟨place, content, denotes⟩ := there
    exact write_outcome_of_denotes denotes (Int.not_lt.mp negative) data
  have absent : ∀ place content, ¬ st.Denotes p place content := fun place content denotes =>
    there ⟨place, content, denotes⟩
  unfold write
  rw [if_neg negative]
  split
  · exact .refused _ (.inr (.inl absent))
  next h mapped =>
  split
  · exact .refused _ (.inr (.inl absent))
  split
  · exact .refused _ (.inr (.inl absent))
  next opened =>
  obtain ⟨place, content, found, -⟩ := OpenFile.openFile_eq_ok_iff.mp opened
  exact absurd ⟨h, mapped, found⟩ (absent place content)

/-- The first of the bytes are in the file, as there is no room for all of them, and nothing else
has changed. -/
structure Torn (st : Store) (p : Path) (place : Place) (before : Content) (offset : Int64)
    (data : List UInt8) (st' : Store) : Prop where
  denotes : st.Denotes p place before
  noRoom : st.NoRoom offset data
  part : ∃ count after, 0 < count ∧ count < data.length ∧
    offset.toInt + count ≤ st.disk.largest ∧ st'.Denotes p place after ∧
      before.Overwritten offset.toInt.toNat (data.take count) after
  elsewhere : ∀ js, js ≠ place → st'.disk.kindAt? js = st.disk.kindAt? js
  root : st'.root = st.root

/-- A write that fails has changed nothing, or it has ended early. -/
theorem write_of_error {e : Error} (failed : (st.write p offset data).1 = .error e) :
    (st.write p offset data).2 = st ∨
      ∃ place before, st.Torn p place before offset data (st.write p offset data).2 := by
  have outcome := write_outcome st p offset data
  generalize st.write p offset data = result at outcome failed ⊢
  cases outcome with
  | refused => exact .inl rfl
  | idle | written => cases failed
  | @torn e place before after count denotes first some short room beyond part =>
      have taken : data.take count ≠ [] := by
        rw [← List.length_pos_iff, List.length_take]
        omega
      refine .inr ⟨place, before, ?_⟩
      exact
        { denotes := denotes
          noRoom := beyond
          part := ⟨count, after, some, short, room, denotes.rewritten after,
            Content.overwritten_written taken part⟩
          elsewhere := fun js other =>
            (kindAt?_set_leaf denotes.kindAt?_place _ js).trans (if_neg other)
          root := rfl }

/-- Without bytes nothing is written. -/
theorem write_nil (st : Store) (p : Path) (offset : Int64) : (st.write p offset []).2 = st := by
  have outcome := write_outcome st p offset []
  generalize st.write p offset [] = result at outcome ⊢
  cases outcome with
  | refused | idle => rfl
  | written _ _ some => exact absurd rfl some
  | torn _ _ _ _ short => exact absurd short (by simp)

/-! ### Writing to a file that is there -/

namespace Denotes

variable (denotes : st.Denotes p place content)

include denotes

/-- What is refused then has a negative position, or no room. -/
theorem write_eq_ok_iff :
    (st.write p offset data).1 = .ok () ↔ 0 ≤ offset.toInt ∧ ¬ st.NoRoom offset data := by
  have outcome := write_outcome st p offset data
  generalize st.write p offset data = result at outcome ⊢
  cases outcome with
  | refused e why =>
      refine ⟨nofun, fun ⟨first, room⟩ => ?_⟩
      rcases why with negative | absent | noRoom
      · omega
      · exact absurd denotes (absent place content)
      · exact absurd noRoom room
  | idle first none => exact ⟨fun _ => ⟨first, fun noRoom => noRoom.1 none⟩, fun _ => rfl⟩
  | written _ first _ room => exact ⟨fun _ => ⟨first, room⟩, fun _ => rfl⟩
  | torn _ _ _ _ _ _ noRoom => exact ⟨nofun, fun ⟨_, room⟩ => absurd noRoom room⟩

/-- After a write that is accepted the bytes are in the file. -/
theorem write_of_ok (done : (st.write p offset data).1 = .ok ()) :
    ∃ after, (st.write p offset data).2.Denotes p place after ∧
      after.toList = (content.written offset.toInt.toNat data).toList ∧
      (data = [] → after = content) := by
  have outcome := write_outcome st p offset data
  generalize st.write p offset data = result at outcome done ⊢
  cases outcome with
  | refused | torn => cases done
  | idle _ none => exact ⟨content, denotes, by rw [none, Content.written_nil], fun _ => rfl⟩
  | written denotes' _ some _ whole =>
      obtain ⟨rfl, rfl⟩ := denotes.unique denotes'
      exact ⟨_, denotes.rewritten _, whole, fun none => absurd none some⟩

theorem torn_of_error {e : Error} (failed : (st.write p offset data).1 = .error e) :
    (st.write p offset data).2 = st ∨
      st.Torn p place content offset data (st.write p offset data).2 := by
  rcases write_of_error failed with same | ⟨place', content', torn⟩
  · exact .inl same
  · obtain ⟨rfl, rfl⟩ := denotes.unique torn.denotes
    exact .inr torn

/-- A write reaches nothing but its file. -/
theorem kindAt?_write (offset : Int64) (data : List UInt8) {js : Place} (other : js ≠ place) :
    (st.write p offset data).2.disk.kindAt? js = st.disk.kindAt? js := by
  have outcome := write_outcome st p offset data
  generalize st.write p offset data = result at outcome ⊢
  cases outcome with
  | refused | idle => rfl
  | written denotes' | torn _ denotes' =>
      obtain ⟨rfl, rfl⟩ := denotes.unique denotes'
      exact (kindAt?_set_leaf denotes.kindAt?_place _ js).trans (if_neg other)

end Denotes

theorem root_write (st : Store) (p : Path) (offset : Int64) (data : List UInt8) :
    (st.write p offset data).2.root = st.root := by
  have outcome := write_outcome st p offset data
  generalize st.write p offset data = result at outcome ⊢
  cases outcome <;> rfl

end Dfs.Store
