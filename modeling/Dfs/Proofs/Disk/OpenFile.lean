import Dfs.Disk.OpenFile
import Dfs.Proofs.Disk.Rewriting

/-!
What a write to an open file comes to. However the bytes are cut into pieces, and however few
of them the host takes at a time, those that it has taken are in the file as if they had been
written at once (`OpenFile.Took`). They are the first of the bytes, and all of them exactly if
the file may be that large (`OpenFile.writeAll_outcome`).
-/

namespace Dfs.OpenFile

variable {f f' f'' : OpenFile} {bytes xs ys : List UInt8}

/-! ### Opening -/

/-- A file is opened where it is, at its beginning. -/
theorem openFile_eq_ok_iff {d : Disk} {h : HostPath} : d.openFile h = .ok f ↔
    ∃ place content, d.resolve true h = .ok (.found place (.leaf (.file content))) ∧
      f = ⟨d, place, content, 0⟩ := by
  unfold Disk.openFile
  constructor
  · intro opened
    split at opened
    · cases opened
    · cases opened
    · next place content found => exact ⟨place, content, found, (Except.ok.inj opened).symm⟩
    · cases opened
  · rintro ⟨place, content, found, rfl⟩
    rw [found]

/-- A file has every position up to the largest size of its disk. -/
theorem seek_cases (f : OpenFile) (position : Nat) :
    (∃ fault, f.seek position = .error fault ∧ f.disk.largest < position) ∨
      f.seek position = .ok { f with position } ∧ position ≤ f.disk.largest := by
  unfold seek
  split
  · next beyond => exact .inl ⟨_, rfl, beyond⟩
  · next inside => exact .inr ⟨rfl, Nat.le_of_not_lt inside⟩

/-! ### Bytes that were taken -/

/-- The host has taken these bytes. -/
structure Took (f : OpenFile) (bytes : List UInt8) (f' : OpenFile) : Prop where
  place : f'.place = f.place
  position : f'.position = f.position + bytes.length
  content : f'.content.toList = (f.content.written f.position bytes).toList
  disk : bytes ≠ [] → f'.disk = f.disk.set f.place (.leaf (.file f'.content))
  idle : bytes = [] → f' = f

theorem Took.nil (f : OpenFile) : Took f [] f where
  place := rfl
  position := rfl
  content := by rw [Content.written_nil]
  disk := fun some => absurd rfl some
  idle := fun _ => rfl

theorem Took.largest (took : Took f bytes f') : f'.disk.largest = f.disk.largest := by
  by_cases none : bytes = []
  · rw [took.idle none]
  · rw [took.disk none, Disk.largest_set]

/-- Bytes that are taken one after another are taken together. -/
theorem Took.append (first : Took f xs f') (second : Took f' ys f'') : Took f (xs ++ ys) f'' := by
  by_cases none : ys = []
  · rw [second.idle none, none, List.append_nil]
    exact first
  exact
    { place := second.place.trans first.place
      position := by rw [second.position, first.position, List.length_append, Nat.add_assoc]
      content := by
        rw [second.content, Content.toList_written_congr first.content, first.position,
          Content.toList_written_append]
      disk := by
        intro _
        rw [second.disk none, first.place]
        by_cases idle : xs = []
        · rw [first.idle idle]
        · rw [first.disk idle, Disk.set_set]
      idle := fun both => absurd (List.append_eq_nil_iff.mp both).2 none }

/-- What is offered is refused, as there is no room for all of it, or the first bytes are
taken. -/
theorem offer_cases (inside : f.position ≤ f.disk.largest) (some : bytes ≠ []) :
    (∃ fault, f.offer bytes = .error fault ∧ f.disk.largest < f.position + bytes.length) ∨
      ∃ count f', f.offer bytes = .ok (count + 1, f') ∧ count < bytes.length ∧
        Took f (bytes.take (count + 1)) f' ∧ f.position + (count + 1) ≤ f.disk.largest := by
  have length := List.length_pos_iff.mpr some
  have most := f.disk.largest_le
  by_cases far : f.position + bytes.length > maxPosition
  · exact .inl ⟨.invalidArgument, if_pos far, by omega⟩
  by_cases full : f.position ≥ f.disk.largest
  · exact .inl ⟨.fileTooLarge, by rw [offer, if_neg far, if_pos full], by omega⟩
  obtain ⟨count, counted⟩ : ∃ count, min bytes.length (f.disk.largest - f.position) = count + 1 :=
    Nat.exists_eq_add_one_of_ne_zero (by omega)
  have taken : (bytes.take (count + 1)).length = count + 1 := by
    rw [List.length_take]
    omega
  have nonempty : bytes.take (count + 1) ≠ [] := by
    rw [← List.length_pos_iff, taken]
    omega
  refine .inr ⟨count, _, by rw [offer, if_neg far, if_neg full]; simp only [counted]; rfl,
    by omega, ?_, by omega⟩
  exact
    { place := rfl
      position := by rw [taken]
      content := by rw [Content.written_of_ne _ _ nonempty]
      disk := fun _ => rfl
      idle := fun none => absurd none nonempty }

/-! ### Writing -/

/-- How a write can end: all bytes are taken, or the first of them, as there is no room for
all. -/
inductive Outcome (f : OpenFile) (bytes : List UInt8) : Option Fault × OpenFile → Prop
  | whole (f' : OpenFile) (took : Took f bytes f')
    (room : f.position + bytes.length ≤ f.disk.largest) : Outcome f bytes (none, f')
  | part (fault : Fault) (count : Nat) (f' : OpenFile) (short : count < bytes.length)
    (took : Took f (bytes.take count) f') (room : f.position + count ≤ f.disk.largest)
    (beyond : f.disk.largest < f.position + bytes.length) : Outcome f bytes (some fault, f')

/-- After the first bytes, all depends on the others. -/
theorem Outcome.append {result : Option Fault × OpenFile} (first : Took f xs f')
    (second : Outcome f' ys result) : Outcome f (xs ++ ys) result := by
  have largest := first.largest
  have position := first.position
  cases second with
  | whole f'' took room =>
      refine .whole f'' (first.append took) ?_
      rw [List.length_append]
      omega
  | part fault count f'' short took room beyond =>
      have taken : (xs ++ ys).take (xs.length + count) = xs ++ ys.take count := by
        rw [List.take_length_add_append]
      refine .part fault (xs.length + count) f'' ?_ (taken ▸ first.append took) ?_ ?_
      · rw [List.length_append]
        omega
      · omega
      · rw [List.length_append]
        omega

/-- A write that has ended early is not gone on with. -/
theorem Outcome.stop {fault : Fault} (first : Outcome f xs (some fault, f')) (ys : List UInt8) :
    Outcome f (xs ++ ys) (some fault, f') := by
  cases first with
  | part fault count f' short took room beyond =>
      refine .part fault count f' ?_ ?_ room ?_
      · rw [List.length_append]
        omega
      · rwa [List.take_append_of_le_length (Nat.le_of_lt short)]
      · rw [List.length_append]
        omega

/-- There is nothing left to write. -/
theorem Outcome.nil (inside : f.position ≤ f.disk.largest) : Outcome f [] (none, f) :=
  .whole f (.nil f) inside

/-- Where the write of the first bytes has not ended early, they are all in the file. -/
theorem Outcome.took (ended : Outcome f bytes (none, f')) :
    Took f bytes f' ∧ f.position + bytes.length ≤ f.disk.largest := by
  cases ended with
  | whole _ took room => exact ⟨took, room⟩

/-- After bytes that were taken the position is one that the file may have. -/
theorem Took.inside (took : Took f bytes f') (room : f.position + bytes.length ≤ f.disk.largest) :
    f'.position ≤ f'.disk.largest := by
  rw [took.largest, took.position]
  exact room

theorem writePiece_outcome (inside : f.position ≤ f.disk.largest) (bytes : List UInt8) :
    Outcome f bytes (f.writePiece bytes) := by
  fun_induction OpenFile.writePiece f bytes with
  | case1 f => exact .nil inside
  | case2 f bytes some fault refused =>
      rcases offer_cases inside some with ⟨fault', -, beyond⟩ | ⟨count, f', taken, -⟩
      · refine .part fault 0 f (List.length_pos_iff.mpr some) ?_ inside beyond
        rw [List.take_zero]
        exact .nil f
      · rw [refused] at taken
        cases taken
  | case3 f bytes some f₁ nothing =>
      -- The host never takes nothing of what it takes at all.
      rcases offer_cases inside some with ⟨fault', refused, -⟩ | ⟨count, f', taken, -⟩
      · rw [nothing] at refused
        cases refused
      · rw [nothing] at taken
        cases taken
  | case4 f bytes some count f₁ offered ih =>
      rcases offer_cases inside some with ⟨fault', refused, -⟩ | ⟨count', f', taken, less, took, room⟩
      · rw [offered] at refused
        cases refused
      · rw [offered] at taken
        cases taken
        have first : (bytes.take (count + 1)).length = count + 1 := by
          rw [List.length_take]
          omega
        have rest := ih (took.inside (by rwa [first]))
        have whole := rest.append took
        rwa [List.take_append_drop] at whole

/-- The bytes that are taken are all that were to be written, exactly if there is room for
them, and otherwise the first of them. -/
theorem writeAll_outcome (inside : f.position ≤ f.disk.largest) (bytes : List UInt8) :
    Outcome f bytes (f.writeAll bytes) := by
  fun_induction OpenFile.writeAll f bytes with
  | case1 f => exact .nil inside
  | case2 f bytes some fault f₁ stopped =>
      have ended := writePiece_outcome inside (bytes.take maxPiece)
      rw [stopped] at ended
      have whole := ended.stop (bytes.drop maxPiece)
      rwa [List.take_append_drop] at whole
  | case3 f bytes some f₁ taken ih =>
      have ended := writePiece_outcome inside (bytes.take maxPiece)
      rw [taken] at ended
      obtain ⟨took, room⟩ := ended.took
      have whole := (ih (took.inside room)).append took
      rwa [List.take_append_drop] at whole

end Dfs.OpenFile
