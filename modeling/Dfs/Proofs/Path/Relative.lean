import Dfs.Proofs.Except
import Dfs.Proofs.Path.Host

/-!
Host paths that are read as paths. Reading goes from slash to slash, passes over `.` and stops at
`..`, at a slash that comes first, and at a name that no path can have; so a host path is read
as a path exactly if what stands between its slashes is the place of that path
(`ofRelative_eq_ok_iff`).
-/

namespace Dfs

namespace HostPath

theorem ofBytes?_name {name : HostName} (piece : name.IsPiece) (notDot : name ≠ dot)
    (notDotDot : name ≠ dotDot) : Piece.ofBytes? name = some (.name name) := by
  unfold Piece.ofBytes?
  rw [if_neg (by simp [piece.nonempty, notDot]), if_neg notDotDot]

/-- The names of a host path, as they are read one after another. -/
def readable (parts : List HostName) : List HostName :=
  parts.filter fun part => part ≠ [] ∧ part ≠ dot

end HostPath

namespace Path

open HostPath

variable {shown : String} {p q : Path}

theorem addPiece_name_eq_ok_iff {bytes : HostName} : addPiece shown p (.name bytes) = .ok q ↔
    ∃ n : Name, Utf8.encode n.text = bytes ∧ q = p.child n := by
  unfold addPiece
  dsimp only
  cases read : Utf8.decode? bytes with
  | none =>
      simp only [reduceCtorEq, false_iff, not_exists, not_and]
      intro n spelled
      rw [Utf8.decode?_eq_some_iff.mpr spelled] at read
      cases read
  | some text =>
      rw [join_eq_ok_iff, ← Utf8.decode?_eq_some_iff.mp read]
      simp only [Utf8.encode_injective.eq_iff]

theorem foldlM_addPiece_eq_ok_iff {parts : List HostName} :
    (parts.filterMap Piece.ofBytes?).foldlM (addPiece shown) p = .ok q ↔
      dotDot ∉ parts ∧ ∃ names : List Name,
        (names.map fun n => Utf8.encode n.text) = readable parts ∧ q = ⟨p.components ++ names⟩ := by
  induction parts generalizing p with
  | nil =>
      constructor
      · intro done
        exact ⟨List.not_mem_nil, [], rfl, by simpa using (Except.ok.inj done).symm⟩
      · rintro ⟨-, names, none, rfl⟩
        obtain rfl := List.map_eq_nil_iff.mp none
        simp [pure, Except.pure]
  | cons part parts ih =>
      by_cases nothing : part = [] ∨ part = dot
      · have passed : Piece.ofBytes? part = none := by rw [Piece.ofBytes?, if_pos nothing]
        have notDotDot : dotDot ≠ part := by
          rintro rfl
          exact absurd nothing (by decide)
        have same : readable (part :: parts) = readable parts := by
          rw [readable, List.filter_cons_of_neg]
          · rfl
          · rcases nothing with rfl | rfl <;> simp
        rw [List.filterMap_cons_none passed, ih, same, List.mem_cons, not_or]
        simp only [notDotDot, not_false_eq_true, true_and]
      · by_cases up : part = dotDot
        · subst up
          have stops : Piece.ofBytes? dotDot = some .up := rfl
          rw [List.filterMap_cons_some stops, List.foldlM_cons]
          simp [addPiece, bind, Except.bind]
        · have read : Piece.ofBytes? part = some (.name part) := by
            rw [Piece.ofBytes?, if_neg nothing, if_neg up]
          have kept : readable (part :: parts) = part :: readable parts := by
            rw [readable, List.filter_cons_of_pos (by simpa using nothing)]
            rfl
          rw [List.filterMap_cons_some read, List.foldlM_cons, kept, List.mem_cons, not_or]
          constructor
          · intro done
            obtain ⟨p', first, later⟩ := bind_eq_ok_iff.mp done
            obtain ⟨n, rfl, rfl⟩ := addPiece_name_eq_ok_iff.mp first
            obtain ⟨noUp, names, spelled, rfl⟩ := ih.mp later
            exact ⟨⟨Ne.symm up, noUp⟩, n :: names, by rw [List.map_cons, spelled], by simp [child]⟩
          · rintro ⟨⟨-, noUp⟩, names, spelled, rfl⟩
            cases names with
            | nil => cases spelled
            | cons n names =>
                rw [List.map_cons, List.cons.injEq] at spelled
                rw [addPiece_name_eq_ok_iff.mpr ⟨n, spelled.1, rfl⟩]
                exact ih.mpr ⟨noUp, names, spelled.2, by simp [child]⟩

/-- A host path is read as a path exactly if it begins with no slash, goes up nowhere, and what
stands between its slashes, but for `.` and nothing, is the place of the path. -/
theorem ofRelative_eq_ok_iff {h : HostPath} : ofRelative h = .ok p ↔
    h.bytes.head? ≠ some slash ∧ dotDot ∉ splitAt slash h.bytes ∧
      p.place = readable (splitAt slash h.bytes) := by
  have named : ((splitAt slash h.bytes).filterMap Piece.ofBytes?).foldlM (addPiece h.display) root =
      .ok p ↔ dotDot ∉ splitAt slash h.bytes ∧ p.place = readable (splitAt slash h.bytes) := by
    rw [foldlM_addPiece_eq_ok_iff]
    refine and_congr_right fun _ => ⟨?_, fun spelled => ⟨p.components, spelled, rfl⟩⟩
    rintro ⟨names, spelled, rfl⟩
    exact spelled
  unfold ofRelative HostPath.pieces
  dsimp only
  split
  · next absolute => simp [absolute, addPiece, bind, Except.bind]
  next relative =>
  split
  · rw [List.foldlM_cons]
    exact named.trans (iff_and_self.mpr fun _ => relative)
  · exact named.trans (iff_and_self.mpr fun _ => relative)

/-- Names with slashes between them are read as the path whose place they are. -/
theorem ofRelative_intercalate_eq_ok_iff {names : List HostName}
    (pieces : ∀ name ∈ names, HostName.IsPiece name)
    (noDots : ∀ name ∈ names, name ≠ dot ∧ name ≠ dotDot) :
    ofRelative ⟨[slash].intercalate names⟩ = .ok p ↔ p.place = names := by
  rw [ofRelative_eq_ok_iff]
  dsimp only
  cases names with
  | nil => simp [dotDot, readable]
  | cons name names =>
      have cut : splitAt slash ([slash].intercalate (name :: names)) = name :: names := by
        rw [splitAt_eq_splitOn]
        exact List.splitOn_intercalate slash (fun n mem => (pieces n mem).noSlash)
          (List.cons_ne_nil name names)
      have relative : ([slash].intercalate (name :: names)).head? ≠ some slash := by
        intro first
        obtain ⟨rest, absolute⟩ := List.head?_eq_some_iff.mp first
        rw [absolute, splitAt_cons_self] at cut
        exact (pieces name List.mem_cons_self).nonempty (List.cons.inj cut).1.symm
      have noUp : dotDot ∉ name :: names := fun mem => (noDots _ mem).2 rfl
      have whole : readable (name :: names) = name :: names := by
        unfold readable
        rw [List.filter_eq_self]
        intro n mem
        simp [(pieces n mem).nonempty, (noDots n mem).1]
      rw [cut, whole]
      simp [relative, noUp]

end Path

end Dfs
