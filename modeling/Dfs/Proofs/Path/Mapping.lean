import Dfs.Proofs.Path.Relative

/-!
Paths as host paths below a root. The text of such a host path is that of the root and then the
names of the path, with one slash between any two (`bytes_below`), so that a host, which goes from
piece to piece, follows the root first and the names after it (`pieces_below`). Without the root
the names are read as the path again (`toHost_confined`).
-/

namespace Dfs

namespace HostPath

theorem joint_push {name : HostName} (piece : name.IsPiece) (h : HostPath) :
    (h.push name).joint = [slash] := by
  have nonempty : (h.push name).bytes ≠ [] := by
    rw [bytes_push]
    exact List.append_ne_nil_of_right_ne_nil _ piece.nonempty
  unfold joint
  rw [if_neg (not_or.mpr ⟨nonempty, getLast?_push piece h⟩)]

/-- The names below a root stand behind it, with one slash between any two. -/
theorem bytes_below {name : HostName} {names : Place}
    (pieces : ∀ n ∈ name :: names, HostName.IsPiece n) (root : HostPath) :
    (root.below (name :: names)).bytes =
      root.bytes ++ root.joint ++ [slash].intercalate (name :: names) := by
  induction names generalizing root name with
  | nil => simpa [below] using bytes_push root name
  | cons next names ih =>
      have step : root.below (name :: next :: names) = (root.push name).below (next :: names) := rfl
      rw [step, ih fun n mem => pieces n (List.mem_cons_of_mem _ mem),
        joint_push (pieces name List.mem_cons_self), bytes_push, List.intercalate_cons_cons]
      simp only [List.append_assoc]

/-! ### Pieces -/

theorem pieces_append (front rest : List UInt8) : pieces ⟨front ++ slash :: rest⟩ =
    pieces ⟨front ++ [slash]⟩ ++ (splitAt slash rest).filterMap Piece.ofBytes? := by
  have begin (tail : List UInt8) :
      (front ++ slash :: tail).head? = front.head?.or (some slash) := List.head?_append
  have first (tail : List UInt8) : (splitAt slash front ++ splitAt slash tail).head? =
      (splitAt slash front).head? := List.head?_append_of_ne_nil _ (splitAt_ne_nil front)
  unfold pieces
  dsimp only
  rw [splitAt_append, splitAt_append, begin, begin, first, first, List.filterMap_append,
    List.filterMap_append]
  have none : (splitAt slash []).filterMap Piece.ofBytes? = [] := rfl
  rw [none, List.append_nil]
  split
  · rfl
  split <;> rfl

theorem pieces_trailing {front : List UInt8} (nonempty : front ≠ []) :
    pieces ⟨front ++ [slash]⟩ = pieces ⟨front⟩ := by
  have none : (splitAt slash []).filterMap Piece.ofBytes? = [] := rfl
  unfold pieces
  dsimp only
  rw [splitAt_append, List.filterMap_append, none, List.append_nil,
    List.head?_append_of_ne_nil _ nonempty, List.head?_append_of_ne_nil _ (splitAt_ne_nil front)]

theorem pieces_push {name : HostName} (piece : name.IsPiece) (notDot : name ≠ dot)
    (notDotDot : name ≠ dotDot) (h : HostPath) :
    (h.push name).pieces = h.pieces ++ [.name name] := by
  have last : (splitAt slash name).filterMap Piece.ofBytes? = [.name name] := by
    rw [splitAt_of_not_mem piece.noSlash]
    simp [ofBytes?_name piece notDot notDotDot]
  have single : pieces ⟨name⟩ = [.name name] := by
    have relative : name.head? ≠ some slash := fun first =>
      piece.noSlash (List.mem_of_head? first)
    unfold pieces
    dsimp only
    rw [last, splitAt_of_not_mem piece.noSlash, if_neg relative, if_neg (by simpa using notDot)]
  obtain ⟨bytes⟩ := h
  unfold push
  dsimp only
  split
  · next ends =>
      rcases ends with rfl | slashed
      · exact single
      · obtain ⟨front, rfl⟩ := List.getLast?_eq_some_iff.mp slashed
        rw [List.append_assoc, List.singleton_append, pieces_append, last]
  · next ends =>
      rw [pieces_append, last, pieces_trailing (not_or.mp ends).1]

theorem pieces_below {names : Place} (pieces : ∀ name ∈ names, HostName.IsPiece name)
    (noDots : ∀ name ∈ names, name ≠ dot ∧ name ≠ dotDot) (root : HostPath) :
    (root.below names).pieces = root.pieces ++ names.map .name := by
  induction names using List.reverseRecOn with
  | nil => simp
  | append_singleton names name ih =>
      have before := ih (fun n mem => pieces n (List.mem_append_left _ mem))
        fun n mem => noDots n (List.mem_append_left _ mem)
      have here := noDots name (by simp)
      rw [below_concat, pieces_push (pieces name (by simp)) here.1 here.2, before]
      simp

end HostPath

namespace Path

open HostPath

/-- A path as a host path that begins nowhere: its names with slashes between them. -/
def relative (p : Path) : HostPath := .ofString ("/".intercalate (p.components.map Name.text))

theorem bytes_relative (p : Path) : p.relative.bytes = [slash].intercalate p.place := by
  obtain ⟨names⟩ := p
  unfold relative place HostPath.ofString
  dsimp only
  induction names with
  | nil => rfl
  | cons n names ih =>
      cases names with
      | nil => simp
      | cons m names =>
          have byte : Utf8.encode "/" = [slash] := by decide
          simp only [List.map_cons, String.intercalate_cons_cons, List.intercalate_cons_cons,
            Utf8.encode_append] at ih ⊢
          rw [ih, byte]

variable {p q : Path} {root h : HostPath}

theorem bytes_below_place (p : Path) (root : HostPath) : (root.below p.place).bytes =
    if p.isRoot then root.bytes else root.bytes ++ root.joint ++ p.relative.bytes := by
  rw [bytes_relative]
  split
  · next isRoot => rw [place_eq_nil_iff.mpr isRoot, below_nil]
  · next notRoot =>
      rw [← place_eq_nil_iff] at notRoot
      obtain ⟨name, names, spelled⟩ := List.exists_cons_of_ne_nil notRoot
      rw [spelled]
      exact bytes_below (fun n mem => isPiece_of_mem_place (spelled ▸ mem)) root

/-- Only `.` and `..` keep a path from having a place on a disk. -/
theorem toHost_eq_error_iff {e : PathError} : p.toHost root = .error e ↔
    (∃ n ∈ p.components, n.text = "." ∨ n.text = "..") ∧ e = .unmappable p.text := by
  have dots : p.components.any Name.isDots = true ↔
      ∃ n ∈ p.components, n.text = "." ∨ n.text = ".." := by
    simp [List.any_eq_true, Name.isDots]
  unfold toHost
  split
  · next any =>
      rw [Except.error.injEq]
      exact ⟨fun same => ⟨dots.mp any, same.symm⟩, fun both => both.2.symm⟩
  · next none =>
      simp only [reduceCtorEq, false_iff]
      exact fun both => none (dots.mpr both.1)

theorem pieces_of_toHost (mapped : p.toHost root = .ok h) :
    h.pieces = root.pieces ++ p.place.map .name := by
  obtain ⟨noDots, rfl⟩ := toHost_eq_ok_iff.mp mapped
  exact pieces_below (fun _ mem => isPiece_of_mem_place mem) noDots root

/-- A path with `.` or `..` has no place below a root. Any other has one, at the root or below it:
what a host follows is the root and then the names of the path, which are read as the path again
where they stand alone. So no two paths have the same place. -/
theorem toHost_confined (root : HostPath) :
    (∀ p : Path, (∃ e, p.toHost root = .error e) ↔
      ∃ n ∈ p.components, n.text = "." ∨ n.text = "..") ∧
    (∀ (p : Path) (e : PathError), p.toHost root = .error e →
      e.toError = .invalidPath s!"'{p.text}' cannot be mapped onto a local directory") ∧
    (∀ (p : Path) (h : HostPath), p.toHost root = .ok h →
      h.bytes = (if p.isRoot then root.bytes else root.bytes ++ root.joint ++ p.relative.bytes) ∧
      ofRelative p.relative = .ok p ∧
      h.pieces = root.pieces ++ p.place.map .name) ∧
    ∀ (p q : Path) (h : HostPath), p.toHost root = .ok h → q.toHost root = .ok h → p = q := by
  refine ⟨?unmapped, ?refused, ?mapped, ?injective⟩
  case unmapped =>
    intro p
    simp only [toHost_eq_error_iff, exists_and_left, exists_eq, and_true]
  case refused =>
    intro p e failed
    obtain ⟨-, rfl⟩ := toHost_eq_error_iff.mp failed
    rfl
  case mapped =>
    intro p h mapped
    refine ⟨?_, ?_, pieces_of_toHost mapped⟩
    · obtain ⟨-, rfl⟩ := toHost_eq_ok_iff.mp mapped
      exact bytes_below_place p root
    · have noDots := (toHost_eq_ok_iff.mp mapped).1
      have spelled : p.relative = ⟨[slash].intercalate p.place⟩ := by
        rw [← bytes_relative]
      rw [spelled]
      have pieces : ∀ name ∈ p.place, HostName.IsPiece name := fun _ => isPiece_of_mem_place
      exact (ofRelative_intercalate_eq_ok_iff pieces noDots).mpr rfl
  case injective =>
    intro p q h mapped mapped'
    have same : root.pieces ++ p.place.map .name = root.pieces ++ q.place.map .name :=
      (pieces_of_toHost mapped).symm.trans (pieces_of_toHost mapped')
    have named : Function.Injective Piece.name := fun _ _ => Piece.name.inj
    exact place_injective (named.list_map (List.append_cancel_left same))

/-- Below `/srv`, the path `/a/b` has the place `/srv/a/b` and shares it with no other, and `/a/..`
has none. -/
theorem toHost_confined_below_srv :
    (∃ p, parse "/a/b" = .ok p ∧ p.toHost (.ofString "/srv") = .ok (.ofString "/srv/a/b") ∧
      ofRelative p.relative = .ok p ∧
      (HostPath.ofString "/srv/a/b").pieces =
        (HostPath.ofString "/srv").pieces ++ p.place.map .name ∧
      ∀ q : Path, q.toHost (.ofString "/srv") = .ok (.ofString "/srv/a/b") → q = p) ∧
    ∃ up e, parse "/a/.." = .ok up ∧ up.toHost (.ofString "/srv") = .error e ∧
      e.toError = .invalidPath "'/a/..' cannot be mapped onto a local directory" := by
  obtain ⟨unmapped, refused, mapped, injective⟩ := toHost_confined (.ofString "/srv")
  constructor
  · have there : (⟨[⟨"a", by decide⟩, ⟨"b", by decide⟩]⟩ : Path).toHost (.ofString "/srv") =
        .ok (.ofString "/srv/a/b") := by decide
    obtain ⟨-, back, below⟩ := mapped _ _ there
    exact ⟨_, by decide, there, back, below, fun q there' => injective q _ _ there' there⟩
  · obtain ⟨e, failed⟩ := (unmapped ⟨[⟨"a", by decide⟩, ⟨"..", by decide⟩]⟩).mpr (by decide)
    exact ⟨_, e, by decide, failed, refused _ e failed⟩

end Path

end Dfs
