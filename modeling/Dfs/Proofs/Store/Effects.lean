import Dfs.Proofs.Store.Creation

/-!
What the requests of the naming service do to the disk of a storage node, exactly: when a file
is created and what is new then (`CreateExact`), when something is deleted and what is left
then (`DeleteExact`). Both hold below every root that is there (`command_exact`).

A deletion that answers `true` leaves a directory behind, empty, if the path of the root leads
through what was in it (`delete_incomplete`).
-/

namespace Dfs.Store

open Disk

variable {st : Store} {place : Place} {p : Path}

/-! ### Creating a file -/

/-- What creating a file answers, and what it leaves. -/
structure CreateExact (st : Store) (place : Place) (p : Path) (result : Bool × Store) : Prop where
  created : result.1 = true ↔ p.isRoot = false ∧ NoDots p.place ∧
    st.disk.kindAt? (place ++ p.place) = none ∧
    ∀ xs, xs <+: p.place → xs ≠ p.place → st.disk.leafAt? (place ++ xs) = none
  changed : result.1 = true → Created st.disk (place ++ p.place) result.2.disk
  refused : result.1 = false → result.2 = st
  outside : SameOutside [place] st.disk result.2.disk
  root : result.2.root = st.root

/-- What is made below the root is outside of nothing. -/
theorem Created.outside {disk : Disk} (rooted : st.disk.Rooted st.root place)
    (notRoot : p.isRoot = false) (created : Created st.disk (place ++ p.place) disk) :
    SameOutside [place] st.disk disk := by
  intro js outside
  have notFile : js ≠ place ++ p.place := by
    rintro rfl
    refine outside place (by simp) ⟨List.prefix_append _ _, ?_⟩
    simp [Path.place_eq_nil_iff, notRoot]
  rw [created js, if_neg notFile]
  split
  · next above =>
      -- A directory on the way is one below the root, or one that leads to it.
      rcases List.prefix_or_prefix_of_prefix above (List.prefix_append place p.place) with
        lead | below
      · by_cases same : js = place
        · rw [same, rooted.kindAt?_place]
        · exact (kindAt?_of_isPrefix lead same (by simp [rooted.kindAt?_place])).symm
      · by_cases same : place = js
        · rw [← same, rooted.kindAt?_place]
        · exact absurd ⟨below, same⟩ (outside place (by simp))
  · rfl

section Names

variable (rooted : st.disk.Rooted st.root place)
  (names : ∀ name ∈ p.place, name ≠ HostPath.dot → name ≠ HostPath.dotDot → HostName.IsValid name)
  (fits : st.root.Fits p.place)

include names fits

/-- Of names that the host accepts, only what is on the disk matters. -/
theorem creatable_iff : st.Creatable place p ↔ p.isRoot = false ∧ NoDots p.place ∧
    st.disk.kindAt? (place ++ p.place) = none ∧
    ∀ xs, xs <+: p.place → xs ≠ p.place → st.disk.leafAt? (place ++ xs) = none := by
  constructor
  · intro creatable
    exact ⟨creatable.notRoot, creatable.room.taken.noDots, creatable.absent,
      fun xs lead _ => creatable.room.clear xs lead⟩
  · rintro ⟨notRoot, noDots, absent, clear⟩
    have valid : ∀ name ∈ p.place, HostName.IsValid name := fun name mem =>
      names name mem (noDots name mem).1 (noDots name mem).2
    refine ⟨notRoot, ⟨valid, fits, fun xs lead => ?_⟩, absent⟩
    by_cases whole : xs = p.place
    · rw [whole, leafAt?, absent]
      rfl
    · exact clear xs lead whole

include rooted

theorem createExact : CreateExact st place p (st.create p) := by
  have outcome := creation rooted p
  have may : st.Creatable place p ↔ _ := creatable_iff names fits
  generalize st.create p = result at outcome ⊢
  cases outcome with
  | refused notCreatable =>
      rw [may] at notCreatable
      exact ⟨iff_of_false (by simp) notCreatable, by simp, fun _ => rfl, .refl _ _, rfl⟩
  | made disk creatable created =>
      exact ⟨iff_of_true rfl (may.mp creatable), fun _ => created, by simp,
        created.outside rooted creatable.notRoot, rfl⟩
  | stopped disk long paved =>
      -- No name is too long, be it one with dots.
      obtain ⟨name, mem, long⟩ := long
      have short : name.length ≤ HostPath.maxName := by
        by_cases dot : name = HostPath.dot
        · rw [dot]
          decide
        by_cases dotDot : name = HostPath.dotDot
        · rw [dotDot]
          decide
        exact (names name mem dot dotDot).short
      exact absurd long (Nat.not_lt.mpr short)

end Names

/-! ### Deleting -/

/-- What deleting answers, and what it leaves. -/
structure DeleteExact (st : Store) (place : Place) (p : Path) (result : Bool × Store) : Prop where
  deleted : result.1 = true ↔ p.isRoot = false ∧ NoDots p.place ∧
    st.disk.kindAt? (place ++ p.place) ≠ none
  below : result.1 = true → ∀ js, Inside (place ++ p.place) js → result.2.disk.kindAt? js = none
  itself : result.1 = true → result.2.disk.kindAt? (place ++ p.place) =
    if st.RunsThrough (place ++ p.place) then some .dir else none
  elsewhere : ∀ js, ¬ place ++ p.place <+: js → result.2.disk.kindAt? js = st.disk.kindAt? js
  refused : result.1 = false → result.2 = st
  outside : SameOutside [place] st.disk result.2.disk
  root : result.2.root = st.root

theorem kindAt?_leftover {q : Place} (nonempty : q ≠ []) (js : Place) :
    (st.leftover q).kindAt? js = if Inside q js then none
      else if js = q then (if st.RunsThrough q then some .dir else none)
      else st.disk.kindAt? js := by
  unfold leftover
  by_cases through : st.RunsThrough q
  · rw [if_pos through, if_pos through, kindAt?_emptied nonempty through.1]
    by_cases same : js = q
    · simp [same, Inside, through.1]
    · simp [same]
  · rw [if_neg through, if_neg through, kindAt?_erase nonempty]
    by_cases same : js = q
    · simp [same, Inside]
    · simp [same, Inside, Ne.symm same]

/-- What is left of a deletion below the root is outside of nothing. -/
theorem leftover_outside (nonempty : p.place ≠ []) :
    SameOutside [place] st.disk (st.leftover (place ++ p.place)) := by
  intro js outside
  -- Neither the place that is deleted nor one below it is the place of the root.
  have apart : ¬ place ++ p.place <+: js := by
    intro below
    refine outside place (by simp) ⟨(List.prefix_append _ _).trans below, ?_⟩
    rintro rfl
    have short := below.length_le
    have long := List.length_pos_iff.mpr nonempty
    rw [List.length_append] at short
    omega
  rw [kindAt?_leftover (by simp [nonempty]), if_neg fun inside : Inside _ js => apart inside.1,
    if_neg]
  rintro rfl
  exact apart (List.prefix_refl _)

theorem deleteExact (rooted : st.disk.Rooted st.root place) (fits : st.root.Fits p.place) :
    DeleteExact st place p (st.delete p) := by
  by_cases may : p.isRoot = false ∧ st.disk.kindAt? (place ++ p.place) ≠ none
  · obtain ⟨notRoot, there⟩ := may
    have nonempty : p.place ≠ [] := by
      rw [ne_eq, Path.place_eq_nil_iff, notRoot]
      simp
    have noDots : NoDots p.place := (Path.toHost_eq_ok_iff.mp (toHost_of_there rooted there)).1
    have kinds : ∀ js, (st.leftover (place ++ p.place)).kindAt? js = _ :=
      kindAt?_leftover (by simp [nonempty])
    rw [delete_eq rooted notRoot there fits]
    constructor
    · simp [notRoot, noDots, there]
    · intro _ js inside
      exact (kinds js).trans (if_pos inside)
    · intro _
      rw [kinds, if_neg (by simp [Inside]), if_pos rfl]
    · intro js apart
      rw [kinds, if_neg fun inside : Inside _ js => apart inside.1, if_neg]
      rintro rfl
      exact apart (List.prefix_refl _)
    · simp
    · exact leftover_outside nonempty
    · rfl
  · rcases delete_cases_of_rooted rooted p with same | ⟨notRoot, -, there, -⟩
    · rw [same]
      refine ⟨iff_of_false (by simp) ?_, by simp, by simp, fun _ _ => rfl, fun _ => rfl,
        .refl _ _, rfl⟩
      rintro ⟨notRoot, -, there⟩
      exact may ⟨notRoot, there⟩
    · exact absurd ⟨notRoot, there⟩ may

/-! ### Both -/

/-- Below a root that is there, and for paths of which the host accepts the names, creating and
deleting do what they are asked for, exactly; but a directory through which the path of the
root leads is not deleted itself. -/
theorem command_exact (rooted : st.disk.Rooted st.root place)
    (names : ∀ name ∈ p.place, name ≠ HostPath.dot → name ≠ HostPath.dotDot → HostName.IsValid name)
    (fits : st.root.Fits p.place) :
    CreateExact st place p (st.create p) ∧ DeleteExact st place p (st.delete p) :=
  ⟨createExact rooted names fits, deleteExact rooted fits⟩

/-- A directory of a node with the directory `d`, which holds the file `f`. -/
def nested : Store :=
  ⟨⟨[0x68]⟩, { top := [([0x68], .dir [([0x64], .dir [([0x66], .leaf (.file .empty))])])] }⟩

/-- Beside a file another one can be created, and a path at which nothing is cannot be
deleted. -/
theorem command_exact_nested : ∃ (place : Place) (p : Path), nested.disk.Rooted nested.root place ∧
    (∀ name ∈ p.place, name ≠ HostPath.dot → name ≠ HostPath.dotDot → HostName.IsValid name) ∧
    nested.root.Fits p.place ∧ (nested.create p).1 = true ∧ (nested.delete p).1 = false := by
  have rooted : nested.disk.Rooted nested.root [[0x68]] :=
    ⟨Plain.of_places rfl (by decide) (by decide), _, rfl⟩
  have names : ∀ name ∈ Path.place ⟨[⟨"d", by decide⟩, ⟨"g", by decide⟩]⟩,
      name ≠ HostPath.dot → name ≠ HostPath.dotDot → HostName.IsValid name := by decide
  have fits : nested.root.Fits (Path.place ⟨[⟨"d", by decide⟩, ⟨"g", by decide⟩]⟩) := by decide
  obtain ⟨creates, deletes⟩ := command_exact rooted names fits
  refine ⟨_, _, rooted, names, fits, creates.created.mpr ⟨rfl, ?_, rfl, ?_⟩, ?_⟩
  · unfold NoDots
    decide
  · have clear : ∀ xs ∈ (Path.place ⟨[⟨"d", by decide⟩, ⟨"g", by decide⟩]⟩).inits,
        nested.disk.leafAt? ([[0x68]] ++ xs) = none := by decide
    exact fun xs lead _ => clear xs ((List.mem_inits _ _).mpr lead)
  · rw [← Bool.not_eq_true, deletes.deleted]
    rintro ⟨-, -, there⟩
    exact there rfl

/-- The directory `y` with the empty directory `z`, under a root whose path leads through both
and back. -/
def detour : Store :=
  ⟨⟨[0x79, 0x2F, 0x7A, 0x2F, 0x2E, 0x2E, 0x2F, 0x2E, 0x2E]⟩,
    { top := [([0x79], .dir [([0x7A], .dir [])])] }⟩

/-- The path of the directory `y`. -/
def pathY : Path := ⟨[⟨"y", by decide⟩]⟩

/-- The directory `y` is deleted, by the answer, and is still there: no file can be created in its
place. -/
theorem delete_incomplete : detour.disk.Rooted detour.root [] ∧
    (∀ name ∈ pathY.place, HostName.IsValid name) ∧ detour.root.Fits pathY.place ∧
    (detour.delete pathY).1 = true ∧
    (detour.delete pathY).2.disk.kindAt? pathY.place = some .dir ∧
    ((detour.delete pathY).2.create pathY).1 = false := by
  have rooted : detour.disk.Rooted detour.root [] :=
    ⟨Plain.of_places rfl (by decide) (by decide), _, rfl⟩
  exact ⟨rooted, by decide, by decide, rfl, rfl, by decide +kernel⟩

end Dfs.Store
