import Dfs.Path.Basic
import Mathlib.Data.List.Induction
import Mathlib.Data.List.Infix

/-!
Cutting a list at a separator; paths that lead to others; and paths that are read
back from their texts.
-/

namespace Dfs

section Cutting

variable {α : Type} [DecidableEq α] {sep : α}

@[simp] theorem splitAt_nil : splitAt sep [] = [[]] := rfl

@[simp] theorem splitAt_cons_self (xs : List α) :
    splitAt sep (sep :: xs) = [] :: splitAt sep xs := by
  simp [splitAt]

theorem splitAt_ne_nil (xs : List α) : splitAt sep xs ≠ [] := by
  cases xs with
  | nil => simp
  | cons x xs =>
      unfold splitAt
      split
      · simp
      · split <;> simp

theorem splitAt_cons_of_ne {x : α} (other : x ≠ sep) {xs piece : List α} {pieces : List (List α)}
    (cut : splitAt sep xs = piece :: pieces) :
    splitAt sep (x :: xs) = (x :: piece) :: pieces := by
  simp [splitAt, other, cut]

theorem splitAt_of_not_mem {xs : List α} (absent : sep ∉ xs) : splitAt sep xs = [xs] := by
  induction xs with
  | nil => rfl
  | cons x xs ih =>
      rw [List.mem_cons, not_or] at absent
      exact splitAt_cons_of_ne (Ne.symm absent.1) (ih absent.2)

/-- A separator cuts a list in two, whatever other cuts there are. -/
theorem splitAt_append (xs ys : List α) :
    splitAt sep (xs ++ sep :: ys) = splitAt sep xs ++ splitAt sep ys := by
  induction xs with
  | nil => simp
  | cons x xs ih =>
      rw [List.cons_append]
      by_cases here : x = sep
      · subst here
        rw [splitAt_cons_self, splitAt_cons_self, ih, List.cons_append]
      · cases cut : splitAt sep xs with
        | nil => exact absurd cut (splitAt_ne_nil xs)
        | cons piece pieces =>
            rw [cut, List.cons_append] at ih
            rw [splitAt_cons_of_ne here ih, splitAt_cons_of_ne here cut, List.cons_append]

theorem splitAt_eq_splitOn (xs : List α) : splitAt sep xs = xs.splitOn sep := by
  induction xs with
  | nil => rfl
  | cons x xs ih =>
      rw [List.splitOn_cons_eq_if_modifyHead, ← ih]
      by_cases here : x = sep
      · simp [here]
      · cases cut : splitAt sep xs with
        | nil => exact absurd cut (splitAt_ne_nil xs)
        | cons piece pieces => simp [here, splitAt_cons_of_ne here cut]

/-- What is in a piece is in the list, and is no separator. -/
theorem mem_of_mem_splitAt {x : α} {xs piece : List α} (cut : piece ∈ splitAt sep xs)
    (mem : x ∈ piece) : x ∈ xs ∧ x ≠ sep := by
  induction xs generalizing piece with
  | nil =>
      obtain rfl := List.mem_singleton.mp cut
      exact absurd mem List.not_mem_nil
  | cons y ys ih =>
      have later : ∀ {piece}, piece ∈ splitAt sep ys → x ∈ piece → x ∈ y :: ys ∧ x ≠ sep :=
        fun cut mem => (ih cut mem).imp_left (List.mem_cons_of_mem y)
      by_cases here : y = sep
      · subst here
        rw [splitAt_cons_self, List.mem_cons] at cut
        rcases cut with rfl | cut
        · exact absurd mem List.not_mem_nil
        · exact later cut mem
      · cases rest : splitAt sep ys with
        | nil => exact absurd rest (splitAt_ne_nil ys)
        | cons first pieces =>
            rw [rest] at later
            rw [splitAt_cons_of_ne here rest, List.mem_cons] at cut
            rcases cut with rfl | cut
            · rcases List.mem_cons.mp mem with rfl | mem
              · exact ⟨List.mem_cons_self, here⟩
              · exact later List.mem_cons_self mem
            · exact later (List.mem_cons_of_mem first cut) mem

/-- Pieces with a separator before each of them. -/
theorem splitAt_flatMap {β : Type} {piece : β → List α} {bs : List β}
    (absent : ∀ b ∈ bs, sep ∉ piece b) :
    splitAt sep (bs.flatMap fun b => sep :: piece b) = [] :: bs.map piece := by
  induction bs using List.reverseRecOn with
  | nil => rfl
  | append_singleton bs b ih =>
      have before := ih fun c mem => absent c (List.mem_append_left _ mem)
      have last := splitAt_of_not_mem (absent b (by simp))
      simp [splitAt_append, before, last]

end Cutting

namespace Name

theorem isValid_iff {text : List Char} :
    isValid text = true ↔ text ≠ [] ∧ separator ∉ text ∧ delimiter ∉ text := by
  simp only [isValid, Bool.and_eq_true, Bool.not_eq_true', List.isEmpty_eq_false_iff,
    List.all_eq_true, bne_iff_ne, ne_eq]
  constructor
  · rintro ⟨nonempty, free⟩
    exact ⟨nonempty, fun mem => (free _ mem).1 rfl, fun mem => (free _ mem).2 rfl⟩
  · rintro ⟨nonempty, noSeparator, noDelimiter⟩
    refine ⟨nonempty, fun c mem => ⟨?_, ?_⟩⟩
    · rintro rfl
      exact noSeparator mem
    · rintro rfl
      exact noDelimiter mem

theorem toList_ne_nil (n : Name) : n.text.toList ≠ [] := (isValid_iff.mp n.valid).1

theorem separator_not_mem (n : Name) : separator ∉ n.text.toList := (isValid_iff.mp n.valid).2.1

theorem delimiter_not_mem (n : Name) : delimiter ∉ n.text.toList := (isValid_iff.mp n.valid).2.2

@[simp] theorem ofString?_text (n : Name) : ofString? n.text = some n :=
  ofString?_eq_some_iff.mpr rfl

end Name

namespace Path

/-! ### Paths that lead to others -/

@[ext] theorem ext_components {p q : Path} (h : p.components = q.components) : p = q := by
  cases p; cases q; cases h; rfl

theorem isUnder_iff {p a : Path} : p.isUnder a = true ↔ a.components <+: p.components := by
  simp [isUnder]

theorem isUnder_refl (p : Path) : p.isUnder p = true := by
  simp [isUnder_iff]

theorem isUnder_trans {p q r : Path} (hpq : p.isUnder q = true) (hqr : q.isUnder r = true) :
    p.isUnder r = true := by
  rw [isUnder_iff] at *
  exact hqr.trans hpq

theorem isUnder_antisymm {p q : Path} (hpq : p.isUnder q = true) (hqp : q.isUnder p = true) :
    p = q := by
  rw [isUnder_iff] at *
  exact ext_components (hqp.eq_of_length_le hpq.length_le)

theorem isRoot_iff {p : Path} : p.isRoot = true ↔ p.components = [] := by
  simp [isRoot]

theorem parent_eq_ok_iff {p q : Path} :
    p.parent = .ok q ↔ p.isRoot = false ∧ q.components = p.components.dropLast := by
  obtain ⟨names⟩ := p
  obtain ⟨front⟩ := q
  cases names with
  | nil => simp [parent, isRoot]
  | cons n names => simp [parent, isRoot, eq_comm]

/-- The parent is the last stop on the way to a path. -/
theorem isUnder_parent_iff {p q r : Path} (parent : p.parent = .ok q) :
    q.isUnder r = true ↔ p.isUnder r = true ∧ r ≠ p := by
  obtain ⟨notRoot, front⟩ := parent_eq_ok_iff.mp parent
  have ne : p.components ≠ [] := by simpa [isRoot] using notRoot
  rw [isUnder_iff, isUnder_iff, front]
  constructor
  · intro lead
    refine ⟨lead.trans (List.dropLast_prefix _), ?_⟩
    rintro rfl
    have short := lead.length_le
    have long := List.length_pos_iff.mpr ne
    rw [List.length_dropLast] at short
    omega
  · rintro ⟨lead, other⟩
    have short : r.components.length < p.components.length := by
      refine Nat.lt_of_le_of_ne lead.length_le fun same => other ?_
      exact ext_components (lead.eq_of_length same)
    apply List.prefix_of_prefix_length_le lead (List.dropLast_prefix _)
    rw [List.length_dropLast]
    omega

/-- A component is added exactly if its text is a name. -/
theorem join_eq_ok_iff {p q : Path} {text : String} :
    p.join text = .ok q ↔ ∃ n : Name, n.text = text ∧ q = p.child n := by
  simp only [← Name.ofString?_eq_some_iff]
  unfold join
  cases Name.ofString? text <;> simp [eq_comm]

/-- A path that is not the root is an entry of a directory. -/
theorem exists_eq_child {p : Path} (notRoot : p.isRoot = false) :
    ∃ (d : Path) (n : Name), p = d.child n := by
  obtain ⟨names⟩ := p
  rcases List.eq_nil_or_concat' names with rfl | ⟨front, n, rfl⟩
  · cases notRoot
  · exact ⟨⟨front⟩, n, rfl⟩

theorem isRoot_child (d : Path) (n : Name) : (d.child n).isRoot = false := by
  simp [child, isRoot]

theorem parent_child (d : Path) (n : Name) : (d.child n).parent = .ok d :=
  parent_eq_ok_iff.mpr ⟨isRoot_child d n, by simp [child]⟩

theorem exists_eq_child_of_parent {p d : Path} (up : p.parent = .ok d) : ∃ n, p = d.child n := by
  obtain ⟨d', n, rfl⟩ := exists_eq_child (parent_eq_ok_iff.mp up).1
  obtain rfl := Except.ok.inj ((parent_child d' n).symm.trans up)
  exact ⟨n, rfl⟩

/-! ### Texts -/

theorem chars_of_ne_root {p : Path} (ne : p.components ≠ []) :
    p.chars = p.components.flatMap fun n => separator :: n.text.toList := by
  unfold chars
  split
  · next root => exact absurd root ne
  · next names => rfl

/-- A path is read back from its text. -/
theorem parse_text (p : Path) : parse p.text = .ok p := by
  by_cases root : p.components = []
  · obtain ⟨names⟩ := p
    subst root
    rfl
  have shown := chars_of_ne_root root
  have begins : p.chars.head? = some separator := by
    rw [shown]
    cases names : p.components with
    | nil => exact absurd names root
    | cons n names => rfl
  have plain : delimiter ∉ p.chars := by
    rw [shown, List.mem_flatMap]
    rintro ⟨n, -, mem⟩
    rcases List.mem_cons.mp mem with same | mem
    · exact absurd same (by decide)
    · exact n.delimiter_not_mem mem
  have pieces : (splitAt separator p.chars).filterMap
      (fun piece => Name.ofString? (String.ofList piece)) = p.components := by
    have named : (fun piece => Name.ofString? (String.ofList piece)) ∘
        (fun n : Name => n.text.toList) = some := by
      funext n
      simp
    rw [shown, splitAt_flatMap fun n _ => n.separator_not_mem, List.filterMap_cons_none rfl,
      List.filterMap_map, named, List.filterMap_some]
  unfold parse text
  rw [String.toList_ofList, begins, if_neg (by simp), if_neg plain, pieces]

end Path

end Dfs
