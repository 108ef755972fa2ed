import Dfs.Disk.Basic
import Dfs.Proofs.Except
import Dfs.Proofs.Path
import Dfs.Proofs.Text.Utf8

/-!
Host paths below a root: which names a host follows for them (`steps_below`), and when
it accepts them (`check_below`). The place of a path of the namespace is the list of
the bytes of its names.
-/

namespace Dfs

/-! ### Names -/

namespace HostName

/-- A name that stands between two slashes. -/
structure IsPiece (name : HostName) : Prop where
  nonempty : name ≠ []
  noSlash : HostPath.slash ∉ name

/-- A name that an entry of a directory can have. -/
structure IsValid (name : HostName) : Prop extends IsPiece name where
  noNul : 0 ∉ name
  notDot : name ≠ HostPath.dot
  notDotDot : name ≠ HostPath.dotDot
  short : name.length ≤ HostPath.maxName

instance (name : HostName) : Decidable name.IsPiece :=
  decidable_of_iff (name ≠ [] ∧ HostPath.slash ∉ name)
    ⟨fun h => ⟨h.1, h.2⟩, fun h => ⟨h.nonempty, h.noSlash⟩⟩

instance (name : HostName) : Decidable name.IsValid :=
  decidable_of_iff (name.IsPiece ∧ 0 ∉ name ∧ name ≠ HostPath.dot ∧ name ≠ HostPath.dotDot ∧
      name.length ≤ HostPath.maxName)
    ⟨fun h => { h.1 with noNul := h.2.1, notDot := h.2.2.1, notDotDot := h.2.2.2.1, short := h.2.2.2.2 },
      fun h => ⟨h.toIsPiece, h.noNul, h.notDot, h.notDotDot, h.short⟩⟩

end HostName

theorem Name.isPiece_encode (n : Name) : HostName.IsPiece (Utf8.encode n.text) where
  nonempty := by
    rw [ne_eq, Utf8.encode_eq_nil_iff]
    intro none
    exact n.toList_ne_nil (by simp [none])
  noSlash := by
    have byte : HostPath.slash = separator.val.toUInt8 := rfl
    rw [byte, Utf8.mem_encode_iff (by decide)]
    exact n.separator_not_mem

theorem Name.isDots_eq_false_iff {n : Name} : n.isDots = false ↔
    Utf8.encode n.text ≠ HostPath.dot ∧ Utf8.encode n.text ≠ HostPath.dotDot := by
  have one : HostPath.dot = Utf8.encode "." := by decide
  have two : HostPath.dotDot = Utf8.encode ".." := by decide
  rw [one, two, Utf8.encode_injective.ne_iff, Utf8.encode_injective.ne_iff]
  simp [isDots]

namespace Path

/-- The names that lead to a path on a disk, from the root of a node. -/
def place (p : Path) : Place := p.components.map fun n => Utf8.encode n.text

theorem encode_text_injective : Function.Injective fun n : Name => Utf8.encode n.text := by
  intro n m bytes
  exact Name.ext_text (Utf8.encode_injective bytes)

theorem place_injective : Function.Injective place := by
  intro p q same
  exact ext_components (List.map_injective_iff.mpr encode_text_injective same)

theorem place_prefix_iff {p q : Path} : q.place <+: p.place ↔ p.isUnder q = true := by
  rw [isUnder_iff]
  exact List.prefix_map_iff_of_injective encode_text_injective

theorem place_child (d : Path) (n : Name) : (d.child n).place = d.place ++ [Utf8.encode n.text] := by
  simp [place, child]

theorem place_eq_nil_iff {p : Path} : p.place = [] ↔ p.isRoot = true := by
  rw [isRoot_iff]
  exact List.map_eq_nil_iff

theorem isPiece_of_mem_place {p : Path} {name : HostName} (mem : name ∈ p.place) :
    name.IsPiece := by
  obtain ⟨n, -, rfl⟩ := List.mem_map.mp mem
  exact n.isPiece_encode

end Path

/-! ### Below a root -/

namespace HostPath

@[simp] theorem below_nil (root : HostPath) : root.below [] = root := rfl

theorem below_concat (root : HostPath) (names : Place) (name : HostName) :
    root.below (names ++ [name]) = (root.below names).push name := by
  simp [below]

/-- What stands between a root and a name below it: a slash, unless the root is empty or ends in
one. -/
def joint (h : HostPath) : List UInt8 :=
  if h.bytes = [] ∨ h.bytes.getLast? = some slash then [] else [slash]

theorem bytes_push (h : HostPath) (name : HostName) :
    (h.push name).bytes = h.bytes ++ h.joint ++ name := by
  unfold push joint
  split <;> simp

theorem eq_slash_of_mem_joint {h : HostPath} {b : UInt8} (mem : b ∈ h.joint) : b = slash := by
  unfold joint at mem
  split at mem
  · cases mem
  · exact List.mem_singleton.mp mem

end HostPath

theorem Path.toHost_eq_ok_iff {p : Path} {root h : HostPath} : p.toHost root = .ok h ↔
    (∀ name ∈ p.place, name ≠ HostPath.dot ∧ name ≠ HostPath.dotDot) ∧ h = root.below p.place := by
  have plain : (p.components.any Name.isDots = true) ↔
      ¬ ∀ name ∈ p.place, name ≠ HostPath.dot ∧ name ≠ HostPath.dotDot := by
    rw [← not_iff_not, not_not, Bool.not_eq_true, List.any_eq_false]
    simp only [Bool.not_eq_true, Name.isDots_eq_false_iff, place, List.mem_map]
    constructor
    · rintro plain name ⟨n, mem, rfl⟩
      exact plain n mem
    · intro plain n mem
      exact plain _ ⟨n, mem, rfl⟩
  have pushed : p.components.foldl (fun h n => h.push (Utf8.encode n.text)) root =
      root.below p.place := by
    simp [HostPath.below, place, List.foldl_map]
  unfold toHost
  split
  · next dots =>
      rw [plain] at dots
      simp [dots]
  · next noDots =>
      rw [plain, not_not] at noDots
      rw [pushed, Except.ok.injEq]
      constructor
      · rintro rfl
        exact ⟨noDots, rfl⟩
      · rintro ⟨-, rfl⟩
        rfl

namespace HostPath

/-- The names between the slashes of a path. -/
def parts (h : HostPath) : List HostName := (splitAt slash h.bytes).filter (· ≠ [])

theorem steps_eq (h : HostPath) : h.steps = h.parts ∨ h.steps = h.parts ++ [dot] := by
  unfold steps parts
  dsimp only
  split
  · exact .inr rfl
  · exact .inl rfl

theorem splitAt_piece {name : HostName} (piece : name.IsPiece) :
    (splitAt slash name).filter (· ≠ []) = [name] := by
  rw [splitAt_of_not_mem piece.noSlash]
  simp [piece.nonempty]

theorem parts_push {name : HostName} (piece : name.IsPiece) (h : HostPath) :
    (h.push name).parts = h.parts ++ [name] := by
  unfold push parts
  split
  · next joint =>
      rcases joint with none | slashed
      · rw [none, List.nil_append, splitAt_piece piece]
        rfl
      · have whole : h.bytes = h.bytes.dropLast ++ [slash] := by
          have last := List.dropLast_append_getLast? slash slashed
          exact last.symm
        dsimp only
        rw [whole, List.append_assoc, List.singleton_append, splitAt_append, splitAt_append,
          List.filter_append, List.filter_append, splitAt_piece piece]
        simp
  · rw [splitAt_append, List.filter_append, splitAt_piece piece]

theorem parts_below {names : Place} (pieces : ∀ name ∈ names, HostName.IsPiece name)
    (root : HostPath) : (root.below names).parts = root.parts ++ names := by
  induction names using List.reverseRecOn with
  | nil => simp
  | append_singleton names name ih =>
      have before := ih fun n mem => pieces n (List.mem_append_left _ mem)
      rw [below_concat, parts_push (pieces name (by simp)), before, List.append_assoc]

theorem getLast?_push {name : HostName} (piece : name.IsPiece) (h : HostPath) :
    (h.push name).bytes.getLast? ≠ some slash := by
  rw [bytes_push, List.getLast?_append_of_ne_nil _ piece.nonempty]
  intro slashed
  exact piece.noSlash (List.mem_of_getLast? slashed)

/-- The names that a host follows for names below a root: first those of the root. -/
theorem steps_below {names : Place} (pieces : ∀ name ∈ names, HostName.IsPiece name)
    (nonempty : names ≠ []) (root : HostPath) :
    (root.below names).steps = root.parts ++ names := by
  obtain ⟨front, name, rfl⟩ := List.eq_nil_or_concat' names |>.resolve_left nonempty
  have noSlash := getLast?_push (pieces name (by simp)) (root.below front)
  have parts := parts_below pieces root
  unfold steps
  dsimp only
  rw [if_neg]
  · exact parts
  · rintro ⟨slashed, -⟩
    rw [below_concat] at slashed
    exact noSlash slashed

/-! ### What a host accepts -/

theorem check_eq_ok_iff {h : HostPath} : h.check = .ok () ↔
    0 ∉ h.bytes ∧ h.bytes ≠ [] ∧ h.bytes.length ≤ maxLength := by
  unfold check
  split
  · next nul => simp [nul]
  next noNul =>
  split
  · next none => simp [none]
  next nonempty =>
  split
  · next long => simp [long]
  · next short => simp [noNul, nonempty, Nat.le_of_not_lt short]

/-- What a host refuses at once is not reported as missing. -/
theorem isMissing_of_check {h : HostPath} {fault : Fault} (ne : h.bytes ≠ [])
    (refused : h.check = .error fault) : fault.isMissing = false := by
  unfold check at refused
  rw [if_neg ne] at refused
  split at refused
  · cases refused
    rfl
  · split at refused <;> cases refused
    rfl

theorem mem_push_iff {h : HostPath} {name : HostName} {b : UInt8} (other : b ≠ slash) :
    b ∈ (h.push name).bytes ↔ b ∈ h.bytes ∨ b ∈ name := by
  have apart : b ∉ h.joint := fun mem => other (eq_slash_of_mem_joint mem)
  simp [bytes_push, apart]

theorem mem_below_iff {root : HostPath} {names : Place} {b : UInt8} (other : b ≠ slash) :
    b ∈ (root.below names).bytes ↔ b ∈ root.bytes ∨ ∃ name ∈ names, b ∈ name := by
  induction names using List.reverseRecOn with
  | nil => simp
  | append_singleton names name ih =>
      rw [below_concat, mem_push_iff other, ih]
      simp [or_and_right, exists_or, or_assoc]

theorem bytes_prefix_push (h : HostPath) (name : HostName) : h.bytes <+: (h.push name).bytes := by
  rw [bytes_push, List.append_assoc]
  exact List.prefix_append _ _

theorem bytes_prefix_below (root : HostPath) (names : Place) :
    root.bytes <+: (root.below names).bytes := by
  induction names using List.reverseRecOn with
  | nil => simp
  | append_singleton names name ih =>
      rw [below_concat]
      exact ih.trans (bytes_prefix_push _ name)

/-- A path has room for all the names below its root. -/
theorem length_flatten_le (root : HostPath) (names : Place) :
    names.flatten.length ≤ (root.below names).bytes.length := by
  induction names using List.reverseRecOn with
  | nil => simp
  | append_singleton names name ih =>
      rw [below_concat, bytes_push, List.flatten_append, List.flatten_singleton]
      simp only [List.length_append]
      omega

/-- Every name takes at least one byte. -/
theorem length_le_length_flatten {names : Place} (pieces : ∀ name ∈ names, HostName.IsPiece name) :
    names.length ≤ names.flatten.length := by
  induction names with
  | nil => simp
  | cons name names ih =>
      have shorter := ih fun n mem => pieces n (List.mem_cons_of_mem _ mem)
      have nonempty := List.length_pos_iff.mpr (pieces name List.mem_cons_self).nonempty
      rw [List.length_cons, List.flatten_cons, List.length_append]
      omega

theorem length_le_length_below {names : Place} (pieces : ∀ name ∈ names, HostName.IsPiece name)
    (root : HostPath) : names.length ≤ (root.below names).bytes.length :=
  (length_le_length_flatten pieces).trans (length_flatten_le root names)

/-- What leads to a path is no longer than the path. -/
theorem length_below_le {root : HostPath} {names names' : Place} (lead : names <+: names') :
    (root.below names).bytes.length ≤ (root.below names').bytes.length := by
  obtain ⟨rest, rfl⟩ := lead
  have whole : root.below (names ++ rest) = (root.below names).below rest := by
    simp [below]
  rw [whole]
  exact (bytes_prefix_below _ rest).length_le

end HostPath

end Dfs
