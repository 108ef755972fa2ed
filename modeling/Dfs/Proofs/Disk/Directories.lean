import Dfs.Proofs.Disk.Changes
import Mathlib.Data.List.TakeWhile

/-!
Making the directories that lead to a new file. Whatever the disk, nothing but directories
is new (`Disk.furnished_makeDirectories`). Below a root that is there, the climb ends at
the latest at the root; so directories are made only below it
(`Disk.Rooted.keepsFiles_makeDirectories`).
-/

namespace Dfs

namespace HostPath

/-- The path without the slashes at its end; the top stays. -/
def stripped (h : HostPath) : HostPath :=
  let front := h.bytes.reverse.dropWhile (· == slash)
  if front = [] ∧ h.bytes.head? = some slash then ⟨[slash]⟩ else ⟨front.reverse⟩

theorem dropWhile_of_noSlash {bytes : List UInt8} (noSlash : slash ∉ bytes) (rest : List UInt8) :
    (bytes ++ rest).dropWhile (· != slash) = rest.dropWhile (· != slash) := by
  apply List.dropWhile_append_of_pos
  intro b mem
  rw [bne_iff_ne]
  rintro rfl
  exact noSlash mem

/-- What comes before the last name of a path. -/
theorem parent_push {name : HostName} (piece : name.IsPiece) {h : HostPath} (ne : h.bytes ≠ []) :
    (h.push name).parent = h.stripped := by
  have noSlash : slash ∉ name.reverse := fun mem => piece.noSlash (List.mem_reverse.mp mem)
  unfold push parent stripped
  split
  · next joint =>
      have slashed := joint.resolve_left ne
      have begins : ∃ rest, h.bytes.reverse = slash :: rest := by
        rw [← List.head?_reverse] at slashed
        exact List.head?_eq_some_iff.mp slashed
      obtain ⟨rest, reversed⟩ := begins
      dsimp only
      rw [List.reverse_append, dropWhile_of_noSlash noSlash, reversed,
        List.dropWhile_cons_of_neg (by simp), List.head?_append_of_ne_nil _ ne]
  · dsimp only
    rw [List.reverse_append, List.reverse_cons, List.append_assoc, dropWhile_of_noSlash noSlash,
      List.singleton_append, List.dropWhile_cons_of_neg (by simp),
      List.dropWhile_cons_of_pos (by simp), List.head?_append_of_ne_nil _ ne]

/-- A path is its stripped form with slashes at its end. -/
theorem exists_bytes_eq_stripped {h : HostPath} (ne : h.bytes ≠ []) :
    ∃ k, h.bytes = h.stripped.bytes ++ List.replicate k slash ∧
      (h.stripped.bytes = [slash] ∨
        h.stripped.bytes ≠ [] ∧ h.stripped.bytes.getLast? ≠ some slash) := by
  have whole := List.takeWhile_append_dropWhile (p := (· == slash)) (l := h.bytes.reverse)
  have slashes : h.bytes.reverse.takeWhile (· == slash) =
      List.replicate (h.bytes.reverse.takeWhile (· == slash)).length slash := by
    rw [List.eq_replicate_iff]
    exact ⟨rfl, fun b mem => by simpa using List.mem_takeWhile_imp mem⟩
  generalize (h.bytes.reverse.takeWhile (· == slash)).length = n at slashes
  rw [slashes] at whole
  have reversed := congrArg List.reverse whole
  rw [List.reverse_append, List.reverse_replicate, List.reverse_reverse] at reversed
  unfold stripped
  dsimp only
  split
  · next top =>
      rw [top.1, List.reverse_nil, List.nil_append] at reversed
      cases n with
      | zero => exact absurd reversed.symm ne
      | succ n => exact ⟨n, reversed.symm.trans List.replicate_succ, .inl rfl⟩
  · next notTop =>
      refine ⟨n, reversed.symm, .inr ⟨?_, ?_⟩⟩
      · intro none
        rw [List.reverse_eq_nil_iff] at none
        rw [none, List.reverse_nil, List.nil_append] at reversed
        cases n with
        | zero => exact ne reversed.symm
        | succ n => exact notTop ⟨none, by rw [← reversed]; rfl⟩
      · rw [List.getLast?_reverse]
        intro slashed
        have noSlash := List.head?_dropWhile_not (· == slash) h.bytes.reverse
        rw [slashed] at noSlash
        simp at noSlash

theorem stripped_of_getLast?_ne {h : HostPath} (ne : h.bytes ≠ [])
    (last : h.bytes.getLast? ≠ some slash) : h.stripped = h := by
  obtain ⟨k, whole, -⟩ := exists_bytes_eq_stripped ne
  cases k with
  | zero =>
      rw [List.replicate_zero, List.append_nil] at whole
      rw [HostPath.mk.injEq, whole]
  | succ k =>
      rw [whole, List.replicate_succ'] at last
      simp at last

theorem parts_append_slashes (bytes : List UInt8) (k : Nat) :
    parts ⟨bytes ++ List.replicate k slash⟩ = parts ⟨bytes⟩ := by
  induction k with
  | zero => simp
  | succ k ih =>
      rw [List.replicate_succ', ← List.append_assoc, ← ih]
      unfold parts
      rw [splitAt_append, splitAt_nil, List.filter_append]
      simp

theorem steps_stripped {h : HostPath} (ne : h.bytes ≠ []) : h.stripped.steps = h.parts := by
  obtain ⟨k, whole, last⟩ := exists_bytes_eq_stripped ne
  have same : h.parts = h.stripped.parts := by
    have cut := parts_append_slashes h.stripped.bytes k
    rwa [← whole] at cut
  rw [same]
  unfold steps
  dsimp only
  rw [if_neg]
  · rfl
  · rintro ⟨slashed, several⟩
    rcases last with top | ⟨-, noSlash⟩
    · exact several (by rw [top]; decide)
    · exact noSlash slashed

theorem check_stripped {h : HostPath} (checked : h.check = .ok ()) : h.stripped.check = .ok () := by
  obtain ⟨noNul, ne, short⟩ := check_eq_ok_iff.mp checked
  obtain ⟨k, whole, last⟩ := exists_bytes_eq_stripped ne
  rw [whole] at noNul short
  refine check_eq_ok_iff.mpr ⟨fun nul => noNul (List.mem_append_left _ nul), ?_, ?_⟩
  · rcases last with top | ⟨nonempty, -⟩
    · simp [top]
    · exact nonempty
  · rw [List.length_append] at short
    omega

/-! ### The path above -/

theorem parts_isPrefix (h : HostPath) : h.parts <+: h.steps := by
  rcases h.steps_eq with same | dotted
  · rw [same]
  · rw [dotted]
    exact List.prefix_append _ _

/-- The path above goes on to the last slash. -/
theorem parent_of_slash {h : HostPath} (slashed : slash ∈ h.bytes) :
    ∃ front last, h.bytes = front ++ slash :: last ∧ h.parent = stripped ⟨front ++ [slash]⟩ := by
  obtain ⟨last, front, reversed, noSlash⟩ :=
    List.eq_append_cons_of_mem (List.mem_reverse.mpr slashed)
  have whole : h.bytes = front.reverse ++ slash :: last.reverse := by
    rw [← List.reverse_reverse h.bytes, reversed]
    simp
  have head : h.bytes.head? = (front.reverse ++ [slash]).head? := by
    rw [whole]
    cases front.reverse <;> rfl
  refine ⟨front.reverse, last.reverse, whole, ?_⟩
  unfold parent stripped
  dsimp only
  rw [reversed, dropWhile_of_noSlash noSlash, List.dropWhile_cons_of_neg (by simp), head,
    List.reverse_append, List.reverse_reverse]
  rfl

theorem parent_of_noSlash {h : HostPath} (noSlash : slash ∉ h.bytes) : h.parent = ⟨[]⟩ := by
  have nothing : h.bytes.reverse.dropWhile (· != slash) = [] := by
    have all := dropWhile_of_noSlash (fun mem => noSlash (List.mem_reverse.mp mem)) []
    rwa [List.append_nil] at all
  have first : h.bytes.head? ≠ some slash := fun first => noSlash (List.mem_of_head? first)
  unfold parent
  rw [nothing]
  simp [first]

/-- The path above leads along the same names. -/
theorem steps_parent_isPrefix (h : HostPath) : h.parent.steps <+: h.parts := by
  by_cases slashed : slash ∈ h.bytes
  · obtain ⟨front, last, whole, above⟩ := parent_of_slash slashed
    rw [above, steps_stripped (by simp)]
    unfold parts
    rw [whole, splitAt_append, splitAt_append, splitAt_nil, List.filter_append, List.filter_append]
    simp
  · rw [parent_of_noSlash slashed]
    exact List.nil_prefix

section Below

variable {root : HostPath} (ne : root.bytes ≠ []) {front : List HostName} {name : HostName}

include ne

/-- The path above a name below a root is the root. -/
theorem parent_below_singleton (piece : name.IsPiece) :
    (root.below [name]).parent = root.stripped :=
  parent_push piece ne

/-- The path above several names below a root is that of one of them. -/
theorem parent_below_concat (relative : Relative (front ++ [name])) (several : front ≠ []) :
    Relative front ∧ (root.below (front ++ [name])).parent = root.below front := by
  have ne := bytes_below_ne_nil ne front
  obtain ⟨front, last, rfl⟩ := (List.eq_nil_or_concat' front).resolve_left several
  have noSlash := getLast?_push (relative.pieces last (by simp)) (root.below front)
  rw [← below_concat] at noSlash
  rw [below_concat _ (front ++ [last]), parent_push (relative.pieces name (by simp)) ne]
  refine ⟨⟨several, ?_, ?_⟩, stripped_of_getLast?_ne ne noSlash⟩
  · intro n mem
    exact relative.pieces n (List.mem_append_left _ mem)
  · intro n mem
    exact relative.noDots n (List.mem_append_left _ mem)

/-- The path above names below a root is that of one of them, or the root. -/
theorem parent_below {names : List HostName} (relative : Relative names) :
    (root.below names).parent = root.stripped ∨
      ∃ front, Relative front ∧ (root.below names).parent = root.below front := by
  obtain ⟨front, name, rfl⟩ := (List.eq_nil_or_concat' names).resolve_left relative.nonempty
  by_cases top : front = []
  · subst top
    exact .inl (parent_below_singleton ne (relative.pieces name (by simp)))
  · exact .inr ⟨front, parent_below_concat ne relative top⟩

end Below

end HostPath

namespace Disk

variable {d d' : Disk} {root : HostPath} {p : Place}

/-! ### On whatever disk -/

theorem furnished_makeDirectory {h : HostPath} (done : d.makeDirectory h = .ok d') :
    d.Furnished d' := by
  obtain ⟨dir, name, vacant, rfl⟩ := makeDirectory_eq_ok_iff.mp done
  obtain ⟨isDir, absent⟩ := kindAt?_of_resolve_vacant vacant
  intro js
  rw [kindAt?_set_vacant (.dir []) isDir absent fun _ _ => rfl]
  split
  · next same => exact .inr ⟨same ▸ absent, rfl⟩
  · exact .inl rfl

/-- What is left of the disk: nothing was made, or the directory itself, be it after those above
it. -/
inductive Making (d : Disk) (h : HostPath) : Nat → Disk → Prop where
  | nothing {above : Nat} : Making d h above d
  | itself {above : Nat} {d' : Disk} : d.makeDirectory h = .ok d' → Making d h above d'
  | above {above : Nat} : Making d h (above + 1) (makeDirectoriesWith above d h.parent).2
  | both {above : Nat} {d' : Disk} :
      (makeDirectoriesWith above d h.parent).2.makeDirectory h = .ok d' → Making d h (above + 1) d'

theorem making (above : Nat) (d : Disk) (h : HostPath) :
    Making d h above (makeDirectoriesWith above d h).2 := by
  unfold makeDirectoriesWith
  split
  · exact .nothing
  split
  · next done => exact .itself done
  split
  · cases above with
    | zero => exact .nothing
    | succ above =>
        have higher : Making d h (above + 1) (makeDirectoriesWith above d h.parent).2 := .above
        have both : ∀ d', (makeDirectoriesWith above d h.parent).2.makeDirectory h = .ok d' →
            Making d h (above + 1) d' := fun _ => .both
        dsimp only
        generalize makeDirectoriesWith above d h.parent = climbed at higher both ⊢
        obtain ⟨fault, e⟩ := climbed
        cases fault with
        | some fault => exact higher
        | none =>
            dsimp only
            split
            · next done => exact both _ done
            · split <;> exact higher
  · split <;> exact .nothing

/-- A relation that holds of one directory that is made, and of several steps if of each, holds
of all that are made on the way. -/
theorem makeDirectoriesWith_induction {R : Disk → Disk → Prop} (refl : ∀ d, R d d)
    (trans : ∀ {d d' d''}, R d d' → R d' d'' → R d d'')
    (step : ∀ {d d' h}, d.makeDirectory h = .ok d' → R d d') (above : Nat) (d : Disk)
    (h : HostPath) : R d (makeDirectoriesWith above d h).2 := by
  induction above using Nat.strong_induction_on generalizing d h with
  | _ above ih =>
      have made := making above d h
      generalize (makeDirectoriesWith above d h).2 = d' at made ⊢
      cases made with
      | nothing => exact refl d
      | itself done => exact step done
      | above => exact ih _ (Nat.lt_succ_self _) d h.parent
      | both done => exact trans (ih _ (Nat.lt_succ_self _) d h.parent) (step done)

theorem furnished_makeDirectoriesWith (above : Nat) (d : Disk) (h : HostPath) :
    d.Furnished (makeDirectoriesWith above d h).2 :=
  makeDirectoriesWith_induction .refl .trans furnished_makeDirectory above d h

theorem furnished_makeDirectories (d : Disk) (h : HostPath) :
    d.Furnished (d.makeDirectories h).2 :=
  furnished_makeDirectoriesWith _ d h

@[simp] theorem largest_makeDirectories (d : Disk) (h : HostPath) :
    (d.makeDirectories h).2.largest = d.largest := by
  refine makeDirectoriesWith_induction (R := fun d d' => d'.largest = d.largest) (fun _ => rfl)
    (fun first second => second.trans first) (fun done => ?_) _ d h
  obtain ⟨dir, name, -, rfl⟩ := makeDirectory_eq_ok_iff.mp done
  exact largest_set _ _ _

/-! ### Below a root -/

/-- The root is there, under whatever name. -/
theorem Rooted.makeDirectory_stripped (rooted : d.Rooted root p) :
    d.makeDirectory root.stripped = .error .entryExists ∧
      d.isDirectory root.stripped = true := by
  obtain ⟨entries, found⟩ := rooted.opens
  obtain ⟨checked, there⟩ := follow_parts found
  obtain ⟨q, node, there'⟩ := follow_false_of_found there
  have ne := (HostPath.check_eq_ok_iff.mp checked).2.1
  have resolved : ∀ last, d.resolve last root.stripped =
      d.follow last maxLinks [] root.parts := by
    intro last
    rw [resolve_of_check (HostPath.check_stripped checked), HostPath.steps_stripped ne]
  constructor
  · exact makeDirectory_of_found ((resolved false).trans there')
  · exact isDirectory_of_found ((resolved true).trans there)

theorem Rooted.makeDirectoriesWith_stripped (rooted : d.Rooted root p) (above : Nat) :
    makeDirectoriesWith above d root.stripped = (none, d) := by
  obtain ⟨there, isDir⟩ := rooted.makeDirectory_stripped
  unfold makeDirectoriesWith
  split
  · rfl
  · rw [there]
    simp [Fault.isMissing, Fault.entryExists, isDir]

/-- The directories that are made are below the root. -/
theorem Rooted.worked_makeDirectoriesWith (rooted : d.Rooted root p) {names : List HostName}
    (relative : HostPath.Relative names) (above : Nat) :
    Worked p d (makeDirectoriesWith above d (root.below names)).2 := by
  induction above using Nat.strong_induction_on generalizing names with
  | _ above ih =>
      have higher : ∀ k < above,
          Worked p d (makeDirectoriesWith k d (root.below names).parent).2 := by
        intro k fewer
        rcases HostPath.parent_below rooted.bytes_ne_nil relative with
          same | ⟨front, relative', same⟩
        · rw [same, rooted.makeDirectoriesWith_stripped]
          exact .refl p d
        · rw [same]
          exact ih k fewer relative'
      have made := making above d (root.below names)
      generalize (makeDirectoriesWith above d (root.below names)).2 = d' at made ⊢
      cases made with
      | nothing => exact .refl p d
      | itself done => exact rooted.worked_makeDirectory relative done
      | above => exact higher _ (Nat.lt_succ_self _)
      | both done =>
          have worked := higher _ (Nat.lt_succ_self _)
          have rooted' := rooted.worked worked (furnished_makeDirectoriesWith _ d _).within
          exact worked.trans (rooted'.worked_makeDirectory relative done)

/-- The node works on below the root after directories were made there. -/
theorem Rooted.of_makeDirectoriesWith (rooted : d.Rooted root p) {names : List HostName}
    (relative : HostPath.Relative names) {above : Nat} {fault : Option Fault}
    (climbed : makeDirectoriesWith above d (root.below names) = (fault, d')) :
    d'.Rooted root p ∧ ∀ js, d'.leafAt? js = d.leafAt? js := by
  have worked := rooted.worked_makeDirectoriesWith relative above
  have furnished := furnished_makeDirectoriesWith above d (root.below names)
  rw [climbed] at worked furnished
  exact ⟨rooted.worked worked furnished.within, furnished.leafAt?_eq⟩

/-- The directories that lead to names below the root. -/
theorem Rooted.keepsFiles_makeDirectories (rooted : d.Rooted root p) {names : List HostName}
    (relative : HostPath.Relative names) :
    KeepsFiles p d (d.makeDirectories (root.below names).parent).2 := by
  refine ⟨?_, (furnished_makeDirectories d _).leafAt?_eq⟩
  unfold makeDirectories
  rcases HostPath.parent_below rooted.bytes_ne_nil relative with same | ⟨front, relative', same⟩
  · rw [same, rooted.makeDirectoriesWith_stripped]
    exact .refl p d
  · rw [same]
    exact rooted.worked_makeDirectoriesWith relative' _

theorem Rooted.of_makeDirectories (rooted : d.Rooted root p) {names : List HostName}
    (relative : HostPath.Relative names) {fault : Option Fault}
    (climbed : d.makeDirectories (root.below names).parent = (fault, d')) :
    d'.Rooted root p ∧ ∀ js, d'.leafAt? js = d.leafAt? js := by
  have keeps := rooted.keepsFiles_makeDirectories relative
  have furnished := furnished_makeDirectories d (root.below names).parent
  rw [climbed] at keeps furnished
  exact ⟨rooted.worked keeps.toWorked furnished.within, furnished.leafAt?_eq⟩

end Disk

end Dfs
