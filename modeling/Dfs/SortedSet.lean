/-!
Finite sets kept as strictly increasing lists. Two sets with the same members
are then equal, and a set is written and walked in one order only.
-/

namespace Dfs

/-- The order `<` on `α` is a strict total order. -/
class StrictTotal (α : Type) [LT α] : Prop where
  irrefl : ∀ a : α, ¬ a < a
  trans : ∀ {a b c : α}, a < b → b < c → a < c
  connex : ∀ a b : α, a < b ∨ a = b ∨ b < a

/-! ### Orders of the types that are sorted -/

instance : StrictTotal Nat where
  irrefl := Nat.lt_irrefl
  trans := Nat.lt_trans
  connex := Nat.lt_trichotomy

instance : StrictTotal String where
  irrefl := String.lt_irrefl
  trans := String.lt_trans
  connex a b := by
    rcases Decidable.em (a < b) with h | h
    · exact .inl h
    · rcases Decidable.em (b < a) with h' | h'
      · exact .inr (.inr h')
      · exact .inr (.inl (String.le_antisymm (String.not_lt.mp h') (String.not_lt.mp h)))

/-- Lists are ordered by their first difference, and a list comes before its
extensions. -/
instance {α : Type} [LT α] [StrictTotal α] : StrictTotal (List α) where
  irrefl l := by
    induction l with
    | nil => exact List.not_lt_nil []
    | cons a l ih =>
      intro h
      rcases List.cons_lt_cons_iff.mp h with h | ⟨_, h⟩
      · exact StrictTotal.irrefl a h
      · exact ih h
  trans {l} := by
    induction l with
    | nil =>
      intro m n hm hn
      cases n with
      | nil => exact absurd hn (List.not_lt_nil m)
      | cons c n => exact List.nil_lt_cons c n
    | cons a l ih =>
      intro m n hm hn
      cases m with
      | nil => exact absurd hm (List.not_lt_nil _)
      | cons b m =>
        cases n with
        | nil => exact absurd hn (List.not_lt_nil _)
        | cons c n =>
          rw [List.cons_lt_cons_iff] at hm hn ⊢
          rcases hm with hm | ⟨rfl, hm⟩
          · rcases hn with hn | ⟨rfl, hn⟩
            · exact .inl (StrictTotal.trans hm hn)
            · exact .inl hm
          · rcases hn with hn | ⟨rfl, hn⟩
            · exact .inl hn
            · exact .inr ⟨rfl, ih hm hn⟩
  connex l := by
    induction l with
    | nil =>
      intro m
      cases m with
      | nil => exact .inr (.inl rfl)
      | cons b m => exact .inl (List.nil_lt_cons b m)
    | cons a l ih =>
      intro m
      cases m with
      | nil => exact .inr (.inr (List.nil_lt_cons a l))
      | cons b m =>
        rw [List.cons_lt_cons_iff, List.cons_lt_cons_iff]
        rcases StrictTotal.connex a b with h | rfl | h
        · exact .inl (.inl h)
        · rcases ih m with h | rfl | h
          · exact .inl (.inr ⟨rfl, h⟩)
          · exact .inr (.inl rfl)
          · exact .inr (.inr (.inr ⟨rfl, h⟩))
        · exact .inr (.inr (.inl h))

/-- A type ordered by a key that tells its values apart is strictly totally
ordered. -/
theorem StrictTotal.ofKey {α β : Type} [LT α] [LT β] [StrictTotal β] (key : α → β)
    (apart : ∀ a b, key a = key b → a = b) (order : ∀ a b : α, a < b ↔ key a < key b) :
    StrictTotal α where
  irrefl a h := StrictTotal.irrefl (key a) ((order a a).mp h)
  trans {a b c} hab hbc :=
    (order a c).mpr (StrictTotal.trans ((order a b).mp hab) ((order b c).mp hbc))
  connex a b := by
    rcases StrictTotal.connex (key a) (key b) with h | h | h
    · exact .inl ((order a b).mpr h)
    · exact .inr (.inl (apart a b h))
    · exact .inr (.inr ((order b a).mpr h))

/-! ### Sets -/

/-- A finite set, as the list of its members in increasing order. -/
structure SortedSet (α : Type) [LT α] where
  toList : List α
  sorted : toList.Pairwise (· < ·)

namespace SortedSet

variable {α : Type} [LT α]

@[ext] theorem ext_toList {s t : SortedSet α} (h : s.toList = t.toList) : s = t := by
  cases s; cases t; cases h; rfl

instance [DecidableEq α] : DecidableEq (SortedSet α) := fun s t =>
  if h : s.toList = t.toList then isTrue (ext_toList h) else isFalse fun e => h (e ▸ rfl)

instance [Repr α] : Repr (SortedSet α) where
  reprPrec s n := reprPrec s.toList n

def empty : SortedSet α := ⟨[], .nil⟩

instance : EmptyCollection (SortedSet α) := ⟨empty⟩

instance : Inhabited (SortedSet α) := ⟨empty⟩

instance : Membership α (SortedSet α) := ⟨fun s a => a ∈ s.toList⟩

@[simp] theorem mem_toList {s : SortedSet α} {a : α} : a ∈ s.toList ↔ a ∈ s := Iff.rfl

instance [DecidableEq α] (a : α) (s : SortedSet α) : Decidable (a ∈ s) :=
  inferInstanceAs (Decidable (a ∈ s.toList))

def size (s : SortedSet α) : Nat := s.toList.length

variable [DecidableLT α] [DecidableEq α]

/-- Puts `a` at its place in an increasing list, unless it is there already. -/
def place (a : α) : List α → List α
  | [] => [a]
  | b :: l => if a = b then b :: l else if a < b then a :: b :: l else b :: place a l

theorem mem_place {a c : α} {l : List α} : c ∈ place a l ↔ c = a ∨ c ∈ l := by
  induction l with
  | nil => simp [place]
  | cons b l ih =>
    simp only [place]
    split
    · next h => subst h; simp
    · split
      · simp
      · simp only [List.mem_cons, ih]
        constructor
        · rintro (h | h | h)
          · exact .inr (.inl h)
          · exact .inl h
          · exact .inr (.inr h)
        · rintro (h | h | h)
          · exact .inr (.inl h)
          · exact .inl h
          · exact .inr (.inr h)

theorem place_sorted [StrictTotal α] {a : α} {l : List α} (h : l.Pairwise (· < ·)) :
    (place a l).Pairwise (· < ·) := by
  induction l with
  | nil => simp [place]
  | cons b l ih =>
    rw [List.pairwise_cons] at h
    simp only [place]
    split
    · exact List.pairwise_cons.mpr h
    · next hne =>
      split
      · next hlt =>
        refine List.pairwise_cons.mpr ⟨?_, List.pairwise_cons.mpr h⟩
        intro c hc
        rcases List.mem_cons.mp hc with rfl | hc
        · exact hlt
        · exact StrictTotal.trans hlt (h.1 c hc)
      · next hnlt =>
        refine List.pairwise_cons.mpr ⟨?_, ih h.2⟩
        intro c hc
        rcases mem_place.mp hc with rfl | hc
        · rcases StrictTotal.connex b c with h' | h' | h'
          · exact h'
          · exact absurd h'.symm hne
          · exact absurd h' hnlt
        · exact h.1 c hc

def insert [StrictTotal α] (s : SortedSet α) (a : α) : SortedSet α :=
  ⟨place a s.toList, place_sorted s.sorted⟩

@[simp] theorem mem_insert [StrictTotal α] {s : SortedSet α} {a c : α} :
    c ∈ s.insert a ↔ c = a ∨ c ∈ s :=
  mem_place

/-- The set of the members of a list, in whatever order and however often it
names them. -/
def ofList [StrictTotal α] (l : List α) : SortedSet α := l.foldl insert ∅

end SortedSet

end Dfs
