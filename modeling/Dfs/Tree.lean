import Dfs.SortedSet

/-!
Trees of named entries: a tree is a leaf with a value or a directory of trees
under distinct names, kept in the order of the names. The directory at the top is
given by its entries, and a place below it by the names that lead there.
-/

namespace Dfs

/-! ### Entries under names -/

/-- Values under names, in the order of the names. -/
abbrev Entries (κ β : Type) := List (κ × β)

namespace Entries

variable {κ β : Type} [DecidableEq κ]

def find (k : κ) : Entries κ β → Option β
  | [] => none
  | (k', b) :: es => if k = k' then some b else find k es

def names (es : Entries κ β) : List κ := es.map Prod.fst

/-- Puts `b` under the name `k`, in place of what was there. -/
def put [LT κ] [DecidableLT κ] (k : κ) (b : β) : Entries κ β → Entries κ β
  | [] => [(k, b)]
  | (k', b') :: es =>
    if k = k' then (k, b) :: es
    else if k < k' then (k, b) :: (k', b') :: es
    else (k', b') :: put k b es

/-- Takes away whatever is under the name `k`. -/
def erase (k : κ) : Entries κ β → Entries κ β
  | [] => []
  | (k', b) :: es => if k = k' then erase k es else (k', b) :: erase k es

@[simp] theorem find_nil (k : κ) : find k ([] : Entries κ β) = none := rfl

@[simp] theorem find_put_self [LT κ] [DecidableLT κ] (k : κ) (b : β) (es : Entries κ β) :
    find k (put k b es) = some b := by
  induction es with
  | nil => simp [put, find]
  | cons e es ih =>
    obtain ⟨k', b'⟩ := e
    simp only [put]
    split
    · simp [find]
    · split
      · simp [find]
      · next h _ => simp [find, h, ih]

theorem find_put_of_ne [LT κ] [DecidableLT κ] {k j : κ} (h : j ≠ k) (b : β) (es : Entries κ β) :
    find j (put k b es) = find j es := by
  induction es with
  | nil => simp [put, find, h]
  | cons e es ih =>
    obtain ⟨k', b'⟩ := e
    simp only [put]
    split
    · next hk => subst hk; simp [find, h]
    · split
      · simp [find, h]
      · simp [find, ih]

/-- Of two values that are put under one name, the later one stays. -/
theorem put_put_self [LT κ] [DecidableLT κ] (k : κ) (b c : β) (es : Entries κ β) :
    put k c (put k b es) = put k c es := by
  induction es with
  | nil => simp [put]
  | cons e es ih =>
    obtain ⟨k', b'⟩ := e
    simp only [put]
    split
    · simp [put]
    · split
      · simp [put]
      · next other later => simp [put, other, later, ih]

@[simp] theorem find_erase_self (k : κ) (es : Entries κ β) : find k (erase k es) = none := by
  induction es with
  | nil => rfl
  | cons e es ih =>
    obtain ⟨k', b⟩ := e
    simp only [erase]
    split
    · exact ih
    · next h => simp [find, h, ih]

theorem find_erase_of_ne {k j : κ} (h : j ≠ k) (es : Entries κ β) :
    find j (erase k es) = find j es := by
  induction es with
  | nil => rfl
  | cons e es ih =>
    obtain ⟨k', b⟩ := e
    simp only [erase]
    split
    · next hk => subst hk; simp [find, h, ih]
    · simp [find, ih]

end Entries

/-! ### Trees -/

inductive Tree (κ α : Type) where
  | leaf (value : α)
  | dir (entries : List (κ × Tree κ α))
  deriving Repr

namespace Tree

variable {κ α : Type}

/-- The entries of a directory, each a tree. -/
abbrev Folder (κ α : Type) := Entries κ (Tree κ α)

def isDir : Tree κ α → Bool
  | .leaf _ => false
  | .dir _ => true

/-- The tree at the place that the names lead to. -/
def get? [DecidableEq κ] : List κ → Tree κ α → Option (Tree κ α)
  | [], t => some t
  | _ :: _, .leaf _ => none
  | k :: ks, .dir es =>
    match Entries.find k es with
    | none => none
    | some t => get? ks t

/-- Changes what is at a place, making the directories that lead there as needed.
Fails with the name of the first leaf on the way. The top itself is never
changed. -/
def place [DecidableEq κ] [LT κ] [DecidableLT κ] (change : Option (Tree κ α) → Tree κ α) :
    List κ → Folder κ α → Except κ (Folder κ α)
  | [], es => .ok es
  | [k], es => .ok (Entries.put k (change (Entries.find k es)) es)
  | k :: k' :: ks, es =>
    match Entries.find k es with
    | some (.leaf _) => .error k
    | some (.dir inner) => do
      let inner ← place change (k' :: ks) inner
      pure (Entries.put k (.dir inner) es)
    | none => do
      let inner ← place change (k' :: ks) []
      pure (Entries.put k (.dir inner) es)

/-- The same change made in place: a directory that is missing on the way is there before the
walk goes on. The answer is the name of the leaf that stopped the walk, if one did, and the
entries as they are then. -/
def edit [DecidableEq κ] [LT κ] [DecidableLT κ] (change : Option (Tree κ α) → Tree κ α) :
    List κ → Folder κ α → Option κ × Folder κ α
  | [], es => (none, es)
  | [k], es => (none, Entries.put k (change (Entries.find k es)) es)
  | k :: k' :: ks, es =>
    let es := if (Entries.find k es).isNone then Entries.put k (.dir []) es else es
    match Entries.find k es with
    | some (.dir inner) =>
      let (stopped, inner) := edit change (k' :: ks) inner
      (stopped, Entries.put k (.dir inner) es)
    | _ => (some k, es)

/-- Takes away what is at a place; the directories that lead there stay. -/
def remove [DecidableEq κ] [LT κ] [DecidableLT κ] : List κ → Folder κ α → Folder κ α
  | [], es => es
  | [k], es => Entries.erase k es
  | k :: k' :: ks, es =>
    match Entries.find k es with
    | some (.dir inner) => Entries.put k (.dir (remove (k' :: ks) inner)) es
    | _ => es

/-! ### Walking a tree -/

mutual

/-- The number of places in a tree. -/
def count : Tree κ α → Nat
  | .leaf _ => 1
  | .dir es => folderCount es + 1

def folderCount : List (κ × Tree κ α) → Nat
  | [] => 0
  | (_, t) :: es => count t + folderCount es

end

mutual

/-- The leaves at or below a tree with the names that lead to them, in the order
of the names. -/
def leaves : Tree κ α → List (List κ × α)
  | .leaf value => [([], value)]
  | .dir es => folderLeaves es

def folderLeaves : List (κ × Tree κ α) → List (List κ × α)
  | [] => []
  | (k, t) :: es => (leaves t).map (fun (ks, value) => (k :: ks, value)) ++ folderLeaves es

end

mutual

/-- Every place below a tree, a directory before what is in it. Directories have
no value. -/
def places : Tree κ α → List (List κ × Option α)
  | .leaf value => [([], some value)]
  | .dir es => ([], none) :: folderPlaces es

def folderPlaces : List (κ × Tree κ α) → List (List κ × Option α)
  | [] => []
  | (k, t) :: es => (places t).map (fun (ks, value) => (k :: ks, value)) ++ folderPlaces es

end

end Tree

end Dfs
