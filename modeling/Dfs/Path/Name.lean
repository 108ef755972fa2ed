import Dfs.SortedSet

/-!
Names: the components of paths. A name is any non-empty text without the
separator `/` and the delimiter `:`, which is reserved for applications.
-/

namespace Dfs

def separator : Char := '/'

def delimiter : Char := ':'

/-- The text is not empty and holds neither the separator nor the delimiter. -/
def Name.isValid (text : List Char) : Bool :=
  !text.isEmpty && text.all fun c => c != separator && c != delimiter

structure Name where
  text : String
  valid : Name.isValid text.toList = true
  deriving DecidableEq

namespace Name

instance : Repr Name where
  reprPrec n k := reprPrec n.text k

@[ext] theorem ext_text {a b : Name} (h : a.text = b.text) : a = b := by
  cases a; cases b; cases h; rfl

def ofString? (text : String) : Option Name :=
  if h : isValid text.toList = true then some ⟨text, h⟩ else none

theorem ofString?_eq_some_iff {text : String} {n : Name} :
    ofString? text = some n ↔ n.text = text := by
  unfold ofString?
  split
  · next h =>
    constructor
    · intro e; cases e; rfl
    · intro e; subst e; rfl
  · next h =>
    constructor
    · intro e; cases e
    · intro e; subst e; exact absurd n.valid h

/-- Names are ordered by the bytes of their texts, which is the order of the
code points. -/
instance : LT Name := ⟨fun a b => a.text < b.text⟩

instance (a b : Name) : Decidable (a < b) := inferInstanceAs (Decidable (a.text < b.text))

instance : StrictTotal Name :=
  StrictTotal.ofKey Name.text (fun _ _ => ext_text) fun _ _ => Iff.rfl

/-- The names `.` and `..` mean other places to a host. -/
def isDots (n : Name) : Bool := n.text == "." || n.text == ".."

end Name

end Dfs
