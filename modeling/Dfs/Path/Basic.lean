import Dfs.Error
import Dfs.Path.Name

/-!
Paths: where a file or directory is in the distributed namespace, as the list of
the names that lead to it from the root. The text of a path is `/` for the root
and `/a/b` otherwise; reading drops empty pieces, so `//a/` is `/a`.
-/

namespace Dfs

/-- Why a text, a name or a host path is not a path, or a path has no such part. -/
inductive PathError where
  | notAbsolute (text : String)
  | reserved (text : String)
  | emptyName
  | badName (text : String)
  | rootHasNoParent
  | rootHasNoLast
  | unmappable (text : String)
  | notText (shown : String)
  | notRelative (shown : String)
  deriving DecidableEq, Repr

namespace PathError

def message : PathError → String
  | .notAbsolute text => s!"'{text}' does not begin with '/'"
  | .reserved text => s!"'{text}' contains ':'"
  | .emptyName => "empty path component"
  | .badName text => s!"component '{text}' contains '/' or ':'"
  | .rootHasNoParent => "the root directory has no parent"
  | .rootHasNoLast => "the root directory has no last component"
  | .unmappable text => s!"'{text}' cannot be mapped onto a local directory"
  | .notText shown => s!"'{shown}' is not valid UTF-8"
  | .notRelative shown => s!"'{shown}' is not a relative path"

def toError (e : PathError) : Error := .invalidPath e.message

end PathError

/-- Cuts a list at every `sep`; there is one piece more than there are cuts. -/
def splitAt {α : Type} [DecidableEq α] (sep : α) : List α → List (List α)
  | [] => [[]]
  | c :: rest =>
    if c = sep then [] :: splitAt sep rest
    else match splitAt sep rest with
      | [] => [[c]]
      | piece :: pieces => (c :: piece) :: pieces

structure Path where
  components : List Name
  deriving DecidableEq, Repr

namespace Path

def root : Path := ⟨[]⟩

instance : Inhabited Path := ⟨root⟩

def isRoot (p : Path) : Bool := p.components.isEmpty

/-- The number of components; zero for the root. -/
def depth (p : Path) : Nat := p.components.length

/-- The path of the entry `n` of the directory `p`. -/
def child (p : Path) (n : Name) : Path := ⟨p.components ++ [n]⟩

/-- The path with one more component, if the text is a name. -/
def join (p : Path) (text : String) : Except PathError Path :=
  match Name.ofString? text with
  | some n => .ok (p.child n)
  | none => .error (if text = "" then .emptyName else .badName text)

def parent (p : Path) : Except PathError Path :=
  match p.components with
  | [] => .error .rootHasNoParent
  | n :: rest => .ok ⟨(n :: rest).dropLast⟩

def last (p : Path) : Except PathError Name :=
  match p.components.getLast? with
  | none => .error .rootHasNoLast
  | some n => .ok n

/-- The path `a` is `p` itself or leads to it: the components of `a` begin those
of `p`. -/
def isUnder (p a : Path) : Bool := a.components.isPrefixOf p.components

/-! ### Text -/

def chars (p : Path) : List Char :=
  match p.components with
  | [] => [separator]
  | names => names.flatMap fun n => separator :: n.text.toList

def text (p : Path) : String := String.ofList p.chars

instance : ToString Path := ⟨text⟩

/-- Reads a path: the text has to begin with `/` and hold no `:`, and its
components are the pieces between slashes that are not empty. -/
def parse (text : String) : Except PathError Path :=
  if text.toList.head? ≠ some separator then .error (.notAbsolute text)
  else if delimiter ∈ text.toList then .error (.reserved text)
  else .ok ⟨(splitAt separator text.toList).filterMap fun piece =>
    Name.ofString? (String.ofList piece)⟩

/-! ### Order -/

/-- Paths are ordered component by component, and a path comes before all that
lies under it. -/
instance : LT Path := ⟨fun a b => a.components < b.components⟩

instance (a b : Path) : Decidable (a < b) :=
  inferInstanceAs (Decidable (a.components < b.components))

instance : StrictTotal Path :=
  StrictTotal.ofKey Path.components (fun a b h => by cases a; cases b; cases h; rfl)
    fun _ _ => Iff.rfl

def compare (a b : Path) : Ordering := if a < b then .lt else if a = b then .eq else .gt

end Path

/-- A set of paths, in path order. -/
abbrev PathSet := SortedSet Path

end Dfs
