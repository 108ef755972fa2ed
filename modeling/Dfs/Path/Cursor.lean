import Dfs.Path.Basic

/-!
A place between the components of a path that have been taken from the front and
those that have been taken from the back.
-/

namespace Dfs

/-- The components that have not been taken yet. -/
structure Cursor where
  rest : List Name
  deriving DecidableEq, Repr

def Path.cursor (p : Path) : Cursor := ⟨p.components⟩

namespace Cursor

/-- Takes the first remaining component. -/
def next (c : Cursor) : Option Name × Cursor := (c.rest.head?, ⟨c.rest.tail⟩)

/-- Takes the last remaining component. -/
def back (c : Cursor) : Option Name × Cursor := (c.rest.getLast?, ⟨c.rest.dropLast⟩)

def size (c : Cursor) : Nat := c.rest.length

end Cursor

end Dfs
