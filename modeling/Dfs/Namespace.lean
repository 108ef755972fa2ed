import Dfs.Handle
import Dfs.Path.Basic
import Dfs.Tree

/-!
The namespace: which files and directories exist, and which storage node owns
each file. A file is a leaf with the handle of its owner.
-/

namespace Dfs

/-- Why the namespace does not answer, or does not change. -/
inductive NamespaceError where
  | missing (path : Path)
  | isFile (path : Path)
  | isDirectory (path : Path)
  /-- The path cannot be added: its component `name` is a file. -/
  | blocked (path : Path) (name : Name)
  | path (e : PathError)
  deriving DecidableEq, Repr

namespace NamespaceError

def toError : NamespaceError → Error
  | .missing p => .notFound p.text
  | .isFile p => .notFound s!"{p} is a file"
  | .isDirectory p => .notFound s!"{p} is a directory"
  | .blocked p n => .invalidArgument s!"cannot place {p}: {n.text} is a file"
  | .path e => e.toError

end NamespaceError

/-- An entry of the namespace. -/
abbrev Entry := Tree Name Handle

namespace Entry

/-- What is in a directory that sits at `path`, in the order of the names. -/
def children (path : Path) (entries : Tree.Folder Name Handle) : List (Path × Entry) :=
  entries.filterMap fun (name, entry) => (path.join name.text).toOption.map (·, entry)

/-- The number of places in the entries of a stack. -/
def stackCount : List (Path × Entry) → Nat
  | [] => 0
  | (_, entry) :: pending => entry.count + stackCount pending

theorem stackCount_append (xs ys : List (Path × Entry)) :
    stackCount (xs ++ ys) = stackCount xs + stackCount ys := by
  induction xs with
  | nil => rw [List.nil_append, stackCount, Nat.zero_add]
  | cons x xs ih => rw [List.cons_append, stackCount, stackCount, ih, Nat.add_assoc]

theorem stackCount_reverse (xs : List (Path × Entry)) : stackCount xs.reverse = stackCount xs := by
  induction xs with
  | nil => rfl
  | cons x xs ih =>
    rw [List.reverse_cons, stackCount_append, ih, stackCount, stackCount, stackCount]
    omega

theorem stackCount_children_le (path : Path) (entries : Tree.Folder Name Handle) :
    stackCount (children path entries) ≤ Tree.folderCount entries := by
  induction entries with
  | nil => exact Nat.le_refl 0
  | cons e entries ih =>
    simp only [children, List.filterMap_cons, Tree.folderCount] at ih ⊢
    split
    · omega
    · next x found =>
      obtain ⟨q, -, rfl⟩ := Option.map_eq_some_iff.mp found
      rw [stackCount]
      omega

/-- Empties a stack of entries: the topmost one is listed if it is a file, and else makes way
for what is in it, the last name on top. -/
def listFiles : List (Path × Entry) → List (Path × Handle)
  | [] => []
  | (path, .leaf owner) :: pending => (path, owner) :: listFiles pending
  | (path, .dir entries) :: pending => listFiles ((children path entries).reverse ++ pending)
termination_by pending => stackCount pending
decreasing_by
  · rw [stackCount, Tree.count]
    omega
  · have fewer := stackCount_children_le path entries
    rw [stackCount_append, stackCount_reverse, stackCount, Tree.count]
    omega

/-- The files at or below an entry that sits at `path`, in descending order of
their paths. -/
def files (path : Path) (entry : Entry) : List (Path × Handle) := listFiles [(path, entry)]

/-- The handles that own a file at or below the entry. -/
def owners (entry : Entry) : SortedSet Handle :=
  .ofList ((Tree.leaves entry).map Prod.snd)

end Entry

/-- The entries of the root directory. -/
structure Namespace where
  top : Tree.Folder Name Handle
  deriving Repr

namespace Namespace

def empty : Namespace := ⟨[]⟩

instance : Inhabited Namespace := ⟨empty⟩

/-- The entry at a path. The root is a directory but no entry. -/
def lookup (ns : Namespace) (p : Path) : Option Entry :=
  if p.isRoot then none else (Tree.dir ns.top).get? p.components

def contains (ns : Namespace) (p : Path) : Bool := p.isRoot || (ns.lookup p).isSome

def isDirectory (ns : Namespace) (p : Path) : Except NamespaceError Bool :=
  if p.isRoot then .ok true
  else match ns.lookup p with
    | some entry => .ok entry.isDir
    | none => .error (.missing p)

/-- The names in the root directory. -/
def topNames (ns : Namespace) : List Name := Entries.names ns.top

/-- The names in a directory. -/
def list (ns : Namespace) (p : Path) : Except NamespaceError (List Name) :=
  if p.isRoot then .ok ns.topNames
  else match ns.lookup p with
    | some (.dir entries) => .ok (Entries.names entries)
    | some (.leaf _) => .error (.isFile p)
    | none => .error (.missing p)

/-- The owner of a file. -/
def owner (ns : Namespace) (p : Path) : Except NamespaceError Handle :=
  match ns.lookup p with
  | some (.leaf h) => .ok h
  | some (.dir _) => .error (.isDirectory p)
  | none => .error (.missing p)

/-- Walks down from a directory: whether a new file at the names would meet
something that exists, be it a file on the way or anything at the place itself. -/
def meets : List Name → Tree.Folder Name Handle → Bool
  | [], _ => true
  | n :: names, entries =>
    match Entries.find n entries with
    | none => false
    | some (.leaf _) => true
    | some (.dir inner) => meets names inner

/-- A file cannot be added at the path. -/
def conflicts (ns : Namespace) (p : Path) : Bool := meets p.components ns.top

def change (ns : Namespace) (p : Path) (f : Option Entry → Entry) :
    Except NamespaceError Namespace :=
  if p.isRoot then .error (.path .rootHasNoLast)
  else match Tree.place f p.components ns.top with
    | .ok top => .ok ⟨top⟩
    | .error n => .error (.blocked p n)

/-- Adds a file, and the directories that lead to it. Whatever was at the path is
replaced. -/
def insert (ns : Namespace) (p : Path) (owner : Handle) : Except NamespaceError Namespace :=
  ns.change p fun _ => .leaf owner

/-- Adds an empty directory, and those that lead to it, unless something is at
the path already. -/
def insertDirectory (ns : Namespace) (p : Path) : Except NamespaceError Namespace :=
  ns.change p fun found => found.getD (.dir [])

/-- Changes the namespace itself. The answer is whether that succeeded, and the namespace as it
is left in either case. -/
def edit (ns : Namespace) (p : Path) (f : Option Entry → Entry) :
    Except NamespaceError Unit × Namespace :=
  if p.isRoot then (.error (.path .rootHasNoLast), ns)
  else match Tree.edit f p.components ns.top with
    | (none, top) => (.ok (), ⟨top⟩)
    | (some n, top) => (.error (.blocked p n), ⟨top⟩)

/-- Adds a file in place, as `insert` does. -/
def insertInPlace (ns : Namespace) (p : Path) (owner : Handle) :
    Except NamespaceError Unit × Namespace :=
  ns.edit p fun _ => .leaf owner

/-- Adds a directory in place, as `insertDirectory` does. -/
def insertDirectoryInPlace (ns : Namespace) (p : Path) : Except NamespaceError Unit × Namespace :=
  ns.edit p fun found => found.getD (.dir [])

/-- Takes an entry and everything below it out of the namespace. -/
def remove (ns : Namespace) (p : Path) : Option (Entry × Namespace) :=
  (ns.lookup p).map fun entry => (entry, ⟨Tree.remove p.components ns.top⟩)

/-- Takes an entry out in place, as `remove` does; nothing is taken if nothing is at the path. -/
def removeInPlace (ns : Namespace) (p : Path) : Option Entry × Namespace :=
  if p.isRoot then (none, ns) else (ns.lookup p, ⟨Tree.remove p.components ns.top⟩)

/-- Every path of the namespace but the root, with the owner of each file, in
path order. -/
def dump (ns : Namespace) : List (Path × Option Handle) :=
  (Tree.folderPlaces ns.top).map fun (names, owner) => (⟨names⟩, owner)

end Namespace

end Dfs
