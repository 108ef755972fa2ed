import Dfs.Disk.Content
import Dfs.Disk.Fault
import Dfs.Path.Host
import Dfs.Tree

/-!
The disk of a host: a tree of directories, regular files and symbolic links, and
how a host path is resolved in it. All paths, absolute or not, start at the top
of the tree.
-/

namespace Dfs

/-- What is on a disk besides directories. -/
inductive DiskItem where
  | file (content : Content)
  | link (target : HostPath)
  deriving DecidableEq, Repr

abbrev DiskNode := Tree HostName DiskItem

/-- No file on any disk reaches beyond this position. -/
def maxPosition : Nat := UInt64.size / 2 - 1

/-- What is on a disk, and how large its files may get. -/
structure Disk where
  top : Tree.Folder HostName DiskItem
  /-- The size beyond which the disk lets no file grow. -/
  largest : Nat := maxPosition
  largest_le : largest ≤ maxPosition := by exact Nat.le_refl _
  deriving Repr

/-- The names that lead to a place on a disk. -/
abbrev Place := List HostName

namespace HostPath

/-- The longest name, in bytes. -/
def maxName : Nat := 255

/-- The longest path, in bytes. -/
def maxLength : Nat := 4095

/-- The names that a host follows one after another. A slash at the end asks for a
directory, as `.` does. -/
def steps (h : HostPath) : List HostName :=
  let parts := (splitAt slash h.bytes).filter (· ≠ [])
  if h.bytes.getLast? = some slash ∧ parts ≠ [] then parts ++ [dot] else parts

/-- The path without its last name. -/
def parent (h : HostPath) : HostPath :=
  let front := (h.bytes.reverse.dropWhile (· != slash)).dropWhile (· == slash)
  if front = [] ∧ h.bytes.head? = some slash then ⟨[slash]⟩ else ⟨front.reverse⟩

/-- Refuses what no operation accepts: a NUL character, the empty path, and a path
that is too long. -/
def check (h : HostPath) : Except Fault Unit :=
  if 0 ∈ h.bytes then .error .nulInName
  else if h.bytes = [] then .error .noSuchEntry
  else if h.bytes.length > maxLength then .error .nameTooLong
  else .ok ()

end HostPath

namespace Disk

def empty : Disk := { top := [] }

instance : Inhabited Disk := ⟨empty⟩

/-- What is at a place; the top of the disk is a directory. -/
def get? (d : Disk) (place : Place) : Option DiskNode := (Tree.dir d.top).get? place

/-! ### Resolving host paths -/

/-- Where a walk along names ends. -/
inductive Stop where
  /-- Something is at the place. -/
  | found (place : Place) (node : DiskNode)
  /-- The directory `dir` has no entry `name`, and no further name follows. -/
  | vacant (dir : Place) (name : HostName)
  /-- The directory `dir` holds a link that is to be followed before the names
  `rest`. -/
  | jump (dir : Place) (target : HostPath) (rest : List HostName)
  deriving Repr

/-- Walks along names from the directory `here` until a link has to be followed.
A link in the last place is followed only if `follow` says so. -/
def walk (d : Disk) (follow : Bool) : Place → List HostName → Except Fault Stop
  | here, [] =>
    match d.get? here with
    | some node => .ok (.found here node)
    | none => .error .noSuchEntry
  | here, name :: rest =>
    if name = HostPath.dot then walk d follow here rest
    else if name = HostPath.dotDot then walk d follow here.dropLast rest
    else if name.length > HostPath.maxName then .error .nameTooLong
    else match d.get? (here ++ [name]) with
      | none => if rest = [] then .ok (.vacant here name) else .error .noSuchEntry
      | some (.dir _) => walk d follow (here ++ [name]) rest
      | some (.leaf (.file content)) =>
        if rest = [] then .ok (.found (here ++ [name]) (.leaf (.file content)))
        else .error .notDirectory
      | some (.leaf (.link target)) =>
        if rest = [] ∧ follow = false then .ok (.found (here ++ [name]) (.leaf (.link target)))
        else .ok (.jump here target rest)

/-- Where a host path leads. -/
inductive Spot where
  | found (place : Place) (node : DiskNode)
  | vacant (dir : Place) (name : HostName)
  deriving Repr

/-- Walks along names and follows at most `links` links. -/
def follow (d : Disk) (last : Bool) : Nat → Place → List HostName → Except Fault Spot
  | links, here, names =>
    match d.walk last here names with
    | .error fault => .error fault
    | .ok (.found place node) => .ok (.found place node)
    | .ok (.vacant dir name) => .ok (.vacant dir name)
    | .ok (.jump dir target rest) =>
      match links with
      | 0 => .error .tooManyLinks
      | links + 1 =>
        let start := if target.bytes.head? = some HostPath.slash then [] else dir
        follow d last links start (target.steps ++ rest)

/-- The most links that are followed for one path. -/
def maxLinks : Nat := 40

/-- Resolves a host path. A link in the last place is followed only if `last`
says so. -/
def resolve (d : Disk) (last : Bool) (h : HostPath) : Except Fault Spot :=
  match h.check with
  | .error fault => .error fault
  | .ok () => d.follow last maxLinks [] h.steps

/-- What a path leads to, links followed. -/
def stat (d : Disk) (h : HostPath) : Except Fault DiskNode :=
  match d.resolve true h with
  | .error fault => .error fault
  | .ok (.found _ node) => .ok node
  | .ok (.vacant ..) => .error .noSuchEntry

/-- What a path names, be it a link. -/
def linkStat (d : Disk) (h : HostPath) : Except Fault DiskNode :=
  match d.resolve false h with
  | .error fault => .error fault
  | .ok (.found _ node) => .ok node
  | .ok (.vacant ..) => .error .noSuchEntry

/-- Whether a path leads to something; a fault if that cannot be told. -/
def pathExists (d : Disk) (h : HostPath) : Except Fault Bool :=
  match d.stat h with
  | .ok _ => .ok true
  | .error fault => if fault.isMissing then .ok false else .error fault

/-- A path leads to a directory. -/
def isDirectory (d : Disk) (h : HostPath) : Bool :=
  match d.stat h with
  | .ok node => node.isDir
  | .error _ => false

end Disk

end Dfs
