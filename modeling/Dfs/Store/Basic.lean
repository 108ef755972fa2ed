import Dfs.Disk.OpenFile
import Dfs.Error
import Dfs.Path.Host

/-!
The local files of a storage node: reading and writing them, and creating and
deleting what the naming service asks for. A path of the namespace is the host
path of the same names below the root of the node.
-/

namespace Dfs

/-- A storage node's root directory on a disk. -/
structure Store where
  root : HostPath
  disk : Disk
  deriving Repr

namespace Store

/-- The host path of a file. -/
def hostPath (st : Store) (p : Path) : Except Error HostPath :=
  (p.toHost st.root).mapError PathError.toError

/-- The number of bytes of what a host path leads to. -/
def contentSize (c : DiskItem) : Nat :=
  match c with
  | .file content => content.size
  | .link target => target.bytes.length

/-- The length of a file in bytes. -/
def fileLength (st : Store) (h : HostPath) (p : Path) : Except Error Nat :=
  match st.disk.stat h with
  | .ok (.dir _) => .error (.notFound s!"{p} is a directory")
  | .ok (.leaf item) => .ok (contentSize item)
  | .error fault => .error (.ofFault p.text fault)

/-! ### Reading and writing -/

def size (st : Store) (p : Path) : Except Error UInt64 :=
  match st.hostPath p with
  | .error e => .error e
  | .ok h => (st.fileLength h p).map UInt64.ofNat

/-- Exactly `length` bytes from `offset` on. -/
def read (st : Store) (p : Path) (offset length : Int64) : Except Error (List UInt8) :=
  if offset.toInt < 0 ∨ length.toInt < 0 then
    .error (.invalidArgument s!"negative offset ({offset}) or length ({length})")
  else match st.hostPath p with
    | .error e => .error e
    | .ok h =>
      match st.fileLength h p with
      | .error e => .error e
      | .ok size =>
        let first := offset.toInt.toNat
        let count := length.toInt.toNat
        if first + count > size then
          .error (.outOfBounds s!"{p}: {count} bytes at {first} exceed size {size}")
        else match st.disk.readFile h with
          | .error fault => .error (.ofFault p.text fault)
          | .ok content => .ok (content.slice first count)

/-- Writes bytes at `offset` of an existing file, which grows as needed. If not all of them
can be written, those before stay. -/
def write (st : Store) (p : Path) (offset : Int64) (data : List UInt8) :
    Except Error Unit × Store :=
  if offset.toInt < 0 then (.error (.invalidArgument s!"negative offset ({offset})"), st)
  else match st.hostPath p with
    | .error e => (.error e, st)
    | .ok h =>
      match st.fileLength h p with
      | .error e => (.error e, st)
      | .ok _ =>
        match st.disk.openFile h with
        | .error fault => (.error (.ofFault p.text fault), st)
        | .ok file =>
          if data = [] then (.ok (), st)
          else match file.seek offset.toInt.toNat with
            | .error fault => (.error (.ofFault p.text fault), st)
            | .ok file =>
              match file.writeAll data with
              | (some fault, file) =>
                (.error (.ofFault p.text fault), { st with disk := file.disk })
              | (none, file) => (.ok (), { st with disk := file.disk })

/-! ### Creating and deleting

Ordinary failures are no errors: the answer is then `false`. -/

/-- Makes an empty file and the directories that lead to it. Directories that were
made stay, also if the file cannot be made. -/
def create (st : Store) (p : Path) : Bool × Store :=
  if p.isRoot then (false, st)
  else match st.hostPath p with
    | .error _ => (false, st)
    | .ok h =>
      match st.disk.pathExists h with
      | .error _ => (false, st)
      | .ok true => (false, st)
      | .ok false =>
        match st.disk.makeDirectories h.parent with
        | (some _, disk) => (false, { st with disk })
        | (none, disk) =>
          match disk.createFile h with
          | .error _ => (false, { st with disk })
          | .ok disk => (true, { st with disk })

/-- Removes a file, a link, or a directory with all that is below it. -/
def delete (st : Store) (p : Path) : Bool × Store :=
  if p.isRoot then (false, st)
  else match st.hostPath p with
    | .error _ => (false, st)
    | .ok h =>
      match st.disk.linkStat h with
      | .error _ => (false, st)
      | .ok (.dir _) =>
        match st.disk.removeTree h with
        | (some _, disk) => (false, { st with disk })
        | (none, disk) => (true, { st with disk })
      | .ok (.leaf _) =>
        match st.disk.removeFile h with
        | .error _ => (false, st)
        | .ok disk => (true, { st with disk })

end Store

end Dfs
