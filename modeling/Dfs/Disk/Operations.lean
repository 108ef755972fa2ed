import Dfs.Disk.Basic

/-!
Operations on disks, as a host's system offers them to a user who may do
everything: each succeeds or leaves the disk as it is, with a fault that says why. Only
the ones with several steps, making all directories of a path and removing a tree, keep
what was done when a later step fails.
-/

namespace Dfs.Disk

/-- Puts something at a place whose directory exists. -/
def set (d : Disk) (place : Place) (node : DiskNode) : Disk :=
  match Tree.place (fun _ => node) place d.top with
  | .ok top => { d with top }
  | .error _ => d

/-- Takes away what is at a place. -/
def erase (d : Disk) (place : Place) : Disk := { d with top := Tree.remove place d.top }

/-! ### Directories -/

/-- Makes an empty directory; its parent has to exist. -/
def makeDirectory (d : Disk) (h : HostPath) : Except Fault Disk :=
  match d.resolve false h with
  | .error fault => .error fault
  | .ok (.found ..) => .error .entryExists
  | .ok (.vacant dir name) => .ok (d.set (dir ++ [name]) (.dir []))

/-- Makes a directory and its missing ancestors, outermost first. Directories that
were made stay, also if a later one cannot be made. `above` bounds the number of
ancestors. -/
def makeDirectoriesWith : Nat → Disk → HostPath → Option Fault × Disk
  | above, d, h =>
    if h.bytes = [] then (none, d)
    else match d.makeDirectory h with
      | .ok d => (none, d)
      | .error fault =>
        if fault.isMissing then
          match above with
          | 0 => (some fault, d)
          | above + 1 =>
            match makeDirectoriesWith above d h.parent with
            | (some fault, d) => (some fault, d)
            | (none, d) =>
              match d.makeDirectory h with
              | .ok d => (none, d)
              | .error fault =>
                if fault = .entryExists ∧ d.isDirectory h = true then (none, d) else (some fault, d)
        else if fault = .entryExists ∧ d.isDirectory h = true then (none, d)
        else (some fault, d)

def makeDirectories (d : Disk) (h : HostPath) : Option Fault × Disk :=
  makeDirectoriesWith h.bytes.length d h

/-- Removes an empty directory. -/
def removeDirectory (d : Disk) (h : HostPath) : Except Fault Disk :=
  match d.resolve false h with
  | .error fault => .error fault
  | .ok (.vacant ..) => .error .noSuchEntry
  | .ok (.found _ (.leaf _)) => .error .notDirectory
  | .ok (.found place (.dir [])) => .ok (d.erase place)
  | .ok (.found _ (.dir _)) => .error .notEmpty

/-- The disk without what is in the directory at a place. -/
def emptied (d : Disk) (place : Place) : Disk := d.set place (.dir [])

/-- Removes a directory and everything below it: first what is in it, then the directory
itself, which is looked up once more. If it is no longer there by then, that is no fault. -/
def removeTree (d : Disk) (h : HostPath) : Option Fault × Disk :=
  match d.resolve false h with
  | .error fault => (some fault, d)
  | .ok (.vacant ..) => (some .noSuchEntry, d)
  | .ok (.found _ (.leaf _)) => (some .notDirectory, d)
  | .ok (.found place (.dir _)) =>
    let d := d.emptied place
    match d.removeDirectory h with
    | .ok d => (none, d)
    | .error fault => (if fault.isMissing then none else some fault, d)

/-- The path leads to a directory without entries. -/
def isEmptyDirectory (d : Disk) (h : HostPath) : Bool :=
  match d.stat h with
  | .ok (.dir entries) => entries.isEmpty
  | _ => false

/-! ### Files -/

/-- Makes an empty file where nothing is yet. -/
def createFile (d : Disk) (h : HostPath) : Except Fault Disk :=
  match d.resolve false h with
  | .error fault => .error fault
  | .ok (.found ..) => .error .entryExists
  | .ok (.vacant dir name) => .ok (d.set (dir ++ [name]) (.leaf (.file .empty)))

/-- Removes a file or a link. -/
def removeFile (d : Disk) (h : HostPath) : Except Fault Disk :=
  match d.resolve false h with
  | .error fault => .error fault
  | .ok (.vacant ..) => .error .noSuchEntry
  | .ok (.found _ (.dir _)) => .error .isDirectory
  | .ok (.found place (.leaf _)) => .ok (d.erase place)

/-- The content of the file that a path leads to. -/
def readFile (d : Disk) (h : HostPath) : Except Fault Content :=
  match d.stat h with
  | .error fault => .error fault
  | .ok (.leaf (.file content)) => .ok content
  | .ok _ => .error .isDirectory

/-! ### Changes from outside -/

/-- Makes a file with the given content, or gives that content to an existing one;
missing directories are made. -/
def seedFile (d : Disk) (h : HostPath) (bytes : List UInt8) : Except Fault Disk :=
  match d.makeDirectories h.parent with
  | (some fault, _) => .error fault
  | (none, d) =>
    match d.resolve true h with
    | .error fault => .error fault
    | .ok (.found place (.leaf _)) => .ok (d.set place (.leaf (.file (.ofBytes bytes))))
    | .ok (.vacant dir name) => .ok (d.set (dir ++ [name]) (.leaf (.file (.ofBytes bytes))))
    | .ok (.found _ (.dir _)) => .error .isDirectory

/-- Makes a link where nothing is yet. -/
def seedLink (d : Disk) (h target : HostPath) : Except Fault Disk :=
  match d.resolve false h with
  | .error fault => .error fault
  | .ok (.found ..) => .error .entryExists
  | .ok (.vacant dir name) => .ok (d.set (dir ++ [name]) (.leaf (.link target)))

/-- Removes whatever a path names. -/
def discard (d : Disk) (h : HostPath) : Except Fault Disk :=
  match d.resolve false h with
  | .error fault => .error fault
  | .ok (.vacant ..) => .error .noSuchEntry
  | .ok (.found place _) => .ok (d.erase place)

/-! ### Listing -/

/-- A place as the path that leads there from a directory. -/
def joined (place : Place) : List UInt8 :=
  match place with
  | [] => []
  | name :: names => name ++ names.flatMap fun n => HostPath.slash :: n

/-- Everything below a directory with the paths from there, in the order of the
bytes of these paths. Directories have no item. -/
def listing (d : Disk) (h : HostPath) : List (List UInt8 × Option DiskItem) :=
  match d.stat h with
  | .ok (.dir entries) =>
    ((Tree.folderPlaces entries).map fun (place, item) => (joined place, item)).mergeSort
      fun a b => !decide (b.1 < a.1)
  | _ => []

end Dfs.Disk
