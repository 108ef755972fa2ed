import Dfs.Store.Basic

/-!
The inventory of a storage node: the paths of all regular files below its root. Directories
are opened in the order in which they are found, so that those nearest to the root come
first. Links are neither followed nor listed.
-/

namespace Dfs.Store

/-- The path of a file at a place below the root. -/
def pathOfPlace (place : Place) : Except PathError Path := Path.ofRelative ⟨Disk.joined place⟩

/-! ### Directories that wait -/

/-- A directory that is to be opened: its place below the root, and what is in it. -/
abbrev Waiting := Place × Tree.Folder HostName DiskItem

/-- The places of the regular files in a directory, in the order of the names. -/
def regularFiles (place : Place) (entries : Tree.Folder HostName DiskItem) : List Place :=
  entries.filterMap fun (name, node) =>
    match node with
    | .leaf (.file _) => some (place ++ [name])
    | _ => none

/-- The directories in a directory, in the order of the names. -/
def subdirectories (place : Place) (entries : Tree.Folder HostName DiskItem) : List Waiting :=
  entries.filterMap fun (name, node) =>
    match node with
    | .dir inner => some (place ++ [name], inner)
    | .leaf _ => none

/-- The number of places at or below the directories that wait. -/
def waitingCount : List Waiting → Nat
  | [] => 0
  | (_, entries) :: waiting => Tree.folderCount entries + 1 + waitingCount waiting

theorem waitingCount_append (xs ys : List Waiting) :
    waitingCount (xs ++ ys) = waitingCount xs + waitingCount ys := by
  induction xs with
  | nil => rw [List.nil_append, waitingCount, Nat.zero_add]
  | cons x xs ih =>
    rw [List.cons_append, waitingCount, waitingCount, ih]
    omega

theorem waitingCount_subdirectories_le (place : Place) (entries : Tree.Folder HostName DiskItem) :
    waitingCount (subdirectories place entries) ≤ Tree.folderCount entries := by
  induction entries with
  | nil => exact Nat.le_refl 0
  | cons e entries ih =>
    obtain ⟨name, node⟩ := e
    cases node with
    | leaf item =>
      rw [Tree.folderCount]
      exact Nat.le_add_left_of_le ih
    | dir inner =>
      rw [Tree.folderCount, Tree.count]
      exact Nat.add_le_add_left ih _

/-- When a directory has been opened, less is left. -/
theorem waitingCount_opened_lt (place : Place) (entries : Tree.Folder HostName DiskItem)
    (waiting : List Waiting) : waitingCount (waiting ++ subdirectories place entries) <
      waitingCount ((place, entries) :: waiting) := by
  have fewer := waitingCount_subdirectories_le place entries
  rw [waitingCount_append, waitingCount]
  omega

/-- Opens directories, the first one that waits first; those that are found in it wait behind
the others. Nothing is listed if the host does not accept the path of a directory, or a
regular file has no path. -/
def visit (root : HostPath) : List Waiting → Except Error (List Path)
  | [] => .ok []
  | (place, entries) :: waiting =>
    match (root.below place).check with
    | .error fault => .error (.ofFault (root.below place).display fault)
    | .ok () =>
      match (regularFiles place entries).mapM pathOfPlace with
      | .error e => .error e.toError
      | .ok files => (visit root (waiting ++ subdirectories place entries)).map (files ++ ·)
termination_by waiting => waitingCount waiting
decreasing_by exact waitingCount_opened_lt place entries waiting

def inventory (st : Store) : Except Error PathSet :=
  match st.disk.stat st.root with
  | .error fault =>
    if fault.isMissing then .error (.notFound s!"no such directory '{st.root.display}'")
    else .error (.io s!"{st.root.display}: {fault.text}")
  | .ok (.leaf _) => .error (.invalidArgument s!"'{st.root.display}' is not a directory")
  | .ok (.dir entries) => (visit st.root [([], entries)]).map .ofList

end Dfs.Store
