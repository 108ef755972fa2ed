import Dfs.Store.Basic

/-!
Pruning: a node gives up its copies of files that others own. The directories
that become empty thereby are removed too, but never the root.
-/

namespace Dfs

/-- What pruning removed. -/
structure PruneReport where
  files : Nat
  directories : Nat
  deriving DecidableEq, Repr

namespace Store

/-- What pruning has come to: the disk, the number of files removed, and the
directories to look at afterwards. -/
structure Pruning where
  disk : Disk
  files : Nat
  parents : PathSet

/-- Removes the copy of one duplicate. Its directory is looked at later if the
copy is gone now, be it that it never was there. -/
def removeDuplicate (root : HostPath) (state : Pruning) (p : Path) : Pruning :=
  match p.parent, p.toHost root with
  | .ok parent, .ok h =>
    match state.disk.removeFile h with
    | .ok disk => ⟨disk, state.files + 1, state.parents.insert parent⟩
    | .error fault =>
      if fault.isMissing then { state with parents := state.parents.insert parent } else state
  | _, _ => state

/-- Removes a directory that is empty, and then climbs to its parent. The path is
given by its names, last one first. -/
def climb (root : HostPath) : List Name → Disk → Nat → Disk × Nat
  | [], disk, removed => (disk, removed)
  | name :: above, disk, removed =>
    match Path.toHost root ⟨(name :: above).reverse⟩ with
    | .error _ => (disk, removed)
    | .ok h =>
      if disk.isEmptyDirectory h then
        match disk.removeDirectory h with
        | .error _ => (disk, removed)
        | .ok disk => climb root above disk (removed + 1)
      else (disk, removed)

/-- Deeper directories first, so that a directory is looked at after those in it. -/
def deepestFirst (paths : PathSet) : List Path :=
  paths.toList.mergeSort fun a b => b.depth ≤ a.depth

def prune (st : Store) (duplicates : PathSet) : PruneReport × Store :=
  let pruned := duplicates.toList.foldl (removeDuplicate st.root) ⟨st.disk, 0, ∅⟩
  let (disk, directories) := (deepestFirst pruned.parents).foldl
    (fun (disk, removed) dir => climb st.root dir.components.reverse disk removed) (pruned.disk, 0)
  (⟨pruned.files, directories⟩, { st with disk })

end Store

end Dfs
