import Dfs.Cluster.Basic
import Dfs.Endpoints
import Dfs.Store.Inventory
import Dfs.Store.Prune

/-!
Starting a storage node: take an inventory of its root, listen on both endpoints,
register with the naming service, and give up the files that others own. If any
step up to registration fails, the node listens nowhere.
-/

namespace Dfs

/-- A storage node that has registered, and what it gave up. -/
structure Started where
  handle : Handle
  pruned : PruneReport
  deriving DecidableEq, Repr

namespace Cluster

/-- How a node that listens asks a naming service to register it. The answer is the files
that others own. -/
abbrev Registrar := Handle → PathSet → Cluster → Except Error PathSet × Cluster

/-- Registers a node that listens on both addresses, and prunes its files. -/
def join (c : Cluster) (naming : Registrar) (host : Nat) (root : HostPath) (handle : Handle)
    (files : PathSet) : Except Error Started × Cluster :=
  match naming handle files c with
  | (.error e, c) => (.error e, c)
  | (.ok duplicates, c) =>
    let (pruned, store) := (c.storeOf host root).prune duplicates
    (.ok ⟨handle, pruned⟩, c.setDisk host store.disk)

/-- Starts both endpoints of a node, or none. -/
def listenNode (c : Cluster) (host : Nat) (root : HostPath) (endpoints : Endpoints) :
    Except Error (Address × Address) × Cluster :=
  c.listenBoth (endpoints.storage, .node host root .storage)
    (endpoints.command, .node host root .command)

/-- Starts a node that is given its naming service. -/
def startNodeWith (c : Cluster) (naming : Registrar) (host : Nat) (root : HostPath)
    (endpoints : Endpoints) : Except Error Started × Cluster :=
  match (c.storeOf host root).inventory with
  | .error e => (.error e, c)
  | .ok files =>
    match c.listenNode host root endpoints with
    | (.error e, c) => (.error e, c)
    | (.ok (storage, command), c) =>
      match endpoints.handle storage command with
      | .error e => (.error e, (c.unlisten storage).unlisten command)
      | .ok handle =>
        match c.join naming host root handle files with
        | (.error e, c) => (.error e, (c.unlisten storage).unlisten command)
        | (.ok started, c) => (.ok started, c)

/-- Starts a node that registers at an address. -/
def startNode (c : Cluster) (host : Nat) (root : HostPath) (endpoints : Endpoints)
    (registration : Address) : Except Error Started × Cluster :=
  c.startNodeWith (Call.register call registration) host root endpoints

end Cluster

end Dfs
