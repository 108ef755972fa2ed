import Dfs.Proofs.Cluster.Commands
import Dfs.Proofs.Cluster.Start
import Dfs.Proofs.Naming.Handles

/-!
A storage node alone: the cluster of the naming service and one node on one host. Its
namespace is what the node brings with it (`startNode_alone`), and a deletion takes
its name away whatever the node does about it (`call_alone_deletePath`), even if it is not
asked (`call_alone_deletePath_unowned`).
-/

namespace Dfs

namespace Cluster

open Disk

/-- Where the naming service takes the requests of clients. -/
def serviceAt : Address := .loopback 6000

/-- Where the naming service takes registrations. -/
def registrationAt : Address := .loopback 6001

/-- The addresses of the node. -/
def nodeAt : Handle := ⟨.loopback 7000, .loopback 7001⟩

/-- The node listens at its addresses and makes them known. -/
def nodeEndpoints : Endpoints := ⟨nodeAt.storage, nodeAt.command, none⟩

/-- A naming service without nodes, and a host with a disk. -/
def served (d : Disk) : Cluster :=
  ⟨.empty, ⟨.connected, [(serviceAt, .naming .service), (registrationAt, .naming .registration)]⟩,
    [(0, d)], []⟩

/-- A naming service with one node, which is on the host, and the names that are known. -/
def alone (d : Disk) (root : HostPath) (names : Namespace) : Cluster :=
  ⟨⟨names, [nodeAt], 0⟩, ⟨.connected, (served d).network.listeners ++
    endpointsOf ⟨0, root, []⟩ nodeAt.storage nodeAt.command⟩, [(0, d)], []⟩

theorem startNaming_served (d : Disk) :
    (ofDisks .connected [(0, d)]).startNaming serviceAt registrationAt = .ok (served d) := rfl

theorem server_deletePath (inner : Caller Cluster) (p : Path) (c : Cluster) :
    (server inner .service 0 ⟨[]⟩ (Request.deletePath p).withoutFlow c).2 =
      { (c.registry.delete (Call.nodeCalls inner) p c).2.2 with
        registry := (c.registry.delete (Call.nodeCalls inner) p c).2.1 } :=
  rfl

theorem nodeCalls_delete (inner : Caller Cluster) (h : Handle) (p : Path) (c : Cluster) :
    ((Call.nodeCalls inner).delete h p c).2 = (inner h.command (.delete p) c).2 := rfl

variable {d : Disk} {root : HostPath} {files : PathSet} {names names' : Namespace} {p : Path}

/-- One site can be served, if its path leads there and the disk is as it has to be. -/
theorem Prepared.of_leads {route : Route} {place : Place} (leads : d.Leads [place] root place)
    (plain : d.Plain place) (ordered : (Tree.dir d.top).Ordered) :
    Prepared [⟨0, root, place⟩] (ofDisks route [(0, d)]) where
  apart := by
    intro s memS t memT other
    obtain rfl := List.mem_singleton.mp memS
    exact absurd (List.mem_singleton.mp memT).symm other
  leads := by
    intro s mem
    obtain rfl := List.mem_singleton.mp mem
    apply leads.mono
    simp [Site.placesOn]
  plain := by
    intro s mem
    obtain rfl := List.mem_singleton.mp mem
    exact plain
  ordered := by
    intro s mem
    obtain rfl := List.mem_singleton.mp mem
    exact ordered

/-- The node can register a thousand bytes of paths. -/
theorem small_registering (few : Json.bytesOf (Json.ofPaths files).render ≤ 1000) :
    (Utf8.encode (registering nodeAt files).text).length ≤ Frame.maxLength := by
  have storage : Json.bytesOf (Json.ofEndpoint nodeAt.storage).render ≤ 100 := by decide +kernel
  have command : Json.bytesOf (Json.ofEndpoint nodeAt.command).render ≤ 100 := by decide +kernel
  have limit : 100 + 100 + 1000 + 52 ≤ Frame.maxLength := by decide
  rw [registering, Request.length_text_register]
  omega

/-- The node joins with all of its files. -/
theorem startNode_alone (listed : (⟨root, d⟩ : Store).inventory = .ok files)
    (small : (Utf8.encode (registering nodeAt files).text).length ≤ Frame.maxLength)
    (registered : Registry.empty.register nodeAt files = (.ok ∅, ⟨names, [nodeAt], 0⟩)) :
    (served d).startNode 0 root nodeEndpoints registrationAt =
      (.ok ⟨nodeAt, ⟨0, 0⟩⟩, alone d root names) := by
  have joined : (served d).startNode 0 root nodeEndpoints registrationAt = _ :=
    @startNode_of_reached ⟨0, root, []⟩ (served d) nodeAt _ _ nodeEndpoints _ _ _ _ _ listed rfl rfl
      rfl small registered
  rw [joined, Store.prune_empty]
  rfl

/-- A client deletes a path: the name is gone, and the disk is as the node leaves it. -/
theorem call_alone_deletePath {entry : Entry}
    (small : (Utf8.encode (Request.deletePath p).text).length ≤ Frame.maxLength)
    (notRoot : p.isRoot = false) (removed : names.remove p = some (entry, names'))
    (owners : (Entry.owners entry).toList = [nodeAt]) :
    (call serviceAt (.deletePath p) (alone d root names)).2 =
      alone ((⟨root, d⟩ : Store).delete p).2.disk root names' := by
  have reached : (alone d root names).network.connect serviceAt = .ok (.naming .service) := rfl
  have reachedNode : (alone d root names).network.connect nodeAt.command =
    .ok (.node 0 root .command) := rfl
  have asked : (fromNaming nodeAt.command (.delete p) (alone d root names)).2 =
      (alone d root names).setDisk 0 ((⟨root, d⟩ : Store).delete p).2.disk := by
    rw [delete_of_reached reachedNode small]
    rfl
  rw [call_eq, callWith_of_server reached rfl small, server_deletePath,
    Registry.delete_of_owner notRoot removed owners, nodeCalls_delete, asked]
  rfl

/-- A client deletes directories without files: nobody is asked, and the disk stays. -/
theorem call_alone_deletePath_unowned {entry : Entry}
    (small : (Utf8.encode (Request.deletePath p).text).length ≤ Frame.maxLength)
    (notRoot : p.isRoot = false) (removed : names.remove p = some (entry, names'))
    (unowned : (Entry.owners entry).toList = []) :
    (call serviceAt (.deletePath p) (alone d root names)).2 = alone d root names' := by
  have reached : (alone d root names).network.connect serviceAt = .ok (.naming .service) := rfl
  rw [call_eq, callWith_of_server reached rfl small, server_deletePath,
    Registry.delete_of_removed notRoot removed, unowned]
  rfl

/-! ### One file -/

/-- The directory `r` at the top of the disk of the host. -/
def home : Site := ⟨0, ⟨[0x72]⟩, [[0x72]]⟩

def nameF : Name := ⟨"f", by decide⟩

/-- The file `/f`. -/
def homeFile : Path := ⟨[nameF]⟩

/-- In the directory is nothing but that file, which is empty. -/
def homeDisk : Disk := { top := [([0x72], .dir [([0x66], .leaf (.file .empty))])] }

/-- The file belongs to the node. -/
def homeNames : Namespace := ⟨[(nameF, .leaf nodeAt)]⟩

/-- The directory can be served on every disk that has it. -/
theorem Prepared.at_home (route : Route) (isDir : d.kindAt? home.place = some .dir)
    (plain : d.Plain home.place) (ordered : (Tree.dir d.top).Ordered) :
    Prepared [home] (ofDisks route [(0, d)]) := by
  have leads : d.Leads [home.place] home.root home.place := by
    apply Leads.of_name (by decide) isDir
    simp [home, Inside]
  exact .of_leads leads plain ordered

theorem prepared_home (route : Route) : Prepared [home] (ofDisks route [(0, homeDisk)]) := by
  have ordered : (Tree.dir homeDisk.top).Ordered := by decide
  exact .at_home route rfl (Plain.of_places rfl ordered (by decide)) ordered

theorem inventory_home : (⟨home.root, homeDisk⟩ : Store).inventory = .ok (.ofList [homeFile]) := by
  have ordered : (Tree.dir homeDisk.top).Ordered := by decide
  have plain : homeDisk.Plain home.place := Plain.of_places rfl ordered (by decide)
  exact Store.inventory_of_leaves ⟨plain, _, rfl⟩ ordered rfl (by decide) rfl

/-- No other node is known than this one. -/
theorem eq_nodeAt_of_knows {h : Handle}
    (known : (alone homeDisk home.root homeNames).registry.Knows h) : h = nodeAt := by
  have registered : Registry.empty.register nodeAt (.ofList [homeFile]) =
      (.ok ∅, (alone homeDisk home.root homeNames).registry) := rfl
  have known' : (Registry.empty.register nodeAt (.ofList [homeFile])).2.Knows h := by
    rwa [registered]
  rcases Registry.knows_register known' with (mem | ⟨p, file⟩) | same
  · cases mem
  · exact absurd file (Namespace.kindAt?_empty_ne_leaf p h)
  · exact same

theorem small_home : (Utf8.encode (registering nodeAt (.ofList [homeFile])).text).length ≤
    Frame.maxLength :=
  small_registering (by decide +kernel)

theorem startNode_home : (served homeDisk).startNode 0 home.root nodeEndpoints registrationAt =
    (.ok ⟨nodeAt, ⟨0, 0⟩⟩, alone homeDisk home.root homeNames) :=
  startNode_alone inventory_home small_home rfl

end Cluster

end Dfs
