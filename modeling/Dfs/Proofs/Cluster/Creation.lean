import Dfs.Proofs.Cluster.Agreement
import Dfs.Proofs.Cluster.Remote
import Dfs.Proofs.Store.Creation

/-!
When a client can create a file. A name that is free in the namespace is taken at the node
whose turn it is, and there it may be that of a directory: nodes keep directories that the
namespace has forgotten, or never knew. So the answer depends on the disk of that node
(`createFile_free`), and a name that a deletion has freed may be refused
(`createFile_refused`).
-/

namespace Dfs.Cluster

open Disk

variable {sites : List Site} {nodes : List (Site × Handle)} {s : Site} {c : Cluster}
  {handle : Handle} {p : Path} {target : Address}

/-- A name that is free in a directory is not that of a file on the disk of a node, and
neither are those that lead there. -/
theorem Agreement.room (agreement : Agreement sites nodes c) (isNode : (s, handle) ∈ nodes)
    (absent : c.registry.contains p = false) (checked : c.registry.checkParent p = .ok ())
    (valid : ∀ name ∈ p.place, HostName.IsValid name) (fits : s.root.Fits p.place) :
    (c.diskOf s.host).Room s.root s.place p.place where
  valid := valid
  fits := fits
  clear := by
    intro xs lead
    by_contra leaf
    obtain ⟨q, rfl, file⟩ := agreement.stored s handle isNode xs leaf (fits.of_isPrefix lead)
    by_cases same : q = p
    · rw [same, Registry.contains_eq_false_iff.mp absent] at file
      cases file
    · rw [Registry.kindAt?_of_checkParent checked (Path.place_prefix_iff.mp lead) same] at file
      cases file

section Free

variable (agreement : Agreement sites nodes c) (started : nodes ≠ [])
  (absent : c.registry.contains p = false) (checked : c.registry.checkParent p = .ok ())
  (valid : ∀ name ∈ p.place, HostName.IsValid name)
  (fits : ∀ n ∈ nodes, n.1.root.Fits p.place)

include agreement started absent checked valid fits

/-- The answer of the naming service is that of the node whose turn it is, which creates the
file unless it has a directory of that name. -/
theorem Agreement.createFile_answer :
    ∃ s h, (s, h) ∈ nodes ∧ c.registry.pick = some h ∧
      (c.registry.createFile (Call.nodeCalls fromNaming) p c).1 =
        .ok (decide ((c.diskOf s.host).kindAt? (s.place ++ p.place) ≠ some .dir)) := by
  have notRoot : p.isRoot = false := by
    by_contra root
    have there : c.registry.names.kindAt? p = some .dir :=
      Namespace.kindAt?_of_isRoot (by simpa using root)
    rw [Registry.contains_eq_false_iff.mp absent] at there
    cases there
  have registered : c.registry.nodes ≠ [] := by
    rw [agreement.registered]
    simpa using started
  obtain ⟨h, reg, reserved⟩ := Registry.exists_reserved absent checked registered
  obtain ⟨-, picked, -⟩ := Registry.reserve_eq_reserved reserved
  have known := Registry.mem_nodes_of_pick picked
  rw [agreement.registered] at known
  obtain ⟨⟨s, h'⟩, isNode, rfl : h' = h⟩ := List.mem_map.mp known
  have asked := nodeCalls_create_of_reached (agreement.reached _ isNode)
    (Request.small_of_fits rfl s.root (fits _ isNode))
  have room := agreement.room isNode absent checked valid (fits _ isNode)
  have serves := agreement.sound.serves (agreement.members _ isNode)
  have created : ((c.storeOf s.host s.root).create p).1 =
      decide ((c.diskOf s.host).kindAt? (s.place ++ p.place) ≠ some .dir) :=
    Store.create_of_room serves.rooted room notRoot
  refine ⟨s, h', isNode, picked, ?_⟩
  rw [Registry.createFile_of_reserved reserved asked, created]
  exact Registry.settle_of_answer reg p h' _

/-- A client gets this answer. -/
theorem Agreement.call_createFile (service : c.network.connect target = .ok (.naming .service)) :
    ∃ s h, (s, h) ∈ nodes ∧ c.registry.pick = some h ∧
      (Call.createFile call target p c).1 =
        .ok (decide ((c.diskOf s.host).kindAt? (s.place ++ p.place) ≠ some .dir)) := by
  obtain ⟨s, h, isNode, picked, answer⟩ :=
    agreement.createFile_answer started absent checked valid fits
  refine ⟨s, h, isNode, picked, ?_⟩
  have direct : ((Operation.createFile p).directly fromNaming s.host s.root c).1 = _ := answer
  have flowFree : (Request.createFile p).FlowFree := by
    simp [Request.FlowFree, Request.addresses]
  have small := Request.small_of_fits (r := .createFile p) rfl s.root (fits _ isNode)
  exact Operation.remotely_call (.createFile p) service flowFree small direct
    (Reply.small_bool _)

end Free

/-- In every cluster that comes about in an orderly way: a name that is free in a directory,
and whose host path the hosts accept, is created with the answer `true`, unless the node
whose turn it is has a directory in its place. Then, and only then, the answer is
`false`. -/
theorem createFile_free {disks : Entries Nat Disk}
    (prepared : Prepared sites (ofDisks .connected disks)) (run : Orderly sites disks c nodes)
    (started : nodes ≠ []) (service : c.network.connect target = .ok (.naming .service))
    (absent : c.registry.contains p = false) {parent : Path} (up : p.parent = .ok parent)
    (inDirectory : c.registry.isDirectory parent = .ok true)
    (valid : ∀ name ∈ p.place, HostName.IsValid name)
    (fits : ∀ n ∈ nodes, n.1.root.Fits p.place) :
    ∃ s h, (s, h) ∈ nodes ∧ c.registry.pick = some h ∧
      ((c.diskOf s.host).kindAt? (s.place ++ p.place) ≠ some .dir →
        (Call.createFile call target p c).1 = .ok true) ∧
      ((c.diskOf s.host).kindAt? (s.place ++ p.place) = some .dir →
        (Call.createFile call target p c).1 = .ok false) := by
  have checked : c.registry.checkParent p = .ok () := by
    rw [Registry.isDirectory, mapError_eq_ok_iff, Namespace.isDirectory_eq_true_iff] at inDirectory
    exact Registry.checkParent_eq_ok_iff.mpr ⟨parent, up, inDirectory⟩
  obtain ⟨s, h, isNode, picked, answer⟩ :=
    (run.agreement prepared).call_createFile started absent checked valid fits service
  refine ⟨s, h, isNode, picked, fun noDir => ?_, fun isDir => ?_⟩
  · rw [answer, decide_eq_true noDir]
  · rw [answer, isDir]
    rfl

theorem valid_nameX : ∀ name ∈ (⟨[nameX]⟩ : Path).place, HostName.IsValid name := by
  decide

theorem fits_home : ∀ n ∈ [(home, nodeAt)], n.1.root.Fits (⟨[nameX]⟩ : Path).place := by
  decide

/-- Beside its file, a node that is alone creates another one. -/
theorem createFile_free_home :
    ∃ c, Prepared [home] (ofDisks .connected [(0, homeDisk)]) ∧
      Orderly [home] [(0, homeDisk)] c [(home, nodeAt)] ∧
      (Call.createFile call serviceAt ⟨[nameX]⟩ c).1 = .ok true := by
  obtain ⟨s, h, isNode, -, created, -⟩ := createFile_free (prepared_home .connected) orderly_home
    (by simp) (rfl : (alone homeDisk home.root homeNames).network.connect serviceAt = _) rfl
    (rfl : Path.parent ⟨[nameX]⟩ = .ok .root) rfl valid_nameX fits_home
  obtain ⟨rfl, rfl⟩ := Prod.mk.inj (List.mem_singleton.mp isNode)
  have noDir : ((alone homeDisk home.root homeNames).diskOf home.host).kindAt?
      (home.place ++ (⟨[nameX]⟩ : Path).place) ≠ some .dir := by
    decide
  exact ⟨_, prepared_home .connected, orderly_home, created noDir⟩

/-! ### A name that is free and cannot be taken -/

/-- In the directory of the node is the directory `x` with the file `f`. -/
def nestedDisk : Disk :=
  { top := [([0x72], .dir [([0x78], .dir [([0x66], .leaf (.file .empty))])])] }

def nestedNames : Namespace := ⟨[(nameX, .dir [(nameF, .leaf nodeAt)])]⟩

/-- The file is gone, and the directory has stayed. -/
def leftDisk : Disk := { top := [([0x72], .dir [([0x78], .dir [])])] }

/-- A client has deleted `/x/f` and then `/x`. -/
def emptied : Cluster :=
  (call serviceAt (.deletePath ⟨[nameX]⟩)
    (call serviceAt (.deletePath ⟨[nameX, nameF]⟩) (alone nestedDisk home.root nestedNames)).2).2

theorem plain_nested : nestedDisk.Plain home.place :=
  Plain.of_places rfl (by decide) (by decide)

theorem prepared_nested : Prepared [home] (ofDisks .connected [(0, nestedDisk)]) :=
  .at_home .connected rfl plain_nested (by decide)

theorem delete_nested : (call serviceAt (.deletePath ⟨[nameX, nameF]⟩)
    (alone nestedDisk home.root nestedNames)).2 = alone leftDisk home.root ⟨[(nameX, .dir [])]⟩ :=
  call_alone_deletePath (Request.small_of_fits rfl home.root (by decide)) rfl rfl rfl

/-- Nobody is asked to delete `/x`, since no file is left in it. -/
theorem delete_left : (call serviceAt (.deletePath ⟨[nameX]⟩)
    (alone leftDisk home.root ⟨[(nameX, .dir [])]⟩)).2 = alone leftDisk home.root .empty :=
  call_alone_deletePath_unowned (Request.small_of_fits rfl home.root (by decide)) rfl rfl rfl

theorem emptied_eq : emptied = alone leftDisk home.root .empty := by
  rw [emptied, delete_nested, delete_left]

theorem orderly_emptied : Orderly [home] [(0, nestedDisk)] emptied [(home, nodeAt)] := by
  have listed : (⟨home.root, nestedDisk⟩ : Store).inventory = .ok (.ofList [⟨[nameX, nameF]⟩]) :=
    Store.inventory_of_leaves ⟨plain_nested, _, rfl⟩ (by decide) rfl (by decide) rfl
  have joined : Orderly [home] [(0, nestedDisk)] (alone nestedDisk home.root nestedNames)
      [(home, nodeAt)] := orderly_alone home.place listed (small_registering (by decide +kernel)) rfl
  have once := joined.called (.deletePath ⟨[nameX, nameF]⟩) fun _ => forClients_alone
  rw [delete_nested] at once
  rw [emptied_eq, ← delete_left]
  exact once.called (.deletePath ⟨[nameX]⟩) fun _ => forClients_alone

/-- The name `/x` is free, and is refused. -/
theorem createFile_refused :
    Prepared [home] (ofDisks .connected [(0, nestedDisk)]) ∧
      Orderly [home] [(0, nestedDisk)] emptied [(home, nodeAt)] ∧
      emptied.network.connect serviceAt = .ok (.naming .service) ∧
      emptied.registry.contains ⟨[nameX]⟩ = false ∧
      Path.parent ⟨[nameX]⟩ = .ok .root ∧ emptied.registry.isDirectory .root = .ok true ∧
      (∀ name ∈ (⟨[nameX]⟩ : Path).place, HostName.IsValid name) ∧
      home.root.Fits (⟨[nameX]⟩ : Path).place ∧
      (Call.createFile call serviceAt ⟨[nameX]⟩ emptied).1 = .ok false := by
  have agreement := orderly_emptied.agreement prepared_nested
  refine ⟨prepared_nested, orderly_emptied, ?_⟩
  rw [emptied_eq] at agreement ⊢
  have checked : (alone leftDisk home.root .empty).registry.checkParent ⟨[nameX]⟩ = .ok () := rfl
  obtain ⟨s, h, isNode, -, answer⟩ :=
    agreement.call_createFile (by simp) rfl checked valid_nameX fits_home
      (rfl : (alone leftDisk home.root .empty).network.connect serviceAt = _)
  obtain ⟨rfl, rfl⟩ := Prod.mk.inj (List.mem_singleton.mp isNode)
  have isDir : ((alone leftDisk home.root .empty).diskOf home.host).kindAt?
      (home.place ++ (⟨[nameX]⟩ : Path).place) = some .dir := rfl
  refine ⟨rfl, rfl, rfl, rfl, valid_nameX, fits_home _ isNode, ?_⟩
  rw [answer, isDir]
  rfl

end Dfs.Cluster
