import Dfs.Proofs.Cluster.Network
import Dfs.Proofs.Cluster.Sites
import Dfs.Proofs.Naming.Changes
import Dfs.Proofs.Store.Tending
import Dfs.Proofs.Transport

/-!
Calls between the hosts of a cluster. A call ends without effect, or the server behind
its target sees the request (`callWith_cases`). In a cluster whose endpoints are those of
the naming service and of nodes on the sites, whatever is called leaves the network as it
is, and changes disks below the sites only. What holds of the cluster therefore goes on to
hold, if each request to a node keeps it (`KeptByServers.call`).
-/

namespace Dfs.Cluster

open Disk

/-! ### Servers -/

/-- How the endpoint behind a role answers; a scripted node is no server. -/
def server? (inner : Caller Cluster) : Role → Option (Server Cluster)
  | .naming i => some (server inner i 0 ⟨[]⟩)
  | .node host root i => some (server inner i host root)
  | .scripted .. => none

variable {inner : Caller Cluster} {target : Address} {r : Request} {c : Cluster} {role : Role}
  {answers : Server Cluster}

theorem answerStream_of_server (behind : server? inner role = some answers) (stream : List UInt8) :
    answerStream inner role stream c = Connection.serveStream answers stream c := by
  cases role with
  | naming i =>
      obtain rfl := Option.some.inj behind
      rfl
  | node host root i =>
      obtain rfl := Option.some.inj behind
      rfl
  | scripted host i => cases behind

section Reached

variable (reached : c.network.connect target = .ok role)
  (behind : server? inner role = some answers)
  (small : (Utf8.encode r.text).length ≤ Frame.maxLength)

include reached behind small

theorem callWith_of_server : callWith inner target r c =
    (Connection.receive target (Connection.serveStream answers
      (Frame.encode (Utf8.encode r.text)) c).1, (answers r.withoutFlow c).2) := by
  have sent : Connection.send target r = .ok (Frame.encode (Utf8.encode r.text)) :=
    Connection.send_eq_ok_iff.mpr ⟨small, rfl⟩
  unfold callWith
  rw [reached]
  dsimp only
  rw [sent]
  dsimp only
  rw [answerStream_of_server behind, Connection.serveStream_of_send sent]

/-- The reply comes back, if it can be sent. -/
theorem callWith_of_reply
    (short : (Utf8.encode (Reply.text (answers r.withoutFlow c).1)).length ≤ Frame.maxLength) :
    callWith inner target r c =
      (Reply.withoutFlow (answers r.withoutFlow c).1, (answers r.withoutFlow c).2) := by
  have sent : Connection.send target r = .ok (Frame.encode (Utf8.encode r.text)) :=
    Connection.send_eq_ok_iff.mpr ⟨small, rfl⟩
  rw [callWith_of_server reached behind small, Connection.receive_of_send sent c short]

theorem callWith_of_error {e : Error} (failed : (answers r.withoutFlow c).1 = .error e) :
    ∃ e', (callWith inner target r c).1 = .error e' := by
  have sent : Connection.send target r = .ok (Frame.encode (Utf8.encode r.text)) :=
    Connection.send_eq_ok_iff.mpr ⟨small, rfl⟩
  obtain ⟨e', received⟩ : ∃ e', Connection.receive target
      (Connection.serveStream answers (Frame.encode (Utf8.encode r.text)) c).1 = .error e' :=
    Connection.receive_of_error sent c failed
  refine ⟨e', ?_⟩
  rw [callWith_of_server reached behind small, received]

end Reached

/-- A request that is too large is not sent. -/
theorem callWith_of_large (reached : c.network.connect target = .ok role)
    (large : Frame.maxLength < (Utf8.encode r.text).length) :
    callWith inner target r c =
      (.error (.transport s!"send to {target}: frame size too big"), c) := by
  unfold callWith Connection.send
  rw [reached]
  simp [large]

/-- A call ends without effect, or one server sees the request. -/
theorem callWith_cases (target : Address) (r : Request)
    (serving : ∀ l ∈ c.network.listeners, server? inner l.2 ≠ none) :
    (∃ e, callWith inner target r c = (.error e, c)) ∨
      ∃ role answers, c.network.connect target = .ok role ∧ server? inner role = some answers ∧
        (Utf8.encode r.text).length ≤ Frame.maxLength ∧
        (callWith inner target r c).2 = (answers r.withoutFlow c).2 := by
  cases reached : c.network.connect target with
  | error fault =>
      refine .inl ⟨.transport s!"connect to {target}: {fault.text}", ?_⟩
      unfold callWith
      rw [reached]
  | ok role =>
      obtain ⟨l, mem, rfl⟩ := Network.exists_listener_of_connect reached
      obtain ⟨answers, behind⟩ := Option.ne_none_iff_exists'.mp (serving l mem)
      by_cases small : (Utf8.encode r.text).length ≤ Frame.maxLength
      · refine .inr ⟨l.2, answers, rfl, behind, small, ?_⟩
        rw [callWith_of_server reached behind small]
      · exact .inl ⟨_, callWith_of_large reached (by omega)⟩

/-! ### Sound clusters -/

/-- The role is one of the naming service, or of a storage node on a site. -/
inductive Proper (sites : List Site) : Role → Prop where
  | service : Proper sites (.naming .service)
  | registration : Proper sites (.naming .registration)
  | storage {s : Site} : s ∈ sites → Proper sites (.node s.host s.root .storage)
  | command {s : Site} : s ∈ sites → Proper sites (.node s.host s.root .command)

/-- The sites can be served, and whatever listens is the naming service or a node on a
site. -/
structure Sound (sites : List Site) (c : Cluster) : Prop extends Prepared sites c where
  roles : ∀ l ∈ c.network.listeners, Proper sites l.2

/-- The sites are laid out, and whatever listens is the naming service or a node on a site. -/
structure Standing (sites : List Site) (c : Cluster) : Prop extends Laid sites c where
  roles : ∀ l ∈ c.network.listeners, Proper sites l.2

variable {sites : List Site} {s : Site} {c' : Cluster}

theorem Sound.standing (sound : Sound sites c) : Standing sites c where
  toLaid := sound.laid
  roles := sound.roles

theorem Proper.server?_ne_none (proper : Proper sites role) : server? inner role ≠ none := by
  cases proper <;> simp [server?]

theorem Standing.proper (standing : Standing sites c)
    (reached : c.network.connect target = .ok role) : Proper sites role := by
  obtain ⟨l, mem, rfl⟩ := Network.exists_listener_of_connect reached
  exact standing.roles l mem

theorem Standing.serving (standing : Standing sites c) (inner : Caller Cluster) :
    ∀ l ∈ c.network.listeners, server? inner l.2 ≠ none :=
  fun l mem => (standing.roles l mem).server?_ne_none

/-- Only the registry is another one, and the disks as a host sees them are the same. -/
theorem Sound.congr (sound : Sound sites c) (network : c'.network = c.network)
    (disks : ∀ host, c'.diskOf host = c.diskOf host) : Sound sites c' where
  toPrepared := sound.toPrepared.congr disks
  roles := by
    rw [network]
    exact sound.roles

theorem Standing.congr (standing : Standing sites c) (network : c'.network = c.network)
    (disks : ∀ host, c'.diskOf host = c.diskOf host) : Standing sites c' where
  toLaid := standing.toLaid.congr disks
  roles := by
    rw [network]
    exact standing.roles

theorem Sound.setDisk (sound : Sound sites c) (mem : s ∈ sites) {disk : Disk}
    (worked : Worked s.place (c.diskOf s.host) disk) : Sound sites (c.setDisk s.host disk) where
  toPrepared := sound.toPrepared.setDisk worked mem
  roles := sound.roles

/-! ### Effects of servers -/

/-- What holds of a cluster, and goes on to hold whatever its servers do. -/
structure KeptByServers (sites : List Site) (Holds : Cluster → Prop) : Prop where
  standing : ∀ {c}, Holds c → Standing sites c
  registry : ∀ {c}, Holds c → ∀ registry, Holds { c with registry }
  storage : ∀ {c s}, Holds c → s ∈ sites → ∀ r,
    Holds (c.setDisk s.host ((c.storeOf s.host s.root).serveStorage r).2.disk)
  command : ∀ {c s}, Holds c → s ∈ sites → ∀ r,
    Holds (c.setDisk s.host ((c.storeOf s.host s.root).serveCommand r).2.disk)

namespace KeptByServers

variable {Holds : Cluster → Prop} (kept : KeptByServers sites Holds)

include kept

/-- It holds after a request, if it does after what the server calls. -/
theorem server? (holds : Holds c) (proper : Proper sites role)
    (behind : server? inner role = some answers)
    (calls : ∀ target r c, Holds c → Holds (inner target r c).2) (r : Request) :
    Holds (answers r c).2 := by
  cases proper with
  | service =>
      obtain rfl := Option.some.inj behind
      have world : Holds (c.registry.serveClient (Call.nodeCalls inner) r c).2.2 :=
        Registry.world_serveClient (fun h p c => calls h.command (.create p) c)
          (fun h p c => calls h.command (.delete p) c) c.registry r holds
      exact kept.registry world _
  | registration =>
      obtain rfl := Option.some.inj behind
      exact kept.registry holds _
  | storage mem =>
      obtain rfl := Option.some.inj behind
      exact kept.storage holds mem r
  | command mem =>
      obtain rfl := Option.some.inj behind
      exact kept.command holds mem r

theorem callWith (holds : Holds c) (calls : ∀ target r c, Holds c → Holds (inner target r c).2)
    (target : Address) (r : Request) : Holds (callWith inner target r c).2 := by
  have standing := kept.standing holds
  rcases callWith_cases target r (standing.serving inner) with
    ⟨e, same⟩ | ⟨role, answers, reached, behind, -, changed⟩
  · rw [same]
    exact holds
  · rw [changed]
    exact kept.server? holds (standing.proper reached) behind calls _

/-- Whoever calls an endpoint, it holds afterwards. -/
theorem call (holds : Holds c) (target : Address) (r : Request) : Holds (call target r c).2 :=
  kept.callWith holds
    (fun target r _ holds => kept.callWith holds (fun _ _ _ holds => holds) target r) target r

end KeptByServers

/-- A node that serves contents changes its own site only. -/
theorem Sound.server_storage (sound : Sound sites c) (inner : Caller Cluster) (mem : s ∈ sites)
    (r : Request) :
    ∃ disk, (server inner .storage s.host s.root r c).2 = c.setDisk s.host disk ∧
      Worked s.place (c.diskOf s.host) disk ∧
      ∀ js, disk.leafAt? js = none ↔ (c.diskOf s.host).leafAt? js = none := by
  obtain ⟨disk, served, worked, leaves⟩ :=
    Store.serveStorage_spec (sound.store_serves mem) r
  refine ⟨disk, ?_, worked, leaves⟩
  unfold server onStore
  dsimp only
  rw [served]

theorem Sound.kept : KeptByServers sites (Sound sites) where
  standing := Sound.standing
  registry := fun sound _ => sound.congr rfl fun _ => rfl
  storage := by
    intro c s sound mem r
    obtain ⟨disk, served, worked, -⟩ := Store.serveStorage_spec (sound.store_serves mem) r
    rw [served]
    exact sound.setDisk mem worked
  command := by
    intro c s sound mem r
    obtain ⟨disk, served, worked⟩ := Store.serveCommand_spec (sound.store_serves mem) r
    rw [served]
    exact sound.setDisk mem worked

theorem Standing.kept : KeptByServers sites (Standing sites) where
  standing := id
  registry := fun standing _ => standing.congr rfl fun _ => rfl
  storage := by
    intro c s standing mem r
    have tended := @Store.tended_serveStorage (c.storeOf s.host s.root) _ _ (standing.houses mem) r
    exact ⟨standing.toLaid.setDisk tended, standing.roles⟩
  command := by
    intro c s standing mem r
    have tended := @Store.tended_serveCommand (c.storeOf s.host s.root) _ _ (standing.houses mem) r
    exact ⟨standing.toLaid.setDisk tended, standing.roles⟩

/-- Whoever calls an endpoint, the cluster stays sound. -/
theorem Sound.call (sound : Sound sites c) (target : Address) (r : Request) :
    Sound sites (call target r c).2 :=
  Sound.kept.call sound target r

end Dfs.Cluster
