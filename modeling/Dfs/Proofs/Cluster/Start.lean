import Dfs.Cluster.Start
import Dfs.Proofs.Cluster.Calls
import Dfs.Proofs.Message.Length
import Dfs.Proofs.Naming.Registration
import Dfs.Proofs.Store.Inventory
import Dfs.Proofs.Store.Prune

/-!
Starting a storage node. A start that fails leaves the registry, the network and the disks
as they were. A start that succeeds has taken the inventory, added the node to the
registry and two endpoints to the network, and pruned the duplicates (`startNode_cases`).
-/

namespace Dfs

/-- The handle as it arrives at another host. -/
def Handle.withoutFlow (h : Handle) : Handle := ⟨h.storage.withoutFlow, h.command.withoutFlow⟩

theorem Endpoints.withoutFlow_handle {e : Endpoints} {storage command : Address} {handle : Handle}
    (made : e.handle storage command = .ok handle) : handle.withoutFlow = handle := by
  have flowless : ∀ {bound a : Address}, e.reachable bound = .ok a → a.withoutFlow = a := by
    intro bound a reached
    unfold reachable at reached
    dsimp only at reached
    split at reached
    · cases reached
    · obtain rfl := Except.ok.inj reached
      cases e.advertise.getD bound.ip <;> rfl
  unfold Endpoints.handle at made
  split at made
  · cases made
  next storageAt storageReached =>
  split at made
  · cases made
  next commandAt commandReached =>
  obtain rfl := Except.ok.inj made
  exact Handle.ext (flowless storageReached) (flowless commandReached)

namespace Cluster

open Disk

variable {sites : List Site} {s : Site} {c c' : Cluster} {handle : Handle} {files : PathSet}
  {registration : Address}

/-- Nothing has changed that anyone can see. -/
structure SameAs (c c' : Cluster) : Prop where
  registry : c'.registry = c.registry
  network : c'.network = c.network
  disks : ∀ host, c'.diskOf host = c.diskOf host

theorem SameAs.refl (c : Cluster) : SameAs c c := ⟨rfl, rfl, fun _ => rfl⟩

/-! ### The naming service -/

/-- A cluster in which nothing listens, with these disks. -/
def ofDisks (route : Route) (disks : Entries Nat Disk) : Cluster := ⟨.empty, ⟨route, []⟩, disks, []⟩

theorem listen_eq_ok {a bound : Address} {role : Role} (done : c.listen a role = .ok (bound, c')) :
    c' = { c with network :=
        { c.network with listeners := c.network.listeners ++ [(bound, role)] } } ∧
      ∀ l ∈ c.network.listeners, Network.clashes l.1 bound = false := by
  unfold listen at done
  split at done
  · cases done
  next bound' network isBound =>
  obtain ⟨rfl, rfl⟩ := Prod.mk.inj (Except.ok.inj done)
  obtain ⟨rfl, clear⟩ := Network.bind_eq_ok isBound
  exact ⟨rfl, clear⟩

/-- Two endpoints listen besides all others, and when both are given up, the network is as
it was. -/
theorem listenBoth_eq_ok {first second : Address × Role} {a b : Address}
    (done : c.listenBoth first second = (.ok (a, b), c')) :
    c' = { c with network := { c.network with listeners :=
        c.network.listeners ++ [(a, first.2)] ++ [(b, second.2)] } } ∧
      (c'.network.release a).release b = c.network := by
  unfold listenBoth at done
  split at done
  · cases done
  next a' c₁ firstListens =>
  split at done
  · cases done
  next b' c₂ secondListens =>
  obtain ⟨bound, rfl⟩ := Prod.mk.inj done
  obtain ⟨rfl, rfl⟩ := Prod.mk.inj (Except.ok.inj bound)
  obtain ⟨rfl, clear⟩ := listen_eq_ok firstListens
  obtain ⟨rfl, clear'⟩ := listen_eq_ok secondListens
  exact ⟨rfl, Network.release_append_two clear clear'⟩

theorem bound_of_listen {a bound : Address} {role : Role}
    (done : c.listen a role = .ok (bound, c')) : bound.ip = a.ip ∧ bound.port ≠ 0 := by
  unfold listen at done
  split at done
  · cases done
  · next bound' network isBound =>
      obtain ⟨rfl, -⟩ := Prod.mk.inj (Except.ok.inj done)
      exact Network.bound_of_bind isBound

/-- Both addresses are those which were given, with fixed ports. -/
theorem bound_of_listenBoth {first second : Address × Role} {a b : Address}
    (done : c.listenBoth first second = (.ok (a, b), c')) :
    (a.ip = first.1.ip ∧ a.port ≠ 0) ∧ b.ip = second.1.ip ∧ b.port ≠ 0 := by
  unfold listenBoth at done
  split at done
  · cases done
  next a' c₁ firstListens =>
  split at done
  · cases done
  next b' c₂ secondListens =>
  obtain ⟨rfl, rfl⟩ := Prod.mk.inj (Except.ok.inj (Prod.mk.inj done).1)
  exact ⟨bound_of_listen firstListens, bound_of_listen secondListens⟩

/-- If one endpoint cannot listen, the other one does not either. -/
theorem listenBoth_eq_error {first second : Address × Role} {e : Error}
    (done : c.listenBoth first second = (.error e, c')) : c' = c := by
  unfold listenBoth at done
  split at done
  · exact (Prod.mk.inj done).2.symm
  next a c₁ firstListens =>
  obtain ⟨rfl, clear⟩ := listen_eq_ok firstListens
  split at done
  · obtain ⟨-, rfl⟩ := Prod.mk.inj done
    unfold unlisten
    dsimp only
    rw [Network.release_append_self clear]
  · cases done

theorem startNaming_eq_ok {service registration : Address}
    (done : c.startNaming service registration = .ok c') :
    ∃ a b, c' = { c with network := { c.network with listeners :=
      c.network.listeners ++ [(a, .naming .service)] ++ [(b, .naming .registration)] } } := by
  unfold Cluster.startNaming at done
  split at done
  · cases done
  next bound c₁ listening =>
  obtain rfl := Except.ok.inj done
  exact ⟨bound.1, bound.2, (listenBoth_eq_ok listening).1⟩

section StartNaming

variable {route : Route} {disks : Entries Nat Disk} {service : Address}
  (done : (ofDisks route disks).startNaming service registration = .ok c)

include done

theorem proper_startNaming : ∀ l ∈ c.network.listeners, Proper sites l.2 := by
  obtain ⟨a, b, rfl⟩ := startNaming_eq_ok done
  intro l listens
  simp only [ofDisks, List.nil_append, List.cons_append, List.mem_cons, List.not_mem_nil,
    or_false] at listens
  rcases listens with rfl | rfl
  · exact .service
  · exact .registration

theorem diskOf_startNaming (host : Nat) : c.diskOf host = (ofDisks route disks).diskOf host := by
  obtain ⟨a, b, rfl⟩ := startNaming_eq_ok done
  rfl

/-- A prepared cluster is sound once the naming service has started. -/
theorem Prepared.startNaming (prepared : Prepared sites (ofDisks route disks)) :
    Sound sites c :=
  ⟨prepared.congr (diskOf_startNaming done), proper_startNaming done⟩

theorem Laid.startNaming (laid : Laid sites (ofDisks route disks)) : Standing sites c :=
  ⟨laid.congr (diskOf_startNaming done), proper_startNaming done⟩

end StartNaming

/-! ### Registration -/

/-- What the naming service is asked for a node. -/
def registering (node : Handle) (files : PathSet) : Request :=
  .register (some node.storage) (some node.command) (some files)

theorem register_eq {σ : Type} (caller : Caller σ) (target : Address) (node : Handle)
    (files : PathSet) (w : σ) : Call.register caller target node files w =
      ((caller target (registering node files) w).1.bind Response.toDuplicates,
        (caller target (registering node files) w).2) :=
  rfl

/-- A registration that the naming service is not asked for fails. -/
theorem register_refused {inner : Caller Cluster} {role : Role} {answers : Server Cluster}
    (proper : Proper sites role) (other : role ≠ .naming .registration)
    (behind : server? inner role = some answers) (handle : Handle) (files : PathSet) (c : Cluster) :
    (∃ e, (answers (registering handle files) c).1 = .error e) ∧
      SameAs c (answers (registering handle files) c).2 := by
  cases proper with
  | service =>
      obtain rfl := Option.some.inj behind
      exact ⟨⟨_, rfl⟩, .refl c⟩
  | registration => exact absurd rfl other
  | @storage s mem =>
      obtain rfl := Option.some.inj behind
      exact ⟨⟨_, rfl⟩, rfl, rfl, diskOf_setDisk_diskOf c s.host⟩
  | @command s mem =>
      obtain rfl := Option.some.inj behind
      exact ⟨⟨_, rfl⟩, rfl, rfl, diskOf_setDisk_diskOf c s.host⟩

section Asked

theorem withoutFlow_registering (flowless : handle.withoutFlow = handle) (files : PathSet) :
    (registering handle files).withoutFlow = registering handle files := by
  have storage : handle.storage.withoutFlow = handle.storage := congrArg Handle.storage flowless
  have command : handle.command.withoutFlow = handle.command := congrArg Handle.command flowless
  rw [registering, Request.withoutFlow, Option.map_some, Option.map_some, storage, command]

theorem server_registering (inner : Caller Cluster) (handle : Handle) (files : PathSet)
    (c : Cluster) : server inner .registration 0 ⟨[]⟩ (registering handle files) c =
      ((c.registry.register handle files).1.map fun duplicates => .duplicates (some duplicates),
        { c with registry := (c.registry.register handle files).2 }) :=
  rfl

variable (flowless : handle.withoutFlow = handle)
  (reached : c.network.connect registration = .ok (.naming .registration))
  (small : (Utf8.encode (registering handle files).text).length ≤ Frame.maxLength)

include flowless reached small

/-- A node that is not refused learns its duplicates. -/
theorem register_of_reached {duplicates : PathSet} {registry : Registry}
    (registered : c.registry.register handle files = (.ok duplicates, registry)) :
    Call.register call registration handle files c = (.ok duplicates, { c with registry }) := by
  have kept := withoutFlow_registering flowless files
  have served := server_registering (callWith callNobody) handle files c
  rw [registered] at served
  have listed : ∀ p ∈ duplicates, p ∈ files := by
    by_cases known : handle ∈ c.registry.nodes
    · rw [Registry.register_of_mem known] at registered
      cases registered
    · obtain ⟨duplicates', names, taken, answer, found, -, -⟩ :=
        Registry.register_of_not_mem known files
      rw [answer] at registered
      obtain rfl := Except.ok.inj (Prod.mk.inj registered).1
      exact fun p mem => ((found p).mp mem).1
  have short : (Utf8.encode (Reply.text (server (callWith callNobody) .registration 0 ⟨[]⟩
      (registering handle files).withoutFlow c).1)).length ≤ Frame.maxLength := by
    rw [kept, served]
    exact (Request.length_duplicates_le handle listed).trans small
  have answered := callWith_of_reply reached rfl small short
  rw [kept, served] at answered
  rw [register_eq, call, answered]
  rfl

/-- A node that is registered already is refused. -/
theorem register_of_known (known : handle ∈ c.registry.nodes) :
    (∃ e, (call registration (registering handle files) c).1 = .error e) ∧
      (call registration (registering handle files) c).2 = c := by
  have kept := withoutFlow_registering flowless files
  have served := server_registering (callWith callNobody) handle files c
  rw [Registry.register_of_mem known] at served
  constructor
  · apply callWith_of_error (e := .alreadyRegistered handle.text) reached rfl small
    rw [kept, served]
    rfl
  · rw [call, callWith_of_server reached rfl small, kept, served]

end Asked

/-- A registration fails and changes nothing, or is that of the registry. -/
theorem register_cases (standing : Standing sites c) (flowless : handle.withoutFlow = handle)
    (files : PathSet) (registration : Address) :
    (∃ e c', Call.register call registration handle files c = (.error e, c') ∧ SameAs c c') ∨
      ∃ duplicates registry, c.registry.register handle files = (.ok duplicates, registry) ∧
        Call.register call registration handle files c = (.ok duplicates, { c with registry }) := by
  have failed : ∀ {e c'}, call registration (registering handle files) c = (.error e, c') →
      SameAs c c' →
      ∃ e c', Call.register call registration handle files c = (.error e, c') ∧ SameAs c c' := by
    intro e c' answered same
    refine ⟨e, c', ?_, same⟩
    rw [register_eq, answered]
    rfl
  rcases callWith_cases registration (registering handle files)
    (standing.serving (callWith callNobody)) with
    ⟨e, unreached⟩ | ⟨role, answers, reached, behind, small, changed⟩
  · exact .inl (failed unreached (.refl c))
  by_cases other : role ≠ .naming .registration
  · have kept := withoutFlow_registering flowless files
    obtain ⟨⟨e, refused⟩, same⟩ := register_refused (standing.proper reached) other behind handle
      files c
    rw [kept] at changed
    obtain ⟨e', answered⟩ := callWith_of_error reached behind small (kept ▸ refused)
    exact .inl (failed (Prod.ext answered changed) same)
  rw [not_not] at other
  subst other
  by_cases known : handle ∈ c.registry.nodes
  · obtain ⟨⟨e, refused⟩, same⟩ := register_of_known flowless reached small known
    exact .inl (failed (Prod.ext refused same) (.refl c))
  · obtain ⟨duplicates, names, taken, registered, -⟩ := Registry.register_of_not_mem known files
    exact .inr ⟨duplicates, _, registered, register_of_reached flowless reached small registered⟩

/-! ### Starts -/

/-- The endpoints of a node that has started. -/
def endpointsOf (s : Site) (storage command : Address) : List (Address × Role) :=
  [(storage, .node s.host s.root .storage), (command, .node s.host s.root .command)]

/-- The cluster in which a node listens besides all others. -/
def withNode (c : Cluster) (s : Site) (storage command : Address) : Cluster :=
  { c with network :=
      { c.network with listeners := c.network.listeners ++ endpointsOf s storage command } }

theorem proper_withNode (mem : s ∈ sites) (roles : ∀ l ∈ c.network.listeners, Proper sites l.2)
    (storage command : Address) :
    ∀ l ∈ (c.withNode s storage command).network.listeners, Proper sites l.2 := by
  intro l listens
  rcases List.mem_append.mp listens with before | new
  · exact roles l before
  · simp only [endpointsOf, List.mem_cons, List.not_mem_nil, or_false] at new
    rcases new with rfl | rfl
    · exact .storage mem
    · exact .command mem

theorem Standing.withNode (standing : Standing sites c) (mem : s ∈ sites)
    (storage command : Address) : Standing sites (c.withNode s storage command) where
  toLaid := standing.toLaid.congr fun _ => rfl
  roles := proper_withNode mem standing.roles storage command

/-! ### Steps of a start -/

section Steps

variable {naming : Registrar} {host : Nat} {root : HostPath} {endpoints : Endpoints}
  {storage command : Address} {e : Error} {c₁ c₂ : Cluster}

theorem startNodeWith_of_unlisted (unlisted : (c.storeOf host root).inventory = .error e) :
    c.startNodeWith naming host root endpoints = (.error e, c) := by
  unfold startNodeWith
  rw [unlisted]

variable (listed : (c.storeOf host root).inventory = .ok files)

include listed

theorem startNodeWith_of_deaf (deaf : c.listenNode host root endpoints = (.error e, c₁)) :
    c.startNodeWith naming host root endpoints = (.error e, c) := by
  obtain rfl := listenBoth_eq_error deaf
  unfold startNodeWith
  rw [listed]
  dsimp only
  rw [deaf]

variable (listening : c.listenNode host root endpoints = (.ok (storage, command), c₁))

include listening

theorem startNodeWith_of_unknown (unknown : endpoints.handle storage command = .error e) :
    c.startNodeWith naming host root endpoints = (.error e, c) := by
  obtain ⟨rfl, released⟩ := listenBoth_eq_ok listening
  unfold startNodeWith
  rw [listed]
  dsimp only
  rw [listening]
  dsimp only
  rw [unknown]
  unfold unlisten
  dsimp only
  rw [released]

variable (made : endpoints.handle storage command = .ok handle)

include made

theorem startNodeWith_of_refused (refused : naming handle files c₁ = (.error e, c₂)) :
    c.startNodeWith naming host root endpoints =
      (.error e, (c₂.unlisten storage).unlisten command) := by
  unfold startNodeWith
  rw [listed]
  dsimp only
  rw [listening]
  dsimp only
  rw [made]
  dsimp only
  unfold join
  rw [refused]

theorem startNodeWith_of_registered {duplicates : PathSet}
    (registered : naming handle files c₁ = (.ok duplicates, c₂)) :
    c.startNodeWith naming host root endpoints =
      (.ok ⟨handle, ((c₂.storeOf host root).prune duplicates).1⟩,
        c₂.setDisk host ((c₂.storeOf host root).prune duplicates).2.disk) := by
  unfold startNodeWith
  rw [listed]
  dsimp only
  rw [listening]
  dsimp only
  rw [made]
  dsimp only
  unfold join
  rw [registered]

/-- What a start with a handle comes to is what joining comes to. -/
theorem startNodeWith_of_made : (c.startNodeWith naming host root endpoints).1 =
    (c₁.join naming host root handle files).1 := by
  unfold join
  rcases answered : naming handle files c₁ with ⟨e | duplicates, c₂⟩
  · rw [startNodeWith_of_refused listed listening made answered]
  · rw [startNodeWith_of_registered listed listening made answered]

end Steps

/-- A start fails and changes nothing, or the node has registered what its inventory
lists, listens, and has given up the duplicates. -/
theorem startNode_cases (standing : Standing sites c) (mem : s ∈ sites) (endpoints : Endpoints)
    (registration : Address) :
    (∃ e c', c.startNode s.host s.root endpoints registration = (.error e, c') ∧ SameAs c c') ∨
      ∃ started files duplicates registry storage command,
        (c.storeOf s.host s.root).inventory = .ok files ∧
        c.registry.register started.handle files = (.ok duplicates, registry) ∧
        c.startNode s.host s.root endpoints registration =
          (.ok started, { c.withNode s storage command with registry }.setDisk s.host
            ((c.storeOf s.host s.root).prune duplicates).2.disk) := by
  unfold startNode
  cases listed : (c.storeOf s.host s.root).inventory with
  | error e => exact .inl ⟨e, c, startNodeWith_of_unlisted listed, .refl c⟩
  | ok files =>
  rcases listening : c.listenNode s.host s.root endpoints with ⟨e | ⟨storage, command⟩, c₁⟩
  · exact .inl ⟨e, c, startNodeWith_of_deaf listed listening, .refl c⟩
  cases made : endpoints.handle storage command with
  | error e => exact .inl ⟨e, c, startNodeWith_of_unknown listed listening made, .refl c⟩
  | ok handle =>
  obtain ⟨heard, released⟩ := listenBoth_eq_ok listening
  have both : ({ c with network := { c.network with listeners := c.network.listeners ++
      [(storage, .node s.host s.root .storage)] ++ [(command, .node s.host s.root .command)] } } :
      Cluster) = c.withNode s storage command := by
    simp [Cluster.withNode, endpointsOf]
  rw [both] at heard
  subst heard
  rcases register_cases (standing.withNode mem storage command) (Endpoints.withoutFlow_handle made)
    files registration with
    ⟨e, c₂, refused, same⟩ | ⟨duplicates, registry, registered, answered⟩
  · refine .inl ⟨e, (c₂.unlisten storage).unlisten command,
      startNodeWith_of_refused listed listening made refused, same.registry, ?_, same.disks⟩
    unfold unlisten
    dsimp only
    rw [same.network]
    exact released
  · exact .inr ⟨⟨handle, ((c.storeOf s.host s.root).prune duplicates).1⟩, files, duplicates,
      registry, storage, command, rfl, registered,
      startNodeWith_of_registered listed listening made answered⟩

/-- A start that fails changes nothing. -/
theorem startNode_refused (standing : Standing sites c) (mem : s ∈ sites) {endpoints : Endpoints}
    {e : Error} (done : c.startNode s.host s.root endpoints registration = (.error e, c')) :
    SameAs c c' := by
  rcases startNode_cases standing mem endpoints registration with
    ⟨e', c'', refused, same⟩ | ⟨_, _, _, _, _, _, -, -, joined⟩
  · rw [refused] at done
    obtain ⟨-, rfl⟩ := Prod.mk.inj done
    exact same
  · rw [joined] at done
    cases done

/-! ### Joining -/

/-- A node has joined: the cluster before and after a start that succeeds. -/
structure Joined (sites : List Site) (s : Site) (handle : Handle) (c c' : Cluster) : Prop where
  new : handle ∉ c.registry.nodes
  nodes : c'.registry.nodes = c.registry.nodes ++ [handle]
  network : ∃ storage command, c'.network = (c.withNode s storage command).network
  disks : ∃ disk, Worked s.place (c.diskOf s.host) disk ∧
    ∀ host, c'.diskOf host = (c.setDisk s.host disk).diskOf host
  kept : c.registry.names.Kept c'.registry.names
  /-- The files of the node that find room belong to it. -/
  added : ∀ p, c.leafAt? s p.place ≠ none → c.registry.names.conflicts p = false →
    c'.registry.names.kindAt? p = some (.leaf handle)
  /-- No other file comes in. -/
  owned : ∀ p h, c'.registry.names.kindAt? p = some (.leaf h) →
    c.registry.names.kindAt? p = some (.leaf h) ∨
      h = handle ∧ c.leafAt? s p.place ≠ none ∧ c.registry.names.conflicts p = false
  /-- Every file of the node is at the place of a path. -/
  named : ∀ xs, c.leafAt? s xs ≠ none → ∃ p : Path, p.place = xs
  /-- What finds no room is gone, if the host takes its path. -/
  pruned : ∀ p, c.registry.names.conflicts p = true → s.root.Fits p.place →
    c'.leafAt? s p.place = none
  spared : ∀ xs, (¬ ∃ p : Path, p.place = xs ∧ c.registry.names.conflicts p = true ∧
    s.root.Fits xs) → c'.leafAt? s xs = c.leafAt? s xs
  others : ∀ t ∈ sites, s ≠ t → ∀ xs, c'.leafAt? t xs = c.leafAt? t xs

/-- The registry before and after the inventory of a site has been registered. -/
structure Entered (c : Cluster) (s : Site) (handle : Handle) (duplicates : PathSet)
    (registry : Registry) : Prop where
  new : handle ∉ c.registry.nodes
  nodes : registry.nodes = c.registry.nodes ++ [handle]
  kept : c.registry.names.Kept registry.names
  mem_duplicates_iff : ∀ p, p ∈ duplicates ↔
    c.leafAt? s p.place ≠ none ∧ c.registry.names.conflicts p = true
  added : ∀ p, c.leafAt? s p.place ≠ none → c.registry.names.conflicts p = false →
    registry.names.kindAt? p = some (.leaf handle)
  owned : ∀ p h, registry.names.kindAt? p = some (.leaf h) →
    c.registry.names.kindAt? p = some (.leaf h) ∨
      h = handle ∧ c.leafAt? s p.place ≠ none ∧ c.registry.names.conflicts p = false

/-- A site whose inventory has been taken is reached. -/
theorem Laid.opened (laid : Laid sites c) (mem : s ∈ sites)
    (listed : (c.storeOf s.host s.root).inventory = .ok files) : Opened c s where
  rooted := by
    obtain ⟨q, node, found⟩ := Store.exists_found_of_inventory listed
    exact ((laid.houses mem).rooted_of_root found).2
  ordered := laid.ordered s mem

/-- What a node gives up when it starts. -/
theorem Opened.prune_spec (opened : Opened c s) (duplicates : PathSet) :
    Worked s.place (c.diskOf s.host) ((c.storeOf s.host s.root).prune duplicates).2.disk ∧
      (∀ js, (∃ p ∈ duplicates, Store.Prunable s.root s.place p js) →
        ((c.storeOf s.host s.root).prune duplicates).2.disk.leafAt? js = none) ∧
      ∀ js, (¬ ∃ p ∈ duplicates, Store.Prunable s.root s.place p js) →
        ((c.storeOf s.host s.root).prune duplicates).2.disk.leafAt? js =
          (c.diskOf s.host).leafAt? js := by
  have rooted : (c.storeOf s.host s.root).disk.Rooted (c.storeOf s.host s.root).root s.place :=
    opened.rooted
  exact (Store.prune_spec rooted duplicates).2

section Inventory

variable (opened : Opened c s) (listed : (c.storeOf s.host s.root).inventory = .ok files)

include opened listed

theorem Opened.mem_files_iff {p : Path} : p ∈ files ↔ c.leafAt? s p.place ≠ none := by
  have rooted : (c.storeOf s.host s.root).disk.Rooted (c.storeOf s.host s.root).root s.place :=
    opened.rooted
  rw [Store.mem_inventory_iff rooted opened.ordered listed, opened.leafAt?_ne_none_iff]
  simp only [fileAt?_eq_some_iff]
  rfl

/-- No file of an inventory leads to another one, so a file clashes with its batch only
where it conflicts with the namespace. -/
theorem Opened.clashes_iff (names : Namespace) {p : Path} (here : p ∈ files) :
    Registry.Clashes names files p ↔ names.conflicts p = true := by
  constructor
  · rintro (there | ⟨q, mem', -, lead, other, -⟩)
    · exact there
    · obtain ⟨item, file⟩ := Option.ne_none_iff_exists'.mp ((opened.mem_files_iff listed).mp here)
      obtain ⟨item', file'⟩ :=
        Option.ne_none_iff_exists'.mp ((opened.mem_files_iff listed).mp mem')
      have above : s.place ++ q.place <+: s.place ++ p.place := by
        rw [List.prefix_append_right_inj]
        exact Path.place_prefix_iff.mpr lead
      have proper : s.place ++ q.place ≠ s.place ++ p.place := by
        intro same
        exact other (Path.place_injective (List.append_cancel_left same))
      have isDir := kindAt?_of_isPrefix above proper (by rw [leafAt?_eq_some_iff.mp file]; simp)
      rw [leafAt?_eq_some_iff.mp file'] at isDir
      cases isDir
  · exact .inl

/-- A file of a site is taken in where the namespace has room for it. -/
theorem Opened.admitted_iff {p : Path} : Registry.Admitted c.registry.names files p ↔
    c.leafAt? s p.place ≠ none ∧ c.registry.names.conflicts p = false := by
  rw [Registry.Admitted, ← opened.mem_files_iff listed]
  constructor
  · rintro ⟨here, -, free⟩
    rw [opened.clashes_iff listed _ here, Bool.not_eq_true] at free
    exact ⟨here, free⟩
  · rintro ⟨here, free⟩
    refine ⟨here, opened.isRoot_eq_false ((opened.mem_files_iff listed).mp here), ?_⟩
    rw [opened.clashes_iff listed _ here, free]
    simp

theorem Opened.entered {duplicates : PathSet} {registry : Registry}
    (registered : c.registry.register handle files = (.ok duplicates, registry)) :
    Entered c s handle duplicates registry := by
  have new : handle ∉ c.registry.nodes := by
    intro known
    rw [Registry.register_of_mem known] at registered
    cases registered
  obtain ⟨duplicates', names, taken, answer, found, members, holds⟩ :=
    Registry.register_of_not_mem new files
  rw [answer] at registered
  obtain ⟨ok, rfl⟩ := Prod.mk.inj registered
  obtain rfl := Except.ok.inj ok
  have admitted : ∀ p, p ∈ taken ↔
      c.leafAt? s p.place ≠ none ∧ c.registry.names.conflicts p = false := fun p =>
    (members p).trans (opened.admitted_iff listed)
  refine ⟨new, rfl, Registry.kept_of_holds holds fun p mem' => (members p).mp mem', ?_, ?_, ?_⟩
  · intro p
    rw [found, ← opened.mem_files_iff listed]
    constructor
    · rintro ⟨here, -, clash⟩
      exact ⟨here, (opened.clashes_iff listed _ here).mp clash⟩
    · rintro ⟨here, conflict⟩
      exact ⟨here, opened.isRoot_eq_false ((opened.mem_files_iff listed).mp here),
        (opened.clashes_iff listed _ here).mpr conflict⟩
  · intro p there free
    rw [holds p, if_pos ((admitted p).mpr ⟨there, free⟩)]
  · intro p h file
    dsimp only at file
    rw [holds p] at file
    split at file
    · next here =>
        obtain rfl : handle = h := by simpa using file
        exact .inr ⟨rfl, (admitted p).mp here⟩
    · split at file
      · cases file
      · exact .inl file

/-- Every file of the site is at the place of a path. -/
theorem Opened.exists_place {xs : Place} (there : c.leafAt? s xs ≠ none) :
    ∃ p : Path, p.place = xs := by
  obtain ⟨content, file⟩ := opened.leafAt?_ne_none_iff.mp there
  have rooted : (c.storeOf s.host s.root).disk.Rooted (c.storeOf s.host s.root).root s.place :=
    opened.rooted
  obtain ⟨p, -, here⟩ := Store.exists_place_of_inventory rooted opened.ordered listed
    (fileAt?_eq_some_iff.mp file)
  exact ⟨p, here⟩

end Inventory

section Duplicates

variable {duplicates : PathSet} {registry : Registry}
  (entered : Entered c s handle duplicates registry) (opened : Opened c s)

include entered opened

/-- What finds no room is pruned, if the host takes its path. -/
theorem Entered.pruned {p : Path} (conflict : c.registry.names.conflicts p = true)
    (fits : s.root.Fits p.place) :
    ((c.storeOf s.host s.root).prune duplicates).2.disk.leafAt? (s.place ++ p.place) = none := by
  obtain ⟨-, gone, same⟩ := opened.prune_spec duplicates
  by_cases there : ∃ q ∈ duplicates, Store.Prunable s.root s.place q (s.place ++ p.place)
  · exact gone _ there
  · rw [same _ there]
    by_contra leaf
    exact there ⟨p, (entered.mem_duplicates_iff p).mpr ⟨leaf, conflict⟩,
      opened.isRoot_eq_false leaf, fits, rfl⟩

theorem Entered.spared {xs : Place} (free : ¬ ∃ p : Path, p.place = xs ∧
      c.registry.names.conflicts p = true ∧ s.root.Fits xs) :
    ((c.storeOf s.host s.root).prune duplicates).2.disk.leafAt? (s.place ++ xs) =
      c.leafAt? s xs := by
  obtain ⟨-, -, same⟩ := opened.prune_spec duplicates
  refine same _ ?_
  rintro ⟨p, isDuplicate, -, fits, here⟩
  obtain rfl := List.append_cancel_left here
  exact free ⟨p, rfl, ((entered.mem_duplicates_iff p).mp isDuplicate).2, fits⟩

end Duplicates

/-- A start that succeeds makes the node join. -/
theorem startNode_joins (standing : Standing sites c) (mem : s ∈ sites) {endpoints : Endpoints}
    {started : Started}
    (done : c.startNode s.host s.root endpoints registration = (.ok started, c')) :
    Joined sites s started.handle c c' := by
  rcases startNode_cases standing mem endpoints registration with
    ⟨e, c'', refused, -⟩ | ⟨started', files, duplicates, registry, storage, command, listed,
      registered, joined⟩
  · rw [refused] at done
    cases done
  rw [joined] at done
  obtain ⟨same, rfl⟩ := Prod.mk.inj done
  obtain rfl := Except.ok.inj same
  have opened := standing.toLaid.opened mem listed
  have entered := opened.entered listed registered
  obtain ⟨worked, -, -⟩ := opened.prune_spec duplicates
  have here : ∀ xs, (({ c.withNode s storage command with registry } : Cluster).setDisk s.host
      ((c.storeOf s.host s.root).prune duplicates).2.disk).leafAt? s xs =
      ((c.storeOf s.host s.root).prune duplicates).2.disk.leafAt? (s.place ++ xs) :=
    leafAt?_setDisk_self _ s _
  exact {
    new := entered.new
    nodes := entered.nodes
    network := ⟨storage, command, rfl⟩
    disks := ⟨_, worked, fun _ => rfl⟩
    kept := entered.kept
    added := entered.added
    owned := entered.owned
    named := fun _ => opened.exists_place listed
    pruned := fun p conflict fits => (here p.place).trans (entered.pruned opened conflict fits)
    spared := fun xs free => (here xs).trans (entered.spared opened free)
    others := fun t memT other xs => leafAt?_setDisk_of_ne worked standing.apart mem memT other xs }

/-- The endpoints of the node are all that is new among those that listen. -/
theorem Joined.roles (joins : Joined sites s handle c c') (mem : s ∈ sites)
    (roles : ∀ l ∈ c.network.listeners, Proper sites l.2) :
    ∀ l ∈ c'.network.listeners, Proper sites l.2 := by
  obtain ⟨storage, command, network⟩ := joins.network
  rw [network]
  exact proper_withNode mem roles storage command

theorem Joined.sound (joins : Joined sites s handle c c') (sound : Sound sites c)
    (mem : s ∈ sites) : Sound sites c' := by
  obtain ⟨disk, worked, disks⟩ := joins.disks
  exact ⟨(sound.toPrepared.setDisk worked mem).congr disks, joins.roles mem sound.roles⟩

theorem Joined.standing (joins : Joined sites s handle c c') (standing : Standing sites c)
    (mem : s ∈ sites) : Standing sites c' := by
  obtain ⟨disk, worked, disks⟩ := joins.disks
  exact ⟨(standing.toLaid.setDisk_of_worked worked mem).congr disks,
    joins.roles mem standing.roles⟩

/-- A start that nothing stands in the way of. -/
theorem startNode_of_reached {endpoints : Endpoints} {storage command : Address}
    {duplicates : PathSet} {registry : Registry} {c₁ : Cluster}
    (listed : (c.storeOf s.host s.root).inventory = .ok files)
    (listening : c.listenNode s.host s.root endpoints = (.ok (storage, command), c₁))
    (made : endpoints.handle storage command = .ok handle)
    (reached : c₁.network.connect registration = .ok (.naming .registration))
    (small : (Utf8.encode (registering handle files).text).length ≤ Frame.maxLength)
    (registered : c.registry.register handle files = (.ok duplicates, registry)) :
    c.startNode s.host s.root endpoints registration =
      (.ok ⟨handle, ((c.storeOf s.host s.root).prune duplicates).1⟩,
        { c.withNode s storage command with registry }.setDisk s.host
          ((c.storeOf s.host s.root).prune duplicates).2.disk) := by
  obtain ⟨rfl, -⟩ := listenBoth_eq_ok listening
  have answered := register_of_reached (Endpoints.withoutFlow_handle made) reached small registered
  unfold startNode
  rw [startNodeWith_of_registered listed listening made answered]
  simp [Cluster.withNode, endpointsOf, storeOf, diskOf]

end Cluster

end Dfs
