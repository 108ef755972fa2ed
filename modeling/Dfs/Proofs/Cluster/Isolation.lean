import Dfs.Proofs.Cluster.Agreement
import Dfs.Proofs.Cluster.Remote
import Dfs.Proofs.Store.Contents

/-!
Files are isolated from each other. Nothing that happens in a cluster changes what is
served of a file, unless it concerns the file: a write to it, or a deletion of its path or
of one that leads to it (`Held.move`, and for whole runs `Held.course`). In particular this
is so wherever namespace and disks agree (`file_isolated`). It is not where the path of a
root leads through what is below the root (`file_not_isolated`).
-/

namespace Dfs.Cluster

open Disk

variable {sites : List Site} {nodes : List (Site × Handle)} {s t : Site} {c c' c'' : Cluster}
  {handle : Handle} {p q : Path} {target : Address} {r : Request}

/-! ### Calls that leave a path alone -/

/-- At most files at or below a path differ, and nobody listens elsewhere. -/
structure Elsewhere (sites : List Site) (q : Path) (c c' : Cluster) : Prop where
  network : c'.network = c.network
  leaves : ∀ s ∈ sites, ∀ xs, ¬ q.place <+: xs → c'.leafAt? s xs = c.leafAt? s xs

theorem Elsewhere.of_same (network : c'.network = c.network)
    (disks : ∀ host, c'.diskOf host = c.diskOf host) : Elsewhere sites q c c' where
  network := network
  leaves := fun s _ xs _ => leafAt?_congr disks s xs

theorem Cleared.elsewhere (cleared : Cleared sites q c c') : Elsewhere sites q c c' where
  network := cleared.network
  leaves := cleared.outside

/-- A node works on its disk, where other places keep their files. -/
theorem Sound.elsewhere_setDisk (sound : Sound sites c) (mem : s ∈ sites) {disk : Disk}
    (worked : Worked s.place (c.diskOf s.host) disk)
    (leaves : ∀ js, js ≠ s.place ++ q.place → disk.leafAt? js = (c.diskOf s.host).leafAt? js) :
    Elsewhere sites q c (c.setDisk s.host disk) where
  network := rfl
  leaves := by
    intro t memT xs other
    by_cases same : s = t
    · subst same
      rw [leafAt?_setDisk_self, leaves]
      · rfl
      · intro here
        exact other ((List.append_cancel_left here) ▸ List.prefix_refl _)
    · exact leafAt?_setDisk_of_ne worked sound.apart mem memT same xs

theorem Sound.elsewhere_create (sound : Sound sites c) (mem : s ∈ sites) (q : Path) :
    Elsewhere sites q c (c.setDisk s.host ((c.storeOf s.host s.root).create q).2.disk) := by
  rcases Store.create_cases (sound.store_serves mem).rooted q with
    ⟨disk, made, keeps⟩ | ⟨disk, made, -, worked, -, leaves⟩
  · rw [made]
    exact sound.elsewhere_setDisk mem keeps.toWorked fun js _ => keeps.leaves js
  · rw [made]
    refine sound.elsewhere_setDisk mem worked fun js other => ?_
    rw [leaves js, if_neg other]
    rfl

/-- Whoever is asked to create a file, other files are left alone. -/
theorem Sound.elsewhere_fromNaming (sound : Sound sites c) (a : Address) (q : Path) :
    Elsewhere sites q c (fromNaming a (.create q) c).2 := by
  rcases callWith_cases a (.create q) (sound.standing.serving callNobody) with
    ⟨e, unreached⟩ | ⟨role, answers, reached, behind, -, changed⟩
  · rw [fromNaming, unreached]
    exact .of_same rfl fun _ => rfl
  rw [fromNaming, changed]
  cases sound.standing.proper reached with
  | service =>
      obtain rfl := Option.some.inj behind
      exact .of_same rfl fun _ => rfl
  | registration =>
      obtain rfl := Option.some.inj behind
      exact .of_same rfl fun _ => rfl
  | @storage s mem =>
      obtain rfl := Option.some.inj behind
      exact .of_same rfl (diskOf_setDisk_diskOf c s.host)
  | command mem =>
      obtain rfl := Option.some.inj behind
      exact sound.elsewhere_create mem q

/-- The naming service has a file made only where its namespace has nothing. -/
theorem Sound.elsewhere_createFile (sound : Sound sites c) (q : Path) :
    (c.registry.createFile (Call.nodeCalls fromNaming) q c).2.2 = c ∨
      c.registry.names.kindAt? q = none ∧
        Elsewhere sites q c (c.registry.createFile (Call.nodeCalls fromNaming) q c).2.2 := by
  cases reserved : c.registry.reserve q with
  | settled answer => exact .inl (by rw [Registry.createFile_of_settled reserved])
  | reserved node reg =>
      obtain ⟨free, -⟩ := Registry.reserve_eq_reserved reserved
      rw [Registry.createFile_of_reserved reserved rfl]
      exact .inr ⟨Namespace.kindAt?_of_not_conflicts free,
        sound.elsewhere_fromNaming node.command q⟩

/-- A deletion leaves alone what is not at or below its path. -/
theorem Sound.elsewhere_delete (sound : Sound sites c) (q : Path) :
    (c.registry.delete (Call.nodeCalls fromNaming) q c).2.2 = c ∨
      q.isRoot = false ∧
        Elsewhere sites q c (c.registry.delete (Call.nodeCalls fromNaming) q c).2.2 := by
  rcases Registry.delete_cases (Call.nodeCalls fromNaming) c.registry q c with
    ⟨-, kept⟩ | ⟨notRoot, entry, names, -, deleted⟩
  · exact .inl (by rw [kept])
  · rw [deleted]
    exact .inr ⟨notRoot, (sound.cleared_askAll q (Entry.owners entry).toList).elsewhere⟩

/-! ### What is served of a file -/

/-- The owner of the path and the file at its place are the same, and whoever was reached
is still reached. -/
structure Untouched (s : Site) (p : Path) (c c' : Cluster) : Prop where
  reached : ∀ target role, c.network.connect target = .ok role →
    c'.network.connect target = .ok role
  owner : c'.registry.owner p = c.registry.owner p
  leaf : c'.leafAt? s p.place = c.leafAt? s p.place

theorem Untouched.refl (s : Site) (p : Path) (c : Cluster) : Untouched s p c c :=
  ⟨fun _ _ reached => reached, rfl, rfl⟩

theorem Untouched.trans (first : Untouched s p c c') (second : Untouched s p c' c'') :
    Untouched s p c c'' where
  reached := fun target role reached => second.reached target role (first.reached target role reached)
  owner := second.owner.trans first.owner
  leaf := second.leaf.trans first.leaf

theorem Untouched.of_sameAs (same : SameAs c c') : Untouched s p c c' where
  reached := by
    rw [same.network]
    exact fun _ _ reached => reached
  owner := by rw [same.registry]
  leaf := leafAt?_congr same.disks s p.place

/-- The node owns the path, has the file at its place, and is reached by clients. -/
structure Held (sites : List Site) (s : Site) (handle : Handle) (p : Path) (c : Cluster) : Prop where
  sound : Sound sites c
  member : s ∈ sites
  owner : c.registry.owner p = .ok handle
  there : c.leafAt? s p.place ≠ none
  reached : c.network.connect handle.storage = .ok (.node s.host s.root .storage)

theorem Held.of_untouched (held : Held sites s handle p c) (sound : Sound sites c')
    (untouched : Untouched s p c c') : Held sites s handle p c' where
  sound := sound
  member := held.member
  owner := untouched.owner.trans held.owner
  there := by
    rw [untouched.leaf]
    exact held.there
  reached := untouched.reached _ _ held.reached

/-- What clients are told of a file is the same in both clusters: where it is, how long it
is, and whatever they read of it. -/
structure SameFile (s : Site) (handle : Handle) (p : Path) (c c' : Cluster) : Prop where
  owner : c'.registry.owner p = c.registry.owner p
  content : c'.fileAt? s p.place = c.fileAt? s p.place
  getStorage : ∀ target, c.network.connect target = .ok (.naming .service) →
    (Call.getStorage call target p c').1 = (Call.getStorage call target p c).1
  size : (Call.size call handle.storage p c').1 = (Call.size call handle.storage p c).1
  read : ∀ offset length, (Call.read call handle.storage p offset length c').1 =
    (Call.read call handle.storage p offset length c).1

/-- A caller sees no more of a cluster than what the endpoint answers. -/
theorem callWith_fst_congr {inner : Caller Cluster} {role : Role} {answers : Server Cluster}
    (reached : c.network.connect target = .ok role)
    (reached' : c'.network.connect target = .ok role)
    (behind : server? inner role = some answers)
    (same : (answers r.withoutFlow c').1 = (answers r.withoutFlow c).1) :
    (callWith inner target r c').1 = (callWith inner target r c).1 := by
  by_cases small : (Utf8.encode r.text).length ≤ Frame.maxLength
  · have sent : Connection.send target r = .ok (Frame.encode (Utf8.encode r.text)) :=
      Connection.send_eq_ok_iff.mpr ⟨small, rfl⟩
    rw [callWith_of_server reached behind small, callWith_of_server reached' behind small]
    dsimp only
    rw [Connection.serveStream_of_send sent, Connection.serveStream_of_send sent, same]
  · rw [callWith_of_large reached (by omega), callWith_of_large reached' (by omega)]

theorem invoke_fst_congr {α : Type} (expect : Response → Except Error α)
    (same : (call target r c').1 = (call target r c).1) :
    (Call.invoke call expect target r c').1 = (Call.invoke call expect target r c).1 :=
  congrArg (fun reply : Reply => reply.bind expect) same

theorem Held.sameFile (held : Held sites s handle p c) (sound : Sound sites c')
    (untouched : Untouched s p c c') : SameFile s handle p c c' := by
  have serves := held.sound.store_serves held.member
  have serves' := sound.store_serves held.member
  have reached' := untouched.reached _ _ held.reached
  refine ⟨untouched.owner, fileAt?_congr untouched.leaf, ?_, ?_, ?_⟩
  · intro target reached
    apply invoke_fst_congr
    apply callWith_fst_congr reached (untouched.reached _ _ reached) rfl
    have same : c'.registry.getStorage p = c.registry.getStorage p := by
      rw [Registry.getStorage, untouched.owner, Registry.getStorage]
    exact congrArg (Except.map Response.storage) same
  · apply invoke_fst_congr
    apply callWith_fst_congr held.reached reached' rfl
    exact congrArg (Except.map Response.size)
      (Store.size_congr serves serves' held.there untouched.leaf)
  · intro offset length
    apply invoke_fst_congr
    apply callWith_fst_congr held.reached reached' rfl
    exact congrArg (Except.map Response.bytes)
      (Store.read_congr serves serves' held.there untouched.leaf offset length)

/-! ### Moves -/

/-- What may happen next: a node is started on a site, or a client calls. -/
inductive Move where
  | start (s : Site) (endpoints : Endpoints) (registration : Address)
  | call (target : Address) (r : Request)

namespace Move

def apply : Move → Cluster → Cluster
  | .start s endpoints registration, c => (c.startNode s.host s.root endpoints registration).2
  | .call target r, c => (Cluster.call target r c).2

/-- Nodes are started on sites where none has been started, and clients call the interfaces
that are theirs. -/
def Allowed (sites started : List Site) (c : Cluster) : Move → Prop
  | .start s _ _ => s ∈ sites ∧ s ∉ started
  | .call target _ => ∀ role, c.network.connect target = .ok role →
    interface role = .service ∨ interface role = .storage

/-- The move is a write to the file at its node, or a deletion of its path or of one that
leads to it. -/
def Concerns (s : Site) (p : Path) (c : Cluster) : Move → Prop
  | .start .. => False
  | .call target (.write q _ _) =>
    q = p ∧ c.network.connect target = .ok (.node s.host s.root .storage)
  | .call target (.deletePath q) =>
    q.isRoot = false ∧ p.isUnder q = true ∧ c.network.connect target = .ok (.naming .service)
  | .call .. => False

end Move

/-- A start on another site. -/
theorem Held.start (held : Held sites s handle p c) (mem : t ∈ sites) (other : t ≠ s)
    (endpoints : Endpoints) (registration : Address) :
    Sound sites (c.startNode t.host t.root endpoints registration).2 ∧
      Untouched s p c (c.startNode t.host t.root endpoints registration).2 := by
  cases done : c.startNode t.host t.root endpoints registration with
  | mk result c' =>
      cases result with
      | error e =>
          have same := startNode_refused held.sound.standing mem done
          exact ⟨held.sound.congr same.network same.disks, .of_sameAs same⟩
      | ok started =>
          have joins := startNode_joins held.sound.standing mem done
          obtain ⟨storage, command, network⟩ := joins.network
          refine ⟨joins.sound held.sound mem, ⟨?_, ?_, joins.others s held.member other p.place⟩⟩
          · intro target role reached
            rw [network]
            exact Network.connect_append reached
          · rw [held.owner]
            exact Registry.owner_eq_ok_iff.mpr
              (joins.kept p _ (Registry.owner_eq_ok_iff.mp held.owner))

/-- What the nodes do for a request to the naming service leaves the file alone. -/
theorem Held.world_serveClient (held : Held sites s handle p c)
    (spared : ∀ q, r = .deletePath q → q.isRoot = false → p.isUnder q = false) :
    (c.registry.serveClient (Call.nodeCalls fromNaming) r c).2.2.network = c.network ∧
      (c.registry.serveClient (Call.nodeCalls fromNaming) r c).2.2.leafAt? s p.place =
        c.leafAt? s p.place := by
  have file := Registry.owner_eq_ok_iff.mp held.owner
  have apart : ∀ {c' : Cluster} {q : Path}, Elsewhere sites q c c' → p.isUnder q = false →
      c'.network = c.network ∧ c'.leafAt? s p.place = c.leafAt? s p.place := by
    intro c' q elsewhere other
    refine ⟨elsewhere.network, elsewhere.leaves s held.member _ fun lead => ?_⟩
    rw [Path.place_prefix_iff.mp lead] at other
    cases other
  cases r with
  | createFile q =>
      have made : (c.registry.serveClient (Call.nodeCalls fromNaming) (.createFile q) c).2.2 =
          (c.registry.createFile (Call.nodeCalls fromNaming) q c).2.2 := rfl
      rw [made]
      rcases held.sound.elsewhere_createFile q with same | ⟨absent, created⟩
      · rw [same]
        exact ⟨rfl, rfl⟩
      · -- All that leads to the file is there, so the new file is none of this.
        apply apart created
        by_contra lead
        rw [Namespace.kindAt?_none_of_isUnder (by simpa using lead) absent] at file
        cases file
  | deletePath q =>
      have asked : (c.registry.serveClient (Call.nodeCalls fromNaming) (.deletePath q) c).2.2 =
          (c.registry.delete (Call.nodeCalls fromNaming) q c).2.2 := rfl
      rw [asked]
      rcases held.sound.elsewhere_delete q with same | ⟨notRoot, deleted⟩
      · rw [same]
        exact ⟨rfl, rfl⟩
      · exact apart deleted (spared q rfl notRoot)
  | _ => exact ⟨rfl, rfl⟩

/-- A request to the naming service. -/
theorem Held.service (held : Held sites s handle p c)
    (spared : ∀ q, r = .deletePath q → q.isRoot = false → p.isUnder q = false) :
    Untouched s p c (server fromNaming .service 0 ⟨[]⟩ r c).2 := by
  have served : (server fromNaming .service 0 ⟨[]⟩ r c).2 =
      { (c.registry.serveClient (Call.nodeCalls fromNaming) r c).2.2 with
        registry := (c.registry.serveClient (Call.nodeCalls fromNaming) r c).2.1 } := rfl
  have file := Registry.kindAt?_serveClient (Call.nodeCalls fromNaming) c
    (Registry.owner_eq_ok_iff.mp held.owner) spared
  obtain ⟨network, leaf⟩ := held.world_serveClient spared
  rw [served]
  refine ⟨?_, ?_, leaf⟩
  · dsimp only
    rw [network]
    exact fun _ _ reached => reached
  · rw [held.owner]
    exact Registry.owner_eq_ok_iff.mpr file

/-- A request to a storage node. -/
theorem Held.storage (held : Held sites s handle p c) (mem : t ∈ sites)
    (spared : ∀ q offset data, r = .write q offset data → t = s → q ≠ p) :
    Untouched s p c (server fromNaming .storage t.host t.root r c).2 := by
  have serves := held.sound.store_serves mem
  have idle : Untouched s p c (c.setDisk t.host (c.diskOf t.host)) :=
    .of_sameAs ⟨rfl, rfl, diskOf_setDisk_diskOf c t.host⟩
  cases r with
  | write q offset data =>
      have written : (server fromNaming .storage t.host t.root (.write q offset data) c).2 =
          c.setDisk t.host ((c.storeOf t.host t.root).write q offset data).2.disk := rfl
      rw [written]
      rcases Store.write_cases serves.rooted q offset data with
        same | ⟨disk, content, content', changed, worked, -, leaves⟩
      · rw [same]
        exact idle
      · rw [changed]
        refine ⟨fun _ _ reached => reached, rfl, ?_⟩
        by_cases same : t = s
        · subst same
          have other : t.place ++ p.place ≠ t.place ++ q.place := fun here =>
            spared q offset data rfl rfl (Path.place_injective (List.append_cancel_left here)).symm
          rw [leafAt?_setDisk_self, leaves, if_neg other]
          rfl
        · exact leafAt?_setDisk_of_ne worked held.sound.apart mem held.member same p.place
  | _ => exact idle

/-- Whatever is called, if it does not concern the file. -/
theorem Held.call (held : Held sites s handle p c)
    (forClients : ∀ role, c.network.connect target = .ok role →
      interface role = .service ∨ interface role = .storage)
    (spared : ¬ (Move.call target r).Concerns s p c) :
    Untouched s p c (Cluster.call target r c).2 := by
  rw [call_eq]
  rcases callWith_cases target r (held.sound.standing.serving fromNaming) with
    ⟨e, unreached⟩ | ⟨role, answers, reached, behind, -, changed⟩
  · rw [unreached]
    exact .refl s p c
  rw [changed]
  have asked := forClients role reached
  cases held.sound.standing.proper reached with
  | service =>
      obtain rfl := Option.some.inj behind
      apply held.service
      intro q isDelete notRoot
      by_contra lead
      cases r with
      | deletePath q' =>
          cases isDelete
          exact spared ⟨notRoot, by simpa using lead, reached⟩
      | _ => cases isDelete
  | registration => simp [interface] at asked
  | storage mem =>
      obtain rfl := Option.some.inj behind
      apply held.storage mem
      rintro q offset data isWrite rfl rfl
      cases r with
      | write q' offset' data' =>
          cases isWrite
          exact spared ⟨rfl, reached⟩
      | _ => cases isWrite
  | command mem => simp [interface] at asked

/-- One move leaves a file alone, unless it concerns the file. -/
theorem Held.move {started : List Site} {move : Move} (held : Held sites s handle p c)
    (isStarted : s ∈ started) (allowed : move.Allowed sites started c)
    (spared : ¬ move.Concerns s p c) :
    Held sites s handle p (move.apply c) ∧ Untouched s p c (move.apply c) := by
  have moved : Sound sites (move.apply c) ∧ Untouched s p c (move.apply c) := by
    cases move with
    | start t endpoints registration =>
        refine held.start allowed.1 ?_ endpoints registration
        rintro rfl
        exact allowed.2 isStarted
    | call target r => exact ⟨held.sound.call target r, held.call allowed spared⟩
  exact ⟨held.of_untouched moved.1 moved.2, moved.2⟩

/-- One move after another, none of which concerns the file. -/
inductive Course (sites started : List Site) (s : Site) (p : Path) :
    Cluster → List Move → Cluster → Prop where
  | nil (c : Cluster) : Course sites started s p c [] c
  | cons {c c' : Cluster} {move : Move} {moves : List Move} :
      move.Allowed sites started c → ¬ move.Concerns s p c →
      Course sites started s p (move.apply c) moves c' →
      Course sites started s p c (move :: moves) c'

/-- However long it goes on, clients are told the same of the file. -/
theorem Held.course {started : List Site} {moves : List Move} (held : Held sites s handle p c)
    (isStarted : s ∈ started) (course : Course sites started s p c moves c') :
    SameFile s handle p c c' := by
  have whole : Sound sites c' ∧ Untouched s p c c' := by
    induction course with
    | nil c => exact ⟨held.sound, .refl s p c⟩
    | cons allowed spared _ ih =>
        obtain ⟨held', first⟩ := held.move isStarted allowed spared
        obtain ⟨sound, rest⟩ := ih held'
        exact ⟨sound, first.trans rest⟩
  exact held.sameFile whole.1 whole.2

/-- Where namespace and disks agree, a node that owns a file has it. -/
theorem Agreement.exists_held (agreement : Agreement sites nodes c)
    (reached : ∀ n ∈ nodes, c.network.connect n.2.storage = .ok (.node n.1.host n.1.root .storage))
    (owner : c.registry.owner p = .ok handle) :
    ∃ s, (s, handle) ∈ nodes ∧ Held sites s handle p c := by
  obtain ⟨s, isNode, there⟩ := agreement.held p handle (Registry.owner_eq_ok_iff.mp owner)
  exact ⟨s, isNode, agreement.sound, agreement.members _ isNode, owner, there, reached _ isNode⟩

/-- In every cluster that comes about in an orderly way, with its nodes within reach: what
clients are told of a file stays the same over the start of a node on another site and over
every call of a client, be it answered or not, that is no write to the file at its node and
no deletion of its path or of one that leads to it. -/
theorem file_isolated {disks : Entries Nat Disk} {move : Move}
    (prepared : Prepared sites (ofDisks .connected disks)) (run : Orderly sites disks c nodes)
    (reached : ∀ n ∈ nodes, c.network.connect n.2.storage = .ok (.node n.1.host n.1.root .storage))
    (owner : c.registry.owner p = .ok handle)
    (allowed : move.Allowed sites (nodes.map Prod.fst) c) :
    ∃ s, (s, handle) ∈ nodes ∧
      (¬ move.Concerns s p c → SameFile s handle p c (move.apply c)) := by
  obtain ⟨s, isNode, held⟩ := (run.agreement prepared).exists_held reached owner
  refine ⟨s, isNode, fun spared => ?_⟩
  obtain ⟨held', untouched⟩ := held.move (List.mem_map.mpr ⟨_, isNode, rfl⟩) allowed spared
  exact held.sameFile held'.sound untouched

/-- A file that is created beside another one leaves it alone. -/
theorem file_isolated_home :
    ∃ c, Prepared [home] (ofDisks .connected [(0, homeDisk)]) ∧
      Orderly [home] [(0, homeDisk)] c [(home, nodeAt)] ∧ c.registry.owner homeFile = .ok nodeAt ∧
      SameFile home nodeAt homeFile c
        ((Move.call serviceAt (.createFile ⟨[nameX]⟩)).apply c) := by
  have reached : ∀ n ∈ [(home, nodeAt)], (alone homeDisk home.root homeNames).network.connect
      n.2.storage = .ok (.node n.1.host n.1.root .storage) := by
    intro n mem
    obtain rfl := List.mem_singleton.mp mem
    rfl
  have owner : (alone homeDisk home.root homeNames).registry.owner homeFile = .ok nodeAt := rfl
  have allowed : (Move.call serviceAt (.createFile ⟨[nameX]⟩)).Allowed [home]
      ([(home, nodeAt)].map Prod.fst) (alone homeDisk home.root homeNames) :=
    fun _ => forClients_alone
  obtain ⟨s, isNode, same⟩ := file_isolated (prepared_home .connected) orderly_home reached owner
    allowed
  obtain rfl : s = home := congrArg Prod.fst (List.mem_singleton.mp isNode)
  exact ⟨_, prepared_home .connected, orderly_home, owner, same id⟩

/-! ### Where files are not isolated -/

/-- The length of the file `/f` of a node that is alone, as a client is told it. -/
theorem size_alone {d : Disk} {root : HostPath} {names : Namespace} {outcome : Except Error UInt64}
    (stored : (⟨root, d⟩ : Store).size homeFile = outcome)
    (short : (Utf8.encode (Reply.text (outcome.map .size))).length ≤ Frame.maxLength) :
    (Call.size call nodeAt.storage homeFile (alone d root names)).1 = outcome := by
  have direct : ((Operation.size homeFile).directly fromNaming 0 root (alone d root names)).1 =
      outcome := stored
  have reached : (alone d root names).network.connect nodeAt.storage = .ok (.node 0 root .storage) :=
    rfl
  have told : (Call.size call nodeAt.storage homeFile (alone d root names)).1 = outcome.map id :=
    Operation.remotely_call (.size homeFile) reached (by decide)
      (Request.small_of_fits rfl home.root (by decide)) direct short
  rw [told]
  cases outcome <;> rfl

/-- The node of a root whose path leads through `/x` cannot find `/f` any more when `/x` is
deleted. -/
theorem file_not_isolated :
    twoFiles.resolve true detour = .ok (.found [] (.dir twoFiles.top)) ∧ twoFiles.Plain [] ∧
      (Tree.dir twoFiles.top).Ordered ∧
      ∃ c, Orderly [⟨0, detour, []⟩] [(0, twoFiles)] c [(⟨0, detour, []⟩, nodeAt)] ∧
        c.network.connect nodeAt.storage = .ok (.node 0 detour .storage) ∧
        c.registry.owner homeFile = .ok nodeAt ∧
        ∃ move : Move, move.Allowed [⟨0, detour, []⟩] [⟨0, detour, []⟩] c ∧
          ¬ move.Concerns ⟨0, detour, []⟩ homeFile c ∧
          (Call.size call nodeAt.storage homeFile c).1 = .ok 0 ∧
          ∃ e, (Call.size call nodeAt.storage homeFile (move.apply c)).1 = .error e := by
  have ordered : (Tree.dir twoFiles.top).Ordered := by decide
  refine ⟨rfl, Plain.of_places rfl ordered (by decide), ordered, _, orderly_twoFiles, rfl, rfl,
    .call serviceAt (.deletePath ⟨[nameX]⟩), fun _ => forClients_alone, ?_, ?_, ?_⟩
  · rintro ⟨-, lead, -⟩
    cases lead
  · exact size_alone rfl (by decide +kernel)
  · have after : (Move.call serviceAt (.deletePath ⟨[nameX]⟩)).apply (alone twoFiles detour twoNames) =
        alone firstFile detour ⟨[(nameF, .leaf nodeAt)]⟩ :=
      call_alone_deletePath (Request.small_of_fits rfl detour (by decide)) rfl rfl rfl
    rw [after]
    exact ⟨_, size_alone rfl (by decide +kernel)⟩

end Dfs.Cluster
