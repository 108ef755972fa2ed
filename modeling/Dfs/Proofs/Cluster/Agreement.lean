import Dfs.Proofs.Cluster.Alone
import Dfs.Proofs.Cluster.Commands
import Dfs.Proofs.Cluster.Start
import Dfs.Proofs.Naming.Ownership
import Mathlib.Data.List.Nodup

/-!
The namespace and the disks agree. In a cluster whose nodes are started once each, are
reached by the naming service, and do not stop, a node owns a path exactly if the regular
file is on its disk, as long as the host takes the path of that file (`namespace_agrees`).
Where it does not, and where the path of a root leads through what is below the root, files
are left behind without names (`namespace_disagrees`).

`Agreement` is what every request of a client leaves true, although the registry and the
disks change in several steps: a creation reserves the name first and withdraws it if the
node refuses, and a deletion takes the names away before it asks the owners.
-/

namespace Dfs.Cluster

open Disk

variable {sites : List Site} {nodes : List (Site × Handle)} {s : Site} {c c' : Cluster}
  {handle : Handle}

/-- The nodes that have joined, with their sites, and what ties the namespace to their
disks. -/
structure Agreement (sites : List Site) (nodes : List (Site × Handle)) (c : Cluster) : Prop where
  sound : Sound sites c
  members : ∀ n ∈ nodes, n.1 ∈ sites
  apart : (nodes.map Prod.fst).Nodup
  registered : c.registry.nodes = nodes.map Prod.snd
  handles : (nodes.map Prod.snd).Nodup
  reached : ∀ n ∈ nodes, c.network.connect n.2.command = .ok (.node n.1.host n.1.root .command)
  /-- Whatever a node owns is on its disk. -/
  held : ∀ p h, c.registry.names.kindAt? p = some (.leaf h) →
    ∃ s, (s, h) ∈ nodes ∧ c.leafAt? s p.place ≠ none
  /-- Whatever is on the disk of a node is its own. -/
  stored : ∀ s h, (s, h) ∈ nodes → ∀ xs, c.leafAt? s xs ≠ none → s.root.Fits xs →
    ∃ p : Path, p.place = xs ∧ c.registry.names.kindAt? p = some (.leaf h)

namespace Agreement

theorem handle_unique (agreement : Agreement sites nodes c) {h h' : Handle}
    (mem : (s, h) ∈ nodes) (mem' : (s, h') ∈ nodes) : h = h' := by
  have same := List.inj_on_of_nodup_map agreement.apart mem mem' rfl
  exact congrArg Prod.snd same

theorem site_unique (agreement : Agreement sites nodes c) {s' : Site} {h : Handle}
    (mem : (s, h) ∈ nodes) (mem' : (s', h) ∈ nodes) : s = s' := by
  have same := List.inj_on_of_nodup_map agreement.handles mem mem' rfl
  exact congrArg Prod.fst same

/-- Where the same paths have owners and the same places have files, the agreement
stays. -/
theorem of_same (agreement : Agreement sites nodes c) (sound : Sound sites c')
    (network : c'.network = c.network) (registered : c'.registry.nodes = c.registry.nodes)
    (owners : ∀ p h, c'.registry.names.kindAt? p = some (.leaf h) ↔
      c.registry.names.kindAt? p = some (.leaf h))
    (leaves : ∀ s ∈ sites, ∀ xs, c'.leafAt? s xs = none ↔ c.leafAt? s xs = none) :
    Agreement sites nodes c' where
  sound := sound
  members := agreement.members
  apart := agreement.apart
  registered := registered.trans agreement.registered
  handles := agreement.handles
  reached := by
    rw [network]
    exact agreement.reached
  held := by
    intro p h file
    obtain ⟨s, mem, leaf⟩ := agreement.held p h ((owners p h).mp file)
    refine ⟨s, mem, fun none => leaf ?_⟩
    exact (leaves s (agreement.members _ mem) _).mp none
  stored := by
    intro s h mem xs leaf fits
    obtain ⟨p, here, file⟩ := agreement.stored s h mem xs
      (fun none => leaf ((leaves s (agreement.members _ mem) xs).mpr none)) fits
    exact ⟨p, here, (owners p h).mpr file⟩

theorem of_sameAs (agreement : Agreement sites nodes c) (same : SameAs c c') :
    Agreement sites nodes c' := by
  refine agreement.of_same (agreement.sound.congr same.network same.disks) same.network ?_ ?_ ?_
  · rw [same.registry]
  · intro p h
    rw [same.registry]
  · intro s _ xs
    rw [leafAt?_congr same.disks]

/-! ### Nodes that join -/

/-- A node that joins brings its files with it. -/
theorem joined (agreement : Agreement sites nodes c) (mem : s ∈ sites)
    (new : s ∉ nodes.map Prod.fst) (joins : Joined sites s handle c c')
    (reached : c'.network.connect handle.command = .ok (.node s.host s.root .command)) :
    Agreement sites (nodes ++ [(s, handle)]) c' where
  sound := joins.sound agreement.sound mem
  members := by
    intro n isNode
    rcases List.mem_append.mp isNode with before | last
    · exact agreement.members n before
    · obtain rfl := List.mem_singleton.mp last
      exact mem
  apart := by
    rw [List.map_append, List.nodup_append]
    refine ⟨agreement.apart, by simp, ?_⟩
    rintro t before t' last rfl
    obtain rfl : t = s := by simpa using last
    exact new before
  registered := by
    rw [joins.nodes, agreement.registered]
    simp
  handles := by
    rw [List.map_append, List.nodup_append]
    refine ⟨agreement.handles, by simp, ?_⟩
    rintro h before h' last rfl
    obtain rfl : h = handle := by simpa using last
    apply joins.new
    rw [agreement.registered]
    exact before
  reached := by
    intro n isNode
    rcases List.mem_append.mp isNode with before | last
    · obtain ⟨storage, command, network⟩ := joins.network
      rw [network]
      exact Network.connect_append (agreement.reached n before)
    · obtain rfl := List.mem_singleton.mp last
      exact reached
  held := by
    intro p h file
    rcases joins.owned p h file with before | ⟨rfl, leaf, free⟩
    · obtain ⟨t, isNode, leaf⟩ := agreement.held p h before
      have other : s ≠ t := by
        rintro rfl
        exact new (List.mem_map.mpr ⟨_, isNode, rfl⟩)
      refine ⟨t, List.mem_append_left _ isNode, ?_⟩
      rw [joins.others t (agreement.members _ isNode) other]
      exact leaf
    · refine ⟨s, by simp, ?_⟩
      rw [joins.spared p.place]
      · exact leaf
      · rintro ⟨q, same, conflict, -⟩
        obtain rfl := Path.place_injective same
        rw [free] at conflict
        cases conflict
  stored := by
    intro t h isNode xs leaf fits
    rcases List.mem_append.mp isNode with before | last
    · have other : s ≠ t := by
        rintro rfl
        exact new (List.mem_map.mpr ⟨_, before, rfl⟩)
      rw [joins.others t (agreement.members _ before) other] at leaf
      obtain ⟨p, here, file⟩ := agreement.stored t h before xs leaf fits
      exact ⟨p, here, joins.kept p _ file⟩
    · obtain ⟨rfl, rfl⟩ := Prod.mk.inj (List.mem_singleton.mp last)
      have there : c.leafAt? t xs ≠ none := by
        intro absent
        by_cases gone : ∃ p : Path, p.place = xs ∧ c.registry.names.conflicts p = true ∧
            t.root.Fits xs
        · obtain ⟨p, rfl, conflict, _⟩ := gone
          exact leaf (joins.pruned p conflict fits)
        · rw [joins.spared xs gone] at leaf
          exact leaf absent
      obtain ⟨p, rfl⟩ := joins.named xs there
      refine ⟨p, rfl, joins.added p there ?_⟩
      by_contra conflict
      exact leaf (joins.pruned p (by simpa using conflict) fits)

/-! ### Requests of clients -/

/-- A file is added to the namespace and to the disk of its owner. -/
theorem created (agreement : Agreement sites nodes c) {p : Path} (isNode : (s, handle) ∈ nodes)
    (sound : Sound sites c') (network : c'.network = c.network)
    (registered : c'.registry.nodes = c.registry.nodes)
    (absent : c.registry.names.kindAt? p = none)
    (owners : ∀ q, c'.registry.names.kindAt? q =
      if q = p then some (.leaf handle) else c.registry.names.kindAt? q)
    (here : ∀ xs, c'.leafAt? s xs = if xs = p.place then some (.file .empty) else c.leafAt? s xs)
    (others : ∀ t ∈ sites, s ≠ t → ∀ xs, c'.leafAt? t xs = c.leafAt? t xs) :
    Agreement sites nodes c' where
  sound := sound
  members := agreement.members
  apart := agreement.apart
  registered := registered.trans agreement.registered
  handles := agreement.handles
  reached := by
    rw [network]
    exact agreement.reached
  held := by
    intro q h file
    rw [owners] at file
    by_cases same : q = p
    · subst same
      rw [if_pos rfl] at file
      obtain rfl : handle = h := by simpa using file
      refine ⟨s, isNode, ?_⟩
      rw [here, if_pos rfl]
      simp
    · rw [if_neg same] at file
      obtain ⟨t, mem, leaf⟩ := agreement.held q h file
      refine ⟨t, mem, ?_⟩
      by_cases site : s = t
      · subst site
        rw [here, if_neg fun place => same (Path.place_injective place)]
        exact leaf
      · rw [others t (agreement.members _ mem) site]
        exact leaf
  stored := by
    intro t h mem xs leaf fits
    have old : c.leafAt? t xs ≠ none →
        ∃ q : Path, q.place = xs ∧ c'.registry.names.kindAt? q = some (.leaf h) := by
      intro leaf
      obtain ⟨q, place, file⟩ := agreement.stored t h mem xs leaf fits
      refine ⟨q, place, ?_⟩
      rw [owners, if_neg]
      · exact file
      · rintro rfl
        rw [absent] at file
        cases file
    by_cases site : s = t
    · subst site
      rw [here] at leaf
      split at leaf
      · next place =>
          refine ⟨p, place.symm, ?_⟩
          rw [owners, if_pos rfl, agreement.handle_unique isNode mem]
      · exact old leaf
    · rw [others t (agreement.members _ mem) site] at leaf
      exact old leaf

/-- What is at or below a path is taken from the namespace and from the disks. -/
theorem deleted (agreement : Agreement sites nodes c) {p : Path} {c₁ : Cluster}
    (cleared : Cleared sites p c c₁) {names : Namespace}
    (kinds : ∀ q, names.kindAt? q = if q.isUnder p then none else c.registry.names.kindAt? q)
    (gone : ∀ q h, q.isUnder p = true → c.registry.names.kindAt? q = some (.leaf h) →
      ∀ s, (s, h) ∈ nodes → s.root.Fits q.place → c₁.leafAt? s q.place = none) :
    Agreement sites nodes { c₁ with registry := { c.registry with names } } where
  sound := (cleared.sound agreement.sound).congr rfl fun _ => rfl
  members := agreement.members
  apart := agreement.apart
  registered := agreement.registered
  handles := agreement.handles
  reached := by
    dsimp only
    rw [cleared.network]
    exact agreement.reached
  held := by
    intro q h file
    dsimp only at file
    rw [kinds] at file
    split at file
    · cases file
    next spared =>
    obtain ⟨s, mem, leaf⟩ := agreement.held q h file
    refine ⟨s, mem, ?_⟩
    have kept := cleared.outside s (agreement.members _ mem) q.place fun below =>
      spared (Path.place_prefix_iff.mp below)
    exact fun none => leaf (kept.symm.trans none)
  stored := by
    intro s h mem xs leaf fits
    have before : c.leafAt? s xs ≠ none := by
      rcases cleared.shrinks s (agreement.members _ mem) xs with none | same
      · exact absurd none leaf
      · exact fun none => leaf (same.trans none)
    obtain ⟨q, rfl, file⟩ := agreement.stored s h mem xs before fits
    refine ⟨q, rfl, ?_⟩
    dsimp only
    rw [kinds, if_neg]
    · exact file
    · intro below
      exact leaf (gone q h below file s mem fits)

theorem createFile (agreement : Agreement sites nodes c) {p : Path}
    (small : (Utf8.encode (Request.createFile p).text).length ≤ Frame.maxLength) :
    Agreement sites nodes { (c.registry.createFile (Call.nodeCalls fromNaming) p c).2.2 with
      registry := (c.registry.createFile (Call.nodeCalls fromNaming) p c).2.1 } := by
  cases reserved : c.registry.reserve p with
  | settled answer =>
      rw [Registry.createFile_of_settled reserved]
      exact agreement
  | reserved node reg =>
      obtain ⟨free, picked, registered, -, kinds⟩ := Registry.reserve_eq_reserved reserved
      have absent := Namespace.kindAt?_of_not_conflicts free
      have known := Registry.mem_nodes_of_pick picked
      rw [agreement.registered] at known
      obtain ⟨⟨s, h⟩, isNode, rfl : h = node⟩ := List.mem_map.mp known
      have mem := agreement.members _ isNode
      have sound := agreement.sound
      have asked := nodeCalls_create_of_reached (agreement.reached _ isNode) small
      have others : ∀ disk, Worked s.place (c.diskOf s.host) disk → ∀ t ∈ sites, s ≠ t → ∀ xs,
          (c.setDisk s.host disk).leafAt? t xs = c.leafAt? t xs :=
        fun _ worked t memT other xs => leafAt?_setDisk_of_ne worked sound.apart mem memT other xs
      rw [Registry.createFile_of_reserved reserved asked]
      dsimp only
      rcases Store.create_cases (sound.store_serves mem).rooted p with
        ⟨disk, made, keeps⟩ | ⟨disk, made, -, worked, -, leaves⟩
      · -- The node has refused, and the reservation is withdrawn.
        rw [made]
        refine agreement.of_same ((sound.setDisk mem keeps.toWorked).congr rfl fun _ => rfl) rfl
          ((Registry.nodes_withdraw reg p h).trans registered) ?_ ?_
        · intro q owner
          change (reg.withdraw p h).names.kindAt? q = _ ↔ _
          by_cases same : q = p
          · subst same
            rw [Registry.withdraw_of_owner (by rw [kinds, if_pos rfl]), absent]
          · rw [Registry.kindAt?_withdraw_of_ne reg h same, kinds, if_neg same]
        · intro t memT xs
          by_cases same : s = t
          · subst same
            have kept : (c.setDisk s.host disk).leafAt? s xs = c.leafAt? s xs := by
              rw [leafAt?_setDisk_self, keeps.leaves]
              rfl
            exact Iff.of_eq (congrArg (· = none) kept)
          · exact Iff.of_eq (congrArg (· = none) (others disk keeps.toWorked t memT same xs))
      · rw [made]
        refine agreement.created isNode ((sound.setDisk mem worked).congr rfl fun _ => rfl) rfl
          registered absent kinds ?_ (others disk worked)
        intro xs
        have leaf : (c.setDisk s.host disk).leafAt? s xs =
            if s.place ++ xs = s.place ++ p.place then some (.file .empty) else c.leafAt? s xs := by
          rw [leafAt?_setDisk_self, leaves]
          rfl
        simp only [List.append_cancel_left_eq] at leaf
        exact leaf

theorem createDirectory (agreement : Agreement sites nodes c) (p : Path) :
    Agreement sites nodes { c with registry := (c.registry.createDirectory p).2 } := by
  rcases Registry.createDirectory_cases c.registry p with same | ⟨absent, names, changed, kinds⟩
  · rw [same]
    exact agreement
  · rw [changed]
    refine agreement.of_same (agreement.sound.congr rfl fun _ => rfl) rfl rfl ?_ fun _ _ _ => Iff.rfl
    intro q h
    dsimp only
    rw [kinds]
    by_cases same : q = p
    · subst same
      rw [if_pos rfl, absent]
      simp
    · rw [if_neg same]

theorem delete (agreement : Agreement sites nodes c) {p : Path}
    (small : (Utf8.encode (Request.deletePath p).text).length ≤ Frame.maxLength) :
    Agreement sites nodes { (c.registry.delete (Call.nodeCalls fromNaming) p c).2.2 with
      registry := (c.registry.delete (Call.nodeCalls fromNaming) p c).2.1 } := by
  rcases Registry.delete_cases (Call.nodeCalls fromNaming) c.registry p c with
    ⟨-, kept⟩ | ⟨notRoot, entry, names, removed, deleted⟩
  · rw [kept]
    exact agreement
  rw [deleted]
  obtain ⟨cleared, gone⟩ := agreement.sound.askAll_spec notRoot small (Entry.owners entry).toList
  refine agreement.deleted cleared (Namespace.kindAt?_remove removed) ?_
  intro q h below file s isNode fits
  exact gone h (Registry.mem_owners removed below file) s (agreement.members _ isNode)
    (agreement.reached _ isNode) q.place (Path.place_prefix_iff.mpr below) fits

/-- A request to the naming service. -/
theorem serveClient (agreement : Agreement sites nodes c) {r : Request}
    (small : (Utf8.encode r.text).length ≤ Frame.maxLength) :
    Agreement sites nodes (server fromNaming .service 0 ⟨[]⟩ r.withoutFlow c).2 := by
  cases r with
  | createFile p => exact agreement.createFile small
  | createDirectory p => exact agreement.createDirectory p
  | deletePath p => exact agreement.delete small
  | _ => exact agreement

/-- A request to a storage node. -/
theorem serveStorage (agreement : Agreement sites nodes c) (mem : s ∈ sites) (r : Request) :
    Agreement sites nodes (server fromNaming .storage s.host s.root r c).2 := by
  have sound := agreement.sound
  obtain ⟨disk, changed, worked, leaves⟩ := sound.server_storage fromNaming mem r
  rw [changed]
  refine agreement.of_same (sound.setDisk mem worked) rfl rfl (fun _ _ => Iff.rfl) ?_
  intro t memT xs
  by_cases same : s = t
  · subst same
    rw [leafAt?_setDisk_self, leaves]
    rfl
  · rw [leafAt?_setDisk_of_ne worked sound.apart mem memT same]

end Agreement

/-! ### Runs -/

/-- The interface at which a role answers. -/
def interface : Role → Interface
  | .naming i => i
  | .node _ _ i => i
  | .scripted _ i => i

/-- The clusters that come about on these disks, with the nodes that have joined: the
naming service starts, nodes are started on the sites, each site is joined once, nobody
stops, and clients call the interfaces that are theirs. -/
inductive Orderly (sites : List Site) (disks : Entries Nat Disk) :
    Cluster → List (Site × Handle) → Prop where
  | begin {c : Cluster} {service registration : Address} :
      (ofDisks .connected disks).startNaming service registration = .ok c →
      Orderly sites disks c []
  /-- A node joins; the naming service reaches it at the address of its handle. -/
  | joined {c c' : Cluster} {nodes : List (Site × Handle)} {s : Site} {endpoints : Endpoints}
      {registration : Address} {started : Started} : Orderly sites disks c nodes → s ∈ sites →
      s ∉ nodes.map Prod.fst →
      c.startNode s.host s.root endpoints registration = (.ok started, c') →
      c'.network.connect started.handle.command = .ok (.node s.host s.root .command) →
      Orderly sites disks c' (nodes ++ [(s, started.handle)])
  /-- A start fails. -/
  | refused {c c' : Cluster} {nodes : List (Site × Handle)} {s : Site} {endpoints : Endpoints}
      {registration : Address} {e : Error} : Orderly sites disks c nodes → s ∈ sites →
      c.startNode s.host s.root endpoints registration = (.error e, c') →
      Orderly sites disks c' nodes
  /-- A client calls. -/
  | called {c : Cluster} {nodes : List (Site × Handle)} {target : Address} (r : Request) :
      Orderly sites disks c nodes →
      (∀ role, c.network.connect target = .ok role →
        interface role = .service ∨ interface role = .storage) →
      Orderly sites disks (call target r c).2 nodes

theorem Agreement.called (agreement : Agreement sites nodes c) {target : Address} (r : Request)
    (forClients : ∀ role, c.network.connect target = .ok role →
      interface role = .service ∨ interface role = .storage) :
    Agreement sites nodes (call target r c).2 := by
  rw [call_eq]
  rcases callWith_cases target r (agreement.sound.standing.serving fromNaming) with
    ⟨e, unreached⟩ | ⟨role, answers, reached, behind, small, changed⟩
  · rw [unreached]
    exact agreement
  rw [changed]
  have asked := forClients role reached
  cases agreement.sound.standing.proper reached with
  | service =>
      obtain rfl := Option.some.inj behind
      exact agreement.serveClient small
  | registration => simp [interface] at asked
  | storage mem =>
      obtain rfl := Option.some.inj behind
      exact agreement.serveStorage mem _
  | command mem => simp [interface] at asked

theorem Orderly.agreement {disks : Entries Nat Disk}
    (prepared : Prepared sites (ofDisks .connected disks)) (run : Orderly sites disks c nodes) :
    Agreement sites nodes c := by
  induction run with
  | begin started =>
      have sound := prepared.startNaming started
      obtain ⟨a, b, rfl⟩ := startNaming_eq_ok started
      refine ⟨sound, by simp, by simp, rfl, by simp, by simp, ?_, by simp⟩
      intro p h file
      exact absurd file (Namespace.kindAt?_empty_ne_leaf p h)
  | joined _ mem new done reached ih =>
      exact ih.joined mem new (startNode_joins ih.sound.standing mem done) reached
  | refused _ mem done ih => exact ih.of_sameAs (startNode_refused ih.sound.standing mem done)
  | called r _ forClients ih => exact ih.called r forClients

section Alone

variable {d : Disk} {root : HostPath} {files : PathSet} {names names' : Namespace} {p : Path}

/-- A node that is started alone. -/
theorem orderly_alone (place : Place) (listed : (⟨root, d⟩ : Store).inventory = .ok files)
    (small : (Utf8.encode (registering nodeAt files).text).length ≤ Frame.maxLength)
    (registered : Registry.empty.register nodeAt files = (.ok ∅, ⟨names, [nodeAt], 0⟩)) :
    Orderly [⟨0, root, place⟩] [(0, d)] (alone d root names) [(⟨0, root, place⟩, nodeAt)] := by
  have begun : Orderly [⟨0, root, place⟩] [(0, d)] (served d) [] := .begin (startNaming_served d)
  exact @Orderly.joined _ _ _ _ [] ⟨0, root, place⟩ _ _ _ begun List.mem_cons_self List.not_mem_nil
    (startNode_alone listed small registered) rfl

/-- At the address of the naming service, the interface for clients is met. -/
theorem forClients_alone {role : Role}
    (meets : (alone d root names).network.connect serviceAt = .ok role) :
    interface role = .service ∨ interface role = .storage := by
  obtain rfl : Role.naming .service = role := Except.ok.inj meets
  exact .inl rfl

/-- A client deletes what belongs to a node that is alone. -/
theorem Orderly.deleted_alone {disks : Entries Nat Disk} {entry : Entry}
    (run : Orderly sites disks (alone d root names) nodes)
    (small : (Utf8.encode (Request.deletePath p).text).length ≤ Frame.maxLength)
    (notRoot : p.isRoot = false) (removed : names.remove p = some (entry, names'))
    (owners : (Entry.owners entry).toList = [nodeAt]) :
    Orderly sites disks (alone ((⟨root, d⟩ : Store).delete p).2.disk root names') nodes := by
  rw [← call_alone_deletePath small notRoot removed owners]
  exact .called (.deletePath p) run fun _ => forClients_alone

end Alone

/-- In every cluster that comes about in this way: every owner is a node that has joined;
what a node owns is a regular file on its disk; every regular file on its disk, as long as
the host takes the path, is at the place of a path that the node owns; and so no path is
on two nodes. -/
theorem namespace_agrees {disks : Entries Nat Disk}
    (prepared : Prepared sites (ofDisks .connected disks)) (run : Orderly sites disks c nodes) :
    (∀ p h, c.registry.owner p = .ok h → ∃ s, (s, h) ∈ nodes) ∧
    (∀ s h, (s, h) ∈ nodes →
      (∀ p, c.registry.owner p = .ok h → ∃ content, c.fileAt? s p.place = some content) ∧
      ∀ xs content, c.fileAt? s xs = some content → s.root.Fits xs →
        ∃ p : Path, p.place = xs ∧ c.registry.owner p = .ok h) ∧
    ∀ n ∈ nodes, ∀ n' ∈ nodes, ∀ xs content content',
      c.fileAt? n.1 xs = some content → n.1.root.Fits xs →
      c.fileAt? n'.1 xs = some content' → n'.1.root.Fits xs → n = n' := by
  have agreement := run.agreement prepared
  have sound := agreement.sound
  have owned : ∀ s h, (s, h) ∈ nodes → ∀ xs content, c.fileAt? s xs = some content →
      s.root.Fits xs → ∃ p : Path, p.place = xs ∧ c.registry.owner p = .ok h := by
    intro s h isNode xs content file fits
    have leaf := (sound.opened (agreement.members _ isNode)).leafAt?_ne_none_iff.mpr ⟨content, file⟩
    obtain ⟨p, here, owner⟩ := agreement.stored s h isNode xs leaf fits
    exact ⟨p, here, Registry.owner_eq_ok_iff.mpr owner⟩
  refine ⟨?_, fun s h isNode => ⟨?_, owned s h isNode⟩, ?_⟩
  · intro p h owner
    obtain ⟨s, isNode, -⟩ := agreement.held p h (Registry.owner_eq_ok_iff.mp owner)
    exact ⟨s, isNode⟩
  · intro p owner
    obtain ⟨t, isNode', leaf⟩ := agreement.held p h (Registry.owner_eq_ok_iff.mp owner)
    obtain rfl := agreement.site_unique isNode isNode'
    exact (sound.opened (agreement.members _ isNode)).leafAt?_ne_none_iff.mp leaf
  · rintro ⟨s, h⟩ isNode ⟨s', h'⟩ isNode' xs content content' file fits file' fits'
    obtain ⟨p, rfl, owner⟩ := owned s h isNode xs content file fits
    obtain ⟨q, same, owner'⟩ := owned s' h' isNode' p.place content' file' fits'
    obtain rfl := Path.place_injective same
    rw [owner] at owner'
    obtain rfl := Except.ok.inj owner'
    rw [agreement.site_unique isNode isNode']

theorem orderly_home :
    Orderly [home] [(0, homeDisk)] (alone homeDisk home.root homeNames) [(home, nodeAt)] :=
  orderly_alone home.place inventory_home small_home rfl

/-- The file of a node that is alone is where its name is, and its name where it is. -/
theorem namespace_agrees_home :
    ∃ c, Prepared [home] (ofDisks .connected [(0, homeDisk)]) ∧
      Orderly [home] [(0, homeDisk)] c [(home, nodeAt)] ∧
      (∃ content, c.fileAt? home homeFile.place = some content) ∧
      ∃ p : Path, p.place = [[0x66]] ∧ c.registry.owner p = .ok nodeAt := by
  obtain ⟨-, same, -⟩ := namespace_agrees (prepared_home .connected) orderly_home
  obtain ⟨held, stored⟩ := same home nodeAt List.mem_cons_self
  exact ⟨_, prepared_home .connected, orderly_home, held homeFile (by decide),
    stored [[0x66]] .empty rfl (by decide)⟩

/-! ### Where the agreement ends -/

/-- What the namespace says of the nodes is what is on their disks, and nothing else. -/
def Agrees (nodes : List (Site × Handle)) (c : Cluster) : Prop :=
  ∀ n ∈ nodes, ∀ p, c.registry.owner p = .ok n.2 ↔ ∃ content, c.fileAt? n.1 p.place = some content

theorem not_agrees_of_file {p : Path} (content : Content)
    (file : c.fileAt? s p.place = some content) (unowned : c.registry.owner p ≠ .ok handle) :
    ¬ Agrees [(s, handle)] c := by
  intro agrees
  exact unowned ((agrees _ List.mem_cons_self p).mpr ⟨content, file⟩)

/-- A path to the top of a disk that is almost as long as a host takes: `./` repeated. -/
def dots : HostPath := ⟨(List.replicate 2046 [0x2E, HostPath.slash]).flatten⟩

/-- The file `/long`, whose name does not fit behind that path. -/
def longPath : Path := ⟨[⟨"long", by decide⟩]⟩

/-- A disk with that file at its top. -/
def longDisk : Disk := { top := [([0x6C, 0x6F, 0x6E, 0x67], .leaf (.file .empty))] }

theorem leads_dots : longDisk.Leads [[]] dots [] :=
  Leads.of_dots (by decide +kernel) (by decide +kernel)

theorem length_dots : dots.bytes.length = 4092 := by
  rw [dots, List.length_flatten, List.map_replicate, List.sum_replicate_nat]
  rfl

theorem rooted_dots : longDisk.Rooted dots [] :=
  ⟨Plain.of_places rfl (by decide) (by decide), leads_dots longDisk (.refl _ _)⟩

theorem not_fits_longPath : ¬ dots.Fits longPath.place := by
  have name : longPath.place = [[0x6C, 0x6F, 0x6E, 0x67]] := rfl
  rw [name, HostPath.Fits, ← List.nil_append [_], HostPath.below_concat, HostPath.below_nil,
    HostPath.bytes_push, List.length_append, List.length_append, length_dots, HostPath.maxLength]
  simp only [List.length_cons]
  omega

theorem inventory_dots : (⟨dots, longDisk⟩ : Store).inventory = .ok (.ofList [longPath]) := by
  have places : Tree.places (.dir longDisk.top) =
      [([], none), (longPath.place, some (.file .empty))] := rfl
  have fits : dots.Fits [] := by
    rw [HostPath.Fits, HostPath.below_nil, length_dots]
    decide
  exact Store.inventory_of_leaves rooted_dots (by decide) rfl (by simpa [places] using fits) rfl

/-- The node cannot delete the file. -/
theorem orderly_dots : Orderly [⟨0, dots, []⟩] [(0, longDisk)] (alone longDisk dots .empty)
    [(⟨0, dots, []⟩, nodeAt)] := by
  have joined := @orderly_alone longDisk dots _ ⟨[(⟨"long", by decide⟩, .leaf nodeAt)]⟩ []
    inventory_dots (small_registering (by decide +kernel)) rfl
  have tooLong := rooted_dots.check_of_not_fits (by decide) not_fits_longPath
  have refused : (⟨dots, longDisk⟩ : Store).delete longPath = (false, ⟨dots, longDisk⟩) :=
    Store.delete_of_refused (Path.toHost_eq_ok_iff.mpr ⟨by decide, rfl⟩) tooLong
  have small : (Utf8.encode (Request.deletePath longPath).text).length ≤ Frame.maxLength :=
    Request.small_of_fits rfl home.root (by decide)
  have deleted := joined.deleted_alone small rfl rfl rfl
  rw [refused] at deleted
  exact deleted

/-- A path to the top of a disk that leads through the directory `/x`: `x/..`. -/
def detour : HostPath := ⟨[0x78, HostPath.slash, 0x2E, 0x2E]⟩

def nameX : Name := ⟨"x", by decide⟩

/-- The file `/f`, and the directory `/x` with another file of this name. -/
def twoFiles : Disk :=
  { top := [([0x66], .leaf (.file .empty)), ([0x78], .dir [([0x66], .leaf (.file .empty))])] }

/-- The file `/f` only. -/
def firstFile : Disk := { top := [([0x66], .leaf (.file .empty))] }

/-- Both files belong to the node. -/
def twoNames : Namespace := ⟨[(nameF, .leaf nodeAt), (nameX, .dir [(nameF, .leaf nodeAt)])]⟩

theorem orderly_twoFiles : Orderly [⟨0, detour, []⟩] [(0, twoFiles)] (alone twoFiles detour twoNames)
    [(⟨0, detour, []⟩, nodeAt)] := by
  have plain : twoFiles.Plain [] := Plain.of_places rfl (by decide) (by decide)
  have listed : (⟨detour, twoFiles⟩ : Store).inventory =
      .ok (.ofList [homeFile, ⟨[nameX, nameF]⟩]) :=
    Store.inventory_of_leaves ⟨plain, _, rfl⟩ (by decide) rfl (by decide) rfl
  exact orderly_alone [] listed (small_registering (by decide +kernel)) rfl

/-- Without `/x`, the node cannot delete `/f` either. -/
theorem orderly_detour : Orderly [⟨0, detour, []⟩] [(0, twoFiles)] (alone firstFile detour .empty)
    [(⟨0, detour, []⟩, nodeAt)] := by
  have deleted : (⟨detour, twoFiles⟩ : Store).delete ⟨[nameX]⟩ = (true, ⟨detour, firstFile⟩) := rfl
  have smallX : (Utf8.encode (Request.deletePath ⟨[nameX]⟩).text).length ≤ Frame.maxLength :=
    Request.small_of_fits rfl detour (by decide)
  have smallF : (Utf8.encode (Request.deletePath homeFile).text).length ≤ Frame.maxLength :=
    Request.small_of_fits rfl detour (by decide)
  have first := orderly_twoFiles.deleted_alone smallX rfl rfl rfl
  rw [deleted] at first
  have refused : (⟨detour, firstFile⟩ : Store).delete homeFile = (false, ⟨detour, firstFile⟩) := rfl
  have second := first.deleted_alone smallF rfl rfl rfl
  rw [refused] at second
  exact second

/-- Without the two conditions there is no agreement: a file stays on the disk without a
name if its path is longer than the host takes, and if the path of the root leads through
what is below the root, and that is deleted. -/
theorem namespace_disagrees :
    (Prepared [⟨0, dots, []⟩] (ofDisks .connected [(0, longDisk)]) ∧
      ∃ c nodes, Orderly [⟨0, dots, []⟩] [(0, longDisk)] c nodes ∧ ¬ Agrees nodes c) ∧
    (twoFiles.resolve true detour = .ok (.found [] (.dir twoFiles.top)) ∧ twoFiles.Plain [] ∧
      (Tree.dir twoFiles.top).Ordered ∧
      ∃ c nodes, Orderly [⟨0, detour, []⟩] [(0, twoFiles)] c nodes ∧ ¬ Agrees nodes c) := by
  have ordered : (Tree.dir longDisk.top).Ordered := by decide
  have prepared := @Prepared.of_leads longDisk dots .connected _ leads_dots
    (Plain.of_places rfl ordered (by decide)) ordered
  have ordered' : (Tree.dir twoFiles.top).Ordered := by decide
  refine ⟨⟨prepared, _, _, orderly_dots, ?_⟩, rfl, Plain.of_places rfl ordered' (by decide),
    ordered', _, _, orderly_detour, ?_⟩
  · exact @not_agrees_of_file _ _ _ longPath .empty rfl (by decide)
  · exact @not_agrees_of_file _ _ _ homeFile .empty rfl (by decide)

end Dfs.Cluster
