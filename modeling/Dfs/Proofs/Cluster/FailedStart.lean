import Dfs.Proofs.Cluster.Alone
import Dfs.Proofs.Cluster.Start

/-!
Starts that fail, in any cluster. A storage node asks the naming service last
(`startNodeWith_refused`): if it fails before that, the cluster is as it was, and if the
naming service refuses it, only what that did is left. In both cases no address that the
node listened on leads anywhere, and the same goes for the naming service itself, if one of
its endpoints cannot listen (`failedStart_leaves_nothing`). An endpoint that is given up is
closed at once here.
-/

namespace Dfs.Cluster

open Disk

variable {c c' : Cluster} {host : Nat} {root : HostPath} {endpoints : Endpoints}

/-! ### Two endpoints -/

/-- The addresses that are listened on when two endpoints start, even if only for a while. -/
def listenedOn (c : Cluster) (first second : Address × Role) : List Address :=
  match c.listen first.1 first.2 with
  | .error _ => []
  | .ok (a, c) =>
    match c.listen second.1 second.2 with
    | .error _ => [a]
    | .ok (b, _) => [a, b]

/-- No address that leads to one of those can be reached. -/
def Unreached (c : Cluster) (bound : List Address) : Prop :=
  ∀ a ∈ bound, ∀ target, Network.Leads target a → ∃ fault, c.network.connect target = .error fault

/-- Before the endpoints listen, nobody is reached at their addresses. -/
theorem unreached_listenedOn (c : Cluster) (first second : Address × Role) :
    c.Unreached (c.listenedOn first second) := by
  intro x mem target leads
  unfold listenedOn at mem
  split at mem
  · cases mem
  next a c₁ firstListens =>
  obtain ⟨rfl, clear⟩ := listen_eq_ok firstListens
  split at mem
  · obtain rfl := List.mem_singleton.mp mem
    exact Network.connect_of_clear clear leads
  next b c₂ secondListens =>
  obtain ⟨-, clear'⟩ := listen_eq_ok secondListens
  rcases List.mem_pair.mp mem with rfl | rfl
  · exact Network.connect_of_clear clear leads
  · exact Network.connect_of_clear (fun l here => clear' l (List.mem_append_left _ here)) leads

theorem Unreached.congr {bound : List Address} (unreached : c.Unreached bound)
    (same : c'.network = c.network) : c'.Unreached bound := by
  unfold Unreached
  rw [same]
  exact unreached

/-! ### Naming services -/

/-- A registration, be it refused, starts and stops no endpoint and touches no disk. -/
structure Registrar.Unobtrusive (naming : Registrar) : Prop where
  network : ∀ handle files c, (naming handle files c).2.network = c.network
  disks : ∀ handle files c host, (naming handle files c).2.diskOf host = c.diskOf host

theorem playScript_keeps (host : Nat) (i : Interface) (payloads : List (List UInt8)) (c : Cluster) :
    (playScript host i payloads c).2.network = c.network ∧
      (playScript host i payloads c).2.disks = c.disks := by
  induction payloads generalizing c with
  | nil => exact ⟨rfl, rfl⟩
  | cons payload payloads ih =>
      unfold playScript
      dsimp only
      split
      · exact ⟨rfl, rfl⟩
      · exact ih _

/-- Whichever endpoint is asked for a registration, network and disks stay. -/
theorem server_registering_keeps (inner : Caller Cluster) (i : Interface) (host : Nat)
    (root : HostPath) (handle : Handle) (files : PathSet) (c : Cluster) :
    (server inner i host root (registering handle files).withoutFlow c).2.network = c.network ∧
      ∀ other, (server inner i host root (registering handle files).withoutFlow c).2.diskOf other =
        c.diskOf other := by
  cases i with
  | service => exact ⟨rfl, fun _ => rfl⟩
  | registration => exact ⟨rfl, fun _ => rfl⟩
  | storage => exact ⟨rfl, diskOf_setDisk_diskOf c host⟩
  | command => exact ⟨rfl, diskOf_setDisk_diskOf c host⟩

theorem answerStream_registering_keeps (inner : Caller Cluster) (role : Role) {target : Address}
    {handle : Handle} {files : PathSet} {stream : List UInt8}
    (sent : Connection.send target (registering handle files) = .ok stream) (c : Cluster) :
    (answerStream inner role stream c).2.network = c.network ∧
      ∀ other, (answerStream inner role stream c).2.diskOf other = c.diskOf other := by
  cases role with
  | naming i =>
      unfold answerStream
      dsimp only
      rw [Connection.serveStream_of_send sent]
      exact server_registering_keeps inner i 0 ⟨[]⟩ handle files c
  | node host root i =>
      unfold answerStream
      dsimp only
      rw [Connection.serveStream_of_send sent]
      exact server_registering_keeps inner i host root handle files c
  | scripted host i =>
      obtain ⟨network, disks⟩ := playScript_keeps host i (Connection.payloads stream) c
      exact ⟨network, fun other => congrArg (fun d => (Entries.find other d).getD _) disks⟩

/-- A registration by a call is unobtrusive, whatever listens at the address. -/
theorem unobtrusive_register (registration : Address) :
    Registrar.Unobtrusive (Call.register call registration) := by
  have keeps : ∀ handle files (c : Cluster),
      (call registration (registering handle files) c).2.network = c.network ∧
      ∀ host, (call registration (registering handle files) c).2.diskOf host = c.diskOf host := by
    intro handle files c
    unfold call callWith
    split
    · exact ⟨rfl, fun _ => rfl⟩
    split
    · exact ⟨rfl, fun _ => rfl⟩
    · next stream sent => exact answerStream_registering_keeps _ _ sent c
  refine ⟨?_, ?_⟩
  · intro handle files c
    rw [register_eq]
    exact (keeps handle files c).1
  · intro handle files c
    rw [register_eq]
    exact (keeps handle files c).2

/-! ### Failed starts -/

/-- How the start of a node fails. -/
inductive Refused (c : Cluster) (naming : Registrar) (host : Nat) (root : HostPath)
    (endpoints : Endpoints) (e : Error) : Cluster → Prop where
  /-- The naming service is not asked: the start fails with any other one as well, and changes
  nothing. -/
  | unasked : (∀ other : Registrar, c.startNodeWith other host root endpoints = (.error e, c)) →
      Refused c naming host root endpoints e c
  /-- The naming service refuses the node, which listens while it asks. -/
  | asked {storage command : Address} {handle : Handle} {files : PathSet} {c₁ c₂ : Cluster} :
      c.listenNode host root endpoints = (.ok (storage, command), c₁) →
      naming handle files c₁ = (.error e, c₂) →
      Refused c naming host root endpoints e ((c₂.unlisten storage).unlisten command)

/-- A start fails at one of its steps, the last of which asks the naming service. -/
theorem startNodeWith_refused {naming : Registrar} {e : Error}
    (done : c.startNodeWith naming host root endpoints = (.error e, c')) :
    Refused c naming host root endpoints e c' := by
  have unasked : ∀ {e'}, (∀ other, c.startNodeWith other host root endpoints = (.error e', c)) →
      Refused c naming host root endpoints e c' := by
    intro e' always
    rw [always naming] at done
    obtain ⟨same, rfl⟩ := Prod.mk.inj done
    obtain rfl := Except.error.inj same
    exact .unasked always
  cases listed : (c.storeOf host root).inventory with
  | error e' => exact unasked fun _ => startNodeWith_of_unlisted listed
  | ok files =>
      rcases listening : c.listenNode host root endpoints with ⟨e' | ⟨storage, command⟩, c₁⟩
      · exact unasked fun _ => startNodeWith_of_deaf listed listening
      cases made : endpoints.handle storage command with
      | error e' => exact unasked fun _ => startNodeWith_of_unknown listed listening made
      | ok handle =>
          rcases answered : naming handle files c₁ with ⟨e' | duplicates, c₂⟩
          · rw [startNodeWith_of_refused listed listening made answered] at done
            obtain ⟨same, rfl⟩ := Prod.mk.inj done
            obtain rfl := Except.error.inj same
            exact .asked listening answered
          · have joined := startNodeWith_of_registered listed listening made answered
            rw [done] at joined
            cases joined

/-- Every disk and the network are as before, and no address that was listened on leads
anywhere. -/
structure Undone (c c' : Cluster) (bound : List Address) : Prop where
  disks : ∀ host, c'.diskOf host = c.diskOf host
  network : c'.network = c.network
  unreached : c'.Unreached bound

/-- The addresses that a node listens on while it starts. -/
def nodeAddresses (c : Cluster) (host : Nat) (root : HostPath) (endpoints : Endpoints) :
    List Address :=
  c.listenedOn (endpoints.storage, .node host root .storage)
    (endpoints.command, .node host root .command)

/-- The addresses that the naming service listens on while it starts. -/
def namingAddresses (c : Cluster) (service registration : Address) : List Address :=
  c.listenedOn (service, .naming .service) (registration, .naming .registration)

theorem Refused.undone {naming : Registrar} {e : Error}
    (refused : Refused c naming host root endpoints e c') (unobtrusive : naming.Unobtrusive) :
    Undone c c' (c.nodeAddresses host root endpoints) := by
  have unreached : c.Unreached (c.nodeAddresses host root endpoints) :=
    c.unreached_listenedOn _ _
  cases refused with
  | unasked always => exact ⟨fun _ => rfl, rfl, unreached⟩
  | @asked storage command handle files c₁ c₂ listening answered =>
      have network := unobtrusive.network handle files c₁
      have disks := unobtrusive.disks handle files c₁
      rw [answered] at network disks
      obtain ⟨heard, released⟩ := listenBoth_eq_ok listening
      have restored : ((c₂.unlisten storage).unlisten command).network = c.network := by
        rw [← released, ← network]
        rfl
      refine ⟨?_, restored, unreached.congr restored⟩
      intro other
      rw [heard] at disks
      exact disks other

theorem startNaming_refused {service registration : Address} {e : Error}
    (done : c.startNaming service registration = .error e) :
    c.listenNaming service registration = (.error e, c) := by
  unfold startNaming at done
  split at done
  · next e' c₁ deaf =>
      obtain rfl := Except.error.inj done
      obtain rfl := listenBoth_eq_error deaf
      exact deaf
  · cases done

/-- What a start that fails leaves behind: nothing on any disk, and no endpoint. Unless it is the
naming service that refuses the node, that has not been asked, and the cluster is the one before.
A naming service that cannot listen at one of its addresses does not listen at the other one. -/
theorem failedStart_leaves_nothing (c : Cluster) (host : Nat) (root : HostPath)
    (endpoints : Endpoints) (e : Error) :
    (∀ (naming : Registrar) (c' : Cluster),
      c.startNodeWith naming host root endpoints = (.error e, c') →
      Refused c naming host root endpoints e c' ∧
        (naming.Unobtrusive → Undone c c' (c.nodeAddresses host root endpoints))) ∧
    (∀ (registration : Address) (c' : Cluster),
      c.startNode host root endpoints registration = (.error e, c') →
      Refused c (Call.register call registration) host root endpoints e c' ∧
        Undone c c' (c.nodeAddresses host root endpoints)) ∧
    ∀ service registration : Address, c.startNaming service registration = .error e →
      ∃ c', c.listenNaming service registration = (.error e, c') ∧
        Undone c c' (c.namingAddresses service registration) := by
  refine ⟨?_, ?_, ?_⟩
  · intro naming c' done
    have refused := startNodeWith_refused done
    exact ⟨refused, refused.undone⟩
  · intro registration c' done
    have refused := startNodeWith_refused done
    exact ⟨refused, refused.undone (unobtrusive_register registration)⟩
  · intro service registration done
    exact ⟨c, startNaming_refused done, fun _ => rfl, rfl, c.unreached_listenedOn _ _⟩

/-- A node and a naming service, each with one address that is taken. -/
theorem failedStart_of_taken :
    (∃ e c', (served homeDisk).startNode 0 home.root ⟨nodeAt.storage, serviceAt, none⟩
        registrationAt = (.error e, c') ∧
      (∀ host, c'.diskOf host = (served homeDisk).diskOf host) ∧
      ∃ fault, c'.network.connect nodeAt.storage = .error fault) ∧
    ∃ e c', (ofDisks .connected []).listenNaming serviceAt serviceAt = (.error e, c') ∧
      ∃ fault, c'.network.connect serviceAt = .error fault := by
  have started : (served homeDisk).startNode 0 home.root ⟨nodeAt.storage, serviceAt, none⟩
      registrationAt = (.error (bindError serviceAt .addressInUse), served homeDisk) :=
    startNodeWith_of_deaf inventory_home rfl
  have atNode : nodeAt.storage ∈ (served homeDisk).nodeAddresses 0 home.root
      ⟨nodeAt.storage, serviceAt, none⟩ := by decide
  have named : (ofDisks .connected []).startNaming serviceAt serviceAt =
      .error (bindError serviceAt .addressInUse) := rfl
  have atService : serviceAt ∈ (ofDisks .connected []).namingAddresses serviceAt serviceAt := by
    decide
  obtain ⟨-, node⟩ := (failedStart_leaves_nothing _ _ _ _ _).2.1 _ _ started
  obtain ⟨c', deaf, naming⟩ :=
    (failedStart_leaves_nothing _ 0 home.root nodeEndpoints _).2.2 _ _ named
  exact ⟨⟨_, _, started, node.disks, node.unreached _ atNode _ (.self _)⟩, _, c', deaf,
    naming.unreached _ atService _ (.self _)⟩

end Dfs.Cluster
