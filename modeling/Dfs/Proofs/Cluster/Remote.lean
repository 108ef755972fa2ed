import Dfs.Proofs.Cluster.Alone
import Dfs.Proofs.Naming.Handles
import Dfs.Proofs.Naming.Ownership

/-!
Methods over the network. `Operation` lists the methods of the four interfaces with
their arguments. At its endpoint (`Operation.remotely`) a method does what it does on
the server behind the endpoint (`Operation.directly`), with the same answer, if request
and reply fit into a frame; if the request does not, nothing is done
(`Operation.remote_eq_direct`).

The one thing that a message loses is flow information of addresses. A registry has
none as long as none is brought to it (`Operation.flowFree_directly`).
-/

namespace Dfs

/-- The methods of an interface with their arguments, by the type of what they answer. -/
inductive Operation : Interface → Type → Type where
  | size (p : Path) : Operation .storage UInt64
  | read (p : Path) (offset length : Int64) : Operation .storage (List UInt8)
  | write (p : Path) (offset : Int64) (data : List UInt8) : Operation .storage Unit
  | create (p : Path) : Operation .command Bool
  | delete (p : Path) : Operation .command Bool
  | register (node : Handle) (files : PathSet) : Operation .registration PathSet
  | exists (p : Path) : Operation .service Bool
  | isDirectory (p : Path) : Operation .service Bool
  | list (p : Path) : Operation .service NameSet
  | createFile (p : Path) : Operation .service Bool
  | createDirectory (p : Path) : Operation .service Bool
  | deletePath (p : Path) : Operation .service Bool
  | getStorage (p : Path) : Operation .service Address

namespace Operation

open Cluster

variable {i : Interface} {α : Type}

/-- The request for a method. -/
def request : Operation i α → Request
  | .size p => .size p
  | .read p offset length => .read p offset length
  | .write p offset data => .write p offset data
  | .create p => .create p
  | .delete p => .delete p
  | .register node files => .register (some node.storage) (some node.command) (some files)
  | .exists p => .exists p
  | .isDirectory p => .isDirectory p
  | .list p => .list p
  | .createFile p => .createFile p
  | .createDirectory p => .createDirectory p
  | .deletePath p => .deletePath p
  | .getStorage p => .getStorage p

/-- The response that carries an answer. -/
def response : Operation i α → α → Response
  | .size _ => .size
  | .read .. => .bytes
  | .write .. => fun _ => .unit
  | .create _ | .delete _ | .exists _ | .isDirectory _ | .createFile _ | .createDirectory _
  | .deletePath _ => .bool
  | .register .. => fun duplicates => .duplicates (some duplicates)
  | .list _ => .names
  | .getStorage _ => .storage

/-- The reply that carries the outcome of a method. -/
def reply (op : Operation i α) (outcome : Except Error α) : Reply := outcome.map op.response

/-- An answer as it arrives: an address loses its flow information. -/
def arrived : Operation i α → α → α
  | .getStorage _ => Address.withoutFlow
  | .size _ | .read .. | .write .. | .create _ | .delete _ | .register .. | .exists _
  | .isDirectory _ | .list _ | .createFile _ | .createDirectory _ | .deletePath _ => id

/-- What a caller takes from a response. -/
def expect : Operation i α → Response → Except Error α
  | .size _ => Response.toSize
  | .read .. => Response.toBytes
  | .write .. => Response.toUnit
  | .create _ | .delete _ | .exists _ | .isDirectory _ | .createFile _ | .createDirectory _
  | .deletePath _ => Response.toBool
  | .register .. => Response.toDuplicates
  | .list _ => Response.toNames
  | .getStorage _ => Response.toStorage

/-- The method as a call of an endpoint. -/
def remotely {σ : Type} (call : Caller σ) (target : Address) :
    Operation i α → σ → Except Error α × σ
  | .size p => Call.size call target p
  | .read p offset length => Call.read call target p offset length
  | .write p offset data => Call.write call target p offset data
  | .create p => Call.create call target p
  | .delete p => Call.delete call target p
  | .register node files => Call.register call target node files
  | .exists p => Call.pathExists call target p
  | .isDirectory p => Call.isDirectory call target p
  | .list p => Call.list call target p
  | .createFile p => Call.createFile call target p
  | .createDirectory p => Call.createDirectory call target p
  | .deletePath p => Call.deletePath call target p
  | .getStorage p => Call.getStorage call target p

/-- Runs a method on the files of a node. -/
def onNode (host : Nat) (root : HostPath) (method : Store → Except Error α × Store) (c : Cluster) :
    Except Error α × Cluster :=
  let (outcome, store) := method (c.storeOf host root)
  (outcome, c.setDisk host store.disk)

/-- Runs a method on the registry, which may call nodes. -/
def onRegistry (method : Registry → Cluster → Except Error α × Registry × Cluster) (c : Cluster) :
    Except Error α × Cluster :=
  let (outcome, registry, c) := method c.registry c
  (outcome, { c with registry })

/-- The method on the spot: on the registry, or on the files of the node on the host. -/
def directly (inner : Caller Cluster) (host : Nat) (root : HostPath) :
    Operation i α → Cluster → Except Error α × Cluster
  | .size p => onNode host root fun st => (st.size p, st)
  | .read p offset length => onNode host root fun st => (st.read p offset length, st)
  | .write p offset data => onNode host root fun st => st.write p offset data
  | .create p => onNode host root fun st => (.ok (st.create p).1, (st.create p).2)
  | .delete p => onNode host root fun st => (.ok (st.delete p).1, (st.delete p).2)
  | .register node files => onRegistry fun reg c =>
    ((reg.register node files).1, (reg.register node files).2, c)
  | .exists p => onRegistry fun reg c => (.ok (reg.contains p), reg, c)
  | .isDirectory p => onRegistry fun reg c => (reg.isDirectory p, reg, c)
  | .list p => onRegistry fun reg c => (reg.list p, reg, c)
  | .createFile p => onRegistry fun reg c => reg.createFile (Call.nodeCalls inner) p c
  | .createDirectory p => onRegistry fun reg c =>
    ((reg.createDirectory p).1, (reg.createDirectory p).2, c)
  | .deletePath p => onRegistry fun reg c => reg.delete (Call.nodeCalls inner) p c
  | .getStorage p => onRegistry fun reg c => (reg.getStorage p, reg, c)

/-- The role of an endpoint of the naming service, or of the node on the host. -/
def role (host : Nat) (root : HostPath) : Interface → Role
  | .service => .naming .service
  | .registration => .naming .registration
  | .storage => .node host root .storage
  | .command => .node host root .command

variable {inner : Caller Cluster} {target : Address} {host : Nat} {root : HostPath} {c : Cluster}

theorem expect_response (op : Operation i α) (a : α) : op.expect (op.response a) = .ok a := by
  cases op <;> rfl

theorem withoutFlow_response (op : Operation i α) (a : α) :
    (op.response a).withoutFlow = op.response (op.arrived a) := by
  cases op <;> rfl

theorem remotely_eq_invoke {σ : Type} (call : Caller σ) (op : Operation i α) :
    op.remotely call target = Call.invoke call op.expect target op.request := by
  cases op <;> rfl

/-- The server at the endpoint answers the request with the outcome of the method. -/
theorem exists_server (inner : Caller Cluster) (host : Nat) (root : HostPath)
    (op : Operation i α) :
    ∃ answers, server? inner (role host root i) = some answers ∧
      ∀ c, answers op.request c = (op.reply (op.directly inner host root c).1,
        (op.directly inner host root c).2) := by
  cases op <;> exact ⟨_, rfl, fun _ => rfl⟩

/-- What a caller takes from a reply is the outcome that it carries. -/
theorem bind_expect_reply (op : Operation i α) (outcome : Except Error α) :
    (Reply.withoutFlow (op.reply outcome)).bind op.expect = outcome.map op.arrived := by
  cases outcome with
  | error e => rfl
  | ok a =>
      have arrives := withoutFlow_response op a
      simp only [reply, Reply.withoutFlow, Except.map, Except.bind, arrives, expect_response]

/-- Only a registration brings addresses. -/
theorem flowFree_request (op : Operation i α) (other : i ≠ .registration) :
    op.request.FlowFree := by
  intro a given
  cases op with
  | register node files => exact absurd rfl other
  | _ => cases given

section Reached

variable {op : Operation i α} (reached : c.network.connect target = .ok (role host root i))

include reached

theorem remotely_of_small (flowFree : op.request.FlowFree)
    (small : (Utf8.encode op.request.text).length ≤ Frame.maxLength)
    (short : (Utf8.encode (op.reply (op.directly inner host root c).1).text).length ≤
      Frame.maxLength) :
    op.remotely (callWith inner) target c =
      ((op.directly inner host root c).1.map op.arrived, (op.directly inner host root c).2) := by
  obtain ⟨answers, behind, served⟩ := exists_server inner host root op
  have seen : answers op.request.withoutFlow c = (op.reply (op.directly inner host root c).1,
      (op.directly inner host root c).2) := by
    rw [flowFree.withoutFlow_eq_self, served]
  have arrives := callWith_of_reply reached behind small (by rwa [seen])
  rw [seen] at arrives
  rw [remotely_eq_invoke, Call.invoke, arrives]
  dsimp only
  rw [bind_expect_reply]

theorem remotely_of_ok (flowFree : op.request.FlowFree)
    (small : (Utf8.encode op.request.text).length ≤ Frame.maxLength) {a : α} {c' : Cluster}
    (done : op.directly inner host root c = (.ok a, c'))
    (short : (Utf8.encode (op.reply (.ok a)).text).length ≤ Frame.maxLength) :
    op.remotely (callWith inner) target c = (.ok (op.arrived a), c') := by
  rw [remotely_of_small reached flowFree small (by rwa [done]), done]
  rfl

/-- An error arrives as some error, also if it is too long for a reply. -/
theorem remotely_of_error (flowFree : op.request.FlowFree)
    (small : (Utf8.encode op.request.text).length ≤ Frame.maxLength) {e : Error} {c' : Cluster}
    (failed : op.directly inner host root c = (.error e, c')) :
    ∃ e', op.remotely (callWith inner) target c = (.error e', c') := by
  obtain ⟨answers, behind, served⟩ := exists_server inner host root op
  have seen : answers op.request.withoutFlow c = (.error e, c') := by
    rw [flowFree.withoutFlow_eq_self, served, failed]
    rfl
  obtain ⟨e', error⟩ := callWith_of_error reached behind small (congrArg Prod.fst seen)
  have state : (callWith inner target op.request c).2 = c' := by
    rw [callWith_of_server reached behind small, seen]
  refine ⟨e', ?_⟩
  rw [remotely_eq_invoke, Call.invoke]
  dsimp only
  rw [error, state]
  rfl

theorem remotely_of_large (large : Frame.maxLength < (Utf8.encode op.request.text).length) :
    op.remotely (callWith inner) target c =
      (.error (.transport s!"send to {target}: frame size too big"), c) := by
  rw [remotely_eq_invoke, Call.invoke, callWith_of_large reached large]
  rfl

end Reached

/-- The outcome of a method, as a client learns it. -/
theorem remotely_call (op : Operation i α) {outcome : Except Error α}
    (reached : c.network.connect target = .ok (role host root i)) (flowFree : op.request.FlowFree)
    (small : (Utf8.encode op.request.text).length ≤ Frame.maxLength)
    (direct : (op.directly fromNaming host root c).1 = outcome)
    (short : (Utf8.encode (op.reply outcome).text).length ≤ Frame.maxLength) :
    (op.remotely call target c).1 = outcome.map op.arrived := by
  subst direct
  rw [call_eq, remotely_of_small reached flowFree small short]

/-- What a registry without flow information answers has none. -/
theorem map_arrived (op : Operation i α) (flowless : c.registry.FlowFree) :
    (op.directly inner host root c).1.map op.arrived = (op.directly inner host root c).1 := by
  have unchanged : ∀ outcome : Except Error α, outcome.map id = outcome := by
    intro outcome
    cases outcome <;> rfl
  cases op with
  | getStorage p =>
      have storage : (c.registry.getStorage p).map Address.withoutFlow = c.registry.getStorage p := by
        unfold Registry.getStorage
        cases owner : c.registry.owner p with
        | error e => rfl
        | ok h =>
            have known : c.registry.Knows h :=
              .inr ⟨p, Registry.owner_eq_ok_iff.mp owner⟩
            have same := Address.withoutFlow_eq_self_iff.mpr (flowless h known).1
            simp only [Except.map, same]
      exact storage
  | _ => exact unchanged _

/-- A registry stays without flow information, if none is brought to it. -/
theorem flowFree_directly (op : Operation i α) (flowFree : op.request.FlowFree)
    (flowless : c.registry.FlowFree) : (op.directly inner host root c).2.registry.FlowFree := by
  intro h known
  cases op with
  | register node files =>
      rcases Registry.knows_register known with known | rfl
      · exact flowless h known
      · exact ⟨flowFree _ List.mem_cons_self, flowFree _ (List.mem_cons_of_mem _ List.mem_cons_self)⟩
  | createFile p =>
      have created : (c.registry.createFile (Call.nodeCalls inner) p c).2.1.Knows h := known
      exact flowless h (Registry.knows_createFile created)
  | createDirectory p => exact flowless h (Registry.knows_createDirectory known)
  | deletePath p =>
      have deleted : (c.registry.delete (Call.nodeCalls inner) p c).2.1.Knows h := known
      exact flowless h (Registry.knows_delete deleted)
  | _ => exact flowless h known

/-- A method that is called at its endpoint has the answer and the effect that it has on
the spot, as long as request and reply fit into a frame: the same answer, if there is no
flow information, and otherwise the one without it. If the request does not fit, the call
ends with an error of the transport, and without effect. -/
theorem remote_eq_direct (op : Operation i α)
    (reached : c.network.connect target = .ok (role host root i))
    (flowFree : op.request.FlowFree) :
    ((Utf8.encode op.request.text).length ≤ Frame.maxLength →
      (Utf8.encode (op.reply (op.directly inner host root c).1).text).length ≤ Frame.maxLength →
      (c.registry.FlowFree →
        op.remotely (callWith inner) target c = op.directly inner host root c) ∧
      op.remotely (callWith inner) target c = ((op.directly inner host root c).1.map op.arrived,
        (op.directly inner host root c).2)) ∧
    (Frame.maxLength < (Utf8.encode op.request.text).length →
      ∃ message, op.remotely (callWith inner) target c = (.error (.transport message), c)) := by
  constructor
  · intro small short
    have arrives := remotely_of_small reached flowFree small short
    refine ⟨fun flowless => ?_, arrives⟩
    rw [arrives, map_arrived op flowless]
  · intro large
    exact ⟨_, remotely_of_large reached large⟩

/-- A second node with addresses of version 6, one of them scoped, brings the file of the
first one. -/
def joining : Operation .registration PathSet :=
  .register ⟨.v6 ⟨0, 0, 0, 0, 0, 0, 0, 1⟩ 7000 0 0, .v6 ⟨0xfe80, 0, 0, 0, 0, 0, 0, 1⟩ 7001 0 1⟩
    (.ofList [homeFile])

/-- The naming service tells it over the network to give the file up. -/
theorem remote_eq_direct_joining :
    (alone homeDisk home.root homeNames).network.connect registrationAt =
      .ok (role 0 home.root .registration) ∧
    joining.request.FlowFree ∧ (alone homeDisk home.root homeNames).registry.FlowFree ∧
    joining.remotely call registrationAt (alone homeDisk home.root homeNames) =
      joining.directly fromNaming 0 home.root (alone homeDisk home.root homeNames) ∧
    (joining.remotely call registrationAt (alone homeDisk home.root homeNames)).1 =
      .ok (.ofList [homeFile]) := by
  have flowless : (alone homeDisk home.root homeNames).registry.FlowFree := by
    intro h known
    rw [eq_nodeAt_of_knows known]
    decide
  have flowFree : joining.request.FlowFree := by decide
  have answer : (joining.directly fromNaming 0 home.root (alone homeDisk home.root homeNames)).1 =
      .ok (.ofList [homeFile]) := rfl
  have small : (Utf8.encode joining.request.text).length ≤ Frame.maxLength := by decide +kernel
  have short : (Utf8.encode (joining.reply (.ok (.ofList [homeFile]))).text).length ≤
      Frame.maxLength := by
    decide +kernel
  have same : joining.remotely call registrationAt (alone homeDisk home.root homeNames) =
      joining.directly fromNaming 0 home.root (alone homeDisk home.root homeNames) :=
    ((remote_eq_direct joining rfl flowFree).1 small (answer ▸ short)).1 flowless
  exact ⟨rfl, flowFree, flowless, same, by rw [same, answer]⟩

end Operation

end Dfs
