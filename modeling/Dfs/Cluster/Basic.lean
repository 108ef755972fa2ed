import Dfs.Cluster.Network
import Dfs.Store.Interfaces
import Dfs.Transport.Call

/-!
A cluster: one naming service, hosts with disks, the storage nodes that run on
them, and the network between all of these. Requests are handled one after
another.

A scripted node stands in for a storage node: it answers from a list, whatever it
is asked, and keeps what it was asked.
-/

namespace Dfs

/-- What a scripted node sends back for a request. -/
inductive Answer where
  /-- One frame with this text. -/
  | frame (text : String)
  /-- These bytes, and then the connection is closed. -/
  | raw (bytes : List UInt8)
  deriving DecidableEq, Repr

structure Script where
  answers : List Answer
  /-- The requests so far, with the interface at which each arrived. -/
  seen : List (Interface × String)
  deriving Repr

namespace Script

/-- A script that has come to its end answers `true` to everything. -/
def lastAnswer : Answer := .frame (Reply.text (.ok (.bool true)))

/-- Takes a request and gives the next answer. -/
def step (script : Script) (i : Interface) (request : String) : Answer × Script :=
  (script.answers.headD lastAnswer, ⟨script.answers.tail, script.seen ++ [(i, request)]⟩)

end Script

/-- What listens at an address. -/
inductive Role where
  | naming (i : Interface)
  | node (host : Nat) (root : HostPath) (i : Interface)
  | scripted (host : Nat) (i : Interface)
  deriving DecidableEq, Repr

structure Cluster where
  registry : Registry
  network : Network Role
  disks : Entries Nat Disk
  scripts : Entries Nat Script
  deriving Repr

namespace Cluster

/-! ### Hosts -/

/-- The directory that a host sets aside for its storage node. -/
def rootOf (host : Nat) : HostPath := .ofString s!"<root{host}>"

/-- A disk with nothing but that directory, which is empty. -/
def freshDisk (host : Nat) : Disk := { top := [((rootOf host).bytes, .dir [])] }

def diskOf (c : Cluster) (host : Nat) : Disk := (Entries.find host c.disks).getD (freshDisk host)

def setDisk (c : Cluster) (host : Nat) (disk : Disk) : Cluster :=
  { c with disks := Entries.put host disk c.disks }

/-- The files that a node on the host would serve. -/
def storeOf (c : Cluster) (host : Nat) (root : HostPath) : Store := ⟨root, c.diskOf host⟩

/-! ### Calls -/

/-- Runs a request on the files of a node. -/
def onStore (host : Nat) (root : HostPath) (serve : Store → Request → Reply × Store)
    (r : Request) (c : Cluster) : Reply × Cluster :=
  let (reply, store) := serve (c.storeOf host root) r
  (reply, c.setDisk host store.disk)

/-- How an interface of the naming service or of a storage node answers. `inner` is
how the naming service calls storage nodes. -/
def server (inner : Caller Cluster) : Interface → Nat → HostPath → Server Cluster
  | .service, _, _ => fun r c =>
    let (reply, registry, c) := c.registry.serveClient (Call.nodeCalls inner) r c
    (reply, { c with registry })
  | .registration, _, _ => fun r c =>
    let (reply, registry) := c.registry.serveNode r
    (reply, { c with registry })
  | .storage, host, root => onStore host root Store.serveStorage
  | .command, host, root => onStore host root Store.serveCommand

/-- A scripted node's side of a connection, payload after payload. -/
def playScript (host : Nat) (i : Interface) : List (List UInt8) → Cluster → List UInt8 × Cluster
  | [], c => ([], c)
  | payload :: payloads, c =>
    let script := (Entries.find host c.scripts).getD ⟨[], []⟩
    let (answer, script) := script.step i (Utf8.display payload)
    let c := { c with scripts := Entries.put host script c.scripts }
    match answer with
    | .raw bytes => (bytes, c)
    | .frame text =>
      let (rest, c) := playScript host i payloads c
      (Frame.encode (Utf8.encode text) ++ rest, c)

/-- What the listening side of a connection writes for what it reads. -/
def answerStream (inner : Caller Cluster) (role : Role) (stream : List UInt8) (c : Cluster) :
    List UInt8 × Cluster :=
  match role with
  | .naming i => Connection.serveStream (server inner i 0 ⟨[]⟩) stream c
  | .node host root i => Connection.serveStream (server inner i host root) stream c
  | .scripted host i => playScript host i (Connection.payloads stream) c

/-- Calls an endpoint, given how the naming service calls storage nodes. -/
def callWith (inner : Caller Cluster) : Caller Cluster := fun target r c =>
  match c.network.connect target with
  | .error fault => (.error (.transport s!"connect to {target}: {fault.text}"), c)
  | .ok role =>
    match Connection.send target r with
    | .error e => (.error e, c)
    | .ok stream =>
      let (stream, c) := answerStream inner role stream c
      (Connection.receive target stream, c)

/-- A call that reaches nobody. -/
def callNobody : Caller Cluster := fun target _ c =>
  (.error (.transport s!"connect to {target}: {Fault.connectionRefused.text}"), c)

/-- Calls an endpoint. The naming service calls nodes only to create and to delete,
and no interface that it could reach thereby calls any further. -/
def call : Caller Cluster := callWith (callWith callNobody)

/-! ### Starting and stopping -/

def bindError (a : Address) (fault : Fault) : Error := .transport s!"bind {a}: {fault.text}"

/-- Starts to listen at an address. -/
def listen (c : Cluster) (a : Address) (role : Role) : Except Error (Address × Cluster) :=
  match c.network.bind a role with
  | .error fault => .error (bindError a fault)
  | .ok (bound, network) => .ok (bound, { c with network })

/-- Stops listening at an address. -/
def unlisten (c : Cluster) (a : Address) : Cluster := { c with network := c.network.release a }

/-- Stops whatever listens with a role of the given kind. -/
def stopWhere (c : Cluster) (stops : Role → Bool) : Cluster :=
  { c with network :=
      { c.network with listeners := c.network.listeners.filter fun l => !stops l.2 } }

/-- Starts to listen at two addresses, or at none. -/
def listenBoth (c : Cluster) (first second : Address × Role) :
    Except Error (Address × Address) × Cluster :=
  match c.listen first.1 first.2 with
  | .error e => (.error e, c)
  | .ok (a, c) =>
    match c.listen second.1 second.2 with
    | .error e => (.error e, c.unlisten a)
    | .ok (b, c) => (.ok (a, b), c)

/-- Starts both endpoints of the naming service, or none. -/
def listenNaming (c : Cluster) (service registration : Address) :
    Except Error (Address × Address) × Cluster :=
  c.listenBoth (service, .naming .service) (registration, .naming .registration)

def startNaming (c : Cluster) (service registration : Address) : Except Error Cluster :=
  match c.listenNaming service registration with
  | (.error e, _) => .error e
  | (.ok _, c) => .ok c

def stopNaming (c : Cluster) : Cluster :=
  c.stopWhere fun
    | .naming _ => true
    | _ => false

/-- Stops the storage node or the scripted node of a host. -/
def stopNode (c : Cluster) (host : Nat) : Cluster :=
  c.stopWhere fun
    | .naming _ => false
    | .node h _ _ => h == host
    | .scripted h _ => h == host

/-- Starts a scripted node, which is not registered anywhere. -/
def startScript (c : Cluster) (host : Nat) (at_ : Handle) (answers : List Answer) :
    Except Error Cluster :=
  match c.listenBoth (at_.storage, .scripted host .storage)
      (at_.command, .scripted host .command) with
  | (.error e, _) => .error e
  | (.ok _, c) => .ok { c with scripts := Entries.put host ⟨answers, []⟩ c.scripts }

/-- The root of the storage node that runs on a host. -/
def runningRoot (c : Cluster) (host : Nat) : Option HostPath :=
  c.network.listeners.findSome? fun l =>
    match l.2 with
    | .node h root _ => if h = host then some root else none
    | _ => none

end Cluster

end Dfs
