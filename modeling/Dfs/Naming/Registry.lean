import Dfs.Message.Reply
import Dfs.Namespace

/-!
The registry of the naming service: the namespace, the storage nodes in the order
in which they registered, and whose turn it is to take a new file.

An operation that needs storage nodes changes the registry first and asks them
afterwards. What a node answers, and what asking does to the world outside, is
given by `NodeCalls`, so that every behaviour of the nodes is covered.
-/

namespace Dfs

structure Registry where
  names : Namespace
  nodes : List Handle
  /-- Counts the files that were placed; the remainder by the number of nodes
  picks the next one. -/
  turn : UInt64
  deriving Repr

/-- How storage nodes are asked to create a file and to delete a path, in a world
with states `σ`. -/
structure NodeCalls (σ : Type) where
  create : Handle → Path → σ → Except Error Bool × σ
  delete : Handle → Path → σ → Except Error Bool × σ

namespace Registry

def empty : Registry := ⟨.empty, [], 0⟩

instance : Inhabited Registry := ⟨empty⟩

/-! ### Queries -/

def contains (reg : Registry) (p : Path) : Bool := reg.names.contains p

def isDirectory (reg : Registry) (p : Path) : Except Error Bool :=
  (reg.names.isDirectory p).mapError NamespaceError.toError

def list (reg : Registry) (p : Path) : Except Error NameSet :=
  match reg.names.list p with
  | .ok names => .ok (.ofList (names.map Name.text))
  | .error e => .error e.toError

def owner (reg : Registry) (p : Path) : Except Error Handle :=
  (reg.names.owner p).mapError NamespaceError.toError

/-- Where the contents of a file are read and written. -/
def getStorage (reg : Registry) (p : Path) : Except Error Address :=
  (reg.owner p).map Handle.storage

/-! ### Registration -/

/-- Takes one file of a node into the namespace, or counts it among the
duplicates. The root is passed over. -/
def takeIn (node : Handle) (state : PathSet × Namespace) (p : Path) :
    Except NamespaceError Unit × PathSet × Namespace :=
  if p.isRoot then (.ok (), state)
  else if state.2.conflicts p then (.ok (), state.1.insert p, state.2)
  else
    let (answer, names) := state.2.insertInPlace p node
    (answer, state.1, names)

/-- Takes in one file after another. What has been taken in stays, also if a later file cannot
be. -/
def takeAll (node : Handle) :
    List Path → PathSet × Namespace → Except NamespaceError Unit × PathSet × Namespace
  | [], state => (.ok (), state)
  | p :: rest, state =>
    match takeIn node state p with
    | (.error e, state) => (.error e, state)
    | (.ok (), state) => takeAll node rest state

/-- Adds a node and its files. The answer is the set of the files that clash with
what was there before; the node has to give them up. -/
def register (reg : Registry) (node : Handle) (files : PathSet) :
    Except Error PathSet × Registry :=
  if node ∈ reg.nodes then (.error (.alreadyRegistered node.text), reg)
  else match takeAll node files.toList (∅, reg.names) with
    | (.error e, _, names) => (.error e.toError, { reg with names })
    | (.ok (), duplicates, names) =>
      (.ok duplicates, { reg with names, nodes := reg.nodes ++ [node] })

/-! ### Creation -/

/-- The parent of `p` has to be a directory. -/
def checkParent (reg : Registry) (p : Path) : Except Error Unit :=
  match p.parent with
  | .error e => .error e.toError
  | .ok parent =>
    match reg.names.isDirectory parent with
    | .ok true => .ok ()
    | .ok false => .error (NamespaceError.isFile parent).toError
    | .error e => .error e.toError

/-- Adds an empty directory; `false` if something is there already. -/
def createDirectory (reg : Registry) (p : Path) : Except Error Bool × Registry :=
  if reg.contains p then (.ok false, reg)
  else match reg.checkParent p with
    | .error e => (.error e, reg)
    | .ok () =>
      match reg.names.insertDirectory p with
      | .ok names => (.ok true, { reg with names })
      | .error e => (.error e.toError, reg)

/-- The node whose turn it is. -/
def pick (reg : Registry) : Option Handle :=
  if reg.nodes = [] then none else reg.nodes[reg.turn.toNat % reg.nodes.length]?

/-- How far the creation of a file gets before a node is asked. -/
inductive Reservation where
  /-- It is over: no node is asked. -/
  | settled (answer : Except Error Bool)
  /-- The name is taken, and `node` is to be asked; its turn is used up. -/
  | reserved (node : Handle) (reg : Registry)

def reserve (reg : Registry) (p : Path) : Reservation :=
  if reg.contains p then .settled (.ok false)
  else match reg.checkParent p with
    | .error e => .settled (.error e)
    | .ok () =>
      match reg.pick with
      | none => .settled (.error (.unavailable "no storage node is registered"))
      | some node =>
        match reg.names.insert p node with
        | .ok names => .reserved node { reg with names, turn := reg.turn + 1 }
        | .error e => .settled (.error e.toError)

/-- An error of a call to a storage node, as the naming service passes it on. A
node that cannot be reached is unavailable, and is named. -/
def ofNode (node : Handle) (e : Error) : Error :=
  if e.isTransport then .unavailable s!"storage node {node}: {e.text}" else e

/-- Takes a reserved name back, if it still belongs to the node. -/
def withdraw (reg : Registry) (p : Path) (node : Handle) : Registry :=
  if (reg.names.owner p).toOption = some node then
    match reg.names.remove p with
    | some (_, names) => { reg with names }
    | none => reg
  else reg

/-- Ends the creation of a file after its node has answered. -/
def settle (reg : Registry) (p : Path) (node : Handle) (reply : Except Error Bool) :
    Except Error Bool × Registry :=
  match reply.mapError (ofNode node) with
  | .ok true => (.ok true, reg)
  | answer => (answer, reg.withdraw p node)

/-- Creates an empty file on the node whose turn it is; `false` if something is
there already, or if the node refuses. -/
def createFile {σ : Type} (calls : NodeCalls σ) (reg : Registry) (p : Path) (s : σ) :
    Except Error Bool × Registry × σ :=
  match reg.reserve p with
  | .settled answer => (answer, reg, s)
  | .reserved node reg =>
    let (reply, s) := calls.create node p s
    let (answer, reg) := reg.settle p node reply
    (answer, reg, s)

/-! ### Deletion -/

/-- Asks every owner, also after one has failed. -/
def askAll {σ : Type} (calls : NodeCalls σ) (p : Path) :
    List Handle → σ → List (Handle × Except Error Bool) × σ
  | [], s => ([], s)
  | node :: nodes, s =>
    let (reply, s) := calls.delete node p s
    let (replies, s) := askAll calls p nodes s
    ((node, reply) :: replies, s)

/-- The answer to a deletion: the first error if there is one, else whether every
node deleted its part. -/
def verdict : List (Handle × Except Error Bool) → Except Error Bool
  | [] => .ok true
  | (node, .error e) :: _ => .error (ofNode node e)
  | (_, .ok deleted) :: replies => (verdict replies).map (deleted && ·)

/-- Takes a path out of the namespace and has every node with a file at or below
it delete its copy. The root cannot be deleted. -/
def delete {σ : Type} (calls : NodeCalls σ) (reg : Registry) (p : Path) (s : σ) :
    Except Error Bool × Registry × σ :=
  if p.isRoot then (.ok false, reg, s)
  else match reg.names.remove p with
    | none => (.error (.notFound p.text), reg, s)
    | some (entry, names) =>
      let (replies, s) := askAll calls p (Entry.owners entry).toList s
      (verdict replies, { reg with names }, s)

end Registry

end Dfs
