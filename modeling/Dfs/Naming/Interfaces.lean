import Dfs.Naming.Registry

/-!
The two interfaces of the naming service: one for clients, one for storage nodes.
Each answers the methods that belong to it and refuses all others.
-/

namespace Dfs

/-- The four interfaces of the system. -/
inductive Interface where
  | service
  | registration
  | storage
  | command
  deriving DecidableEq, Repr

def Interface.name : Interface → String
  | .service => "service"
  | .registration => "registration"
  | .storage => "storage"
  | .command => "command"

/-- The method of a request is none of the interface's. -/
def Request.unsupported (r : Request) (i : Interface) : Error :=
  .invalidArgument s!"{r.method.tag} is not a method of the {i.name} interface"

namespace Registry

/-- Answers a request of a client. -/
def serveClient {σ : Type} (calls : NodeCalls σ) (reg : Registry) (r : Request) (s : σ) :
    Reply × Registry × σ :=
  match r with
  | .exists p => (.ok (.bool (reg.contains p)), reg, s)
  | .isDirectory p => ((reg.isDirectory p).map .bool, reg, s)
  | .list p => ((reg.list p).map .names, reg, s)
  | .createFile p =>
    let (answer, reg, s) := reg.createFile calls p s
    (answer.map .bool, reg, s)
  | .createDirectory p =>
    let (answer, reg) := reg.createDirectory p
    (answer.map .bool, reg, s)
  | .deletePath p =>
    let (answer, reg, s) := reg.delete calls p s
    (answer.map .bool, reg, s)
  | .getStorage p => ((reg.getStorage p).map .storage, reg, s)
  | r => (.error (r.unsupported .service), reg, s)

/-- Answers a request of a storage node. A registration has to name both endpoints
and the files. -/
def serveNode (reg : Registry) (r : Request) : Reply × Registry :=
  match r with
  | .register storage command files =>
    match Handle.ofParts storage command with
    | .error e => (.error e, reg)
    | .ok node =>
      match files with
      | none => (.error (.invalidArgument "file list is missing"), reg)
      | some files =>
        let (answer, reg) := reg.register node files
        (answer.map fun duplicates => .duplicates (some duplicates), reg)
  | r => (.error (r.unsupported .registration), reg)

end Registry

end Dfs
