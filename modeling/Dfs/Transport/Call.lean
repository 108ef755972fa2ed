import Dfs.Naming.Registry
import Dfs.Transport.Connection

/-!
The methods of the interfaces as calls to the address of an endpoint. A reply of
another kind than the method has is an error of the call.
-/

namespace Dfs.Call

variable {σ α : Type}

/-- Calls a method and takes the expected part of the response. -/
def invoke (call : Caller σ) (expect : Response → Except Error α) (target : Address) (r : Request)
    (s : σ) : Except Error α × σ :=
  let (reply, s) := call target r s
  (reply.bind expect, s)

/-! ### Contents of files -/

def size (call : Caller σ) (target : Address) (p : Path) : σ → Except Error UInt64 × σ :=
  invoke call Response.toSize target (.size p)

def read (call : Caller σ) (target : Address) (p : Path) (offset length : Int64) :
    σ → Except Error (List UInt8) × σ :=
  invoke call Response.toBytes target (.read p offset length)

def write (call : Caller σ) (target : Address) (p : Path) (offset : Int64) (data : List UInt8) :
    σ → Except Error Unit × σ :=
  invoke call Response.toUnit target (.write p offset data)

/-! ### Commands to storage nodes -/

def create (call : Caller σ) (target : Address) (p : Path) : σ → Except Error Bool × σ :=
  invoke call Response.toBool target (.create p)

def delete (call : Caller σ) (target : Address) (p : Path) : σ → Except Error Bool × σ :=
  invoke call Response.toBool target (.delete p)

/-- Storage nodes that are asked at their command addresses. -/
def nodeCalls (call : Caller σ) : NodeCalls σ where
  create h := create call h.command
  delete h := delete call h.command

/-! ### Registration -/

def register (call : Caller σ) (target : Address) (node : Handle) (files : PathSet) :
    σ → Except Error PathSet × σ :=
  invoke call Response.toDuplicates target
    (.register (some node.storage) (some node.command) (some files))

/-! ### Naming -/

def pathExists (call : Caller σ) (target : Address) (p : Path) : σ → Except Error Bool × σ :=
  invoke call Response.toBool target (.exists p)

def isDirectory (call : Caller σ) (target : Address) (p : Path) : σ → Except Error Bool × σ :=
  invoke call Response.toBool target (.isDirectory p)

def list (call : Caller σ) (target : Address) (p : Path) : σ → Except Error NameSet × σ :=
  invoke call Response.toNames target (.list p)

def createFile (call : Caller σ) (target : Address) (p : Path) : σ → Except Error Bool × σ :=
  invoke call Response.toBool target (.createFile p)

def createDirectory (call : Caller σ) (target : Address) (p : Path) : σ → Except Error Bool × σ :=
  invoke call Response.toBool target (.createDirectory p)

def deletePath (call : Caller σ) (target : Address) (p : Path) : σ → Except Error Bool × σ :=
  invoke call Response.toBool target (.deletePath p)

def getStorage (call : Caller σ) (target : Address) (p : Path) : σ → Except Error Address × σ :=
  invoke call Response.toStorage target (.getStorage p)

end Dfs.Call
