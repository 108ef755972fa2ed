import Dfs.Client.Basic

/-!
The commands of a client: what each asks of the naming service and of storage nodes,
and what it makes of the answers.
-/

namespace Dfs.Client

open Command

variable {σ : Type} (client : Client σ)

/-! ### Looking -/

def pathExists (text : String) : Command σ Bool := do
  let p ← readPath text
  ask (Call.pathExists client.call client.naming p)

/-- The line for an entry of a directory. A directory has a slash at its end. -/
def entryLine (dir : Path) (name : String) : Command σ String := do
  let p ← (dir.join name).mapError fun e => Failure.error e.toError
  if ← ask (Call.isDirectory client.call client.naming p) then pure (name ++ "/") else pure name

/-- The lines for the entries of a directory, in the order of their names. -/
def list (text : String) : Command σ (List String) := do
  let dir ← readPath text
  let names ← during (.list dir) (ask (Call.list client.call client.naming dir))
  names.toList.mapM (entryLine client dir)

/-- A line about a file or a directory. -/
def describe (text : String) : Command σ String := do
  let p ← readPath text
  if ← during (.describe p) (ask (Call.isDirectory client.call client.naming p)) then
    let names ← ask (Call.list client.call client.naming p)
    pure s!"{p}\tdirectory\t{names.toList.length} entries"
  else
    let storage ← ask (Call.getStorage client.call client.naming p)
    let size ← ask (Call.size client.call storage p)
    pure s!"{p}\tfile\t{size} bytes\t{storage}"

/-! ### Changing the namespace -/

/-- Makes one directory on the way to another, unless it is there. -/
def ensureDirectory (p : Path) : Command σ Unit := do
  if ← ask (Call.createDirectory client.call client.naming p) then pure ()
  else if ← ask (Call.isDirectory client.call client.naming p) then pure ()
  else throw (.occupied p)

/-- The paths that lead to `p`, outermost first, and `p` itself. The root is left
out. -/
def steps (p : Path) : List Path :=
  (List.range p.depth).map fun n => ⟨p.components.take (n + 1)⟩

/-- Makes a directory; with `parents`, also those that lead to it, and then it may be
there already. -/
def makeDirectory (text : String) (parents : Bool) : Command σ Unit := do
  let p ← readPath text
  if parents then (steps p).forM (ensureDirectory client)
  else if ← ask (Call.createDirectory client.call client.naming p) then pure ()
  else throw (.alreadyExists p.text)

/-- Makes an empty file; `false` if the path exists already. -/
def touch (text : String) : Command σ Bool := do
  let p ← readPath text
  during (.create p) (ask (Call.createFile client.call client.naming p))

/-- Deletes a file, or a directory with all that is in it. -/
def remove (text : String) : Command σ Unit := do
  let p ← readPath text
  if p.isRoot then throw .rootStays
  if ← during (.delete p) (ask (Call.deletePath client.call client.naming p)) then pure ()
  else throw (.copyStays p)

/-! ### Contents -/

/-- How many bytes to read: as many as asked for, else all from `offset` on. -/
def lengthToRead (storage : Address) (p : Path) (offset : UInt64) : Option UInt64 → Command σ UInt64
  | some length => pure length
  | none => do
    let size ← ask (Call.size client.call storage p)
    pure (if offset ≤ size then size - offset else 0)

/-- The bytes of a file from `offset` on. -/
def read (text : String) (offset : UInt64) (length : Option UInt64) : Command σ (List UInt8) := do
  let p ← readPath text
  let storage ← during (.locate p) (ask (Call.getStorage client.call client.naming p))
  let length ← lengthToRead client storage p offset length
  let offset ← toInt64 .convertOffset offset
  let length ← toInt64 .convertLength length
  during (.read p) (ask (Call.read client.call storage p offset length))

/-- Makes a file unless the path exists. That it appears in between is no failure. -/
def ensureFile (p : Path) : Command σ Unit := do
  if ← ask (Call.pathExists client.call client.naming p) then pure ()
  else
    let _ ← during (.create p) (ask (Call.createFile client.call client.naming p))

/-- Writes bytes to a file at `offset`; with `create`, the file is made if it is
missing. -/
def write (text : String) (offset : UInt64) (data : List UInt8) (create : Bool) :
    Command σ Unit := do
  let p ← readPath text
  if create then ensureFile client p
  let storage ← during (.locate p) (ask (Call.getStorage client.call client.naming p))
  let offset ← toInt64 .convertOffset offset
  during (.write p) (ask (Call.write client.call storage p offset data))

end Dfs.Client
