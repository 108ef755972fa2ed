import Dfs.Handle
import Dfs.Json.Printer
import Dfs.Json.Reader
import Dfs.Address.Parser
import Dfs.Path.Basic

/-!
Requests: one call of a method of one of the four interfaces, and its JSON text.

An object may give its fields in any order, with others among them, but none of
its own twice; an array gives the method and the fields in their order. A request
is kept whole before its method is known, so even a field that is not used has to
hold strings that are texts, numbers in range and not too deep a nesting.
-/

namespace Dfs

/-- The methods, under the names they have in messages. -/
inductive Method where
  | size
  | read
  | write
  | create
  | delete
  | register
  | exists
  | isDirectory
  | list
  | createFile
  | createDirectory
  | deletePath
  | getStorage
  deriving DecidableEq, Repr

namespace Method

def all : List Method :=
  [.size, .read, .write, .create, .delete, .register, .exists, .isDirectory, .list, .createFile,
    .createDirectory, .deletePath, .getStorage]

def tag : Method → String
  | .size => "size"
  | .read => "read"
  | .write => "write"
  | .create => "create"
  | .delete => "delete"
  | .register => "register"
  | .exists => "exists"
  | .isDirectory => "is_directory"
  | .list => "list"
  | .createFile => "create_file"
  | .createDirectory => "create_directory"
  | .deletePath => "delete_path"
  | .getStorage => "get_storage"

def ofTag? (tag : String) : Option Method := all.find? fun method => method.tag == tag

@[simp] theorem ofTag?_tag (method : Method) : ofTag? method.tag = some method := by
  cases method <;> decide

end Method

inductive Request where
  | size (path : Path)
  | read (path : Path) (offset length : Int64)
  | write (path : Path) (offset : Int64) (data : List UInt8)
  | create (path : Path)
  | delete (path : Path)
  | register (storage command : Option Address) (files : Option PathSet)
  | exists (path : Path)
  | isDirectory (path : Path)
  | list (path : Path)
  | createFile (path : Path)
  | createDirectory (path : Path)
  | deletePath (path : Path)
  | getStorage (path : Path)
  deriving DecidableEq, Repr

/-! ### JSON of the parts of messages -/

namespace Json

def ofPath (p : Path) : Json := .ofString p.text

def ofPaths (paths : PathSet) : Json := .array (paths.toList.map ofPath)

def ofBytes (bytes : List UInt8) : Json := .array (bytes.map fun b => .ofInt b.toNat)

/-- A remote endpoint is an object with its address. -/
def ofEndpoint (a : Address) : Json := .ofFields [("addr", .ofString a.text)]

def ofOption {α : Type} (write : α → Json) : Option α → Json
  | none => .null
  | some a => write a

def string? : Json → Option String
  | .str text => text
  | _ => none

def integer? : Json → Option Int
  | .number (.integer value) => some value
  | _ => none

def path? (j : Json) : Option Path := do
  let text ← j.string?
  (Path.parse text).toOption

def byte? (j : Json) : Option UInt8 := do
  let value ← j.integer?
  if 0 ≤ value ∧ value < 256 then some (UInt8.ofNat value.toNat) else none

def int64? (j : Json) : Option Int64 := do
  let value ← j.integer?
  if Int64.minValue.toInt ≤ value ∧ value ≤ Int64.maxValue.toInt then some (Int64.ofInt value)
  else none

def uint64? (j : Json) : Option UInt64 := do
  let value ← j.integer?
  if 0 ≤ value ∧ value.toNat < UInt64.size then some (UInt64.ofNat value.toNat) else none

/-- The items of an array, if each of them can be read. -/
def items? {α : Type} (read : Json → Option α) : Json → Option (List α)
  | .array items => items.mapM read
  | _ => none

def bytes? : Json → Option (List UInt8) := items? byte?

def paths? (j : Json) : Option PathSet := (items? path? j).map SortedSet.ofList

/-- An endpoint is an object with an address, or an array of just the address. -/
def endpoint? : Json → Option Address
  | .object members => do
    let members ← keyed? members
    let addr ← (Field.find "addr" members).required
    let text ← addr.string?
    Address.parse? text
  | .array [addr] => do
    let text ← addr.string?
    Address.parse? text
  | _ => none

/-- A value that may be `null`. -/
def optional? {α : Type} (read : Json → Option α) : Json → Option (Option α)
  | .null => some none
  | j => (read j).map some

end Json

namespace Field

/-- A field that may be missing or `null`. -/
def optional? {α : Type} (read : Json → Option α) : Field → Option (Option α)
  | .absent => some none
  | .given value => value.optional? read
  | .repeated => none

end Field

namespace Request

def method : Request → Method
  | .size .. => .size
  | .read .. => .read
  | .write .. => .write
  | .create .. => .create
  | .delete .. => .delete
  | .register .. => .register
  | .exists .. => .exists
  | .isDirectory .. => .isDirectory
  | .list .. => .list
  | .createFile .. => .createFile
  | .createDirectory .. => .createDirectory
  | .deletePath .. => .deletePath
  | .getStorage .. => .getStorage

end Request

/-- The fields of a method, in the order in which they are written. -/
def Method.fields : Method → List String
  | .read => ["path", "offset", "length"]
  | .write => ["path", "offset", "data"]
  | .register => ["storage", "command", "files"]
  | _ => ["path"]

namespace Request

/-! ### Writing -/

/-- The values of the fields, in the order of `Method.fields`. -/
def values : Request → List Json
  | .size p | .create p | .delete p | .exists p | .isDirectory p | .list p | .createFile p
  | .createDirectory p | .deletePath p | .getStorage p => [.ofPath p]
  | .read p offset length => [.ofPath p, .ofInt offset.toInt, .ofInt length.toInt]
  | .write p offset data => [.ofPath p, .ofInt offset.toInt, .ofBytes data]
  | .register storage command files =>
    [.ofOption Json.ofEndpoint storage, .ofOption Json.ofEndpoint command,
      .ofOption Json.ofPaths files]

def toJson (r : Request) : Json :=
  .ofFields (("method", .ofString r.method.tag) :: r.method.fields.zip r.values)

/-- The text of a request on the wire. -/
def text (r : Request) : String := r.toJson.text

/-! ### Reading -/

/-- The request that a method and its fields, in order, make. -/
def ofFields? : Method → List Field → Option Request
  | .size, [p] => do pure (.size (← (← p.required).path?))
  | .read, [p, offset, length] => do
    pure (.read (← (← p.required).path?) (← (← offset.required).int64?)
      (← (← length.required).int64?))
  | .write, [p, offset, data] => do
    pure (.write (← (← p.required).path?) (← (← offset.required).int64?)
      (← (← data.required).bytes?))
  | .create, [p] => do pure (.create (← (← p.required).path?))
  | .delete, [p] => do pure (.delete (← (← p.required).path?))
  | .register, [storage, command, files] => do
    pure (.register (← storage.optional? Json.endpoint?) (← command.optional? Json.endpoint?)
      (← files.optional? Json.paths?))
  | .exists, [p] => do pure (.exists (← (← p.required).path?))
  | .isDirectory, [p] => do pure (.isDirectory (← (← p.required).path?))
  | .list, [p] => do pure (.list (← (← p.required).path?))
  | .createFile, [p] => do pure (.createFile (← (← p.required).path?))
  | .createDirectory, [p] => do pure (.createDirectory (← (← p.required).path?))
  | .deletePath, [p] => do pure (.deletePath (← (← p.required).path?))
  | .getStorage, [p] => do pure (.getStorage (← (← p.required).path?))
  | _, _ => none

def ofMembers? (members : List (String × Json)) : Option Request := do
  let tag ← (← (Field.find "method" members).required).string?
  let method ← Method.ofTag? tag
  ofFields? method (method.fields.map fun key => Field.find key members)

/-- Fields by their place; those that are left out at the end are absent. -/
def ofItems? : List Json → Option Request
  | [] => none
  | tag :: values => do
    let method ← Method.ofTag? (← tag.string?)
    let missing := method.fields.length - values.length
    ofFields? method (values.map .given ++ List.replicate missing .absent)

def ofJson? (j : Json) : Option Request :=
  if j.isKept Json.maxDepth then
    match j with
    | .object members => do ofMembers? (← Json.keyed? members)
    | .array items => ofItems? items
    | _ => none
  else none

/-- Reads the text of a request. -/
def parse? (text : String) : Option Request := do ofJson? (← Json.parse? text)

end Request

end Dfs
