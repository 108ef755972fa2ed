import Dfs.Json.Bytes
import Dfs.Message.Request
import Dfs.Text.Literal

/-!
Replies: what comes back for a request, either a response or an error, and their
JSON text.

A response and an error are each a tag with content, in either order or as an
array of two. Fields that mean nothing are skipped unread, except that content
that comes before its tag is kept whole until the tag is known.
-/

namespace Dfs

/-- The kinds of responses, under the names they have in messages. -/
inductive ResponseKind where
  | unit
  | bool
  | size
  | bytes
  | duplicates
  | names
  | storage
  deriving DecidableEq, Repr

namespace ResponseKind

def all : List ResponseKind := [.unit, .bool, .size, .bytes, .duplicates, .names, .storage]

def tag : ResponseKind → String
  | .unit => "unit"
  | .bool => "bool"
  | .size => "size"
  | .bytes => "bytes"
  | .duplicates => "duplicates"
  | .names => "names"
  | .storage => "storage"

def ofTag? (tag : String) : Option ResponseKind := all.find? fun kind => kind.tag == tag

@[simp] theorem ofTag?_tag (kind : ResponseKind) : ofTag? kind.tag = some kind := by
  cases kind <;> decide

end ResponseKind

/-- A set of entry names. -/
abbrev NameSet := SortedSet String

inductive Response where
  | unit
  | bool (value : Bool)
  | size (value : UInt64)
  | bytes (data : List UInt8)
  /-- Without a set there are no duplicates. -/
  | duplicates (paths : Option PathSet)
  | names (found : NameSet)
  | storage (endpoint : Address)
  deriving DecidableEq, Repr

abbrev Reply := Except Error Response

namespace Json

def names? (j : Json) : Option NameSet := (items? string? j).map SortedSet.ofList

def null? : Json → Option Unit
  | .null => some ()
  | _ => none

def bool? : Json → Option Bool
  | .bool value => some value
  | _ => none

/-- A tag under a key is a string, or an object whose only member gives it `null`. -/
def tag? : Json → Option String
  | .str text => text
  | .object [(key, .null)] => key
  | _ => none

/-- What a tag and its content come to. `content` is `none` when it is left out. -/
structure Tagged where
  tag : String
  content : Option Json
  deriving Repr

/-- Reads a tag and its content. Of an object, the members under other keys are
skipped, and content that comes before the tag has to be kept: at most `depth`
arrays and objects may be open in it. An array holds both and nothing else, the tag
as a string. -/
def tagged? (tagKey contentKey : String) (depth : Nat) : Json → Option Tagged
  | .object members => do
    let members ← keyed? members
    match members.filter fun (key, _) => key == tagKey || key == contentKey with
    | [(key, tag)] => if key = tagKey then some ⟨← tag.tag?, none⟩ else none
    | [(first, one), (second, two)] =>
      if first = tagKey ∧ second = contentKey then some ⟨← one.tag?, some two⟩
      else if first = contentKey ∧ second = tagKey ∧ one.isKept depth = true then
        some ⟨← two.tag?, some one⟩
      else none
    | _ => none
  | .array [tag, content] => do some ⟨← tag.string?, some content⟩
  | _ => none

end Json

namespace Error

def toJson (e : Error) : Json :=
  .ofFields [("kind", .ofString e.kind.tag), ("message", .ofString e.message)]

/-- Reads an error below which `depth` arrays and objects may be open. -/
def ofJson? (depth : Nat) (j : Json) : Option Error := do
  let found ← j.tagged? "kind" "message" depth
  let kind ← ErrorKind.ofTag? found.tag
  let content ← found.content
  pure ⟨kind, ← content.string?⟩

/-- Reads the text of an error. -/
def parse? (text : String) : Option Error := do
  ofJson? (Json.maxDepth - 1) (← Json.parse? text)

end Error

namespace Response

def kind : Response → ResponseKind
  | .unit => .unit
  | .bool _ => .bool
  | .size _ => .size
  | .bytes _ => .bytes
  | .duplicates _ => .duplicates
  | .names _ => .names
  | .storage _ => .storage

/-! ### JSON -/

def content : Response → Option Json
  | .unit => none
  | .bool value => some (.bool value)
  | .size value => some (.ofInt value.toNat)
  | .bytes data => some (.ofBytes data)
  | .duplicates paths => some (.ofOption Json.ofPaths paths)
  | .names found => some (.array (found.toList.map .ofString))
  | .storage endpoint => some (.ofEndpoint endpoint)

def toJson (r : Response) : Json :=
  .ofFields (("type", .ofString r.kind.tag) ::
    match r.content with
    | none => []
    | some content => [("value", content)])

/-- The response of a kind with the given content. Only a response that may be
without content can leave it out. -/
def ofContent? : ResponseKind → Option Json → Option Response
  | .unit, none => some .unit
  | .duplicates, none => some (.duplicates none)
  | _, none => none
  | .unit, some j => do j.null?; pure .unit
  | .bool, some j => do pure (.bool (← j.bool?))
  | .size, some j => do pure (.size (← j.uint64?))
  | .bytes, some j => do pure (.bytes (← j.bytes?))
  | .duplicates, some j => do pure (.duplicates (← j.optional? Json.paths?))
  | .names, some j => do pure (.names (← j.names?))
  | .storage, some j => do pure (.storage (← j.endpoint?))

def ofJson? (depth : Nat) (j : Json) : Option Response := do
  let found ← j.tagged? "type" "value" depth
  let kind ← ResponseKind.ofTag? found.tag
  ofContent? kind found.content

/-! ### What a caller expects -/

/-- Writes items between an opening and a closing mark, with commas. -/
def listing (opening closing : String) (items : List String) : String :=
  opening ++ ", ".intercalate items ++ closing

def showPath (p : Path) : String :=
  "PathKey \x7b components: " ++ listing "[" "]" (p.components.map fun n => Text.literal n.text) ++
    " \x7d"

/-- The response as an error shows it. -/
def description : Response → String
  | .unit => "Unit"
  | .bool value => s!"Bool({value})"
  | .size value => s!"Size({value})"
  | .bytes data => "Bytes(" ++ listing "[" "]" (data.map toString) ++ ")"
  | .duplicates none => "Duplicates(None)"
  | .duplicates (some paths) =>
    "Duplicates(Some(" ++ listing "\x7b" "\x7d" (paths.toList.map showPath) ++ "))"
  | .names found => "Names(" ++ listing "\x7b" "\x7d" (found.toList.map Text.literal) ++ ")"
  | .storage endpoint => "Storage(StorageStub \x7b addr: " ++ endpoint.text ++ " \x7d)"

/-- A response came of another kind than the method has. -/
def unexpected {α : Type} (expected : ResponseKind) (r : Response) : Except Error α :=
  .error (.transport s!"expected {expected.tag} reply, got {r.description}")

def toUnit : Response → Except Error Unit
  | .unit => .ok ()
  | r => r.unexpected .unit

def toBool : Response → Except Error Bool
  | .bool value => .ok value
  | r => r.unexpected .bool

def toSize : Response → Except Error UInt64
  | .size value => .ok value
  | r => r.unexpected .size

def toBytes : Response → Except Error (List UInt8)
  | .bytes data => .ok data
  | r => r.unexpected .bytes

def toDuplicates : Response → Except Error PathSet
  | .duplicates paths => .ok (paths.getD ∅)
  | r => r.unexpected .duplicates

def toNames : Response → Except Error NameSet
  | .names found => .ok found
  | r => r.unexpected .names

def toStorage : Response → Except Error Address
  | .storage endpoint => .ok endpoint
  | r => r.unexpected .storage

end Response

namespace Reply

def toJson : Reply → Json
  | .ok response => .ofFields [("Ok", response.toJson)]
  | .error e => .ofFields [("Err", e.toJson)]

/-- The text of a reply on the wire. -/
def text (r : Reply) : String := r.toJson.text

/-- A reply is an object with one member that says which of the two it is. -/
def ofJson? : Json → Option Reply
  | .object [(some key, value)] =>
    if key = "Ok" then (Response.ofJson? (Json.maxDepth - 2) value).map .ok
    else if key = "Err" then (Error.ofJson? (Json.maxDepth - 2) value).map .error
    else none
  | _ => none

/-- Reads the text of a reply. -/
def parse? (text : String) : Option Reply := do ofJson? (← Json.parse? text)

/-- Reads the bytes of a reply. -/
def ofBytes? (bytes : List UInt8) : Option Reply := do ofJson? (← Json.ofBytes? bytes)

end Reply

end Dfs
