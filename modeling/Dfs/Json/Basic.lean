/-!
JSON values as messages use them. A number is told apart only as far as some
reader of a message does: an integer that fits 64 bits, any other number, or one
beyond the range of double precision. A text with an unpaired surrogate escape
is well formed but stands for no string.
-/

namespace Dfs

/-- What a number text stands for. -/
inductive JsonNumber where
  | integer (value : Int)
  | fraction
  | huge
  deriving DecidableEq, Repr

inductive Json where
  | null
  | bool (value : Bool)
  | number (value : JsonNumber)
  | str (text : Option String)
  | array (items : List Json)
  | object (members : List (Option String × Json))
  deriving Repr

namespace Json

def ofInt (value : Int) : Json := .number (.integer value)

def ofString (text : String) : Json := .str (some text)

/-- An object with the given keys, in this order. -/
def ofFields (fields : List (String × Json)) : Json :=
  .object (fields.map fun (key, value) => (some key, value))

/-! ### What a reader that keeps the whole value accepts -/

mutual

/-- Every text in the value is a string, no number is out of range, and at most
`depth` arrays and objects are open at once. -/
def isKept : Nat → Json → Bool
  | _, .null => true
  | _, .bool _ => true
  | _, .number value => value != .huge
  | _, .str text => text.isSome
  | 0, .array _ => false
  | depth + 1, .array items => areKept depth items
  | 0, .object _ => false
  | depth + 1, .object members => membersAreKept depth members

def areKept : Nat → List Json → Bool
  | _, [] => true
  | depth, item :: items => isKept depth item && areKept depth items

def membersAreKept : Nat → List (Option String × Json) → Bool
  | _, [] => true
  | depth, (key, value) :: members =>
    key.isSome && isKept depth value && membersAreKept depth members

end

/-- The most arrays and objects that may be open at once in a message. -/
def maxDepth : Nat := 127

/-! ### Members of objects -/

/-- The keys of the members, if all of them are strings. -/
def keyed? : List (Option String × Json) → Option (List (String × Json))
  | [] => some []
  | (none, _) :: _ => none
  | (some key, value) :: members => (keyed? members).map ((key, value) :: ·)

/-- The values that the members give for a key. -/
def valuesOf (key : String) (members : List (String × Json)) : List Json :=
  members.filterMap fun member => if member.1 = key then some member.2 else none

end Json

/-- A field of an object that may be given at most once. -/
inductive Field where
  | absent
  | given (value : Json)
  | repeated
  deriving Repr

namespace Field

def find (key : String) (members : List (String × Json)) : Field :=
  match Json.valuesOf key members with
  | [] => .absent
  | [value] => .given value
  | _ => .repeated

/-- The value of a field that has to be given. -/
def required : Field → Option Json
  | .given value => some value
  | _ => none

end Field

end Dfs
