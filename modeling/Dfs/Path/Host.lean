import Dfs.Path.Basic
import Dfs.Text.Utf8

/-!
Host paths: byte strings by which a host names the places on its disks, and the
mapping between them and the paths of the distributed namespace.
-/

namespace Dfs

/-- A name in a directory of a host: bytes, not necessarily text. -/
abbrev HostName := List UInt8

/-- A path as a host reads it. -/
structure HostPath where
  bytes : List UInt8
  deriving DecidableEq, Repr

namespace HostPath

def slash : UInt8 := 0x2F

def dot : HostName := [0x2E]

def dotDot : HostName := [0x2E, 0x2E]

def ofString (text : String) : HostPath := ⟨Utf8.encode text⟩

/-- The path as shown in messages. -/
def display (h : HostPath) : String := Utf8.display h.bytes

/-- Adds a name below the path. A slash goes between, unless the path is empty or
already ends in one. -/
def push (h : HostPath) (name : HostName) : HostPath :=
  if h.bytes = [] ∨ h.bytes.getLast? = some slash then ⟨h.bytes ++ name⟩
  else ⟨h.bytes ++ slash :: name⟩

/-- The host path of names below a root. -/
def below (root : HostPath) (names : List HostName) : HostPath := names.foldl push root

/-! ### Pieces -/

/-- A piece of a host path. -/
inductive Piece where
  | top
  | here
  | up
  | name (name : HostName)
  deriving DecidableEq, Repr

/-- A piece between slashes, with `.` and nothing left out. -/
def Piece.ofBytes? (bytes : List UInt8) : Option Piece :=
  if bytes = [] ∨ bytes = dot then none
  else if bytes = dotDot then some .up
  else some (.name bytes)

/-- The pieces of a path. Repeated and trailing slashes vanish, and so does `.`
except where a path begins with it. -/
def pieces (h : HostPath) : List Piece :=
  let parts := splitAt slash h.bytes
  let named := parts.filterMap Piece.ofBytes?
  if h.bytes.head? = some slash then .top :: named
  else if parts.head? = some dot then .here :: named
  else named

end HostPath

namespace Path

/-- The place of `p` below the host directory `root`. A path with a component `.`
or `..` has none: a host would read these as other places. -/
def toHost (root : HostPath) (p : Path) : Except PathError HostPath :=
  if p.components.any Name.isDots then .error (.unmappable p.text)
  else .ok (p.components.foldl (fun h n => h.push (Utf8.encode n.text)) root)

/-- Adds one piece of a host path to the path read so far; `shown` is the whole
host path for messages. -/
def addPiece (shown : String) (p : Path) : HostPath.Piece → Except PathError Path
  | .here => .ok p
  | .name bytes =>
    match Utf8.decode? bytes with
    | none => .error (.notText shown)
    | some text => p.join text
  | .top => .error (.notRelative shown)
  | .up => .error (.notRelative shown)

/-- The path that a host path relative to some root stands for. -/
def ofRelative (h : HostPath) : Except PathError Path :=
  h.pieces.foldlM (addPiece h.display) root

end Path

end Dfs
