/-!
Errors of paths, of the namespace, of files and of calls between hosts. An error
crosses the wire as its kind and its message, so a remote caller sees the error
a local caller would see.
-/

namespace Dfs

inductive ErrorKind where
  | invalidPath
  | invalidArgument
  | notFound
  | outOfBounds
  | alreadyRegistered
  | unavailable
  | io
  | transport
  deriving DecidableEq, Repr

namespace ErrorKind

def all : List ErrorKind :=
  [.invalidPath, .invalidArgument, .notFound, .outOfBounds, .alreadyRegistered, .unavailable,
    .io, .transport]

/-- The name of the kind in messages between hosts. -/
def tag : ErrorKind → String
  | .invalidPath => "InvalidPath"
  | .invalidArgument => "InvalidArgument"
  | .notFound => "NotFound"
  | .outOfBounds => "OutOfBounds"
  | .alreadyRegistered => "AlreadyRegistered"
  | .unavailable => "Unavailable"
  | .io => "Io"
  | .transport => "Transport"

def ofTag? (tag : String) : Option ErrorKind := all.find? fun kind => kind.tag == tag

@[simp] theorem ofTag?_tag (kind : ErrorKind) : ofTag? kind.tag = some kind := by
  cases kind <;> decide

/-- What the text of an error of this kind begins with. -/
def heading : ErrorKind → String
  | .invalidPath => "Invalid path: "
  | .invalidArgument => "Invalid argument: "
  | .notFound => "File not found: "
  | .outOfBounds => "Out of bounds: "
  | .alreadyRegistered => "Storage node already registered: "
  | .unavailable => "No storage available: "
  | .io => "IO error: "
  | .transport => "Transport error: "

end ErrorKind

structure Error where
  kind : ErrorKind
  message : String
  deriving DecidableEq, Repr

namespace Error

def invalidPath (message : String) : Error := ⟨.invalidPath, message⟩
def invalidArgument (message : String) : Error := ⟨.invalidArgument, message⟩
def notFound (message : String) : Error := ⟨.notFound, message⟩
def outOfBounds (message : String) : Error := ⟨.outOfBounds, message⟩
def alreadyRegistered (message : String) : Error := ⟨.alreadyRegistered, message⟩
def unavailable (message : String) : Error := ⟨.unavailable, message⟩
def io (message : String) : Error := ⟨.io, message⟩
def transport (message : String) : Error := ⟨.transport, message⟩

/-- The error as a user reads it. -/
def text (e : Error) : String := e.kind.heading ++ e.message

/-- The other host could not be reached, or the exchange with it broke. -/
def isTransport (e : Error) : Bool := e.kind == .transport

end Error

end Dfs
