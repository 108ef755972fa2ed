import Dfs.Failure
import Dfs.Transport.Call

/-!
The clients' side: commands are run against a naming service, and against the
storage nodes that it names.
-/

namespace Dfs

/-- A command that may fail, in a world with states `σ`. -/
abbrev Command (σ : Type) := ExceptT Failure (StateM σ)

namespace Command

variable {σ α : Type}

/-- One call to an endpoint. -/
def ask (call : σ → Except Error α × σ) : Command σ α := fun s =>
  let (answer, s) := call s
  (answer.mapError .error, s)

/-- Says of a failure what was being done. -/
def during (task : Task) (act : Command σ α) : Command σ α := fun s =>
  let (answer, s) := act s
  (answer.mapError (.during task), s)

end Command

/-- How a client reaches its naming service, and any other endpoint. -/
structure Client (σ : Type) where
  call : Caller σ
  naming : Address

namespace Client

/-- Reads a path as a user gives it. -/
def readPath (text : String) : Except Failure Path :=
  (Path.parse text).mapError fun e => .during (.readPath text) (.error e.toError)

/-- The address of the naming service: the one given, else that in the environment,
else the usual port of the host itself. -/
def namingAddress (given : Option Address) (environment : Option String) : Except Failure Address :=
  match given, environment with
  | some a, _ => .ok a
  | none, none => .ok (.loopback servicePort)
  | none, some text =>
    match Address.parse? text with
    | some a => .ok a
    | none => .error (.during (.readAddress text) .notAddress)

/-- A position or a length as requests hold it. -/
def toInt64 (task : Task) (n : UInt64) : Except Failure Int64 :=
  if n.toNat < UInt64.size / 2 then .ok (Int64.ofNat n.toNat) else .error (.during task .outOfRange)

end Client

end Dfs
