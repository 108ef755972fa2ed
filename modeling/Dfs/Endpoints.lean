import Dfs.Handle

/-!
The endpoints of a storage node before it runs: where it is to listen, and how other
hosts are to reach it.
-/

namespace Dfs

/-- Where a storage node listens, and the address by which other hosts reach it. -/
structure Endpoints where
  storage : Address
  command : Address
  /-- If it is left out, other hosts are told the address that is listened on. -/
  advertise : Option Ip
  deriving DecidableEq, Repr

namespace Endpoints

/-- The address that other hosts are told for one that is listened on. -/
def reachable (e : Endpoints) (bound : Address) : Except Error Address :=
  let ip := e.advertise.getD bound.ip
  if ip.isUnspecified then
    .error (.invalidArgument
      s!"{bound} is not reachable from other hosts; an advertise address is required")
  else .ok (.ofIp ip bound.port)

/-- The handle of a node that listens on the two addresses. -/
def handle (e : Endpoints) (storage command : Address) : Except Error Handle :=
  match e.reachable storage with
  | .error error => .error error
  | .ok storage =>
    match e.reachable command with
    | .error error => .error error
    | .ok command => .ok ⟨storage, command⟩

end Endpoints

end Dfs
