import Dfs.Address.Printer
import Dfs.Disk.Fault

/-!
The network: which addresses are listened on, and what a connection to an address
meets. What listens at an address is left open.
-/

namespace Dfs

/-! ### Kinds of addresses -/

namespace Ip

/-- An address of version 4 that is written in version 6 is that address. -/
def unmapped : Ip → Ip
  | .v4 ip => .v4 ip
  | .v6 ip =>
    if ip.groups.take 6 = [0, 0, 0, 0, 0, 0xFFFF] then .v4 (Ipv4.ofHalves ip.g6 ip.g7) else .v6 ip

/-- The address leads back to the host itself. -/
def isLoopback : Ip → Bool
  | .v4 ip => ip.a == 127
  | .v6 ip => ip == ⟨0, 0, 0, 0, 0, 0, 0, 1⟩

/-- The address that a connection to this one goes to: the unspecified address means
the host itself. -/
def destination (ip : Ip) : Ip :=
  match ip.unmapped with
  | .v4 ip => .v4 (if ip = ⟨0, 0, 0, 0⟩ then ⟨127, 0, 0, 1⟩ else ip)
  | .v6 ip => .v6 (if ip = ⟨0, 0, 0, 0, 0, 0, 0, 0⟩ then ⟨0, 0, 0, 0, 0, 0, 0, 1⟩ else ip)

end Ip

namespace Ipv6

/-- The address stands for a group of hosts. -/
def isMulticast (ip : Ipv6) : Bool := ip.g0.toNat / 0x100 == 0xFF

/-- The address means something on one network interface only. -/
def isLinkLocal (ip : Ipv6) : Bool := ip.g0.toNat / 0x40 == 0x3FA

end Ipv6

/-- The number of the network interface that an address names; zero names none. -/
def Address.scope : Address → UInt32
  | .v4 .. => 0
  | .v6 _ _ _ scope => scope

/-! ### Routes -/

/-- Whether the hosts can reach each other. -/
inductive Route where
  /-- All hosts are on one loopback network. -/
  | connected
  /-- The network interfaces of all hosts are down. Any address of version 4 can be
  listened on, and none can be reached. -/
  | isolated
  deriving DecidableEq, Repr

namespace Route

/-- The only network interface of a host. -/
def interface : UInt32 := 1

/-- Why no endpoint can listen on an address. -/
def bindFault? (route : Route) (a : Address) : Option Fault :=
  match a.ip.unmapped with
  | .v4 ip =>
    if route = .isolated ∨ (Ip.v4 ip).isUnspecified = true ∨ (Ip.v4 ip).isLoopback = true then none
    else some .addressNotAvailable
  | .v6 ip =>
    if (Ip.v6 ip).isUnspecified then none
    else if ip.isMulticast then some .invalidArgument
    else if ip.isLinkLocal ∧ a.scope = 0 then some .invalidArgument
    else if ip.isLinkLocal ∧ a.scope ≠ interface then some .noSuchDevice
    else if route = .connected ∧ (Ip.v6 ip).isLoopback = true then none
    else some .addressNotAvailable

/-- Why an address cannot be reached from a host that is isolated. -/
def isolationFault (a : Address) : Fault :=
  match a.ip.unmapped with
  | .v4 _ => .networkUnreachable
  | .v6 ip =>
    if ip.isMulticast then .networkUnreachable
    else if ip.isLinkLocal ∧ a.scope = 0 then .invalidArgument
    else .addressNotAvailable

end Route

/-! ### Listeners -/

/-- The addresses that are listened on, with what listens there. -/
structure Network (ρ : Type) where
  route : Route
  listeners : List (Address × ρ)
  deriving Repr

namespace Network

variable {ρ : Type}

/-- A listener on `bound` takes connections to `target`: both are the same, or
`bound` stands for every interface. The unspecified address of version 6 stands
for those of version 4 too. -/
def serves (bound target : Address) : Bool :=
  bound.port == target.port &&
    match bound.ip.unmapped, target.ip.unmapped with
    | .v4 bound, .v4 target => bound == target || (Ip.v4 bound).isUnspecified
    | .v4 _, .v6 _ => false
    | .v6 bound, .v4 _ => (Ip.v6 bound).isUnspecified
    | .v6 bound, .v6 target => bound == target || (Ip.v6 bound).isUnspecified

/-- Two endpoints cannot listen on both addresses. -/
def clashes (a b : Address) : Bool := serves a b || serves b a

/-- The port to use for an address: its own, or for port 0 one that nobody uses. -/
def choosePort (net : Network ρ) (a : Address) : Option UInt16 :=
  if a.port ≠ 0 then some a.port
  else
    let used := net.listeners.map fun l => l.1.port
    ((List.range 16384).map fun n => UInt16.ofNat (n + 49152)).find? fun port => port ∉ used

/-- Starts to listen. The answer is the address listened on, which differs from
the given one when that leaves the port open. -/
def bind (net : Network ρ) (a : Address) (role : ρ) : Except Fault (Address × Network ρ) :=
  match net.route.bindFault? a with
  | some fault => .error fault
  | none =>
    match net.choosePort a with
    | none => .error .addressInUse
    | some port =>
      let a := Address.ofIp a.ip port
      if net.listeners.any fun l => clashes l.1 a then .error .addressInUse
      else .ok (a, { net with listeners := net.listeners ++ [(a, role)] })

/-- Stops listening on an address. -/
def release (net : Network ρ) (a : Address) : Network ρ :=
  { net with listeners := net.listeners.filter fun l => l.1 != a }

/-- What a connection to an address meets. -/
def connect (net : Network ρ) (a : Address) : Except Fault ρ :=
  match net.route with
  | .isolated => .error (Route.isolationFault a)
  | .connected =>
    match net.listeners.find? fun l => serves l.1 (.ofIp a.ip.destination a.port) with
    | some l => .ok l.2
    | none => .error .connectionRefused

end Network

end Dfs
