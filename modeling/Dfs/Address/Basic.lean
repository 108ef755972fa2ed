import Dfs.SortedSet

/-!
Internet addresses and the addresses of endpoints: an internet address and a
port, and for version 6 also the flow information and the scope.
-/

namespace Dfs

@[ext]
structure Ipv4 where
  a : UInt8
  b : UInt8
  c : UInt8
  d : UInt8
  deriving DecidableEq, Repr

/-- The eight groups of an address of version 6. -/
@[ext]
structure Ipv6 where
  g0 : UInt16
  g1 : UInt16
  g2 : UInt16
  g3 : UInt16
  g4 : UInt16
  g5 : UInt16
  g6 : UInt16
  g7 : UInt16
  deriving DecidableEq, Repr

namespace Ipv6

def groups (ip : Ipv6) : List UInt16 := [ip.g0, ip.g1, ip.g2, ip.g3, ip.g4, ip.g5, ip.g6, ip.g7]

def ofGroups? : List UInt16 → Option Ipv6
  | [g0, g1, g2, g3, g4, g5, g6, g7] => some ⟨g0, g1, g2, g3, g4, g5, g6, g7⟩
  | _ => none

end Ipv6

inductive Ip where
  | v4 (ip : Ipv4)
  | v6 (ip : Ipv6)
  deriving DecidableEq, Repr

namespace Ip

/-- The address that stands for every interface of a host. -/
def isUnspecified : Ip → Bool
  | .v4 ip => ip == ⟨0, 0, 0, 0⟩
  | .v6 ip => ip == ⟨0, 0, 0, 0, 0, 0, 0, 0⟩

end Ip

/-- Where an endpoint listens. -/
inductive Address where
  | v4 (ip : Ipv4) (port : UInt16)
  | v6 (ip : Ipv6) (port : UInt16) (flow : UInt32) (scope : UInt32)
  deriving DecidableEq, Repr

namespace Address

def ip : Address → Ip
  | .v4 ip _ => .v4 ip
  | .v6 ip _ _ _ => .v6 ip

def port : Address → UInt16
  | .v4 _ port => port
  | .v6 _ port _ _ => port

def ofIp : Ip → UInt16 → Address
  | .v4 ip, port => .v4 ip port
  | .v6 ip, port => .v6 ip port 0 0

def loopback (port : UInt16) : Address := .v4 ⟨127, 0, 0, 1⟩ port

def everywhere (port : UInt16) : Address := .v4 ⟨0, 0, 0, 0⟩ port

/-! ### Order -/

/-- Version 4 comes before version 6; then the address decides, then the port,
then flow information and scope. -/
def key : Address → List Nat
  | .v4 ip port => [0, ip.a.toNat, ip.b.toNat, ip.c.toNat, ip.d.toNat, port.toNat]
  | .v6 ip port flow scope =>
    1 :: (ip.groups.map UInt16.toNat ++ [port.toNat, flow.toNat, scope.toNat])

theorem key_inj {a b : Address} (h : a.key = b.key) : a = b := by
  cases a with
  | v4 i p =>
    cases b with
    | v4 j q => simp_all [key, UInt8.toNat_inj, UInt16.toNat_inj, Ipv4.ext_iff]
    | v6 j q f s => simp [key] at h
  | v6 i p f s =>
    cases b with
    | v4 j q => simp [key] at h
    | v6 j q g t =>
      simp_all [key, Ipv6.groups, UInt16.toNat_inj, UInt32.toNat_inj, Ipv6.ext_iff]

instance : LT Address := ⟨fun a b => a.key < b.key⟩

instance (a b : Address) : Decidable (a < b) := inferInstanceAs (Decidable (a.key < b.key))

instance : StrictTotal Address :=
  StrictTotal.ofKey key (fun _ _ => key_inj) fun _ _ => Iff.rfl

end Address

end Dfs
