import Dfs.Address.Basic

/-!
The text of addresses. In version 6 the first of the longest runs of two or more
zero groups is written `::`, digits are lower case without leading zeros, and an
address that carries one of version 4 ends in its dotted text.
-/

namespace Dfs

def decimal (n : Nat) : List Char := Nat.toDigits 10 n

def hexadecimal (n : Nat) : List Char := Nat.toDigits 16 n

namespace Ipv4

def chars (ip : Ipv4) : List Char :=
  decimal ip.a.toNat ++ '.' :: decimal ip.b.toNat ++ '.' :: decimal ip.c.toNat ++
    '.' :: decimal ip.d.toNat

/-- The address whose dotted text is the tail of one of version 6. -/
def ofHalves (high low : UInt16) : Ipv4 :=
  ⟨(high / 256).toUInt8, high.toUInt8, (low / 256).toUInt8, low.toUInt8⟩

end Ipv4

namespace Ipv6

/-- The number of zero groups at the front. -/
def leadingZeros (groups : List UInt16) : Nat := (groups.takeWhile (· == 0)).length

/-- The start and length of the first of the longest runs of zeros. -/
def longestZeros : Nat → List UInt16 → Nat × Nat
  | _, [] => (0, 0)
  | start, g :: rest =>
    let here := leadingZeros (g :: rest)
    let later := longestZeros (start + 1) rest
    if here ≥ later.2 then (start, here) else later

def joinGroups : List UInt16 → List Char
  | [] => []
  | [g] => hexadecimal g.toNat
  | g :: rest => hexadecimal g.toNat ++ ':' :: joinGroups rest

def chars (ip : Ipv6) : List Char :=
  if ip.groups.take 6 = [0, 0, 0, 0, 0, 0xFFFF] then
    "::ffff:".toList ++ (Ipv4.ofHalves ip.g6 ip.g7).chars
  else
    let (start, length) := longestZeros 0 ip.groups
    if length > 1 then
      joinGroups (ip.groups.take start) ++ ':' :: ':' ::
        joinGroups (ip.groups.drop (start + length))
    else joinGroups ip.groups

end Ipv6

namespace Ip

def text : Ip → String
  | .v4 ip => String.ofList ip.chars
  | .v6 ip => String.ofList ip.chars

end Ip

namespace Address

def scopeChars (scope : UInt32) : List Char :=
  if scope = 0 then [] else '%' :: decimal scope.toNat

/-- The text of an address. The flow information is not part of it. -/
def chars : Address → List Char
  | .v4 ip port => ip.chars ++ ':' :: decimal port.toNat
  | .v6 ip port _ scope =>
    '[' :: ip.chars ++ scopeChars scope ++ ']' :: ':' :: decimal port.toNat

def text (a : Address) : String := String.ofList a.chars

instance : ToString Address := ⟨text⟩

end Address

end Dfs
