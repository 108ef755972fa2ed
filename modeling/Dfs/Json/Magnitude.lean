import Dfs.Json.Basic

/-!
The value of a number text, as far as `JsonNumber` tells numbers apart. The
digits are gathered into a significand of 64 bits and a power of ten; a number
is out of range when the product, taken in double precision, is not finite.
-/

namespace Dfs.JsonNumber

/-- The parts of a number text. `fraction` and `exponent` are `none` when the
text has no such part. -/
structure Parts where
  negative : Bool
  whole : List Nat
  fraction : Option (List Nat)
  exponent : Option (Bool × List Nat)
  deriving DecidableEq, Repr

/-- Reads digits as a number, most significant first. -/
def ofDigits (digits : List Nat) : Nat := digits.foldl (fun n d => n * 10 + d) 0

/-- Takes digits into the significand as long as it stays within 64 bits. The
second part is the number of digits left over. -/
def gather : Nat → List Nat → Nat × Nat
  | significand, [] => (significand, 0)
  | significand, d :: rest =>
    if significand * 10 + d < UInt64.size then gather (significand * 10 + d) rest
    else (significand, rest.length + 1)

/-- The nearest number of at most 53 binary digits; a tie goes to the even
neighbour. -/
def roundTo53 (n : Nat) : Nat :=
  if n < Nat.pow 2 53 then n
  else
    let unit := Nat.pow 2 (n.log2 - 52)
    let quotient := n / unit
    let rest := n % unit
    if rest * 2 > unit ∨ rest * 2 = unit ∧ quotient % 2 = 1 then (quotient + 1) * unit
    else quotient * unit

/-- The least product that double precision rounds to infinity. -/
def overflow : Nat := Nat.pow 2 1024 - Nat.pow 2 970

/-- The number has no finite value in double precision. -/
def isHuge (significand : Nat) (exponent : Int) : Bool :=
  significand != 0 && exponent ≥ 0 &&
    (exponent > 308 || roundTo53 significand * roundTo53 (Nat.pow 10 exponent.toNat) ≥ overflow)

/-- The integers that fit 64 bits, with or without a sign. -/
def fits (value : Int) : Bool := Int64.minValue.toInt ≤ value && value.toNat < UInt64.size

def ofParts (parts : Parts) : JsonNumber :=
  let value : Int := if parts.negative then -(ofDigits parts.whole) else ofDigits parts.whole
  if parts.fraction = none ∧ parts.exponent = none ∧ fits value = true
      ∧ ¬ (parts.negative = true ∧ value = 0) then
    .integer value
  else
    let (front, unread) := gather 0 parts.whole
    let decimals := parts.fraction.getD []
    let (significand, dropped) := gather front decimals
    let shift : Int := unread - (decimals.length - dropped : Nat)
    let power : Int := match parts.exponent with
      | none => 0
      | some (true, digits) => -(ofDigits digits)
      | some (false, digits) => ofDigits digits
    if isHuge significand (shift + power) then .huge else .fraction

end Dfs.JsonNumber
