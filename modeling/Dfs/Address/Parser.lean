import Dfs.Address.Basic

/-!
Reading addresses. A reader takes what it needs from the front of a text and
leaves the rest, or fails.
-/

namespace Dfs

abbrev Reader := StateT (List Char) Option

namespace Reader

/-- The value of a text that the reader takes to its end. -/
def whole {α : Type} (reader : Reader α) (text : String) : Option α :=
  match reader.run text.toList with
  | some (value, []) => some value
  | _ => none

def digitOfBase? (base : Nat) (c : Char) : Option Nat :=
  let value? :=
    if '0' ≤ c ∧ c ≤ '9' then some (c.toNat - '0'.toNat)
    else if 'a' ≤ c ∧ c ≤ 'f' then some (c.toNat - 'a'.toNat + 10)
    else if 'A' ≤ c ∧ c ≤ 'F' then some (c.toNat - 'A'.toNat + 10)
    else none
  value?.filter (· < base)

/-- The digits at the front of a text, and the text after them. -/
def splitDigits (base : Nat) : List Char → List Nat × List Char
  | [] => ([], [])
  | c :: rest =>
    match digitOfBase? base c with
    | none => ([], c :: rest)
    | some d => (d :: (splitDigits base rest).1, (splitDigits base rest).2)

/-- All the digits at the front of the text. -/
def digits (base : Nat) : Reader (List Nat) := fun text => some (splitDigits base text)

/-- The number that digits spell, most significant first. -/
def valueOfDigits (base : Nat) (digits : List Nat) : Nat := digits.foldl (fun n d => n * base + d) 0

/-- The character `c`, which has to come next. -/
def char (c : Char) : Reader Unit
  | d :: rest => if c = d then some ((), rest) else none
  | [] => none

/-- A number below `bound`, of at least one digit. -/
def number (base bound : Nat) : Reader Nat := do
  let digits ← digits base
  if digits = [] ∨ valueOfDigits base digits ≥ bound then failure
  else pure (valueOfDigits base digits)

end Reader

namespace Ipv4

/-- One of the four numbers: at most three digits, and no zero before others. -/
def octet : Reader UInt8 := do
  let digits ← Reader.digits 10
  let value := Reader.valueOfDigits 10 digits
  if digits = [] ∨ digits.length > 3 ∨ digits.head? = some 0 ∧ digits.length ≠ 1 ∨ value ≥ 256 then
    failure
  else pure (UInt8.ofNat value)

def reader : Reader Ipv4 := do
  let a ← octet
  Reader.char '.'
  let b ← octet
  Reader.char '.'
  let c ← octet
  Reader.char '.'
  let d ← octet
  pure ⟨a, b, c, d⟩

/-- The two groups by which an address of version 4 ends one of version 6. -/
def halves (ip : Ipv4) : List UInt16 :=
  [ip.a.toUInt16 * 256 + ip.b.toUInt16, ip.c.toUInt16 * 256 + ip.d.toUInt16]

end Ipv4

namespace Ipv6

/-- One group: one to four digits, leading zeros included. -/
def group : Reader UInt16 := do
  let digits ← Reader.digits 16
  if digits = [] ∨ digits.length > 4 then failure
  else pure (UInt16.ofNat (Reader.valueOfDigits 16 digits))

/-- Takes the colon before every group but the first. -/
def afterColon {α : Type} (isFirst : Bool) (reader : Reader α) : Reader α := do
  if isFirst then reader
  else
    Reader.char ':'
    reader

/-- What a run of groups yields: the groups, whether the last two were written as
an address of version 4, and the rest of the text. -/
structure Run where
  groups : List UInt16
  dotted : Bool
  rest : List Char
  deriving Repr

/-- Reads up to `limit` groups. An address of version 4 may take the place of the
last two, and ends the run. -/
def splitGroups (isFirst : Bool) : Nat → List Char → Run
  | 0, text => ⟨[], false, text⟩
  | limit + 1, text =>
    match if limit = 0 then none else (afterColon isFirst Ipv4.reader).run text with
    | some (ip, rest) => ⟨ip.halves, true, rest⟩
    | none =>
      match (afterColon isFirst group).run text with
      | none => ⟨[], false, text⟩
      | some (g, rest) =>
        let more := splitGroups false limit rest
        ⟨g :: more.groups, more.dotted, more.rest⟩

def groupsUpTo (limit : Nat) : Reader Run := fun text =>
  let run := splitGroups true limit text
  some (run, run.rest)

/-- Either eight groups, or fewer with `::` for the zeros that are left out; at
least one group has to be left out then. -/
def reader : Reader Ipv6 := do
  let front ← groupsUpTo 8
  if front.groups.length = 8 then
    ofGroups? front.groups
  else if front.dotted then failure
  else
    Reader.char ':'
    Reader.char ':'
    let back ← groupsUpTo (7 - front.groups.length)
    let zeros := List.replicate (8 - front.groups.length - back.groups.length) 0
    ofGroups? (front.groups ++ zeros ++ back.groups)

end Ipv6

namespace Ip

def reader : Reader Ip := fun text =>
  match Ipv4.reader.run text with
  | some (ip, rest) => some (.v4 ip, rest)
  | none => (Ipv6.reader.run text).map fun (ip, rest) => (.v6 ip, rest)

/-- Reads a text that is an internet address and nothing else. -/
def parse? (text : String) : Option Ip := reader.whole text

end Ip

namespace Address

/-- The port, after its colon; leading zeros are allowed. -/
def portReader : Reader UInt16 := do
  Reader.char ':'
  let port ← Reader.number 10 65536
  pure (UInt16.ofNat port)

def readerV4 : Reader Address := do
  let ip ← Ipv4.reader
  let port ← portReader
  pure (.v4 ip port)

def percentNumber : Reader Nat := do
  Reader.char '%'
  Reader.number 10 UInt32.size

/-- The scope may be left out, and is then zero. -/
def scopeReader : Reader UInt32 := fun text =>
  match percentNumber.run text with
  | some (scope, rest) => some (UInt32.ofNat scope, rest)
  | none => some (0, text)

def readerV6 : Reader Address := do
  Reader.char '['
  let ip ← Ipv6.reader
  let scope ← scopeReader
  Reader.char ']'
  let port ← portReader
  pure (.v6 ip port 0 scope)

def reader : Reader Address := fun text => (readerV4.run text).or (readerV6.run text)

/-- Reads a text that is an address and nothing else. -/
def parse? (text : String) : Option Address := reader.whole text

end Address

end Dfs
