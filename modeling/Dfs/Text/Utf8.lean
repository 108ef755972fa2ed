/-!
UTF-8 as bytes. `encode` and `decode?` are exact; `display` shows any bytes as
text, with one replacement character for each maximal piece that is the start of
no character.
-/

namespace Dfs.Utf8

def encode (s : String) : List UInt8 := s.toUTF8.data.toList

/-- The text that the bytes encode, if they are valid UTF-8. -/
def decode? (bytes : List UInt8) : Option String := String.fromUTF8? ⟨bytes.toArray⟩

/-! ### Showing bytes that need not be text -/

/-- A character of which some bytes are still to come: how many, the range the
next one has to be in, and the value so far. -/
structure Pending where
  owed : Nat
  low : UInt8
  high : UInt8
  value : Nat
  deriving DecidableEq, Repr

/-- What a byte begins when no character is open. -/
inductive Lead where
  | whole (c : Char)
  | opens (p : Pending)
  | stray
  deriving DecidableEq, Repr

def lead (b : UInt8) : Lead :=
  if b < 0x80 then .whole (Char.ofNat b.toNat)
  else if b < 0xC2 then .stray
  else if b < 0xE0 then .opens ⟨1, 0x80, 0xBF, b.toNat - 0xC0⟩
  else if b = 0xE0 then .opens ⟨2, 0xA0, 0xBF, 0⟩
  else if b = 0xED then .opens ⟨2, 0x80, 0x9F, 0xD⟩
  else if b < 0xF0 then .opens ⟨2, 0x80, 0xBF, b.toNat - 0xE0⟩
  else if b = 0xF0 then .opens ⟨3, 0x90, 0xBF, 0⟩
  else if b < 0xF4 then .opens ⟨3, 0x80, 0xBF, b.toNat - 0xF0⟩
  else if b = 0xF4 then .opens ⟨3, 0x80, 0x8F, 4⟩
  else .stray

/-- The characters of the bytes, and `none` for each maximal piece that is the
start of no character. -/
def pieces : Option Pending → List UInt8 → List (Option Char)
  | none, [] => []
  | some _, [] => [none]
  | none, b :: rest =>
    match lead b with
    | .whole c => some c :: pieces none rest
    | .opens p => pieces (some p) rest
    | .stray => none :: pieces none rest
  | some p, b :: rest =>
    if p.low ≤ b ∧ b ≤ p.high then
      let value := p.value * 64 + (b.toNat - 0x80)
      if p.owed ≤ 1 then some (Char.ofNat value) :: pieces none rest
      else pieces (some ⟨p.owed - 1, 0x80, 0xBF, value⟩) rest
    else
      none :: match lead b with
        | .whole c => some c :: pieces none rest
        | .opens q => pieces (some q) rest
        | .stray => none :: pieces none rest

def replacement : Char := '\uFFFD'

def display (bytes : List UInt8) : String :=
  String.ofList ((pieces none bytes).map fun c => c.getD replacement)

end Dfs.Utf8
