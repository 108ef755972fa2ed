import Dfs.Json.Magnitude

/-!
The tokens of a JSON text: punctuation, and whole scalars. Blanks between tokens
carry no meaning.
-/

namespace Dfs.Json

inductive Token where
  | mark (c : Char)
  | scalar (value : Json)
  deriving Repr

namespace Token

/-- Space, tab, line feed and carriage return. -/
def isBlank (c : Char) : Bool := c == ' ' || c == '\t' || c == '\n' || c == '\r'

def isMark (c : Char) : Bool :=
  c == '{' || c == '}' || c == '[' || c == ']' || c == ':' || c == ','

/-! ### Strings -/

def hexDigit? (c : Char) : Option Nat :=
  if '0' ≤ c ∧ c ≤ '9' then some (c.toNat - '0'.toNat)
  else if 'a' ≤ c ∧ c ≤ 'f' then some (c.toNat - 'a'.toNat + 10)
  else if 'A' ≤ c ∧ c ≤ 'F' then some (c.toNat - 'A'.toNat + 10)
  else none

def hex4? (a b c d : Char) : Option Nat := do
  let a ← hexDigit? a
  let b ← hexDigit? b
  let c ← hexDigit? c
  let d ← hexDigit? d
  pure (((a * 16 + b) * 16 + c) * 16 + d)

def isHighSurrogate (unit : Nat) : Bool := 0xD800 ≤ unit && unit < 0xDC00

def isLowSurrogate (unit : Nat) : Bool := 0xDC00 ≤ unit && unit < 0xE000

/-- The character that a pair of surrogates stands for. -/
def ofSurrogates (high low : Nat) : Char :=
  Char.ofNat (0x10000 + (high - 0xD800) * 0x400 + (low - 0xDC00))

/-- The character that `\` and this character stand for. -/
def unescape? : Char → Option Char
  | '"' => some '"'
  | '\\' => some '\\'
  | '/' => some '/'
  | 'b' => some '\x08'
  | 'f' => some '\x0c'
  | 'n' => some '\n'
  | 'r' => some '\r'
  | 't' => some '\t'
  | _ => none

/-- The rest of a text and what it stands for so far: `none` once an unpaired
surrogate has been met. -/
abbrev StringRest := Option (List Char) × List Char

def StringRest.cons (c : Char) (r : StringRest) : StringRest := (r.1.map (c :: ·), r.2)

def StringRest.broken (r : StringRest) : StringRest := (none, r.2)

/-- What follows a high surrogate that its next unit does not complete. -/
def afterHigh (high : Option Nat) (r : Option StringRest) : Option StringRest :=
  if high.isSome then r.map (·.broken) else r

/-- Reads a string up to its closing quote; the opening one has been read.
`high` is the high surrogate that was read last, if it still waits for a low
one. -/
def readString : Option Nat → List Char → Option StringRest
  | _, [] => none
  | high, '"' :: rest => afterHigh high (some (some [], rest))
  | high, '\\' :: 'u' :: a :: b :: c :: d :: rest =>
    match hex4? a b c d with
    | none => none
    | some unit =>
      if isHighSurrogate unit then afterHigh high (readString (some unit) rest)
      else if isLowSurrogate unit then
        match high with
        | some first => (readString none rest).map (·.cons (ofSurrogates first unit))
        | none => (readString none rest).map (·.broken)
      else afterHigh high ((readString none rest).map (·.cons (Char.ofNat unit)))
  | high, '\\' :: e :: rest =>
    match unescape? e with
    | none => none
    | some c => afterHigh high ((readString none rest).map (·.cons c))
  | high, c :: rest =>
    if c < ' ' ∨ c = '\\' then none
    else afterHigh high ((readString none rest).map (·.cons c))

/-! ### Numbers -/

def digitValue (c : Char) : Nat := c.toNat - '0'.toNat

/-- The digits a text begins with, and what follows them. -/
def readDigits (text : List Char) : List Nat × List Char :=
  ((text.takeWhile Char.isDigit).map digitValue, text.dropWhile Char.isDigit)

/-- Digits that have to be there: `none` if there are none. -/
def readSomeDigits (text : List Char) : Option (List Nat × List Char) :=
  match readDigits text with
  | ([], _) => none
  | found => some found

/-- The part of a number before its fraction: `0`, or digits that do not begin
with `0`. -/
def readWhole (text : List Char) : Option (List Nat × List Char) := do
  let (digits, rest) ← readSomeDigits text
  if digits.head? = some 0 ∧ digits.length ≠ 1 then none else some (digits, rest)

def readFraction : List Char → Option (Option (List Nat) × List Char)
  | '.' :: rest => (readSomeDigits rest).map fun (digits, rest) => (some digits, rest)
  | text => some (none, text)

def readPower (text : List Char) : Option (Option (Bool × List Nat) × List Char) :=
  match text with
  | '-' :: rest => (readSomeDigits rest).map fun (digits, rest) => (some (true, digits), rest)
  | '+' :: rest => (readSomeDigits rest).map fun (digits, rest) => (some (false, digits), rest)
  | rest => (readSomeDigits rest).map fun (digits, rest) => (some (false, digits), rest)

def readExponent : List Char → Option (Option (Bool × List Nat) × List Char)
  | 'e' :: rest => readPower rest
  | 'E' :: rest => readPower rest
  | text => some (none, text)

def readUnsigned (negative : Bool) (text : List Char) : Option (JsonNumber × List Char) := do
  let (whole, rest) ← readWhole text
  let (fraction, rest) ← readFraction rest
  let (exponent, rest) ← readExponent rest
  pure (.ofParts ⟨negative, whole, fraction, exponent⟩, rest)

def readNumber : List Char → Option (JsonNumber × List Char)
  | '-' :: rest => readUnsigned true rest
  | text => readUnsigned false text

/-! ### All tokens -/

/-- One token that is not a blank, and the text after it. -/
def read : List Char → Option (Token × List Char)
  | 'n' :: 'u' :: 'l' :: 'l' :: rest => some (.scalar .null, rest)
  | 't' :: 'r' :: 'u' :: 'e' :: rest => some (.scalar (.bool true), rest)
  | 'f' :: 'a' :: 'l' :: 's' :: 'e' :: rest => some (.scalar (.bool false), rest)
  | '"' :: rest => (readString none rest).map fun (text, rest) =>
      (.scalar (.str (text.map String.ofList)), rest)
  | c :: rest =>
    if isMark c then some (.mark c, rest)
    else (readNumber (c :: rest)).map fun (value, rest) => (.scalar (.number value), rest)
  | [] => none

/-- Tokens of the text; each step of the fuel takes at least one character. -/
def scanWith : Nat → List Char → Option (List Token)
  | _, [] => some []
  | 0, _ :: _ => none
  | fuel + 1, c :: rest =>
    if isBlank c then scanWith fuel rest
    else match read (c :: rest) with
      | none => none
      | some (token, rest) => (scanWith fuel rest).map (token :: ·)

/-- The tokens of a text, if every part of it is a token or a blank. -/
def scan (text : List Char) : Option (List Token) := scanWith text.length text

end Token

end Dfs.Json
