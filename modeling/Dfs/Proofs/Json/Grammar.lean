import Dfs.Json.Token

/-!
The grammar of JSON texts, with the value of each text: blanks may stand anywhere between
tokens, a character of a string may be escaped or not, hexadecimal digits are of either case,
and an exponent may have a sign that it does not need.

A text belongs to a value in two steps. It is a sequence of tokens (`Lexed`), and they are the
tokens of the value (`tokens`); together, the text denotes the value (`Denotes`).
-/

namespace Dfs.Json

/-! ### Strings -/

/-- A hexadecimal digit, of either case. -/
def HexDigit (c : Char) (value : Nat) : Prop :=
  value < 16 ∧ (c = Nat.digitChar value ∨ c = (Nat.digitChar value).toUpper)

instance (c : Char) (value : Nat) : Decidable (HexDigit c value) :=
  inferInstanceAs (Decidable (_ ∧ _))

/-- The escape of a unit of 16 bits by its number. -/
inductive UnitEscape : List Char → Nat → Prop where
  | mk {a b c d : Char} {i j k l : Nat} :
      HexDigit a i → HexDigit b j → HexDigit c k → HexDigit d l →
      UnitEscape ['\\', 'u', a, b, c, d] (i * 4096 + j * 256 + k * 16 + l)

/-- The escapes of one letter, with what they stand for. -/
def shortEscapes : List (Char × Char) :=
  [('"', '"'), ('\\', '\\'), ('/', '/'), ('b', '\x08'), ('f', '\x0c'), ('n', '\n'), ('r', '\r'),
    ('t', '\t')]

/-- The text begins with the escape of the second half of a pair. -/
def BeginsLow (text : List Char) : Prop :=
  ∃ escape unit, UnitEscape escape unit ∧ 0xDC00 ≤ unit ∧ unit < 0xE000 ∧ escape <+: text

/-- What stands between the quotes of a string, and the characters it stands for: `none` if
one half of a pair stands there alone. -/
inductive StringText : List Char → Option (List Char) → Prop where
  | nil : StringText [] (some [])
  | plain {c : Char} {text : List Char} {value : Option (List Char)} :
      ' ' ≤ c → c ≠ '"' → c ≠ '\\' → StringText text value →
      StringText (c :: text) (value.map (c :: ·))
  | short {e c : Char} {text : List Char} {value : Option (List Char)} :
      (e, c) ∈ shortEscapes → StringText text value →
      StringText ('\\' :: e :: text) (value.map (c :: ·))
  | unit {c : Char} {escape text : List Char} {value : Option (List Char)} :
      UnitEscape escape c.toNat → StringText text value →
      StringText (escape ++ text) (value.map (c :: ·))
  | pair {c : Char} {high low text : List Char} {value : Option (List Char)} :
      0x10000 ≤ c.toNat → UnitEscape high (0xD800 + (c.toNat - 0x10000) / 0x400) →
      UnitEscape low (0xDC00 + (c.toNat - 0x10000) % 0x400) → StringText text value →
      StringText (high ++ low ++ text) (value.map (c :: ·))
  | unpaired {escape text : List Char} {unit : Nat} {value : Option (List Char)} :
      UnitEscape escape unit → 0xD800 ≤ unit → unit < 0xE000 →
      (unit < 0xDC00 → ¬ BeginsLow text) → StringText text value →
      StringText (escape ++ text) none

/-! ### Numbers -/

/-- One or more decimal digits. -/
structure Digits (digits : List Nat) : Prop where
  nonempty : digits ≠ []
  below : ∀ d ∈ digits, d < 10

/-- The text after the whole part of a number, up to an exponent. -/
inductive FractionText : List Char → Option (List Nat) → Prop where
  | absent : FractionText [] none
  | present {digits : List Nat} : Digits digits →
      FractionText ('.' :: digits.map Nat.digitChar) (some digits)

/-- The sign of an exponent, and whether it makes the exponent negative. -/
inductive SignText : List Char → Bool → Prop where
  | absent : SignText [] false
  | plus : SignText ['+'] false
  | minus : SignText ['-'] true

inductive ExponentText : List Char → Option (Bool × List Nat) → Prop where
  | absent : ExponentText [] none
  | present {e : Char} {sign : List Char} {negative : Bool} {digits : List Nat} :
      e = 'e' ∨ e = 'E' → SignText sign negative → Digits digits →
      ExponentText (e :: (sign ++ digits.map Nat.digitChar)) (some (negative, digits))

/-- A number: its whole part has no zero in front of other digits. -/
inductive NumberText : List Char → JsonNumber.Parts → Prop where
  | mk {negative : Bool} {whole : List Nat} {fractionText exponentText : List Char}
      {fraction : Option (List Nat)} {exponent : Option (Bool × List Nat)} :
      Digits whole → (whole.head? = some 0 → whole.length = 1) →
      FractionText fractionText fraction → ExponentText exponentText exponent →
      NumberText
        ((if negative then ['-'] else []) ++ (whole.map Nat.digitChar ++
          (fractionText ++ exponentText)))
        ⟨negative, whole, fraction, exponent⟩

/-! ### Texts -/

/-- The characters between tokens, and those that are tokens. -/
def blanks : List Char := [' ', '\t', '\n', '\r']

def marks : List Char := ['{', '}', '[', ']', ':', ',']

/-- What may follow a number. -/
def Ends (rest : List Char) : Prop := ∀ c ∈ rest.head?, c ∈ blanks ∨ c ∈ marks

/-- The text is a sequence of these tokens, with blanks anywhere between them. -/
inductive Lexed : List Char → List Token → Prop where
  | nil : Lexed [] []
  | blank {c : Char} {text : List Char} {tokens : List Token} :
      c ∈ blanks → Lexed text tokens → Lexed (c :: text) tokens
  | mark {c : Char} {text : List Char} {tokens : List Token} :
      c ∈ marks → Lexed text tokens → Lexed (c :: text) (.mark c :: tokens)
  | null {text : List Char} {tokens : List Token} :
      Lexed text tokens → Lexed ("null".toList ++ text) (.scalar .null :: tokens)
  | bool (value : Bool) {text : List Char} {tokens : List Token} :
      Lexed text tokens →
      Lexed ((if value then "true" else "false").toList ++ text) (.scalar (.bool value) :: tokens)
  | string {inside text : List Char} {value : Option (List Char)} {tokens : List Token} :
      StringText inside value → Lexed text tokens →
      Lexed ('"' :: (inside ++ '"' :: text)) (.scalar (.str (value.map String.ofList)) :: tokens)
  | number {digits text : List Char} {parts : JsonNumber.Parts} {tokens : List Token} :
      NumberText digits parts → Ends text → Lexed text tokens →
      Lexed (digits ++ text) (.scalar (.number (.ofParts parts)) :: tokens)

/-! ### Values -/

mutual

/-- The tokens of a value. -/
def tokens : Json → List Token
  | .array items => .mark '[' :: itemTokens items
  | .object members => .mark '{' :: memberTokens members
  | value => [.scalar value]

/-- Items with commas between them, and the closing bracket. -/
def itemTokens : List Json → List Token
  | [] => [.mark ']']
  | [item] => tokens item ++ [.mark ']']
  | item :: next :: items => tokens item ++ .mark ',' :: itemTokens (next :: items)

/-- Members with commas between them, and the closing brace. -/
def memberTokens : List (Option String × Json) → List Token
  | [] => [.mark '}']
  | [(key, value)] => .scalar (.str key) :: .mark ':' :: (tokens value ++ [.mark '}'])
  | (key, value) :: next :: members =>
    .scalar (.str key) :: .mark ':' :: (tokens value ++ .mark ',' :: memberTokens (next :: members))

end

/-- The text is one of the texts of the value. -/
def Denotes (text : String) (value : Json) : Prop := Lexed text.toList value.tokens

end Dfs.Json
