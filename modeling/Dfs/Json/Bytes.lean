import Dfs.Json.Reader
import Dfs.Text.Utf8

/-!
JSON texts as the bytes of a message. Bytes that are no text may be inside a string,
where they stand for no string: a reader that skips the string accepts them, and one
that needs it does not. Anywhere else they are an error.
-/

namespace Dfs.Json

/-- What a character in a JSON text belongs to. -/
inductive Position where
  | outside
  | inString
  | afterBackslash
  deriving DecidableEq, Repr

/-- What the character after `c` belongs to. -/
def Position.after : Position → Char → Position
  | .outside, c => if c = '"' then .inString else .outside
  | .inString, c =>
    if c = '"' then .outside else if c = '\\' then .afterBackslash else .inString
  | .afterBackslash, _ => .inString

/-- An escape that stands for no character. -/
def brokenEscape : List Char := ['\\', 'u', 'D', '8', '0', '0']

/-- The text of pieces of which some are no characters: in a string, each of these
becomes an escape that is no character either. -/
def mend : Position → List (Option Char) → Option (List Char)
  | _, [] => some []
  | .inString, none :: rest => (mend .inString rest).map (brokenEscape ++ ·)
  | _, none :: _ => none
  | position, some c :: rest => (mend (position.after c) rest).map (c :: ·)

/-- Reads bytes that hold one value. -/
def ofBytes? (bytes : List UInt8) : Option Json :=
  match Utf8.decode? bytes with
  | some text => parse? text
  | none => (mend .outside (Utf8.pieces none bytes)).bind fun text => parse? (String.ofList text)

end Dfs.Json
