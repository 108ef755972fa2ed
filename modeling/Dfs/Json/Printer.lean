import Dfs.Json.Basic

/-!
Writing JSON without blanks. Only quotes, backslashes and the control characters
below the space are escaped.
-/

namespace Dfs.Json

def lowerHexDigit (n : Nat) : Char := Nat.digitChar n

/-- How a character is written inside a string. -/
def escape (c : Char) : List Char :=
  if c = '"' then ['\\', '"']
  else if c = '\\' then ['\\', '\\']
  else if c = '\x08' then ['\\', 'b']
  else if c = '\t' then ['\\', 't']
  else if c = '\n' then ['\\', 'n']
  else if c = '\x0c' then ['\\', 'f']
  else if c = '\r' then ['\\', 'r']
  else if c < ' ' then
    ['\\', 'u', '0', '0', lowerHexDigit (c.toNat / 16), lowerHexDigit (c.toNat % 16)]
  else [c]

def quote (text : List Char) : List Char := '"' :: text.flatMap escape ++ ['"']

/-- Writes list items with commas between them. -/
def commaSeparated : List (List Char) → List Char
  | [] => []
  | [item] => item
  | item :: items => item ++ ',' :: commaSeparated items

mutual

/-- The text of a value. Numbers that are no integers and broken strings do not
occur in messages that are written; they are shown as `null`. -/
def render : Json → List Char
  | .null => "null".toList
  | .bool true => "true".toList
  | .bool false => "false".toList
  | .number (.integer value) => (toString value).toList
  | .number _ => "null".toList
  | .str none => "null".toList
  | .str (some text) => quote text.toList
  | .array items => '[' :: commaSeparated (renderItems items) ++ [']']
  | .object members => '{' :: commaSeparated (renderMembers members) ++ ['}']

def renderItems : List Json → List (List Char)
  | [] => []
  | item :: items => render item :: renderItems items

def renderMembers : List (Option String × Json) → List (List Char)
  | [] => []
  | (key, value) :: members =>
    (quote (key.getD "").toList ++ ':' :: render value) :: renderMembers members

end

def text (value : Json) : String := String.ofList value.render

end Dfs.Json
