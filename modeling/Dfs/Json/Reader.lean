import Dfs.Json.Token

/-!
Reading JSON: the value that a sequence of tokens spells, and nothing after it.
-/

namespace Dfs.Json

mutual

/-- One value at the front of the tokens. -/
def readValue : Nat → List Token → Option (Json × List Token)
  | 0, _ => none
  | _ + 1, .scalar value :: rest => some (value, rest)
  | _ + 1, .mark '[' :: .mark ']' :: rest => some (.array [], rest)
  | fuel + 1, .mark '[' :: rest =>
    (readItems fuel rest).map fun (items, rest) => (.array items, rest)
  | _ + 1, .mark '{' :: .mark '}' :: rest => some (.object [], rest)
  | fuel + 1, .mark '{' :: rest =>
    (readMembers fuel rest).map fun (members, rest) => (.object members, rest)
  | _ + 1, _ => none

/-- One or more values with commas between them, and the closing bracket. -/
def readItems : Nat → List Token → Option (List Json × List Token)
  | 0, _ => none
  | fuel + 1, tokens =>
    match readValue fuel tokens with
    | some (value, .mark ']' :: rest) => some ([value], rest)
    | some (value, .mark ',' :: rest) =>
      (readItems fuel rest).map fun (items, rest) => (value :: items, rest)
    | _ => none

/-- One or more members with commas between them, and the closing brace. -/
def readMembers : Nat → List Token → Option (List (Option String × Json) × List Token)
  | 0, _ => none
  | fuel + 1, .scalar (.str key) :: .mark ':' :: tokens =>
    match readValue fuel tokens with
    | some (value, .mark '}' :: rest) => some ([(key, value)], rest)
    | some (value, .mark ',' :: rest) =>
      (readMembers fuel rest).map fun (members, rest) => ((key, value) :: members, rest)
    | _ => none
  | _ + 1, _ => none

end

/-- The value of a whole sequence of tokens. Two steps of fuel take at least one
token. -/
def ofTokens? (tokens : List Token) : Option Json :=
  match readValue (2 * tokens.length + 1) tokens with
  | some (value, []) => some value
  | _ => none

/-- Reads a text that holds one value. -/
def parse? (text : String) : Option Json := do
  let tokens ← Token.scan text.toList
  ofTokens? tokens

end Dfs.Json
