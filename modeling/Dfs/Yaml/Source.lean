/-!
Reading YAML text: a place in the text with its line and column, the classes of
characters that structure a text, and the reasons why a text is refused.
-/

namespace Dfs.Yaml

/-- Why a text is no YAML, or not of the kind that is wanted. -/
inductive YamlError where
  | controlCharacter
  | tabIndentation
  | keyWithoutColon
  | misplaced (indicator : Char)
  | strayCharacter (c : Char)
  | unknownEscape
  | notHexadecimal
  | notACharacter
  | unclosedQuote
  | badBlockHeader
  | badName
  | badTag
  | badDirective
  | unexpectedContent
  | unclosedCollection
  | unknownAlias (name : String)
  | severalDocuments
  | unexpectedKind (wanted : String)
  | unknownKey (key : String)
  | repeatedKey (key : String)
  | badValue (key : String)
  deriving DecidableEq, Repr

def YamlError.message : YamlError → String
  | .controlCharacter => "control characters are not allowed"
  | .tabIndentation => "a tab stands where an indentation space is expected"
  | .keyWithoutColon => "a key is not followed by ':'"
  | .misplaced indicator => s!"'{indicator}' is not allowed here"
  | .strayCharacter c => s!"'{c}' cannot start anything here"
  | .unknownEscape => "unknown escape"
  | .notHexadecimal => "an escape needs more hexadecimal digits"
  | .notACharacter => "an escape stands for no character"
  | .unclosedQuote => "a quoted text does not end"
  | .badBlockHeader => "a block of text begins with a malformed line"
  | .badName => "malformed anchor or alias"
  | .badTag => "malformed tag"
  | .badDirective => "malformed directive"
  | .unexpectedContent => "unexpected content"
  | .unclosedCollection => "a collection does not end where it should"
  | .unknownAlias name => s!"nothing is anchored as '{name}'"
  | .severalDocuments => "more than one document"
  | .unexpectedKind wanted => s!"expected {wanted}"
  | .unknownKey key => s!"unknown field '{key}'"
  | .repeatedKey key => s!"duplicate field '{key}'"
  | .badValue key => s!"invalid value for '{key}'"

/-! ### Characters -/

def isBreak (c : Char) : Bool :=
  c == '\n' || c == '\r' || c == '\u0085' || c == '\u2028' || c == '\u2029'

def isBlank (c : Char) : Bool := c == ' ' || c == '\t'

/-- The characters of names. -/
def isNameChar (c : Char) : Bool := c.isAlphanum || c == '_' || c == '-'

def isFlowIndicator (c : Char) : Bool :=
  c == ',' || c == '[' || c == ']' || c == '\x7b' || c == '\x7d'

/-- What may follow a word: a blank, a line break, or nothing. -/
def endsWord (c : Option Char) : Bool := c.all fun c => isBlank c || isBreak c

/-- The characters that may be in a text. -/
def isAllowed (c : Char) : Bool :=
  let n := c.toNat
  c == '\t' || c == '\n' || c == '\r' || (0x20 ≤ n && n ≤ 0x7E) || n == 0x85 ||
    (0xA0 ≤ n && n ≤ 0xFFFD) || 0x10000 ≤ n

def byteOrderMark : Char := '\uFEFF'

/-! ### Places in a text -/

/-- The rest of a text, with where it begins. Lines and columns count from zero. -/
structure Source where
  rest : List Char
  index : Nat
  line : Nat
  column : Nat
  deriving Repr

namespace Source

/-- The start of a text. -/
def ofString (text : String) : Source := ⟨text.toList, 0, 0, 0⟩

def front? (s : Source) : Option Char := s.rest.head?

/-- The character `n` places further on. -/
def peek? (s : Source) (n : Nat) : Option Char := s.rest[n]?

/-- Skips characters of the line. -/
def skip (n : Nat) (s : Source) : Source :=
  { s with rest := s.rest.drop n, index := s.index + n, column := s.column + n }

/-- Takes the characters up to the first without the property, which has to fail for
line breaks. -/
def takeWhile (p : Char → Bool) (s : Source) : List Char × Source :=
  let taken := s.rest.takeWhile p
  (taken, s.skip taken.length)

def skipWhile (p : Char → Bool) (s : Source) : Source := (s.takeWhile p).2

def atBreak (s : Source) : Bool := s.front?.any isBreak

/-- Takes a line break, if one is next, and gives it as it counts in a text: only the
separators of Unicode stay as they are. -/
def takeBreak (s : Source) : List Char × Source :=
  match s.rest with
  | '\r' :: '\n' :: rest => (['\n'], ⟨rest, s.index + 2, s.line + 1, 0⟩)
  | c :: rest =>
    if isBreak c then
      (if c = '\u2028' ∨ c = '\u2029' then [c] else ['\n'], ⟨rest, s.index + 1, s.line + 1, 0⟩)
    else ([], s)
  | [] => ([], s)

/-- Three times the character at the start of a line and nothing else in the word. -/
def isMark (c : Char) (s : Source) : Bool :=
  s.column == 0 && s.rest.take 3 == [c, c, c] && endsWord (s.peek? 3)

/-- A mark at which a document begins or ends. -/
def atDocumentMark (s : Source) : Bool := s.isMark '-' || s.isMark '.'

/-- Skips the comment that begins here, if one does. -/
def skipComment (s : Source) : Source :=
  if s.front? = some '#' then s.skipWhile (!isBreak ·) else s

end Source

end Dfs.Yaml
