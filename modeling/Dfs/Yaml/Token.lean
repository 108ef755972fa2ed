import Dfs.Yaml.Scalar

/-!
The tokens of a YAML text. A block collection begins where a line is indented
further than the collection around it, and ends where one is indented less, so that
tokens mark both ends of every collection.

Whether something is a key shows only at the colon after it. The place of a token
that may begin a key is kept until then, and the key is marked there afterwards.
-/

namespace Dfs.Yaml

inductive Token where
  | version
  /-- Texts that stand for the start of tags. -/
  | tagHandle (handle start : String)
  | documentStart
  | documentEnd
  | blockSequence
  | blockMapping
  | blockEnd
  | flowSequence
  | flowSequenceEnd
  | flowMapping
  | flowMappingEnd
  | entry
  | comma
  | key
  | value
  | alias (name : String)
  | anchor (name : String)
  /-- A tag is written as a handle and the rest, or whole, without a handle. -/
  | tag (handle rest : String)
  | scalar (isPlain : Bool) (text : String)
  deriving DecidableEq, Repr

/-! ### Names, tags and directives -/

/-- Reads the name of an anchor or an alias after its indicator. -/
def anchorName (s : Source) : Except YamlError (String × Source) :=
  let (name, s) := (s.skip 1).takeWhile isNameChar
  let ends := s.front?.all fun c => isBlank c || isBreak c || "?:,]\x7d%@`".toList.contains c
  if name ≠ [] ∧ ends = true then .ok (String.ofList name, s) else .error .badName

/-- The characters of tags; those of flow collections belong to a tag only where it
is written whole. -/
def isTagChar (whole : Bool) (c : Char) : Bool :=
  isNameChar c || ";/?:@&=+$.!~*'()%".toList.contains c || (whole && ",[]".toList.contains c)

/-- The number of further bytes of a character that begins with the byte `n`. -/
def furtherBytes? (n : Nat) : Option Nat :=
  if n < 0x80 then some 0
  else if 0xC0 ≤ n ∧ n < 0xE0 then some 1
  else if 0xE0 ≤ n ∧ n < 0xF0 then some 2
  else if 0xF0 ≤ n ∧ n < 0xF8 then some 3
  else none

/-- Replaces the escaped bytes of a tag, of which `owed` are still to come in the
character at hand. No tag that means anything has an escaped character beyond ASCII,
so one mark stands for all of these. -/
def unescapeTag : Nat → List Char → Option (List Char)
  | 0, [] => some []
  | owed, '%' :: a :: b :: rest => do
    let n ← hexNumber? [a, b]
    match owed with
    | 0 =>
      let further ← furtherBytes? n
      (unescapeTag further rest).map ((if n < 0x80 then Char.ofNat n else '\uFFFD') :: ·)
    | owed + 1 => if 0x80 ≤ n ∧ n < 0xC0 then unescapeTag owed rest else none
  | 0, c :: rest => if c = '%' then none else (unescapeTag 0 rest).map (c :: ·)
  | _ + 1, _ => none

/-- The text of a tag, which ends at an escaped zero. -/
def tagText (text : List Char) : Except YamlError String :=
  match unescapeTag 0 text with
  | some text => .ok (String.ofList (text.takeWhile (· ≠ '\x00')))
  | none => .error .badTag

/-- Reads a handle: an exclamation mark, and possibly a name with another one. -/
def tagHandle (s : Source) : List Char × Source :=
  let (name, s) := (s.skip 1).takeWhile isNameChar
  if s.front? = some '!' then ('!' :: name ++ ['!'], s.skip 1) else ('!' :: name, s)

/-- The handle ends in an exclamation mark of its own, so that it is no tag by
itself. -/
def isNamedHandle (handle : List Char) : Bool := handle.length > 1 && handle.getLast? == some '!'

def tag (s : Source) : Except YamlError (Token × Source) :=
  if s.peek? 1 = some '<' then do
    let (text, s) := (s.skip 2).takeWhile (isTagChar true)
    if text = [] ∨ s.front? ≠ some '>' then throw .badTag
    pure (.tag "" (← tagText text), s.skip 1)
  else do
    let (handle, s) := tagHandle s
    let (rest, s) := s.takeWhile (isTagChar false)
    if isNamedHandle handle then
      if rest = [] then throw .badTag
      pure (.tag (String.ofList handle) (← tagText rest), s)
    else
      let text ← tagText (handle.tail ++ rest)
      if text = "" then pure (.tag "" "!", s) else pure (.tag "!" text, s)

/-! ### Directives -/

/-- Reads a number of a version, which has at most nine digits. -/
def versionNumber (s : Source) : Except YamlError (Nat × Source) :=
  let (digits, s) := s.takeWhile Char.isDigit
  if digits = [] ∨ digits.length > 9 then .error .badDirective
  else .ok (digits.foldl (fun n c => n * 10 + (c.toNat - '0'.toNat)) 0, s)

/-- Reads the version that a directive asks for. Two versions are understood. -/
def version (s : Source) : Except YamlError (Token × Source) := do
  let (major, s) ← versionNumber s
  if s.front? ≠ some '.' then throw .badDirective
  let (minor, s) ← versionNumber (s.skip 1)
  if major = 1 ∧ (minor = 1 ∨ minor = 2) then pure (.version, s) else throw .badDirective

/-- Reads a handle and the start of tags that it stands for. -/
def handleStart (s : Source) : Except YamlError (Token × Source) := do
  if s.front? ≠ some '!' then throw .badDirective
  let (handle, s) := tagHandle s
  if handle ≠ ['!'] ∧ isNamedHandle handle = false ∨ !s.front?.any isBlank then throw .badDirective
  let (start, s) := (s.skipWhile isBlank).takeWhile (isTagChar true)
  if start = [] ∨ !endsWord s.front? then throw .badDirective
  pure (.tagHandle (String.ofList handle) (← tagText start), s)

/-- Reads a directive, its line included. -/
def directive (s : Source) : Except YamlError (Token × Source) := do
  let (name, s) := (s.skip 1).takeWhile isNameChar
  if !endsWord s.front? then throw .badDirective
  let s := s.skipWhile isBlank
  let (t, s) ← match String.ofList name with
    | "YAML" => version s
    | "TAG" => handleStart s
    | _ => throw .badDirective
  let s := (s.skipWhile isBlank).skipComment
  if s.front?.isNone || s.atBreak then pure (t, s.takeBreak.2) else throw .badDirective

/-! ### The state of reading -/

/-- A token that may turn out to begin a key. -/
structure PossibleKey where
  /-- Nothing but a key can be there. -/
  required : Bool
  /-- The number of tokens before it. -/
  place : Nat
  index : Nat
  line : Nat
  column : Nat
  deriving Repr

structure Lexer where
  source : Source
  tokens : List Token
  /-- For each open block collection, innermost first, the column right of the one
  where it is indented. -/
  margins : List Nat
  /-- A key may begin here. -/
  keyAllowed : Bool
  key : Option PossibleKey
  /-- The possible keys in the collections around each open flow collection. -/
  outer : List (Option PossibleKey)
  deriving Repr

namespace Lexer

def start (text : String) : Lexer := ⟨.ofString text, [], [], true, none, []⟩

def inFlow (l : Lexer) : Bool := !l.outer.isEmpty

/-- What belongs to the innermost block collection is not left of this column. -/
def margin (l : Lexer) : Nat := l.margins.headD 0

def push (l : Lexer) (t : Token) : Lexer := { l with tokens := l.tokens ++ [t] }

/-- Adds a token of `n` characters. -/
def pushSkip (l : Lexer) (t : Token) (n : Nat) : Lexer :=
  { l.push t with source := l.source.skip n }

def insert (l : Lexer) (place : Nat) (t : Token) : Lexer :=
  { l with tokens := l.tokens.take place ++ t :: l.tokens.drop place }

/-! ### Possible keys -/

/-- What was a possible key is none. -/
def dropKey (l : Lexer) : Except YamlError Lexer :=
  match l.key with
  | some key => if key.required then .error .keyWithoutColon else .ok { l with key := none }
  | none => .ok l

/-- What is next may be a key. -/
def noteKey (l : Lexer) : Except YamlError Lexer :=
  if l.keyAllowed then do
    let l ← l.dropKey
    let required := !l.inFlow && l.margin == l.source.column + 1
    pure { l with key := some ⟨required, l.tokens.length, l.source.index, l.source.line,
      l.source.column⟩ }
  else pure l

/-- The longest key, in characters. -/
def maxKeyLength : Nat := 1024

/-- The possible key whose colon is here. A key is on the line of its colon. -/
def takeKey (l : Lexer) : Except YamlError (Option PossibleKey) :=
  match l.key with
  | none => .ok none
  | some key =>
    if key.line = l.source.line ∧ l.source.index ≤ key.index + maxKeyLength then .ok (some key)
    else if key.required then .error .keyWithoutColon
    else .ok none

/-! ### Block collections -/

/-- Opens a block collection in a column, unless one is open there. -/
def openBlock (l : Lexer) (column place : Nat) (t : Token) : Lexer :=
  if !l.inFlow && l.margin < column + 1 then
    { l.insert place t with margins := (column + 1) :: l.margins }
  else l

/-- Closes block collections until what is left begins in the given column or further
left. -/
def closeBlocks (margin : Nat) (l : Lexer) : Lexer :=
  if l.inFlow then l
  else
    let closed := l.margins.takeWhile (margin < ·)
    { l with
      tokens := l.tokens ++ List.replicate closed.length .blockEnd
      margins := l.margins.drop closed.length }

/-! ### Steps -/

/-- Skips white space and comments. A tab may not indent a line of a block, and a
line break in a block allows a key. A byte order mark at the start of a line is
skipped, but takes a column. Every step but the last takes a line break. -/
def skipWhite : Nat → Lexer → Lexer
  | 0, l => l
  | fuel + 1, l =>
    let s := if l.source.column = 0 ∧ l.source.front? = some byteOrderMark then l.source.skip 1
      else l.source
    let s := s.skipWhile fun c => c == ' ' || (c == '\t' && (l.inFlow || !l.keyAllowed))
    let s := s.skipComment
    if s.atBreak then
      skipWhite fuel { l with source := s.takeBreak.2, keyAllowed := l.keyAllowed || !l.inFlow }
    else { l with source := s }

/-- Adds what cannot be inside a block: a directive or a mark between documents. -/
def betweenDocuments (l : Lexer) (t : Token) (s : Source) : Except YamlError Lexer := do
  let l ← (l.closeBlocks 0).dropKey
  pure { l.push t with source := s, keyAllowed := false }

def openFlow (l : Lexer) (t : Token) : Except YamlError Lexer := do
  let l ← l.noteKey
  pure ({ l with key := none, outer := l.key :: l.outer, keyAllowed := true }.pushSkip t 1)

def closeFlow (l : Lexer) (t : Token) : Except YamlError Lexer := do
  let l ← l.dropKey
  let l := match l.outer with
    | [] => l
    | key :: outer => { l with key, outer }
  pure ({ l with keyAllowed := false }.pushSkip t 1)

/-- Adds an indicator that opens a block collection where none is open in its
column. -/
def blockIndicator (l : Lexer) (collection indicator : Token) (c : Char) :
    Except YamlError Lexer := do
  if !l.inFlow && !l.keyAllowed then throw (.misplaced c)
  let l ← (l.openBlock l.source.column l.tokens.length collection).dropKey
  pure (l.pushSkip indicator 1)

def valueIndicator (l : Lexer) : Except YamlError Lexer := do
  match ← l.takeKey with
  | some key =>
    let l := (l.insert key.place .key).openBlock key.column key.place .blockMapping
    pure ({ l with key := none, keyAllowed := false }.pushSkip .value 1)
  | none =>
    if !l.inFlow && !l.keyAllowed then throw (.misplaced ':')
    let l := l.openBlock l.source.column l.tokens.length .blockMapping
    pure ({ l with key := none, keyAllowed := !l.inFlow }.pushSkip .value 1)

/-- Adds a token that may begin a key, and after which no key begins. -/
def content (l : Lexer) (read : Source → Except YamlError (Token × Source)) :
    Except YamlError Lexer := do
  let l ← l.noteKey
  let (t, s) ← read l.source
  pure { l.push t with source := s, keyAllowed := false }

def plainScalar (l : Lexer) : Except YamlError Lexer := do
  let l ← l.noteKey
  let (found, s) ← plain l.margin l.inFlow l.source
  pure { l.push (.scalar true (String.ofList found.text)) with
    source := s, keyAllowed := found.endsLine }

def blockScalar (l : Lexer) (folded : Bool) : Except YamlError Lexer := do
  let l ← l.dropKey
  let (text, s) ← block folded l.margin l.source
  pure { l.push (.scalar false (String.ofList text)) with source := s, keyAllowed := true }

/-- A plain scalar can begin with any character but an indicator, and with three of
the indicators where no blank follows. -/
def beginsPlain (l : Lexer) (c : Char) : Bool :=
  let next := l.source.peek? 1
  !(isBlank c || "-?:,[]\x7b\x7d#&*!|>'\"%@`".toList.contains c) ||
    (c == '-' && !next.any isBlank) ||
    (!l.inFlow && (c == '?' || c == ':') && !endsWord next)

/-- Reads one token that begins with `c`. -/
def step (l : Lexer) (c : Char) : Except YamlError Lexer :=
  let wordEnds := endsWord (l.source.peek? 1)
  if l.source.column = 0 ∧ c = '%' then do
    let (t, s) ← directive l.source
    l.betweenDocuments t s
  else if l.source.isMark '-' then l.betweenDocuments .documentStart (l.source.skip 3)
  else if l.source.isMark '.' then l.betweenDocuments .documentEnd (l.source.skip 3)
  else if c = '[' then l.openFlow .flowSequence
  else if c = '\x7b' then l.openFlow .flowMapping
  else if c = ']' then l.closeFlow .flowSequenceEnd
  else if c = '\x7d' then l.closeFlow .flowMappingEnd
  else if c = ',' then do
    let l ← l.dropKey
    pure ({ l with keyAllowed := true }.pushSkip .comma 1)
  else if c = '-' ∧ wordEnds = true then do
    let l ← l.blockIndicator .blockSequence .entry c
    pure { l with keyAllowed := true }
  else if c = '?' ∧ (l.inFlow || wordEnds) = true then do
    let l ← l.blockIndicator .blockMapping .key c
    pure { l with keyAllowed := !l.inFlow }
  else if c = ':' ∧ (l.inFlow || wordEnds) = true then l.valueIndicator
  else if c = '*' then
    l.content fun s => (anchorName s).map fun (name, s) => (.alias name, s)
  else if c = '&' then
    l.content fun s => (anchorName s).map fun (name, s) => (.anchor name, s)
  else if c = '!' then do
    let l ← l.content tag
    if endsWord l.source.front? || (l.inFlow && l.source.front? == some ',') then pure l
    else throw .badTag
  else if c = '|' ∧ l.inFlow = false then l.blockScalar false
  else if c = '>' ∧ l.inFlow = false then l.blockScalar true
  else if c = '\'' ∨ c = '"' then
    l.content fun s => (quoted c s).map fun (text, s) => (.scalar false (String.ofList text), s)
  else if l.beginsPlain c then l.plainScalar
  else throw (.strayCharacter c)

/-- Reads all tokens; every step takes a character. -/
def run : Nat → Lexer → Except YamlError (List Token)
  | 0, l => .ok l.tokens
  | fuel + 1, l =>
    let l := l.skipWhite (l.source.rest.length + 1)
    match l.source.front? with
    | none => do
      let l ← (l.closeBlocks 0).dropKey
      pure l.tokens
    | some c => do
      let l ← (l.closeBlocks (l.source.column + 1)).step c
      run fuel l

end Lexer

/-- The tokens of a text. -/
def tokens (text : String) : Except YamlError (List Token) :=
  if text.toList.all isAllowed then Lexer.run (text.length + 1) (.start text)
  else .error .controlCharacter

end Dfs.Yaml
