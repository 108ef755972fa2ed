import Dfs.Yaml.Source

/-!
Scalars of YAML in their three forms: plain words, quoted text, and blocks of lines.
In the first two, white space with a line break in it counts as one blank, and a
further line break in it as itself.
-/

namespace Dfs.Yaml

/-! ### White space inside a scalar -/

/-- White space between two words. -/
structure Gap where
  /-- The blanks before the first line break. -/
  blanks : List Char
  /-- The first line break; one that was escaped is empty. -/
  lineBreak : Option (List Char)
  /-- Further line breaks. -/
  breaks : List Char
  deriving Repr

namespace Gap

def none : Gap := ⟨[], Option.none, []⟩

/-- What the gap comes to in the text of the scalar. -/
def text (g : Gap) : List Char :=
  match g.lineBreak with
  | Option.none => g.blanks
  | some first =>
    if first = ['\n'] then (if g.breaks = [] then [' '] else g.breaks) else first ++ g.breaks

/-- Takes white space. After a line break, no tab may stand left of the column
`margin`. Every step takes a character. -/
def takeWith (margin : Nat) : Nat → Gap → Source → Except YamlError (Gap × Source)
  | 0, g, s => .ok (g, s)
  | fuel + 1, g, s =>
    match s.front? with
    | Option.none => .ok (g, s)
    | some c =>
      if isBlank c then
        match g.lineBreak with
        | Option.none => takeWith margin fuel { g with blanks := g.blanks ++ [c] } (s.skip 1)
        | some _ =>
          if c = '\t' ∧ s.column < margin then .error .tabIndentation
          else takeWith margin fuel g (s.skip 1)
      else if isBreak c then
        let (text, s) := s.takeBreak
        match g.lineBreak with
        | Option.none => takeWith margin fuel { g with lineBreak := some text } s
        | some _ => takeWith margin fuel { g with breaks := g.breaks ++ text } s
      else .ok (g, s)

def take (margin : Nat) (g : Gap) (s : Source) : Except YamlError (Gap × Source) :=
  takeWith margin s.rest.length g s

end Gap

/-! ### Plain scalars -/

/-- A word of a plain scalar: it ends at white space, at a colon that is the last
character of its word, and in a flow collection at an indicator. -/
def plainWord (inFlow : Bool) : List Char → Except YamlError (List Char)
  | [] => .ok []
  | c :: rest =>
    if isBlank c || isBreak c then .ok []
    else if inFlow && c == ':' && rest.head?.any (fun d => d == '?' || isFlowIndicator d) then
      .error (.misplaced ':')
    else if (c == ':' && endsWord rest.head?) || (inFlow && isFlowIndicator c) then .ok []
    else (plainWord inFlow rest).map (c :: ·)

/-- The text of a plain scalar, and whether a line break follows it. -/
structure Plain where
  text : List Char
  endsLine : Bool
  deriving Repr

/-- Reads words and the gaps between them. Lines that go on in a column left of
`margin` do not belong to the scalar, unless it is in a flow collection. -/
def plainWith (margin : Nat) (inFlow : Bool) : Nat → List Char → Gap → Source →
    Except YamlError (Plain × Source)
  | 0, text, gap, s => .ok (⟨text, gap.lineBreak.isSome⟩, s)
  | fuel + 1, text, gap, s =>
    if s.atDocumentMark || s.front? == some '#' then .ok (⟨text, gap.lineBreak.isSome⟩, s)
    else do
      let word ← plainWord inFlow s.rest
      let s := s.skip word.length
      let (text, gap) := if word = [] then (text, gap) else (text ++ gap.text ++ word, Gap.none)
      if endsWord s.front? && s.front?.isSome then
        let (gap, s) ← gap.take margin s
        if !inFlow && s.column < margin then pure (⟨text, gap.lineBreak.isSome⟩, s)
        else plainWith margin inFlow fuel text gap s
      else pure (⟨text, gap.lineBreak.isSome⟩, s)

def plain (margin : Nat) (inFlow : Bool) (s : Source) : Except YamlError (Plain × Source) :=
  plainWith margin inFlow s.rest.length [] .none s

/-! ### Quoted scalars -/

/-- What a character after a backslash stands for by itself. -/
def simpleEscape? (c : Char) : Option Char :=
  match c with
  | '0' => some '\x00'
  | 'a' => some '\x07'
  | 'b' => some '\x08'
  | 't' => some '\t'
  | '\t' => some '\t'
  | 'n' => some '\n'
  | 'v' => some '\x0B'
  | 'f' => some '\x0C'
  | 'r' => some '\r'
  | 'e' => some '\x1B'
  | ' ' => some ' '
  | '"' => some '"'
  | '/' => some '/'
  | '\\' => some '\\'
  | 'N' => some '\u0085'
  | '_' => some '\u00A0'
  | 'L' => some '\u2028'
  | 'P' => some '\u2029'
  | _ => none

/-- The number of digits after an escape that gives a character by its number. -/
def escapeDigits? (c : Char) : Option Nat :=
  match c with
  | 'x' => some 2
  | 'u' => some 4
  | 'U' => some 8
  | _ => none

def hexDigit? (c : Char) : Option Nat :=
  if '0' ≤ c ∧ c ≤ '9' then some (c.toNat - '0'.toNat)
  else if 'a' ≤ c ∧ c ≤ 'f' then some (c.toNat - 'a'.toNat + 10)
  else if 'A' ≤ c ∧ c ≤ 'F' then some (c.toNat - 'A'.toNat + 10)
  else none

/-- The number that hexadecimal digits stand for. -/
def hexNumber? (digits : List Char) : Option Nat :=
  digits.foldlM (fun n c => (hexDigit? c).map (n * 16 + ·)) 0

/-- Reads an escape after its backslash. -/
def escape (s : Source) : Except YamlError (Char × Source) :=
  match s.front? with
  | none => .error .unknownEscape
  | some c =>
    match simpleEscape? c, escapeDigits? c with
    | some d, _ => .ok (d, s.skip 1)
    | none, none => .error .unknownEscape
    | none, some count =>
      let digits := (s.skip 1).rest.take count
      match if digits.length = count then hexNumber? digits else none with
      | none => .error .notHexadecimal
      | some n =>
        if n.isValidChar then .ok (Char.ofNat n, s.skip (count + 1)) else .error .notACharacter

/-- Reads a quoted scalar after its opening quote; `text` is what was read so far,
last character first. Every step takes a character. -/
def quotedWith (quote : Char) : Nat → List Char → Source → Except YamlError (List Char × Source)
  | 0, _, _ => .error .unclosedQuote
  | fuel + 1, text, s =>
    if s.atDocumentMark then .error .unclosedQuote
    else match s.rest with
      | [] => .error .unclosedQuote
      | c :: rest =>
        if isBlank c || isBreak c then do
          let (gap, s) ← Gap.none.take 0 s
          quotedWith quote fuel (gap.text.reverse ++ text) s
        else if c = quote then
          if quote = '\'' ∧ rest.head? = some '\'' then
            quotedWith quote fuel ('\'' :: text) (s.skip 2)
          else .ok (text.reverse, s.skip 1)
        else if c = '\\' ∧ quote = '"' then
          if (s.skip 1).atBreak then do
            let (gap, s) ← Gap.take 0 ⟨[], some [], []⟩ (s.skip 1).takeBreak.2
            quotedWith quote fuel (gap.text.reverse ++ text) s
          else do
            let (d, s) ← escape (s.skip 1)
            quotedWith quote fuel (d :: text) s
        else quotedWith quote fuel (c :: text) (s.skip 1)

def quoted (quote : Char) (s : Source) : Except YamlError (List Char × Source) :=
  quotedWith quote (s.rest.length + 1) [] (s.skip 1)

/-! ### Blocks of lines -/

/-- What becomes of the line breaks at the end of a block. -/
inductive Chomping where
  | strip
  | clip
  | keep
  deriving DecidableEq, Repr

/-- What the first line of a block says about it. -/
structure BlockHeader where
  chomping : Chomping
  /-- The indentation relative to the surrounding block, if it is given. -/
  indentation : Option Nat
  deriving Repr

def chomping? (c : Option Char) : Option Chomping :=
  match c with
  | some '+' => some .keep
  | some '-' => some .strip
  | _ => none

/-- The digit of an indentation; zero is refused. -/
def indentation? (c : Option Char) : Except YamlError (Option Nat) :=
  match c with
  | some c =>
    if c = '0' then .error .badBlockHeader
    else if c.isDigit then .ok (some (c.toNat - '0'.toNat)) else .ok none
  | none => .ok none

/-- Reads the indicators after `|` or `>`: one for the end and one for the
indentation, in either order. -/
def blockIndicators (s : Source) : Except YamlError (BlockHeader × Source) := do
  match chomping? s.front? with
  | some chomping =>
    match ← indentation? (s.peek? 1) with
    | some n => pure (⟨chomping, some n⟩, s.skip 2)
    | none => pure (⟨chomping, none⟩, s.skip 1)
  | none =>
    match ← indentation? s.front? with
    | none => pure (⟨.clip, none⟩, s)
    | some n =>
      match chomping? (s.peek? 1) with
      | some chomping => pure (⟨chomping, some n⟩, s.skip 2)
      | none => pure (⟨.clip, some n⟩, s.skip 1)

/-- Reads the whole first line. -/
def blockHeader (s : Source) : Except YamlError (BlockHeader × Source) := do
  let (header, s) ← blockIndicators (s.skip 1)
  let s := (s.skipWhile isBlank).skipComment
  if s.front?.isNone || s.atBreak then pure (header, s.takeBreak.2) else .error .badBlockHeader

/-- Takes empty lines and the indentation of the line after them, which ends in the
column `indent`, or wherever its blanks end if that is not known yet. `widest` is
the longest indentation so far. -/
def blockBreaksWith (indent : Option Nat) : Nat → Nat → List Char → Source →
    Except YamlError (Nat × List Char × Source)
  | 0, widest, breaks, s => .ok (widest, breaks, s)
  | fuel + 1, widest, breaks, s =>
    let spaces := (s.rest.takeWhile (· == ' ')).length
    let s := s.skip (indent.elim spaces fun n => min spaces (n - s.column))
    let widest := max widest s.column
    if s.front? == some '\t' && indent.all (s.column < ·) then .error .tabIndentation
    else if s.atBreak then
      let (text, s) := s.takeBreak
      blockBreaksWith indent fuel widest (breaks ++ text) s
    else .ok (widest, breaks, s)

def blockBreaks (indent : Option Nat) (s : Source) : Except YamlError (Nat × List Char × Source) :=
  blockBreaksWith indent (s.rest.length + 1) 0 [] s

/-- The part of a block that has been read. -/
structure Block where
  text : List Char
  /-- The line break of the last line. -/
  lineBreak : List Char
  /-- The empty lines after it. -/
  breaks : List Char
  /-- The last line begins with a blank. -/
  blank : Bool
  deriving Repr

/-- The text up to a further line, which begins with a blank or not. In a folded
block the break between two lines that begin with words counts as a blank. -/
def Block.join (folded : Bool) (b : Block) (nextBlank : Bool) : List Char :=
  if folded && b.lineBreak == ['\n'] && !b.blank && !nextBlank then
    b.text ++ (if b.breaks = [] then [' '] else b.breaks)
  else b.text ++ b.lineBreak ++ b.breaks

/-- Reads the lines that begin in the column `indent`. -/
def blockLines (folded : Bool) (indent : Nat) : Nat → Block → Source →
    Except YamlError (Block × Source)
  | 0, b, s => .ok (b, s)
  | fuel + 1, b, s =>
    if s.column = indent ∧ s.front?.isSome = true then do
      let blank := s.front?.any isBlank
      let (line, s) := s.takeWhile (!isBreak ·)
      let (lineBreak, s) := s.takeBreak
      let (_, breaks, s) ← blockBreaks (some indent) s
      blockLines folded indent fuel ⟨b.join folded blank ++ line, lineBreak, breaks, blank⟩ s
    else .ok (b, s)

def Block.finish (chomping : Chomping) (b : Block) : List Char :=
  match chomping with
  | .strip => b.text
  | .clip => b.text ++ b.lineBreak
  | .keep => b.text ++ b.lineBreak ++ b.breaks

/-- Reads a block of lines inside a block collection that ends left of the column
`margin`. -/
def block (folded : Bool) (margin : Nat) (s : Source) : Except YamlError (List Char × Source) := do
  let (header, s) ← blockHeader s
  let given := header.indentation.map (margin - 1 + ·)
  let (widest, breaks, s) ← blockBreaks given s
  let indent := given.getD (max (max widest margin) 1)
  let (b, s) ← blockLines folded indent (s.rest.length + 1) ⟨[], [], breaks, false⟩ s
  pure (b.finish header.chomping, s)

end Dfs.Yaml
