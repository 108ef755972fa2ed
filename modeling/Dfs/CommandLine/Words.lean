import Dfs.Address.Parser

/-!
The words of a command line: switches with and without values, and plain words.

A switch is a word with two dashes; its value follows in the same word after an
equals sign, or else as the next word. Switches without values may also be given by
letters, any number of them behind one dash. After two dashes alone every word is
plain, and a single dash is plain anywhere. Each switch may be given once.
-/

namespace Dfs.CommandLine

/-! ### Values -/

/-- What the value of a switch has to be. -/
inductive ValueKind where
  | address
  | ip
  | number
  | file
  deriving DecidableEq, Repr

/-- A number of at most 64 bits, possibly with a plus sign. -/
def number? (text : String) : Option UInt64 :=
  let digits := match text.toList with
    | '+' :: digits => digits
    | digits => digits
  if digits ≠ [] ∧ digits.all Char.isDigit = true then
    let n := digits.foldl (fun n c => n * 10 + (c.toNat - '0'.toNat)) 0
    if n < UInt64.size then some (UInt64.ofNat n) else none
  else none

def ValueKind.accepts (kind : ValueKind) (text : String) : Bool :=
  match kind with
  | .address => (Address.parse? text).isSome
  | .ip => (Ip.parse? text).isSome
  | .number => (number? text).isSome
  | .file => text != ""

/-! ### Grammars -/

structure Switch where
  name : String
  letter : Option Char
  /-- A switch without a kind of values is given or not. -/
  value : Option ValueKind
  deriving Repr

def Switch.flag (name : String) (letter : Char) : Switch := ⟨name, some letter, none⟩

def Switch.valued (name : String) (kind : ValueKind) : Switch := ⟨name, none, some kind⟩

/-- Which words are understood. -/
structure Grammar where
  switches : List Switch
  /-- The least and the greatest number of plain words. -/
  least : Nat
  most : Nat
  /-- Plain words that begin a command of its own, with the rest of the line. -/
  commands : List String
  deriving Repr

/-- What is wrong with a command line. -/
inductive Misuse where
  | unknownSwitch (word : String)
  | repeated (name : String)
  | missingValue (name : String)
  | unwantedValue (name : String)
  | badValue (name value : String)
  | unknownCommand (word : String)
  | tooManyWords (word : String)
  | tooFewWords
  deriving DecidableEq, Repr

def Misuse.message : Misuse → String
  | .unknownSwitch word => s!"unexpected argument '{word}'"
  | .repeated name => s!"the argument '--{name}' cannot be used multiple times"
  | .missingValue name => s!"a value is required for '--{name}'"
  | .unwantedValue name => s!"'--{name}' takes no value"
  | .badValue name value => s!"invalid value '{value}' for '--{name}'"
  | .unknownCommand word => s!"unrecognized subcommand '{word}'"
  | .tooManyWords word => s!"unexpected argument '{word}'"
  | .tooFewWords => "required arguments were not provided"

/-! ### Reading words -/

/-- What was found in a command line. -/
structure Found where
  flags : List String
  values : List (String × String)
  words : List String
  deriving Repr

namespace Found

def nothing : Found := ⟨[], [], []⟩

def has (found : Found) (name : String) : Bool :=
  found.flags.contains name || found.values.any fun v => v.1 == name

def flag (found : Found) (name : String) : Bool := found.flags.contains name

def value? (found : Found) (name : String) : Option String :=
  (found.values.find? fun v => v.1 == name).map Prod.snd

def address? (found : Found) (name : String) : Option Address :=
  (found.value? name).bind Address.parse?

def ip? (found : Found) (name : String) : Option Ip := (found.value? name).bind Ip.parse?

def number? (found : Found) (name : String) : Option UInt64 :=
  (found.value? name).bind CommandLine.number?

def setFlag (found : Found) (name : String) : Except Misuse Found :=
  if found.has name then .error (.repeated name)
  else .ok { found with flags := found.flags ++ [name] }

def setValue (found : Found) (name : String) (kind : ValueKind) (value : String) :
    Except Misuse Found :=
  if found.has name then .error (.repeated name)
  else if kind.accepts value then .ok { found with values := found.values ++ [(name, value)] }
  else .error (.badValue name value)

end Found

/-- Where reading stops. -/
inductive Stop where
  | finished
  | command (name : String) (rest : List String)
  /-- A flag that asks for help or for the version. -/
  | flag (name : String)
  deriving DecidableEq, Repr

namespace Grammar

/-- The flags that stop the reading of a command line. -/
def stops (g : Grammar) : List Switch :=
  .flag "help" 'h' :: if g.commands = [] then [] else [.flag "version" 'V']

def named (g : Grammar) (name : String) : Option Switch :=
  (g.switches ++ g.stops).find? fun s => s.name == name

def lettered (g : Grammar) (letter : Char) : Option Switch :=
  (g.switches ++ g.stops).find? fun s => s.letter == some letter

def isStop (g : Grammar) (s : Switch) : Bool := g.stops.any fun t => t.name == s.name

/-- Reads the letters behind one dash. -/
def letters (g : Grammar) : List Char → Found → Except Misuse (Stop × Found)
  | [], found => .ok (.finished, found)
  | c :: rest, found =>
    match g.lettered c with
    | none => .error (.unknownSwitch (String.ofList ['-', c]))
    | some s =>
      if g.isStop s then .ok (.flag s.name, found)
      else match found.setFlag s.name with
        | .error e => .error e
        | .ok found => letters g rest found

/-- A word that is no plain word: it has more than one character and begins with a
dash. -/
def isSwitch (word : String) : Bool :=
  match word.toList with
  | '-' :: _ :: _ => true
  | _ => false

/-- A switch as it is written with two dashes: its name, and a value after an equals
sign. -/
def splitSwitch (text : List Char) : String × Option String :=
  let name := text.takeWhile (· != '=')
  match text.dropWhile (· != '=') with
  | [] => (String.ofList name, none)
  | _ :: value => (String.ofList name, some (String.ofList value))

/-- Counts a plain word. -/
def addWord (g : Grammar) (word : String) (found : Found) : Except Misuse Found :=
  if found.words.length < g.most then .ok { found with words := found.words ++ [word] }
  else .error (if g.commands = [] then .tooManyWords word else .unknownCommand word)

/-- Reads words up to one that stops the reading. -/
def read (g : Grammar) : List String → Found → Except Misuse (Stop × Found)
  | [], found => .ok (.finished, found)
  | word :: rest, found =>
    match word.toList with
    | ['-', '-'] => do
      let found ← rest.foldlM (fun found word => g.addWord word found) found
      pure (.finished, found)
    | '-' :: '-' :: text =>
      let (name, attached) := splitSwitch text
      match g.named name with
      | none => .error (.unknownSwitch word)
      | some ⟨name, letter, kind⟩ =>
        match kind, attached, rest with
        | none, some _, _ => .error (.unwantedValue name)
        | none, none, rest =>
          if g.isStop ⟨name, letter, none⟩ then .ok (.flag name, found)
          else do read g rest (← found.setFlag name)
        | some kind, some value, rest => do read g rest (← found.setValue name kind value)
        | some _, none, [] => .error (.missingValue name)
        | some kind, none, value :: rest =>
          if isSwitch value then .error (.missingValue name)
          else do read g rest (← found.setValue name kind value)
    | '-' :: c :: text => do
      match ← g.letters (c :: text) found with
      | (.finished, found) => read g rest found
      | stopped => pure stopped
    | _ =>
      if g.commands.contains word then .ok (.command word rest, found)
      else do read g rest (← g.addWord word found)

/-- Reads a whole command line. -/
def parse (g : Grammar) (words : List String) : Except Misuse (Stop × Found) :=
  match g.read words .nothing with
  | .ok (.finished, found) =>
    if found.words.length < g.least then .error .tooFewWords else .ok (.finished, found)
  | result => result

end Grammar

end Dfs.CommandLine
