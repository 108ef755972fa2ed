import Dfs.CommandLine.Words
import Dfs.Config.Basic

/-!
What a command line asks for: one of the commands, with what it needs, or help or
the version of the program. Some switches are the same for all commands, and may
come before the name of the command or after it.
-/

namespace Dfs.CommandLine

/-- The switches of all commands. -/
structure Globals where
  verbose : Bool
  config : Option String
  naming : Option Address
  deriving Repr

/-- What is given in place of the configuration of a naming service. -/
structure NamingFlags where
  service : Option Address
  registration : Option Address
  deriving Repr

/-- What is given in place of the configuration of a storage node. -/
structure StorageFlags where
  root : Option HostPath
  registration : Option Address
  advertise : Option Ip
  storageBind : Option Address
  commandBind : Option Address
  deriving Repr

inductive Action where
  | naming (flags : NamingFlags)
  | storage (flags : StorageFlags)
  | exists (path : String)
  | list (path : String)
  | describe (path : String)
  | makeDirectory (path : String) (parents : Bool)
  | touch (path : String)
  | remove (path : String)
  | read (path : String) (offset : UInt64) (length : Option UInt64)
  /-- Without data, the standard input is written. -/
  | write (path : String) (data : Option String) (offset : UInt64) (create : Bool)
  deriving Repr

inductive Asked where
  | help
  | version
  | run (globals : Globals) (action : Action)
  deriving Repr

/-! ### Merging with a configuration -/

/-- A configuration with each field replaced by the flag that is given for it. -/
def NamingFlags.merge (flags : NamingFlags) (c : NamingConfig) : NamingConfig where
  service := flags.service.getD c.service
  registration := flags.registration.getD c.registration

def StorageFlags.merge (flags : StorageFlags) (c : StorageConfig) : StorageConfig where
  root := flags.root <|> c.root
  naming := flags.registration.getD c.naming
  advertise := flags.advertise <|> c.advertise
  storageBind := flags.storageBind.getD c.storageBind
  commandBind := flags.commandBind.getD c.commandBind

/-! ### Grammars -/

def globalSwitches : List Switch :=
  [.flag "verbose" 'v', .valued "config" .file, .valued "naming" .address]

/-- The name of each command, its switches, and how many plain words it takes. -/
def commands : List (String × List Switch × Nat × Nat) :=
  [("naming", [.valued "service" .address, .valued "registration" .address], 0, 0),
    ("storage",
      [.valued "root" .file, .valued "registration" .address, .valued "advertise" .ip,
        .valued "storage-bind" .address, .valued "command-bind" .address], 0, 0),
    ("exists", [], 1, 1),
    ("ls", [], 0, 1),
    ("stat", [], 1, 1),
    ("mkdir", [.flag "parents" 'p'], 1, 1),
    ("touch", [], 1, 1),
    ("rm", [], 1, 1),
    ("cat", [.valued "offset" .number, .valued "length" .number], 1, 1),
    ("write", [.valued "offset" .number, .flag "create" 'c'], 1, 2),
    ("help", [], 0, 1)]

/-- The words before the name of the command. -/
def outerGrammar : Grammar := ⟨globalSwitches, 1, 0, commands.map Prod.fst⟩

/-- The words after the name of the command. -/
def grammarOf? (command : String) : Option Grammar :=
  (commands.find? fun c => c.1 == command).map fun (_, switches, least, most) =>
    ⟨switches ++ globalSwitches, least, most, []⟩

/-! ### Reading -/

def Globals.ofFound (found : Found) : Globals :=
  ⟨found.flag "verbose", found.value? "config", found.address? "naming"⟩

/-- What is given after the name of the command counts more than what is given
before it. -/
def Globals.override (outer inner : Globals) : Globals where
  verbose := outer.verbose || inner.verbose
  config := inner.config <|> outer.config
  naming := inner.naming <|> outer.naming

/-- The action of a command, from what was found after its name. -/
def Action.ofFound? (command : String) (found : Found) : Option Action :=
  match command, found.words with
  | "naming", [] => some (.naming ⟨found.address? "service", found.address? "registration"⟩)
  | "storage", [] =>
    some (.storage
      { root := (found.value? "root").map .ofString
        registration := found.address? "registration"
        advertise := found.ip? "advertise"
        storageBind := found.address? "storage-bind"
        commandBind := found.address? "command-bind" })
  | "exists", [path] => some (.exists path)
  | "ls", [] => some (.list "/")
  | "ls", [path] => some (.list path)
  | "stat", [path] => some (.describe path)
  | "mkdir", [path] => some (.makeDirectory path (found.flag "parents"))
  | "touch", [path] => some (.touch path)
  | "rm", [path] => some (.remove path)
  | "cat", [path] => some (.read path ((found.number? "offset").getD 0) (found.number? "length"))
  | "write", [path] =>
    some (.write path none ((found.number? "offset").getD 0) (found.flag "create"))
  | "write", [path, data] =>
    some (.write path (some data) ((found.number? "offset").getD 0) (found.flag "create"))
  | _, _ => none

/-- A request for help about a command, or about the program. -/
def helpAbout (words : List String) : Except Misuse Asked :=
  match words with
  | [] => .ok .help
  | [word] =>
    if (commands.map Prod.fst).contains word then .ok .help else .error (.unknownCommand word)
  | word :: _ => .error (.unknownCommand word)

/-- Reads the words after the name of a command. -/
def parseCommand (outer : Globals) (command : String) (words : List String) :
    Except Misuse Asked :=
  if command = "help" then helpAbout words
  else match grammarOf? command with
    | none => .error (.unknownCommand command)
    | some g =>
      match g.parse words with
      | .error e => .error e
      | .ok (.finished, found) =>
        match Action.ofFound? command found with
        | some action => .ok (.run (outer.override (.ofFound found)) action)
        | none => .error .tooFewWords
      | .ok _ => .ok .help

/-- Reads a command line. -/
def parse (words : List String) : Except Misuse Asked :=
  match outerGrammar.parse words with
  | .error e => .error e
  | .ok (.flag name, _) => .ok (if name = "version" then .version else .help)
  | .ok (.command name rest, found) => parseCommand (.ofFound found) name rest
  | .ok (.finished, _) => .error .tooFewWords

end Dfs.CommandLine
