import Dfs.Client.Commands
import Dfs.Cluster.Serving
import Dfs.CommandLine.Action
import Dfs.Config.File

/-!
Running the program: from a command line to what is printed and the code that the
program ends with. Services end when they are interrupted, which is here as soon as
they have started.
-/

namespace Dfs.CommandLine

/-- What the program finds when it starts. -/
structure Invocation where
  /-- The host that it runs on, whose disk holds its files. -/
  host : Nat
  /-- The address of the naming service in the environment. -/
  naming : Option String
  input : List UInt8
  words : List String

/-- How the program ends. -/
structure Exit where
  code : Nat
  output : List UInt8
  errors : String
  deriving DecidableEq, Repr

def versionText : String := "dfs 0.1.0\n"

def helpText : String := "Usage: dfs [OPTIONS] <COMMAND>\n\nCommands:\n" ++
  "".intercalate (commands.map fun c => s!"  {c.1}\n")

def Exit.ofText (text : String) : Exit := ⟨0, Utf8.encode text, ""⟩

def linesText (lines : List String) : List UInt8 :=
  Utf8.encode ("".intercalate (lines.map (· ++ "\n")))

/-- Runs a command of a client; the result is what it prints. -/
def runClient {σ : Type} (client : Client σ) (input : List UInt8) :
    Action → Command σ (List UInt8)
  | .exists path => do
    let found ← client.pathExists path
    pure (linesText [toString found])
  | .list path => do pure (linesText (← client.list path))
  | .describe path => do pure (linesText [← client.describe path])
  | .makeDirectory path parents => do
    client.makeDirectory path parents
    pure []
  | .touch path => do
    if ← client.touch path then pure [] else throw (.alreadyExists path)
  | .remove path => do
    client.remove path
    pure []
  | .read path offset length => client.read path offset length
  | .write path data offset create => do
    client.write path offset (data.elim input Utf8.encode) create
    pure []
  | .naming _ => pure []
  | .storage _ => pure []

/-- The configuration to use: that in the given file, or the default one. -/
def configOf (c : Cluster) (host : Nat) (file : Option String) : Except Failure Config :=
  match file with
  | none => .ok {}
  | some file => Config.load (c.diskOf host) (.ofString file)

/-- Runs an action. The result is what it prints. -/
def perform (i : Invocation) (globals : Globals) (action : Action) (c : Cluster) :
    Except Failure (List UInt8) × Cluster :=
  match configOf c i.host globals.config with
  | .error e => (.error e, c)
  | .ok config =>
    match action with
    | .naming flags =>
      match ({ config with naming := flags.merge config.naming } : Config).checked with
      | .error e => (.error e, c)
      | .ok config => ((c.serveNaming config.naming).map fun _ => [], c)
    | .storage flags =>
      match ({ config with storage := flags.merge config.storage } : Config).checked with
      | .error e => (.error e, c)
      | .ok config =>
        let (result, c) := c.serveStorage i.host config.storage
        (result.map fun _ => [], c)
    | action =>
      match Client.namingAddress globals.naming i.naming with
      | .error e => (.error e, c)
      | .ok naming => (runClient ⟨Cluster.call, naming⟩ i.input action).run c

/-- Runs the program. Misuse ends it with code 2, and a failure with code 1. -/
def run (i : Invocation) (c : Cluster) : Exit × Cluster :=
  match parse i.words with
  | .error e => (⟨2, [], s!"error: {e.message}\n"⟩, c)
  | .ok .help => (.ofText helpText, c)
  | .ok .version => (.ofText versionText, c)
  | .ok (.run globals action) =>
    match perform i globals action c with
    | (.error e, c) => (⟨1, [], e.report⟩, c)
    | (.ok output, c) => (⟨0, output, ""⟩, c)

end Dfs.CommandLine
