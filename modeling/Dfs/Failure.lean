import Dfs.Config.Basic
import Dfs.Disk.Fault

/-!
Failures of commands: what a user reads when a command does not succeed. A failure
has a cause at its bottom and, around it, what was being done at the time.
-/

namespace Dfs

/-- What a command was doing when it failed. -/
inductive Task where
  | readPath (text : String)
  | list (p : Path)
  | describe (p : Path)
  | create (p : Path)
  | locate (p : Path)
  | read (p : Path)
  | write (p : Path)
  | delete (p : Path)
  | convertOffset
  | convertLength
  | readAddress (text : String)
  | readConfig (file : String)
  | parseConfig
  | startNaming
  | startStorage (root : HostPath)
  deriving DecidableEq, Repr

/-- The environment variable with the address of the naming service. -/
def namingVariable : String := "DFS_NAMING"

def Task.text : Task → String
  | .readPath text => s!"Invalid path: {text}"
  | .list p => s!"Cannot list {p}"
  | .describe p => s!"Cannot stat {p}"
  | .create p => s!"Cannot create {p}"
  | .locate p => s!"Cannot locate {p}"
  | .read p => s!"Cannot read {p}"
  | .write p => s!"Cannot write {p}"
  | .delete p => s!"Cannot delete {p}"
  | .convertOffset => "offset is too large"
  | .convertLength => "length is too large"
  | .readAddress text => s!"{namingVariable}={text} is not a socket address"
  | .readConfig file => s!"Failed to read config file: {file}"
  | .parseConfig => "Failed to parse YAML configuration"
  | .startNaming => "Failed to start naming service"
  | .startStorage root => s!"Failed to start storage node for {root.display}"

inductive Failure where
  /-- An error of a path, or of a call. -/
  | error (e : Error)
  /-- An error of the host that the command runs on. -/
  | host (fault : Fault)
  | config (e : ConfigError)
  /-- The text of a configuration cannot be read as one. -/
  | malformedConfig (reason : String)
  | notText
  | notAddress
  /-- A number is beyond those that a request can hold. -/
  | outOfRange
  /-- A directory that is needed is a file. -/
  | occupied (p : Path)
  /-- What was to be created is there already; the text is that of its path. -/
  | alreadyExists (text : String)
  | rootStays
  /-- A deleted path lives on in the files of a storage node. -/
  | copyStays (p : Path)
  | noRoot
  | during (task : Task) (cause : Failure)
  deriving DecidableEq, Repr

namespace Failure

/-- The texts of a failure, outermost first. -/
def chain : Failure → List String
  | .error e => [e.text]
  | .host fault => [fault.text]
  | .config e => [e.message]
  | .malformedConfig reason => [reason]
  | .notText => ["stream did not contain valid UTF-8"]
  | .notAddress => ["invalid socket address syntax"]
  | .outOfRange => ["number too large to fit in target type"]
  | .occupied p => [s!"{p} exists and is a file"]
  | .alreadyExists text => [s!"{text} already exists"]
  | .rootStays => ["Refusing to delete the root directory"]
  | .copyStays p => [s!"{p} was removed from the namespace but a storage node kept its copy"]
  | .noRoot => ["A storage root is required (--root or storage.root)"]
  | .during task cause => task.text :: cause.chain

/-- The whole failure on one line. -/
def text (f : Failure) : String := ": ".intercalate f.chain

/-! ### As printed at the end of a program -/

/-- Indents the lines of a text by `width` blanks, the first by `first` instead. -/
def indented (first width : String) (text : String) : String :=
  first ++ ("\n" ++ width).intercalate (text.splitOn "\n")

/-- A number and its colon, in a column of five characters. -/
def numbered (n : Nat) : String :=
  let digits := toString n
  String.ofList (List.replicate (5 - digits.length) ' ') ++ digits ++ ": "

/-- The causes, one below the other; they are numbered if there is more than one. -/
def causesText : List String → String
  | [cause] => "\n" ++ indented "    " "    " cause
  | causes => "".intercalate (causes.mapIdx fun n cause =>
      "\n" ++ indented (numbered n) "       " cause)

/-- What is written to the error output. -/
def report (f : Failure) : String :=
  match f.chain with
  | [] => "Error: \n"
  | [outer] => s!"Error: {outer}\n"
  | outer :: causes => s!"Error: {outer}\n\nCaused by:{causesText causes}\n"

end Failure

end Dfs
