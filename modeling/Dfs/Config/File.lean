import Dfs.Address.Parser
import Dfs.Disk.Operations
import Dfs.Failure
import Dfs.Yaml.Node

/-!
Configuration files: YAML mappings whose keys are the fields of the configuration.
What is left out has its default value. A file with an unknown key, a repeated key
or a malformed value is refused as a whole.
-/

namespace Dfs

namespace Yaml

/-! ### Values of fields -/

namespace Node

/-- The text of a scalar, however it is written. -/
def text? : Node → Option String
  | .scalar _ _ text => some text
  | _ => none

def isNullText (text : String) : Bool := ["null", "Null", "NULL", "~"].contains text

def nullTag : String := "tag:yaml.org,2002:null"

/-- Reads a value that may be null: a plain scalar that says so or that is left out.
A scalar with the tag of null has to say so, and any other tag makes it a text. -/
def optional? {α : Type} (read : String → Option α) : Node → Option (Option α)
  | .scalar tag true text =>
    match tag with
    | none => if text = "" ∨ isNullText text = true then some none else (read text).map some
    | some tag =>
      if tag = nullTag then (if isNullText text then some none else none)
      else (read text).map some
  | node => (node.text?.bind read).map some

def address? (node : Node) : Option Address := node.text?.bind Address.parse?

end Node

/-- The pairs of a mapping with their keys as texts. A node that is left out is a
mapping without pairs. -/
def Document.fields (d : Document) : Node → Except YamlError (List (String × Node))
  | .scalar _ isPlain text =>
    if isPlain = true ∧ text = "" then .ok [] else .error (.unexpectedKind "a mapping")
  | .mapping pairs => pairs.mapM fun (key, value) =>
    match (d.follow key).text? with
    | some key => .ok (key, d.follow value)
    | none => .error (.unexpectedKind "a key")
  | _ => .error (.unexpectedKind "a mapping")

/-- Reads a mapping field by field into a value that starts out as `start`. `read`
takes a value for a key, unless the key is unknown. -/
def Document.record {α : Type} (d : Document) (start : α)
    (read : String → Option (Node → α → Except YamlError α)) (node : Node) :
    Except YamlError α := do
  let fields ← d.fields node
  let (_, result) ← fields.foldlM (fun (seen, result) (key, value) =>
    match read key with
    | none => .error (.unknownKey key)
    | some set =>
      if seen.contains key then .error (.repeatedKey key)
      else (set value result).map fun result => (key :: seen, result)) (([] : List String), start)
  pure result

/-- The value of a field, unless it cannot be read. -/
def required {α : Type} (key : String) : Option α → Except YamlError α
  | some a => .ok a
  | none => .error (.badValue key)

end Yaml

open Yaml

namespace NamingConfig

def field? (key : String) : Option (Node → NamingConfig → Except YamlError NamingConfig) :=
  match key with
  | "service" => some fun node c => do pure { c with service := ← required key node.address? }
  | "registration" => some fun node c => do
    pure { c with registration := ← required key node.address? }
  | _ => none

def ofNode (d : Document) (node : Node) : Except YamlError NamingConfig := d.record {} field? node

end NamingConfig

namespace StorageConfig

def field? (key : String) : Option (Node → StorageConfig → Except YamlError StorageConfig) :=
  match key with
  | "root" => some fun node c => do
    pure { c with root := ← required key (node.optional? fun text => some (.ofString text)) }
  | "naming" => some fun node c => do pure { c with naming := ← required key node.address? }
  | "advertise" => some fun node c => do
    pure { c with advertise := ← required key (node.optional? Ip.parse?) }
  | "storage_bind" => some fun node c => do
    pure { c with storageBind := ← required key node.address? }
  | "command_bind" => some fun node c => do
    pure { c with commandBind := ← required key node.address? }
  | _ => none

def ofNode (d : Document) (node : Node) : Except YamlError StorageConfig := d.record {} field? node

end StorageConfig

namespace Config

def field? (d : Document) (key : String) : Option (Node → Config → Except YamlError Config) :=
  match key with
  | "naming" => some fun node c => do pure { c with naming := ← NamingConfig.ofNode d node }
  | "storage" => some fun node c => do pure { c with storage := ← StorageConfig.ofNode d node }
  | _ => none

def ofDocument (d : Document) : Except YamlError Config := d.record {} (field? d) d.root

/-- Reads the text of a configuration. A text without any document is the default
configuration. -/
def ofYaml (text : String) : Except YamlError Config :=
  match Yaml.documents text with
  | .error e => .error e
  | .ok [] => .ok {}
  | .ok [document] => ofDocument document
  | .ok _ => .error .severalDocuments

/-- The failure to accept a configuration. -/
def checked (c : Config) : Except Failure Config :=
  match c.validate with
  | .error e => .error (.config e)
  | .ok () => .ok c

/-- Reads and checks a configuration file on a disk. -/
def load (disk : Disk) (file : HostPath) : Except Failure Config :=
  let task := Task.readConfig file.display
  match disk.readFile file with
  | .error fault => .error (.during task (.host fault))
  | .ok content =>
    match Utf8.decode? content.toList with
    | none => .error (.during task .notText)
    | some text =>
      match ofYaml text with
      | .error e => .error (.during .parseConfig (.malformedConfig e.message))
      | .ok c => c.checked

end Config

end Dfs
