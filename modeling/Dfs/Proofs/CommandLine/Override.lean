import Dfs.CommandLine.Run
import Dfs.Proofs.Text.Utf8

/-!
Flags of the commands that run a service. A service runs with the configuration of the file in
which each field is replaced by the flag that is given for it, if that is valid and the file
alone is (`flags_override_valid_file`). A flag is then as good as a line of the file. But the
file is checked before the flags are looked at, so a flag does not mend what is wrong in the
file (`flags_override_refused`).
-/

namespace Dfs

/-! ### The configuration to start from -/

namespace Config

/-- The text of a file is that of a configuration, be it one that cannot be used. -/
def Holds (disk : Disk) (file : HostPath) (config : Config) : Prop :=
  ∃ content text, disk.readFile file = .ok content ∧
    Utf8.decode? content.toList = some text ∧ ofYaml text = .ok config

theorem load_of_holds {disk : Disk} {file : HostPath} {config : Config}
    (holds : Holds disk file config) : load disk file = config.checked := by
  obtain ⟨content, text, read, decoded, parsed⟩ := holds
  unfold load
  dsimp only
  rw [read]
  dsimp only
  rw [decoded]
  dsimp only
  rw [parsed]

theorem holds_of_text {disk : Disk} {file : HostPath} {text : String} {config : Config}
    (read : disk.readFile file = .ok (.ofBytes (Utf8.encode text)))
    (parsed : (ofYaml text).toOption = some config) : Holds disk file config := by
  refine ⟨_, text, read, ?_, ?_⟩
  · simp [Content.ofBytes, Content.toList, Run.toList]
  · cases made : ofYaml text with
    | error e =>
        rw [made] at parsed
        cases parsed
    | ok config' =>
        rw [made] at parsed
        rw [Option.some.inj parsed]

theorem checked_of_valid {config : Config} (valid : config.validate = .ok ()) :
    config.checked = .ok config := by
  rw [checked, valid]

theorem checked_of_refused {config : Config} {e : ConfigError}
    (refused : config.validate = .error e) : config.checked = .error (.config e) := by
  rw [checked, refused]

end Config

namespace CommandLine

/-- The configuration that a command starts from, given the file it is told to read. -/
inductive Provided (c : Cluster) (host : Nat) : Option String → Config → Prop where
  | default : Provided c host none {}
  | file {name : String} {config : Config} :
      Config.Holds (c.diskOf host) (.ofString name) config → Provided c host (some name) config

variable {c : Cluster} {host : Nat} {config : Config} {e : ConfigError}

/-- A configuration is checked as it is read. -/
theorem configOf_of_provided {file : Option String} (provided : Provided c host file config) :
    configOf c host file = config.checked := by
  cases provided with
  | default => rfl
  | file holds => exact Config.load_of_holds holds

/-! ### Services -/

/-- The commands that run a service. -/
inductive Action.IsService : Action → Prop where
  | naming (flags : NamingFlags) : IsService (.naming flags)
  | storage (flags : StorageFlags) : IsService (.storage flags)

/-- A configuration with the flags of a service put over it. -/
def Action.override : Action → Config → Config
  | .naming flags, config => { config with naming := flags.merge config.naming }
  | .storage flags, config => { config with storage := flags.merge config.storage }
  | _, config => config

/-- The same command without any flag. -/
def Action.bare : Action → Action
  | .naming _ => .naming ⟨none, none⟩
  | .storage _ => .storage ⟨none, none, none, none, none⟩
  | action => action

/-- Runs the service itself. -/
def Action.serve (action : Action) (host : Nat) (config : Config) (c : Cluster) :
    Except Failure (List UInt8) × Cluster :=
  match action with
  | .naming _ => ((c.serveNaming config.naming).map fun _ => [], c)
  | .storage _ =>
    ((c.serveStorage host config.storage).1.map fun _ => [],
      (c.serveStorage host config.storage).2)
  | _ => (.ok [], c)

theorem Action.IsService.bare {action : Action} (service : action.IsService) :
    action.bare.IsService := by
  cases service with
  | naming => exact .naming _
  | storage => exact .storage _

theorem Action.override_bare (action : Action) (config : Config) :
    action.bare.override config = config := by
  cases action <;> rfl

theorem Action.serve_bare (action : Action) (host : Nat) (config : Config) (c : Cluster) :
    action.bare.serve host config c = action.serve host config c := by
  cases action <;> rfl

/-- Whatever befalls a service, it is not that its configuration is refused. -/
theorem Action.serve_ne_refused (action : Action) :
    (action.serve host config c).1 ≠ .error (.config e) := by
  cases action with
  | naming flags =>
      unfold serve Cluster.serveNaming
      dsimp only
      split <;> simp [Except.map]
  | storage flags =>
      unfold serve Cluster.serveStorage
      dsimp only
      split
      · simp [Except.map]
      · split <;> simp [Except.map]
  | _ => simp [serve]

variable {i : Invocation} {globals : Globals} {action : Action}

theorem perform_of_refused_file (provided : Provided c i.host globals.config config)
    (refused : config.validate = .error e) :
    perform i globals action c = (.error (.config e), c) := by
  unfold perform
  rw [configOf_of_provided provided, Config.checked_of_refused refused]

section Service

variable (service : action.IsService)

include service

/-- The flags are put over a configuration that has been read, and the result is checked. -/
theorem perform_of_config (read : configOf c i.host globals.config = .ok config) :
    perform i globals action c = match (action.override config).checked with
      | .error e => (.error e, c)
      | .ok merged => action.serve i.host merged c := by
  unfold perform
  rw [read]
  cases service with
  | naming flags => rfl
  | storage flags => rfl

variable (provided : Provided c i.host globals.config config) (valid : config.validate = .ok ())

include provided valid

theorem perform_of_refused (refused : (action.override config).validate = .error e) :
    perform i globals action c = (.error (.config e), c) := by
  have read : configOf c i.host globals.config = .ok config := by
    rw [configOf_of_provided provided, Config.checked_of_valid valid]
  rw [perform_of_config service read, Config.checked_of_refused refused]

theorem perform_of_valid (merged : (action.override config).validate = .ok ()) :
    perform i globals action c = action.serve i.host (action.override config) c := by
  have read : configOf c i.host globals.config = .ok config := by
    rw [configOf_of_provided provided, Config.checked_of_valid valid]
  rw [perform_of_config service read, Config.checked_of_valid merged]

/-- With all of it written in a file, no flag is needed. -/
theorem perform_of_written {written : Globals}
    (provided' : Provided c i.host written.config (action.override config)) :
    perform i globals action c = perform i written action.bare c := by
  cases checked : (action.override config).validate with
  | error e =>
      rw [perform_of_refused service provided valid checked,
        perform_of_refused_file provided' checked]
  | ok =>
      have merged : (action.bare.override (action.override config)).validate = .ok () := by
        rw [Action.override_bare, checked]
      rw [perform_of_valid service provided valid checked,
        perform_of_valid service.bare provided' checked merged, Action.override_bare,
        Action.serve_bare]

omit valid in
/-- Only what validation finds wrong, in the file or with the flags, has a service refused. -/
theorem perform_refused_iff :
    (∃ e, (perform i globals action c).1 = .error (.config e)) ↔
      (∃ e, config.validate = .error e) ∨ ∃ e, (action.override config).validate = .error e := by
  cases valid : config.validate with
  | error e =>
      rw [perform_of_refused_file provided valid]
      exact ⟨fun _ => .inl ⟨e, rfl⟩, fun _ => ⟨e, rfl⟩⟩
  | ok =>
      cases merged : (action.override config).validate with
      | error e =>
          rw [perform_of_refused service provided valid merged]
          exact ⟨fun _ => .inr ⟨e, rfl⟩, fun _ => ⟨e, rfl⟩⟩
      | ok =>
          rw [perform_of_valid service provided valid merged]
          constructor
          · rintro ⟨e, refused⟩
            exact absurd refused action.serve_ne_refused
          · rintro (⟨e, ⟨⟩⟩ | ⟨e, ⟨⟩⟩)

end Service

/-- A service is refused exactly if the configuration of the file or the one with the flags put
over it is refused, that of the file first. If neither is, the service runs with the latter.
As long as the file by itself is valid, the command does what it would do without flags and with
all of it written in a file. -/
theorem flags_override_valid_file (service : action.IsService)
    (provided : Provided c i.host globals.config config) :
    ((∃ e, (perform i globals action c).1 = .error (.config e)) ↔
      (∃ e, config.validate = .error e) ∨ ∃ e, (action.override config).validate = .error e) ∧
    (∀ e, config.validate = .error e → perform i globals action c = (.error (.config e), c)) ∧
    (config.validate = .ok () →
      (∀ e, (action.override config).validate = .error e →
        perform i globals action c = (.error (.config e), c)) ∧
      ((action.override config).validate = .ok () →
        perform i globals action c = action.serve i.host (action.override config) c) ∧
      ∀ written : Globals, Provided c i.host written.config (action.override config) →
        perform i globals action c = perform i written action.bare c) := by
  refine ⟨perform_refused_iff service provided, fun e refused => ?_, fun valid =>
    ⟨fun e refused => ?_, fun merged => ?_, fun written provided' => ?_⟩⟩
  · exact perform_of_refused_file provided refused
  · exact perform_of_refused service provided valid refused
  · exact perform_of_valid service provided valid merged
  · exact perform_of_written service provided valid provided'

/-- A host with one file in the directory that it works in. -/
def besides (file text : String) : Cluster :=
  let found : DiskItem := .file (.ofBytes (Utf8.encode text))
  ⟨.empty, ⟨.connected, []⟩, [(1, { top := [((HostPath.ofString file).bytes, .leaf found)] })], []⟩

/-- The file and the flag are each fine, but not both together. -/
theorem flags_override_valid_file_shared :
    let c := besides "dfs.yaml" "storage:\n  storage_bind: 10.0.0.7:7000\n"
    let i : Invocation := ⟨1, none, [], []⟩
    let globals : Globals := ⟨false, some "dfs.yaml", none⟩
    let a : Address := .v4 ⟨10, 0, 0, 7⟩ 7000
    let config : Config := { storage := { storageBind := a } }
    let action : Action := .storage ⟨none, none, none, none, some a⟩
    action.IsService ∧ Provided c i.host globals.config config ∧ config.validate = .ok () ∧
      perform i globals action c = (.error (.config (.storageShares a)), c) := by
  intro c i globals a config action
  have service : action.IsService := .storage _
  have provided : Provided c i.host globals.config config :=
    .file (Config.holds_of_text rfl (by decide +kernel))
  have valid : config.validate = .ok () := rfl
  obtain ⟨-, -, flags⟩ := flags_override_valid_file service provided
  exact ⟨service, provided, valid, (flags valid).1 _ rfl⟩

/-- The root and the address to advertise that the file lacks are given by flags, and still the
file is refused for lack of the address. -/
theorem flags_override_refused :
    let c := besides "dfs.yaml" "storage:\n  storage_bind: 0.0.0.0:7000\n"
    let i : Invocation := ⟨1, none, [], []⟩
    let globals : Globals := ⟨false, some "dfs.yaml", none⟩
    let config : Config := { storage := { storageBind := .everywhere 7000 } }
    let action : Action := .storage ⟨some ⟨[0x72]⟩, none, some (.v4 ⟨10, 0, 0, 7⟩), none, none⟩
    action.IsService ∧ Provided c i.host globals.config config ∧
      (action.override config).validate = .ok () ∧
      perform i globals action c = (.error (.config .needsAdvertise), c) := by
  intro c i globals config action
  have provided : Provided c i.host globals.config config :=
    .file (Config.holds_of_text rfl (by decide +kernel))
  exact ⟨.storage _, provided, rfl, perform_of_refused_file provided rfl⟩

end CommandLine

end Dfs
