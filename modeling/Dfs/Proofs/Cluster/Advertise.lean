import Dfs.Config.Basic
import Dfs.Proofs.Cluster.FailedStart

/-!
What a validated configuration promises about the handle of a node. A node that listens as
its configuration says has a handle that other hosts can use, unless it is told to advertise the
unspecified address, which validation lets pass (`handle_of_unspecified_advertise`). That
is the only way to fail between listening and registering (`handle_of_valid`).
-/

namespace Dfs

/-- An address that other hosts can connect to. -/
def Address.Usable (a : Address) : Prop := a.port ≠ 0 ∧ a.ip.isUnspecified = false

/-! ### Handles -/

namespace Endpoints

variable {e : Endpoints} {a b bound : Address}

theorem reachable_of_specified (specified : (e.advertise.getD bound.ip).isUnspecified = false) :
    e.reachable bound = .ok (.ofIp (e.advertise.getD bound.ip) bound.port) := by
  unfold reachable
  dsimp only
  rw [specified]
  rfl

theorem reachable_of_unspecified (unspecified : (e.advertise.getD bound.ip).isUnspecified = true) :
    e.reachable bound = .error (.invalidArgument
      s!"{bound} is not reachable from other hosts; an advertise address is required") := by
  unfold reachable
  dsimp only
  rw [unspecified]
  rfl

theorem handle_of_specified (first : (e.advertise.getD a.ip).isUnspecified = false)
    (second : (e.advertise.getD b.ip).isUnspecified = false) :
    e.handle a b =
      .ok ⟨.ofIp (e.advertise.getD a.ip) a.port, .ofIp (e.advertise.getD b.ip) b.port⟩ := by
  unfold handle
  rw [reachable_of_specified first, reachable_of_specified second]

theorem handle_of_unspecified (unspecified : (e.advertise.getD a.ip).isUnspecified = true) :
    e.handle a b = .error (.invalidArgument
      s!"{a} is not reachable from other hosts; an advertise address is required") := by
  unfold handle
  rw [reachable_of_unspecified unspecified]

end Endpoints

/-! ### Validated configurations -/

/-- The unspecified address is not advertised. -/
def StorageConfig.AdvertisesUsable (c : StorageConfig) : Prop :=
  ∀ ip, c.advertise = some ip → ip.isUnspecified = false

/-- Without an address to advertise, no unspecified one is listened on. -/
theorem Config.specified_of_valid {c : Config} (valid : c.validate = .ok ())
    (silent : c.storage.advertise = none) : c.storage.storageBind.ip.isUnspecified = false ∧
      c.storage.commandBind.ip.isUnspecified = false := by
  unfold validate at valid
  dsimp only at valid
  split at valid
  · cases valid
  split at valid
  · cases valid
  split at valid
  · cases valid
  · next specified =>
      rw [silent] at specified
      simpa using specified

/-- What other hosts are told for an address that is listened on is not unspecified. -/
theorem Config.specified_of_usable {c : Config} {bound : Address} (valid : c.validate = .ok ())
    (usable : c.storage.AdvertisesUsable)
    (configured : bound.ip = c.storage.storageBind.ip ∨ bound.ip = c.storage.commandBind.ip) :
    (c.storage.endpoints.advertise.getD bound.ip).isUnspecified = false := by
  change (c.storage.advertise.getD bound.ip).isUnspecified = false
  cases told : c.storage.advertise with
  | some ip => exact usable ip told
  | none =>
      obtain ⟨storage, command⟩ := specified_of_valid valid told
      rw [Option.getD_none]
      rcases configured with same | same
      · rw [same, storage]
      · rw [same, command]

section Bound

variable {c : Config} {a b : Address} (storageIp : a.ip = c.storage.storageBind.ip)
  (commandIp : b.ip = c.storage.commandBind.ip) (storagePort : a.port ≠ 0)
  (commandPort : b.port ≠ 0)

include storageIp commandIp storagePort commandPort

theorem Config.exists_handle (valid : c.validate = .ok ()) (usable : c.storage.AdvertisesUsable) :
    ∃ handle, c.storage.endpoints.handle a b = .ok handle ∧ handle.storage.Usable ∧
      handle.command.Usable := by
  have storage := specified_of_usable valid usable (.inl storageIp)
  have command := specified_of_usable valid usable (.inr commandIp)
  refine ⟨_, Endpoints.handle_of_specified storage command, ⟨?_, ?_⟩, ?_, ?_⟩
  · rwa [Address.port_ofIp]
  · rwa [Address.ip_ofIp]
  · rwa [Address.port_ofIp]
  · rwa [Address.ip_ofIp]

end Bound

/-- An unspecified address to advertise leaves a node without a handle, wherever it listens. -/
theorem StorageConfig.handle_of_not_usable {c : StorageConfig} (unusable : ¬ c.AdvertisesUsable)
    (a b : Address) : (∃ ip, c.advertise = some ip ∧ ip.isUnspecified = true) ∧
      c.endpoints.handle a b = .error (.invalidArgument
        s!"{a} is not reachable from other hosts; an advertise address is required") := by
  unfold AdvertisesUsable at unusable
  push Not at unusable
  obtain ⟨ip, told, specified⟩ := unusable
  have unspecified : ip.isUnspecified = true := eq_true_of_ne_false specified
  refine ⟨⟨ip, told, unspecified⟩, Endpoints.handle_of_unspecified ?_⟩
  change (c.advertise.getD a.ip).isUnspecified = true
  rwa [told]

/-! ### Starts -/

open Cluster in
/-- With a validated configuration, and listening where it says, a node has a handle exactly if
the configuration does not tell it to advertise the unspecified address. Both addresses of the
handle are usable then, and the start of the node goes on to register it; otherwise the start
fails once the node listens. -/
theorem handle_of_valid {c : Config} (valid : c.validate = .ok ()) :
    (∀ a b : Address, a.ip = c.storage.storageBind.ip → b.ip = c.storage.commandBind.ip →
      a.port ≠ 0 → b.port ≠ 0 →
      (c.storage.AdvertisesUsable → ∃ handle, c.storage.endpoints.handle a b = .ok handle ∧
        handle.storage.Usable ∧ handle.command.Usable) ∧
      (¬ c.storage.AdvertisesUsable → c.storage.endpoints.handle a b = .error (.invalidArgument
        s!"{a} is not reachable from other hosts; an advertise address is required"))) ∧
    ∀ (cluster listening : Cluster) (naming : Registrar) (host : Nat) (root : HostPath)
      (files : PathSet) (a b : Address), (cluster.storeOf host root).inventory = .ok files →
      cluster.listenNode host root c.storage.endpoints = (.ok (a, b), listening) →
      (c.storage.AdvertisesUsable → ∃ handle, handle.storage.Usable ∧ handle.command.Usable ∧
        (cluster.startNodeWith naming host root c.storage.endpoints).1 =
          (listening.join naming host root handle files).1) ∧
      (¬ c.storage.AdvertisesUsable → ∃ message,
        cluster.startNodeWith naming host root c.storage.endpoints =
          (.error (.invalidArgument message), cluster)) := by
  refine ⟨fun a b storageIp commandIp storagePort commandPort => ⟨fun usable => ?_,
    fun unusable => (StorageConfig.handle_of_not_usable unusable a b).2⟩, ?_⟩
  · exact Config.exists_handle storageIp commandIp storagePort commandPort valid usable
  · intro cluster listening naming host root files a b listed listens
    obtain ⟨⟨storageIp, storagePort⟩, commandIp, commandPort⟩ := bound_of_listenBoth listens
    refine ⟨fun usable => ?_, fun unusable => ?_⟩
    · obtain ⟨handle, made, storage, command⟩ :=
        Config.exists_handle storageIp commandIp storagePort commandPort valid usable
      exact ⟨handle, storage, command, startNodeWith_of_made listed listens made⟩
    · exact ⟨_, startNodeWith_of_unknown listed listens
        (StorageConfig.handle_of_not_usable unusable a b).2⟩

/-- A node that listens everywhere starts with what it advertises. -/
theorem handle_of_valid_everywhere :
    let c : Config := { storage :=
      { advertise := some (.v4 ⟨10, 0, 0, 7⟩), storageBind := .everywhere 7000,
        commandBind := .everywhere 7001 } }
    let cluster := Cluster.ofDisks .connected []
    let root := Cluster.rootOf 1
    c.validate = .ok () ∧ c.storage.AdvertisesUsable ∧
      (cluster.storeOf 1 root).inventory = .ok ∅ ∧
      (∃ handle, c.storage.endpoints.handle (.everywhere 7000) (.everywhere 7001) = .ok handle ∧
        handle.storage.Usable ∧ handle.command.Usable) ∧
      ∃ (handle : Handle) (listening : Cluster), handle.storage.Usable ∧ handle.command.Usable ∧
        (cluster.startNodeWith (fun _ _ c => (.ok ∅, c)) 1 root c.storage.endpoints).1 =
          (listening.join (fun _ _ c => (.ok ∅, c)) 1 root handle ∅).1 := by
  intro c cluster root
  have valid : c.validate = .ok () := rfl
  have usable : c.storage.AdvertisesUsable := by
    rintro _ ⟨⟩
    rfl
  have plain : (cluster.storeOf 1 root).disk.Plain [root.bytes] :=
    Disk.Plain.of_places rfl (by decide) (by decide)
  have listed : (cluster.storeOf 1 root).inventory = .ok (.ofList []) :=
    Store.inventory_of_leaves ⟨plain, _, rfl⟩ (by decide) rfl (by decide) rfl
  obtain ⟨handles, starts⟩ := handle_of_valid valid
  have listens : cluster.listenNode 1 root c.storage.endpoints =
      (.ok (.everywhere 7000, .everywhere 7001), _) := rfl
  obtain ⟨handle, storage, command, started⟩ :=
    (starts cluster _ (fun _ _ c => (.ok ∅, c)) 1 root ∅ _ _ listed listens).1 usable
  exact ⟨valid, usable, listed, (handles _ _ rfl rfl (by decide) (by decide)).1 usable, handle, _,
    storage, command, started⟩

/-- Validation lets a configuration pass that tells a node to advertise the unspecified address,
and the node has no handle then, though it listens where it should. -/
theorem handle_of_unspecified_advertise :
    let c : Config := { storage := { advertise := some (.v4 ⟨0, 0, 0, 0⟩) } }
    let a : Address := .loopback 7000
    let b : Address := .loopback 7001
    c.validate = .ok () ∧ a.ip = c.storage.storageBind.ip ∧ b.ip = c.storage.commandBind.ip ∧
      a.port ≠ 0 ∧ b.port ≠ 0 ∧ c.storage.endpoints.handle a b = .error (.invalidArgument
        "127.0.0.1:7000 is not reachable from other hosts; an advertise address is required") :=
  ⟨rfl, rfl, rfl, by decide, by decide, by decide⟩

end Dfs
