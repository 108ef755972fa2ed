import Dfs.Endpoints
import Dfs.Path.Host

/-!
The configuration of the naming service and of a storage node: its default values,
and what it has to satisfy before anything is started with it.
-/

namespace Dfs

/-- The port at which the naming service answers clients. -/
def servicePort : UInt16 := 6000

/-- The port at which the naming service registers storage nodes. -/
def registrationPort : UInt16 := 6001

/-- Where the naming service listens. -/
structure NamingConfig where
  service : Address := .everywhere servicePort
  registration : Address := .everywhere registrationPort
  deriving DecidableEq, Repr

structure StorageConfig where
  /-- The local directory with the files of the node. -/
  root : Option HostPath := none
  /-- Where the naming service registers nodes. -/
  naming : Address := .loopback registrationPort
  /-- The address that other hosts are told. -/
  advertise : Option Ip := none
  storageBind : Address := .loopback 0
  commandBind : Address := .loopback 0
  deriving DecidableEq, Repr

def StorageConfig.endpoints (c : StorageConfig) : Endpoints :=
  ⟨c.storageBind, c.commandBind, c.advertise⟩

structure Config where
  naming : NamingConfig := {}
  storage : StorageConfig := {}
  deriving DecidableEq, Repr

/-- Why a configuration cannot be used. -/
inductive ConfigError where
  | namingShares (a : Address)
  | storageShares (a : Address)
  | needsAdvertise
  | unreachableNaming (a : Address)
  | emptyRoot
  deriving DecidableEq, Repr

def ConfigError.message : ConfigError → String
  | .namingShares a => s!"naming service and registration cannot share {a}"
  | .storageShares a => s!"storage and command interfaces cannot share {a}"
  | .needsAdvertise => "storage.advertise is required when binding an unspecified address"
  | .unreachableNaming a => s!"storage.naming must be a reachable address, not {a}"
  | .emptyRoot => "storage.root cannot be empty"

namespace Config

/-- Both addresses are the same, and the port is not left open. -/
def sharesPort (a b : Address) : Bool := a.port != 0 && a == b

/-- Accepts a configuration, or gives the first thing that is wrong with it. -/
def validate (c : Config) : Except ConfigError Unit :=
  let naming := c.naming
  let storage := c.storage
  if sharesPort naming.service naming.registration then .error (.namingShares naming.service)
  else if sharesPort storage.storageBind storage.commandBind then
    .error (.storageShares storage.storageBind)
  else if storage.advertise = none ∧
      (storage.storageBind.ip.isUnspecified || storage.commandBind.ip.isUnspecified) = true then
    .error .needsAdvertise
  else if storage.naming.port = 0 ∨ storage.naming.ip.isUnspecified = true then
    .error (.unreachableNaming storage.naming)
  else if storage.root = some ⟨[]⟩ then .error .emptyRoot
  else .ok ()

end Config

end Dfs
