import Dfs.Cluster.Start
import Dfs.Failure

/-!
Services that run until they are interrupted. What is listened on is released then;
what a storage node registered, and what it gave up, stays.
-/

namespace Dfs.Cluster

/-- Runs a naming service of its own, whose namespace is gone afterwards. -/
def serveNaming (c : Cluster) (config : NamingConfig) : Except Failure Unit :=
  match c.startNaming config.service config.registration with
  | .error e => .error (.during .startNaming (.error e))
  | .ok _ => .ok ()

/-- Runs a storage node on a host. -/
def serveStorage (c : Cluster) (host : Nat) (config : StorageConfig) :
    Except Failure Unit × Cluster :=
  match config.root with
  | none => (.error .noRoot, c)
  | some root =>
    let network := c.network
    match c.startNode host root config.endpoints config.naming with
    | (.error e, c) => (.error (.during (.startStorage root) (.error e)), c)
    | (.ok _, c) => (.ok (), { c with network })

end Dfs.Cluster
