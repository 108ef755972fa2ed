import Dfs.Proofs.Cluster.Alone
import Dfs.Proofs.Cluster.Start

/-!
Restarts of storage nodes. A node is known by its two addresses. If it is started again
on its root under addresses that are registered, the start fails and no file is touched.
Under other addresses it is a new node: it gives up each file whose path the namespace
holds, be it for the node that it was before (`restart_exact`).
-/

namespace Dfs.Cluster

open Disk

variable {sites : List Site} {s t : Site} {c c' : Cluster}

/-! ### Runs -/

/-- What can happen in a cluster with one naming service. -/
inductive Step (sites : List Site) : Cluster → Cluster → Prop where
  /-- A node is started on a site, be it in vain. -/
  | start (c : Cluster) {s : Site} (endpoints : Endpoints) (registration : Address) :
      s ∈ sites → Step sites c (c.startNode s.host s.root endpoints registration).2
  | stop (c : Cluster) (stops : Role → Bool) : Step sites c (c.stopWhere stops)
  /-- Anyone calls any endpoint. -/
  | call (c : Cluster) (target : Address) (r : Request) : Step sites c (call target r c).2

/-- The clusters that can come about after the naming service has started. -/
inductive Reachable (sites : List Site) : Cluster → Prop where
  | begin {c : Cluster} {route : Route} {disks : Entries Nat Disk} {service registration : Address} :
      Laid sites (ofDisks route disks) →
      (ofDisks route disks).startNaming service registration = .ok c → Reachable sites c
  | step {c c' : Cluster} : Reachable sites c → Step sites c c' → Reachable sites c'

theorem Standing.stopWhere (standing : Standing sites c) (stops : Role → Bool) :
    Standing sites (c.stopWhere stops) where
  toLaid := standing.toLaid.congr fun _ => rfl
  roles := fun l listens => standing.roles l (List.mem_of_mem_filter listens)

theorem Standing.step (standing : Standing sites c) (step : Step sites c c') :
    Standing sites c' := by
  cases step with
  | @start s endpoints registration mem =>
      cases done : c.startNode s.host s.root endpoints registration with
      | mk answer c' =>
          cases answer with
          | ok started => exact (startNode_joins standing mem done).standing standing mem
          | error e =>
              have same := startNode_refused standing mem done
              exact standing.congr same.network same.disks
  | stop stops => exact standing.stopWhere stops
  | call target r => exact Standing.kept.call standing target r

theorem Reachable.standing (reachable : Reachable sites c) : Standing sites c := by
  induction reachable with
  | begin laid started => exact laid.startNaming started
  | step _ step ih => exact ih.step step

/-! ### Restarts -/

/-- Some endpoints stop, and a node is started again. If the start fails, all files stay
as they are. If it succeeds, the node is a new one; it loses the files whose paths the
namespace has no room for, as far as the host takes their paths, and no others. -/
theorem restart_exact (reachable : Reachable sites c) (mem : s ∈ sites) (stops : Role → Bool)
    (endpoints : Endpoints) (registration : Address) :
    ∃ answer c',
      (c.stopWhere stops).startNode s.host s.root endpoints registration = (answer, c') ∧
      (∀ t ∈ sites, s ≠ t → ∀ xs, c'.fileAt? t xs = c.fileAt? t xs) ∧
      match answer with
      | .error _ => ∀ xs, c'.fileAt? s xs = c.fileAt? s xs
      | .ok started => started.handle ∉ c.registry.nodes ∧
          ∀ xs content, c.fileAt? s xs = some content → ∃ p : Path, p.place = xs ∧
            c'.fileAt? s xs =
              if c.registry.names.conflicts p = true ∧ s.root.Fits xs then none
              else some content := by
  have standing := reachable.standing.stopWhere stops
  cases done : (c.stopWhere stops).startNode s.host s.root endpoints registration with
  | mk answer c' =>
      refine ⟨answer, c', rfl, ?_⟩
      cases answer with
      | error e =>
          have same := startNode_refused standing mem done
          constructor
          · intro t _ _ xs
            exact fileAt?_congr (leafAt?_congr same.disks t xs)
          · intro xs
            exact fileAt?_congr (leafAt?_congr same.disks s xs)
      | ok started =>
          have joins := startNode_joins standing mem done
          refine ⟨fun t memT other xs => fileAt?_congr (joins.others t memT other xs), joins.new, ?_⟩
          intro xs content file
          have leaf : (c.stopWhere stops).leafAt? s xs = some (.file content) :=
            fileAt?_eq_some_iff.mp file
          obtain ⟨p, rfl⟩ := joins.named xs (by simp [leaf])
          refine ⟨p, rfl, ?_⟩
          by_cases gone : c.registry.names.conflicts p = true ∧ s.root.Fits p.place
          · rw [if_pos gone, fileAt?, joins.pruned p gone.1 gone.2]
          · rw [if_neg gone, ← file]
            refine fileAt?_congr (joins.spared p.place ?_)
            rintro ⟨q, samePlace, conflict, fits⟩
            obtain rfl := Path.place_injective samePlace
            exact gone ⟨conflict, fits⟩

theorem reachable_home : Reachable [home] (alone homeDisk home.root homeNames) := by
  have begun : Reachable [home] (served homeDisk) :=
    .begin (prepared_home .connected).laid (startNaming_served homeDisk)
  have started := begun.step (.start _ nodeEndpoints registrationAt (List.mem_singleton_self home))
  have joined : (served homeDisk).startNode home.host home.root nodeEndpoints registrationAt = _ :=
    startNode_home
  rw [joined] at started
  exact started

/-- The node with one file stops, and is started again at its own addresses. -/
theorem restart_exact_home :
    ∃ c, Reachable [home] c ∧ home ∈ [home] ∧ c.fileAt? home homeFile.place = some .empty ∧
      ∃ answer c', (c.stopWhere fun role => role matches .node ..).startNode 0 home.root
          nodeEndpoints registrationAt = (answer, c') ∧
        match answer with
        | .error _ => c'.fileAt? home homeFile.place = some .empty
        | .ok started => started.handle ∉ c.registry.nodes ∧
            c'.fileAt? home homeFile.place = none := by
  have mem := List.mem_singleton_self home
  have file : (alone homeDisk home.root homeNames).fileAt? home homeFile.place = some .empty := rfl
  obtain ⟨answer, c', again, -, outcome⟩ := restart_exact reachable_home mem
    (fun role => role matches .node ..) nodeEndpoints registrationAt
  refine ⟨_, reachable_home, mem, file, answer, c', again, ?_⟩
  cases answer with
  | error e => exact (outcome homeFile.place).trans file
  | ok started =>
      obtain ⟨new, files⟩ := outcome
      obtain ⟨p, place, kept⟩ := files homeFile.place .empty file
      obtain rfl := Path.place_injective place
      refine ⟨new, ?_⟩
      rw [kept, if_pos (by decide)]

/-- Started again at other addresses, it gives up its file, which the namespace holds for
the node that it was. -/
theorem restart_loses_file :
    ∃ c, Reachable [home] c ∧ c.runningRoot 0 = some home.root ∧
      c.fileAt? home homeFile.place = some .empty ∧
      ∃ started c', (c.stopNode 0).startNode 0 home.root ⟨.loopback 8000, .loopback 8001, none⟩
          registrationAt = (.ok started, c') ∧
        c'.fileAt? home homeFile.place = none := by
  have mem := List.mem_singleton_self home
  have stopped : Reachable [home] ((alone homeDisk home.root homeNames).stopNode 0) :=
    reachable_home.step (.stop _ _)
  have small : (Utf8.encode (registering ⟨.loopback 8000, .loopback 8001⟩
      (.ofList [homeFile])).text).length ≤ Frame.maxLength := by
    decide +kernel
  have registered : ((alone homeDisk home.root homeNames).stopNode 0).registry.register
      ⟨.loopback 8000, .loopback 8001⟩ (.ofList [homeFile]) = (.ok (.ofList [homeFile]),
        ⟨homeNames, [nodeAt, ⟨.loopback 8000, .loopback 8001⟩], 0⟩) := rfl
  have started : ((alone homeDisk home.root homeNames).stopNode 0).startNode home.host home.root
      ⟨.loopback 8000, .loopback 8001, none⟩ registrationAt = _ :=
    startNode_of_reached inventory_home rfl rfl rfl small registered
  have joined := startNode_joins stopped.standing mem started
  refine ⟨_, reachable_home, rfl, rfl, _, _, started, ?_⟩
  rw [fileAt?, joined.pruned homeFile (by decide) (by decide)]

end Dfs.Cluster
