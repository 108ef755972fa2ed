import Dfs.Proofs.Cluster.Calls
import Dfs.Proofs.Message.Length

/-!
How the naming service has storage nodes create and delete files. A node that is reached
at its command address does what its store does (`create_of_reached`,
`delete_of_reached`); and whomever the naming service asks for a deletion, no file
elsewhere is touched (`Cleared`).
-/

namespace Dfs.Cluster

open Disk

variable {sites : List Site} {s : Site} {c c' c'' : Cluster} {a : Address} {p : Path} {host : Nat}
  {root : HostPath}

/-- Calls of the naming service. -/
def fromNaming : Caller Cluster := callWith callNobody

theorem call_eq : call = callWith fromNaming := rfl

/-! ### Nodes that are reached -/

section Reached

variable (reached : c.network.connect a = .ok (.node host root .command))

include reached

theorem fromNaming_of_bool {r : Request} {answer : Bool} {c' : Cluster}
    (small : (Utf8.encode r.text).length ≤ Frame.maxLength)
    (kept : r.withoutFlow = r)
    (answered : onStore host root Store.serveCommand r c = (.ok (.bool answer), c')) :
    fromNaming a r c = (.ok (.bool answer), c') := by
  have served : server callNobody .command host root r.withoutFlow c = (.ok (.bool answer), c') := by
    rw [kept]
    exact answered
  have short : (Utf8.encode (Reply.text
      (server callNobody .command host root r.withoutFlow c).1)).length ≤ Frame.maxLength := by
    rw [served]
    exact Reply.small_bool answer
  rw [fromNaming, callWith_of_reply reached rfl small short, served]
  rfl

/-- A node that is asked to create a file answers what its store answers. -/
theorem create_of_reached (small : (Utf8.encode (Request.createFile p).text).length ≤ Frame.maxLength) :
    fromNaming a (.create p) c = (.ok (.bool ((c.storeOf host root).create p).1),
      c.setDisk host ((c.storeOf host root).create p).2.disk) :=
  fromNaming_of_bool reached ((Request.length_create_le p).trans small) rfl rfl

theorem delete_of_reached (small : (Utf8.encode (Request.deletePath p).text).length ≤ Frame.maxLength) :
    fromNaming a (.delete p) c = (.ok (.bool ((c.storeOf host root).delete p).1),
      c.setDisk host ((c.storeOf host root).delete p).2.disk) :=
  fromNaming_of_bool reached ((Request.length_delete_le p).trans small) rfl rfl

end Reached

/-- What the naming service makes of the answer of a node. -/
theorem nodeCalls_create_of_reached {h : Handle}
    (reached : c.network.connect h.command = .ok (.node host root .command))
    (small : (Utf8.encode (Request.createFile p).text).length ≤ Frame.maxLength) :
    (Call.nodeCalls fromNaming).create h p c = (.ok ((c.storeOf host root).create p).1,
      c.setDisk host ((c.storeOf host root).create p).2.disk) := by
  have asked := create_of_reached reached small
  have invoked : (Call.nodeCalls fromNaming).create h p c =
      ((fromNaming h.command (.create p) c).1.bind Response.toBool,
        (fromNaming h.command (.create p) c).2) := rfl
  rw [invoked, asked]
  rfl

/-! ### Deletions -/

/-- At most files at or below a path are gone, and nothing else has changed. -/
structure Cleared (sites : List Site) (p : Path) (c c' : Cluster) : Prop where
  sound : Sound sites c → Sound sites c'
  registry : c'.registry = c.registry
  network : c'.network = c.network
  shrinks : ∀ s ∈ sites, ∀ xs, c'.leafAt? s xs = none ∨ c'.leafAt? s xs = c.leafAt? s xs
  outside : ∀ s ∈ sites, ∀ xs, ¬ p.place <+: xs → c'.leafAt? s xs = c.leafAt? s xs

theorem Cleared.of_same (network : c'.network = c.network) (registry : c'.registry = c.registry)
    (disks : ∀ host, c'.diskOf host = c.diskOf host) : Cleared sites p c c' where
  sound := fun sound => sound.congr network disks
  registry := registry
  network := network
  shrinks := fun s _ xs => .inr (leafAt?_congr disks s xs)
  outside := fun s _ xs _ => leafAt?_congr disks s xs

theorem Cleared.trans (first : Cleared sites p c c') (second : Cleared sites p c' c'') :
    Cleared sites p c c'' where
  sound := fun sound => second.sound (first.sound sound)
  registry := second.registry.trans first.registry
  network := second.network.trans first.network
  shrinks := by
    intro s mem xs
    rcases second.shrinks s mem xs with gone | same
    · exact .inl gone
    · rw [same]
      exact first.shrinks s mem xs
  outside := by
    intro s mem xs other
    rw [second.outside s mem xs other, first.outside s mem xs other]

theorem leafAt?_setDisk_erase (c : Cluster) (s : Site) {ks : Place} (nonempty : ks ≠ [])
    (xs : Place) : (c.setDisk s.host ((c.diskOf s.host).erase (s.place ++ ks))).leafAt? s xs =
      if ks <+: xs then none else c.leafAt? s xs := by
  rw [leafAt?_setDisk_self, leafAt?_erase (List.append_ne_nil_of_right_ne_nil _ nonempty)]
  simp only [List.prefix_append_right_inj]
  rfl

/-- Something below a site is taken away. -/
theorem Sound.cleared_erase (sound : Sound sites c) (mem : s ∈ sites) (nonempty : p.place ≠ []) :
    Cleared sites p c (c.setDisk s.host ((c.diskOf s.host).erase (s.place ++ p.place))) := by
  have worked := Worked.of_erase (p := s.place) (d := c.diskOf s.host) nonempty
  have here := leafAt?_setDisk_erase c s nonempty
  refine ⟨fun _ => sound.setDisk mem worked, rfl, rfl, ?_, ?_⟩
  · intro t memT xs
    by_cases same : s = t
    · subst same
      rw [here]
      split
      · exact .inl rfl
      · exact .inr rfl
    · exact .inr (leafAt?_setDisk_of_ne worked sound.apart mem memT same xs)
  · intro t memT xs other
    by_cases same : s = t
    · subst same
      rw [here, if_neg other]
    · exact leafAt?_setDisk_of_ne worked sound.apart mem memT same xs

theorem Sound.cleared_delete (sound : Sound sites c) (mem : s ∈ sites) (p : Path) :
    Cleared sites p c (c.setDisk s.host ((c.storeOf s.host s.root).delete p).2.disk) := by
  rcases Store.delete_cases (sound.store_serves mem) p with same | ⟨-, nonempty, erased⟩
  · rw [same]
    exact .of_same rfl rfl (diskOf_setDisk_diskOf c s.host)
  · rw [erased]
    exact sound.cleared_erase mem nonempty

/-- Whoever is asked to delete a path, nothing else is touched. -/
theorem Sound.cleared_fromNaming (sound : Sound sites c) (a : Address) (p : Path) :
    Cleared sites p c (fromNaming a (.delete p) c).2 := by
  rcases callWith_cases a (.delete p) (sound.standing.serving callNobody) with
    ⟨e, unreached⟩ | ⟨role, answers, reached, behind, -, changed⟩
  · rw [fromNaming, unreached]
    exact .of_same rfl rfl fun _ => rfl
  rw [fromNaming, changed]
  cases sound.standing.proper reached with
  | service =>
      obtain rfl := Option.some.inj behind
      exact .of_same rfl rfl fun _ => rfl
  | registration =>
      obtain rfl := Option.some.inj behind
      exact .of_same rfl rfl fun _ => rfl
  | @storage s mem =>
      obtain rfl := Option.some.inj behind
      exact .of_same rfl rfl (diskOf_setDisk_diskOf c s.host)
  | command mem =>
      obtain rfl := Option.some.inj behind
      exact sound.cleared_delete mem p

/-- A node that is asked has no files left at or below the path, as far as its host takes
their paths. -/
theorem Sound.gone_of_reached (sound : Sound sites c) (mem : s ∈ sites)
    (notRoot : p.isRoot = false)
    (reached : c.network.connect a = .ok (.node s.host s.root .command))
    (small : (Utf8.encode (Request.deletePath p).text).length ≤ Frame.maxLength) {xs : Place}
    (below : p.place <+: xs) (fits : s.root.Fits xs) :
    (fromNaming a (.delete p) c).2.leafAt? s xs = none := by
  rw [delete_of_reached reached small]
  dsimp only
  have nonempty : p.place ≠ [] := by
    rw [ne_eq, Path.place_eq_nil_iff, notRoot]
    simp
  have erased : (c.setDisk s.host ((c.diskOf s.host).erase (s.place ++ p.place))).leafAt? s xs =
      none := by
    rw [leafAt?_setDisk_erase c s nonempty, if_pos below]
  by_cases there : (c.diskOf s.host).kindAt? (s.place ++ p.place) = none
  · rcases Store.delete_cases (sound.store_serves mem) p with same | ⟨-, -, changed⟩
    · have absent : (c.diskOf s.host).kindAt? (s.place ++ xs) = none :=
        kindAt?_none_of_isPrefix ((List.prefix_append_right_inj s.place).mpr below) there
      have idle : (c.setDisk s.host (c.diskOf s.host)).leafAt? s xs = none := by
        rw [leafAt?_congr (diskOf_setDisk_diskOf c s.host), Cluster.leafAt?, Disk.leafAt?, absent]
        rfl
      rw [same]
      exact idle
    · rw [changed]
      exact erased
  · rw [Store.delete_of_there (sound.store_serves mem) notRoot there (fits.of_isPrefix below)]
    exact erased

/-- However many are asked, nothing else is touched. -/
theorem Sound.cleared_askAll (sound : Sound sites c) (p : Path) (nodes : List Handle) :
    Cleared sites p c (Registry.askAll (Call.nodeCalls fromNaming) p nodes c).2 := by
  induction nodes generalizing c with
  | nil => exact .of_same rfl rfl fun _ => rfl
  | cons h nodes ih =>
      have first := sound.cleared_fromNaming h.command p
      exact first.trans (ih (first.sound sound))

/-- All nodes that are asked have no files left at or below the path. -/
theorem Sound.askAll_spec (sound : Sound sites c) (notRoot : p.isRoot = false)
    (small : (Utf8.encode (Request.deletePath p).text).length ≤ Frame.maxLength)
    (nodes : List Handle) :
    Cleared sites p c (Registry.askAll (Call.nodeCalls fromNaming) p nodes c).2 ∧
      ∀ h ∈ nodes, ∀ s ∈ sites, c.network.connect h.command = .ok (.node s.host s.root .command) →
        ∀ xs, p.place <+: xs → s.root.Fits xs →
          (Registry.askAll (Call.nodeCalls fromNaming) p nodes c).2.leafAt? s xs = none := by
  refine ⟨sound.cleared_askAll p nodes, ?_⟩
  induction nodes generalizing c with
  | nil => simp
  | cons h nodes ih =>
      have first := sound.cleared_fromNaming h.command p
      have rest := (first.sound sound).cleared_askAll p nodes
      have asked : (Registry.askAll (Call.nodeCalls fromNaming) p (h :: nodes) c).2 =
          (Registry.askAll (Call.nodeCalls fromNaming) p nodes
            (fromNaming h.command (.delete p) c).2).2 := rfl
      rw [asked]
      intro h' mem' s mem reached xs below fits
      rcases List.mem_cons.mp mem' with rfl | later
      · have none := sound.gone_of_reached mem notRoot reached small below fits
        rcases rest.shrinks s mem xs with already | same
        · exact already
        · rw [same, none]
      · rw [← first.network] at reached
        exact ih (first.sound sound) h' later s mem reached xs below fits

end Dfs.Cluster
