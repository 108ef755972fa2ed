import Dfs.Cluster.Basic
import Dfs.Proofs.Disk.Detours

/-!
Sites: the directories on the hosts of a cluster on which storage nodes are started.
A cluster that is laid out has sites that are apart from each other, and hold only
directories and regular files; the path of each can lead to it. In a prepared cluster it
does so whatever is below the sites. What nodes do to the disks keeps both
(`Laid.setDisk`, `Prepared.setDisk`).
-/

namespace Dfs

/-- A directory on a host, and the path by which a node that serves it is told of it. -/
structure Site where
  host : Nat
  root : HostPath
  place : Place
  deriving DecidableEq, Repr

namespace Site

/-- No site is at or below another one. -/
def Apart (sites : List Site) : Prop :=
  ∀ s ∈ sites, ∀ t ∈ sites, s ≠ t → s.host = t.host → ¬ s.place <+: t.place

/-- The places of the sites on a host. -/
def placesOn (sites : List Site) (host : Nat) : List Place :=
  (sites.filter fun s => s.host = host).map Site.place

variable {sites : List Site} {s t : Site}

theorem place_mem_placesOn (mem : s ∈ sites) : s.place ∈ placesOn sites s.host :=
  List.mem_map.mpr ⟨s, List.mem_filter.mpr ⟨mem, by simp⟩, rfl⟩

theorem exists_of_mem_placesOn {host : Nat} {p : Place} (mem : p ∈ placesOn sites host) :
    ∃ t ∈ sites, t.host = host ∧ t.place = p := by
  obtain ⟨t, there, rfl⟩ := List.mem_map.mp mem
  obtain ⟨member, here⟩ := List.mem_filter.mp there
  exact ⟨t, member, by simpa using here, rfl⟩

/-- Nothing is below two sites. -/
theorem Apart.not_inside (apart : Apart sites) (memS : s ∈ sites) (memT : t ∈ sites)
    (other : s ≠ t) (sameHost : s.host = t.host) (xs : Place) :
    ¬ Disk.Inside s.place (t.place ++ xs) := by
  rintro ⟨lead, -⟩
  rcases List.prefix_or_prefix_of_prefix lead (List.prefix_append t.place xs) with below | above
  · exact apart s memS t memT other sameHost below
  · exact apart t memT s memS other.symm sameHost.symm above

end Site

namespace Cluster

open Disk

variable {sites : List Site} {s t : Site} {c : Cluster} {disk : Disk}

/-! ### Disks of hosts -/

@[simp] theorem registry_setDisk (c : Cluster) (host : Nat) (disk : Disk) :
    (c.setDisk host disk).registry = c.registry := rfl

@[simp] theorem network_setDisk (c : Cluster) (host : Nat) (disk : Disk) :
    (c.setDisk host disk).network = c.network := rfl

@[simp] theorem diskOf_setDisk_self (c : Cluster) (host : Nat) (disk : Disk) :
    (c.setDisk host disk).diskOf host = disk := by
  simp [diskOf, setDisk]

theorem diskOf_setDisk_of_ne {host other : Nat} (ne : other ≠ host) (c : Cluster) (disk : Disk) :
    (c.setDisk host disk).diskOf other = c.diskOf other := by
  simp [diskOf, setDisk, Entries.find_put_of_ne ne]

/-- What was on a disk is put there again. -/
theorem diskOf_setDisk_diskOf (c : Cluster) (host other : Nat) :
    (c.setDisk host (c.diskOf host)).diskOf other = c.diskOf other := by
  by_cases same : other = host
  · rw [same, diskOf_setDisk_self]
  · exact diskOf_setDisk_of_ne same c _

/-! ### Sites of clusters -/

/-- The file or link at a place below a site. -/
def leafAt? (c : Cluster) (s : Site) (xs : Place) : Option DiskItem :=
  (c.diskOf s.host).leafAt? (s.place ++ xs)

/-- The content of the regular file at a place below a site. -/
def fileAt? (c : Cluster) (s : Site) (xs : Place) : Option Content :=
  match c.leafAt? s xs with
  | some (.file content) => some content
  | _ => none

/-- Storage nodes can serve the sites: they are apart from each other, each path leads
to its site whatever is below the sites, and there are only directories and regular
files. Listings of directories are in the order of the names. -/
structure Prepared (sites : List Site) (c : Cluster) : Prop where
  apart : Site.Apart sites
  leads : ∀ s ∈ sites, (c.diskOf s.host).Leads (Site.placesOn sites s.host) s.root s.place
  plain : ∀ s ∈ sites, (c.diskOf s.host).Plain s.place
  ordered : ∀ s ∈ sites, (Tree.dir (c.diskOf s.host).top).Ordered

/-- Storage nodes can be started on the sites: they are apart from each other, there are only
directories and regular files below them, and each path leads to its site, or would with other
directories and files below the sites. Listings of directories are in the order of the names. -/
structure Laid (sites : List Site) (c : Cluster) : Prop where
  apart : Site.Apart sites
  leads : ∀ s ∈ sites, (c.diskOf s.host).CanLead (Site.placesOn sites s.host) s.root s.place
  plain : ∀ s ∈ sites, (c.diskOf s.host).Plain s.place
  ordered : ∀ s ∈ sites, (Tree.dir (c.diskOf s.host).top).Ordered

theorem Prepared.serves (prepared : Prepared sites c) (mem : s ∈ sites) :
    (c.diskOf s.host).Serves s.root s.place where
  toPlain := prepared.plain s mem
  leads := (prepared.leads s mem).mono (by simpa using Site.place_mem_placesOn mem)

theorem Prepared.store_serves (prepared : Prepared sites c) (mem : s ∈ sites) :
    (c.storeOf s.host s.root).disk.Serves (c.storeOf s.host s.root).root s.place :=
  prepared.serves mem

theorem leafAt?_congr {c' : Cluster} (same : ∀ host, c'.diskOf host = c.diskOf host) (s : Site)
    (xs : Place) : c'.leafAt? s xs = c.leafAt? s xs := by
  rw [leafAt?, same, leafAt?]

theorem fileAt?_congr {c' : Cluster} {xs : Place} (same : c'.leafAt? s xs = c.leafAt? s xs) :
    c'.fileAt? s xs = c.fileAt? s xs := by
  rw [fileAt?, same, fileAt?]

theorem fileAt?_eq_some_iff {xs : Place} {content : Content} :
    c.fileAt? s xs = some content ↔ c.leafAt? s xs = some (.file content) := by
  unfold fileAt?
  cases c.leafAt? s xs with
  | none => simp
  | some item => cases item <;> simp

/-! ### Sites that are reached -/

/-- The path of the site leads to it now. -/
structure Opened (c : Cluster) (s : Site) : Prop where
  rooted : (c.diskOf s.host).Rooted s.root s.place
  ordered : (Tree.dir (c.diskOf s.host).top).Ordered

theorem Prepared.opened (prepared : Prepared sites c) (mem : s ∈ sites) : Opened c s where
  rooted := (prepared.serves mem).rooted
  ordered := prepared.ordered s mem

/-- No link is below the site. -/
theorem Opened.leafAt?_ne_none_iff (opened : Opened c s) {xs : Place} :
    c.leafAt? s xs ≠ none ↔ ∃ content, c.fileAt? s xs = some content := by
  constructor
  · intro there
    obtain ⟨item, leaf⟩ := Option.ne_none_iff_exists'.mp there
    obtain ⟨content, rfl⟩ := opened.rooted.exists_eq_file (leafAt?_eq_some_iff.mp leaf)
    exact ⟨content, fileAt?_eq_some_iff.mpr leaf⟩
  · rintro ⟨content, file⟩
    rw [fileAt?_eq_some_iff.mp file]
    simp

/-- The site itself is no file. -/
theorem Opened.isRoot_eq_false (opened : Opened c s) {p : Path}
    (there : c.leafAt? s p.place ≠ none) : p.isRoot = false :=
  opened.rooted.isRoot_eq_false there

/-! ### Changes on a host -/

theorem Laid.houses (laid : Laid sites c) (mem : s ∈ sites) :
    (c.diskOf s.host).Houses (Site.placesOn sites s.host) s.root s.place where
  member := Site.place_mem_placesOn mem
  apart := by
    intro q there other
    obtain ⟨t, memT, sameHost, rfl⟩ := Site.exists_of_mem_placesOn there
    have apart : t ≠ s := by
      rintro rfl
      exact other rfl
    exact ⟨laid.apart t memT s mem apart sameHost, laid.apart s mem t memT apart.symm sameHost.symm⟩
  plain := by
    intro q there
    obtain ⟨t, memT, sameHost, rfl⟩ := Site.exists_of_mem_placesOn there
    rw [← sameHost]
    exact laid.plain t memT
  canLead := laid.leads s mem

/-- What nodes do below their places on a host leaves the sites as they have to be. -/
theorem Laid.setDisk (laid : Laid sites c) {host : Nat}
    (tended : Tended (Site.placesOn sites host) (c.diskOf host) disk) :
    Laid sites (c.setDisk host disk) where
  apart := laid.apart
  leads := by
    intro t memT
    by_cases same : t.host = host
    · subst same
      rw [diskOf_setDisk_self]
      exact ((laid.houses memT).of_tended tended).canLead
    · rw [diskOf_setDisk_of_ne same]
      exact laid.leads t memT
  plain := by
    intro t memT
    by_cases same : t.host = host
    · subst same
      rw [diskOf_setDisk_self]
      exact tended.plain t.place (Site.place_mem_placesOn memT)
    · rw [diskOf_setDisk_of_ne same]
      exact laid.plain t memT
  ordered := by
    intro t memT
    by_cases same : t.host = host
    · subst same
      rw [diskOf_setDisk_self]
      exact tended.ordered (laid.ordered t memT)
    · rw [diskOf_setDisk_of_ne same]
      exact laid.ordered t memT

/-- The sites depend on the disks only. -/
theorem Laid.congr {c' : Cluster} (laid : Laid sites c)
    (same : ∀ host, c'.diskOf host = c.diskOf host) : Laid sites c' where
  apart := laid.apart
  leads := by
    intro s mem
    rw [same]
    exact laid.leads s mem
  plain := by
    intro s mem
    rw [same]
    exact laid.plain s mem
  ordered := by
    intro s mem
    rw [same]
    exact laid.ordered s mem

theorem Prepared.laid (prepared : Prepared sites c) : Laid sites c where
  apart := prepared.apart
  leads := by
    intro s mem
    refine ⟨c.diskOf s.host, .refl _ _, fun q there => ?_, (prepared.serves mem).rooted.opens⟩
    obtain ⟨t, memT, sameHost, rfl⟩ := Site.exists_of_mem_placesOn there
    rw [← sameHost]
    exact prepared.plain t memT
  plain := prepared.plain
  ordered := prepared.ordered

theorem Prepared.congr {c' : Cluster} (prepared : Prepared sites c)
    (same : ∀ host, c'.diskOf host = c.diskOf host) : Prepared sites c' where
  apart := prepared.apart
  leads := by
    intro s mem
    rw [same]
    exact prepared.leads s mem
  plain := (prepared.laid.congr same).plain
  ordered := (prepared.laid.congr same).ordered

section Worked

variable (worked : Worked s.place (c.diskOf s.host) disk)

include worked

theorem Laid.setDisk_of_worked (laid : Laid sites c) (mem : s ∈ sites) :
    Laid sites (c.setDisk s.host disk) :=
  laid.setDisk ((laid.houses mem).tended_of_worked worked)

theorem Prepared.setDisk (prepared : Prepared sites c) (mem : s ∈ sites) :
    Prepared sites (c.setDisk s.host disk) where
  apart := prepared.apart
  leads := by
    intro t memT
    by_cases sameHost : t.host = s.host
    · rw [sameHost, diskOf_setDisk_self, ← sameHost]
      apply (prepared.leads t memT).sameOutside
      rw [sameHost]
      exact worked.outside.mono (by simpa using Site.place_mem_placesOn mem)
    · rw [diskOf_setDisk_of_ne sameHost]
      exact prepared.leads t memT
  plain := (prepared.laid.setDisk_of_worked worked mem).plain
  ordered := (prepared.laid.setDisk_of_worked worked mem).ordered

/-- The other sites keep their files. -/
theorem leafAt?_setDisk_of_ne (apart : Site.Apart sites) (mem : s ∈ sites) (memT : t ∈ sites)
    (other : s ≠ t) (xs : Place) : (c.setDisk s.host disk).leafAt? t xs = c.leafAt? t xs := by
  unfold Cluster.leafAt?
  by_cases sameHost : t.host = s.host
  · have kinds : disk.kindAt? (t.place ++ xs) = (c.diskOf s.host).kindAt? (t.place ++ xs) := by
      apply worked.outside
      simpa using apart.not_inside mem memT other sameHost.symm xs
    rw [sameHost, diskOf_setDisk_self]
    unfold Disk.leafAt?
    rw [kinds]
  · rw [diskOf_setDisk_of_ne sameHost]

end Worked

theorem leafAt?_setDisk_self (c : Cluster) (s : Site) (disk : Disk) (xs : Place) :
    (c.setDisk s.host disk).leafAt? s xs = disk.leafAt? (s.place ++ xs) := by
  rw [Cluster.leafAt?, diskOf_setDisk_self]

end Cluster

end Dfs
