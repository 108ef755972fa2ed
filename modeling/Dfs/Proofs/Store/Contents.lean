import Dfs.Proofs.Store.Commands

/-!
What a storage node serves of a file: its length and its bytes depend on nothing else
on the disk than that file (`Store.size_congr`, `Store.read_congr`).
-/

namespace Dfs

namespace Disk

variable {d d' : Disk} {root : HostPath} {place : Place} {names : List HostName} {p : Path}

theorem Serves.relative_of_leaf (serves : d.Serves root place)
    (there : d.leafAt? (place ++ p.place) ≠ none) : HostPath.Relative p.place := by
  have onDisk : d.kindAt? (place ++ p.place) ≠ none := by
    intro none
    rw [leafAt?, none] at there
    exact there rfl
  exact Path.relative_of_toHost (serves.rooted.isRoot_eq_false there)
    (Store.toHost_of_there serves.rooted onDisk)

/-- What is seen of a file, be it that the host does not take its path, is the same on all
disks that have this file. -/
theorem Serves.stat_congr (serves : d.Serves root place) (serves' : d'.Serves root place)
    (relative : HostPath.Relative names) (there : d.leafAt? (place ++ names) ≠ none)
    (same : d'.leafAt? (place ++ names) = d.leafAt? (place ++ names)) :
    d'.stat (root.below names) = d.stat (root.below names) := by
  obtain ⟨item, leaf⟩ := Option.ne_none_iff_exists'.mp there
  by_cases fits : root.Fits names
  · have seen : ∀ e : Disk, e.Serves root place → e.leafAt? (place ++ names) = some item →
        e.stat (root.below names) = .ok (.leaf item) := by
      intro e serves leaf
      have onDisk := Tree.kindAt?_eq_leaf_iff.mp (leafAt?_eq_some_iff.mp leaf)
      have found : e.resolve true (root.below names) = .ok (.found (place ++ names) (.leaf item)) :=
        (serves.rooted.resolve_eq_found_iff relative).mpr ⟨rfl, onDisk, fits⟩
      exact stat_of_found found
    rw [seen d serves leaf, seen d' serves' (same.trans leaf)]
  · cases checked : (root.below names).check with
    | ok taken => exact absurd (HostPath.check_eq_ok_iff.mp checked).2.2 fits
    | error fault =>
        rw [stat_of_fault (resolve_of_refused checked true),
          stat_of_fault (resolve_of_refused checked true)]

end Disk

namespace Store

open Disk

variable {d d' : Disk} {root : HostPath} {place : Place} {p : Path}

theorem fileLength_congr {h : HostPath} (same : d'.stat h = d.stat h) (p : Path) :
    (⟨root, d'⟩ : Store).fileLength h p = (⟨root, d⟩ : Store).fileLength h p := by
  unfold fileLength
  rw [same]

section Same

variable (serves : d.Serves root place) (serves' : d'.Serves root place)
  (there : d.leafAt? (place ++ p.place) ≠ none)
  (same : d'.leafAt? (place ++ p.place) = d.leafAt? (place ++ p.place))

include serves serves' there same

theorem stat_congr {h : HostPath} (mapped : p.toHost root = .ok h) : d'.stat h = d.stat h := by
  obtain rfl := (Path.toHost_eq_ok_iff.mp mapped).2
  exact serves.stat_congr serves' (serves.relative_of_leaf there) there same

theorem size_congr : (⟨root, d'⟩ : Store).size p = (⟨root, d⟩ : Store).size p := by
  have host : (⟨root, d'⟩ : Store).hostPath p = (⟨root, d⟩ : Store).hostPath p := rfl
  unfold size
  rw [host]
  split
  · rfl
  next h mapped =>
  rw [hostPath_eq_ok_iff] at mapped
  rw [fileLength_congr (stat_congr serves serves' there same mapped)]

theorem read_congr (offset length : Int64) : (⟨root, d'⟩ : Store).read p offset length =
    (⟨root, d⟩ : Store).read p offset length := by
  have host : (⟨root, d'⟩ : Store).hostPath p = (⟨root, d⟩ : Store).hostPath p := rfl
  unfold read
  rw [host]
  split
  · rfl
  split
  · rfl
  next h mapped =>
  rw [hostPath_eq_ok_iff] at mapped
  have seen := stat_congr serves serves' there same mapped
  have content : d'.readFile h = d.readFile h := by
    unfold readFile
    rw [seen]
  rw [fileLength_congr seen]
  dsimp only
  rw [content]

end Same

end Store

end Dfs
