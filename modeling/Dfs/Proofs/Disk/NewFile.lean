import Dfs.Proofs.Disk.Directories

/-!
A file that is made where nothing was (`Disk.newFile_of_createFile`). The path that it was
made by leads to it from then on, on whatever disk and through whatever links
(`Disk.NewFile.resolve_vacant`), and no other file has changed.
-/

namespace Dfs.Disk

/-- An empty file is new at a place, and nothing else has changed. -/
structure NewFile (d : Disk) (place : Place) (d' : Disk) : Prop where
  absent : d.kindAt? place = none
  kinds : ∀ js, d'.kindAt? js =
    if js = place then some (.leaf (.file .empty)) else d.kindAt? js

namespace NewFile

variable {d d' : Disk} {place p dir : Place} {name : HostName} {last : Bool}
  (added : d.NewFile place d')

include added

theorem get?_self : d'.get? place = some (.leaf (.file .empty)) := by
  rw [← kindAt?_eq_leaf_iff, added.kinds, if_pos rfl]

theorem kindAt?_of_there {kind : Kind DiskItem} (there : d.kindAt? p = some kind) :
    d'.kindAt? p = some kind := by
  rw [added.kinds, if_neg]
  · exact there
  · rintro rfl
    rw [added.absent] at there
    cases there

theorem leafAt?_of_ne (other : p ≠ place) : d'.leafAt? p = d.leafAt? p := by
  unfold leafAt?
  rw [added.kinds, if_neg other]

theorem keepsWays : d.KeepsWays d' := fun _ _ there _ => added.kindAt?_of_there there

/-- A path that led to nothing, in the directory that the file is in now, leads to the
file. -/
theorem resolve_vacant {h : HostPath} (same : dir ++ [name] = place)
    (vacant : d.resolve last h = .ok (.vacant dir name)) :
    d'.resolve true h = .ok (.found place (.leaf (.file .empty))) :=
  added.keepsWays.resolve (fun _ => rfl) vacant (.vacant dir name same) added.get?_self

end NewFile

/-- What is made by making a file, and where its path leads then. -/
theorem newFile_of_createFile {d d' : Disk} {h : HostPath} (done : d.createFile h = .ok d') :
    ∃ place, d.NewFile place d' ∧
      d'.resolve true h = .ok (.found place (.leaf (.file .empty))) := by
  obtain ⟨dir, name, vacant, rfl⟩ := createFile_eq_ok_iff.mp done
  obtain ⟨isDir, absent⟩ := kindAt?_of_resolve_vacant vacant
  have added : d.NewFile (dir ++ [name]) (d.set (dir ++ [name]) (.leaf (.file .empty))) :=
    ⟨absent, kindAt?_set_vacant (.leaf (.file .empty)) isDir absent fun _ _ => rfl⟩
  exact ⟨dir ++ [name], added, added.resolve_vacant rfl vacant⟩

end Dfs.Disk
