import Dfs.Proofs.Disk.Detours
import Dfs.Proofs.Store.Effects

/-!
What a storage node does to a disk on which there may be others, also if the path of its root
leads through the files of one of them, and nowhere any more. Nothing changes but what is below
the places of the nodes, and there are only directories and regular files afterwards
(`tended_serveStorage`, `tended_serveCommand`).
-/

namespace Dfs.Store

open Disk

variable {st : Store} {ps : List Place} {place : Place} {p : Path}

/-- What a deletion leaves differs only below the root. -/
theorem worked_leftover (nonempty : p.place ≠ []) :
    Worked place st.disk (st.leftover (place ++ p.place)) where
  outside := leftover_outside nonempty
  inside := by
    intro xs kind there
    rw [kindAt?_leftover (by simp [nonempty])] at there
    split at there
    · cases there
    split at there
    · next same =>
        split at there
        · next through =>
            rw [same, through.1]
            exact .inl there
        · cases there
    · exact .inl there
  ordered := by
    intro ordered
    unfold leftover
    split
    · exact ordered_set ordered Tree.ordered_empty
    · exact ordered_erase ordered _

variable (houses : st.disk.Houses ps st.root place)

include houses

/-- If the path is that of a file, the root leads to its place. -/
theorem Denotes.rooted {q : Place} {content : Content} (denotes : st.Denotes p q content) :
    st.disk.Rooted st.root place := by
  obtain ⟨h, mapped, found⟩ := denotes
  rw [hostPath_eq_ok_iff] at mapped
  obtain rfl := (Path.toHost_eq_ok_iff.mp mapped).2
  by_cases isRoot : p.isRoot = true
  · rw [Path.place_eq_nil_iff.mpr isRoot, HostPath.below_nil] at found
    exact (houses.rooted_of_root found).2
  · exact houses.rooted_of_resolve (Path.relative_of_toHost (by simpa using isRoot) mapped) found

theorem tended_write (p : Path) (offset : Int64) (data : List UInt8) :
    Tended ps st.disk (st.write p offset data).2.disk := by
  have outcome := write_outcome st p offset data
  generalize st.write p offset data = result at outcome ⊢
  cases outcome with
  | refused | idle => exact .refl houses.plain
  | written denotes | torn _ denotes =>
      exact houses.tended_of_worked (denotes.changed (denotes.rooted houses) _).1

theorem tended_create (p : Path) : Tended ps st.disk (st.create p).2.disk := by
  have outcome := create_outcome st p
  generalize st.create p = result at outcome ⊢
  cases outcome with
  | refused => exact .refl houses.plain
  | stopped mapped =>
      obtain ⟨relative, rfl⟩ := mapped.below
      exact houses.tended_makeDirectories relative
  | made mapped _ climbed done =>
      obtain ⟨relative, rfl⟩ := mapped.below
      have tended := houses.tended_makeDirectories relative
      rw [climbed] at tended
      have houses' := houses.of_tended tended
      obtain ⟨dir, name, vacant, -⟩ := createFile_eq_ok_iff.mp done
      have rooted := houses'.rooted_of_resolve relative vacant
      exact tended.trans (houses'.tended_of_worked (rooted.createFile_eq_ok relative done).2.2)

theorem tended_delete (p : Path) : Tended ps st.disk (st.delete p).2.disk := by
  by_cases rooted : st.disk.Rooted st.root place
  · rcases delete_cases_of_rooted rooted p with same | ⟨notRoot, ⟨h, mapped⟩, there, fits⟩
    · rw [same]
      exact .refl houses.plain
    · rw [delete_eq rooted notRoot there fits]
      exact houses.tended_of_worked
        (worked_leftover (Path.relative_of_toHost notRoot mapped).nonempty)
  · -- What is seen below the root cannot be seen.
    have unseen : ∀ {h : HostPath} {node : DiskNode}, st.OnHost p h →
        st.disk.linkStat h ≠ .ok node := by
      intro h node mapped seen
      obtain ⟨relative, rfl⟩ := mapped.below
      obtain ⟨q, found⟩ := Disk.linkStat_eq_ok_iff.mp seen
      exact rooted (houses.rooted_of_resolve relative found)
    have outcome := delete_outcome st p
    generalize st.delete p = result at outcome ⊢
    cases outcome with
    | refused => exact .refl houses.plain
    | directory mapped seen | leaf mapped seen => exact absurd seen (unseen mapped)

/-! ### Interfaces -/

theorem tended_serveStorage (r : Request) :
    Tended ps st.disk (st.serveStorage r).2.disk := by
  cases r with
  | write p offset data => exact tended_write houses p offset data
  | _ => exact .refl houses.plain

theorem tended_serveCommand (r : Request) :
    Tended ps st.disk (st.serveCommand r).2.disk := by
  cases r with
  | create p => exact tended_create houses p
  | delete p => exact tended_delete houses p
  | _ => exact .refl houses.plain

end Dfs.Store
