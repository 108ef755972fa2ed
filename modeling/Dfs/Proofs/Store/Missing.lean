import Dfs.Proofs.Disk.Frontier
import Dfs.Proofs.Store.Commands

/-!
What requests for contents answer where there is no file (`noFile_answers`): all the same
error. It says that nothing is found if a directory is there, or if nothing is there and only
directories lead to it. A file on the way, and a path that is too long for the host, are
reported as other faults of the host (`size_below_file`).
-/

namespace Dfs.Store

open Disk

variable {st : Store} {place : Place} {p : Path} {h : HostPath}

/-- Why there is no file at the path, with the error that says so. -/
inductive NoFile (st : Store) (place : Place) (p : Path) : Error → Prop where
  /-- The host does not take the path. -/
  | long : ¬ st.root.Fits p.place →
      NoFile st place p (.io s!"{p}: File name too long (os error 36)")
  | directory : st.root.Fits p.place → st.disk.kindAt? (place ++ p.place) = some .dir →
      NoFile st place p (.notFound s!"{p} is a directory")
  /-- A file is on the way. -/
  | blocked (xs : Place) : st.root.Fits p.place → xs <+: p.place →
      st.disk.leafAt? (place ++ xs) ≠ none →
      NoFile st place p (.io s!"{p}: Not a directory (os error 20)")
  | nowhere : st.root.Fits p.place → st.disk.kindAt? (place ++ p.place) = none →
      (∀ xs, xs <+: p.place → st.disk.leafAt? (place ++ xs) = none) →
      NoFile st place p (.notFound p.text)

theorem leafAt?_of_isDir {d : Disk} {xs ys : Place} (isDir : d.kindAt? ys = some .dir)
    (lead : xs <+: ys) : d.leafAt? xs = none := by
  unfold leafAt?
  by_cases same : xs = ys
  · rw [same, isDir]
    rfl
  · rw [ kindAt?_of_isPrefix lead same (by simp [isDir])]
    rfl

/-- Nothing is found, if no file is on the way and the host takes the path. -/
theorem NoFile.notFound_iff {e : Error} (noFile : st.NoFile place p e) : e.kind = .notFound ↔
    st.root.Fits p.place ∧ ∀ xs, xs <+: p.place → st.disk.leafAt? (place ++ xs) = none := by
  cases noFile with
  | long unfit => exact iff_of_false (by simp [Error.io]) fun both => unfit both.1
  | directory fits isDir =>
      refine iff_of_true rfl ⟨fits, fun xs lead => ?_⟩
      exact leafAt?_of_isDir isDir ((List.prefix_append_right_inj place).mpr lead)
  | blocked xs fits lead leaf =>
      exact iff_of_false (by simp [Error.io]) fun both => leaf (both.2 xs lead)
  | nowhere fits nothing clear => exact iff_of_true rfl ⟨fits, clear⟩

/-! ### What the host reports -/

theorem ofFault_nameTooLong (what : String) :
    Error.ofFault what .nameTooLong = .io s!"{what}: File name too long (os error 36)" := by
  have text : ": " ++ Fault.nameTooLong.text = ": File name too long (os error 36)" := by decide
  show Error.io (what ++ ": " ++ Fault.nameTooLong.text) = _
  rw [String.append_assoc, text]
  rfl

theorem ofFault_notDirectory (what : String) :
    Error.ofFault what .notDirectory = .io s!"{what}: Not a directory (os error 20)" := by
  have text : ": " ++ Fault.notDirectory.text = ": Not a directory (os error 20)" := by decide
  show Error.io (what ++ ": " ++ Fault.notDirectory.text) = _
  rw [String.append_assoc, text]
  rfl

theorem fileLength_of_fault {fault : Fault} (refused : st.disk.resolve true h = .error fault) :
    st.fileLength h p = .error (.ofFault p.text fault) := by
  unfold fileLength
  rw [stat_of_fault refused]

theorem fileLength_of_misses (misses : st.disk.Misses true h) :
    st.fileLength h p = .error (.notFound p.text) := by
  unfold fileLength
  rw [stat_of_misses misses]
  rfl

theorem fileLength_of_directory {q : Place} {entries : Tree.Folder HostName DiskItem}
    (found : st.disk.resolve true h = .ok (.found q (.dir entries))) :
    st.fileLength h p = .error (.notFound s!"{p} is a directory") := by
  unfold fileLength
  rw [stat_of_found found]

/-! ### Paths without a file -/

section Paths

variable (rooted : st.disk.Rooted st.root place) (valid : ∀ name ∈ p.place, HostName.IsValid name)
  (absent : st.disk.leafAt? (place ++ p.place) = none)

include rooted valid absent

theorem exists_noFile_of_fits (fits : st.root.Fits p.place) :
    ∃ e, st.NoFile place p e ∧ st.fileLength (st.root.below p.place) p = .error e := by
  have taken : st.root.Taken p.place :=
    ⟨fun name mem => (valid name mem).toIsPiece,
      fun name mem => ⟨(valid name mem).notDot, (valid name mem).notDotDot⟩,
      fun name mem => (valid name mem).noNul, fits⟩
  cases st.disk.frontier rooted.kindAt?_place p.place with
  | whole along =>
      obtain ⟨q, entries, found⟩ : ∃ q entries,
          st.disk.resolve true (st.root.below p.place) = .ok (.found q (.dir entries)) := by
        by_cases top : p.isRoot = true
        · exact ⟨place, resolve_of_isRoot rooted top⟩
        · obtain ⟨entries, there⟩ := kindAt?_eq_dir_iff.mp along.isDir
          have nonempty : p.place ≠ [] := fun none => top (Path.place_eq_nil_iff.mp none)
          exact ⟨_, entries, (rooted.resolve_eq_found_iff (taken.relative nonempty)).mpr
            ⟨rfl, there, fits⟩⟩
      exact ⟨_, .directory fits along.isDir, fileLength_of_directory found⟩
  | absent front name rest same along short nothing =>
      have misses : st.disk.Misses true (st.root.below p.place) := by
        rw [same] at taken ⊢
        exact rooted.misses_of_absent taken along short nothing true
      have below : place ++ (front ++ [name]) <+: place ++ p.place := by simp [same]
      refine ⟨_, .nowhere fits (kindAt?_none_of_isPrefix below nothing) ?_,
        fileLength_of_misses misses⟩
      rw [same]
      exact fun xs lead => along.leafAt?_of_absent nothing lead
  | leaf front name rest item same along short leaf =>
      have there := leafAt?_eq_some_iff.mpr leaf
      have resolved := rooted.resolve_leaf (same ▸ taken) along short leaf true
      rw [← same, if_neg] at resolved
      · have answer := fileLength_of_fault (p := p) resolved
        rw [ofFault_notDirectory] at answer
        exact ⟨_, .blocked (front ++ [name]) fits (by simp [same]) (by simp [there]), answer⟩
      · rintro rfl
        rw [same, there] at absent
        cases absent
  | long front name rest same along long =>
      exact absurd long (Nat.not_lt.mpr (valid name (by simp [same])).short)

theorem exists_noFile :
    ∃ e, st.NoFile place p e ∧ st.fileLength (st.root.below p.place) p = .error e := by
  by_cases fits : st.root.Fits p.place
  · exact exists_noFile_of_fits rooted valid absent fits
  · have refused : st.disk.resolve true (st.root.below p.place) = .error .nameTooLong :=
      resolve_of_refused (rooted.check_of_not_fits (fun name mem => (valid name mem).noNul) fits) true
    have answer := fileLength_of_fault (p := p) refused
    rw [ofFault_nameTooLong] at answer
    exact ⟨_, .long fits, answer⟩

end Paths

/-! ### Requests -/

/-- Where there is no file, all requests for contents are answered by the same error, and none
changes anything. It says that nothing is found, exactly if no file is on the way and the host
takes the path. -/
theorem noFile_answers (rooted : st.disk.Rooted st.root place)
    (valid : ∀ name ∈ p.place, HostName.IsValid name)
    (absent : st.disk.leafAt? (place ++ p.place) = none) {offset length : Int64}
    (first : 0 ≤ offset.toInt) (count : 0 ≤ length.toInt) (data : List UInt8) :
    ∃ e, st.NoFile place p e ∧ st.serveStorage (.size p) = (.error e, st) ∧
      st.serveStorage (.read p offset length) = (.error e, st) ∧
      st.serveStorage (.write p offset data) = (.error e, st) ∧
      (e.kind = .notFound ↔ st.root.Fits p.place ∧
        ∀ xs, xs <+: p.place → st.disk.leafAt? (place ++ xs) = none) := by
  obtain ⟨e, noFile, measured⟩ := exists_noFile rooted valid absent
  have mapped : st.hostPath p = .ok (st.root.below p.place) :=
    hostPath_eq_ok_iff.mpr (Path.toHost_eq_ok_iff.mpr
      ⟨fun name mem => ⟨(valid name mem).notDot, (valid name mem).notDotDot⟩, rfl⟩)
  refine ⟨e, noFile, ?_, ?_, ?_, noFile.notFound_iff⟩
  · unfold serveStorage size
    dsimp only
    rw [mapped]
    dsimp only
    rw [measured]
    rfl
  · unfold serveStorage read
    dsimp only
    rw [if_neg (by omega), mapped]
    dsimp only
    rw [measured]
    rfl
  · unfold serveStorage write
    dsimp only
    rw [if_neg (by omega), mapped]
    dsimp only
    rw [measured]
    rfl

/-- A node with the file `k`. -/
def oneFile : Store := ⟨⟨[0x68]⟩, { top := [([0x68], .dir [([0x6B], .leaf (.file .empty))])] }⟩

/-- The path of a file in `k`, as if that was a directory. -/
def belowFile : Path := ⟨[⟨"k", by decide⟩, ⟨"m", by decide⟩]⟩

/-- Beside the file nothing is found. -/
theorem noFile_answers_beside : ∃ (p : Path) (e : Error), e.kind = .notFound ∧
    oneFile.serveStorage (.size p) = (.error e, oneFile) ∧
    oneFile.serveStorage (.read p 0 0) = (.error e, oneFile) ∧
    oneFile.serveStorage (.write p 0 [1]) = (.error e, oneFile) := by
  have rooted : oneFile.disk.Rooted oneFile.root [[0x68]] :=
    ⟨Plain.of_places rfl (by decide) (by decide), _, rfl⟩
  obtain ⟨e, noFile, sizes, reads, writes, found⟩ := @noFile_answers
    oneFile _ ⟨[⟨"g", by decide⟩]⟩ rooted (by decide) (by decide) 0 0 (by decide) (by decide) [1]
  have clear : ∀ xs ∈ (Path.place ⟨[⟨"g", by decide⟩]⟩).inits,
      oneFile.disk.leafAt? ([[0x68]] ++ xs) = none := by decide
  exact ⟨_, e, found.mpr ⟨by decide, fun xs lead => clear xs ((List.mem_inits _ _).mpr lead)⟩,
    sizes, reads, writes⟩

/-- Below the file nothing is, and the answer is another one. -/
theorem size_below_file : oneFile.disk.Rooted oneFile.root [[0x68]] ∧
    (∀ name ∈ belowFile.place, HostName.IsValid name) ∧ oneFile.root.Fits belowFile.place ∧
    oneFile.disk.leafAt? ([[0x68]] ++ belowFile.place) = none ∧
    (oneFile.serveStorage (.size belowFile)).1 =
      .error (.io "/k/m: Not a directory (os error 20)") :=
  ⟨⟨Plain.of_places rfl (by decide) (by decide), _, rfl⟩, by decide, by decide, by decide,
    by decide⟩

end Dfs.Store
