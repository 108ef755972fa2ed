import Dfs.Proofs.Store.Creation

/-!
What requests that fail leave on the disk of a storage node, whatever is on the disk and
wherever the path of the root leads (`failed_keeps`). A failed read and a failed deletion leave
everything as it is. A write whose bytes reach beyond the largest size of a file may leave the
first of them in the file. A creation that fails takes nothing away, but directories may be new:
it makes them before it tries to make the file, and does not remove them. Below a root that is
there, this is so only if a name of the path is too long for the host. `failed_changes` shows
both.
-/

namespace Dfs.Store

open Disk

variable {st : Store} {place : Place} {p : Path}

/-- A request for contents that fails leaves the node as it is, unless it is a write that has
ended early. -/
theorem serveStorage_of_error {r : Request} {e : Error}
    (failed : (st.serveStorage r).1 = .error e) : (st.serveStorage r).2 = st ∨
      ∃ p place before offset data, r = .write p offset data ∧
        st.Torn p place before offset data (st.serveStorage r).2 := by
  cases r with
  | write p offset data =>
      have served : st.serveStorage (.write p offset data) =
          ((st.write p offset data).1.map fun _ => .unit, (st.write p offset data).2) := rfl
      rw [served] at failed ⊢
      cases written : (st.write p offset data).1 with
      | error e =>
          rcases write_of_error written with same | ⟨place, before, torn⟩
          · exact .inl same
          · exact .inr ⟨p, place, before, offset, data, rfl, torn⟩
      | ok done =>
          rw [written] at failed
          cases failed
  | _ => exact .inl rfl

/-- A deletion that fails leaves the node as it is. -/
theorem delete_of_false (failed : (st.delete p).1 = false) : (st.delete p).2 = st := by
  have outcome := delete_outcome st p
  generalize st.delete p = result at outcome failed ⊢
  cases outcome with
  | refused => rfl
  | directory | leaf => cases failed

/-- A creation that fails leaves everything that is on the disk, and only directories are
new. -/
theorem create_of_false (failed : (st.create p).1 = false) :
    (st.create p).2.root = st.root ∧ st.disk.Furnished (st.create p).2.disk := by
  have outcome := create_outcome st p
  generalize st.create p = result at outcome failed ⊢
  cases outcome with
  | refused => exact ⟨rfl, .refl _⟩
  | stopped mapped unseen => exact ⟨rfl, furnished_makeDirectories st.disk _⟩
  | made mapped unseen climbed done => cases failed

/-- Requests that fail leave everything that is on the disk, but for the content of a file whose
bytes a write could not get all in. At most a creation leaves something new, which are
directories: below a root that is there, those before a name that is too long. -/
theorem failed_keeps (st : Store) (p : Path) :
    (∀ r e, (st.serveStorage r).1 = .error e → (st.serveStorage r).2 = st ∨
      ∃ q place before offset data, r = .write q offset data ∧
        st.Torn q place before offset data (st.serveStorage r).2) ∧
    ((st.delete p).1 = false → (st.delete p).2 = st) ∧
    ((st.create p).1 = false →
      (st.create p).2.root = st.root ∧ st.disk.Furnished (st.create p).2.disk ∧
      ∀ place, st.disk.Rooted st.root place → (st.create p).2 = st ∨
        (∃ name ∈ p.place, HostPath.maxName < name.length) ∧
          st.disk.Paved (place ++ shortNames p) (st.create p).2.disk) := by
  refine ⟨fun r e => serveStorage_of_error, delete_of_false, fun failed => ?_⟩
  obtain ⟨root, furnished⟩ := create_of_false failed
  refine ⟨root, furnished, fun place rooted => ?_⟩
  have outcome := creation rooted p
  generalize st.create p = result at outcome failed ⊢
  cases outcome with
  | refused notCreatable => exact .inl rfl
  | made disk creatable created => cases failed
  | stopped disk long paved => exact .inr ⟨long, paved⟩

/-- A node without files. -/
def vacantStore : Store := ⟨⟨[0x68]⟩, { top := [([0x68], .dir [])] }⟩

/-- A path in the directory `d` whose last name is too long. -/
def pathTooLong : Path :=
  ⟨[⟨"d", by decide⟩, ⟨String.ofList (List.replicate 256 'x'), by
    rw [String.toList_ofList]
    decide +kernel⟩]⟩

/-- The directory `d` cannot be deleted, as it is not there, and the creation of a file in it
fails. -/
theorem failed_keeps_vacant :
    ∃ p, (vacantStore.delete p).1 = false ∧ (vacantStore.delete p).2 = vacantStore ∧
    (vacantStore.create pathTooLong).1 = false ∧
    vacantStore.disk.Furnished (vacantStore.create pathTooLong).2.disk := by
  have failed : (vacantStore.create pathTooLong).1 = false := by decide +kernel
  exact ⟨⟨[⟨"d", by decide⟩]⟩, rfl, (failed_keeps vacantStore _).2.1 rfl, failed,
    ((failed_keeps vacantStore pathTooLong).2.2 failed).2.1⟩

/-- A node with the empty file `big`, on a disk whose files may have a bit less than 16 TiB. -/
def narrowStore : Store where
  root := ⟨[0x68]⟩
  disk :=
    { top := [([0x68], .dir [([0x62, 0x69, 0x67], .leaf (.file .empty))])]
      largest := 17592186040320
      largest_le := by decide }

def pathBig : Path := ⟨[⟨"big", by decide⟩]⟩

/-- The directory `d` is new, although the file is not created; and of two bytes that reach
beyond the largest size of a file the first one is written, although the write fails. -/
theorem failed_changes :
    (vacantStore.disk.Rooted vacantStore.root [[0x68]] ∧
      (vacantStore.create pathTooLong).1 = false ∧
      vacantStore.disk.kindAt? [[0x68], [0x64]] = none ∧
      (vacantStore.create pathTooLong).2.disk.kindAt? [[0x68], [0x64]] = some .dir) ∧
    (narrowStore.serveStorage (.write pathBig 17592186040319 [1, 2])).1 =
      .error (.ofFault "/big" .fileTooLarge) ∧
    (narrowStore.serveStorage (.size pathBig)).1 = .ok (.size 0) ∧
    ((narrowStore.serveStorage (.write pathBig 17592186040319 [1, 2])).2.serveStorage
      (.size pathBig)).1 = .ok (.size 17592186040320) := by
  have rooted : vacantStore.disk.Rooted vacantStore.root [[0x68]] :=
    ⟨Plain.of_places rfl (by decide) (by decide), _, rfl⟩
  exact ⟨⟨rooted, by decide +kernel, rfl, by decide +kernel⟩, by decide +kernel, by decide +kernel,
    by decide +kernel⟩

end Dfs.Store
