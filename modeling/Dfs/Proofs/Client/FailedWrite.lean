import Dfs.Proofs.Client.Writing
import Dfs.Proofs.Cluster.Agreement
import Dfs.Proofs.Store.Failed

/-!
What a write leaves that fails (`failed_write`). A file is made before its bytes are on their
way, and nobody takes it back; and bytes are written until there is no more room for them, and
nobody takes those back either. If neither has happened, nothing has changed. Every client can
leave an empty file, by asking for a position beyond what a request can hold (`newFile_of_large`).
-/

namespace Dfs.Client

open Command Cluster

variable {naming : Address} {c c' c₁ : Cluster} {p : Path} {h : Handle} {host : Nat}
  {root : HostPath} {place : Place} {offset : UInt64} {data : List UInt8} {text : String}

/-- What a write can leave that fails. -/
inductive Remains (c c' : Cluster) (text : String) (create : Bool) (offset : UInt64)
    (data : List UInt8) : Prop
  /-- No file and no name has changed. -/
  | nothing (same : SameFiles c c')
  /-- The file that was made for the bytes is all that is new, and it is empty. -/
  | file (p : Path) (h : Handle) (host : Nat) (root : HostPath) (place : Place)
    (parsed : Path.parse text = .ok p) (made : create = true)
    (added : NewFile c c' p h host root place)
    (impossible : Undeliverable (c.diskOf host) p offset data)
  /-- The first bytes are in the file, which was there or has been made for them. -/
  | part (p : Path) (h : Handle) (host : Nat) (root : HostPath) (place : Place) (before : Content)
    (c₁ : Cluster) (parsed : Path.parse text = .ok p)
    (start : c₁ = c ∨ create = true ∧ NewFile c c₁ p h host root place ∧ before = .empty)
    (owner : c₁.registry.owner p = .ok h)
    (reached : c₁.network.connect h.storage = .ok (.node host root .storage))
    (cut : CutOff c₁ c' p host root place before offset data)

/-- What cannot be written to a file that has just been made could not have been written
before. -/
theorem undeliverable_of_newFile (added : NewFile c c₁ p h host root place)
    (impossible : Undeliverable (c₁.diskOf host) p offset data) :
    Undeliverable (c.diskOf host) p offset data := by
  rwa [Undeliverable, added.largest] at impossible

section Failed

variable (reached : c.network.connect naming = .ok (.naming .service))

include reached

variable (known : ∀ h, c.registry.Knows h → ∃ host root, AtHost c h host root)

include known

/-- In a cluster whose nodes can all be reached, bytes that do not arrive at a file that is
there have changed nothing, or were cut off. -/
theorem remains_of_deliver_error {failure : Failure} (parsed : Path.parse text = .ok p)
    (create : Bool) (failed : deliver (client naming) p offset data c = (.error failure, c')) :
    Remains c c' text create offset data := by
  have owner : ∀ h, c.registry.owner p = .ok h →
      ∃ host root, c.network.connect h.storage = .ok (.node host root .storage) := by
    intro h owned
    rw [Registry.owner, mapError_eq_ok_iff, Namespace.owner_eq_ok_iff] at owned
    obtain ⟨host, root, atHost⟩ := known h (.inr ⟨p, owned⟩)
    exact ⟨host, root, atHost.storage⟩
  rcases deliver_of_error reached owner failed with
    same | ⟨h, host, root, place, before, owned, atHost, cut⟩
  · exact .nothing (.of_sameAs same)
  · exact .part p h host root place before c parsed (.inl rfl) owned atHost cut

/-- A write that fails has changed no file and no name, in a cluster whose nodes can all be
reached, unless it was to make its file and has done so, or its bytes were cut off. If so, its
bytes are too many to be sent, or there is no room for them where they were to be. -/
theorem failed_write {create : Bool} {failure : Failure}
    (failed : (client naming).write text offset data create c = (.error failure, c')) :
    Remains c c' text create offset data := by
  cases parsed : Path.parse text with
  | error e =>
      rw [Client.write, readPath, parsed] at failed
      cases failed
      exact .nothing (.refl c)
  | ok p =>
      cases create with
      | false =>
          rw [write_of_parse parsed] at failed
          exact remains_of_deliver_error reached known parsed false failed
      | true =>
          have turn : ∀ h, c.registry.pick = some h → ∃ host root, AtHost c h host root :=
            fun h picked => known h (.inl (Registry.mem_nodes_of_pick picked))
          rw [write_of_parse parsed, if_pos rfl] at failed
          cases ensureFile_cases (p := p) reached turn with
          | made h host root place c₁ added ensured =>
              have reached₁ : c₁.network.connect naming = .ok (.naming .service) := by
                rw [added.network, reached]
              rw [bind_of_ok ensured] at failed
              have delivered := failed ▸ deliver_of_located added.located reached₁
              cases delivered with
              | done disk after possible whole idle denotes done => cases done
              | refused failure c₂ impossible same failed =>
                  cases failed
                  exact .file p h host root place parsed rfl (added.of_sameAs same)
                    (undeliverable_of_newFile added impossible)
              | part failure c₂ cut failed =>
                  cases failed
                  exact .part p h host root place .empty c₁ parsed (.inr ⟨rfl, added, rfl⟩)
                    added.located.owner added.located.reached cut
          | there contained ensured =>
              rw [bind_of_ok ensured] at failed
              exact remains_of_deliver_error reached known parsed true failed
          | kept c₁ absent same ensured =>
              rw [bind_of_ok ensured] at failed
              have reached₁ : c₁.network.connect naming = .ok (.naming .service) := by
                rw [same.network, reached]
              obtain ⟨failure', lost⟩ :=
                deliver_of_absent reached₁ (same.contains_eq_false absent) offset data
              rw [lost] at failed
              cases failed
              exact .nothing same
          | failed failure c₁ same refused =>
              rw [bind_of_error refused] at failed
              cases failed
              exact .nothing same

end Failed

/-- At a position that no request can hold nothing is written. -/
theorem Delivered.refused_of_large {content : Content} {outcome : Except Failure Unit × Cluster}
    (delivered : Delivered c p host root place content offset data outcome)
    (large : UInt64.size / 2 ≤ offset.toNat) :
    ∃ failure c', outcome = (.error failure, c') ∧ SameAs c c' := by
  cases delivered with
  | done disk after possible whole idle denotes done => exact absurd (.inl large) possible
  | refused failure c' impossible same failed => exact ⟨failure, c', failed, same⟩
  | part failure c' cut failed => exact absurd cut.small (Nat.not_lt.mpr large)

/-- The one node is reached. -/
theorem atHost_home (d : Disk) (h : Handle)
    (known : (alone d home.root homeNames).registry.Knows h) :
    ∃ host root, AtHost (alone d home.root homeNames) h host root := by
  rw [eq_nodeAt_of_knows known]
  exact ⟨0, home.root, rfl, rfl⟩

/-- Where the file was there, and the position beyond what is possible, nothing has changed. -/
theorem failed_write_home :
    ∃ failure c', (client serviceAt).write "/f" 9223372036854775808 [1] false
        (alone homeDisk home.root homeNames) = (.error failure, c') ∧
      SameFiles (alone homeDisk home.root homeNames) c' := by
  have reached : (alone homeDisk home.root homeNames).network.connect serviceAt =
      .ok (.naming .service) := rfl
  have parsed : Path.parse "/f" = .ok homeFile := by decide
  have located : (alone homeDisk home.root homeNames).Located homeFile nodeAt 0 home.root
      [[0x72], [0x66]] .empty :=
    ⟨rfl, rfl, ⟨_, rfl, rfl⟩, by decide⟩
  have large : UInt64.size / 2 ≤ (9223372036854775808 : UInt64).toNat := by decide
  obtain ⟨failure, c', failed, -⟩ :=
    (write_of_located located reached parsed false).refused_of_large large
  refine ⟨failure, c', failed, ?_⟩
  cases failed_write reached (atHost_home homeDisk) failed with
  | nothing same => exact same
  | file p h host root place parsed made => cases made
  | part p h host root place before c₁ parsed start owner reached cut =>
      exact absurd cut.small (by decide)

/-! ### A file that stays behind -/

/-- A file that was made for bytes at such a position stays. -/
theorem newFile_of_large (reached : c.network.connect naming = .ok (.naming .service))
    (added : NewFile c c₁ p h host root place)
    (ensured : ensureFile (client naming) p c = (.ok (), c₁)) (parsed : Path.parse text = .ok p)
    (large : UInt64.size / 2 ≤ offset.toNat) :
    ∃ failure c', (client naming).write text offset data true c = (.error failure, c') ∧
      NewFile c c' p h host root place := by
  have reached₁ : c₁.network.connect naming = .ok (.naming .service) := by
    rw [added.network, reached]
  rw [write_of_parse parsed, if_pos rfl, bind_of_ok ensured]
  have delivered := @deliver_of_located naming c₁ p h host root place .empty offset data
    added.located reached₁
  obtain ⟨failure, c', failed, same⟩ := delivered.refused_of_large large
  exact ⟨failure, c', failed, added.of_sameAs same⟩

/-- The file `/x` can be made. -/
theorem isSome_ensureFile_home : ((ensureFile (client serviceAt) ⟨[nameX]⟩
    (alone homeDisk home.root homeNames)).2.registry.names.kindAt? ⟨[nameX]⟩).isSome := by
  decide +kernel

/-- The service and its node are reached, the write fails, and there is a file `/x` where
nothing was. -/
theorem failed_write_leaves_file :
    (alone homeDisk home.root homeNames).network.connect serviceAt = .ok (.naming .service) ∧
      (∀ h, (alone homeDisk home.root homeNames).registry.Knows h →
        ∃ host root, AtHost (alone homeDisk home.root homeNames) h host root) ∧
      ∃ failure c', (client serviceAt).write "/x" 9223372036854775808 [] true
          (alone homeDisk home.root homeNames) = (.error failure, c') ∧
        (alone homeDisk home.root homeNames).registry.names.kindAt? ⟨[nameX]⟩ = none ∧
        c'.registry.names.kindAt? ⟨[nameX]⟩ = some (.leaf nodeAt) ∧
        ¬ SameFiles (alone homeDisk home.root homeNames) c' := by
  have reached : (alone homeDisk home.root homeNames).network.connect serviceAt =
      .ok (.naming .service) := rfl
  have parsed : Path.parse "/x" = .ok ⟨[nameX]⟩ := by decide
  have large : UInt64.size / 2 ≤ (9223372036854775808 : UInt64).toNat := by decide
  have turn : ∀ h, (alone homeDisk home.root homeNames).registry.pick = some h →
      ∃ host root, AtHost (alone homeDisk home.root homeNames) h host root :=
    fun h picked => atHost_home homeDisk h (.inl (Registry.mem_nodes_of_pick picked))
  have absent : (alone homeDisk home.root homeNames).registry.names.kindAt? ⟨[nameX]⟩ = none := rfl
  have there := isSome_ensureFile_home
  have ended : Ensured (alone homeDisk home.root homeNames) ⟨[nameX]⟩
      (ensureFile (client serviceAt) ⟨[nameX]⟩ (alone homeDisk home.root homeNames)) :=
    ensureFile_cases reached turn
  refine ⟨reached, atHost_home homeDisk, ?_⟩
  cases ended with
  | made h host root place c₁ added ensured =>
      obtain ⟨failure, c', failed, left⟩ :=
        newFile_of_large reached added ensured parsed large
      have known := Registry.mem_nodes_of_pick left.picked
      have file : c'.registry.names.kindAt? ⟨[nameX]⟩ = some (.leaf nodeAt) := by
        rw [left.names, if_pos rfl, eq_nodeAt_of_knows (.inl known)]
      refine ⟨failure, c', failed, absent, file, fun same => ?_⟩
      rw [same.names, absent] at file
      cases file
  | there contained ensured =>
      rw [ensured, absent] at there
      cases there
  | kept c₁ _ same ensured =>
      rw [ensured, same.names, absent] at there
      cases there
  | failed failure c₁ same failed =>
      rw [failed, same.names, absent] at there
      cases there

/-! ### Bytes that stay behind -/

/-- The same directory, on a disk whose files may have a bit less than 16 TiB. -/
def narrowDisk : Disk :=
  { homeDisk with
    largest := Store.narrowStore.disk.largest
    largest_le := Store.narrowStore.disk.largest_le }

/-- Of two bytes the first one is the last for which there is room. -/
theorem cutOff_narrow :
    let outcome := (client serviceAt).write "/f" 17592186040319 [1, 2] false
      (alone narrowDisk home.root homeNames)
    outcome.1.isOk = false ∧
      (outcome.2.diskOf 0).leafAt? [[0x72], [0x66]] ≠ some (.file .empty) := by
  decide +kernel

/-- A write that fails can leave a file where nothing was, and bytes in a file that was
there, although the service and its node are reached. -/
theorem failed_write_leaves_traces :
    ((alone homeDisk home.root homeNames).network.connect serviceAt = .ok (.naming .service) ∧
      (∀ h, (alone homeDisk home.root homeNames).registry.Knows h →
        ∃ host root, AtHost (alone homeDisk home.root homeNames) h host root) ∧
      ∃ failure c', (client serviceAt).write "/x" 9223372036854775808 [] true
          (alone homeDisk home.root homeNames) = (.error failure, c') ∧
        (alone homeDisk home.root homeNames).registry.names.kindAt? ⟨[nameX]⟩ = none ∧
        c'.registry.names.kindAt? ⟨[nameX]⟩ = some (.leaf nodeAt) ∧
        ¬ SameFiles (alone homeDisk home.root homeNames) c') ∧
    (alone narrowDisk home.root homeNames).network.connect serviceAt = .ok (.naming .service) ∧
      (∀ h, (alone narrowDisk home.root homeNames).registry.Knows h →
        ∃ host root, AtHost (alone narrowDisk home.root homeNames) h host root) ∧
      ∃ failure c', (client serviceAt).write "/f" 17592186040319 [1, 2] false
          (alone narrowDisk home.root homeNames) = (.error failure, c') ∧
        ¬ SameFiles (alone narrowDisk home.root homeNames) c' := by
  refine ⟨failed_write_leaves_file, rfl, atHost_home narrowDisk, ?_⟩
  obtain ⟨refused, changed⟩ := cutOff_narrow
  generalize (client serviceAt).write "/f" 17592186040319 [1, 2] false
    (alone narrowDisk home.root homeNames) = outcome at refused changed
  obtain ⟨answer, c'⟩ := outcome
  cases answer with
  | ok done => cases refused
  | error failure =>
      refine ⟨failure, c', rfl, fun same => changed ?_⟩
      rw [same.files]
      rfl

end Dfs.Client
