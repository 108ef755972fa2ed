import Dfs.Proofs.Client.Basic
import Dfs.Proofs.Message.Short
import Dfs.Proofs.Store.Transfer
import Dfs.Proofs.Transport.Frames

/-!
A file that a client reads. The naming service names the node of the file, the node tells
the length if it is asked for, and positions are turned into those that a request can hold.
None of these steps makes another number of the one that was given (`within_iff`), so what
is read is what was asked for, or nothing (`fetch_of_located`).

`Client.read_exact`: what a command that reads does.
-/

namespace Dfs

theorem Store.Denotes.fits {st : Store} {p : Path} {place : Place} {content : Content}
    (denotes : st.Denotes p place content) :
    (st.root.below p.place).bytes.length ≤ HostPath.maxLength := by
  obtain ⟨h, mapped, found⟩ := denotes
  obtain rfl := (Path.toHost_eq_ok_iff.mp (Store.hostPath_eq_ok_iff.mp mapped)).2
  exact (HostPath.check_eq_ok_iff.mp (Disk.resolve_eq_ok_iff.mp found).1).2.2

namespace Cluster

open Command Client

variable {naming : Address} {c c' : Cluster} {p : Path} {h : Handle} {host : Nat} {root : HostPath}
  {place : Place} {content : Content} {offset : UInt64} {length? : Option UInt64}

/-- The naming service knows the path as a file of a node that can be reached, and on the
disk of that node it is a file with this content. -/
structure Located (c : Cluster) (p : Path) (h : Handle) (host : Nat) (root : HostPath)
    (place : Place) (content : Content) : Prop where
  owner : c.registry.owner p = .ok h
  reached : c.network.connect h.storage = .ok (.node host root .storage)
  denotes : (c.storeOf host root).Denotes p place content
  bounded : content.size < UInt64.size / 2

theorem storeOf_setDisk (c : Cluster) (host : Nat) (root : HostPath) (disk : Disk) :
    (c.setDisk host disk).storeOf host root = ⟨root, disk⟩ := by
  rw [storeOf, diskOf_setDisk_self]

theorem sameAs_setDisk (c : Cluster) (host : Nat) :
    SameAs c (c.setDisk host (c.diskOf host)) :=
  ⟨rfl, rfl, diskOf_setDisk_diskOf c host⟩

theorem SameAs.trans {c'' : Cluster} (first : SameAs c c') (second : SameAs c' c'') :
    SameAs c c'' where
  registry := second.registry.trans first.registry
  network := second.network.trans first.network
  disks := fun host => (second.disks host).trans (first.disks host)

theorem Located.of_sameAs (located : Located c p h host root place content)
    (same : SameAs c c') : Located c' p h host root place content where
  owner := by rw [same.registry, located.owner]
  reached := by rw [same.network, located.reached]
  denotes := by
    rw [storeOf, same.disks]
    exact located.denotes
  bounded := located.bounded

/-! ### Where a file is -/

/-- The naming service names the node of a file, or nothing. -/
theorem asked_getStorage_cases (reached : c.network.connect naming = .ok (.naming .service))
    (p : Path) : (∃ e, ask (Call.getStorage call naming p) c = (.error (.error e), c)) ∨
      ∃ h, c.registry.owner p = .ok h ∧
        ask (Call.getStorage call naming p) c = (.ok h.storage.withoutFlow, c) := by
  by_cases small : (Utf8.encode (Request.getStorage p).text).length ≤ Frame.maxLength
  · cases owner : c.registry.owner p with
    | error e =>
        have direct : Operation.directly fromNaming 0 ⟨[]⟩ (.getStorage p) c = (.error e, c) := by
          simp only [Operation.directly, Operation.onRegistry, Registry.getStorage, owner]
          rfl
        exact .inl (askedNaming_of_error (.getStorage p) reached small direct)
    | ok h =>
        have direct : Operation.directly fromNaming 0 ⟨[]⟩ (.getStorage p) c =
            (.ok h.storage, c) := by
          simp only [Operation.directly, Operation.onRegistry, Registry.getStorage, owner]
          rfl
        exact .inr ⟨h, rfl, askedNaming_of_ok (.getStorage p) reached small direct
          (Reply.small_storage h.storage)⟩
  · exact .inl (askedNaming_of_large (.getStorage p) reached (Nat.lt_of_not_le small))

section Located

variable (located : c.Located p h host root place content)

include located

theorem Located.asked_getStorage (reached : c.network.connect naming = .ok (.naming .service)) :
    ask (Call.getStorage call naming p) c = (.ok h.storage.withoutFlow, c) := by
  have small : (Utf8.encode (Request.getStorage p).text).length ≤ Frame.maxLength :=
    Request.small_of_fits rfl root located.denotes.fits
  have direct : Operation.directly fromNaming 0 ⟨[]⟩ (.getStorage p) c = (.ok h.storage, c) := by
    simp only [Operation.directly, Operation.onRegistry, Registry.getStorage, located.owner]
    rfl
  exact askedNaming_of_ok (.getStorage p) reached small direct (Reply.small_storage h.storage)

theorem Located.reached_withoutFlow : c.network.connect h.storage.withoutFlow =
    .ok (Operation.role host root .storage) :=
  (connect_withoutFlow _ _).trans located.reached

/-! ### What its node answers -/

theorem Located.asked_size : ask (Call.size call h.storage.withoutFlow p) c =
    (.ok (UInt64.ofNat content.size), c.setDisk host (c.diskOf host)) := by
  have small : (Utf8.encode (Request.size p).text).length ≤ Frame.maxLength :=
    Request.small_of_fits rfl root located.denotes.fits
  obtain ⟨path, mapped, -, measured⟩ := located.denotes.exists_fileLength
  have size : (c.storeOf host root).size p = .ok (UInt64.ofNat content.size) := by
    rw [Store.size, mapped]
    dsimp only
    rw [measured]
    rfl
  have direct : Operation.directly fromNaming host root (.size p) c =
      (.ok (UInt64.ofNat content.size), c.setDisk host (c.diskOf host)) := by
    simp only [Operation.directly, Operation.onNode, size]
    rfl
  exact asked_of_ok (.size p) located.reached_withoutFlow (by simp) small direct
    (Reply.small_size _)

section Read

variable {first count : Int64} (notBefore : 0 ≤ first.toInt) (notNegative : 0 ≤ count.toInt)

include notBefore notNegative

theorem Located.asked_read_inside
    (inside : first.toInt.toNat + count.toInt.toNat ≤ content.size)
    (fits : Connection.Sendable
      (.ok (.bytes ((content.toList.drop first.toInt.toNat).take count.toInt.toNat)))) :
    ask (Call.read call h.storage.withoutFlow p first count) c =
      (.ok ((content.toList.drop first.toInt.toNat).take count.toInt.toNat),
        c.setDisk host (c.diskOf host)) := by
  have read : (c.storeOf host root).read p first count =
      .ok ((content.toList.drop first.toInt.toNat).take count.toInt.toNat) := by
    rw [located.denotes.read, if_neg (by omega), if_neg (by omega), Content.slice_eq]
  have direct : Operation.directly fromNaming host root (.read p first count) c =
      (.ok ((content.toList.drop first.toInt.toNat).take count.toInt.toNat),
        c.setDisk host (c.diskOf host)) := by
    simp only [Operation.directly, Operation.onNode, read]
    rfl
  exact asked_of_ok (.read p first count) located.reached_withoutFlow (by simp)
    (Request.small_read root located.denotes.fits notBefore notNegative) direct fits

theorem Located.asked_read_outside
    (outside : content.size < first.toInt.toNat + count.toInt.toNat) :
    ∃ e, ask (Call.read call h.storage.withoutFlow p first count) c =
      (.error (.error e), c.setDisk host (c.diskOf host)) := by
  have read : ∃ e, (c.storeOf host root).read p first count = .error e := by
    rw [located.denotes.read, if_neg (by omega), if_pos (by omega)]
    exact ⟨_, rfl⟩
  obtain ⟨e, refused⟩ := read
  have direct : Operation.directly fromNaming host root (.read p first count) c =
      (.error e, c.setDisk host (c.diskOf host)) := by
    simp only [Operation.directly, Operation.onNode, refused]
    rfl
  exact asked_of_error (.read p first count) located.reached_withoutFlow (by simp)
    (Request.small_read root located.denotes.fits notBefore notNegative) direct

end Read

end Located

end Cluster

/-! ### Positions -/

namespace Client

open Command Cluster

variable {naming : Address} {c : Cluster} {p : Path} {h : Handle} {host : Nat} {root : HostPath}
  {place : Place} {content : Content} {offset : UInt64} {length? : Option UInt64} {text : String}

/-- A position is held as it is, or not at all. -/
theorem toInt64_cases (task : Task) (n : UInt64) :
    (∃ held, toInt64 task n = .ok held ∧ held.toInt = n.toNat ∧ n.toNat < UInt64.size / 2) ∨
      (∃ failure, toInt64 task n = .error failure) ∧ UInt64.size / 2 ≤ n.toNat := by
  unfold toInt64
  split
  · next small =>
      exact .inl ⟨_, rfl, Int64.toInt_ofNat_of_lt small, small⟩
  · next large => exact .inr ⟨⟨_, rfl⟩, Nat.le_of_not_lt large⟩

/-- The file has the bytes that are asked for: all of them, and where no number of them is
given, at least the offset. -/
def Within (bytes : List UInt8) (offset : UInt64) : Option UInt64 → Prop
  | some length => offset.toNat + length.toNat ≤ bytes.length
  | none => offset.toNat ≤ bytes.length

instance (bytes : List UInt8) (offset : UInt64) (length? : Option UInt64) :
    Decidable (Within bytes offset length?) :=
  match length? with
  | some length => inferInstanceAs (Decidable (offset.toNat + length.toNat ≤ bytes.length))
  | none => inferInstanceAs (Decidable (offset.toNat ≤ bytes.length))

/-- The bytes that are asked for. -/
def part (bytes : List UInt8) (offset : UInt64) : Option UInt64 → List UInt8
  | some length => (bytes.drop offset.toNat).take length.toNat
  | none => bytes.drop offset.toNat

/-- How many bytes are asked for, given the length of the file. -/
def count (size offset : UInt64) (length? : Option UInt64) : UInt64 :=
  length?.getD (if offset ≤ size then size - offset else 0)

section Bounded

variable {bytes : List UInt8} (bounded : bytes.length < UInt64.size)

include bounded

theorem le_length_iff : offset ≤ UInt64.ofNat bytes.length ↔ offset.toNat ≤ bytes.length := by
  rw [UInt64.le_iff_toNat_le, UInt64.toNat_ofNat_of_lt' bounded]

/-- Without a number of bytes, all that are left are asked for, or none. -/
theorem toNat_count_none : (count (UInt64.ofNat bytes.length) offset none).toNat =
    bytes.length - offset.toNat := by
  rw [count, Option.getD_none]
  split
  · next inside =>
      rw [UInt64.toNat_sub_of_le _ _ inside, UInt64.toNat_ofNat_of_lt' bounded]
  · next beyond =>
      rw [le_length_iff bounded] at beyond
      exact (Nat.sub_eq_zero_of_le (Nat.le_of_not_le beyond)).symm

/-- The number of bytes that are asked for decides whether the file has them. -/
theorem within_iff : Within bytes offset length? ↔
    offset.toNat + (count (UInt64.ofNat bytes.length) offset length?).toNat ≤ bytes.length := by
  cases length? with
  | some length => exact Iff.rfl
  | none =>
      rw [toNat_count_none bounded, Within]
      omega

theorem part_eq : part bytes offset length? =
    (bytes.drop offset.toNat).take (count (UInt64.ofNat bytes.length) offset length?).toNat := by
  cases length? with
  | some length => rfl
  | none =>
      rw [toNat_count_none bounded, part, List.take_of_length_le (by rw [List.length_drop])]

end Bounded

/-! ### The command -/

/-- What a command does that reads from a file with these bytes. -/
structure Reads (act : Command Cluster (List UInt8)) (bytes : List UInt8) (offset : UInt64)
    (length? : Option UInt64) (c : Cluster) : Prop where
  /-- It succeeds if the file has what is asked for. -/
  succeeds : (∃ data, (act c).1 = .ok data) ↔ Within bytes offset length?
  /-- Then it answers what is asked for. -/
  answer : Within bytes offset length? → (act c).1 = .ok (part bytes offset length?)
  unchanged : SameAs c (act c).2

theorem Reads.of_ok {act : Command Cluster (List UInt8)} {bytes : List UInt8} {c' : Cluster}
    (within : Within bytes offset length?)
    (done : act c = (.ok (part bytes offset length?), c')) (same : SameAs c c') :
    Reads act bytes offset length? c where
  succeeds := iff_of_true ⟨_, congrArg Prod.fst done⟩ within
  answer := fun _ => congrArg Prod.fst done
  unchanged := by rwa [done]

theorem Reads.of_error {act : Command Cluster (List UInt8)} {bytes : List UInt8} {c' : Cluster}
    {failure : Failure} (outside : ¬ Within bytes offset length?)
    (failed : act c = (.error failure, c')) (same : SameAs c c') :
    Reads act bytes offset length? c where
  succeeds := by simp [failed, outside]
  answer := fun within => absurd within outside
  unchanged := by rwa [failed]

theorem lengthToRead_of_located (located : c.Located p h host root place content) (naming : Address)
    (offset : UInt64) (length? : Option UInt64) :
    ∃ c', (client naming).lengthToRead h.storage.withoutFlow p offset length? c =
        (.ok (count (UInt64.ofNat content.size) offset length?), c') ∧ SameAs c c' := by
  cases length? with
  | some length => exact ⟨c, rfl, SameAs.refl c⟩
  | none =>
      refine ⟨_, ?_, sameAs_setDisk c host⟩
      rw [Client.lengthToRead, bind_of_ok located.asked_size]
      rfl

/-- What is left of a read once it is known where, and how many bytes. -/
def fetch {σ : Type} (client : Client σ) (storage : Address) (p : Path) (offset length : UInt64) :
    Command σ (List UInt8) := do
  let offset ← toInt64 .convertOffset offset
  let length ← toInt64 .convertLength length
  during (.read p) (ask (Call.read client.call storage p offset length))

/-- How the bytes of a file can be fetched. -/
inductive Fetched (c : Cluster) (bytes : List UInt8) (offset length : UInt64)
    (outcome : Except Failure (List UInt8) × Cluster) : Prop
  | done (c' : Cluster) (inside : offset.toNat + length.toNat ≤ bytes.length) (same : SameAs c c')
    (done : outcome = (.ok ((bytes.drop offset.toNat).take length.toNat), c'))
  | refused (failure : Failure) (c' : Cluster)
    (outside : bytes.length < offset.toNat + length.toNat)
    (same : SameAs c c') (failed : outcome = (.error failure, c'))

theorem fetch_of_located (located : c.Located p h host root place content) {length : UInt64}
    (fits : offset.toNat + length.toNat ≤ content.toList.length → Connection.Sendable
      (.ok (.bytes ((content.toList.drop offset.toNat).take length.toNat)))) :
    Fetched c content.toList offset length
      (fetch (client naming) h.storage.withoutFlow p offset length c) := by
  have bounded := located.bounded
  rw [← Content.length_toList] at bounded
  rw [fetch]
  -- A position that a request cannot hold is beyond every file.
  rcases toInt64_cases .convertOffset offset with ⟨first, held, value, small⟩ | ⟨⟨e, failed⟩, large⟩
  · rw [held, bind_lift_ok]
    rcases toInt64_cases .convertLength length with
      ⟨count, held', value', small'⟩ | ⟨⟨e, failed⟩, large⟩
    · have notBefore : 0 ≤ first.toInt := by omega
      have notNegative : 0 ≤ count.toInt := by omega
      have fromOffset : first.toInt.toNat = offset.toNat := by omega
      have thatMany : count.toInt.toNat = length.toNat := by omega
      rw [held', bind_lift_ok]
      by_cases inside : offset.toNat + length.toNat ≤ content.toList.length
      · have sendable := fits inside
        rw [← fromOffset, ← thatMany] at sendable
        have read := located.asked_read_inside notBefore notNegative
          (by rw [← Content.length_toList]; omega) sendable
        rw [fromOffset, thatMany] at read
        exact .done _ inside (sameAs_setDisk c host) (during_of_ok read)
      · obtain ⟨e, refused⟩ := located.asked_read_outside notBefore notNegative
          (by rw [← Content.length_toList]; omega)
        exact .refused _ _ (Nat.lt_of_not_le inside) (sameAs_setDisk c host)
          (during_of_error refused)
    · rw [failed]
      exact .refused e c (by omega) (.refl c) rfl
  · rw [failed]
    exact .refused e c (by omega) (.refl c) rfl

/-- A file is read from exactly, whatever the offset and the length, as long as what is
asked for fits into a reply. -/
theorem read_exact (located : c.Located p h host root place content)
    (reached : c.network.connect naming = .ok (.naming .service))
    (parsed : Path.parse text = .ok p)
    (fits : Within content.toList offset length? →
      Connection.Sendable (.ok (.bytes (part content.toList offset length?)))) :
    Reads ((client naming).read text offset length?) content.toList offset length? c := by
  have bounded : content.toList.length < UInt64.size := by
    have half : UInt64.size / 2 < UInt64.size := by simp [UInt64.size]
    rw [Content.length_toList]
    exact located.bounded.trans half
  have within := @within_iff offset length? _ bounded
  obtain ⟨c₁, measured, same⟩ := lengthToRead_of_located located naming offset length?
  rw [← Content.length_toList] at measured
  have runs : (client naming).read text offset length? c =
      fetch (client naming) h.storage.withoutFlow p offset
        (count (UInt64.ofNat content.toList.length) offset length?) c₁ := by
    rw [Client.read, readPath_of_parse parsed, bind_lift_ok,
      bind_of_ok (during_of_ok (located.asked_getStorage reached)), bind_of_ok measured]
    rfl
  have fetched : Fetched c₁ content.toList offset
      (count (UInt64.ofNat content.toList.length) offset length?)
      ((client naming).read text offset length? c) := by
    rw [runs]
    refine fetch_of_located (located.of_sameAs same) fun inside => ?_
    rw [← part_eq bounded]
    exact fits (within.mpr inside)
  cases fetched with
  | done c₂ inside same₂ done =>
      rw [← part_eq bounded] at done
      exact .of_ok (within.mpr inside) done (same.trans same₂)
  | refused failure c₂ outside same₂ failed =>
      have none : ¬ Within content.toList offset length? :=
        fun both => Nat.not_lt.mpr (within.mp both) outside
      exact .of_error none failed (same.trans same₂)

end Client

end Dfs
