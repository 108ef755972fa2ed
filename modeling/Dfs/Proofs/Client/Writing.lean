import Dfs.Proofs.Client.Creating

/-!
A file that a client writes to. Once the file is there, its bytes are changed at its node as
they were meant to be, or nothing is changed, and then it is clear why, or the bytes were cut
off where the file may grow no further (`deliver_of_located`).

`contents_exact`: reading and writing, end to end.
-/

namespace Dfs

namespace Client

open Command Cluster Disk

variable {naming : Address} {c c' : Cluster} {p : Path} {h : Handle} {host : Nat} {root : HostPath}
  {place : Place} {content : Content} {offset : UInt64} {data : List UInt8} {text : String}

/-! ### Bytes on their way -/

/-- What is left of a write once its file is there. -/
def deliver {σ : Type} (client : Client σ) (p : Path) (offset : UInt64) (data : List UInt8) :
    Command σ Unit := do
  let storage ← during (.locate p) (ask (Call.getStorage client.call client.naming p))
  let offset ← toInt64 .convertOffset offset
  during (.write p) (ask (Call.write client.call storage p offset data))

theorem write_of_parse {σ : Type} {client : Client σ} {create : Bool}
    (parsed : Path.parse text = .ok p) : client.write text offset data create =
      if create = true then client.ensureFile p >>= fun _ => deliver client p offset data
      else deliver client p offset data := by
  rw [Client.write, readPath_of_parse parsed, bind_lift_ok]
  rfl

/-- The position, as a request holds it, at which a write is asked for. -/
def held (offset : UInt64) : Int64 := Int64.ofNat offset.toNat

/-- Why bytes cannot be written to a file that is on this disk: their position, or their end, is
beyond what is possible, or there are too many to be sent. -/
def Undeliverable (d : Disk) (p : Path) (offset : UInt64) (data : List UInt8) : Prop :=
  UInt64.size / 2 ≤ offset.toNat ∨ data ≠ [] ∧ d.largest < offset.toNat + data.length ∨
    Frame.maxLength < (Utf8.encode (Request.write p (held offset) data).text).length

section Possible

variable {d : Disk} (possible : ¬ Undeliverable d p offset data)

include possible

theorem le_largest_of_possible (some : data ≠ []) : offset.toNat + data.length ≤ d.largest :=
  Nat.le_of_not_lt fun beyond => possible (.inr (.inl ⟨some, beyond⟩))

/-- The number of bytes is one that can be asked for. -/
theorem length_lt_of_possible : data.length < UInt64.size := by
  by_cases none : data = []
  · simp [none, UInt64.size]
  · have most := (le_largest_of_possible possible none).trans d.largest_le
    have half : maxPosition < UInt64.size := by simp [maxPosition, UInt64.size]
    omega

/-- What could be sent there can be sent back. -/
theorem sendable_of_possible : Connection.Sendable (.ok (.bytes data)) := by
  have short : (Utf8.encode (Request.write p (held offset) data).text).length ≤ Frame.maxLength :=
    Nat.le_of_not_lt fun long => possible (.inr (.inr long))
  exact (Reply.length_bytes_le p (held offset) data).trans short

end Possible

theorem toInt_held (small : offset.toNat < UInt64.size / 2) :
    (held offset).toInt = offset.toNat := Int64.toInt_ofNat_of_lt small

theorem noRoom_held_iff {st : Store} (small : offset.toNat < UInt64.size / 2) :
    st.NoRoom (held offset) data ↔ data ≠ [] ∧ st.disk.largest < offset.toNat + data.length := by
  rw [Store.NoRoom, toInt_held small]
  norm_cast

/-- A node that is reached does what it is asked for, unless there are too many bytes to ask. -/
theorem asked_write_cases {a : Address} (position : Int64)
    (reached : c.network.connect a = .ok (.node host root .storage)) :
    Frame.maxLength < (Utf8.encode (Request.write p position data).text).length ∧
        (∃ e, ask (Call.write Cluster.call a p position data) c = (.error (.error e), c)) ∨
      (Utf8.encode (Request.write p position data).text).length ≤ Frame.maxLength ∧
        ((∃ e e', ((c.storeOf host root).write p position data).1 = .error e ∧
            ask (Call.write Cluster.call a p position data) c = (.error (.error e'),
              c.setDisk host ((c.storeOf host root).write p position data).2.disk)) ∨
          ((c.storeOf host root).write p position data).1 = .ok () ∧
            ask (Call.write Cluster.call a p position data) c = (.ok (),
              c.setDisk host ((c.storeOf host root).write p position data).2.disk)) := by
  by_cases small : (Utf8.encode (Request.write p position data).text).length ≤ Frame.maxLength
  · have direct : Operation.directly fromNaming host root (.write p position data) c =
        (((c.storeOf host root).write p position data).1,
          c.setDisk host ((c.storeOf host root).write p position data).2.disk) := rfl
    refine .inr ⟨small, ?_⟩
    cases written : ((c.storeOf host root).write p position data).1 with
    | error e =>
        rw [written] at direct
        obtain ⟨e', refused⟩ :=
          asked_of_error (.write p position data) reached (by simp) small direct
        exact .inl ⟨e, e', rfl, refused⟩
    | ok done =>
        rw [written] at direct
        exact .inr ⟨rfl, asked_of_ok (.write p position data) reached (by simp) small direct
          Reply.small_unit⟩
  · have large := Nat.lt_of_not_le small
    exact .inl ⟨large, asked_of_large (.write p position data) reached large⟩

/-! ### Bytes that were cut off -/

/-- On the disk of a node the first of the bytes are in the file, as there is no room there for
all of them. All names and all other files are as before. -/
structure CutOff (c c' : Cluster) (p : Path) (host : Nat) (root : HostPath) (place : Place)
    (before : Content) (offset : UInt64) (data : List UInt8) : Prop where
  registry : c'.registry = c.registry
  network : c'.network = c.network
  small : offset.toNat < UInt64.size / 2
  torn : (c.storeOf host root).Torn p place before (held offset) data (c'.storeOf host root)
  others : ∀ other, other ≠ host → c'.diskOf other = c.diskOf other

/-- A write that fails at its node has changed nothing there, unless its bytes were cut off. -/
theorem cutOff_of_error (small : offset.toNat < UInt64.size / 2) {e : Error}
    (failed : ((c.storeOf host root).write p (held offset) data).1 = .error e) :
    SameAs c (c.setDisk host ((c.storeOf host root).write p (held offset) data).2.disk) ∨
      ∃ place before, CutOff c
        (c.setDisk host ((c.storeOf host root).write p (held offset) data).2.disk)
        p host root place before offset data := by
  rcases Store.write_of_error failed with same | ⟨place, before, torn⟩
  · rw [same]
    exact .inl (sameAs_setDisk c host)
  · refine .inr ⟨place, before, rfl, rfl, small, ?_,
      fun other apart => diskOf_setDisk_of_ne apart c _⟩
    have whole : ((c.storeOf host root).write p (held offset) data).2 =
        ⟨root, ((c.storeOf host root).write p (held offset) data).2.disk⟩ :=
      congrArg (Store.mk · _) torn.root
    rwa [storeOf_setDisk, ← whole]

theorem CutOff.undeliverable {before : Content}
    (cut : CutOff c c' p host root place before offset data) :
    Undeliverable (c.diskOf host) p offset data :=
  .inr (.inl ((noRoom_held_iff cut.small).mp cut.torn.noRoom))

/-- How bytes can arrive at the node of a file with this content. -/
inductive Delivered (c : Cluster) (p : Path) (host : Nat) (root : HostPath) (place : Place)
    (content : Content) (offset : UInt64) (data : List UInt8)
    (outcome : Except Failure Unit × Cluster) : Prop
  | done (disk : Disk) (after : Content) (possible : ¬ Undeliverable (c.diskOf host) p offset data)
    (whole : after.toList = (content.written offset.toNat data).toList)
    (idle : data = [] → after = content)
    (denotes : (⟨root, disk⟩ : Store).Denotes p place after)
    (done : outcome = (.ok (), c.setDisk host disk))
  | refused (failure : Failure) (c' : Cluster)
    (impossible : Undeliverable (c.diskOf host) p offset data)
    (same : SameAs c c') (failed : outcome = (.error failure, c'))
  | part (failure : Failure) (c' : Cluster)
    (cut : CutOff c c' p host root place content offset data)
    (failed : outcome = (.error failure, c'))

theorem toInt64_eq_held {task : Task} {position : Int64}
    (converted : toInt64 task offset = .ok position) : position = held offset := by
  unfold toInt64 at converted
  split at converted
  · exact (Except.ok.inj converted).symm
  · cases converted

theorem deliver_of_located (located : c.Located p h host root place content)
    (reached : c.network.connect naming = .ok (.naming .service)) :
    Delivered c p host root place content offset data
      (deliver (client naming) p offset data c) := by
  rw [deliver, bind_of_ok (during_of_ok (located.asked_getStorage reached))]
  rcases toInt64_cases .convertOffset offset with
    ⟨position, converted, -, small⟩ | ⟨⟨failure, failed⟩, large⟩
  · obtain rfl := toInt64_eq_held converted
    rw [converted, bind_lift_ok]
    have first : 0 ≤ (held offset).toInt := by
      rw [toInt_held small]
      exact Int.natCast_nonneg _
    have accepted : ((c.storeOf host root).write p (held offset) data).1 = .ok () ↔
        0 ≤ (held offset).toInt ∧ ¬ (c.storeOf host root).NoRoom (held offset) data :=
      located.denotes.write_eq_ok_iff
    rw [noRoom_held_iff small] at accepted
    rcases asked_write_cases (held offset) located.reached_withoutFlow with
      ⟨long, e, failed⟩ | ⟨short, ⟨e, e', refused, failed⟩ | ⟨written, done⟩⟩
    · exact .refused _ c (.inr (.inr long)) (.refl c) (during_of_error failed)
    · rcases cutOff_of_error small refused with same | ⟨place', before, cut⟩
      · refine .refused _ _ (.inr (.inl ?_)) same (during_of_error failed)
        by_contra room
        rw [accepted.mpr ⟨first, room⟩] at refused
        cases refused
      · obtain ⟨rfl, rfl⟩ := located.denotes.unique cut.torn.denotes
        exact .part _ _ cut (during_of_error failed)
    · obtain ⟨after, denotes, whole, idle⟩ := located.denotes.write_of_ok written
      have kept : ((c.storeOf host root).write p (held offset) data).2 =
          ⟨root, ((c.storeOf host root).write p (held offset) data).2.disk⟩ :=
        congrArg (Store.mk · _) (Store.root_write _ p _ data)
      rw [kept] at denotes
      refine .done _ after ?_ ?_ idle denotes (during_of_ok done)
      · rintro (large | beyond | long)
        · omega
        · exact (accepted.mp written).2 beyond
        · omega
      · rw [whole, toInt_held small, Int.toNat_natCast]
  · rw [failed]
    exact .refused failure c (.inl large) (.refl c) rfl

/-- Where there is no file at the path, there is no node to write to. -/
theorem deliver_of_absent (reached : c.network.connect naming = .ok (.naming .service))
    (absent : c.registry.contains p = false) (offset : UInt64) (data : List UInt8) :
    ∃ failure, deliver (client naming) p offset data c = (.error failure, c) := by
  rw [deliver]
  rcases asked_getStorage_cases reached p with ⟨e, lost⟩ | ⟨h, owned, -⟩
  · exact ⟨_, bind_of_error (during_of_error lost) _⟩
  · rw [Registry.owner, mapError_eq_ok_iff, Namespace.owner_eq_ok_iff,
      Registry.contains_eq_false_iff.mp absent] at owned
    cases owned

/-- Whatever comes in the way of the bytes, nothing has changed then, unless they were cut off. -/
theorem deliver_of_error {failure : Failure}
    (reached : c.network.connect naming = .ok (.naming .service))
    (owner : ∀ h, c.registry.owner p = .ok h →
      ∃ host root, c.network.connect h.storage = .ok (.node host root .storage))
    (failed : deliver (client naming) p offset data c = (.error failure, c')) :
    SameAs c c' ∨ ∃ h host root place before, c.registry.owner p = .ok h ∧
      c.network.connect h.storage = .ok (.node host root .storage) ∧
      CutOff c c' p host root place before offset data := by
  rw [deliver] at failed
  rcases asked_getStorage_cases reached p with ⟨e, lost⟩ | ⟨h, owned, found⟩
  · rw [bind_of_error (during_of_error lost)] at failed
    cases failed
    exact .inl (.refl c)
  · rw [bind_of_ok (during_of_ok found)] at failed
    obtain ⟨host, root, atHost⟩ := owner h owned
    have atHost' := atHost
    rw [← connect_withoutFlow] at atHost'
    rcases toInt64_cases .convertOffset offset with
      ⟨position, converted, -, small⟩ | ⟨⟨failure, refused⟩, -⟩
    · obtain rfl := toInt64_eq_held converted
      rw [converted, bind_lift_ok] at failed
      rcases asked_write_cases (held offset) atHost' with
        ⟨-, e, refused⟩ | ⟨-, ⟨e, e', written, refused⟩ | ⟨-, done⟩⟩
      · rw [during_of_error refused] at failed
        cases failed
        exact .inl (.refl c)
      · rw [during_of_error refused] at failed
        cases failed
        rcases cutOff_of_error small written with same | ⟨place, before, cut⟩
        · exact .inl same
        · exact .inr ⟨h, host, root, place, before, owned, atHost, cut⟩
      · rw [during_of_ok done] at failed
        cases failed
    · rw [refused] at failed
      cases failed
      exact .inl (.refl c)

/-! ### The command -/

theorem write_of_located (located : c.Located p h host root place content)
    (reached : c.network.connect naming = .ok (.naming .service))
    (parsed : Path.parse text = .ok p) (create : Bool) :
    Delivered c p host root place content offset data
      ((client naming).write text offset data create c) := by
  rw [write_of_parse parsed]
  cases create with
  | false => exact deliver_of_located located reached
  | true =>
      have small : (Utf8.encode (Request.exists p).text).length ≤ Frame.maxLength :=
        Request.small_of_fits rfl root located.denotes.fits
      have there : c.registry.contains p = true := by
        have owned := located.owner
        rw [Registry.owner, mapError_eq_ok_iff, Namespace.owner_eq_ok_iff] at owned
        rw [Registry.contains, Namespace.contains_iff, owned]
        simp
      have answered : ask (Call.pathExists Cluster.call naming p) c = (.ok true, c) := by
        rw [← there]
        exact askedNaming_of_ok (.exists p) reached small rfl (Reply.small_bool _)
      have ensured : ensureFile (client naming) p c = (.ok (), c) := by
        rw [ensureFile, bind_of_ok answered]
        rfl
      rw [if_pos rfl, bind_of_ok ensured]
      exact deliver_of_located located reached

/-- A write that makes its file, and succeeds, has had a new file to write to. -/
theorem newFile_of_write (reached : c.network.connect naming = .ok (.naming .service))
    (parsed : Path.parse text = .ok p) (absent : c.registry.contains p = false)
    (turn : ∀ h, c.registry.pick = some h → ∃ host root, AtHost c h host root)
    (done : (client naming).write text offset data true c = (.ok (), c')) :
    ∃ c₁ h host root place, NewFile c c₁ p h host root place ∧
      deliver (client naming) p offset data c₁ = (.ok (), c') := by
  rw [write_of_parse parsed, if_pos rfl] at done
  cases ensureFile_cases reached turn with
  | made h host root place c₁ added ensured =>
      rw [bind_of_ok ensured] at done
      exact ⟨c₁, h, host, root, place, added, done⟩
  | there known ensured =>
      rw [absent] at known
      cases known
  | kept c₁ _ same ensured =>
      rw [bind_of_ok ensured] at done
      have reached₁ : c₁.network.connect naming = .ok (.naming .service) := by
        rw [same.network, reached]
      obtain ⟨failure, failed⟩ :=
        deliver_of_absent reached₁ (same.contains_eq_false absent) offset data
      rw [failed] at done
      cases done
  | failed failure c₁ same failed =>
      rw [bind_of_error failed] at done
      cases done

/-! ### End to end -/

theorem length_written {offset : Nat} (some : data ≠ []) :
    (content.written offset data).toList.length =
      max content.toList.length (offset + data.length) :=
  (Content.overwritten_written some rfl).length

/-- The bytes of a write are where they were to be. -/
theorem slice_written (content : Content) (offset : Nat) (data : List UInt8) :
    ((content.written offset data).toList.drop offset).take data.length = data := by
  by_cases none : data = []
  · rw [none, List.length_nil, List.take_zero]
  · have front : (content.toList.take offset ++
        List.replicate (offset - content.toList.length) 0).length = offset := by
      rw [List.length_append, List.length_take, List.length_replicate]
      omega
    rw [Content.toList_written none, List.append_assoc, List.drop_left' front, List.take_left' rfl]

theorem part_written (content : Content) (countable : data.length < UInt64.size) :
    part (content.written offset.toNat data).toList offset (some (UInt64.ofNat data.length)) =
      data := by
  change (List.drop offset.toNat _).take (UInt64.ofNat data.length).toNat = data
  rw [UInt64.toNat_ofNat_of_lt' countable, slice_written]

theorem within_written (content : Content) (some : data ≠ [])
    (countable : data.length < UInt64.size) :
    Within (content.written offset.toNat data).toList offset
      (Option.some (UInt64.ofNat data.length)) := by
  change offset.toNat + (UInt64.ofNat data.length).toNat ≤ _
  rw [UInt64.toNat_ofNat_of_lt' countable, length_written some]
  exact Nat.le_max_right _ _

/-- After bytes have arrived, the file has them. -/
theorem Delivered.located (located : c.Located p h host root place content)
    (delivered : Delivered c p host root place content offset data (.ok (), c')) :
    (∃ after, after.toList = (content.written offset.toNat data).toList ∧
        (data = [] → after = content) ∧ c'.Located p h host root place after) ∧
      c'.network = c.network ∧ ¬ Undeliverable (c.diskOf host) p offset data := by
  cases delivered with
  | done disk after possible whole idle denotes done =>
      obtain rfl : c' = c.setDisk host disk := congrArg Prod.snd done
      refine ⟨⟨after, whole, idle, located.owner, located.reached, ?_, ?_⟩, rfl, possible⟩
      · rw [storeOf_setDisk]
        exact denotes
      · have before := located.bounded
        by_cases none : data = []
        · rwa [idle none]
        · have size := @length_written content data offset.toNat none
          have most := (le_largest_of_possible possible none).trans (c.diskOf host).largest_le
          rw [← whole, Content.length_toList, Content.length_toList] at size
          simp only [maxPosition] at most
          omega
  | refused failure c₁ impossible same failed => cases failed
  | part failure c₁ cut failed => cases failed

/-- What a write starts from: a file that is there, or the empty one that it will make, with a
node that can be reached. -/
inductive Origin (c : Cluster) (p : Path) (create : Bool) (content : Content) : Prop
  | there (h : Handle) (host : Nat) (root : HostPath) (place : Place)
    (located : c.Located p h host root place content)
  | missing (made : create = true) (absent : c.registry.contains p = false)
    (empty : content = .empty)
    (turn : ∀ h, c.registry.pick = some h → ∃ host root, AtHost c h host root)

theorem Origin.located {create : Bool} (origin : Origin c p create content)
    (reached : c.network.connect naming = .ok (.naming .service))
    (parsed : Path.parse text = .ok p)
    (done : (client naming).write text offset data create c = (.ok (), c')) :
    (∃ h host root place after, after.toList = (content.written offset.toNat data).toList ∧
        (data = [] → after = content) ∧ c'.Located p h host root place after) ∧
      c'.network = c.network ∧ ∃ d, ¬ Undeliverable d p offset data := by
  cases origin with
  | there h host root place located =>
      have delivered := done ▸ write_of_located located reached parsed create
      obtain ⟨written, network, possible⟩ := delivered.located located
      exact ⟨⟨h, host, root, place, written⟩, network, _, possible⟩
  | missing made absent empty turn =>
      subst made empty
      obtain ⟨c₁, h, host, root, place, added, delivered⟩ :=
        newFile_of_write reached parsed absent turn done
      have reached₁ : c₁.network.connect naming = .ok (.naming .service) := by
        rw [added.network, reached]
      obtain ⟨written, network, possible⟩ :=
        (delivered ▸ deliver_of_located added.located reached₁).located added.located
      exact ⟨⟨h, host, root, place, written⟩, network.trans added.network, _, possible⟩

/-- What can be read after a write of these bytes to a file with this content. -/
structure Wrote (naming : Address) (text : String) (content : Content) (offset : UInt64)
    (data : List UInt8) (p : Path) (c' : Cluster) : Prop where
  /-- The number of bytes is one that can be asked for. -/
  countable : data.length < UInt64.size
  /-- The bytes are read where they were written. -/
  inPlace : data ≠ [] → ((client naming).read text offset
    (some (UInt64.ofNat data.length)) c').1 = .ok data
  /-- The whole file is what it was with the bytes in it, and zeros before them where it was
  too short. -/
  whole : data ≠ [] → ∀ bytes, bytes = content.toList.take offset.toNat ++
      List.replicate (offset.toNat - content.toList.length) 0 ++ data ++
        content.toList.drop (offset.toNat + data.length) →
    Connection.Sendable (.ok (.bytes bytes)) → ((client naming).read text 0 none c').1 = .ok bytes
  /-- A write of no bytes leaves the file with its content. -/
  nothing : data = [] → ∃ h host root place, c'.Located p h host root place content

theorem Origin.wrote {create : Bool} (origin : Origin c p create content)
    (reached : c.network.connect naming = .ok (.naming .service))
    (parsed : Path.parse text = .ok p)
    (done : (client naming).write text offset data create c = (.ok (), c')) :
    Wrote naming text content offset data p c' := by
  obtain ⟨⟨h, host, root, place, after, whole, idle, located⟩, network, d, possible⟩ :=
    origin.located reached parsed done
  have reached' : c'.network.connect naming = .ok (.naming .service) := by rw [network, reached]
  have countable := length_lt_of_possible possible
  constructor
  · exact countable
  · intro nonempty
    have same : part after.toList offset (some (UInt64.ofNat data.length)) = data := by
      rw [whole, part_written content countable]
    have within : Within after.toList offset (some (UInt64.ofNat data.length)) := by
      rw [whole]
      exact within_written content nonempty countable
    have reads := read_exact located reached' parsed fun _ =>
      same.symm ▸ sendable_of_possible possible
    have answer := reads.answer within
    rwa [same] at answer
  · intro nonempty bytes spliced sendable
    rw [← Content.toList_written nonempty, ← whole] at spliced
    have within : Within after.toList 0 none := Nat.zero_le _
    have all : part after.toList 0 none = bytes := spliced.symm
    have reads := read_exact located reached' parsed (fun _ => all.symm ▸ sendable)
    have answer := reads.answer within
    rwa [all] at answer
  · intro none
    exact ⟨h, host, root, place, idle none ▸ located⟩

/-- Reading and writing are exact, end to end. What a client asks for is read, or nothing; and
after a write that succeeds, be it to a file that was there or to one that it has made, the
bytes are where they were to be, and the rest of the file is as it was. -/
theorem contents_exact (reached : c.network.connect naming = .ok (.naming .service))
    (parsed : Path.parse text = .ok p) :
    (∀ h host root place content, c.Located p h host root place content →
      ∀ offset length?, (Within content.toList offset length? →
        Connection.Sendable (.ok (.bytes (part content.toList offset length?)))) →
      Reads ((client naming).read text offset length?) content.toList offset length? c) ∧
    ∀ create content, Origin c p create content → ∀ offset data c',
      (client naming).write text offset data create c = (.ok (), c') →
        Wrote naming text content offset data p c' :=
  ⟨fun _ _ _ _ _ located _ _ fits => read_exact located reached parsed fits,
    fun _ _ origin _ _ _ done => origin.wrote reached parsed done⟩

/-- The file of the naming service, with three bytes. -/
def threeBytes : Disk := { top := [([0x72], .dir [([0x66], .leaf (.file (.ofBytes [1, 2, 3])))])] }

theorem contents_exact_threeBytes :
    let c := alone threeBytes home.root homeNames
    c.network.connect serviceAt = .ok (.naming .service) ∧ Path.parse "/f" = .ok homeFile ∧
      c.Located homeFile nodeAt 0 home.root [[0x72], [0x66]] (.ofBytes [1, 2, 3]) ∧
      ((client serviceAt).read "/f" 1 none c).1 = .ok [2, 3] ∧
      (∀ data, ((client serviceAt).read "/f" 4 none c).1 ≠ .ok data) ∧
      ∃ c', (client serviceAt).write "/f" 5 [9] false c = (.ok (), c') ∧
        ((client serviceAt).read "/f" 0 none c').1 = .ok [1, 2, 3, 0, 0, 9] := by
  intro c
  have reached : c.network.connect serviceAt = .ok (.naming .service) := rfl
  have parsed : Path.parse "/f" = .ok homeFile := by decide
  have located : c.Located homeFile nodeAt 0 home.root [[0x72], [0x66]] (.ofBytes [1, 2, 3]) :=
    ⟨rfl, rfl, ⟨_, rfl, rfl⟩, by decide⟩
  have possible : ¬ Undeliverable (c.diskOf 0) homeFile 5 [9] := by
    unfold Undeliverable
    decide +kernel
  obtain ⟨reads, writes⟩ := contents_exact reached parsed
  refine ⟨reached, parsed, located, ?_, ?_, ?_⟩
  · exact (reads _ _ _ _ _ located 1 none fun _ => by decide +kernel).answer (by decide)
  · intro data read
    have beyond := (reads _ _ _ _ _ located 4 none fun _ => by decide +kernel).succeeds
    exact absurd (beyond.mp ⟨data, read⟩) (by decide)
  · have delivered : Delivered c homeFile 0 home.root [[0x72], [0x66]] (.ofBytes [1, 2, 3]) 5 [9]
        ((client serviceAt).write "/f" 5 [9] false c) :=
      write_of_located located reached parsed false
    cases delivered with
    | done disk after possible whole idle denotes done =>
        have wrote := writes false _ (.there _ _ _ _ located) 5 [9] _ done
        exact ⟨_, done, wrote.whole (by simp) _ (by decide) (by decide +kernel)⟩
    | refused failure c' impossible same failed => exact absurd impossible possible
    | part failure c' cut failed => exact absurd cut.undeliverable possible

end Client

end Dfs
