import Dfs.Proofs.Client.Reading
import Dfs.Proofs.Naming.Creation
import Dfs.Proofs.Store.Failed

/-!
A file that a client has made. The naming service makes it with the node whose turn it is,
or no file is made anywhere and no name is taken (`Cluster.createFile_cases`). A command
that needs a file makes it unless its path is taken, and that it could not be made is a
failure only if there was an error (`Client.ensureFile_cases`).
-/

namespace Dfs

namespace Cluster

open Registry

variable {c c' c'' : Cluster} {p : Path} {h : Handle} {host : Nat} {root : HostPath} {place : Place}

/-- The node is reached at both of its addresses, and serves these files. -/
structure AtHost (c : Cluster) (h : Handle) (host : Nat) (root : HostPath) : Prop where
  storage : c.network.connect h.storage = .ok (.node host root .storage)
  command : c.network.connect h.command = .ok (.node host root .command)

theorem leafAt?_diskOf_setDisk (c : Cluster) (host : Nat) (disk : Disk) (other : Nat)
    (js : Place) : ((c.setDisk host disk).diskOf other).leafAt? js =
      if other = host then disk.leafAt? js else (c.diskOf other).leafAt? js := by
  split
  · next same => rw [same, diskOf_setDisk_self]
  · next apart => rw [diskOf_setDisk_of_ne apart]

/-- The names are as before, and so is every file on every disk. -/
structure SameFiles (c c' : Cluster) : Prop where
  network : c'.network = c.network
  nodes : c'.registry.nodes = c.registry.nodes
  names : ∀ q, c'.registry.names.kindAt? q = c.registry.names.kindAt? q
  files : ∀ host js, (c'.diskOf host).leafAt? js = (c.diskOf host).leafAt? js

theorem SameFiles.of_sameAs (same : SameAs c c') : SameFiles c c' where
  network := same.network
  nodes := by rw [same.registry]
  names := fun q => by rw [same.registry]
  files := fun host js => by rw [same.disks]

theorem SameFiles.refl (c : Cluster) : SameFiles c c := .of_sameAs (.refl c)

theorem SameFiles.trans (first : SameFiles c c') (second : SameFiles c' c'') :
    SameFiles c c'' where
  network := second.network.trans first.network
  nodes := second.nodes.trans first.nodes
  names := fun q => (second.names q).trans (first.names q)
  files := fun host js => (second.files host js).trans (first.files host js)

theorem SameFiles.contains_eq_false (same : SameFiles c c')
    (absent : c.registry.contains p = false) : c'.registry.contains p = false := by
  rw [contains_eq_false_iff, same.names, ← contains_eq_false_iff]
  exact absent

/-- An empty file is new, at a place on the disk of the node whose turn it was, and belongs
to this node under a path where nothing was. All other names and files are as before. -/
structure NewFile (c c' : Cluster) (p : Path) (h : Handle) (host : Nat) (root : HostPath)
    (place : Place) : Prop where
  absent : c.registry.names.kindAt? p = none
  picked : c.registry.pick = some h
  atHost : AtHost c h host root
  network : c'.network = c.network
  nodes : c'.registry.nodes = c.registry.nodes
  names : ∀ q, c'.registry.names.kindAt? q =
    if q = p then some (.leaf h) else c.registry.names.kindAt? q
  denotes : (c'.storeOf host root).Denotes p place .empty
  free : (c.diskOf host).leafAt? place = none
  largest : (c'.diskOf host).largest = (c.diskOf host).largest
  files : ∀ other js, (other, js) ≠ (host, place) →
    (c'.diskOf other).leafAt? js = (c.diskOf other).leafAt? js

theorem NewFile.of_sameAs (made : NewFile c c' p h host root place) (same : SameAs c' c'') :
    NewFile c c'' p h host root place where
  absent := made.absent
  picked := made.picked
  atHost := made.atHost
  network := same.network.trans made.network
  nodes := by rw [same.registry, made.nodes]
  names := by
    rw [same.registry]
    exact made.names
  denotes := by
    rw [storeOf, same.disks]
    exact made.denotes
  free := made.free
  largest := by rw [same.disks, made.largest]
  files := by
    intro other js elsewhere
    rw [same.disks]
    exact made.files other js elsewhere

theorem NewFile.located (made : NewFile c c' p h host root place) :
    Located c' p h host root place .empty where
  owner := by
    have file : c'.registry.names.kindAt? p = some (.leaf h) := by rw [made.names, if_pos rfl]
    rw [Registry.owner, Namespace.owner_eq_ok_iff.mpr file]
    rfl
  reached := by rw [made.network, made.atHost.storage]
  denotes := made.denotes
  bounded := by simp [Content.empty, Content.size, UInt64.size]

/-! ### On the spot -/

/-- How the creation of a file can end, if the node whose turn it is can be reached. -/
inductive Created (c : Cluster) (p : Path) (outcome : Except Error Bool × Cluster) : Prop
  | made (h : Handle) (host : Nat) (root : HostPath) (place : Place) (c' : Cluster)
    (added : NewFile c c' p h host root place) (done : outcome = (.ok true, c'))
  | kept (answer : Except Error Bool) (c' : Cluster) (no : answer ≠ .ok true)
    (same : SameFiles c c') (done : outcome = (answer, c'))

/-- What the naming service does not even try is not done. -/
theorem answer_of_settled {reg : Registry} {answer : Except Error Bool}
    (settled : reg.reserve p = .settled answer) : answer ≠ .ok true := by
  have noRoom : ¬ reg.Placeable p := by
    intro room
    obtain ⟨absent, checked, some⟩ := placeable_iff.mp room
    obtain ⟨node, reg', reserved⟩ := exists_reserved absent checked some
    rw [settled] at reserved
    cases reserved
  obtain ⟨answer', settled', answers⟩ := reserve_of_not_placeable noRoom
  rw [settled] at settled'
  cases settled'
  rcases answers with ⟨-, rfl⟩ | ⟨message, rfl⟩ | ⟨-, message, rfl⟩ <;> simp

/-- The names after a reservation that is withdrawn. -/
theorem kindAt?_withdraw_of_reserved {reg reg' : Registry} {node : Handle}
    (reserved : reg.reserve p = .reserved node reg') (q : Path) :
    (reg'.withdraw p node).names.kindAt? q = reg.names.kindAt? q := by
  obtain ⟨free, -, -, -, kinds⟩ := reserve_eq_reserved reserved
  by_cases same : q = p
  · have file : reg'.names.kindAt? p = some (.leaf node) := by rw [kinds p, if_pos rfl]
    rw [same, withdraw_of_owner file, Namespace.kindAt?_of_not_conflicts free]
  · rw [kindAt?_withdraw_of_ne reg' node same, kinds q, if_neg same]

/-- The node has made the file. -/
theorem newFile_of_reserved {reg : Registry} (reserved : c.registry.reserve p = .reserved h reg)
    (atHost : AtHost c h host root) (made : ((c.storeOf host root).create p).1 = true) :
    ∃ place, NewFile c
      { c.setDisk host ((c.storeOf host root).create p).2.disk with registry := reg } p h host root
        place := by
  obtain ⟨free, picked, nodes, -, kinds⟩ := reserve_eq_reserved reserved
  obtain ⟨rooted, place, denotes, absent, elsewhere⟩ := Store.create_of_true made
  have whole : ((c.storeOf host root).create p).2 =
      ⟨root, ((c.storeOf host root).create p).2.disk⟩ :=
    congrArg (Store.mk · _) rooted
  have onDisk : ((c.setDisk host ((c.storeOf host root).create p).2.disk).storeOf host root).Denotes
      p place .empty := by
    rw [storeOf_setDisk, ← whole]
    exact denotes
  refine ⟨place, ?_⟩
  exact
    { absent := Namespace.kindAt?_of_not_conflicts free
      picked := picked
      atHost := atHost
      network := rfl
      nodes := nodes
      names := kinds
      denotes := onDisk
      free := absent
      largest := (congrArg Disk.largest (diskOf_setDisk_self c host _)).trans
        (Store.largest_create _ p)
      files := by
        intro other js different
        refine (leafAt?_diskOf_setDisk c host _ other js).trans ?_
        split
        · next same =>
            subst same
            exact elsewhere js fun here => different (by rw [here])
        · rfl }

/-- The node has not made the file, and its name is given back. -/
theorem sameFiles_of_reserved {reg : Registry} (reserved : c.registry.reserve p = .reserved h reg)
    (refused : ((c.storeOf host root).create p).1 = false) :
    SameFiles c { c.setDisk host ((c.storeOf host root).create p).2.disk with
      registry := reg.withdraw p h } where
  network := rfl
  nodes := by
    obtain ⟨-, -, nodes, -⟩ := reserve_eq_reserved reserved
    exact (nodes_withdraw reg p h).trans nodes
  names := kindAt?_withdraw_of_reserved reserved
  files := by
    intro other js
    obtain ⟨-, furnished⟩ := Store.create_of_false refused
    refine (leafAt?_diskOf_setDisk c host _ other js).trans ?_
    split
    · next same =>
        subst same
        exact furnished.leafAt?_eq js
    · rfl

theorem createFile_cases
    (small : (Utf8.encode (Request.createFile p).text).length ≤ Frame.maxLength)
    (turn : ∀ h, c.registry.pick = some h → ∃ host root, AtHost c h host root) :
    Created c p (Operation.directly fromNaming 0 ⟨[]⟩ (.createFile p) c) := by
  have runs : Operation.directly fromNaming 0 ⟨[]⟩ (.createFile p) c =
      ((c.registry.createFile (Call.nodeCalls fromNaming) p c).1,
        { (c.registry.createFile (Call.nodeCalls fromNaming) p c).2.2 with
          registry := (c.registry.createFile (Call.nodeCalls fromNaming) p c).2.1 }) := rfl
  rw [runs]
  cases reserved : c.registry.reserve p with
  | settled answer =>
      rw [createFile_of_settled reserved]
      exact .kept answer c (answer_of_settled reserved) (.refl c) rfl
  | reserved h reg =>
      obtain ⟨-, picked, -⟩ := reserve_eq_reserved reserved
      obtain ⟨host, root, atHost⟩ := turn h picked
      rw [createFile_of_reserved reserved (nodeCalls_create_of_reached atHost.command small)]
      cases created : ((c.storeOf host root).create p).1 with
      | true =>
          obtain ⟨place, added⟩ := newFile_of_reserved reserved atHost created
          exact .made h host root place _ added rfl
      | false => exact .kept (.ok false) _ (by simp) (sameFiles_of_reserved reserved created) rfl

end Cluster

/-! ### By a command -/

namespace Client

open Command Cluster

variable {naming : Address} {c : Cluster} {p : Path}

/-- How the step of a command can end that makes a file unless its path is taken. -/
inductive Ensured (c : Cluster) (p : Path) (outcome : Except Failure Unit × Cluster) : Prop
  | made (h : Handle) (host : Nat) (root : HostPath) (place : Place) (c' : Cluster)
    (added : NewFile c c' p h host root place) (done : outcome = (.ok (), c'))
  | there (known : c.registry.contains p = true) (done : outcome = (.ok (), c))
  /-- No file was made, and no failure has come of it. -/
  | kept (c' : Cluster) (absent : c.registry.contains p = false) (same : SameFiles c c')
    (done : outcome = (.ok (), c'))
  | failed (failure : Failure) (c' : Cluster) (same : SameFiles c c')
    (failed : outcome = (.error failure, c'))

section Ensure

variable (reached : c.network.connect naming = .ok (.naming .service))

include reached

theorem asked_pathExists_cases (p : Path) :
    (∃ e, ask (Call.pathExists Cluster.call naming p) c = (.error (.error e), c)) ∨
      ask (Call.pathExists Cluster.call naming p) c = (.ok (c.registry.contains p), c) := by
  by_cases small : (Utf8.encode (Request.exists p).text).length ≤ Frame.maxLength
  · exact .inr (askedNaming_of_ok (.exists p) reached small rfl (Reply.small_bool _))
  · exact .inl (askedNaming_of_large (.exists p) reached (Nat.lt_of_not_le small))

theorem asked_createFile_cases
    (turn : ∀ h, c.registry.pick = some h → ∃ host root, AtHost c h host root) :
    (∃ e c', ask (Call.createFile Cluster.call naming p) c = (.error (.error e), c') ∧
        SameFiles c c') ∨
      ∃ answer c', ask (Call.createFile Cluster.call naming p) c = (.ok answer, c') ∧
        (SameFiles c c' ∨ ∃ h host root place, NewFile c c' p h host root place) := by
  by_cases small : (Utf8.encode (Request.createFile p).text).length ≤ Frame.maxLength
  · cases createFile_cases small turn with
    | made h host root place c' added done =>
        exact .inr ⟨true, c', askedNaming_of_ok (.createFile p) reached small done
          (Reply.small_bool true), .inr ⟨h, host, root, place, added⟩⟩
    | kept answer c' no same done =>
        cases answer with
        | error e =>
            obtain ⟨e', arrives⟩ := askedNaming_of_error (.createFile p) reached small done
            exact .inl ⟨e', c', arrives, same⟩
        | ok created =>
            exact .inr ⟨created, c', askedNaming_of_ok (.createFile p) reached small done
              (Reply.small_bool created), .inl same⟩
  · obtain ⟨e, refused⟩ :=
      askedNaming_of_large (.createFile p) reached (Nat.lt_of_not_le small)
    exact .inl ⟨e, c, refused, .refl c⟩

theorem ensureFile_cases
    (turn : ∀ h, c.registry.pick = some h → ∃ host root, AtHost c h host root) :
    Ensured c p (ensureFile (client naming) p c) := by
  rw [ensureFile]
  rcases asked_pathExists_cases reached p with ⟨e, failed⟩ | answered
  · exact .failed _ c (.refl c) (bind_of_error failed _)
  · rw [bind_of_ok answered]
    cases known : c.registry.contains p with
    | true => exact .there known rfl
    | false =>
        rcases asked_createFile_cases reached turn with
          ⟨e, c', failed, same⟩ | ⟨answer, c', done, same | ⟨h, host, root, place, added⟩⟩
        · exact .failed _ c' same (bind_of_error (during_of_error failed) _)
        · exact .kept c' known same (bind_of_ok (during_of_ok done) _)
        · exact .made h host root place c' added (bind_of_ok (during_of_ok done) _)

end Ensure

end Client

end Dfs
