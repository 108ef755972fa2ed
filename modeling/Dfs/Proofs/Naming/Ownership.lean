import Dfs.Naming.Interfaces
import Dfs.Proofs.Naming.Changes

/-!
Ownership of files over the time that a naming service runs.

The registry is locked while it is looked at and changed, but not while a storage
node is asked. So the creation of a file is two events, and others may come between
them: its name is reserved, and later the answer of its node arrives. A session keeps
the reservations whose answers are still to come. All other requests are one event
each, since the registry changes before a node is asked and not after.

`owner_stays`: where requests are served one after another, an owner stays the owner until a
deletion takes the file away. `Owns.run`: where they overlap, this is so from the answer of the
node on, if no other reservation of the path for this node waits. An answer that comes too late
can take a newer file away (`late_refusal_removes_owner`).
-/

namespace Dfs

/-- A registry, and the files whose nodes have not answered yet. -/
structure Session where
  registry : Registry
  waiting : List (Path × Handle)

namespace Session

/-- What can happen to a registry. -/
inductive Event where
  /-- A request arrives at an interface, and is served. -/
  | served (i : Interface) (r : Request)
  /-- The name of a new file is reserved, and a node asked to create it. -/
  | reserved (p : Path) (node : Handle)
  /-- That node answers, or the call to it fails. -/
  | answered (p : Path) (node : Handle) (reply : Except Error Bool)

/-- One event. Nodes that are asked while a request is served may answer anything. -/
inductive Step : Session → Event → Session → Prop where
  | client {σ : Type} (calls : NodeCalls σ) (world : σ) (s : Session) (r : Request) :
      Step s (.served .service r) { s with registry := (s.registry.serveClient calls r world).2.1 }
  | node (s : Session) (r : Request) :
      Step s (.served .registration r) { s with registry := (s.registry.serveNode r).2 }
  | reserve {s : Session} {p : Path} {node : Handle} {reg : Registry} :
      s.registry.reserve p = .reserved node reg →
      Step s (.reserved p node) ⟨reg, (p, node) :: s.waiting⟩
  | answer {s : Session} {p : Path} {node : Handle} (reply : Except Error Bool) :
      (p, node) ∈ s.waiting →
      Step s (.answered p node reply)
        ⟨(s.registry.settle p node reply).2, s.waiting.erase (p, node)⟩

inductive Run : Session → List Event → Session → Prop where
  | nil (s : Session) : Run s [] s
  | cons {s t u : Session} {e : Event} {events : List Event} :
      Step s e t → Run t events u → Run s (e :: events) u

/-- The path belongs to the node, and not just until the node has answered. -/
structure Owns (s : Session) (node : Handle) (p : Path) : Prop where
  owner : s.registry.owner p = .ok node
  answered : (p, node) ∉ s.waiting

end Session

namespace Registry

variable {reg : Registry} {p : Path} {node : Handle}

theorem owner_eq_ok_iff : reg.owner p = .ok node ↔ reg.names.kindAt? p = some (.leaf node) := by
  rw [owner, mapError_eq_ok_iff, Namespace.owner_eq_ok_iff]

/-- A request of a storage node takes nothing away. -/
theorem kept_serveNode (reg : Registry) (r : Request) :
    reg.names.Kept (reg.serveNode r).2.names := by
  cases r with
  | register storage command files =>
      rw [serveNode]
      split
      · exact .refl _
      next handle _ =>
      split
      · exact .refl _
      next files =>
      exact kept_register reg handle files
  | _ => exact .refl _

/-- A client's request takes nothing away, except that a deletion takes away what
is at its path and below. -/
theorem kindAt?_serveClient {σ : Type} (calls : NodeCalls σ) (world : σ) {r : Request}
    {kind : Kind Handle} (there : reg.names.kindAt? p = some kind)
    (spared : ∀ q, r = .deletePath q → q.isRoot = false → p.isUnder q = false) :
    (reg.serveClient calls r world).2.1.names.kindAt? p = some kind := by
  cases r with
  | createFile q => exact kept_createFile calls reg q world p kind there
  | createDirectory q => exact kept_createDirectory reg q p kind there
  | deletePath q =>
      rcases names_delete calls reg q world with same | ⟨notRoot, names, changed, kinds⟩
      · simpa [serveClient, same] using there
      · simpa [serveClient, changed, kinds p, spared q rfl notRoot] using there
  | _ => exact there

end Registry

namespace Session

variable {s t : Session} {e : Event} {p : Path} {node : Handle}

/-- An owner stays the owner over one request, unless it deletes the path or one that leads to
it. -/
theorem owner_of_served {i : Interface} {r : Request} (step : Step s (.served i r) t)
    (owner : s.registry.owner p = .ok node)
    (spared : ∀ q, i = .service → r = .deletePath q → q.isRoot = false → p.isUnder q = false) :
    t.registry.owner p = .ok node := by
  rw [Registry.owner_eq_ok_iff] at owner ⊢
  cases step with
  | client calls world => exact Registry.kindAt?_serveClient calls world owner fun q => spared q rfl
  | node => exact Registry.kept_serveNode s.registry r _ _ owner

/-- The same holds of all events, if it has been answered that the file is there. -/
theorem Owns.step (owns : s.Owns node p) (step : Step s e t)
    (spared : ∀ q, e = .served .service (.deletePath q) → q.isRoot = false →
      p.isUnder q = false) : t.Owns node p := by
  obtain ⟨owner, answered⟩ := owns
  have file := Registry.owner_eq_ok_iff.mp owner
  cases step with
  | client calls world s r =>
      refine ⟨owner_of_served (.client calls world s r) owner fun q _ deletes => spared q ?_,
        answered⟩
      rw [deletes]
  | node s r => exact ⟨owner_of_served (.node s r) owner nofun, answered⟩
  | reserve reserved =>
      refine ⟨Registry.owner_eq_ok_iff.mpr (Registry.kept_of_reserved reserved _ _ file), ?_⟩
      -- The name was free, so the reservation is not for this path.
      rw [List.mem_cons, not_or]
      refine ⟨?_, answered⟩
      intro same
      cases same
      obtain ⟨free, -⟩ := Registry.reserve_eq_reserved reserved
      rw [Namespace.kindAt?_of_not_conflicts free] at file
      cases file
  | @answer _ q other reply waits =>
      refine ⟨Registry.owner_eq_ok_iff.mpr ?_, fun mem => answered (List.mem_of_mem_erase mem)⟩
      rcases Registry.settle_cases s.registry q other reply with same | same
      · rw [same]
        exact file
      · rw [same]
        by_cases samePath : p = q
        · subst samePath
          have differs : node ≠ other := by
            rintro rfl
            exact answered waits
          rw [Registry.withdraw_of_other_owner file differs]
          exact file
        · rw [Registry.kindAt?_withdraw_of_ne _ _ samePath]
          exact file

/-- From the answer of its node on an owner stays the owner over a whole run, in which requests
are served, names are reserved and nodes answer in any order and with anything, as long as no
path that leads to the file is deleted. -/
theorem Owns.run {events : List Event} (owns : s.Owns node p) (run : Run s events t)
    (spared : ∀ q, .served .service (.deletePath q) ∈ events → q.isRoot = false →
      p.isUnder q = false) : t.Owns node p := by
  induction run with
  | nil s => exact owns
  | cons step rest ih =>
      refine ih (owns.step step fun q deletes => spared q ?_) fun q mem => spared q ?_
      · simp [deletes]
      · exact List.mem_cons_of_mem _ mem

/-- The file `/late`. -/
def pathLate : Path := ⟨[⟨"late", by decide⟩]⟩

def nodeA : Handle := ⟨.loopback 7000, .loopback 7001⟩

/-- The file belongs to the node. -/
def namesLate : Namespace := ⟨[(⟨"late", by decide⟩, .leaf nodeA)]⟩

/-- A file is created, deleted and created again while the first creation waits for its node.
That the node has made the file is answered to the second one; when it is answered to the first
one that it has not, the file is gone. -/
theorem late_refusal_removes_owner :
    ∃ t u : Session, Run ⟨⟨.empty, [nodeA], 0⟩, []⟩
        [.reserved pathLate nodeA, .served .service (.deletePath pathLate),
          .reserved pathLate nodeA, .answered pathLate nodeA (.ok true)] t ∧
      t.registry.owner pathLate = .ok nodeA ∧
      Run t [.answered pathLate nodeA (.ok false)] u ∧ u.registry.contains pathLate = false := by
  have first : Step ⟨⟨.empty, [nodeA], 0⟩, []⟩ (.reserved pathLate nodeA)
      ⟨⟨namesLate, [nodeA], 1⟩, [(pathLate, nodeA)]⟩ := .reserve rfl
  have deleted : Step ⟨⟨namesLate, [nodeA], 1⟩, [(pathLate, nodeA)]⟩
      (.served .service (.deletePath pathLate)) ⟨⟨.empty, [nodeA], 1⟩, [(pathLate, nodeA)]⟩ :=
    .client (σ := Unit) ⟨fun _ _ s => (.ok true, s), fun _ _ s => (.ok true, s)⟩ () _ _
  have second : Step ⟨⟨.empty, [nodeA], 1⟩, [(pathLate, nodeA)]⟩ (.reserved pathLate nodeA)
      ⟨⟨namesLate, [nodeA], 2⟩, [(pathLate, nodeA), (pathLate, nodeA)]⟩ := .reserve rfl
  have made : Step ⟨⟨namesLate, [nodeA], 2⟩, [(pathLate, nodeA), (pathLate, nodeA)]⟩
      (.answered pathLate nodeA (.ok true)) ⟨⟨namesLate, [nodeA], 2⟩, [(pathLate, nodeA)]⟩ :=
    .answer (.ok true) List.mem_cons_self
  have refused : Step ⟨⟨namesLate, [nodeA], 2⟩, [(pathLate, nodeA)]⟩
      (.answered pathLate nodeA (.ok false)) ⟨⟨.empty, [nodeA], 2⟩, []⟩ :=
    .answer (.ok false) List.mem_cons_self
  exact ⟨_, _, .cons first (.cons deleted (.cons second (.cons made (.nil _)))), rfl,
    .cons refused (.nil _), rfl⟩

/-- Where requests are served one after another, whatever the nodes answer that are asked, an
owner stays the owner over a whole run, as long as no path that leads to the file is deleted. -/
theorem owner_stays {events : List Event} (run : Run s events t)
    (whole : ∀ e ∈ events, ∃ i r, e = .served i r) (owner : s.registry.owner p = .ok node)
    (spared : ∀ q, .served .service (.deletePath q) ∈ events → q.isRoot = false →
      p.isUnder q = false) : t.registry.owner p = .ok node := by
  induction run with
  | nil s => exact owner
  | @cons s t u e events step rest ih =>
      obtain ⟨i, r, rfl⟩ := whole e List.mem_cons_self
      refine ih (fun e mem => whole e (List.mem_cons_of_mem _ mem))
        (owner_of_served step owner fun q service deletes => spared q ?_)
        fun q mem => spared q (List.mem_cons_of_mem _ mem)
      rw [service, deletes]
      exact List.mem_cons_self

/-- The owner of `/a` stays while its node refuses to create `/b`, a second node registers `/a`
too, and `/b` is asked to be deleted. -/
theorem owner_stays_beside_refusal :
    let a : Path := ⟨[⟨"a", by decide⟩]⟩
    let b : Path := ⟨[⟨"b", by decide⟩]⟩
    let node : Handle := ⟨.loopback 7000, .loopback 7001⟩
    let other : Handle := ⟨.loopback 8000, .loopback 8001⟩
    let files : PathSet := .ofList [a]
    ∃ t : Session, Run ⟨(Registry.empty.register node files).2, []⟩
        [.served .service (.createFile b),
          .served .registration (.register (some other.storage) (some other.command) (some files)),
          .served .service (.deletePath b)] t ∧
      t.registry.owner a = .ok node := by
  intro a b node other files
  let refusing : NodeCalls Unit := ⟨fun _ _ s => (.ok false, s), fun _ _ s => (.ok false, s)⟩
  have run := Run.cons
    (.client refusing () ⟨(Registry.empty.register node files).2, []⟩ (.createFile b))
    (.cons (.node _ (.register (some other.storage) (some other.command) (some files)))
      (.cons (.client refusing () _ (.deletePath b)) (.nil _)))
  refine ⟨_, run, owner_stays run (by simp) (by decide) ?_⟩
  intro q mem _
  have same : q = b := by simpa using mem
  rw [same]
  decide

end Session

end Dfs
