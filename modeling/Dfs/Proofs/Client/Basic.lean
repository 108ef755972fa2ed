import Dfs.Client.Commands
import Dfs.Proofs.Cluster.Remote

/-!
How commands run. A command is a chain of calls that ends at the first failure
(`Command.bind_of_ok`, `Command.bind_of_error`). In a cluster, what a call to an endpoint
does is what the method does on the spot, as long as its request fits into a frame
(`Cluster.asked_of_ok`, `Cluster.asked_of_error`).
-/

namespace Dfs

namespace Command

variable {σ α β : Type} {s s' : σ} {a : α} {e : Error} {failure : Failure} {task : Task}

section Chains

variable {act : Command σ α}

theorem bind_apply (act : Command σ α) (next : α → Command σ β) (s : σ) :
    (act >>= next) s = ExceptT.bindCont next (act s).1 (act s).2 := rfl

theorem bind_of_ok (done : act s = (.ok a, s')) (next : α → Command σ β) :
    (act >>= next) s = next a s' := by
  rw [bind_apply, done]
  rfl

theorem bind_of_error (failed : act s = (.error failure, s')) (next : α → Command σ β) :
    (act >>= next) s = (.error failure, s') := by
  rw [bind_apply, failed]
  rfl

theorem during_of_ok (done : act s = (.ok a, s')) : during task act s = (.ok a, s') := by
  simp only [during, done, Except.mapError]

theorem during_of_error (failed : act s = (.error failure, s')) :
    during task act s = (.error (.during task failure), s') := by
  simp only [during, failed, Except.mapError]

end Chains

section Calls

variable {call : σ → Except Error α × σ}

theorem ask_of_ok (answered : call s = (.ok a, s')) : ask call s = (.ok a, s') := by
  simp only [ask, answered, Except.mapError]

theorem ask_of_error (answered : call s = (.error e, s')) :
    ask call s = (.error (.error e), s') := by
  simp only [ask, answered, Except.mapError]

end Calls

theorem bind_lift_ok (a : α) (next : α → Command σ β) :
    ((liftM (Except.ok (ε := Failure) a) : Command σ α) >>= next) = next a := rfl

end Command

theorem Client.readPath_of_parse {text : String} {p : Path} (parsed : Path.parse text = .ok p) :
    readPath text = .ok p := by
  rw [readPath, parsed]
  rfl

namespace Cluster

open Command

/-- Flow information has no part in whom a connection meets. -/
theorem connect_withoutFlow {ρ : Type} (net : Network ρ) (a : Address) :
    net.connect a.withoutFlow = net.connect a := by
  cases a <;> rfl

/-- A client of the naming service at an address. -/
abbrev client (naming : Address) : Client Cluster := ⟨call, naming⟩

section Asked

variable {i : Interface} {α : Type} (op : Operation i α) {target : Address} {host : Nat}
  {root : HostPath} {c c' : Cluster}
  (reached : c.network.connect target = .ok (Operation.role host root i))
  (other : i ≠ .registration) (small : (Utf8.encode op.request.text).length ≤ Frame.maxLength)

include reached other small

theorem asked_of_ok {a : α} (done : op.directly fromNaming host root c = (.ok a, c'))
    (short : (Utf8.encode (op.reply (.ok a)).text).length ≤ Frame.maxLength) :
    ask (op.remotely call target) c = (.ok (op.arrived a), c') :=
  ask_of_ok (op.remotely_of_ok reached (op.flowFree_request other) small done short)

theorem asked_of_error {e : Error} (failed : op.directly fromNaming host root c = (.error e, c')) :
    ∃ e', ask (op.remotely call target) c = (.error (.error e'), c') := by
  obtain ⟨e', arrives⟩ := op.remotely_of_error reached (op.flowFree_request other) small failed
  exact ⟨e', ask_of_error arrives⟩

omit other small in
theorem asked_of_large (large : Frame.maxLength < (Utf8.encode op.request.text).length) :
    ∃ e, ask (op.remotely call target) c = (.error (.error e), c) :=
  ⟨_, ask_of_error (op.remotely_of_large reached large)⟩

end Asked

section Naming

variable {α : Type} (op : Operation .service α) {naming : Address} {c c' : Cluster}
  (reached : c.network.connect naming = .ok (.naming .service))
  (small : (Utf8.encode op.request.text).length ≤ Frame.maxLength)

include reached small

theorem askedNaming_of_ok {a : α} (done : op.directly fromNaming 0 ⟨[]⟩ c = (.ok a, c'))
    (short : (Utf8.encode (op.reply (.ok a)).text).length ≤ Frame.maxLength) :
    ask (op.remotely call naming) c = (.ok (op.arrived a), c') :=
  asked_of_ok op reached (by simp) small done short

theorem askedNaming_of_error {e : Error}
    (failed : op.directly fromNaming 0 ⟨[]⟩ c = (.error e, c')) :
    ∃ e', ask (op.remotely call naming) c = (.error (.error e'), c') :=
  asked_of_error op reached (by simp) small failed

omit small in
theorem askedNaming_of_large (large : Frame.maxLength < (Utf8.encode op.request.text).length) :
    ∃ e, ask (op.remotely call naming) c = (.error (.error e), c) :=
  @asked_of_large _ _ op _ 0 ⟨[]⟩ _ reached large

end Naming

end Cluster

end Dfs
