import Dfs.Proofs.Message.Reply
import Dfs.Proofs.Message.Request
import Dfs.Transport.Connection

/-!
A call over a connection is the call itself: the server sees the request that was
sent, and the caller the reply that was given, as long as both fit into a frame.
-/

namespace Dfs.Connection

variable {σ : Type} {server : Server σ} {target : Address} {r : Request} {stream : List UInt8}

theorem send_eq_ok_iff : send target r = .ok stream ↔
    (Utf8.encode r.text).length ≤ Frame.maxLength ∧ stream = Frame.encode (Utf8.encode r.text) := by
  unfold send
  dsimp only
  split
  · next large =>
      simp only [reduceCtorEq, false_iff, not_and]
      intro small
      omega
  · next small =>
      rw [Except.ok.injEq, eq_comm]
      constructor
      · intro same
        exact ⟨by omega, same⟩
      · intro both
        exact both.2

theorem front_encode {payload : List UInt8} (small : payload.length ≤ Frame.maxLength) :
    Frame.front (Frame.encode payload) = .frame payload [] := by
  have front := Frame.front_encode_append small []
  rwa [List.append_nil] at front

/-- One frame carries one payload. -/
theorem payloads_encode {payload : List UInt8} (small : payload.length ≤ Frame.maxLength) :
    payloads (Frame.encode payload) = [payload] := by
  have nonempty : ∃ fuel, (Frame.encode payload).length = fuel + 1 :=
    ⟨payload.length + 3, by simp [Frame.encode, Frame.header]⟩
  obtain ⟨fuel, length⟩ := nonempty
  unfold payloads
  rw [length, payloadsWith, front_encode small]
  cases fuel <;> rfl

theorem request?_encode (r : Request) : request? (Utf8.encode r.text) = some r.withoutFlow := by
  unfold request?
  rw [Utf8.decode?_encode, Option.bind_eq_bind, Option.bind_some, Request.parse?_text]

/-- A request without flow information is read back as it was, from its text and from the
bytes of its text; so no two of them have the same text. -/
theorem request_survives {r : Request} (flowFree : r.FlowFree) :
    Request.parse? r.text = some r ∧ request? (Utf8.encode r.text) = some r ∧
      ∀ r' : Request, r'.FlowFree → r'.text = r.text → r' = r := by
  have whole {q : Request} (free : q.FlowFree) : Request.parse? q.text = some q := by
    rw [Request.parse?_text, free.withoutFlow_eq_self]
  refine ⟨whole flowFree, ?_, ?_⟩
  · rw [request?_encode, flowFree.withoutFlow_eq_self]
  · intro r' free same
    have other := whole free
    rw [same, whole flowFree] at other
    exact (Option.some.inj other).symm

/-- A registration with an address of version 4 inside one of version 6, a scoped address
and a file whose name needs escapes. -/
def awkward : Request :=
  .register (some (.v6 ⟨0, 0, 0, 0, 0, 0xffff, 0x7f00, 1⟩ 80 0 7))
    (some (.v6 ⟨0xfe80, 0, 0, 1, 0, 0, 0, 1⟩ 65535 0 4294967295))
    (some (SortedSet.ofList [⟨[]⟩, ⟨[⟨"\"\\\x00é😀", by decide⟩]⟩]))

theorem request_survives_awkward : awkward.FlowFree ∧
    Request.parse? awkward.text = some awkward ∧
    request? (Utf8.encode awkward.text) = some awkward ∧
      ∀ r' : Request, r'.FlowFree → r'.text = awkward.text → r' = awkward :=
  ⟨by decide, request_survives (by decide)⟩

/-- A reply is found in the bytes of its text. -/
theorem replyIn_encode (source : Address) (r : Reply) :
    replyIn source (Utf8.encode (Reply.text r)) = Reply.withoutFlow r := by
  unfold replyIn
  rw [Reply.ofBytes?_encode_text]

/-- A reply without flow information is read back as it was, from its text and from the
bytes of its text; so no two of them have the same text. An error has no addresses, so it
always reaches the caller, with its kind and its message, whatever response was expected. -/
theorem reply_survives {r : Reply} (flowFree : Reply.FlowFree r) :
    Reply.parse? (Reply.text r) = some r ∧
      (∀ source, replyIn source (Utf8.encode (Reply.text r)) = r) ∧
      (∀ r' : Reply, Reply.FlowFree r' → Reply.text r' = Reply.text r → r' = r) ∧
      ∀ (e : Error) (source : Address) {α : Type} (expect : Response → Except Error α),
        (replyIn source (Utf8.encode (Reply.text (.error e)))).bind expect =
          .error ⟨e.kind, e.message⟩ := by
  have whole {q : Reply} (free : Reply.FlowFree q) : Reply.parse? (Reply.text q) = some q := by
    rw [Reply.parse?_text, free.withoutFlow_eq_self]
  refine ⟨whole flowFree, fun source => ?_, fun r' free same => ?_, fun e source _ expect => ?_⟩
  · rw [replyIn_encode, flowFree.withoutFlow_eq_self]
  · have other := whole free
    rw [same, whole flowFree] at other
    exact (Option.some.inj other).symm
  · rw [replyIn_encode]
    rfl

/-- A storage endpoint whose address has a scope. -/
def scopedEndpoint : Reply := .ok (.storage (.v6 ⟨0xfe80, 0, 0, 1, 0, 0, 0, 1⟩ 65535 0 4294967295))

theorem reply_survives_scoped : Reply.FlowFree scopedEndpoint ∧
    Reply.parse? (Reply.text scopedEndpoint) = some scopedEndpoint ∧
    (replyIn (.loopback 6000) (Utf8.encode (Reply.text (.error (.notFound "\"\\\x00é😀"))))).bind
        Response.toStorage = .error (.notFound "\"\\\x00é😀") := by
  have free : Reply.FlowFree scopedEndpoint := by decide
  obtain ⟨whole, -, -, errors⟩ := reply_survives free
  exact ⟨free, whole, errors (.notFound "\"\\\x00é😀") (.loopback 6000) Response.toStorage⟩

/-- What a server writes, and what becomes of its state, for one request. -/
theorem serveStream_of_send (sent : send target r = .ok stream) (s : σ) :
    serveStream server stream s =
      (((replyPayload (server r.withoutFlow s).1).toList.flatMap Frame.encode),
        (server r.withoutFlow s).2) := by
  obtain ⟨small, rfl⟩ := send_eq_ok_iff.mp sent
  unfold serveStream
  rw [payloads_encode small]
  unfold serve answer
  rw [request?_encode]
  dsimp only
  cases replyPayload (server r.withoutFlow s).1 <;> simp [serve]

/-- The caller gets the reply of the server, if it can be sent. -/
theorem receive_of_send (sent : send target r = .ok stream) (s : σ)
    (small : (Utf8.encode (Reply.text (server r.withoutFlow s).1)).length ≤ Frame.maxLength) :
    receive target (serveStream server stream s).1 =
      Reply.withoutFlow (server r.withoutFlow s).1 := by
  have payload : replyPayload (server r.withoutFlow s).1 =
      some (Utf8.encode (Reply.text (server r.withoutFlow s).1)) := by
    unfold replyPayload
    rw [if_neg (by omega)]
  rw [serveStream_of_send sent s, payload]
  simp only [Option.toList_some, List.flatMap_cons, List.flatMap_nil, List.append_nil]
  unfold receive
  rw [front_encode small]
  exact replyIn_encode target _

/-- The caller gets an error if the server gives one, be it another one because the reply
cannot be sent. -/
theorem receive_of_error (sent : send target r = .ok stream) (s : σ) {e : Error}
    (failed : (server r.withoutFlow s).1 = .error e) :
    ∃ e', receive target (serveStream server stream s).1 = .error e' := by
  by_cases small : (Utf8.encode (Reply.text (server r.withoutFlow s).1)).length ≤ Frame.maxLength
  · refine ⟨e, ?_⟩
    rw [receive_of_send sent s small, failed]
    rfl
  · have large : (Utf8.encode (Reply.text (server r.withoutFlow s).1)).length > Frame.maxLength := by
      omega
    have payload : replyPayload (server r.withoutFlow s).1 = none := by
      unfold replyPayload
      rw [if_pos large]
    rw [serveStream_of_send sent s, payload]
    exact ⟨_, rfl⟩

end Dfs.Connection
