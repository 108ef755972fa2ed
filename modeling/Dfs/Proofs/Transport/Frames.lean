import Dfs.Proofs.Message.Length
import Dfs.Proofs.Transport
import Dfs.Store.Interfaces

/-!
A connection that carries many frames. The answering side takes the payloads out of the
stream as they were put in (`payloads_frames`) and answers each before it looks at the
next. What it does to its state is what the requests among the payloads do to it, given
one after another without a connection (`state_inTurn_answer`); a payload that holds no
request only adds a reply of its own.

`frame_by_frame`: a whole connection, and every beginning of it.
-/

namespace Dfs.Connection

variable {σ : Type} {server : Server σ}

/-! ### The stream -/

theorem payloadsWith_frames {payloads : List (List UInt8)}
    (small : ∀ payload ∈ payloads, payload.length ≤ Frame.maxLength) {fuel : Nat}
    (enough : payloads.length ≤ fuel) :
    payloadsWith fuel (payloads.flatMap Frame.encode) = payloads := by
  induction payloads generalizing fuel with
  | nil =>
      cases fuel with
      | zero => rfl
      | succ fuel => rfl
  | cons payload payloads ih =>
      obtain ⟨first, later⟩ := List.forall_mem_cons.mp small
      obtain ⟨fuel, rfl⟩ := Nat.exists_eq_succ_of_ne_zero (by simp at enough; omega : fuel ≠ 0)
      rw [List.flatMap_cons, payloadsWith, Frame.front_encode_append first]
      exact congrArg _ (ih later (Nat.le_of_succ_le_succ enough))

theorem length_frames_le (payloads : List (List UInt8)) :
    payloads.length ≤ (payloads.flatMap Frame.encode).length := by
  induction payloads with
  | nil => exact le_rfl
  | cons payload payloads ih =>
      have header : 1 ≤ (Frame.encode payload).length := by simp [Frame.encode, Frame.header]
      rw [List.flatMap_cons, List.length_append, List.length_cons]
      omega

/-- The payloads within the limit are taken out of a stream as they were put in. -/
theorem payloads_frames {payloads : List (List UInt8)}
    (small : ∀ payload ∈ payloads, payload.length ≤ Frame.maxLength) :
    Connection.payloads (payloads.flatMap Frame.encode) = payloads :=
  payloadsWith_frames small (length_frames_le payloads)

/-! ### One after another -/

/-- The replies to one thing after another, and the state after the last. -/
def inTurn {α : Type} (answers : α → σ → Reply × σ) : List α → σ → List Reply × σ
  | [], s => ([], s)
  | a :: rest, s =>
    let (reply, s) := answers a s
    let (replies, s) := inTurn answers rest s
    (reply :: replies, s)

section InTurn

variable {α : Type} (answers : α → σ → Reply × σ) (a : α) (asked : List α) (s : σ)

@[simp] theorem inTurn_nil : inTurn answers [] s = ([], s) := rfl

@[simp] theorem inTurn_cons : inTurn answers (a :: asked) s =
    ((answers a s).1 :: (inTurn answers asked (answers a s).2).1,
      (inTurn answers asked (answers a s).2).2) := rfl

@[simp] theorem length_inTurn : (inTurn answers asked s).1.length = asked.length := by
  induction asked generalizing s with
  | nil => rfl
  | cons a asked ih => rw [inTurn_cons, List.length_cons, ih, List.length_cons]

/-- What comes later has no part in the replies before it. -/
theorem inTurn_take (n : Nat) :
    (inTurn answers (asked.take n) s).1 = (inTurn answers asked s).1.take n := by
  induction asked generalizing n s with
  | nil => simp
  | cons a asked ih =>
      cases n with
      | zero => rfl
      | succ n => rw [List.take_succ_cons, inTurn_cons, inTurn_cons, List.take_succ_cons, ih]

end InTurn

/-! ### Payloads in turn -/

theorem answer_of_request {payload : List UInt8} {r : Request}
    (decoded : request? payload = some r) (s : σ) : answer server payload s = server r s := by
  unfold answer
  rw [decoded]

theorem answer_of_none {payload : List UInt8} (undecoded : request? payload = none) (s : σ) :
    answer server payload s = (.error malformed, s) := by
  unfold answer
  rw [undecoded]

/-- The replies at the places of the payloads that hold a request. -/
def requested (payloads : List (List UInt8)) (replies : List Reply) : List Reply :=
  (payloads.zip replies).filterMap fun both => (request? both.1).map fun _ => both.2

variable (server) in
/-- Payloads that hold no request have no part in the replies to the others, nor in the
state. -/
theorem inTurn_answer (payloads : List (List UInt8)) (s : σ) :
    requested payloads (inTurn (answer server) payloads s).1 =
        (inTurn server (payloads.filterMap request?) s).1 ∧
      (inTurn (answer server) payloads s).2 =
        (inTurn server (payloads.filterMap request?) s).2 := by
  induction payloads generalizing s with
  | nil => exact ⟨rfl, rfl⟩
  | cons payload payloads ih =>
      cases decoded : request? payload with
      | none =>
          rw [inTurn_cons, answer_of_none decoded, List.filterMap_cons_none decoded]
          obtain ⟨replies, state⟩ := ih s
          refine ⟨?_, state⟩
          rw [requested, List.zip_cons_cons, List.filterMap_cons_none (by rw [decoded]; rfl)]
          exact replies
      | some r =>
          rw [inTurn_cons, answer_of_request decoded, List.filterMap_cons_some decoded, inTurn_cons]
          obtain ⟨replies, state⟩ := ih (server r s).2
          refine ⟨?_, state⟩
          rw [requested, List.zip_cons_cons, List.filterMap_cons_some (by rw [decoded]; rfl)]
          exact congrArg _ replies

theorem getElem?_inTurn_answer {payloads : List (List UInt8)} {i : Nat} {payload : List UInt8}
    (sent : payloads[i]? = some payload) (undecoded : request? payload = none) (s : σ) :
    (inTurn (answer server) payloads s).1[i]? = some (.error malformed) := by
  induction payloads generalizing i s with
  | nil => simp at sent
  | cons first payloads ih =>
      rw [inTurn_cons]
      cases i with
      | zero =>
          obtain rfl : first = payload := by simpa using sent
          rw [answer_of_none undecoded]
          rfl
      | succ i => exact ih (by simpa using sent) _

/-- Every reply on a connection is one to a request, or tells that there was none. -/
theorem mem_inTurn_answer {payloads : List (List UInt8)} {s : σ} {reply : Reply}
    (given : reply ∈ (inTurn (answer server) payloads s).1) :
    reply = .error malformed ∨ reply ∈ (inTurn server (payloads.filterMap request?) s).1 := by
  induction payloads generalizing s with
  | nil => simp at given
  | cons payload payloads ih =>
      rw [inTurn_cons, List.mem_cons] at given
      cases decoded : request? payload with
      | none =>
          rw [answer_of_none decoded] at given
          rw [List.filterMap_cons_none decoded]
          exact given.elim .inl ih
      | some r =>
          rw [answer_of_request decoded] at given
          rw [List.filterMap_cons_some decoded, inTurn_cons, List.mem_cons, or_left_comm]
          exact given.imp_right ih

/-! ### What is sent -/

/-- The reply can be sent in one frame. -/
def Sendable (reply : Reply) : Prop := (Utf8.encode (Reply.text reply)).length ≤ Frame.maxLength

instance : DecidablePred Sendable := fun reply =>
  inferInstanceAs (Decidable ((Utf8.encode (Reply.text reply)).length ≤ Frame.maxLength))

theorem sendable_malformed : Sendable (.error malformed) := by decide +kernel

theorem replyPayload_of_sendable {reply : Reply} (sendable : Sendable reply) :
    replyPayload reply = some (Utf8.encode (Reply.text reply)) := by
  unfold replyPayload
  rw [if_neg (Nat.not_lt.mpr sendable)]

/-- While every reply can be sent, none is left out. -/
theorem serve_of_sendable {payloads : List (List UInt8)} {s : σ}
    (sendable : ∀ reply ∈ (inTurn (answer server) payloads s).1, Sendable reply) :
    serve server payloads s =
      ((inTurn (answer server) payloads s).1.map fun reply => Utf8.encode (Reply.text reply),
        (inTurn (answer server) payloads s).2) := by
  induction payloads generalizing s with
  | nil => rfl
  | cons payload payloads ih =>
      rw [inTurn_cons] at sendable
      obtain ⟨first, later⟩ := List.forall_mem_cons.mp sendable
      rw [serve, inTurn_cons]
      dsimp only
      rw [replyPayload_of_sendable first, ih later]
      rfl

/-- What a connection does with frames that have these payloads: each is answered in its
place. -/
structure Answered (server : Server σ) (payloads : List (List UInt8)) (s : σ)
    (replies : List Reply) : Prop where
  /-- There is one reply to each frame. -/
  count : replies.length = payloads.length
  /-- After the first frames, the first replies have been sent, each in a frame, and the
  state is that of the requests in these frames without a connection. -/
  beginning : ∀ n, serveStream server ((payloads.take n).flatMap Frame.encode) s =
    ((replies.take n).flatMap fun reply => Frame.encode (Utf8.encode (Reply.text reply)),
      (inTurn server ((payloads.take n).filterMap request?) s).2)
  /-- The asking side finds the replies in what is sent, and nothing else. -/
  received : Connection.payloads (serveStream server (payloads.flatMap Frame.encode) s).1 =
    replies.map fun reply => Utf8.encode (Reply.text reply)
  /-- What is no request is told so, and leaves the state as it was. -/
  undecoded : ∀ (i : Nat) (payload : List UInt8), payloads[i]? = some payload →
    request? payload = none →
      (∃ message, replies[i]? = some (.error (.invalidArgument message))) ∧
        (serveStream server ((payloads.take (i + 1)).flatMap Frame.encode) s).2 =
          (serveStream server ((payloads.take i).flatMap Frame.encode) s).2
  /-- The other replies are those to the requests without a connection. -/
  decoded : requested payloads replies = (inTurn server (payloads.filterMap request?) s).1
  state : (serveStream server (payloads.flatMap Frame.encode) s).2 =
    (inTurn server (payloads.filterMap request?) s).2

section Answered

variable {payloads : List (List UInt8)} {s : σ}
  (small : ∀ payload ∈ payloads, payload.length ≤ Frame.maxLength)
  (sendable : ∀ reply ∈ (inTurn server (payloads.filterMap request?) s).1, Sendable reply)

include sendable

theorem sendable_inTurn_answer :
    ∀ reply ∈ (inTurn (answer server) payloads s).1, Sendable reply := by
  intro reply given
  rcases mem_inTurn_answer given with rfl | given
  · exact sendable_malformed
  · exact sendable reply given

include small

/-- The first frames have their replies and their effect, whatever follows. -/
theorem serveStream_take (n : Nat) : serveStream server ((payloads.take n).flatMap Frame.encode) s =
    (((inTurn (answer server) payloads s).1.take n).flatMap
        fun reply => Frame.encode (Utf8.encode (Reply.text reply)),
      (inTurn server ((payloads.take n).filterMap request?) s).2) := by
  have few : ∀ payload ∈ payloads.take n, payload.length ≤ Frame.maxLength :=
    fun payload taken => small payload (List.mem_of_mem_take taken)
  have first := inTurn_take (answer server) payloads s n
  have firstSendable : ∀ reply ∈ (inTurn (answer server) (payloads.take n) s).1,
      Sendable reply := by
    intro reply given
    rw [first] at given
    exact sendable_inTurn_answer sendable reply (List.mem_of_mem_take given)
  rw [serveStream, payloads_frames few, serve_of_sendable firstSendable]
  dsimp only
  rw [first, List.flatMap_map, (inTurn_answer server _ s).2]

theorem serveStream_frames : serveStream server (payloads.flatMap Frame.encode) s =
    ((inTurn (answer server) payloads s).1.flatMap
        fun reply => Frame.encode (Utf8.encode (Reply.text reply)),
      (inTurn server (payloads.filterMap request?) s).2) := by
  have whole := serveStream_take small sendable payloads.length
  rwa [List.take_length, List.take_of_length_le (by rw [length_inTurn])] at whole

end Answered

theorem filterMap_take_succ_of_none {α β : Type} {f : α → Option β} {as : List α} {i : Nat} {a : α}
    (there : as[i]? = some a) (none : f a = none) :
    (as.take (i + 1)).filterMap f = (as.take i).filterMap f := by
  rw [List.take_add_one, there, List.filterMap_append, Option.toList_some,
    List.filterMap_cons_none none, List.filterMap_nil, List.append_nil]

/-- A connection answers frame by frame, be they requests or not, as long as every reply of
the server can be sent. -/
theorem frame_by_frame (server : Server σ) (payloads : List (List UInt8)) (s : σ)
    (small : ∀ payload ∈ payloads, payload.length ≤ Frame.maxLength)
    (sendable : ∀ reply ∈ (inTurn server (payloads.filterMap request?) s).1, Sendable reply) :
    ∃ replies, Answered server payloads s replies := by
  have beginning := serveStream_take small sendable
  refine ⟨(inTurn (answer server) payloads s).1, ?_⟩
  exact
    { count := length_inTurn _ _ _
      beginning := beginning
      received := by
        rw [serveStream_frames small sendable, ← List.flatMap_map]
        refine payloads_frames fun payload sent => ?_
        obtain ⟨reply, given, rfl⟩ := List.mem_map.mp sent
        exact sendable_inTurn_answer sendable reply given
      undecoded := by
        intro i payload sent none
        refine ⟨⟨_, getElem?_inTurn_answer sent none s⟩, ?_⟩
        rw [beginning, beginning, filterMap_take_succ_of_none sent none]
      decoded := (inTurn_answer server payloads s).1
      state := by rw [serveStream_frames small sendable] }

/-- A new file, twice, among bytes that are no text and a text that is no request. -/
def amidGarbage : List (List UInt8) :=
  [[0xff], Utf8.encode (Request.text (.create ⟨[⟨"new", by decide⟩]⟩)),
    Utf8.encode "create /new",
    Utf8.encode (Request.text (.create ⟨[⟨"new", by decide⟩]⟩))]

theorem frame_by_frame_amid_garbage :
    (∀ payload ∈ amidGarbage, payload.length ≤ Frame.maxLength) ∧
      ∃ replies, Answered (fun r st => Store.serveCommand st r) amidGarbage
        ⟨⟨[0x72]⟩, { top := [([0x72], .dir [])] }⟩ replies := by
  have small : ∀ payload ∈ amidGarbage, payload.length ≤ Frame.maxLength := by decide +kernel
  have requests : amidGarbage.filterMap request? =
      [.create ⟨[⟨"new", by decide⟩]⟩, .create ⟨[⟨"new", by decide⟩]⟩] := by
    decide +kernel
  refine ⟨small, frame_by_frame _ _ _ small ?_⟩
  rw [requests]
  intro reply given
  have bool : ∃ created, reply = .ok (.bool created) := by
    simp only [inTurn_cons, inTurn_nil, List.mem_cons, List.not_mem_nil, or_false] at given
    rcases given with rfl | rfl <;> exact ⟨_, rfl⟩
  obtain ⟨created, rfl⟩ := bool
  exact Reply.small_bool created

end Dfs.Connection
