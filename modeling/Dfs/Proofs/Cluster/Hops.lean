import Dfs.Proofs.Cluster.Calls
import Dfs.Proofs.Naming.Creation
import Dfs.Proofs.Naming.Deletion

/-!
Errors of the transport belong to the asking side. No interface answers with one
(`isOwn_serveClient`, `isOwn_serveNode`, `Store.isOwn_serveStorage`,
`Store.isOwn_serveCommand`): what a server finds wrong itself is of another kind, and what
goes wrong between the naming service and a storage node is passed on as a node that is
unavailable.

`transport_is_own_hop` adds what becomes of the failures of nodes (`Registry.Relays`), and
what the asking side can conclude from an error of the transport.
-/

namespace Dfs

/-- The result is no error of the transport. -/
def IsOwn {α : Type} (x : Except Error α) : Prop := ∀ e, x = .error e → e.isTransport = false

section

variable {ε α β : Type} {x : Except Error α} {e : Error}

theorem isOwn_ok (a : α) : IsOwn (.ok a : Except Error α) := fun _ failed => by cases failed

theorem isOwn_error (own : e.isTransport = false) : IsOwn (.error e : Except Error α) := by
  rintro _ ⟨⟩
  exact own

theorem IsOwn.map (own : IsOwn x) (f : α → β) : IsOwn (x.map f) := by
  cases x with
  | error e => exact isOwn_error (own e rfl)
  | ok a => exact isOwn_ok (f a)

theorem isOwn_mapError {f : ε → Error} (own : ∀ e, (f e).isTransport = false) (x : Except ε α) :
    IsOwn (x.mapError f) := by
  cases x with
  | error e => exact isOwn_error (own e)
  | ok a => exact isOwn_ok a

end

/-! ### Errors -/

theorem PathError.isTransport_toError (e : PathError) : e.toError.isTransport = false := rfl

theorem NamespaceError.isTransport_toError (e : NamespaceError) :
    e.toError.isTransport = false := by
  cases e <;> rfl

theorem Error.isTransport_ofFault (what : String) (fault : Fault) :
    (Error.ofFault what fault).isTransport = false := by
  unfold Error.ofFault
  split <;> rfl

theorem Request.isTransport_unsupported (r : Request) (i : Interface) :
    (r.unsupported i).isTransport = false := rfl

/-! ### The naming service -/

namespace Registry

/-- An error of a node loses what it says about the transport. -/
theorem isTransport_ofNode (node : Handle) (e : Error) : (ofNode node e).isTransport = false := by
  unfold ofNode
  split
  · rfl
  · next other => simpa using other

variable {σ : Type} (calls : NodeCalls σ) (reg : Registry) (p : Path) (node : Handle)

theorem isOwn_list : IsOwn (reg.list p) := by
  unfold list
  split
  · exact isOwn_ok _
  · next e failed => exact isOwn_error e.isTransport_toError

theorem isOwn_checkParent : IsOwn (reg.checkParent p) := by
  unfold checkParent
  split
  · next e up => exact isOwn_error e.isTransport_toError
  · split
    · exact isOwn_ok ()
    · exact isOwn_error rfl
    · next e failed => exact isOwn_error e.isTransport_toError

theorem isOwn_createDirectory : IsOwn (reg.createDirectory p).1 := by
  unfold createDirectory
  split
  · exact isOwn_ok false
  · split
    · next e failed => exact isOwn_error (isOwn_checkParent reg p e failed)
    · split
      · exact isOwn_ok true
      · next e failed => exact isOwn_error e.isTransport_toError

theorem isOwn_register (files : PathSet) : IsOwn (reg.register node files).1 := by
  unfold register
  split
  · exact isOwn_error rfl
  · split
    · next e _ _ failed => exact isOwn_error e.isTransport_toError
    · exact isOwn_ok _

/-- A creation that ends before a node is asked ends with an answer of the naming service. -/
theorem isOwn_of_settled {answer : Except Error Bool} (settled : reg.reserve p = .settled answer) :
    IsOwn answer := by
  unfold reserve at settled
  split at settled
  · cases settled
    exact isOwn_ok false
  · split at settled
    · next e failed =>
        cases settled
        exact isOwn_error (isOwn_checkParent reg p e failed)
    · split at settled
      · cases settled
        exact isOwn_error rfl
      · split at settled
        · cases settled
        · next e failed =>
            cases settled
            exact isOwn_error e.isTransport_toError

/-- However the registry has changed since the node was asked, and whatever it replies. -/
theorem isOwn_settle (reply : Except Error Bool) : IsOwn (reg.settle p node reply).1 := by
  cases reply with
  | error e => exact isOwn_error (isTransport_ofNode node e)
  | ok created =>
      rw [settle_of_answer]
      exact isOwn_ok created

theorem isOwn_createFile (w : σ) : IsOwn (reg.createFile calls p w).1 := by
  cases reserved : reg.reserve p with
  | settled answer =>
      rw [createFile_of_settled reserved]
      exact isOwn_of_settled reg p reserved
  | reserved node reg' =>
      rw [createFile_of_reserved reserved rfl]
      exact isOwn_settle reg' p node _

theorem isOwn_verdict (replies : List (Handle × Except Error Bool)) : IsOwn (verdict replies) := by
  induction replies with
  | nil => exact isOwn_ok true
  | cons x replies ih =>
      obtain ⟨node, e | deleted⟩ := x
      · exact isOwn_error (isTransport_ofNode node e)
      · exact ih.map (deleted && ·)

theorem isOwn_delete (w : σ) : IsOwn (reg.delete calls p w).1 := by
  rcases delete_cases calls reg p w with ⟨-, kept⟩ | ⟨-, entry, names, -, deleted⟩
  · rw [kept]
    split
    · exact isOwn_ok false
    · exact isOwn_error rfl
  · rw [deleted]
    exact isOwn_verdict _

theorem isOwn_serveClient (r : Request) (w : σ) : IsOwn (reg.serveClient calls r w).1 := by
  cases r with
  | «exists» p => exact isOwn_ok _
  | isDirectory p => exact (isOwn_mapError NamespaceError.isTransport_toError _).map _
  | list p => exact (isOwn_list reg p).map _
  | createFile p => exact (isOwn_createFile calls reg p w).map _
  | createDirectory p => exact (isOwn_createDirectory reg p).map _
  | deletePath p => exact (isOwn_delete calls reg p w).map _
  | getStorage p => exact ((isOwn_mapError NamespaceError.isTransport_toError _).map _).map _
  | _ => exact isOwn_error (Request.isTransport_unsupported _ _)

theorem isOwn_serveNode (r : Request) : IsOwn (reg.serveNode r).1 := by
  cases r with
  | register storage command files =>
      unfold serveNode
      dsimp only
      rcases storage with _ | storage
      · exact isOwn_error rfl
      rcases command with _ | command
      · exact isOwn_error rfl
      rcases files with _ | files
      · exact isOwn_error rfl
      · exact (isOwn_register reg ⟨storage, command⟩ files).map _
  | _ => exact isOwn_error (Request.isTransport_unsupported _ _)

end Registry

/-! ### Storage nodes -/

namespace Store

variable (st : Store) (h : HostPath) (p : Path)

theorem isOwn_hostPath : IsOwn (st.hostPath p) := isOwn_mapError PathError.isTransport_toError _

theorem isOwn_fileLength : IsOwn (st.fileLength h p) := by
  unfold fileLength
  split
  · exact isOwn_error rfl
  · exact isOwn_ok _
  · exact isOwn_error (Error.isTransport_ofFault _ _)

theorem isOwn_size : IsOwn (st.size p) := by
  unfold size
  split
  · next e failed => exact isOwn_error (isOwn_hostPath st p e failed)
  · exact (isOwn_fileLength st _ p).map _

theorem isOwn_read (offset length : Int64) : IsOwn (st.read p offset length) := by
  unfold read
  split
  · exact isOwn_error rfl
  · split
    · next e failed => exact isOwn_error (isOwn_hostPath st p e failed)
    · split
      · next e failed => exact isOwn_error (isOwn_fileLength st _ p e failed)
      · dsimp only
        split
        · exact isOwn_error rfl
        · split
          · exact isOwn_error (Error.isTransport_ofFault _ _)
          · exact isOwn_ok _

theorem isOwn_write (offset : Int64) (data : List UInt8) : IsOwn (st.write p offset data).1 := by
  unfold write
  split
  · exact isOwn_error rfl
  split
  · next e failed => exact isOwn_error (isOwn_hostPath st p e failed)
  split
  · next e failed => exact isOwn_error (isOwn_fileLength st _ p e failed)
  split
  · exact isOwn_error (Error.isTransport_ofFault _ _)
  split
  · exact isOwn_ok ()
  split
  · exact isOwn_error (Error.isTransport_ofFault _ _)
  split
  · exact isOwn_error (Error.isTransport_ofFault _ _)
  · exact isOwn_ok ()

theorem isOwn_serveStorage (r : Request) : IsOwn (st.serveStorage r).1 := by
  cases r with
  | size p => exact (isOwn_size st p).map _
  | read p offset length => exact (isOwn_read st p offset length).map _
  | write p offset data => exact (isOwn_write st p offset data).map _
  | _ => exact isOwn_error (Request.isTransport_unsupported _ _)

theorem isOwn_serveCommand (r : Request) : IsOwn (st.serveCommand r).1 := by
  cases r with
  | create p => exact isOwn_ok _
  | delete p => exact isOwn_ok _
  | _ => exact isOwn_error (Request.isTransport_unsupported _ _)

end Store

/-! ### What passes between the naming service and the nodes -/

/-- No reply can be read from what a connection brings. -/
def Connection.NoReply (stream : List UInt8) : Prop :=
  ∀ payload rest, Frame.front stream = .frame payload rest → Reply.ofBytes? payload = none

theorem Connection.receive_of_noReply {stream : List UInt8} (nothing : NoReply stream)
    (source : Address) : ∃ e, receive source stream = .error e ∧ e.isTransport = true := by
  unfold receive
  cases front : Frame.front stream with
  | frame payload rest =>
      dsimp only [replyIn]
      rw [nothing payload rest front]
      exact ⟨_, rfl, rfl⟩
  | _ => exact ⟨_, rfl, rfl⟩

/-- A reply of another kind is a failure of the exchange. -/
theorem Exchange.answer_of_other_kind {x : Exchange} {response : Response}
    (replied : x.reply = .ok response) (other : response.kind ≠ .bool) :
    ∃ e, x.answer = .error e ∧ e.isTransport = true := by
  unfold Exchange.answer
  rw [replied]
  cases response with
  | bool value => exact absurd rfl other
  | _ => exact ⟨_, rfl, rfl⟩

namespace Registry

/-- What a request of a client has the naming service ask of which nodes: the node whose turn
it is creates a new file, and the owners of what is deleted delete their copies. -/
inductive Asks (reg : Registry) : Request → Handle → Request → Prop where
  | create {p : Path} {node : Handle} :
      reg.pick = some node → Asks reg (.createFile p) node (.create p)
  | delete {p : Path} {node : Handle} {entry : Entry} {names : Namespace} :
      reg.names.remove p = some (entry, names) → node ∈ Entry.owners entry →
      Asks reg (.deletePath p) node (.delete p)

/-- What is asked of nodes for a request, and how the reply to it follows: the first failure
is passed on, but one of the transport as a node that is unavailable, and if nothing fails, the
reply is whether all have done what they were asked. -/
structure Relays (reg : Registry) (r : Request) (asked : List (Handle × Exchange)) (reply : Reply) :
    Prop where
  commands : ∀ x ∈ asked, reg.Asks r x.1 x.2.request ∧ x.2.target = x.1.command
  failed : ∀ before node x after e, asked = before ++ (node, x) :: after →
    (∀ y ∈ before, ∃ done, y.2.answer = .ok done) → x.answer = .error e → reply = .error
      (if e.isTransport then .unavailable s!"storage node {node}: {e.text}" else e)
  done : asked ≠ [] → (∀ x ∈ asked, ∃ done, x.2.answer = .ok done) →
    reply = .ok (.bool (decide (∀ x ∈ asked, x.2.answer = .ok true)))

variable {σ : Type} {reg : Registry} {r : Request} {reply : Reply}

/-- Nobody is asked. -/
theorem Relays.nil (reg : Registry) (r : Request) (reply : Reply) : Relays reg r [] reply where
  commands := by simp
  failed := by simp
  done := fun some => absurd rfl some

theorem Relays.of_verdict {asked : List (Handle × Exchange)}
    (commands : ∀ x ∈ asked, reg.Asks r x.1 x.2.request ∧ x.2.target = x.1.command) :
    Relays reg r asked ((verdict (asked.map fun x => (x.1, x.2.answer))).map .bool) where
  commands := commands
  failed := by
    rintro before node x after e rfl answered failed
    have first : ∀ y ∈ before.map fun x => (x.1, x.2.answer), ∃ done, y.2 = .ok done :=
      List.forall_mem_map.mpr answered
    rw [List.map_append, List.map_cons, failed, verdict_of_error first]
    rfl
  done := by
    intro _ answered
    rw [verdict_of_answered (List.forall_mem_map.mpr answered)]
    simp only [List.forall_mem_map, Except.map]

/-- The creation of a file is decided by its one node as a deletion is by the owners. -/
theorem settle_eq_verdict (reg : Registry) (p : Path) (node : Handle)
    (reply : Except Error Bool) : (reg.settle p node reply).1 = verdict [(node, reply)] := by
  rcases reply with e | created
  · rfl
  · cases created <;> rfl

theorem relays_createFile (ask : Caller σ) (reg : Registry) (p : Path) (w : σ) :
    ∃ (asked : List (Handle × Exchange)) (answer : Except Error Bool) (reg' : Registry) (w' : σ),
      reg.createFile (Call.nodeCalls ask) p w = (answer, reg', w') ∧
      reg.createFile (Call.nodeCalls ask.recorded) p ([], w) =
        (answer, reg', asked.map Prod.snd, w') ∧
      Relays reg (.createFile p) asked (answer.map .bool) := by
  cases reserved : reg.reserve p with
  | settled answer =>
      exact ⟨[], answer, reg, w, createFile_of_settled reserved, createFile_of_settled reserved,
        .nil ..⟩
  | reserved node reg' =>
      obtain ⟨-, picked, -⟩ := reserve_eq_reserved reserved
      let x := ask.exchange node.command (.create p) w
      refine ⟨[(node, x)], (reg'.settle p node x.answer).1, (reg'.settle p node x.answer).2, _,
        createFile_of_reserved reserved (Call.invoke_toBool ..),
        createFile_of_reserved reserved (Call.invoke_toBool_recorded ..), ?_⟩
      rw [settle_eq_verdict]
      refine .of_verdict fun y mem => ?_
      obtain rfl := List.mem_singleton.mp mem
      exact ⟨.create picked, rfl⟩

theorem relays_delete (ask : Caller σ) (reg : Registry) (p : Path) (w : σ) :
    ∃ (asked : List (Handle × Exchange)) (answer : Except Error Bool) (reg' : Registry) (w' : σ),
      reg.delete (Call.nodeCalls ask) p w = (answer, reg', w') ∧
      reg.delete (Call.nodeCalls ask.recorded) p ([], w) =
        (answer, reg', asked.map Prod.snd, w') ∧
      Relays reg (.deletePath p) asked (answer.map .bool) := by
  cases removed : reg.names.remove p with
  | none =>
      exact ⟨[], _, reg, w, delete_of_not_removed removed, delete_of_not_removed removed, .nil ..⟩
  | some found =>
      obtain ⟨entry, names⟩ := found
      obtain ⟨asked, w', plain, recorded, order, commands⟩ :=
        askAll_recorded ask p (Entry.owners entry).toList [] w
      have notRoot := Namespace.not_isRoot_of_lookup (Namespace.remove_eq_some_iff.mp removed).1
      refine ⟨asked, verdict (asked.map fun x => (x.1, x.2.answer)), { reg with names }, w', ?_, ?_,
        .of_verdict fun x mem => ?_⟩
      · rw [delete_of_removed notRoot removed, plain]
      · rw [delete_of_removed notRoot removed, recorded, List.nil_append]
      · obtain ⟨target, request⟩ := commands x mem
        have owner : x.1 ∈ Entry.owners entry := by
          rw [← SortedSet.mem_toList, ← order]
          exact List.mem_map_of_mem mem
        rw [request]
        exact ⟨.delete removed owner, target⟩

/-- Only to create a file and to delete a path does the naming service ask nodes. -/
theorem relays_serveClient (ask : Caller σ) (reg : Registry) (r : Request) (w : σ) :
    ∃ (asked : List (Handle × Exchange)) (reply : Reply) (reg' : Registry) (w' : σ),
      reg.serveClient (Call.nodeCalls ask) r w = (reply, reg', w') ∧
      reg.serveClient (Call.nodeCalls ask.recorded) r ([], w) =
        (reply, reg', asked.map Prod.snd, w') ∧
      Relays reg r asked reply := by
  cases r with
  | createFile p =>
      obtain ⟨asked, answer, reg', w', plain, recorded, relays⟩ := relays_createFile ask reg p w
      refine ⟨asked, answer.map .bool, reg', w', ?_, ?_, relays⟩
      · simp only [serveClient, plain]
      · simp only [serveClient, recorded]
  | deletePath p =>
      obtain ⟨asked, answer, reg', w', plain, recorded, relays⟩ := relays_delete ask reg p w
      refine ⟨asked, answer.map .bool, reg', w', ?_, ?_, relays⟩
      · simp only [serveClient, plain]
      · simp only [serveClient, recorded]
  | _ => exact ⟨[], _, _, w, rfl, rfl, .nil ..⟩

end Registry

/-! ### The asking side -/

namespace Cluster

variable {inner : Caller Cluster} {target : Address} {r : Request} {c : Cluster} {role : Role}
  {answers : Server Cluster}

theorem isOwn_server (inner : Caller Cluster) (i : Interface) (host : Nat) (root : HostPath)
    (r : Request) (c : Cluster) : IsOwn (server inner i host root r c).1 := by
  cases i with
  | service => exact Registry.isOwn_serveClient (Call.nodeCalls inner) c.registry r c
  | registration => exact Registry.isOwn_serveNode c.registry r
  | storage => exact Store.isOwn_serveStorage (c.storeOf host root) r
  | command => exact Store.isOwn_serveCommand (c.storeOf host root) r

theorem isOwn_of_server (behind : server? inner role = some answers) (r : Request) (c : Cluster) :
    IsOwn (answers r c).1 := by
  cases role with
  | naming i =>
      obtain rfl := Option.some.inj behind
      exact isOwn_server inner i 0 ⟨[]⟩ r c
  | node host root i =>
      obtain rfl := Option.some.inj behind
      exact isOwn_server inner i host root r c
  | scripted host i => cases behind

/-- A reply that is too large is not sent, and its connection ends. -/
theorem callWith_of_large_reply (reached : c.network.connect target = .ok role)
    (behind : server? inner role = some answers)
    (small : (Utf8.encode r.text).length ≤ Frame.maxLength)
    (large : Frame.maxLength < (Utf8.encode (Reply.text (answers r.withoutFlow c).1)).length) :
    (callWith inner target r c).1 = .error (.transport s!"{target} closed the connection") := by
  have sent : Connection.send target r = .ok (Frame.encode (Utf8.encode r.text)) :=
    Connection.send_eq_ok_iff.mpr ⟨small, rfl⟩
  have unsent : Connection.replyPayload (answers r.withoutFlow c).1 = none := by
    rw [Connection.replyPayload, if_pos large]
  rw [callWith_of_server reached behind small, Connection.serveStream_of_send sent, unsent]
  rfl

/-- An error of the transport from a server comes of the exchange with it: the request or
the reply is too large to be sent. -/
theorem isTransport_iff_too_large (reached : c.network.connect target = .ok role)
    (behind : server? inner role = some answers) :
    (∃ e, (callWith inner target r c).1 = .error e ∧ e.isTransport = true) ↔
      Frame.maxLength < (Utf8.encode r.text).length ∨
      Frame.maxLength < (Utf8.encode (Reply.text (answers r.withoutFlow c).1)).length := by
  by_cases small : (Utf8.encode r.text).length ≤ Frame.maxLength
  case neg =>
    rw [callWith_of_large reached (by omega)]
    exact ⟨fun _ => .inl (by omega), fun _ => ⟨_, rfl, rfl⟩⟩
  by_cases short : (Utf8.encode (Reply.text (answers r.withoutFlow c).1)).length ≤ Frame.maxLength
  case neg =>
    rw [callWith_of_large_reply reached behind small (by omega)]
    exact ⟨fun _ => .inr (by omega), fun _ => ⟨_, rfl, rfl⟩⟩
  rw [callWith_of_reply reached behind small short]
  constructor
  · rintro ⟨e, failed, transport⟩
    have own := (isOwn_of_server behind r.withoutFlow c).map Response.withoutFlow
    rw [own e failed] at transport
    cases transport
  · rintro (large | large) <;> omega

/-- No interface answers with an error of the transport, whatever its state and its request,
and whatever the nodes reply that the naming service asks, be it while other requests
change the registry. The naming service asks the node whose turn it is to create a file, and the
owners to delete their copies; of their failures it passes on the first, as that node being
unavailable if the exchange with it failed, and unchanged if not. An exchange fails, too, if no
reply can be read from what the node sends, or one of another kind.

So an error of the transport is about the exchange of whoever gets it: if a server is reached,
the error means that the request or the reply is too large to be sent. -/
theorem transport_is_own_hop :
    (∀ {σ : Type} (calls : NodeCalls σ) (reg : Registry) (r : Request) (w : σ),
      IsOwn (reg.serveClient calls r w).1 ∧ IsOwn (reg.serveNode r).1) ∧
    (∀ (reg : Registry) (p : Path) (node : Handle) (reply : Except Error Bool),
      IsOwn (reg.settle p node reply).1 ∧
      ∀ e, reply = .error e → (reg.settle p node reply).1 = .error
        (if e.isTransport then .unavailable s!"storage node {node}: {e.text}" else e)) ∧
    (∀ (st : Store) (r : Request), IsOwn (st.serveStorage r).1 ∧ IsOwn (st.serveCommand r).1) ∧
    (∀ {σ : Type} (ask : Caller σ) (reg : Registry) (r : Request) (w : σ),
      ∃ (asked : List (Handle × Exchange)) (reply : Reply) (reg' : Registry) (w' : σ),
        reg.serveClient (Call.nodeCalls ask) r w = (reply, reg', w') ∧
        reg.serveClient (Call.nodeCalls ask.recorded) r ([], w) =
          (reply, reg', asked.map Prod.snd, w') ∧
        reg.Relays r asked reply) ∧
    (∀ (source : Address) (stream : List UInt8), Connection.NoReply stream →
      ∃ e, Connection.receive source stream = .error e ∧ e.isTransport = true) ∧
    (∀ (x : Exchange) (response : Response), x.reply = .ok response → response.kind ≠ .bool →
      ∃ e, x.answer = .error e ∧ e.isTransport = true) ∧
    ∀ (inner : Caller Cluster) (target : Address) (r : Request) (c : Cluster) (role : Role)
      (answers : Server Cluster), c.network.connect target = .ok role →
      server? inner role = some answers →
      ((∃ e, (callWith inner target r c).1 = .error e ∧ e.isTransport = true) ↔
        Frame.maxLength < (Utf8.encode r.text).length ∨
        Frame.maxLength < (Utf8.encode (Reply.text (answers r.withoutFlow c).1)).length) := by
  refine ⟨fun calls reg r w => ⟨?_, ?_⟩, fun reg p node reply => ⟨?_, ?_⟩, fun st r => ⟨?_, ?_⟩,
    ?_, ?_, ?_, ?_⟩
  · exact Registry.isOwn_serveClient calls reg r w
  · exact Registry.isOwn_serveNode reg r
  · exact Registry.isOwn_settle reg p node reply
  · rintro e rfl
    exact Registry.settle_of_error reg p node e
  · exact Store.isOwn_serveStorage st r
  · exact Store.isOwn_serveCommand st r
  · exact Registry.relays_serveClient
  · exact fun source stream nothing => Connection.receive_of_noReply nothing source
  · exact fun x response replied other => Exchange.answer_of_other_kind replied other
  · exact fun inner target r c role answers reached behind =>
      isTransport_iff_too_large reached behind

/-- A node closes the connection, or replies with an error of the transport of its own; either
way it is named as unavailable. -/
theorem transport_is_own_hop_forged :
    let node : Handle := ⟨.loopback 7000, .loopback 7001⟩
    let f : Path := ⟨[⟨"f", by decide⟩]⟩
    let reg : Registry := (Registry.empty.register node ∅).2
    let sends (stream : List UInt8) : Caller Unit := fun target _ w =>
      (Connection.receive target stream, w)
    let forged : Reply := .error (.transport "x")
    let lost (message : String) : Reply :=
      .error (.unavailable s!"storage node {node}: {(Error.transport message).text}")
    (reg.serveClient (Call.nodeCalls (sends [])) (.createFile f) ()).1 =
      lost s!"{node.command} closed the connection" ∧
    (reg.serveClient (Call.nodeCalls (sends (Frame.encode (Utf8.encode forged.text))))
      (.createFile f) ()).1 = lost "x" := by
  intro node f reg sends forged lost
  obtain ⟨-, -, -, relayed, -⟩ := transport_is_own_hop
  have passed (ask : Caller Unit) (message : String)
      (replied : (ask node.command (.create f) ()).1 = .error (.transport message)) :
      (reg.serveClient (Call.nodeCalls ask) (.createFile f) ()).1 = lost message := by
    obtain ⟨asked, reply, reg', w', plain, recorded, relays⟩ := relayed ask reg (.createFile f) ()
    have record : asked.map Prod.snd = [ask.exchange node.command (.create f) ()] :=
      (congrArg (fun r => r.2.2.1) recorded).symm
    obtain ⟨⟨other, x⟩, rest, rfl, rfl, nobody⟩ := List.map_eq_cons_iff.mp record
    obtain rfl := List.map_eq_nil_iff.mp nobody
    obtain ⟨asks, -⟩ := relays.commands _ List.mem_cons_self
    cases asks with
    | create picked =>
        obtain rfl : node = other := Option.some.inj picked
        rw [plain]
        refine relays.failed [] node _ [] (.transport message) rfl (List.forall_mem_nil _) ?_
        rw [Exchange.answer, Caller.exchange, replied]
        rfl
  have small : (Utf8.encode forged.text).length ≤ Frame.maxLength := by decide
  refine ⟨passed (sends []) _ rfl, passed _ "x" ?_⟩
  dsimp only [sends, Connection.receive]
  rw [Connection.front_encode small]
  exact Connection.replyIn_encode node.command forged

end Cluster

end Dfs
