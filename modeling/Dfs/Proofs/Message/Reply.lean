import Dfs.Message.Reply
import Dfs.Proofs.Message.Parts
import Dfs.Proofs.Text.Utf8

/-!
Replies survive the wire: responses as they were, except that an endpoint loses the
flow information of its address, and errors with their kind and their message.
-/

namespace Dfs

open Json

namespace Json

theorem names?_array (names : NameSet) :
    (Json.array (names.toList.map ofString)).names? = some names := by
  have read := items?_array string?_ofString names.toList
  unfold names?
  rw [read]
  simp

/-- A tag that stands alone. -/
theorem tagged?_tag {tagKey contentKey : String} (tag : String) (depth : Nat) :
    (ofFields [(tagKey, ofString tag)]).tagged? tagKey contentKey depth = some ⟨tag, none⟩ := by
  have keys := keyed?_map [(tagKey, ofString tag)]
  unfold tagged? ofFields
  simp only [keys, Option.bind_eq_bind, Option.bind_some]
  simp [ofString, tag?]

/-- A tag that comes before its content. -/
theorem tagged?_content {tagKey contentKey : String} (tag : String) (content : Json) (depth : Nat) :
    (ofFields [(tagKey, ofString tag), (contentKey, content)]).tagged? tagKey contentKey depth =
      some ⟨tag, some content⟩ := by
  have keys := keyed?_map [(tagKey, ofString tag), (contentKey, content)]
  unfold tagged? ofFields
  simp only [keys, Option.bind_eq_bind, Option.bind_some]
  simp [ofString, tag?]

end Json

namespace Error

theorem writable_toJson (e : Error) : Writable e.toJson := by
  apply Writable.object
  intro field mem
  simp only [List.mem_cons, List.not_mem_nil, or_false] at mem
  rcases mem with rfl | rfl
  · exact .string e.kind.tag
  · exact .string e.message

theorem ofJson?_toJson (e : Error) (depth : Nat) : ofJson? depth e.toJson = some e := by
  unfold ofJson? toJson
  rw [tagged?_content]
  simp

end Error

namespace Response

/-- The response as it arrives. -/
def withoutFlow : Response → Response
  | .storage endpoint => .storage endpoint.withoutFlow
  | r => r

theorem writable_content (r : Response) : ∀ content ∈ r.content, Writable content := by
  have files := Writable.option Writable.paths
  cases r with
  | names found =>
      intro content mem
      simp only [Response.content, Option.mem_some_iff] at mem
      subst mem
      apply Writable.array
      intro item mem
      obtain ⟨name, -, rfl⟩ := List.mem_map.mp mem
      exact .string name
  | _ =>
      simp [Response.content, Writable.bool, Writable.uint64, Writable.bytes, Writable.endpoint,
        files]

theorem writable_toJson (r : Response) : Writable r.toJson := by
  apply Writable.object
  intro field mem
  rcases List.mem_cons.mp mem with rfl | mem
  · exact .string r.kind.tag
  · cases found : r.content with
    | none => simp [found] at mem
    | some content =>
        rw [found] at mem
        rw [List.mem_singleton.mp mem]
        exact writable_content r content found

theorem ofContent?_content (r : Response) : ofContent? r.kind r.content = some r.withoutFlow := by
  have files := optional?_ofOption (f := id) paths?_ofPaths (by simp [ofPaths])
  cases r <;>
    simp [kind, Response.content, ofContent?, withoutFlow, bool?, files, names?_array]

theorem ofJson?_toJson (r : Response) (depth : Nat) :
    ofJson? depth r.toJson = some r.withoutFlow := by
  have found : r.toJson.tagged? "type" "value" depth = some ⟨r.kind.tag, r.content⟩ := by
    unfold toJson
    cases r.content with
    | none => exact tagged?_tag r.kind.tag depth
    | some content => exact tagged?_content r.kind.tag content depth
  unfold ofJson?
  simp only [found, Option.bind_eq_bind, Option.bind_some, ResponseKind.ofTag?_tag,
    ofContent?_content]

end Response

namespace Reply

/-- The reply as it arrives. -/
def withoutFlow (r : Reply) : Reply := r.map Response.withoutFlow

/-- The addresses that the reply carries. -/
def addresses : Reply → List Address
  | .ok (.storage endpoint) => [endpoint]
  | _ => []

/-- No address of the reply has flow information. -/
def FlowFree (r : Reply) : Prop := ∀ a ∈ addresses r, a.flow = 0

instance : DecidablePred FlowFree := fun r =>
  inferInstanceAs (Decidable (∀ a ∈ addresses r, a.flow = 0))

theorem FlowFree.withoutFlow_eq_self {r : Reply} (flowFree : FlowFree r) : withoutFlow r = r := by
  cases r with
  | error e => rfl
  | ok response =>
      cases response with
      | storage endpoint =>
          have same := Address.withoutFlow_eq_self_iff.mpr (flowFree endpoint List.mem_cons_self)
          exact congrArg (fun a => Except.ok (Response.storage a)) same
      | _ => rfl

theorem writable_toJson (r : Reply) : Writable (Reply.toJson r) := by
  cases r with
  | ok response =>
      apply Writable.object
      intro field mem
      rw [List.mem_singleton.mp mem]
      exact response.writable_toJson
  | error e =>
      apply Writable.object
      intro field mem
      rw [List.mem_singleton.mp mem]
      exact e.writable_toJson

theorem ofJson?_toJson (r : Reply) : Reply.ofJson? (Reply.toJson r) = some (Reply.withoutFlow r) := by
  cases r with
  | ok response =>
      simp [Reply.toJson, ofFields, Reply.ofJson?, Response.ofJson?_toJson, Reply.withoutFlow,
        Except.map]
  | error e =>
      simp [Reply.toJson, ofFields, Reply.ofJson?, Error.ofJson?_toJson, Reply.withoutFlow,
        Except.map]

/-- A reply is read back from its text. -/
theorem parse?_text (r : Reply) : Reply.parse? (Reply.text r) = some (Reply.withoutFlow r) := by
  unfold Reply.parse? Reply.text
  simp only [Json.parse?_text (writable_toJson r), Option.bind_eq_bind, Option.bind_some,
    ofJson?_toJson]

/-- A reply is read back from the bytes of its text. -/
theorem ofBytes?_encode_text (r : Reply) :
    Reply.ofBytes? (Utf8.encode (Reply.text r)) = some (Reply.withoutFlow r) := by
  have read : Reply.ofBytes? (Utf8.encode (Reply.text r)) = Reply.parse? (Reply.text r) := by
    unfold Reply.ofBytes? Json.ofBytes? Reply.parse?
    rw [Utf8.decode?_encode]
  rw [read, parse?_text]

end Reply

end Dfs
