import Dfs.Proofs.Message.Parts

/-!
Requests survive the wire: a request is read back from its text as it was, except
that the addresses in it lose their flow information.
-/

namespace Dfs.Request

open Json

/-- The request as it arrives. -/
def withoutFlow : Request → Request
  | .register storage command files =>
    .register (storage.map Address.withoutFlow) (command.map Address.withoutFlow) files
  | r => r

/-- The addresses that the request carries. -/
def addresses : Request → List Address
  | .register storage command _ => storage.toList ++ command.toList
  | _ => []

/-- No address of the request has flow information. -/
def FlowFree (r : Request) : Prop := ∀ a ∈ r.addresses, a.flow = 0

instance : DecidablePred FlowFree := fun r =>
  inferInstanceAs (Decidable (∀ a ∈ r.addresses, a.flow = 0))

theorem FlowFree.withoutFlow_eq_self {r : Request} (flowFree : r.FlowFree) :
    r.withoutFlow = r := by
  have kept : ∀ endpoint : Option Address, (∀ a ∈ endpoint, a.flow = 0) →
      endpoint.map Address.withoutFlow = endpoint := by
    intro endpoint flowless
    cases endpoint with
    | none => rfl
    | some a => exact congrArg some (Address.withoutFlow_eq_self_iff.mpr (flowless a rfl))
  cases r with
  | register storage command files =>
      have first := kept storage fun a mem =>
        flowFree a (List.mem_append_left _ (Option.mem_toList.mpr mem))
      have second := kept command fun a mem =>
        flowFree a (List.mem_append_right _ (Option.mem_toList.mpr mem))
      rw [withoutFlow, first, second]
  | _ => rfl

/-- The fields of a request with their values. -/
def fields (r : Request) : List (String × Json) := r.method.fields.zip r.values

theorem writable_fields (r : Request) : ∀ field ∈ r.fields, Writable field.2 := by
  have endpoint := Writable.option Writable.endpoint
  have files := Writable.option Writable.paths
  cases r <;>
    simp [fields, method, Method.fields, values, Writable.path, Writable.int64, Writable.bytes,
      endpoint, files]

theorem writable_toJson (r : Request) : Writable r.toJson := by
  apply Writable.object
  intro field mem
  rcases List.mem_cons.mp mem with rfl | mem
  · exact .string r.method.tag
  · exact writable_fields r field mem

theorem isKept_fields (r : Request) (depth : Nat) :
    ∀ field ∈ r.fields, isKept (depth + 1) field.2 = true := by
  have endpoint := isKept_ofOption (isKept_ofEndpoint depth)
  have files := isKept_ofOption (isKept_ofPaths depth)
  cases r <;> simp [fields, method, Method.fields, values, endpoint, files]

theorem isKept_toJson (r : Request) : r.toJson.isKept maxDepth = true := by
  apply isKept_ofFields_iff.mpr
  intro field mem
  rcases List.mem_cons.mp mem with rfl | mem
  · exact isKept_ofString _ _
  · exact isKept_fields r _ field mem

/-- The values of the fields make the request. -/
theorem ofFields?_given (r : Request) :
    ofFields? r.method (r.values.map .given) = some r.withoutFlow := by
  have endpoint := optional?_ofOption endpoint?_ofEndpoint (by simp [ofEndpoint, Json.ofFields])
  have files := optional?_ofOption (f := id) paths?_ofPaths (by simp [ofPaths])
  cases r <;>
    simp [method, values, ofFields?, Field.required, Field.optional?, withoutFlow, endpoint, files]

/-- Every field is found under its name. -/
theorem find_fields (r : Request) :
    r.method.fields.map (fun key => Field.find key (("method", .ofString r.method.tag) :: r.fields)) =
      r.values.map .given := by
  cases r <;> simp [method, Method.fields, values, fields, Field.find, valuesOf]

theorem find_method (r : Request) :
    Field.find "method" (("method", .ofString r.method.tag) :: r.fields) =
      .given (.ofString r.method.tag) := by
  cases r <;> simp [method, Method.fields, values, fields, Field.find, valuesOf]

/-- A request is made of what is found under its names. -/
theorem ofMembers?_of_find {r : Request} {members : List (String × Json)}
    (method : Field.find "method" members = .given (.ofString r.method.tag))
    (fields : r.method.fields.map (fun key => Field.find key members) = r.values.map .given) :
    ofMembers? members = some r.withoutFlow := by
  unfold ofMembers?
  rw [method]
  simp only [Field.required, Option.bind_eq_bind, Option.bind_some, string?_ofString,
    Method.ofTag?_tag, fields, ofFields?_given]

theorem ofJson?_ofFields {members : List (String × Json)}
    (kept : isKept maxDepth (.ofFields members) = true) :
    ofJson? (.ofFields members) = ofMembers? members := by
  unfold ofJson?
  rw [if_pos kept]
  exact congrArg (Option.bind · ofMembers?) (keyed?_map members)

theorem ofJson?_toJson (r : Request) : ofJson? r.toJson = some r.withoutFlow :=
  (ofJson?_ofFields (isKept_toJson r)).trans (ofMembers?_of_find (find_method r) (find_fields r))

/-- A request is read back from its text. -/
theorem parse?_text (r : Request) : parse? r.text = some r.withoutFlow := by
  unfold parse? text
  rw [Json.parse?_text (writable_toJson r)]
  exact ofJson?_toJson r

end Dfs.Request
