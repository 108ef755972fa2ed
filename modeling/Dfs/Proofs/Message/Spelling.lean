import Dfs.Proofs.Json.Limits
import Dfs.Proofs.Transport

/-!
All texts of a request mean the same (`Connection.spellings_agree`). The fields may stand in
any order with others among them, or without their names in an array, and every text of
such a value is read as the request. No own field may be given twice.
-/

namespace Dfs

open Json

/-! ### Fields -/

namespace Field

variable {key : String} {members members' : List (String × Json)}

theorem find_eq_repeated_iff :
    find key members = .repeated ↔ 2 ≤ (valuesOf key members).length := by
  unfold find
  match valuesOf key members with
  | [] | [_] | _ :: _ :: _ => simp

theorem valuesOf_of_find_eq_given {value : Json} (found : find key members = .given value) :
    valuesOf key members = [value] := by
  unfold find at found
  split at found
  · cases found
  · next values =>
      rw [values, given.inj found]
  · cases found

/-- The order of the members does not matter. -/
theorem find_of_perm (perm : members.Perm members') : find key members = find key members' := by
  have values : (valuesOf key members).Perm (valuesOf key members') := perm.filterMap _
  match first : valuesOf key members with
  | [] =>
      rw [first] at values
      rw [find, find, first, values.nil_eq]
  | [value] =>
      rw [first] at values
      rw [find, find, first, List.singleton_perm.mp values]
  | _ :: _ :: _ =>
      have long : 2 ≤ (valuesOf key members).length := by simp [first]
      rw [find_eq_repeated_iff.mpr long, find_eq_repeated_iff.mpr (values.length_eq ▸ long)]

/-- Members under other keys do not matter. -/
theorem find_append {extras : List (String × Json)} (other : ∀ field ∈ extras, field.1 ≠ key) :
    find key (members ++ extras) = find key members := by
  have none : valuesOf key extras = [] := by
    apply List.filterMap_eq_nil_iff.mpr
    intro field mem
    exact if_neg (other field mem)
  have same : valuesOf key (members ++ extras) = valuesOf key members ++ valuesOf key extras :=
    List.filterMap_append
  rw [find, find, same, none, List.append_nil]

end Field

/-- The key is given more than once. -/
def Json.Repeats (key : String) (members : List (Option String × Json)) : Prop :=
  2 ≤ (members.map Prod.fst).count (some key)

instance (key : String) (members : List (Option String × Json)) :
    Decidable (Json.Repeats key members) :=
  inferInstanceAs (Decidable (2 ≤ (members.map Prod.fst).count (some key)))

theorem Json.eq_of_keyed? {members : List (Option String × Json)} {fields : List (String × Json)}
    (keys : keyed? members = some fields) :
    members = fields.map fun (key, value) => (some key, value) := by
  induction members generalizing fields with
  | nil =>
      cases keys
      rfl
  | cons member members ih =>
      obtain ⟨_ | key, value⟩ := member
      · cases keys
      · obtain ⟨fields, later, rfl⟩ := Option.map_eq_some_iff.mp keys
        rw [List.map_cons, ← ih later]

/-- A key that is repeated is found repeated. -/
theorem Json.Repeats.find {key : String} {members : List (Option String × Json)}
    {fields : List (String × Json)} (repeats : Repeats key members)
    (keys : keyed? members = some fields) : Field.find key fields = .repeated := by
  rw [Field.find_eq_repeated_iff]
  have count : (valuesOf key fields).length = (members.map Prod.fst).count (some key) := by
    rw [eq_of_keyed? keys]
    clear keys
    induction fields with
    | nil => rfl
    | cons field fields ih =>
        by_cases same : field.1 = key
        · simpa [valuesOf, same] using ih
        · simpa [valuesOf, same] using ih
  exact count ▸ repeats

/-! ### Requests -/

namespace Request

/-- A field that requests of the method do not have. It is read with the request all the same,
so it has to stay within the limits; around it is the object of the request. -/
structure Ignored (m : Method) (field : String × Json) : Prop where
  notMethod : field.1 ≠ "method"
  undeclared : field.1 ∉ m.fields
  shallow : field.2.depth < maxDepth
  sound : Sound field.2.scalars

theorem values_eq (r : Request) : r.values = r.fields.map Prod.snd := by
  cases r <;> rfl

/-- The fields of a request are found among others, in any order. -/
theorem ofJson?_object (r : Request) {members extras : List (String × Json)}
    (ignored : ∀ field ∈ extras, Ignored r.method field)
    (perm : members.Perm (("method", .ofString r.method.tag) :: r.fields ++ extras)) :
    ofJson? (.ofFields members) = some r.withoutFlow := by
  have kept : isKept maxDepth (.ofFields members) = true := by
    apply isKept_ofFields_iff.mpr
    intro field mem
    rcases List.mem_append.mp (perm.mem_iff.mp mem) with own | extra
    · rcases List.mem_cons.mp own with rfl | own
      · exact isKept_ofString _ _
      · exact isKept_fields r _ field own
    · -- The object itself is the one level that the extra field has less.
      have within := ignored field extra
      exact (isKept_iff _ _).mpr ⟨Nat.le_of_lt_succ within.shallow, within.sound⟩
  have method : Field.find "method" members = .given (.ofString r.method.tag) := by
    rw [Field.find_of_perm perm, Field.find_append fun field mem => (ignored field mem).notMethod,
      find_method]
  have fields : r.method.fields.map (fun key => Field.find key members) =
      r.values.map .given := by
    rw [← find_fields]
    apply List.map_congr_left
    intro key declared
    rw [Field.find_of_perm perm, Field.find_append]
    rintro field mem rfl
    exact (ignored field mem).undeclared declared
  rw [ofJson?_ofFields kept]
  exact ofMembers?_of_find method fields

/-- The values of the fields are read from their places. -/
theorem ofJson?_array (r : Request) :
    ofJson? (.array (.ofString r.method.tag :: r.values)) = some r.withoutFlow := by
  have kept : isKept maxDepth (.array (.ofString r.method.tag :: r.values)) = true := by
    apply areKept_iff.mpr
    intro value mem
    rcases List.mem_cons.mp mem with rfl | own
    · exact isKept_ofString _ _
    · rw [values_eq] at own
      obtain ⟨field, inside, rfl⟩ := List.mem_map.mp own
      exact isKept_fields r _ field inside
  have complete : r.method.fields.length - r.values.length = 0 := by
    cases r <;> rfl
  have read : ofItems? (.ofString r.method.tag :: r.values) = some r.withoutFlow := by
    simp only [ofItems?, string?_ofString, Option.bind_eq_bind, Option.bind_some,
      Method.ofTag?_tag, complete, List.replicate_zero, List.append_nil, ofFields?_given]
  unfold ofJson?
  rw [if_pos kept]
  exact read

/-- No field may be given twice. -/
theorem ofFields?_of_repeated {m : Method} {fields : List Field} (twice : .repeated ∈ fields) :
    ofFields? m fields = none := by
  unfold ofFields?
  split
  case h_14 => rfl
  -- Three methods have three fields, the others one.
  case h_2 | h_3 | h_6 =>
    simp only [List.mem_cons, List.not_mem_nil, or_false] at twice
    rcases twice with rfl | rfl | rfl <;> simp [Field.required, Field.optional?]
  all_goals
    rw [← List.mem_singleton.mp twice]
    rfl

theorem ofJson?_object_eq_none {members : List (Option String × Json)}
    (refused : ∀ fields, keyed? members = some fields → ofMembers? fields = none) :
    ofJson? (.object members) = none := by
  unfold ofJson?
  split
  · cases keys : keyed? members with
    | none => simp [keys]
    | some fields => simp [keys, refused fields keys]
  · rfl

/-- A repeated method is no method. -/
theorem ofJson?_of_repeated_method {members : List (Option String × Json)}
    (repeats : Repeats "method" members) : ofJson? (.object members) = none := by
  refine ofJson?_object_eq_none fun fields keys => ?_
  unfold ofMembers?
  rw [repeats.find keys]
  rfl

/-- A repeated field of the method that an object names is not read. -/
theorem ofJson?_of_repeated_field {m : Method} {key : String}
    {members : List (Option String × Json)} (named : (some "method", .ofString m.tag) ∈ members)
    (declared : key ∈ m.fields) (repeats : Repeats key members) :
    ofJson? (.object members) = none := by
  refine ofJson?_object_eq_none fun fields keys => ?_
  have twice : .repeated ∈ m.fields.map fun key => Field.find key fields :=
    List.mem_map.mpr ⟨key, declared, repeats.find keys⟩
  have tag : .ofString m.tag ∈ valuesOf "method" fields := by
    rw [eq_of_keyed? keys] at named
    obtain ⟨field, mem, same⟩ := List.mem_map.mp named
    have parts := Prod.mk.inj same
    refine List.mem_filterMap.mpr ⟨field, mem, ?_⟩
    rw [if_pos (Option.some.inj parts.1), parts.2]
  unfold ofMembers?
  match found : Field.find "method" fields with
  | .absent | .repeated => rfl
  | .given value =>
      rw [Field.valuesOf_of_find_eq_given found] at tag
      rw [← List.mem_singleton.mp tag]
      simp only [Field.required, Option.bind_eq_bind, Option.bind_some, string?_ofString,
        Method.ofTag?_tag, ofFields?_of_repeated twice]

end Request

/-! ### Payloads -/

namespace Connection

theorem request?_of_denotes {text : String} {value : Json} (denotes : Denotes text value) :
    request? (Utf8.encode text) = Request.ofJson? value := by
  simp [request?, Request.parse?, parse?_of_denotes denotes]

/-- The texts of a request, and what they are read as. -/
structure SpellingsAgree (r : Request) : Prop where
  /-- The written text is one of those that follow. -/
  written : Denotes r.text (.ofFields (("method", .ofString r.method.tag) :: r.fields))
  object : ∀ (text : String) (members extras : List (String × Json)),
    (∀ field ∈ extras, Request.Ignored r.method field) →
    members.Perm (("method", .ofString r.method.tag) :: r.fields ++ extras) →
    Denotes text (.ofFields members) → request? (Utf8.encode text) = some r.withoutFlow
  array : ∀ text : String, Denotes text (.array (.ofString r.method.tag :: r.values)) →
    request? (Utf8.encode text) = some r.withoutFlow
  whole : r.FlowFree → r.withoutFlow = r
  repeatedMethod : ∀ (text : String) (members : List (Option String × Json)),
    Denotes text (.object members) → Repeats "method" members →
    request? (Utf8.encode text) = none
  repeatedField : ∀ (text : String) (members : List (Option String × Json)) (key : String),
    Denotes text (.object members) → (some "method", .ofString r.method.tag) ∈ members →
    key ∈ r.method.fields → Repeats key members → request? (Utf8.encode text) = none

/-- A request is read from each of its texts. -/
theorem spellings_agree (r : Request) : SpellingsAgree r where
  written := (Request.writable_toJson r).denotes_text
  object := by
    intro text members extras ignored perm denotes
    rw [request?_of_denotes denotes]
    exact r.ofJson?_object ignored perm
  array := by
    intro text denotes
    rw [request?_of_denotes denotes]
    exact r.ofJson?_array
  whole := fun flowFree => flowFree.withoutFlow_eq_self
  repeatedMethod := by
    intro text members denotes repeats
    rw [request?_of_denotes denotes]
    exact Request.ofJson?_of_repeated_method repeats
  repeatedField := by
    intro text members key denotes named declared repeats
    rw [request?_of_denotes denotes]
    exact Request.ofJson?_of_repeated_field named declared repeats

/-! #### One request, in several texts -/

def sizeOfRoot : Request := .size ⟨[]⟩

/-- The object of the request with blanks, another order and escapes, and with a field that is
not looked at, given twice. -/
def spaced : String :=
  "\x7b \"x\": [2E-1,null] ,\"path\":\"\\u002F\",\n\"method\":\"size\",\"x\":\"\\ud83D\\uDE00\"\x7d"

def spacedMembers : List (String × Json) :=
  [("x", .array [.number .fraction, .null]), ("path", .ofString "/"),
    ("method", .ofString "size"), ("x", .ofString "😀")]

def unused : List (String × Json) :=
  [("x", .array [.number .fraction, .null]), ("x", .ofString "😀")]

theorem denotes_spaced : Denotes spaced (.ofFields spacedMembers) := by
  have slash : UnitEscape ['\\', 'u', '0', '0', '2', 'F'] '/'.toNat :=
    .mk (i := 0) (j := 0) (k := 2) (l := 15) (by decide) (by decide) (by decide) (by decide)
  have high : UnitEscape ['\\', 'u', 'd', '8', '3', 'D'] 0xD83D :=
    .mk (i := 13) (j := 8) (k := 3) (l := 13) (by decide) (by decide) (by decide) (by decide)
  have low : UnitEscape ['\\', 'u', 'D', 'E', '0', '0'] 0xDE00 :=
    .mk (i := 13) (j := 14) (k := 0) (l := 0) (by decide) (by decide) (by decide) (by decide)
  have emoji : StringText _ (some ['😀']) := .pair (c := '😀') (by decide) high low .nil
  have digits : NumberText _ ⟨false, [2], none, some (true, [1])⟩ :=
    .mk ⟨by decide, by decide⟩ (by decide) .absent
      (.present (.inr rfl) .minus ⟨by decide, by decide⟩)
  -- Each token is put in front of what follows it.
  have last := (((Lexed.nil.mark (c := '}') (by decide)).string emoji).key "x").mark (c := ',')
    (by decide)
  have method := ((last.quote "size".toList).key "method").blank (c := '\n') (by decide)
  have path := ((method.mark (c := ',') (by decide)).string (.unit slash .nil)).key "path"
  have items := (((path.mark (c := ',') (by decide)).blank (c := ' ') (by decide)).mark (c := ']')
    (by decide)).null.mark (c := ',') (by decide)
  have first := (items.number digits (.mark (by decide) _)).mark (c := '[') (by decide)
  have inside := ((first.blank (c := ' ') (by decide)).key "x").blank (c := ' ') (by decide)
  unfold Denotes
  convert inside.mark (c := '{') (by decide) using 1
  · decide
  · rfl

theorem spellings_agree_sizeOfRoot :
    Denotes spaced (.ofFields spacedMembers) ∧
      request? (Utf8.encode spaced) = some sizeOfRoot ∧
      request? (Utf8.encode (Json.array [.ofString "size", .ofString "/"]).text) =
        some sizeOfRoot ∧
      request? (Utf8.encode (Json.ofFields [("path", .ofString "/"), ("method", .ofString "size"),
        ("path", .ofString "/")]).text) = none ∧
      request? (Utf8.encode (Json.ofFields [("method", .ofString "size"), ("path", .ofString "/"),
        ("method", .ofString "size")]).text) = none := by
  have agree := spellings_agree sizeOfRoot
  refine ⟨denotes_spaced, ?_, ?_, ?_, ?_⟩
  · have ignored : ∀ field ∈ unused, Request.Ignored sizeOfRoot.method field := by
      simp only [unused, List.mem_cons, List.not_mem_nil, or_false, forall_eq_or_imp, forall_eq]
      exact ⟨⟨by decide, by decide, by decide, by simp [Sound, scalars, itemScalars]⟩,
        ⟨by decide, by decide, by decide, by simp [Sound, scalars, ofString]⟩⟩
    have perm : spacedMembers.Perm
        (("method", .ofString sizeOfRoot.method.tag) :: sizeOfRoot.fields ++ unused) :=
      (List.reverse_perm [("method", ofString "size"), ("path", ofString "/"),
        ("x", Json.array [.number .fraction, .null])]).append_right [("x", ofString "😀")]
    exact agree.object spaced spacedMembers unused ignored perm denotes_spaced
  · apply agree.array
    exact (Writable.array (by simp [Writable.string])).denotes_text
  · exact agree.repeatedField _ _ "path" (Writable.object (by simp [Writable.string])).denotes_text
      (by simp [sizeOfRoot, Request.method, Method.tag]) (by decide) (by decide)
  · exact agree.repeatedMethod _ _ (Writable.object (by simp [Writable.string])).denotes_text
      (by decide)

/-- Half of a pair of surrogates in a field that is not looked at. -/
def unpaired : String := "\x7b\"method\":\"size\",\"path\":\"/\",\"x\":\"\\ud800\"\x7d"

def flowing : Request := .register (some (.v6 ⟨0xfe80, 0, 0, 0, 0, 0, 0, 1⟩ 80 1 0)) none none

/-- The limits of depth and of numbers are not enough: a text that is no string is refused even
in a field that is not looked at. Nor is every request read as it was, since the text of an
address leaves its flow information out. -/
theorem spellings_differ :
    Denotes unpaired (.ofFields (("method", .ofString sizeOfRoot.method.tag) ::
        sizeOfRoot.fields ++ [("x", .str none)])) ∧
      "x" ∉ "method" :: sizeOfRoot.method.fields ∧ (Json.str none).depth < maxDepth ∧
      .number .huge ∉ (Json.str none).scalars ∧
      request? (Utf8.encode unpaired) = none ∧
      Denotes flowing.text flowing.toJson ∧ request? (Utf8.encode flowing.text) ≠ some flowing := by
  have denotes : Denotes unpaired (.ofFields (("method", .ofString sizeOfRoot.method.tag) ::
      sizeOfRoot.fields ++ [("x", .str none)])) := by
    have unit : UnitEscape ['\\', 'u', 'd', '8', '0', '0'] 0xD800 :=
      .mk (i := 13) (j := 8) (k := 0) (l := 0) (by decide) (by decide) (by decide) (by decide)
    have alone : StringText _ none := .unpaired unit (by decide) (by decide)
      (fun _ ⟨_, _, escape, _, _, first⟩ => by cases escape; simp at first) .nil
    have last := (((Lexed.nil.mark (c := '}') (by decide)).string alone).key "x").mark (c := ',')
      (by decide)
    have path := ((last.quote "/".toList).key "path").mark (c := ',') (by decide)
    have method := (path.quote "size".toList).key "method"
    unfold Denotes
    convert method.mark (c := '{') (by decide) using 1
    · decide
    · rfl
  refine ⟨denotes, by decide, by decide, by simp [scalars], ?_, ?_, ?_⟩
  · rw [request?_of_denotes denotes]
    rfl
  · exact (Request.writable_toJson flowing).denotes_text
  · rw [request?_encode]
    decide

end Connection

end Dfs
