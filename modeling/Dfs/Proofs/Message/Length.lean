import Dfs.Proofs.Message.Reply
import Dfs.Proofs.Message.Request
import Dfs.Proofs.Path.Host
import Dfs.Transport.Frame
import Mathlib.Algebra.GroupWithZero.Nat

/-!
How long messages are. What the naming service sends on for a request of a client,
and what it answers to a registration, is no longer than the request itself, so it
can be sent if the request could. A request for a path that a host takes can always be
sent (`Request.small_of_fits`).
-/

namespace Dfs

namespace SortedSet

variable {α : Type} [LT α] [StrictTotal α]

/-- Of two increasing lists, one with no other members than the second is part of it. -/
theorem sublist_of_subset {xs ys : List α} (hx : xs.Pairwise (· < ·)) (hy : ys.Pairwise (· < ·))
    (subset : ∀ a ∈ xs, a ∈ ys) : xs.Sublist ys := by
  induction ys generalizing xs with
  | nil =>
      cases xs with
      | nil => exact .slnil
      | cons x xs => exact absurd (subset x List.mem_cons_self) List.not_mem_nil
  | cons y ys ih =>
      cases xs with
      | nil => exact List.nil_sublist _
      | cons x xs =>
          rw [List.pairwise_cons] at hx hy
          have inTail : ∀ a ∈ xs, x = y → a ∈ ys := by
            rintro a mem rfl
            rcases List.mem_cons.mp (subset a (List.mem_cons_of_mem _ mem)) with rfl | later
            · exact absurd (hx.1 a mem) (StrictTotal.irrefl a)
            · exact later
          rcases List.mem_cons.mp (subset x List.mem_cons_self) with rfl | later
          · exact (ih hx.2 hy.2 fun a mem => inTail a mem rfl).cons_cons x
          · refine (ih (List.pairwise_cons.mpr hx) hy.2 fun a mem => ?_).cons y
            rcases List.mem_cons.mp mem with rfl | mem'
            · exact later
            · rcases List.mem_cons.mp (subset a mem) with rfl | later'
              · exact absurd (StrictTotal.trans (hx.1 a mem') (hy.1 x later)) (StrictTotal.irrefl x)
              · exact later'

end SortedSet

namespace Json

/-- The number of bytes of a text. -/
def bytesOf (text : List Char) : Nat := (text.flatMap String.utf8EncodeChar).length

@[simp] theorem bytesOf_nil : bytesOf [] = 0 := rfl

@[simp] theorem bytesOf_append (xs ys : List Char) : bytesOf (xs ++ ys) = bytesOf xs + bytesOf ys := by
  simp [bytesOf]

@[simp] theorem bytesOf_cons (c : Char) (xs : List Char) :
    bytesOf (c :: xs) = c.utf8Size + bytesOf xs := by
  simp [bytesOf]

theorem length_encode_text (value : Json) : (Utf8.encode value.text).length = bytesOf value.render := by
  rw [text, Utf8.encode_ofList, bytesOf]

/-- Items of a list with commas between them: each has one byte more, but for the
last. -/
theorem bytesOf_commaSeparated (items : List (List Char)) :
    bytesOf (commaSeparated items) = (items.map fun item => bytesOf item + 1).sum - 1 := by
  induction items with
  | nil => rfl
  | cons item items ih =>
      cases items with
      | nil => simp [commaSeparated]
      | cons next items =>
          have comma : ','.utf8Size = 1 := rfl
          rw [commaSeparated, bytesOf_append, bytesOf_cons, comma, ih]
          · simp only [List.map_cons, List.sum_cons]
            omega
          · simp

theorem bytesOf_commaSeparated_le {items items' : List (List Char)} (part : items.Sublist items') :
    bytesOf (commaSeparated items) ≤ bytesOf (commaSeparated items') := by
  have sums : (items.map fun item => bytesOf item + 1).sum ≤
      (items'.map fun item => bytesOf item + 1).sum := by
    induction part with
    | slnil => exact Nat.le_refl _
    | cons item part ih =>
        rw [List.map_cons, List.sum_cons]
        omega
    | cons_cons item part ih =>
        rw [List.map_cons, List.map_cons, List.sum_cons, List.sum_cons]
        omega
  rw [bytesOf_commaSeparated, bytesOf_commaSeparated]
  omega

theorem renderItems_eq_map (items : List Json) : renderItems items = items.map render := by
  induction items with
  | nil => rfl
  | cons item items ih => rw [renderItems, ih, List.map_cons]

theorem bytesOf_ofPaths_le {paths paths' : PathSet} (part : ∀ p ∈ paths, p ∈ paths') :
    bytesOf (ofPaths paths).render ≤ bytesOf (ofPaths paths').render := by
  have lists := SortedSet.sublist_of_subset paths.sorted paths'.sorted part
  have texts := bytesOf_commaSeparated_le ((lists.map ofPath).map render)
  simp only [ofPaths, render, renderItems_eq_map, List.cons_append, bytesOf_cons, bytesOf_append]
  omega

/-- The length of an object, from the lengths of its keys and its values. -/
theorem bytesOf_ofFields (fields : List (String × Json)) :
    bytesOf (ofFields fields).render = 2 + ((fields.map fun field =>
      bytesOf (quote field.1.toList) + bytesOf field.2.render + 2).sum - 1) := by
  have members : renderMembers (fields.map fun field => (some field.1, field.2)) =
      fields.map fun field => quote field.1.toList ++ ':' :: field.2.render := by
    induction fields with
    | nil => rfl
    | cons field fields ih =>
        rw [List.map_cons, renderMembers, ih, List.map_cons]
        rfl
  have lengths : ∀ field : String × Json,
      bytesOf (quote field.1.toList ++ ':' :: field.2.render) + 1 =
        bytesOf (quote field.1.toList) + bytesOf field.2.render + 2 := by
    intro field
    have colon : ':'.utf8Size = 1 := rfl
    rw [bytesOf_append, bytesOf_cons, colon]
    omega
  have opening : '{'.utf8Size = 1 := rfl
  have closing : '}'.utf8Size = 1 := rfl
  have whole : ofFields fields = .object (fields.map fun field => (some field.1, field.2)) := rfl
  rw [whole, render, members, List.cons_append, bytesOf_cons, bytesOf_append, bytesOf_commaSeparated,
    List.map_map, opening, bytesOf_cons, closing, bytesOf_nil]
  simp only [Function.comp_def, lengths]
  omega

/-! ### Texts with escapes -/

/-- An escape has at most six bytes. -/
theorem bytesOf_escape_le (c : Char) : bytesOf (escape c) ≤ 6 * c.utf8Size := by
  have one := c.utf8Size_pos
  have digit : ∀ n < 16, (lowerHexDigit n).utf8Size = 1 := by decide
  unfold escape
  iterate 7
    split
    · exact Nat.le_trans (by decide : _ ≤ 6) (by omega)
  split
  · next control =>
    have small : c.toNat < 32 := control
    have first := digit (c.toNat / 16) (by omega)
    have second := digit (c.toNat % 16) (by omega)
    have front : bytesOf ['\\', 'u', '0', '0'] = 4 := by decide
    have whole : bytesOf (['\\', 'u', '0', '0'] ++
        [lowerHexDigit (c.toNat / 16), lowerHexDigit (c.toNat % 16)]) = 6 := by
      rw [bytesOf_append, front, bytesOf_cons, bytesOf_cons, first, second, bytesOf_nil]
    exact whole.le.trans (by omega)
  · rw [bytesOf_cons, bytesOf_nil]
    omega

theorem bytesOf_quote_le (text : List Char) : bytesOf (quote text) ≤ 6 * bytesOf text + 2 := by
  have mark : '"'.utf8Size = 1 := rfl
  have inner : bytesOf (text.flatMap escape) ≤ 6 * bytesOf text := by
    induction text with
    | nil => simp
    | cons c text ih =>
        have first := bytesOf_escape_le c
        rw [List.flatMap_cons, bytesOf_append, bytesOf_cons]
        omega
  rw [quote, List.cons_append, bytesOf_cons, bytesOf_append, bytesOf_cons, bytesOf_nil, mark]
  omega

theorem bytesOf_quote_of_isPrefix {text text' : List Char} (front : text <+: text') :
    bytesOf (quote text) ≤ bytesOf (quote text') := by
  obtain ⟨rest, rfl⟩ := front
  simp only [quote, List.flatMap_append, List.cons_append, bytesOf_cons, bytesOf_append]
  omega

end Json

/-- The text of a path begins with those of the paths that lead to it. -/
theorem Path.chars_prefix_of_isUnder {p q : Path} (lead : p.isUnder q = true) :
    q.chars <+: p.chars := by
  obtain ⟨rest, whole⟩ := isUnder_iff.mp lead
  by_cases top : q.components = []
  · have slash : q.chars = [separator] := by
      unfold chars
      rw [top]
    rw [slash]
    by_cases root : p.components = []
    · refine ⟨[], ?_⟩
      unfold chars
      rw [root]
      rfl
    · obtain ⟨n, names, named⟩ := List.exists_cons_of_ne_nil root
      rw [chars_of_ne_root root, named]
      exact ⟨n.text.toList ++ names.flatMap fun n => separator :: n.text.toList, rfl⟩
  · have below : p.components ≠ [] := by
      rw [← whole]
      exact List.append_ne_nil_of_left_ne_nil top rest
    rw [chars_of_ne_root top, chars_of_ne_root below, ← whole, List.flatMap_append]
    exact ⟨_, rfl⟩

/-- The text of a path takes no more than twice the bytes of its names. -/
theorem Path.bytesOf_chars_le (p : Path) : Json.bytesOf p.chars ≤ 2 * p.place.flatten.length + 1 := by
  by_cases root : p.components = []
  · have top : p.chars = [separator] := by
      unfold chars
      rw [root]
    rw [top]
    exact Nat.le_add_left _ _
  · have names := HostPath.length_le_length_flatten fun _ mem => isPiece_of_mem_place (p := p) mem
    have slash : separator.utf8Size = 1 := rfl
    have whole : Json.bytesOf p.chars = p.place.length + p.place.flatten.length := by
      rw [chars_of_ne_root root]
      unfold place
      induction p.components with
      | nil => rfl
      | cons n names ih =>
          rw [List.flatMap_cons, List.cons_append, Json.bytesOf_cons, Json.bytesOf_append, slash, ih,
            List.map_cons, List.length_cons, List.flatten_cons, List.length_append,
            Utf8.encode_eq_flatMap, Json.bytesOf]
          omega
    omega

theorem Json.bytesOf_ofPath_le (p : Path) :
    bytesOf (ofPath p).render ≤ 12 * p.place.flatten.length + 8 := by
  have chars := p.bytesOf_chars_le
  have quoted := bytesOf_quote_le p.chars
  simp only [ofPath, Json.ofString, render, Path.text, String.toList_ofList]
  omega

namespace Request

open Json

section Path

variable {r r' : Request} {p : Path} (fields : r.fields = [("path", .ofPath p)])

include fields

theorem toJson_of_path :
    r.toJson = .ofFields [("method", .ofString r.method.tag), ("path", .ofPath p)] := by
  rw [← fields]
  rfl

/-- A request takes no more bytes than one with a longer tag for a path further down. -/
theorem length_text_of_lead {p' : Path} (fields' : r'.fields = [("path", .ofPath p')])
    (lead : p'.isUnder p = true)
    (tags : bytesOf (quote r.method.tag.toList) ≤ bytesOf (quote r'.method.tag.toList)) :
    (Utf8.encode r.text).length ≤ (Utf8.encode r'.text).length := by
  have paths := bytesOf_quote_of_isPrefix (Path.chars_prefix_of_isUnder lead)
  rw [text, text, length_encode_text, length_encode_text, toJson_of_path fields,
    toJson_of_path fields', bytesOf_ofFields, bytesOf_ofFields]
  simp only [List.map_cons, List.map_nil, List.sum_cons, List.sum_nil, Json.ofString, Json.ofPath,
    render, Path.text, String.toList_ofList]
  omega

theorem length_text_of_path (fields' : r'.fields = [("path", .ofPath p)])
    (tags : bytesOf (quote r.method.tag.toList) ≤ bytesOf (quote r'.method.tag.toList)) :
    (Utf8.encode r.text).length ≤ (Utf8.encode r'.text).length :=
  length_text_of_lead fields fields' (Path.isUnder_refl p) tags

/-- A path that the host of a node takes is not too long for a request. -/
theorem small_of_fits (root : HostPath)
    (fits : (root.below p.place).bytes.length ≤ HostPath.maxLength) :
    (Utf8.encode r.text).length ≤ Frame.maxLength := by
  have limits : 12 * HostPath.maxLength + 64 ≤ Frame.maxLength := by decide
  have tag : bytesOf (quote r.method.tag.toList) ≤ 32 := by
    cases r.method <;> decide
  have names := (HostPath.length_flatten_le root p.place).trans fits
  have value := bytesOf_ofPath_le p
  have method : bytesOf (quote "method".toList) = 8 := by decide
  have path : bytesOf (quote "path".toList) = 6 := by decide
  rw [text, length_encode_text, toJson_of_path fields, bytesOf_ofFields]
  simp only [List.map_cons, List.map_nil, List.sum_cons, List.sum_nil, Json.ofString, render, method,
    path]
  omega

end Path

/-- A node is asked to create a file in no more bytes than a client took. -/
theorem length_create_le (p : Path) :
    (Utf8.encode (create p).text).length ≤ (Utf8.encode (createFile p).text).length := by
  have tags : bytesOf (quote "create".toList) ≤ bytesOf (quote "create_file".toList) := by
    decide
  exact length_text_of_path rfl rfl tags

/-- A node is asked to delete a path in no more bytes than a client took. -/
theorem length_delete_le (p : Path) :
    (Utf8.encode (delete p).text).length ≤ (Utf8.encode (deletePath p).text).length := by
  have tags : bytesOf (quote "delete".toList) ≤ bytesOf (quote "delete_path".toList) := by
    decide
  exact length_text_of_path rfl rfl tags

/-- How long a registration is. -/
theorem length_text_register (node : Handle) (files : PathSet) :
    (Utf8.encode (register (some node.storage) (some node.command) (some files)).text).length =
      bytesOf (ofEndpoint node.storage).render + bytesOf (ofEndpoint node.command).render +
        bytesOf (ofPaths files).render + 52 := by
  have request : (register (some node.storage) (some node.command) (some files)).toJson =
      .ofFields [("method", .ofString "register"), ("storage", .ofEndpoint node.storage),
        ("command", .ofEndpoint node.command), ("files", .ofPaths files)] := rfl
  have method : bytesOf (quote "method".toList) = 8 := by decide
  have register : bytesOf (quote "register".toList) = 10 := by decide
  have storage : bytesOf (quote "storage".toList) = 9 := by decide
  have command : bytesOf (quote "command".toList) = 9 := by decide
  have files : bytesOf (quote "files".toList) = 7 := by decide
  rw [text, length_encode_text, request, bytesOf_ofFields]
  simp only [List.map_cons, List.map_nil, List.sum_cons, List.sum_nil, Json.ofString, render, method,
    register, storage, command, files]
  omega

/-- Duplicates are answered in no more bytes than the files took. -/
theorem length_duplicates_le (node : Handle) {duplicates files : PathSet}
    (part : ∀ p ∈ duplicates, p ∈ files) :
    (Utf8.encode (Reply.text (.ok (.duplicates (some duplicates))))).length ≤
      (Utf8.encode (register (some node.storage) (some node.command) (some files)).text).length := by
  have lists := bytesOf_ofPaths_le part
  have answer : Reply.toJson (.ok (.duplicates (some duplicates))) =
      .ofFields [("Ok", .ofFields [("type", .ofString "duplicates"), ("value", .ofPaths duplicates)])] :=
    rfl
  have ok : bytesOf (quote "Ok".toList) = 4 := by decide
  have type : bytesOf (quote "type".toList) = 6 := by decide
  have duplicates : bytesOf (quote "duplicates".toList) = 12 := by decide
  have value : bytesOf (quote "value".toList) = 7 := by decide
  rw [length_text_register, Reply.text, length_encode_text, answer, bytesOf_ofFields]
  simp only [List.map_cons, List.map_nil, List.sum_cons, List.sum_nil, bytesOf_ofFields,
    Json.ofString, render, ok, type, duplicates, value]
  omega

end Request

namespace Reply

open Json

/-- Yes or no can always be sent. -/
theorem small_bool (value : Bool) :
    (Utf8.encode (Reply.text (.ok (.bool value)))).length ≤ Frame.maxLength := by
  have answer : Reply.toJson (.ok (.bool value)) =
      .ofFields [("Ok", .ofFields [("type", .ofString "bool"), ("value", .bool value)])] := rfl
  have word : bytesOf (Json.bool value).render ≤ 5 := by cases value <;> decide
  have ok : bytesOf (quote "Ok".toList) = 4 := by decide
  have type : bytesOf (quote "type".toList) = 6 := by decide
  have bool : bytesOf (Json.ofString "bool").render = 6 := by decide
  have keyed : bytesOf (quote "value".toList) = 7 := by decide
  have limit : 64 ≤ Frame.maxLength := by decide
  rw [Reply.text, length_encode_text, answer, bytesOf_ofFields]
  simp only [List.map_cons, List.map_nil, List.sum_cons, List.sum_nil, bytesOf_ofFields, ok, type,
    bool, keyed]
  omega

end Reply

end Dfs
