import Dfs.Json.Printer
import Dfs.Json.Reader
import Dfs.Proofs.Json.Token

/-!
Reading a value from its texts: every text of a value is read as the value
(`parse?_of_denotes`). The text that is written for a value with nothing in it that JSON cannot
write is one of them (`Writable.denotes_text`), so it is read back (`parse?_text`).
-/

namespace Dfs.Json

/-! ### Reading -/

/-- No value begins with a closing bracket. -/
theorem head?_tokens (value : Json) : value.tokens.head? ≠ some (.mark ']') := by
  cases value <;> simp [tokens]

theorem tokens_ne_nil (value : Json) : value.tokens ≠ [] := by
  cases value <;> simp [tokens]

theorem head?_itemTokens {items : List Json} (nonempty : items ≠ []) (more : List Token) :
    (itemTokens items ++ more).head? ≠ some (.mark ']') := by
  match items with
  | [] => exact absurd rfl nonempty
  | [item] =>
      rw [itemTokens, List.append_assoc, List.head?_append_of_ne_nil _ (tokens_ne_nil item)]
      exact head?_tokens item
  | item :: next :: items =>
      rw [itemTokens, List.append_assoc, List.head?_append_of_ne_nil _ (tokens_ne_nil item)]
      exact head?_tokens item

theorem head?_memberTokens {members : List (Option String × Json)} (nonempty : members ≠ [])
    (more : List Token) : (memberTokens members ++ more).head? ≠ some (.mark '}') := by
  match members with
  | [] => exact absurd rfl nonempty
  | [(key, value)] => simp [memberTokens]
  | (key, value) :: next :: members => simp [memberTokens]

mutual

/-- A value is read from its tokens, whatever follows. -/
theorem readValue_tokens (value : Json) (fuel : Nat) (more : List Token)
    (enough : 2 * value.tokens.length ≤ fuel) :
    readValue fuel (value.tokens ++ more) = some (value, more) := by
  cases fuel with
  | zero =>
      have nonempty := List.length_pos_iff.mpr (tokens_ne_nil value)
      omega
  | succ fuel =>
      match value with
      | .null | .bool _ | .number _ | .str _ => simp [tokens, readValue]
      | .array [] => simp [tokens, itemTokens, readValue]
      | .array (item :: items) =>
          rw [tokens, List.length_cons] at enough
          have inside := readItems_tokens (item :: items) (by simp) fuel more (by omega)
          rw [tokens, List.cons_append, readValue]
          · simp [inside]
          · intro rest same
            apply head?_itemTokens (List.cons_ne_nil item items) more
            rw [same]
            rfl
      | .object [] => simp [tokens, memberTokens, readValue]
      | .object (member :: members) =>
          rw [tokens, List.length_cons] at enough
          have inside := readMembers_tokens (member :: members) (by simp) fuel more (by omega)
          rw [tokens, List.cons_append, readValue]
          · simp [inside]
          · intro rest same
            apply head?_memberTokens (List.cons_ne_nil member members) more
            rw [same]
            rfl

theorem readItems_tokens (items : List Json) (nonempty : items ≠ []) (fuel : Nat)
    (more : List Token) (enough : 2 * (itemTokens items).length ≤ fuel) :
    readItems fuel (itemTokens items ++ more) = some (items, more) := by
  match items with
  | [] => exact absurd rfl nonempty
  | [item] =>
      rw [itemTokens, List.length_append, List.length_singleton] at enough
      obtain ⟨fuel, rfl⟩ : ∃ n, fuel = n + 1 := ⟨fuel - 1, by omega⟩
      have first := readValue_tokens item fuel (.mark ']' :: more) (by omega)
      rw [itemTokens, List.append_assoc, List.singleton_append, readItems, first]
      rfl
  | item :: next :: items =>
      rw [itemTokens, List.length_append, List.length_cons] at enough
      obtain ⟨fuel, rfl⟩ : ∃ n, fuel = n + 1 := ⟨fuel - 1, by omega⟩
      have first := readValue_tokens item fuel (.mark ',' :: (itemTokens (next :: items) ++ more))
        (by omega)
      have later := readItems_tokens (next :: items) (by simp) fuel more (by omega)
      rw [itemTokens, List.append_assoc, List.cons_append, readItems, first]
      simp [later]

theorem readMembers_tokens (members : List (Option String × Json)) (nonempty : members ≠ [])
    (fuel : Nat) (more : List Token) (enough : 2 * (memberTokens members).length ≤ fuel) :
    readMembers fuel (memberTokens members ++ more) = some (members, more) := by
  match members with
  | [] => exact absurd rfl nonempty
  | [(key, value)] =>
      simp only [memberTokens, List.length_cons, List.length_append, List.length_nil] at enough
      obtain ⟨fuel, rfl⟩ : ∃ n, fuel = n + 1 := ⟨fuel - 1, by omega⟩
      have first := readValue_tokens value fuel (.mark '}' :: more) (by omega)
      simp only [memberTokens, List.cons_append, List.append_assoc, List.nil_append, readMembers,
        first]
  | (key, value) :: next :: members =>
      simp only [memberTokens, List.length_cons, List.length_append] at enough
      obtain ⟨fuel, rfl⟩ : ∃ n, fuel = n + 1 := ⟨fuel - 1, by omega⟩
      have first := readValue_tokens value fuel
        (.mark ',' :: (memberTokens (next :: members) ++ more)) (by omega)
      have later := readMembers_tokens (next :: members) (by simp) fuel more (by omega)
      simp only [memberTokens, List.cons_append, List.append_assoc, readMembers, first]
      simp [later]

end

/-- Every text of a value is read as the value. -/
theorem parse?_of_denotes {text : String} {value : Json} (denotes : Denotes text value) :
    parse? text = some value := by
  have read := readValue_tokens value (2 * value.tokens.length + 1) [] (by omega)
  rw [List.append_nil] at read
  unfold parse?
  rw [denotes.scans.scan]
  simp [ofTokens?, read]

/-! ### What is written -/

/-- Everything in the value can be written: integers of 64 bits and strings. -/
inductive Writable : Json → Prop where
  | null : Writable .null
  | bool (value : Bool) : Writable (.bool value)
  | integer {value : Int} : JsonNumber.fits value = true → Writable (.ofInt value)
  | string (text : String) : Writable (.ofString text)
  | array {items : List Json} : (∀ item ∈ items, Writable item) → Writable (.array items)
  | object {members : List (String × Json)} :
      (∀ member ∈ members, Writable member.2) → Writable (.ofFields members)

theorem stringText_escape (c : Char) {text : List Char} {value : Option (List Char)}
    (spelled : StringText text value) : StringText (escape c ++ text) (value.map (c :: ·)) := by
  unfold escape
  split
  · next quote =>
      subst quote
      exact .short (by decide) spelled
  next quote =>
  split
  · next backslash =>
      subst backslash
      exact .short (by decide) spelled
  next backslash =>
  iterate 5
    split
    · next short =>
        subst short
        exact .short (by decide) spelled
  split
  · next control =>
      have small : c.toNat < 32 := control
      have zero : HexDigit '0' 0 := ⟨by decide, .inl rfl⟩
      have escaped := UnitEscape.mk zero zero
        (show HexDigit (lowerHexDigit (c.toNat / 16)) (c.toNat / 16) from ⟨by omega, .inl rfl⟩)
        (show HexDigit (lowerHexDigit (c.toNat % 16)) (c.toNat % 16) from ⟨by omega, .inl rfl⟩)
      have value : 0 * 4096 + 0 * 256 + c.toNat / 16 * 16 + c.toNat % 16 = c.toNat := by omega
      rw [value] at escaped
      exact .unit escaped spelled
  · next printable => exact .plain (Char.not_lt.mp printable) quote backslash spelled

theorem stringText_flatMap_escape (text : List Char) :
    StringText (text.flatMap escape) (some text) := by
  induction text with
  | nil => exact .nil
  | cons c text ih => exact stringText_escape c ih

theorem Lexed.quote (text : List Char) {rest : List Char} {more : List Token}
    (lexed : Lexed rest more) :
    Lexed (quote text ++ rest) (.scalar (.str (some (String.ofList text))) :: more) := by
  have string := Lexed.string (stringText_flatMap_escape text) lexed
  simpa [Json.quote] using string

/-- A key, and the colon behind it. -/
theorem Lexed.key (key : String) {rest : List Char} {more : List Token}
    (lexed : Lexed rest more) :
    Lexed (Json.quote key.toList ++ ':' :: rest)
      (.scalar (.str (some key)) :: .mark ':' :: more) := by
  have string := (Lexed.mark (c := ':') (by decide) lexed).quote key.toList
  rwa [String.ofList_toList] at string

/-- How an integer is written: a sign if it is negative, and the digits of its size. -/
theorem exists_digits (value : Int) :
    ∃ digits, Spells 10 digits value.natAbs ∧ (toString value).toList =
      (if value < 0 then ['-'] else []) ++ digits.map Nat.digitChar := by
  obtain ⟨digits, written, spells⟩ := exists_spells (show 1 < 10 by decide) value.natAbs
  refine ⟨digits, spells, ?_⟩
  cases value with
  | ofNat n =>
      rw [← written, if_neg (by simp), List.nil_append]
      exact Nat.toList_repr
  | negSucc n =>
      rw [← written, if_pos (Int.negSucc_lt_zero n)]
      simp [toString, Int.repr]

/-- The digits of an integer of 64 bits, with its sign, stand for it. -/
theorem ofParts_digits {digits : List Nat} {value : Int} (spells : Spells 10 digits value.natAbs)
    (fits : JsonNumber.fits value = true) :
    JsonNumber.ofParts ⟨decide (value < 0), digits, none, none⟩ = .integer value := by
  have magnitude : JsonNumber.ofDigits digits = value.natAbs := spells.value
  have signed : (if decide (value < 0) = true then -(value.natAbs : Int) else value.natAbs) =
      value := by
    simp only [decide_eq_true_eq]
    split <;> omega
  have notMinusZero : ¬ (decide (value < 0) = true ∧ value = 0) := by
    rw [decide_eq_true_eq]
    omega
  simp only [JsonNumber.ofParts, magnitude, signed]
  rw [if_pos ⟨trivial, trivial, fits, notMinusZero⟩]

theorem Lexed.integer {value : Int} (fits : JsonNumber.fits value = true) {rest : List Char}
    {more : List Token} (ends : Ends rest) (lexed : Lexed rest more) :
    Lexed ((toString value).toList ++ rest) (.scalar (.ofInt value) :: more) := by
  obtain ⟨digits, spells, shown⟩ := exists_digits value
  have number : NumberText (toString value).toList ⟨decide (value < 0), digits, none, none⟩ := by
    have spelled : NumberText _ ⟨decide (value < 0), digits, none, none⟩ :=
      .mk ⟨spells.nonempty, spells.below⟩ spells.noLeadingZero .absent .absent
    rw [shown]
    simpa using spelled
  have token := Lexed.number number ends lexed
  rwa [ofParts_digits spells fits] at token

/-- The value's own text is cut into its tokens, whatever may follow it. -/
def Written (value : Json) : Prop :=
  ∀ rest more, Ends rest → Lexed rest more → Lexed (value.render ++ rest) (value.tokens ++ more)

theorem Ends.mark {c : Char} (mark : c ∈ marks) (rest : List Char) : Ends (c :: rest) := by
  intro d first
  obtain rfl : c = d := by simpa using first
  exact .inr mark

theorem lexed_items (items : List Json) (written : ∀ item ∈ items, Written item) {rest : List Char}
    {more : List Token} (lexed : Lexed rest more) :
    Lexed (commaSeparated (renderItems items) ++ ']' :: rest) (itemTokens items ++ more) := by
  match items with
  | [] => exact .mark (by decide) lexed
  | [item] =>
      have first := written item List.mem_cons_self _ _ (.mark (by decide) rest)
        (.mark (c := ']') (by decide) lexed)
      simpa [renderItems, commaSeparated, itemTokens] using first
  | item :: next :: items =>
      have later := lexed_items (next :: items)
        (fun other mem => written other (List.mem_cons_of_mem _ mem)) lexed
      have first := written item List.mem_cons_self _ _ (.mark (by decide) _)
        (.mark (c := ',') (by decide) later)
      simpa [renderItems, commaSeparated, itemTokens] using first

/-- The members of an object with the given keys. -/
def named (members : List (String × Json)) : List (Option String × Json) :=
  members.map fun (key, value) => (some key, value)

theorem lexed_members (members : List (String × Json))
    (written : ∀ member ∈ members, Written member.2) {rest : List Char} {more : List Token}
    (lexed : Lexed rest more) :
    Lexed (commaSeparated (renderMembers (named members)) ++ '}' :: rest)
      (memberTokens (named members) ++ more) := by
  match members with
  | [] => exact .mark (by decide) lexed
  | [(key, value)] =>
      have first := written (key, value) List.mem_cons_self _ _ (.mark (by decide) rest)
        (.mark (c := '}') (by decide) lexed)
      simpa [named, renderMembers, commaSeparated, memberTokens] using first.key key
  | (key, value) :: next :: members =>
      have later := lexed_members (next :: members)
        (fun other mem => written other (List.mem_cons_of_mem _ mem)) lexed
      have first := written (key, value) List.mem_cons_self _ _ (.mark (by decide) _)
        (.mark (c := ',') (by decide) later)
      simpa [named, renderMembers, commaSeparated, memberTokens] using first.key key

theorem Writable.written {value : Json} (writable : Writable value) : Written value := by
  induction writable with
  | null => exact fun _ _ _ lexed => lexed.null
  | bool value =>
      intro rest more _ lexed
      cases value with
      | false => exact lexed.bool false
      | true => exact lexed.bool true
  | integer fits => exact fun _ _ ends lexed => lexed.integer fits ends
  | string text =>
      intro rest more _ lexed
      simpa [ofString, render, tokens] using lexed.quote text.toList
  | @array items _ ih =>
      intro rest more _ lexed
      have inside := Lexed.mark (c := '[') (by decide) (lexed_items items ih lexed)
      simpa [render, tokens] using inside
  | @object members _ ih =>
      intro rest more _ lexed
      have inside := Lexed.mark (c := '{') (by decide) (lexed_members members ih lexed)
      simpa [ofFields, named, render, tokens] using inside

/-- What is written is one of the texts of the value. -/
theorem Writable.denotes_text {value : Json} (writable : Writable value) :
    Denotes value.text value := by
  have lexed := writable.written [] [] (by simp [Ends]) .nil
  rw [List.append_nil, List.append_nil] at lexed
  rwa [Denotes, text, String.toList_ofList]

/-- A value that can be written is read back from its text. -/
theorem parse?_text {value : Json} (writable : Writable value) :
    parse? value.text = some value :=
  parse?_of_denotes writable.denotes_text

end Dfs.Json
