import Dfs.Proofs.Json.Grammar
import Dfs.Proofs.Text.Digits

/-!
The tokens of a text are found in it (`Lexed.scans`): each is read up to its end, whatever
follows a string or a mark, and as long as what follows a number cannot belong to it.
-/

namespace Dfs.Json

open Token

/-! ### Strings -/

theorem hexDigit?_of_hexDigit {c : Char} {value : Nat} (digit : HexDigit c value) :
    hexDigit? c = some value := by
  obtain ⟨below, same⟩ := digit
  rcases same with rfl | rfl
  · revert value
    decide
  · revert value
    decide

/-- The escape of a unit, cut into its characters. -/
theorem UnitEscape.exists_chars {escape : List Char} {unit : Nat}
    (spelled : UnitEscape escape unit) :
    ∃ a b c d, escape = ['\\', 'u', a, b, c, d] ∧ hex4? a b c d = some unit := by
  cases spelled with
  | mk first second third fourth =>
      refine ⟨_, _, _, _, rfl, ?_⟩
      simp only [hex4?, hexDigit?_of_hexDigit first, hexDigit?_of_hexDigit second,
        hexDigit?_of_hexDigit third, hexDigit?_of_hexDigit fourth, Option.bind_eq_bind,
        Option.bind_some, Option.pure_def, Option.some.injEq]
      omega

theorem isHighSurrogate_iff {unit : Nat} :
    isHighSurrogate unit = true ↔ 0xD800 ≤ unit ∧ unit < 0xDC00 := by
  simp [isHighSurrogate]

theorem isLowSurrogate_iff {unit : Nat} :
    isLowSurrogate unit = true ↔ 0xDC00 ≤ unit ∧ unit < 0xE000 := by
  simp [isLowSurrogate]

theorem toNat_bounds (c : Char) :
    c.toNat < 0xD800 ∨ 0xDFFF < c.toNat ∧ c.toNat < 0x110000 :=
  c.valid

/-- No character is half of a pair. -/
theorem not_surrogate (c : Char) :
    isHighSurrogate c.toNat = false ∧ isLowSurrogate c.toNat = false := by
  have bounds := toNat_bounds c
  constructor
  · rw [Bool.eq_false_iff, Ne, isHighSurrogate_iff]
    omega
  · rw [Bool.eq_false_iff, Ne, isLowSurrogate_iff]
    omega

/-- A character beyond 16 bits is written as two halves. -/
theorem surrogates {c : Char} (large : 0x10000 ≤ c.toNat) :
    isHighSurrogate (0xD800 + (c.toNat - 0x10000) / 0x400) = true ∧
      isLowSurrogate (0xDC00 + (c.toNat - 0x10000) % 0x400) = true := by
  have bounds := toNat_bounds c
  rw [isHighSurrogate_iff, isLowSurrogate_iff]
  omega

theorem readString_unit {c : Char} {escape : List Char} (spelled : UnitEscape escape c.toNat)
    (high : Option Nat) (rest : List Char) :
    readString high (escape ++ rest) =
      afterHigh high ((readString none rest).map (·.cons c)) := by
  obtain ⟨i, j, k, l, rfl, value⟩ := spelled.exists_chars
  obtain ⟨notHigh, notLow⟩ := not_surrogate c
  simp [readString, value, notHigh, notLow]

theorem readString_high {escape : List Char} {unit : Nat} (spelled : UnitEscape escape unit)
    (isHigh : isHighSurrogate unit = true) (high : Option Nat) (rest : List Char) :
    readString high (escape ++ rest) = afterHigh high (readString (some unit) rest) := by
  obtain ⟨i, j, k, l, rfl, value⟩ := spelled.exists_chars
  simp [readString, value, isHigh]

theorem readString_low {escape : List Char} {unit : Nat} (spelled : UnitEscape escape unit)
    (isLow : isLowSurrogate unit = true) (high : Option Nat) (rest : List Char) :
    readString high (escape ++ rest) =
      (readString none rest).map fun r =>
        match high with
        | some first => r.cons (ofSurrogates first unit)
        | none => r.broken := by
  obtain ⟨i, j, k, l, rfl, value⟩ := spelled.exists_chars
  have notHigh : isHighSurrogate unit = false := by
    rw [isLowSurrogate_iff] at isLow
    rw [Bool.eq_false_iff, Ne, isHighSurrogate_iff]
    omega
  cases high <;> simp [readString, value, notHigh, isLow]

theorem readString_short {e c : Char} (short : (e, c) ∈ shortEscapes) (high : Option Nat)
    (rest : List Char) :
    readString high ('\\' :: e :: rest) =
      afterHigh high ((readString none rest).map (·.cons c)) := by
  simp only [shortEscapes, List.mem_cons, Prod.mk.injEq, List.not_mem_nil, or_false] at short
  rcases short with ⟨rfl, rfl⟩ | ⟨rfl, rfl⟩ | ⟨rfl, rfl⟩ | ⟨rfl, rfl⟩ | ⟨rfl, rfl⟩ | ⟨rfl, rfl⟩ |
    ⟨rfl, rfl⟩ | ⟨rfl, rfl⟩ <;> simp [readString, unescape?]

theorem readString_char {c : Char} (quote : c ≠ '"') (backslash : c ≠ '\\') (printable : ' ' ≤ c)
    (high : Option Nat) (rest : List Char) :
    readString high (c :: rest) = afterHigh high ((readString none rest).map (·.cons c)) := by
  rw [readString]
  · rw [if_neg (by simp [printable, backslash])]
  · simpa using quote
  · simp [backslash]
  · simp [backslash]

/-- A pair stands for its character. -/
theorem ofSurrogates_eq {c : Char} (large : 0x10000 ≤ c.toNat) :
    ofSurrogates (0xD800 + (c.toNat - 0x10000) / 0x400) (0xDC00 + (c.toNat - 0x10000) % 0x400) =
      c := by
  have value : 0x10000 + (0xD800 + (c.toNat - 0x10000) / 0x400 - 0xD800) * 0x400 +
      (0xDC00 + (c.toNat - 0x10000) % 0x400 - 0xDC00) = c.toNat := by
    omega
  rw [ofSurrogates, value, Char.ofNat_toNat]

/-- A first half that is not completed breaks the string, and nothing else changes. -/
theorem readString_waiting {text : List Char} {value : Option (List Char)}
    (spelled : StringText text value) (alone : ¬ BeginsLow text) (high : Nat) (rest : List Char) :
    readString (some high) (text ++ '"' :: rest) =
      (readString none (text ++ '"' :: rest)).map (·.broken) := by
  cases spelled with
  | nil => rfl
  | plain printable quote backslash _ =>
      simp [readString_char quote backslash printable, afterHigh]
  | short short _ => simp [readString_short short, afterHigh]
  | unit escaped _ => simp [readString_unit escaped, afterHigh]
  | pair large escaped _ _ =>
      simp only [List.append_assoc, readString_high escaped (surrogates large).1]
      simp [afterHigh]
  | @unpaired _ _ unit _ escaped lower upper _ _ =>
      have isHigh : isHighSurrogate unit = true := by
        rw [isHighSurrogate_iff]
        refine ⟨lower, Nat.lt_of_not_le fun isLow => ?_⟩
        exact alone ⟨_, _, escaped, isLow, upper, List.prefix_append _ _⟩
      simp only [List.append_assoc, readString_high escaped isHigh]
      simp [afterHigh]

/-- A string is read up to its closing quote. -/
theorem readString_of_stringText {text : List Char} {value : Option (List Char)}
    (spelled : StringText text value) (rest : List Char) :
    readString none (text ++ '"' :: rest) = some (value, rest) := by
  induction spelled with
  | nil => rfl
  | plain printable quote backslash _ ih =>
      rw [List.cons_append, readString_char quote backslash printable, ih]
      rfl
  | short short _ ih =>
      rw [List.cons_append, List.cons_append, readString_short short, ih]
      rfl
  | unit escaped _ ih =>
      rw [List.append_assoc, readString_unit escaped, ih]
      rfl
  | pair large first second _ ih =>
      obtain ⟨isHigh, isLow⟩ := surrogates large
      rw [List.append_assoc, List.append_assoc, readString_high first isHigh,
        readString_low second isLow, ih]
      simp [afterHigh, ofSurrogates_eq large, StringRest.cons]
  | @unpaired escape text unit value escaped lower upper alone spelled ih =>
      -- A second half breaks the string at once, a first half when it is not completed.
      rw [List.append_assoc]
      by_cases low : 0xDC00 ≤ unit
      · rw [readString_low escaped (isLowSurrogate_iff.mpr ⟨low, upper⟩), ih]
        rfl
      · rw [readString_high escaped (isHighSurrogate_iff.mpr ⟨lower, by omega⟩),
          readString_waiting spelled (alone (by omega)), ih]
        rfl

/-! ### Numbers -/

/-- Digits are read up to the first character that is none. -/
theorem readDigits_append {digits : List Nat} (below : ∀ d ∈ digits, d < 10) {rest : List Char}
    (noDigit : ∀ c ∈ rest.head?, c.isDigit = false) :
    readDigits (digits.map Nat.digitChar ++ rest) = (digits, rest) := by
  have stays : rest.takeWhile Char.isDigit = [] ∧ rest.dropWhile Char.isDigit = rest := by
    cases rest with
    | nil => simp
    | cons c rest => simp [noDigit c rfl]
  have allDigits : ∀ c ∈ digits.map Nat.digitChar, c.isDigit = true := by
    intro c mem
    obtain ⟨d, inside, rfl⟩ := List.mem_map.mp mem
    exact isDigit_digitChar (below d inside)
  have values : (digits.map Nat.digitChar).map digitValue = digits := by
    rw [List.map_map]
    have same : ∀ d ∈ digits, (digitValue ∘ Nat.digitChar) d = d := by
      intro d mem
      simp [digitValue, toNat_digitChar (below d mem)]
    rw [List.map_congr_left same, List.map_id']
  unfold readDigits
  rw [List.takeWhile_append_of_pos allDigits, List.dropWhile_append_of_pos allDigits, stays.1,
    stays.2, List.append_nil, values]

/-- The text does not go on with any of what a number may go on with. -/
theorem Ends.other {rest : List Char} (ends : Ends rest) :
    ∀ c ∈ rest.head?, c.isDigit = false ∧ c ≠ '.' ∧ c ≠ 'e' ∧ c ≠ 'E' := by
  intro c first
  have cases := ends c first
  simp only [blanks, marks, List.mem_cons, List.not_mem_nil, or_false, or_assoc] at cases
  rcases cases with rfl | rfl | rfl | rfl | rfl | rfl | rfl | rfl | rfl | rfl <;> decide

theorem readSomeDigits_append {digits : List Nat} (spelled : Digits digits) {rest : List Char}
    (noDigit : ∀ c ∈ rest.head?, c.isDigit = false) :
    readSomeDigits (digits.map Nat.digitChar ++ rest) = some (digits, rest) := by
  have read := readDigits_append spelled.below noDigit
  cases digits with
  | nil => exact absurd rfl spelled.nonempty
  | cons d digits => rw [readSomeDigits, read]

/-- The first of one or more digits. -/
theorem Digits.exists_cons {digits : List Nat} (spelled : Digits digits) :
    ∃ c more, digits.map Nat.digitChar = c :: more ∧ c.isDigit = true := by
  cases digits with
  | nil => exact absurd rfl spelled.nonempty
  | cons d digits =>
      exact ⟨_, _, rfl, isDigit_digitChar (spelled.below d List.mem_cons_self)⟩

theorem readPower_of_digit {digits : List Nat} (spelled : Digits digits) (rest : List Char) :
    readPower (digits.map Nat.digitChar ++ rest) =
      (readSomeDigits (digits.map Nat.digitChar ++ rest)).map fun (digits, rest) =>
        (some (false, digits), rest) := by
  obtain ⟨c, more, shown, digit⟩ := spelled.exists_cons
  have noSign : c ≠ '-' ∧ c ≠ '+' := by
    constructor <;> rintro rfl <;> exact absurd digit (by decide)
  rw [shown, List.cons_append, readPower]
  · simpa using noSign.1
  · simpa using noSign.2

/-- An exponent, or what follows a number without one. -/
theorem ExponentText.other {text : List Char} {exponent : Option (Bool × List Nat)}
    (spelled : ExponentText text exponent) {rest : List Char} (ends : Ends rest) :
    ∀ c ∈ (text ++ rest).head?, c.isDigit = false ∧ c ≠ '.' := by
  cases spelled with
  | absent =>
      intro c first
      have other := ends.other c first
      exact ⟨other.1, other.2.1⟩
  | present letter _ _ =>
      intro c first
      obtain rfl : _ = c := by simpa using first
      rcases letter with rfl | rfl <;> decide

theorem readExponent_append {text : List Char} {exponent : Option (Bool × List Nat)}
    (spelled : ExponentText text exponent) {rest : List Char} (ends : Ends rest) :
    readExponent (text ++ rest) = some (exponent, rest) := by
  cases spelled with
  | absent =>
      rw [List.nil_append]
      unfold readExponent
      split
      · next more => exact absurd rfl (ends.other 'e' rfl).2.2.1
      · next more => exact absurd rfl (ends.other 'E' rfl).2.2.2
      · rfl
  | @present e sign negative digits letter signed spelled =>
      have noDigit : ∀ c ∈ rest.head?, c.isDigit = false := fun c first => (ends.other c first).1
      have read := readSomeDigits_append spelled noDigit
      have power : readPower (sign ++ digits.map Nat.digitChar ++ rest) =
          some (some (negative, digits), rest) := by
        cases signed with
        | plus => simp [readPower, read]
        | minus => simp [readPower, read]
        | absent =>
            rw [List.nil_append, readPower_of_digit spelled, read]
            rfl
      rcases letter with rfl | rfl <;> simpa [readExponent] using power

theorem readFraction_append {text : List Char} {fraction : Option (List Nat)}
    (spelled : FractionText text fraction) {rest : List Char}
    (other : ∀ c ∈ rest.head?, c.isDigit = false ∧ c ≠ '.') :
    readFraction (text ++ rest) = some (fraction, rest) := by
  cases spelled with
  | absent =>
      rw [List.nil_append]
      unfold readFraction
      split
      · next more => exact absurd rfl (other '.' rfl).2
      · rfl
  | present spelled =>
      have read := readSomeDigits_append spelled fun c first => (other c first).1
      simp [readFraction, read]

/-- What follows the whole part of a number is no digit. -/
theorem FractionText.noDigit {text : List Char} {fraction : Option (List Nat)}
    (spelled : FractionText text fraction) {rest : List Char}
    (other : ∀ c ∈ rest.head?, c.isDigit = false ∧ c ≠ '.') :
    ∀ c ∈ (text ++ rest).head?, c.isDigit = false := by
  cases spelled with
  | absent => exact fun c first => (other c first).1
  | present _ =>
      intro c first
      obtain rfl : '.' = c := by simpa using first
      decide

/-- A number is read up to what ends it, and it begins with a sign or with a digit. -/
theorem readNumber_append {text : List Char} {parts : JsonNumber.Parts}
    (spelled : NumberText text parts) {rest : List Char} (ends : Ends rest) :
    readNumber (text ++ rest) = some (.ofParts parts, rest) ∧
      ∃ c more, text = c :: more ∧ (c = '-' ∨ c.isDigit = true) := by
  cases spelled with
  | @mk negative whole fractionText exponentText fraction exponent digits leading frac power =>
      have afterFraction := power.other ends
      have read := readSomeDigits_append digits (frac.noDigit afterFraction)
      have unsigned : ∀ negative, readUnsigned negative
          (whole.map Nat.digitChar ++ (fractionText ++ (exponentText ++ rest))) =
            some (.ofParts ⟨negative, whole, fraction, exponent⟩, rest) := by
        intro negative
        have wholeRead : readWhole
            (whole.map Nat.digitChar ++ (fractionText ++ (exponentText ++ rest))) =
              some (whole, fractionText ++ (exponentText ++ rest)) := by
          simp only [readWhole, read, Option.bind_eq_bind, Option.bind_some]
          rw [if_neg]
          rintro ⟨zero, long⟩
          exact long (leading zero)
        simp [readUnsigned, wholeRead, readFraction_append frac afterFraction,
          readExponent_append power ends]
      obtain ⟨c, more, shown, digit⟩ := digits.exists_cons
      cases negative with
      | true =>
          refine ⟨?_, '-', _, rfl, .inl rfl⟩
          simpa [readNumber] using unsigned true
      | false =>
          refine ⟨?_, c, more ++ (fractionText ++ exponentText), by simp [shown], .inr digit⟩
          have plain : c ≠ '-' := by
            rintro rfl
            exact absurd digit (by decide)
          have same := unsigned false
          rw [shown] at same
          simp only [Bool.false_eq_true, if_false, List.nil_append, shown, List.append_assoc,
            List.cons_append] at same ⊢
          rw [readNumber]
          · exact same
          · simpa using plain

/-! ### Texts -/

/-- The text is cut into these tokens. -/
def Scans (text : List Char) (tokens : List Token) : Prop :=
  ∀ fuel, text.length ≤ fuel → scanWith fuel text = some tokens

theorem Scans.nil : Scans [] [] := by
  intro fuel _
  unfold scanWith
  rfl

theorem Scans.scan {text : List Char} {tokens : List Token} (scans : Scans text tokens) :
    Token.scan text = some tokens :=
  scans text.length (Nat.le_refl _)

/-- One token, and those of the text after it. -/
theorem Scans.cons {front rest : List Char} {token : Token} {tokens : List Token}
    (scans : Scans rest tokens) (read : Token.read (front ++ rest) = some (token, rest))
    (visible : ∀ c ∈ front.head?, isBlank c = false) (nonempty : front ≠ []) :
    Scans (front ++ rest) (token :: tokens) := by
  intro fuel enough
  cases front with
  | nil => exact absurd rfl nonempty
  | cons c front =>
      rw [List.cons_append] at enough read ⊢
      rw [List.length_cons, List.length_append] at enough
      cases fuel with
      | zero => omega
      | succ fuel =>
          rw [scanWith, visible c rfl, read]
          simp [scans fuel (by omega)]

theorem Scans.mark {rest : List Char} {tokens : List Token} (scans : Scans rest tokens) {c : Char}
    (mark : isMark c = true) : Scans (c :: rest) (.mark c :: tokens) := by
  have cases : c = '{' ∨ c = '}' ∨ c = '[' ∨ c = ']' ∨ c = ':' ∨ c = ',' := by
    simpa [isMark, or_assoc] using mark
  refine scans.cons ?_ ?_ (show [c] ≠ [] by simp)
  · rcases cases with rfl | rfl | rfl | rfl | rfl | rfl <;> rfl
  · intro d first
    obtain rfl : c = d := by simpa using first
    rcases cases with rfl | rfl | rfl | rfl | rfl | rfl <;> rfl

theorem read_of_number {c : Char} (first : c = '-' ∨ c.isDigit = true) (rest : List Char) :
    Token.read (c :: rest) =
      (readNumber (c :: rest)).map fun (value, rest) => (.scalar (.number value), rest) := by
  have other : ∀ d : Char, d ≠ '-' → d.isDigit = false → c ≠ d := by
    rintro d minus digit rfl
    rcases first with rfl | isDigit
    · exact minus rfl
    · rw [isDigit] at digit
      cases digit
  have noMark : isMark c = false := by
    simp [isMark, other '{' (by decide) (by decide), other '}' (by decide) (by decide),
      other '[' (by decide) (by decide), other ']' (by decide) (by decide),
      other ':' (by decide) (by decide), other ',' (by decide) (by decide)]
  rw [Token.read]
  · rw [noMark]
    rfl
  · intro rest' n
    exact absurd n (other 'n' (by decide) (by decide))
  · intro rest' t
    exact absurd t (other 't' (by decide) (by decide))
  · intro rest' f
    exact absurd f (other 'f' (by decide) (by decide))
  · exact other '"' (by decide) (by decide)

theorem isBlank_of_number {c : Char} (first : c = '-' ∨ c.isDigit = true) : isBlank c = false := by
  rcases first with rfl | digit
  · decide
  · unfold isBlank
    by_contra blank
    simp only [Bool.not_eq_false, Bool.or_eq_true, beq_iff_eq, or_assoc] at blank
    rcases blank with rfl | rfl | rfl | rfl <;> exact absurd digit (by decide)

/-- The words that are tokens by themselves. -/
theorem Scans.null {rest : List Char} {tokens : List Token} (scans : Scans rest tokens) :
    Scans ("null".toList ++ rest) (.scalar .null :: tokens) :=
  scans.cons rfl (by simp [isBlank]) (show "null".toList ≠ [] by simp)

theorem Scans.bool {rest : List Char} {tokens : List Token} (scans : Scans rest tokens)
    (value : Bool) :
    Scans ((if value then "true" else "false").toList ++ rest)
      (.scalar (.bool value) :: tokens) := by
  cases value with
  | false => exact scans.cons rfl (by simp [isBlank]) (show "false".toList ≠ [] by simp)
  | true => exact scans.cons rfl (by simp [isBlank]) (show "true".toList ≠ [] by simp)

theorem Scans.blank {rest : List Char} {tokens : List Token} (scans : Scans rest tokens) {c : Char}
    (blank : isBlank c = true) : Scans (c :: rest) tokens := by
  intro fuel enough
  cases fuel with
  | zero => simp at enough
  | succ fuel =>
      rw [scanWith, if_pos blank]
      exact scans fuel (by simpa using enough)

/-- The tokens of a text are found in it. -/
theorem Lexed.scans {text : List Char} {tokens : List Token} (lexed : Lexed text tokens) :
    Scans text tokens := by
  induction lexed with
  | nil => exact .nil
  | blank blank _ ih =>
      apply ih.blank
      simpa [blanks, isBlank, or_assoc] using blank
  | mark mark _ ih =>
      apply ih.mark
      simpa [marks, isMark, or_assoc] using mark
  | null _ ih => exact ih.null
  | bool value _ ih => exact ih.bool value
  | @string inside text value tokens spelled _ ih =>
      have whole : '"' :: (inside ++ '"' :: text) = ('"' :: (inside ++ ['"'])) ++ text := by simp
      rw [whole]
      refine ih.cons ?_ (by simp [isBlank]) (by simp)
      rw [← whole, Token.read, readString_of_stringText spelled]
      rfl
  | number spelled ends _ ih =>
      obtain ⟨read, c, more, rfl, first⟩ := readNumber_append spelled ends
      refine ih.cons ?_ ?_ (by simp)
      · rw [List.cons_append, read_of_number first, ← List.cons_append, read]
        rfl
      · intro d head
        obtain rfl : c = d := by simpa using head
        exact isBlank_of_number first

end Dfs.Json
