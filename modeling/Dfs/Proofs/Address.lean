import Dfs.Address.Parser
import Dfs.Address.Printer
import Dfs.Proofs.Text.Digits
import Mathlib.Data.List.TakeWhile

/-!
Addresses are read back from their texts (`Address.parse?_text`): the flow
information, which is not written, is lost, and nothing else.
-/

namespace Dfs

/-! ### Digits -/

namespace Reader

/-- The text does not begin with a digit of the base. -/
def Stops (base : Nat) (rest : List Char) : Prop := ∀ c ∈ rest.head?, digitOfBase? base c = none

theorem Stops.nil (base : Nat) : Stops base [] := by
  simp [Stops]

theorem Stops.cons {base : Nat} {c : Char} (stop : digitOfBase? base c = none)
    (rest : List Char) : Stops base (c :: rest) := by
  simpa [Stops] using stop

theorem digitOfBase?_digitChar {base d : Nat} (small : base ≤ 16) (below : d < base) :
    digitOfBase? base (Nat.digitChar d) = some d := by
  have value : ∀ d < 16, digitOfBase? 16 (Nat.digitChar d) = some d := by
    decide
  have known := value d (by omega)
  unfold digitOfBase? at known ⊢
  rw [Option.filter_eq_some_iff] at known ⊢
  exact ⟨known.1, by simpa using below⟩

theorem splitDigits_of_stops {base : Nat} {rest : List Char} (stops : Stops base rest) :
    splitDigits base rest = ([], rest) := by
  cases rest with
  | nil => rfl
  | cons c rest =>
      unfold splitDigits
      rw [stops c rfl]

theorem splitDigits_map {base : Nat} (small : base ≤ 16) {digits : List Nat}
    (below : ∀ d ∈ digits, d < base) {rest : List Char} (stops : Stops base rest) :
    splitDigits base (digits.map Nat.digitChar ++ rest) = (digits, rest) := by
  induction digits with
  | nil => exact splitDigits_of_stops stops
  | cons d digits ih =>
      have first := digitOfBase?_digitChar small (below d List.mem_cons_self)
      have later := ih fun e mem => below e (List.mem_cons_of_mem _ mem)
      rw [List.map_cons, List.cons_append, splitDigits, first]
      simp [later]

/-- A number is read from the way it is written, up to what stops it. -/
theorem exists_splitDigits {base : Nat} (large : 1 < base) (small : base ≤ 16) (n : Nat)
    {rest : List Char} (stops : Stops base rest) :
    ∃ digits, splitDigits base (Nat.toDigits base n ++ rest) = (digits, rest) ∧
      Spells base digits n ∧ digits.length = (Nat.toDigits base n).length := by
  obtain ⟨digits, written, spells⟩ := exists_spells large n
  refine ⟨digits, ?_, spells, ?_⟩
  · rw [written, splitDigits_map small spells.below stops]
  · rw [written, List.length_map]

theorem run_char_self (c : Char) (rest : List Char) : (char c).run (c :: rest) = some ((), rest) := by
  simp [StateT.run, char]

theorem run_char_of_ne {c : Char} {text : List Char} (other : text.head? ≠ some c) :
    (char c).run text = none := by
  cases text with
  | nil => rfl
  | cons d rest =>
      have ne : c ≠ d := by
        rintro rfl
        exact other rfl
      simp [StateT.run, char, ne]

theorem run_number {n bound : Nat} (small : n < bound) {rest : List Char} (stops : Stops 10 rest) :
    (number 10 bound).run (decimal n ++ rest) = some (n, rest) := by
  obtain ⟨digits, split, spells, -⟩ := exists_splitDigits (by decide) (by decide) n stops
  have value : valueOfDigits 10 digits = n := spells.value
  have read : (Reader.digits 10).run (decimal n ++ rest) = some (digits, rest) := by
    simp [StateT.run, Reader.digits, decimal, split]
  unfold number
  rw [StateT.run_bind, read, Option.bind_eq_bind, Option.bind_some, value]
  rw [if_neg (by simp [spells.nonempty, small])]
  rfl

end Reader

/-! ### Version 4 -/

namespace Ipv4

theorem run_octet (text : List Char) :
    octet.run text =
      let digits := (Reader.splitDigits 10 text).1
      let value := Reader.valueOfDigits 10 digits
      if digits = [] ∨ digits.length > 3 ∨ digits.head? = some 0 ∧ digits.length ≠ 1 ∨ value ≥ 256 then
        none
      else some (UInt8.ofNat value, (Reader.splitDigits 10 text).2) := by
  have read : (Reader.digits 10).run text = some (Reader.splitDigits 10 text) := rfl
  unfold octet
  rw [StateT.run_bind, read, Option.bind_eq_bind, Option.bind_some]
  dsimp only
  split <;> rfl

theorem run_octet_decimal (b : UInt8) {rest : List Char} (stops : Reader.Stops 10 rest) :
    octet.run (decimal b.toNat ++ rest) = some (b, rest) := by
  obtain ⟨digits, split, spells, length⟩ :=
    Reader.exists_splitDigits (by decide) (by decide) b.toNat stops
  have value : Reader.valueOfDigits 10 digits = b.toNat := spells.value
  have bound := b.toNat_lt
  have short : digits.length ≤ 3 := by
    rw [length, Nat.length_toDigits_le_iff (by decide) (by decide)]
    omega
  rw [run_octet, decimal, split]
  dsimp only
  rw [value, if_neg]
  · simp
  · rintro (none | long | ⟨zero, long⟩ | large)
    · exact spells.nonempty none
    · omega
    · exact long (spells.noLeadingZero zero)
    · omega

theorem stops_dot (rest : List Char) : Reader.Stops 10 ('.' :: rest) :=
  .cons (by decide) rest

theorem run_reader_chars (ip : Ipv4) {rest : List Char} (stops : Reader.Stops 10 rest) :
    reader.run (ip.chars ++ rest) = some (ip, rest) := by
  have a := run_octet_decimal ip.a (stops_dot (decimal ip.b.toNat ++
    '.' :: (decimal ip.c.toNat ++ '.' :: (decimal ip.d.toNat ++ rest))))
  have b := run_octet_decimal ip.b (stops_dot (decimal ip.c.toNat ++
    '.' :: (decimal ip.d.toNat ++ rest)))
  have c := run_octet_decimal ip.c (stops_dot (decimal ip.d.toNat ++ rest))
  have d := run_octet_decimal ip.d stops
  simp only [reader, chars, List.append_assoc, List.cons_append, StateT.run_bind, a, b, c, d,
    Reader.run_char_self, Option.bind_eq_bind, Option.bind_some, StateT.run_pure, Option.pure_def]

/-- Without a point after the first digits there is no address of version 4. -/
theorem run_reader_eq_none {text : List Char}
    (noPoint : (Reader.splitDigits 10 text).2.head? ≠ some '.') : reader.run text = none := by
  unfold reader
  rw [StateT.run_bind, run_octet]
  dsimp only
  split
  · rfl
  · rw [Option.bind_eq_bind, Option.bind_some, StateT.run_bind, Reader.run_char_of_ne noPoint]
    rfl

theorem halves_ofHalves (high low : UInt16) : (ofHalves high low).halves = [high, low] := by
  have joined : ∀ g : UInt16, (g / 256).toUInt8.toUInt16 * 256 + g.toUInt8.toUInt16 = g := by
    intro g
    apply UInt16.toNat_inj.mp
    have bound := g.toNat_lt
    simp
    omega
  simp only [ofHalves, halves, joined]

end Ipv4

/-! ### Version 6 -/

namespace Ipv6

theorem run_group (text : List Char) :
    group.run text =
      let digits := (Reader.splitDigits 16 text).1
      if digits = [] ∨ digits.length > 4 then none
      else some (UInt16.ofNat (Reader.valueOfDigits 16 digits), (Reader.splitDigits 16 text).2) := by
  have read : (Reader.digits 16).run text = some (Reader.splitDigits 16 text) := rfl
  unfold group
  rw [StateT.run_bind, read, Option.bind_eq_bind, Option.bind_some]
  dsimp only
  split <;> rfl

theorem run_group_hexadecimal (g : UInt16) {rest : List Char} (stops : Reader.Stops 16 rest) :
    group.run (hexadecimal g.toNat ++ rest) = some (g, rest) := by
  obtain ⟨digits, split, spells, length⟩ :=
    Reader.exists_splitDigits (by decide) (by decide) g.toNat stops
  have value : Reader.valueOfDigits 16 digits = g.toNat := spells.value
  have bound := g.toNat_lt
  have short : digits.length ≤ 4 := by
    rw [length, Nat.length_toDigits_le_iff (by decide) (by decide)]
    omega
  rw [run_group, hexadecimal, split]
  dsimp only
  rw [value, if_neg]
  · simp
  · rintro (none | long)
    · exact spells.nonempty none
    · omega

/-- What may follow a group. -/
def Follows (rest : List Char) : Prop := ∀ c ∈ rest.head?, c = ':' ∨ c = '%' ∨ c = ']'

theorem Follows.cons {c : Char} (follows : c = ':' ∨ c = '%' ∨ c = ']') (rest : List Char) :
    Follows (c :: rest) := by
  simpa [Follows] using follows

theorem Follows.stops {rest : List Char} (follows : Follows rest) {base : Nat} :
    Reader.Stops base rest := by
  intro c first
  have noDigit : ∀ c : Char, c = ':' ∨ c = '%' ∨ c = ']' → Reader.digitOfBase? base c = none := by
    rintro c (rfl | rfl | rfl) <;> rfl
  exact noDigit c (follows c first)

theorem Follows.head?_ne {rest : List Char} (follows : Follows rest) : rest.head? ≠ some '.' := by
  intro point
  exact absurd (follows '.' point) (by decide)

/-- What may follow a run of groups: not one more group. -/
structure Ends (rest : List Char) : Prop where
  follows : Follows rest
  noGroup : ∀ more, rest = ':' :: more → more.head? = some ':'

theorem Ends.cons {c : Char} (ends : c = '%' ∨ c = ']') (rest : List Char) : Ends (c :: rest) where
  follows := .cons (.inr ends) rest
  noGroup := by
    rintro more same
    rw [List.cons.injEq] at same
    rcases ends with rfl | rfl
    · exact absurd same.1 (by decide)
    · exact absurd same.1 (by decide)

theorem Ends.zeros (rest : List Char) : Ends (':' :: ':' :: rest) where
  follows := .cons (.inl rfl) _
  noGroup := by
    intro more same
    rw [List.cons.injEq] at same
    rw [← same.2]
    rfl

/-- Digits of a group, cut off at the first that is not decimal, do not end before a
point. -/
theorem head?_splitDigits_ne {digits : List Nat} (below : ∀ d ∈ digits, d < 16) {rest : List Char}
    (follows : Follows rest) :
    (Reader.splitDigits 10 (digits.map Nat.digitChar ++ rest)).2.head? ≠ some '.' := by
  induction digits with
  | nil =>
      rw [List.map_nil, List.nil_append, Reader.splitDigits_of_stops follows.stops]
      exact follows.head?_ne
  | cons d digits ih =>
      have later := ih fun e mem => below e (List.mem_cons_of_mem _ mem)
      rw [List.map_cons, List.cons_append, Reader.splitDigits]
      split
      · simp
      · exact later

/-- A group is no address of version 4. -/
theorem run_readerV4_hexadecimal (g : UInt16) {rest : List Char} (follows : Follows rest) :
    Ipv4.reader.run (hexadecimal g.toNat ++ rest) = none := by
  obtain ⟨digits, written, spells⟩ := exists_spells (show 1 < 16 by decide) g.toNat
  apply Ipv4.run_reader_eq_none
  rw [hexadecimal, written]
  exact head?_splitDigits_ne spells.below follows

/-! #### Runs of groups -/

theorem run_readerV4_of_stops {text : List Char} (stops : Reader.Stops 10 text) :
    Ipv4.reader.run text = none := by
  unfold Ipv4.reader
  rw [StateT.run_bind, Ipv4.run_octet, Reader.splitDigits_of_stops stops]
  rfl

theorem run_group_of_stops {text : List Char} (stops : Reader.Stops 16 text) :
    group.run text = none := by
  rw [run_group, Reader.splitDigits_of_stops stops]
  rfl

theorem run_afterColon_cons {α : Type} (reader : Reader α) (rest : List Char) :
    (afterColon false reader).run (':' :: rest) = reader.run rest := by
  unfold afterColon
  rw [if_neg (by decide), StateT.run_bind, Reader.run_char_self]
  rfl

theorem run_afterColon_of_ne {α : Type} (reader : Reader α) {text : List Char}
    (other : text.head? ≠ some ':') : (afterColon false reader).run text = none := by
  unfold afterColon
  rw [if_neg (by decide), StateT.run_bind, Reader.run_char_of_ne other]
  rfl

theorem splitGroups_eq_nil {isFirst : Bool} {text : List Char}
    (noV4 : (afterColon isFirst Ipv4.reader).run text = none)
    (noGroup : (afterColon isFirst group).run text = none) (limit : Nat) :
    splitGroups isFirst limit text = ⟨[], false, text⟩ := by
  cases limit with
  | zero => rfl
  | succ limit =>
      unfold splitGroups
      rw [noV4, ite_self, noGroup]

/-- No group comes after the end of a run. -/
theorem splitGroups_of_ends {rest : List Char} (ends : Ends rest) (isFirst : Bool) (limit : Nat) :
    splitGroups isFirst limit rest = ⟨[], false, rest⟩ := by
  cases isFirst with
  | true =>
      refine splitGroups_eq_nil ?_ ?_ limit
      · exact run_readerV4_of_stops ends.follows.stops
      · exact run_group_of_stops ends.follows.stops
  | false =>
      by_cases colon : rest.head? = some ':'
      · obtain ⟨more, rfl⟩ : ∃ more, rest = ':' :: more := by
          cases rest with
          | nil => cases colon
          | cons c more => exact ⟨more, by simpa using colon⟩
        have next : ∀ base, Reader.Stops base more := by
          intro base c first
          rw [ends.noGroup more rfl] at first
          cases first
          rfl
        refine splitGroups_eq_nil ?_ ?_ limit
        · rw [run_afterColon_cons, run_readerV4_of_stops (next 10)]
        · rw [run_afterColon_cons, run_group_of_stops (next 16)]
      · exact splitGroups_eq_nil (run_afterColon_of_ne _ colon) (run_afterColon_of_ne _ colon) limit

/-- The colon that comes before every group but the first. -/
def colonBefore (isFirst : Bool) : List Char := if isFirst then [] else [':']

theorem run_afterColon_colonBefore {α : Type} (reader : Reader α) (isFirst : Bool)
    (text : List Char) :
    (afterColon isFirst reader).run (colonBefore isFirst ++ text) = reader.run text := by
  cases isFirst with
  | true => rfl
  | false => exact run_afterColon_cons reader text

theorem splitGroups_hexadecimal (isFirst : Bool) (g : UInt16) (limit : Nat) {rest : List Char}
    (follows : Follows rest) :
    splitGroups isFirst (limit + 1) (colonBefore isFirst ++ (hexadecimal g.toNat ++ rest)) =
      ⟨g :: (splitGroups false limit rest).groups, (splitGroups false limit rest).dotted,
        (splitGroups false limit rest).rest⟩ := by
  rw [splitGroups, run_afterColon_colonBefore, run_readerV4_hexadecimal g follows, ite_self,
    run_afterColon_colonBefore, run_group_hexadecimal g follows.stops]

/-- Groups, each after a colon. -/
def laterGroups (groups : List UInt16) : List Char :=
  groups.flatMap fun g => ':' :: hexadecimal g.toNat

theorem joinGroups_cons (g : UInt16) (groups : List UInt16) :
    joinGroups (g :: groups) = hexadecimal g.toNat ++ laterGroups groups := by
  induction groups generalizing g with
  | nil => simp [joinGroups, laterGroups]
  | cons next groups ih =>
      rw [joinGroups, ih next]
      · simp [laterGroups]
      · simp

theorem follows_laterGroups (groups : List UInt16) {rest : List Char} (follows : Follows rest) :
    Follows (laterGroups groups ++ rest) := by
  cases groups with
  | nil => exact follows
  | cons g groups => exact .cons (.inl rfl) _

theorem splitGroups_laterGroups {groups : List UInt16} {limit : Nat} (room : groups.length ≤ limit)
    {rest : List Char} (ends : Ends rest) :
    splitGroups false limit (laterGroups groups ++ rest) = ⟨groups, false, rest⟩ := by
  induction groups generalizing limit with
  | nil => exact splitGroups_of_ends ends false limit
  | cons g groups ih =>
      cases limit with
      | zero => simp at room
      | succ limit =>
          have later := ih (Nat.le_of_succ_le_succ room)
          have here := splitGroups_hexadecimal false g limit
            (follows_laterGroups groups ends.follows)
          rw [later] at here
          simpa [colonBefore, laterGroups] using here

/-- Groups are read from the way they are written. -/
theorem splitGroups_joinGroups {groups : List UInt16} {limit : Nat} (room : groups.length ≤ limit)
    {rest : List Char} (ends : Ends rest) :
    splitGroups true limit (joinGroups groups ++ rest) = ⟨groups, false, rest⟩ := by
  cases groups with
  | nil => exact splitGroups_of_ends ends true limit
  | cons g groups =>
      cases limit with
      | zero => simp at room
      | succ limit =>
          have later := splitGroups_laterGroups (Nat.le_of_succ_le_succ room) ends
          have here := splitGroups_hexadecimal true g limit
            (follows_laterGroups groups ends.follows)
          rw [later] at here
          simpa [colonBefore, joinGroups_cons] using here

/-! #### Zeros that are left out -/

/-- The longest run of zeros is where it is said to be. -/
theorem longestZeros_spec (groups : List UInt16) (start : Nat)
    (found : 0 < (longestZeros start groups).2) :
    ∃ front back, groups = front ++ List.replicate (longestZeros start groups).2 0 ++ back ∧
      (longestZeros start groups).1 = start + front.length := by
  induction groups generalizing start with
  | nil => simp [longestZeros] at found
  | cons g rest ih =>
      simp only [longestZeros] at found ⊢
      split
      · next here =>
          have zeros : (g :: rest).takeWhile (· == 0) =
              List.replicate (leadingZeros (g :: rest)) 0 := by
            rw [List.eq_replicate_iff]
            refine ⟨rfl, fun z mem => ?_⟩
            simpa using List.mem_takeWhile_imp mem
          refine ⟨[], (g :: rest).dropWhile (· == 0), ?_, rfl⟩
          rw [List.nil_append, ← zeros, List.takeWhile_append_dropWhile]
      · next later =>
          rw [if_neg later] at found
          obtain ⟨front, back, whole, first⟩ := ih (start + 1) found
          refine ⟨g :: front, back, by rw [List.cons_append, List.cons_append, ← whole], ?_⟩
          rw [first, List.length_cons]
          omega

theorem ofGroups?_groups (ip : Ipv6) : ofGroups? ip.groups = some ip := rfl

theorem run_groupsUpTo (limit : Nat) (text : List Char) :
    (groupsUpTo limit).run text =
      some (splitGroups true limit text, (splitGroups true limit text).rest) := rfl

/-- Eight groups one after another. -/
theorem run_reader_full (ip : Ipv6) {rest : List Char} (ends : Ends rest) :
    reader.run (joinGroups ip.groups ++ rest) = some (ip, rest) := by
  have eight : ip.groups.length = 8 := rfl
  have front := splitGroups_joinGroups (Nat.le_of_eq eight) ends
  unfold reader
  rw [StateT.run_bind, run_groupsUpTo, front, Option.bind_eq_bind, Option.bind_some]
  rw [if_pos eight, ofGroups?_groups]
  rfl

/-- The groups before and after zeros that are left out. -/
theorem run_reader_of_zeros {front back : List UInt16} {dotted : Bool} {text tail rest : List Char}
    (before : splitGroups true 8 text = ⟨front, false, ':' :: ':' :: tail⟩)
    (few : front.length ≠ 8)
    (after : splitGroups true (7 - front.length) tail = ⟨back, dotted, rest⟩) :
    reader.run text =
      (ofGroups? (front ++ List.replicate (8 - front.length - back.length) 0 ++ back)).map
        fun ip => (ip, rest) := by
  unfold reader
  rw [StateT.run_bind, run_groupsUpTo, before, Option.bind_eq_bind, Option.bind_some]
  dsimp only
  rw [if_neg few, if_neg Bool.false_ne_true, StateT.run_bind, Reader.run_char_self,
    Option.bind_eq_bind, Option.bind_some, StateT.run_bind, Reader.run_char_self,
    Option.bind_eq_bind, Option.bind_some, StateT.run_bind, run_groupsUpTo, after,
    Option.bind_eq_bind, Option.bind_some]
  cases ofGroups? (front ++ List.replicate (8 - front.length - back.length) 0 ++ back) <;> rfl

theorem run_reader_compressed {ip : Ipv6} {front back : List UInt16} {zeros : Nat}
    (whole : ip.groups = front ++ List.replicate zeros 0 ++ back) (several : 1 < zeros)
    {rest : List Char} (ends : Ends rest) :
    reader.run (joinGroups front ++ ':' :: ':' :: (joinGroups back ++ rest)) = some (ip, rest) := by
  have eight : front.length + zeros + back.length = 8 := by
    have total : ip.groups.length = 8 := rfl
    rwa [whole, List.length_append, List.length_append, List.length_replicate] at total
  have before := splitGroups_joinGroups (show front.length ≤ 8 by omega)
    (.zeros (joinGroups back ++ rest))
  have after := splitGroups_joinGroups (show back.length ≤ 7 - front.length by omega) ends
  have between : 8 - front.length - back.length = zeros := by omega
  rw [run_reader_of_zeros before (by omega) after, between, ← whole, ofGroups?_groups]
  rfl

/-- An address that carries one of version 4. -/
theorem run_reader_mapped {ip : Ipv6} (mapped : ip.groups.take 6 = [0, 0, 0, 0, 0, 0xFFFF])
    {rest : List Char} (ends : Ends rest) :
    reader.run ("::ffff:".toList ++ ((Ipv4.ofHalves ip.g6 ip.g7).chars ++ rest)) =
      some (ip, rest) := by
  have text : "::ffff:".toList ++ ((Ipv4.ofHalves ip.g6 ip.g7).chars ++ rest) =
      ':' :: ':' :: (hexadecimal (0xFFFF : UInt16).toNat ++
        ':' :: ((Ipv4.ofHalves ip.g6 ip.g7).chars ++ rest)) := rfl
  have before := splitGroups_of_ends (.zeros (hexadecimal (0xFFFF : UInt16).toNat ++
    ':' :: ((Ipv4.ofHalves ip.g6 ip.g7).chars ++ rest))) true 8
  have dotted : splitGroups false 6 (':' :: ((Ipv4.ofHalves ip.g6 ip.g7).chars ++ rest)) =
      ⟨[ip.g6, ip.g7], true, rest⟩ := by
    rw [splitGroups, if_neg (by decide), run_afterColon_cons,
      Ipv4.run_reader_chars _ ends.follows.stops]
    simp only [Ipv4.halves_ofHalves]
  have after := splitGroups_hexadecimal true 0xFFFF 6
    (.cons (.inl rfl) ((Ipv4.ofHalves ip.g6 ip.g7).chars ++ rest))
  rw [dotted, colonBefore, if_pos rfl, List.nil_append] at after
  have whole : [] ++ List.replicate (8 - 0 - 3) 0 ++ [0xFFFF, ip.g6, ip.g7] = ip.groups := by
    rw [← List.take_append_drop 6 ip.groups, mapped]
    rfl
  rw [text, run_reader_of_zeros before (by decide) after]
  simp only [List.length_nil, List.length_cons]
  rw [whole, ofGroups?_groups]
  rfl

/-- An address of version 6 is read from the way it is written. -/
theorem run_reader_chars (ip : Ipv6) {rest : List Char} (ends : Ends rest) :
    reader.run (ip.chars ++ rest) = some (ip, rest) := by
  unfold chars
  split
  · next mapped =>
      rw [List.append_assoc]
      exact run_reader_mapped mapped ends
  dsimp only
  split
  · next several =>
      have found := longestZeros_spec ip.groups 0 (by omega)
      generalize longestZeros 0 ip.groups = zeros at several found ⊢
      obtain ⟨front, back, whole, first⟩ := found
      have last : zeros.1 + zeros.2 = (front ++ List.replicate zeros.2 (0 : UInt16)).length := by
        simp [first]
      have before : ip.groups.take zeros.1 = front := by
        rw [first, Nat.zero_add, whole, List.append_assoc, List.take_left]
      have after : ip.groups.drop (zeros.1 + zeros.2) = back := by
        rw [last, whole, List.drop_left]
      rw [before, after, List.append_assoc]
      exact run_reader_compressed whole several ends
  · exact run_reader_full ip ends

end Ipv6

/-! ### Addresses of endpoints -/

namespace Address

theorem run_portReader (port : UInt16) :
    portReader.run (':' :: decimal port.toNat) = some (port, []) := by
  have number := Reader.run_number port.toNat_lt (Reader.Stops.nil 10)
  rw [List.append_nil] at number
  unfold portReader
  rw [StateT.run_bind, Reader.run_char_self, Option.bind_eq_bind, Option.bind_some,
    StateT.run_bind, number, Option.bind_eq_bind, Option.bind_some]
  simp

theorem run_scopeReader (scope : UInt32) (rest : List Char) :
    scopeReader.run (scopeChars scope ++ ']' :: rest) = some (scope, ']' :: rest) := by
  have percent (text : List Char) : scopeReader.run text = (percentNumber.run text).elim
      (some (0, text)) fun read => some (UInt32.ofNat read.1, read.2) := by
    change scopeReader text = _
    unfold scopeReader
    cases percentNumber.run text <;> rfl
  unfold scopeChars
  split
  · next zero =>
      have none : percentNumber.run (']' :: rest) = none := by
        unfold percentNumber
        rw [StateT.run_bind, Reader.run_char_of_ne (by simp)]
        rfl
      rw [List.nil_append, percent, none, zero]
      rfl
  · next some =>
      have number := Reader.run_number scope.toNat_lt
        (Reader.Stops.cons (c := ']') rfl rest)
      have read : percentNumber.run ('%' :: (decimal scope.toNat ++ ']' :: rest)) =
          Option.some (scope.toNat, ']' :: rest) := by
        unfold percentNumber
        rw [StateT.run_bind, Reader.run_char_self, Option.bind_eq_bind, Option.bind_some]
        exact number
      rw [List.cons_append, percent, read]
      simp

/-- The address without its flow information. -/
def withoutFlow : Address → Address
  | .v4 ip port => .v4 ip port
  | .v6 ip port _ scope => .v6 ip port 0 scope

/-- The flow information of the address; only version 6 has any. -/
def flow : Address → UInt32
  | .v4 _ _ => 0
  | .v6 _ _ flow _ => flow

theorem withoutFlow_eq_self_iff {a : Address} : a.withoutFlow = a ↔ a.flow = 0 := by
  cases a with
  | v4 ip port => simp [withoutFlow, flow]
  | v6 ip port flow scope => simp [withoutFlow, Address.flow, eq_comm]

theorem run_readerV4 (ip : Ipv4) (port : UInt16) :
    readerV4.run (Address.v4 ip port).chars = some (.v4 ip port, []) := by
  have first := Ipv4.run_reader_chars ip
    (Reader.Stops.cons (c := ':') rfl (decimal port.toNat))
  unfold readerV4 chars
  rw [StateT.run_bind, first, Option.bind_eq_bind, Option.bind_some, StateT.run_bind,
    run_portReader]
  rfl

theorem ends_scope (scope : UInt32) (rest : List Char) :
    Ipv6.Ends (scopeChars scope ++ ']' :: rest) := by
  unfold scopeChars
  split
  · exact .cons (.inr rfl) rest
  · exact .cons (.inl rfl) _

theorem run_readerV6 (ip : Ipv6) (port : UInt16) (flow scope : UInt32) :
    readerV6.run (Address.v6 ip port flow scope).chars = some (.v6 ip port 0 scope, []) := by
  have first := Ipv6.run_reader_chars ip (ends_scope scope (':' :: decimal port.toNat))
  unfold readerV6 chars
  simp only [List.cons_append, List.append_assoc]
  rw [StateT.run_bind, Reader.run_char_self, Option.bind_eq_bind, Option.bind_some,
    StateT.run_bind, first, Option.bind_eq_bind, Option.bind_some, StateT.run_bind,
    run_scopeReader, Option.bind_eq_bind, Option.bind_some, StateT.run_bind,
    Reader.run_char_self, Option.bind_eq_bind, Option.bind_some, StateT.run_bind, run_portReader]
  rfl

theorem run_reader_chars (a : Address) : reader.run a.chars = some (a.withoutFlow, []) := by
  have either (text : List Char) : reader.run text = (readerV4.run text).or (readerV6.run text) :=
    rfl
  cases a with
  | v4 ip port =>
      rw [either, run_readerV4]
      rfl
  | v6 ip port flow scope =>
      -- The opening bracket is no digit.
      have noV4 : readerV4.run (Address.v6 ip port flow scope).chars = none := by
        have opening : (Address.v6 ip port flow scope).chars =
            '[' :: (ip.chars ++ scopeChars scope ++ ']' :: ':' :: decimal port.toNat) := by
          simp [chars]
        unfold readerV4
        rw [StateT.run_bind, opening,
          Ipv6.run_readerV4_of_stops (Reader.Stops.cons (by decide) _)]
        rfl
      rw [either, noV4, run_readerV6]
      rfl

/-- An address is read back from its text, except for the flow information. -/
theorem parse?_text (a : Address) : parse? a.text = some a.withoutFlow := by
  have read := run_reader_chars a
  unfold parse? Reader.whole text
  rw [String.toList_ofList, read]

end Address

end Dfs
