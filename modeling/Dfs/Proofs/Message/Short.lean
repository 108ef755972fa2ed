import Dfs.Proofs.Message.Length

/-!
Messages whose length does not depend on what they are about. A number of 64 bits and an
address have a bounded text, so the replies that hold one of them can always be sent
(`Reply.small_size`, `Reply.small_storage`), and so can the request to read a file whose
path a host takes (`Request.small_read`). What is read back of what was written takes no
more bytes than it took to write it (`Reply.length_bytes_le`).
-/

namespace Dfs

/-! ### Numbers and addresses -/

theorem length_decimal_le {n digits : Nat} (some : 0 < digits) (small : n < 10 ^ digits) :
    (decimal n).length ≤ digits :=
  (Nat.length_toDigits_le_iff (by omega) some).mpr small

theorem length_hexadecimal_le {n digits : Nat} (some : 0 < digits) (small : n < 16 ^ digits) :
    (hexadecimal n).length ≤ digits :=
  (Nat.length_toDigits_le_iff (by omega) some).mpr small

theorem Ipv4.length_chars_le (ip : Ipv4) : ip.chars.length ≤ 15 := by
  have octet : ∀ b : UInt8, (decimal b.toNat).length ≤ 3 := fun b =>
    length_decimal_le (by omega) (b.toNat_lt.trans (by omega))
  have a := octet ip.a
  have b := octet ip.b
  have c := octet ip.c
  have d := octet ip.d
  simp only [chars, List.length_append, List.length_cons]
  omega

namespace Ipv6

theorem length_joinGroups_le (groups : List UInt16) :
    (joinGroups groups).length ≤ 5 * groups.length := by
  have group : ∀ g : UInt16, (hexadecimal g.toNat).length ≤ 4 := fun g =>
    length_hexadecimal_le (by omega) (g.toNat_lt.trans_le (by omega))
  induction groups with
  | nil => exact Nat.zero_le _
  | cons g groups ih =>
      have first := group g
      cases groups with
      | nil =>
          simp only [joinGroups, List.length_cons, List.length_nil]
          omega
      | cons _ _ =>
          simp only [joinGroups, List.length_append, List.length_cons] at ih ⊢
          omega

theorem length_chars_le (ip : Ipv6) : ip.chars.length ≤ 82 := by
  have groups : ip.groups.length = 8 := rfl
  have embedded := (Ipv4.ofHalves ip.g6 ip.g7).length_chars_le
  have mapped : "::ffff:".toList.length = 7 := rfl
  unfold chars
  dsimp only
  split
  · rw [List.length_append]
    omega
  split
  · have front := length_joinGroups_le (ip.groups.take (longestZeros 0 ip.groups).1)
    have back := length_joinGroups_le
      (ip.groups.drop ((longestZeros 0 ip.groups).1 + (longestZeros 0 ip.groups).2))
    rw [List.length_take] at front
    rw [List.length_drop] at back
    simp only [List.length_append, List.length_cons]
    omega
  · have whole := length_joinGroups_le ip.groups
    omega

end Ipv6

theorem Address.length_chars_le (a : Address) : a.chars.length ≤ 128 := by
  have port : ∀ p : UInt16, (decimal p.toNat).length ≤ 5 := fun p =>
    length_decimal_le (by omega) (p.toNat_lt.trans (by omega))
  cases a with
  | v4 ip p =>
      have host := ip.length_chars_le
      have last := port p
      simp only [chars, List.length_append, List.length_cons]
      omega
  | v6 ip p flow scope =>
      have host := ip.length_chars_le
      have last := port p
      have inner : (scopeChars scope).length ≤ 11 := by
        have digits : (decimal scope.toNat).length ≤ 10 :=
          length_decimal_le (by omega) (scope.toNat_lt.trans (by omega))
        unfold scopeChars
        split
        · exact Nat.zero_le _
        · rw [List.length_cons]
          omega
      simp only [chars, List.length_append, List.length_cons]
      omega

namespace Json

theorem bytesOf_le (text : List Char) : bytesOf text ≤ 4 * text.length := by
  induction text with
  | nil => exact Nat.zero_le _
  | cons c text ih =>
      have first := c.utf8Size_le_four
      rw [bytesOf_cons, List.length_cons]
      omega

theorem bytesOf_ofInt_le {n : Nat} (small : n < UInt64.size) :
    bytesOf (Json.ofInt n).render ≤ 80 := by
  have written : (Json.ofInt n).render = decimal n := by
    simp only [Json.ofInt, render]
    exact Nat.toList_repr
  have digits : (decimal n).length ≤ 20 :=
    length_decimal_le (by omega) (small.trans (by simp only [UInt64.size]; omega))
  have bytes := bytesOf_le (decimal n)
  rw [written]
  omega

end Json

/-! ### Replies -/

namespace Reply

open Json

/-- How long a reply is that holds some content. -/
theorem length_text_of_content {r : Response} {j : Json} (content : r.content = some j) :
    (Utf8.encode (Reply.text (.ok r))).length =
      bytesOf (quote r.kind.tag.toList) + bytesOf j.render + 25 := by
  have object : Reply.toJson (.ok r) =
      .ofFields [("Ok", .ofFields [("type", .ofString r.kind.tag), ("value", j)])] := by
    simp only [Reply.toJson, Response.toJson, content]
  have ok : bytesOf (quote "Ok".toList) = 4 := by decide
  have type : bytesOf (quote "type".toList) = 6 := by decide
  have value : bytesOf (quote "value".toList) = 7 := by decide
  rw [Reply.text, length_encode_text, object, bytesOf_ofFields]
  simp only [List.map_cons, List.map_nil, List.sum_cons, List.sum_nil, bytesOf_ofFields,
    Json.ofString, render, ok, type, value]
  omega

theorem small_unit : (Utf8.encode (Reply.text (.ok .unit))).length ≤ Frame.maxLength := by
  have short : (Utf8.encode (Reply.text (.ok .unit))).length ≤ 64 := by decide +kernel
  exact short.trans (by simp [Frame.maxLength])

/-- A length can always be sent. -/
theorem small_size (n : UInt64) :
    (Utf8.encode (Reply.text (.ok (.size n)))).length ≤ Frame.maxLength := by
  have number := bytesOf_ofInt_le n.toNat_lt
  have kind : bytesOf (quote "size".toList) = 6 := by decide
  have whole : (Utf8.encode (Reply.text (.ok (.size n)))).length =
      bytesOf (quote "size".toList) + bytesOf (Json.ofInt n.toNat).render + 25 :=
    length_text_of_content rfl
  simp only [Frame.maxLength]
  omega

/-- An address can always be sent. -/
theorem small_storage (a : Address) :
    (Utf8.encode (Reply.text (.ok (.storage a)))).length ≤ Frame.maxLength := by
  have endpoint : bytesOf (Json.ofEndpoint a).render ≤ 4096 := by
    have addr : bytesOf (quote "addr".toList) = 6 := by decide
    have shown := a.length_chars_le
    have bytes := bytesOf_le a.chars
    have quoted := bytesOf_quote_le a.chars
    have text : (Json.ofString a.text).render = quote a.chars := by
      simp only [Json.ofString, render, Address.text, String.toList_ofList]
    rw [Json.ofEndpoint, bytesOf_ofFields]
    simp only [List.map_cons, List.map_nil, List.sum_cons, List.sum_nil, addr, text]
    omega
  have kind : bytesOf (quote "storage".toList) = 9 := by decide
  have whole : (Utf8.encode (Reply.text (.ok (.storage a)))).length =
      bytesOf (quote "storage".toList) + bytesOf (Json.ofEndpoint a).render + 25 :=
    length_text_of_content rfl
  simp only [Frame.maxLength]
  omega

/-- Bytes are read in a reply that is no longer than the request that wrote them. -/
theorem length_bytes_le (p : Path) (offset : Int64) (data : List UInt8) :
    (Utf8.encode (Reply.text (.ok (.bytes data)))).length ≤
      (Utf8.encode (Request.write p offset data).text).length := by
  have reply : (Utf8.encode (Reply.text (.ok (.bytes data)))).length =
      bytesOf (quote "bytes".toList) + bytesOf (Json.ofBytes data).render + 25 :=
    length_text_of_content rfl
  have object : (Request.write p offset data).toJson =
      .ofFields [("method", .ofString "write"), ("path", .ofPath p),
        ("offset", .ofInt offset.toInt), ("data", .ofBytes data)] := rfl
  have bytes : bytesOf (quote "bytes".toList) = 7 := by decide
  have method : bytesOf (quote "method".toList) = 8 := by decide
  have write : bytesOf (quote "write".toList) = 7 := by decide
  have path : bytesOf (quote "path".toList) = 6 := by decide
  have first : bytesOf (quote "offset".toList) = 8 := by decide
  have content : bytesOf (quote "data".toList) = 6 := by decide
  rw [reply, bytes, Request.text, length_encode_text, object, bytesOf_ofFields]
  simp only [List.map_cons, List.map_nil, List.sum_cons, List.sum_nil, Json.ofString, render,
    method, write, path, first, content]
  omega

end Reply

/-! ### Requests -/

namespace Request

open Json

/-- A read can always be asked for, if a host takes the path. -/
theorem small_read (root : HostPath) {p : Path} {offset length : Int64}
    (fits : (root.below p.place).bytes.length ≤ HostPath.maxLength)
    (first : 0 ≤ offset.toInt) (count : 0 ≤ length.toInt) :
    (Utf8.encode (Request.read p offset length).text).length ≤ Frame.maxLength := by
  have limits : 12 * HostPath.maxLength + 512 ≤ Frame.maxLength := by decide
  have names := (HostPath.length_flatten_le root p.place).trans fits
  have chars := p.bytesOf_chars_le
  have quoted := bytesOf_quote_le p.chars
  have number : ∀ n : Int64, 0 ≤ n.toInt → bytesOf (Json.ofInt n.toInt).render ≤ 80 := by
    intro n positive
    have small : n.toInt.toNat < UInt64.size := by
      have bound := n.toInt_lt
      simp only [UInt64.size]
      omega
    have short := bytesOf_ofInt_le small
    rwa [Int.toNat_of_nonneg positive] at short
  have offsetShort := number offset first
  have lengthShort := number length count
  have object : (Request.read p offset length).toJson =
      .ofFields [("method", .ofString "read"), ("path", .ofPath p),
        ("offset", .ofInt offset.toInt), ("length", .ofInt length.toInt)] := rfl
  have method : bytesOf (quote "method".toList) = 8 := by decide
  have read : bytesOf (quote "read".toList) = 6 := by decide
  have path : bytesOf (quote "path".toList) = 6 := by decide
  have offsetKey : bytesOf (quote "offset".toList) = 8 := by decide
  have lengthKey : bytesOf (quote "length".toList) = 8 := by decide
  rw [text, length_encode_text, object, bytesOf_ofFields]
  simp only [List.map_cons, List.map_nil, List.sum_cons, List.sum_nil, Json.ofString, Json.ofPath,
    Path.text, String.toList_ofList, render, method, read, path, offsetKey, lengthKey]
  omega

end Request

end Dfs
