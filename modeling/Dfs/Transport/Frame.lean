/-!
Frames: how messages are told apart in a stream of bytes. A frame is the length of
its payload in four bytes, most significant first, and then the payload.
-/

namespace Dfs.Frame

/-- The largest payload that either side of a connection accepts. -/
def maxLength : Nat := 64 * 1024 * 1024

def header (length : Nat) : List UInt8 :=
  [UInt8.ofNat (length / 0x1000000), UInt8.ofNat (length / 0x10000), UInt8.ofNat (length / 0x100),
    UInt8.ofNat length]

def encode (payload : List UInt8) : List UInt8 := header payload.length ++ payload

def headerValue (a b c d : UInt8) : Nat :=
  ((a.toNat * 256 + b.toNat) * 256 + c.toNat) * 256 + d.toNat

/-- What a stream that has ended begins with. -/
inductive Front where
  /-- A whole frame, and what follows it. -/
  | frame (payload rest : List UInt8)
  /-- No byte of a further frame, except that a header alone counts as none. -/
  | closed
  /-- Part of a frame. -/
  | cut
  /-- A frame above the limit. -/
  | tooBig
  deriving DecidableEq, Repr

def front (stream : List UInt8) : Front :=
  match stream with
  | [] => .closed
  | a :: b :: c :: d :: rest =>
    let length := headerValue a b c d
    if length > maxLength then .tooBig
    else if length ≤ rest.length then .frame (rest.take length) (rest.drop length)
    else if rest = [] then .closed
    else .cut
  | _ => .cut

theorem headerValue_header {n : Nat} (h : n < UInt32.size) :
    headerValue (UInt8.ofNat (n / 0x1000000)) (UInt8.ofNat (n / 0x10000)) (UInt8.ofNat (n / 0x100))
      (UInt8.ofNat n) = n := by
  simp only [headerValue, UInt8.toNat_ofNat', UInt32.size] at h ⊢
  omega

/-- A frame within the limit is read back, whatever follows it. -/
theorem front_encode_append {payload : List UInt8} (h : payload.length ≤ maxLength)
    (rest : List UInt8) : front (encode payload ++ rest) = .frame payload rest := by
  have small : payload.length < UInt32.size := by
    simp only [maxLength, UInt32.size] at h ⊢
    omega
  simp only [encode, header, List.cons_append, List.nil_append, front,
    headerValue_header small]
  rw [if_neg (Nat.not_lt.mpr h), if_pos (by simp)]
  simp

end Dfs.Frame
