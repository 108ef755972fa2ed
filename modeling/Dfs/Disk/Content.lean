/-!
The content of a file. A long stretch of zeros that was never written takes no
room: content is a list of runs, and `toList` is the bytes it stands for.
-/

namespace Dfs

/-- A run of a file's content: bytes that were written, or a gap of zeros. -/
inductive Run where
  | data (bytes : List UInt8)
  | gap (length : Nat)
  deriving DecidableEq, Repr

namespace Run

def size : Run → Nat
  | .data bytes => bytes.length
  | .gap length => length

def toList : Run → List UInt8
  | .data bytes => bytes
  | .gap length => List.replicate length 0

/-- The first `n` bytes. -/
def take (n : Nat) : Run → Run
  | .data bytes => .data (bytes.take n)
  | .gap length => .gap (min n length)

/-- All but the first `n` bytes. -/
def drop (n : Nat) : Run → Run
  | .data bytes => .data (bytes.drop n)
  | .gap length => .gap (length - n)

@[simp] theorem length_toList (r : Run) : r.toList.length = r.size := by
  cases r <;> simp [toList, size]

@[simp] theorem toList_take (n : Nat) (r : Run) : (r.take n).toList = r.toList.take n := by
  cases r <;> simp [take, toList, List.take_replicate]

@[simp] theorem toList_drop (n : Nat) (r : Run) : (r.drop n).toList = r.toList.drop n := by
  cases r <;> simp [drop, toList, List.drop_replicate]

end Run

structure Content where
  runs : List Run
  deriving DecidableEq, Repr

namespace Content

def empty : Content := ⟨[]⟩

instance : Inhabited Content := ⟨empty⟩

def ofBytes (bytes : List UInt8) : Content := ⟨[.data bytes]⟩

/-- The bytes of the content. -/
def toList (c : Content) : List UInt8 := c.runs.flatMap Run.toList

def size (c : Content) : Nat := c.runs.foldr (fun r n => r.size + n) 0

/-- The runs that hold the first `n` bytes. -/
def takeRuns : Nat → List Run → List Run
  | _, [] => []
  | n, r :: rest => r.take n :: takeRuns (n - r.size) rest

/-- The runs that hold all but the first `n` bytes. -/
def dropRuns : Nat → List Run → List Run
  | _, [] => []
  | n, r :: rest => r.drop n :: dropRuns (n - r.size) rest

def take (n : Nat) (c : Content) : Content := ⟨takeRuns n c.runs⟩

def drop (n : Nat) (c : Content) : Content := ⟨dropRuns n c.runs⟩

/-- The bytes from `offset` on, at most `length` of them. -/
def slice (c : Content) (offset length : Nat) : List UInt8 := ((c.drop offset).take length).toList

/-- Writes bytes at `offset`. What lies between the end of the content and the
bytes becomes zero. -/
def splice (c : Content) (offset : Nat) (bytes : List UInt8) : Content :=
  ⟨(c.take offset).runs ++ .gap (offset - c.size) :: .data bytes ::
    (c.drop (offset + bytes.length)).runs⟩

/-! ### The bytes after each operation -/

@[simp] theorem length_toList (c : Content) : c.toList.length = c.size := by
  obtain ⟨runs⟩ := c
  simp only [toList, size]
  induction runs with
  | nil => rfl
  | cons r rest ih => simp [List.flatMap_cons, ih]

@[simp] theorem toList_take (n : Nat) (c : Content) : (c.take n).toList = c.toList.take n := by
  obtain ⟨runs⟩ := c
  simp only [toList, take]
  induction runs generalizing n with
  | nil => simp [takeRuns]
  | cons r rest ih => simp [takeRuns, List.flatMap_cons, ih, List.take_append]

@[simp] theorem toList_drop (n : Nat) (c : Content) : (c.drop n).toList = c.toList.drop n := by
  obtain ⟨runs⟩ := c
  simp only [toList, drop]
  induction runs generalizing n with
  | nil => simp [dropRuns]
  | cons r rest ih => simp [dropRuns, List.flatMap_cons, ih, List.drop_append]

@[simp] theorem toList_ofBytes (bytes : List UInt8) : (ofBytes bytes).toList = bytes := by
  simp [ofBytes, toList, Run.toList]

theorem slice_eq (c : Content) (offset length : Nat) :
    c.slice offset length = (c.toList.drop offset).take length := by
  simp [slice]

theorem toList_splice (c : Content) (offset : Nat) (bytes : List UInt8) :
    (c.splice offset bytes).toList =
      c.toList.take offset ++ List.replicate (offset - c.size) 0 ++ bytes ++
        c.toList.drop (offset + bytes.length) := by
  have front := toList_take offset c
  have back := toList_drop (offset + bytes.length) c
  simp only [toList] at front back
  simp [splice, toList, Run.toList, front, back, List.flatMap_append, List.flatMap_cons]

end Content

end Dfs
