import Dfs.Disk.Operations

/-!
Writing to an open file. Bytes are handed to the host in pieces, and the host may take fewer
than it is offered: those for which a file has room. What it has taken stays in the file, also
if it refuses the rest.
-/

namespace Dfs

/-- A file that is open for writing, and the position at which the next byte goes. -/
structure OpenFile where
  disk : Disk
  place : Place
  content : Content
  position : Nat
  deriving Repr

/-- Opens an existing file for writing. -/
def Disk.openFile (d : Disk) (h : HostPath) : Except Fault OpenFile :=
  match d.resolve true h with
  | .error fault => .error fault
  | .ok (.vacant ..) => .error .noSuchEntry
  | .ok (.found place (.leaf (.file content))) => .ok ⟨d, place, content, 0⟩
  | .ok (.found ..) => .error .isDirectory

namespace OpenFile

/-- Goes to a position, which may be past the end of the file. -/
def seek (f : OpenFile) (position : Nat) : Except Fault OpenFile :=
  if position > f.disk.largest then .error .invalidArgument else .ok { f with position }

/-- Offers bytes to the host, once. It takes the first ones, as many as there is room for, and
answers with their number. -/
def offer (f : OpenFile) (bytes : List UInt8) : Except Fault (Nat × OpenFile) :=
  if f.position + bytes.length > maxPosition then .error .invalidArgument
  else if f.position ≥ f.disk.largest then .error .fileTooLarge
  else
    let count := min bytes.length (f.disk.largest - f.position)
    let content := f.content.splice f.position (bytes.take count)
    .ok (count, ⟨f.disk.set f.place (.leaf (.file content)), f.place, content, f.position + count⟩)

/-- Writes one piece: what the host has not taken is offered again. -/
def writePiece (f : OpenFile) (bytes : List UInt8) : Option Fault × OpenFile :=
  if bytes = [] then (none, f)
  else match f.offer bytes with
    | .error fault => (some fault, f)
    | .ok (0, f) => (some .nothingTaken, f)
    | .ok (count + 1, f) => writePiece f (bytes.drop (count + 1))
termination_by bytes.length
decreasing_by
  have some := List.length_pos_iff.mpr ‹¬ bytes = []›
  simp only [List.length_drop]
  omega

/-- The most bytes that are handed over in one piece. -/
def maxPiece : Nat := 2 * 1024 * 1024

/-- Writes bytes piece by piece, until one is refused. -/
def writeAll (f : OpenFile) (bytes : List UInt8) : Option Fault × OpenFile :=
  if bytes = [] then (none, f)
  else match f.writePiece (bytes.take maxPiece) with
    | (some fault, f) => (some fault, f)
    | (none, f) => writeAll f (bytes.drop maxPiece)
termination_by bytes.length
decreasing_by
  have some := List.length_pos_iff.mpr ‹¬ bytes = []›
  simp only [List.length_drop, maxPiece]
  omega

end OpenFile

end Dfs
