import Dfs.Address.Printer
import Dfs.Error

/-!
Handles of storage nodes: the addresses of a node's two endpoints. Two handles
name the same node exactly when both addresses are equal.
-/

namespace Dfs

@[ext]
structure Handle where
  /-- Where clients read and write file contents. -/
  storage : Address
  /-- Where the naming service asks for files to be created and deleted. -/
  command : Address
  deriving DecidableEq, Repr

namespace Handle

/-- Puts a handle together from endpoints that may be missing. -/
def ofParts : Option Address → Option Address → Except Error Handle
  | some storage, some command => .ok ⟨storage, command⟩
  | none, _ => .error (.invalidArgument "storage endpoint is missing")
  | some _, none => .error (.invalidArgument "command endpoint is missing")

def text (h : Handle) : String := s!"storage={h.storage} command={h.command}"

instance : ToString Handle := ⟨text⟩

/-- Handles are ordered by their storage addresses, then by their command
addresses. -/
instance : LT Handle := ⟨fun a b => [a.storage, a.command] < [b.storage, b.command]⟩

instance (a b : Handle) : Decidable (a < b) :=
  inferInstanceAs (Decidable ([a.storage, a.command] < [b.storage, b.command]))

instance : StrictTotal Handle :=
  StrictTotal.ofKey (fun h => [h.storage, h.command])
    (fun a b h => by cases a; cases b; cases h; rfl) fun _ _ => Iff.rfl

end Handle

end Dfs
