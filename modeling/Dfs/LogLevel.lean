import Dfs.Text.Blank

/-!
How much a program writes to its log, as the setting `DFS_LOG` says.
-/

namespace Dfs

inductive LogLevel where
  | debug
  | info
  | warn
  | error
  deriving DecidableEq, Repr

namespace LogLevel

def text : LogLevel → String
  | .debug => "debug"
  | .info => "info"
  | .warn => "warn"
  | .error => "error"

/-- The setting names no level; it is shown trimmed and in lower case. -/
structure Unknown where
  setting : String
  deriving DecidableEq, Repr

def Unknown.message (u : Unknown) : String := s!"unknown DFS_LOG value '{u.setting}'"

/-- Reads the setting. `none` means that nothing is logged. Blanks around the
setting are ignored, and so is the case of its ASCII letters. -/
def parse (setting : String) : Except Unknown (Option LogLevel) :=
  let word := String.ofList ((Text.trim setting.toList).map Char.toLower)
  if word = "" ∨ word = "off" then .ok none
  else if word = "debug" then .ok (some .debug)
  else if word = "info" then .ok (some .info)
  else if word = "warn" then .ok (some .warn)
  else if word = "error" then .ok (some .error)
  else .error ⟨word⟩

end LogLevel

end Dfs
