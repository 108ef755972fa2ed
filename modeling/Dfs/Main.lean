import Dfs.CommandLine.Run

/-!
The program. It runs on a host that has its disk to itself and no route to any other
host, so every command that needs one fails as it would there.
-/

namespace Dfs.CommandLine

/-- The configuration file that a command line names. -/
def configFile? (words : List String) : Option String :=
  match parse words with
  | .ok (.run globals _) => globals.config
  | _ => none

/-- The command line asks for the standard input. -/
def readsInput (words : List String) : Bool :=
  match parse words with
  | .ok (.run _ (.write _ none _ _)) => true
  | _ => false

/-- A host without any file but the one that is given. -/
def aloneWith (file : Option (String × List UInt8)) : Cluster :=
  let c : Cluster := ⟨.empty, ⟨.isolated, []⟩, [], []⟩
  match file with
  | some (name, bytes) =>
    match (c.diskOf 0).seedFile (.ofString name) bytes with
    | .ok disk => c.setDisk 0 disk
    | .error _ => c
  | none => c

/-- The bytes of a file, if it can be read. -/
def readFile? (name : String) : IO (Option (String × List UInt8)) := do
  try
    let bytes ← IO.FS.readBinFile name
    pure (some (name, bytes.data.toList))
  catch _ => pure none

/-- Everything up to the end of a stream, after what has been read of it. -/
partial def readAll (stream : IO.FS.Stream) (found : ByteArray) : IO ByteArray := do
  let bytes ← stream.read 65536
  if bytes.isEmpty then pure found else readAll stream (found ++ bytes)

end Dfs.CommandLine

def main (words : List String) : IO UInt32 := do
  let file ← match Dfs.CommandLine.configFile? words with
    | some name => Dfs.CommandLine.readFile? name
    | none => pure none
  let input ← if Dfs.CommandLine.readsInput words then
      Dfs.CommandLine.readAll (← IO.getStdin) .empty
    else pure .empty
  let naming ← IO.getEnv Dfs.namingVariable
  let (exit, _) := Dfs.CommandLine.run ⟨0, naming, input.data.toList, words⟩
    (Dfs.CommandLine.aloneWith file)
  let output ← IO.getStdout
  output.write ⟨exit.output.toArray⟩
  (← IO.getStderr).putStr exit.errors
  pure (UInt32.ofNat exit.code)
