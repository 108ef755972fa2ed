import Dfs.Naming.Interfaces
import Dfs.Store.Basic

/-!
The two interfaces of a storage node: one for the contents of files, one for
creating and deleting them. Each refuses the methods of all others.
-/

namespace Dfs.Store

/-- Answers a request of a client for contents. -/
def serveStorage (st : Store) (r : Request) : Reply × Store :=
  match r with
  | .size p => ((st.size p).map .size, st)
  | .read p offset length => ((st.read p offset length).map .bytes, st)
  | .write p offset data =>
    let (answer, st) := st.write p offset data
    (answer.map fun _ => .unit, st)
  | r => (.error (r.unsupported .storage), st)

/-- Answers a request of the naming service. -/
def serveCommand (st : Store) (r : Request) : Reply × Store :=
  match r with
  | .create p =>
    let (created, st) := st.create p
    (.ok (.bool created), st)
  | .delete p =>
    let (deleted, st) := st.delete p
    (.ok (.bool deleted), st)
  | r => (.error (r.unsupported .command), st)

end Dfs.Store
