import Dfs.Cluster.Basic

/-!
Conversations: one connection over which a client sends one thing after another,
each after the answer to the one before.

What the other side writes depends only on what it has read, and an answer is
written before the next frame is read. So the answers are the frames in what it
writes for everything that is sent, in their order.
-/

namespace Dfs

/-- What a client sends on a connection. -/
inductive Sent where
  /-- One frame. -/
  | frame (payload : List UInt8)
  /-- These bytes, and nothing after them. -/
  | raw (bytes : List UInt8)
  deriving DecidableEq, Repr

namespace Sent

/-- All bytes that are sent. -/
def bytes : List Sent → List UInt8
  | [] => []
  | .frame payload :: items => Frame.encode payload ++ bytes items
  | .raw bytes :: _ => bytes

/-- How many items are sent. -/
def count : List Sent → Nat
  | [] => 0
  | .frame _ :: items => count items + 1
  | .raw _ :: _ => 1

end Sent

namespace Cluster

/-- Sends items over one connection. The answer to an item is `none` if the
connection was closed before. -/
def converse (c : Cluster) (target : Address) (items : List Sent) :
    Except Fault (List (Option Reply) × Cluster) :=
  match c.network.connect target with
  | .error fault => .error fault
  | .ok role =>
    let (stream, c) := answerStream (callWith callNobody) role (Sent.bytes items) c
    let replies := (Connection.payloads stream).map (Connection.replyIn target)
    let answers := (replies.take (Sent.count items)).map some
    .ok (answers ++ List.replicate (items.length - answers.length) none, c)

end Cluster

end Dfs
