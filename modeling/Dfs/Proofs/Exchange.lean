import Dfs.Transport.Call

/-!
Calls with a record. `Caller.recorded` makes of a caller one that does the same and writes
down each exchange, so that a statement can tell what was asked, where, in which order,
and what came back.
-/

namespace Dfs

/-- A request that was sent to an address, and what the call ended with. -/
structure Exchange where
  target : Address
  request : Request
  reply : Reply

/-- The answer to a command in what the call ended with; it is an error of the transport if
something else than an answer came back. -/
def Exchange.answer (x : Exchange) : Except Error Bool := x.reply.bind Response.toBool

variable {σ : Type}

/-- What passes in one call. -/
def Caller.exchange (call : Caller σ) (target : Address) (r : Request) (w : σ) : Exchange :=
  ⟨target, r, (call target r w).1⟩

/-- The same caller, with the exchanges so far kept beside the world. -/
def Caller.recorded (call : Caller σ) : Caller (List Exchange × σ) := fun target r (record, w) =>
  ((call target r w).1, record ++ [call.exchange target r w], (call target r w).2)

namespace Call

/-- A command to a node is one exchange, and its answer that of the exchange. -/
theorem invoke_toBool (call : Caller σ) (target : Address) (r : Request) (w : σ) :
    invoke call Response.toBool target r w =
      ((call.exchange target r w).answer, (call target r w).2) := rfl

theorem invoke_toBool_recorded (call : Caller σ) (target : Address) (r : Request)
    (record : List Exchange) (w : σ) :
    invoke call.recorded Response.toBool target r (record, w) =
      ((call.exchange target r w).answer, record ++ [call.exchange target r w],
        (call target r w).2) := rfl

end Call

end Dfs
