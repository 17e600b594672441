import BillDesk.Ledger.Http

/-!
# Replayed conversations

A session is a computation without effects: what carries its requests has to be a function. To run
one against a server, the conversation is replayed from its start with the responses that were heard
so far. The first request beyond them is the one to carry next, and once no request is left over,
the run is complete.
-/

namespace BillDesk.Http

structure Replay where
  /-- The responses that were heard and not given yet. -/
  heard : List (Option Response) := []
  /-- The first request that there was no response for. -/
  wanted : Option Request := none

namespace Replay

/-- Gives what was heard, and keeps the first request beyond it. -/
def transport : Transport Replay := fun request r =>
  match r.heard with
  | response :: rest => (response, { r with heard := rest })
  | [] => (none, { r with wanted := r.wanted.or (some request) })

end Replay

end BillDesk.Http
