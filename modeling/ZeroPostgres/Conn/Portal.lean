import ZeroPostgres.Conn.Operations

/-!
# Closures over an unnamed portal

What a closure given to `exec_portal` does: it fetches rows any number of times and returns.
It is user code, so what it does next may depend on every result it has seen.
-/

namespace ZeroPostgres

/-- A closure over an `UnnamedPortal`, `src/src/tokio/unnamed_portal.rs`. In the asynchronous
client it may drop a fetch at `cut` and go on (it then sees no result), and it may itself be
waiting for something else when the whole call is dropped (`suspend`). -/
inductive PortalProg where
  | ret (result : Except Error Unit)
  | exec (cut : Option Cut) (maxRows : Nat) (handler : Handler)
      (next : Option (Except Error (Bool × List Callback)) → PortalProg)
  | suspend

namespace Conn

variable {P : Peer} {K : Type} {α : Type}

/-- A call whose future is dropped at `cut`, as its caller sees it: the caller goes on
without a result when there was a cut. -/
def droppable (cut : Option Cut) (x : Act Error (Conn P K) α) :
    Act Error (Conn P K) (Option (Except Error α)) := fun c =>
  match withCut cut x c with
  | (.ok a, c') => (.ok (some (.ok a)), c')
  | (.err e, c') => (.ok (some (.error e)), c')
  | (.halt, c') => if cut.isSome then (.ok none, c') else (.halt, c')

/-- Run a closure over an unnamed portal that fetches with `fetch`. -/
def runPortal (fetch : Nat → Handler → Act Error (Conn P K) (Bool × List Callback)) :
    PortalProg → Act Error (Conn P K) Unit
  | .ret result => Act.ofExcept result
  | .exec cut maxRows handler next => do
    let r ← droppable cut (fetch maxRows handler)
    runPortal fetch (next r)
  | .suspend => Act.halt

/-- The result of `exec_portal`: the closure's, or the error of the final Sync when the
closure succeeded, `src/src/tokio/conn.rs:1264–1269`. -/
def portalResult : Except Error Unit → Except Error Unit → Except Error Unit
  | .ok (), .ok () => .ok ()
  | .error e, _ => .error e
  | .ok (), .error e => .error e

end Conn

end ZeroPostgres
