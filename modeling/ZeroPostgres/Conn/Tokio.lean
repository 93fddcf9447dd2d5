import ZeroPostgres.Conn.Portal

/-!
# The asynchronous client

`src/src/tokio/conn.rs`. Two flags besides `is_broken` make a connection unusable:
`exchange_in_progress` is set before the first byte of an exchange is written and cleared at
its end, and `scope_pending` is set while a pipeline or an unnamed portal owes a Sync.
-/

namespace ZeroPostgres

/-- The flags of the asynchronous client, `src/src/tokio/conn.rs:34–38`. -/
structure TokioFlags where
  exchangeInProgress : Bool
  scopePending : Bool
deriving DecidableEq, Repr

instance : Driver TokioFlags where
  isBroken broken k := broken || k.exchangeInProgress || k.scopePending
  exchangeReady broken k := !(broken || k.exchangeInProgress)
  refuses := true
  beginFlags k := { k with exchangeInProgress := true }
  finishFlags k := { k with exchangeInProgress := false }

namespace Tokio

variable {P : Peer}

/-- An asynchronous connection, `src/src/tokio/conn.rs:27`. -/
abbrev Conn (P : Peer) := ZeroPostgres.Conn P TokioFlags

open ZeroPostgres.Conn

/-- Set `scope_pending`. -/
def setScopePending (pending : Bool) : Act Error (Conn P) Unit :=
  Act.modify fun c => { c with flags := { c.flags with scopePending := pending } }

/-- One round of `lowlevel_sync_inner`: everything but ReadyForQuery is passed over, the last
error is kept, and a breaking one ends the loop. `src/src/tokio/conn.rs:941–969`. -/
def lowlevelSyncRound (pending : Option Error) (m : RawMessage) :
    Act Error (Conn P) (Flow (Option Error) Unit) :=
  if m.isAsync then return .next pending
  else match m.type with
    | .readyForQuery => do
      let status ← Act.lift (ReadyForQuery.parse m.payload)
      setStatus status
      finishExchange
      match pending with
      | some e => Act.fail e
      | none => return .stop ()
    | .errorResponse => do
      let error ← Act.lift (ErrorResponse.parse m.payload)
      if (Error.server error).isConnectionBroken then do
        Act.modify fun c => { c with broken := true }
        Act.fail (.server error)
      else return .next (some (.server error))
    | _ => return .next pending

/-- `lowlevel_sync_inner`, `src/src/tokio/conn.rs:927–971`. -/
def lowlevelSyncInner : Act Error (Conn P) Unit := do
  setWriteBuffer [.sync]
  beginExchange
  send
  readMessages lowlevelSyncRound none

/-- `lowlevel_sync`, `src/src/tokio/conn.rs:916–925`. -/
def lowlevelSync : Act Error (Conn P) Unit := guarded lowlevelSyncInner

/-- `exec_portal_inner`, `src/src/tokio/conn.rs:1202–1270`. `bindCut` and `syncCut` say where
the call is dropped before and after the closure. -/
def execPortalInner (bindCut syncCut : Option Cut) (statement : StatementRef) (params : Params)
    (f : PortalProg) : Act Error (Conn P) Unit := do
  let m ← writePortalBind "" statement params
  setScopePending true
  withCut bindCut (driveBind m)
  let result ← Act.attempt (runPortal (lowlevelExecuteInner "") f)
  let syncResult ← Act.attempt (withCut syncCut lowlevelSyncInner)
  let c ← Act.get
  setScopePending (if c.exchangeReady then false else c.flags.scopePending)
  Act.ofExcept (portalResult result syncResult)

/-- `exec_portal`, `src/src/tokio/conn.rs:1182–1200`. -/
def execPortal (bindCut syncCut : Option Cut) (statement : StatementRef) (params : Params)
    (f : PortalProg) : Act Error (Conn P) Unit :=
  guarded (execPortalInner bindCut syncCut statement params f)

/-- `close`, `src/src/tokio/conn.rs:471–478`. -/
def close : Act Error (Conn P) Unit := do
  ensureUsable
  setWriteBuffer [.terminate]
  send

end Tokio

end ZeroPostgres
