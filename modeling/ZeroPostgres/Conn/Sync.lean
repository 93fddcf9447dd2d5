import ZeroPostgres.Conn.Portal

/-!
# The blocking client

`src/src/sync/conn.rs`. It keeps no exchange flags: `is_broken` is the one field, it is only
set by errors, and no operation looks at it.
-/

namespace ZeroPostgres

/-- The blocking client tracks no exchange. -/
structure SyncFlags where
deriving DecidableEq, Repr

instance : Driver SyncFlags where
  isBroken broken _ := broken
  exchangeReady _ _ := true
  refuses := false
  beginFlags k := k
  finishFlags k := k

namespace Sync

variable {P : Peer}

/-- A blocking connection, `src/src/sync/conn.rs:28`. -/
abbrev Conn (P : Peer) := ZeroPostgres.Conn P SyncFlags

open ZeroPostgres.Conn

/-- One round of `lowlevel_sync_inner`: everything but ReadyForQuery is passed over, and the
last error is kept. `src/src/sync/conn.rs:1164–1187`. -/
def lowlevelSyncRound (pending : Option Error) (m : RawMessage) :
    Act Error (Conn P) (Flow (Option Error) Unit) :=
  if m.isAsync then return .next pending
  else match m.type with
    | .readyForQuery => do
      let status ← Act.lift (ReadyForQuery.parse m.payload)
      setStatus status
      match pending with
      | some e => Act.fail e
      | none => return .stop ()
    | .errorResponse => do
      let error ← Act.lift (ErrorResponse.parse m.payload)
      return .next (some (.server error))
    | _ => return .next pending

/-- `lowlevel_sync_inner`, `src/src/sync/conn.rs:1151–1189`. -/
def lowlevelSyncInner : Act Error (Conn P) Unit := do
  setWriteBuffer [.sync]
  send
  readMessages lowlevelSyncRound none

/-- `lowlevel_sync`, `src/src/sync/conn.rs:1141–1149`. -/
def lowlevelSync : Act Error (Conn P) Unit := guarded lowlevelSyncInner

/-- `exec_portal_inner`, `src/src/sync/conn.rs:1256–1313`. -/
def execPortalInner (statement : StatementRef) (params : Params) (f : PortalProg) :
    Act Error (Conn P) Unit := do
  let m ← writePortalBind "" statement params
  driveBind m
  let result ← Act.attempt (runPortal (lowlevelExecute "") f)
  let syncResult ← Act.attempt lowlevelSync
  Act.ofExcept (portalResult result syncResult)

/-- `exec_portal`, `src/src/sync/conn.rs:1237–1254`. -/
def execPortal (statement : StatementRef) (params : Params) (f : PortalProg) :
    Act Error (Conn P) Unit := guarded (execPortalInner statement params f)

end Sync

end ZeroPostgres
