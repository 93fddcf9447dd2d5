import ZeroPostgres.Pipeline.Claim
import ZeroPostgres.Conn.Sync

/-!
# Pipelines of the blocking client

`src/src/sync/pipeline/mod.rs`.
-/

namespace ZeroPostgres

instance : PipelineDriver SyncFlags where
  onServerError _ p := p
  saveColumns payload p := { p with conn := { p.conn with bufferSet :=
    { p.conn.bufferSet with columnBuffer := payload } } }

namespace Sync

variable {P : Peer}

/-- A pipeline of the blocking client, `src/src/sync/pipeline/mod.rs:55–65`. -/
abbrev Pipeline (P : Peer) := ZeroPostgres.Pipeline P SyncFlags

namespace Pipeline

open ZeroPostgres.Pipeline

/-- `new_inner`, `src/src/sync/pipeline/mod.rs:78–87`. -/
def new (c : Conn P) : Pipeline P :=
  { conn := { c with bufferSet := { c.bufferSet with writeBuffer := [] } }
    queueSeq := 0, claimSeq := 0, aborted := false, columnBuffer := [], expectations := [] }

/-- `exec`, `src/src/sync/pipeline/mod.rs:175–196`. -/
def exec (statement : StatementRef) (params : Params) : Act Error (Pipeline P) Ticket :=
  queueExec statement params

/-- `flush`, `src/src/sync/pipeline/mod.rs:227–237`. -/
def flush : Act Error (Pipeline P) Unit := do
  let p ← Act.get
  if p.buffers.writeBuffer = [] then return ()
  else do
    appendWrite [.flush]
    onConn Conn.send
    clearWrite

/-- `sync_inner`, `src/src/sync/pipeline/mod.rs:253–262`. -/
def syncInner : Act Error (Pipeline P) Unit := do
  appendWrite [.sync]
  pushExpectation .sync
  onConn Conn.send
  clearWrite

/-- Mark the connection broken when `x` fails with an error of the breaking kind. -/
def marking {α : Type} (x : Act Error (Pipeline P) α) : Act Error (Pipeline P) α := fun p =>
  match x p with
  | (.err e, p') => (.err e, if e.isConnectionBroken then
      { p' with conn := { p'.conn with broken := true } } else p')
  | r => r

/-- `sync`, `src/src/sync/pipeline/mod.rs:243–251`. -/
def sync : Act Error (Pipeline P) Unit := marking syncInner

/-- One round of `consume_ready_for_query`, `src/src/sync/pipeline/mod.rs:265–285`: messages
of other types are passed over. -/
def readyRound (_ : Unit) (m : RawMessage) : Act Error (Pipeline P) (Flow Unit Unit) :=
  if m.isAsync then return .next ()
  else match m.type with
    | .errorResponse => do
      let error ← Act.lift (ErrorResponse.parse m.payload)
      Act.fail (.server error)
    | .readyForQuery => do
      let status ← Act.lift (ReadyForQuery.parse m.payload)
      onConn (Conn.setStatus status)
      return .stop ()
    | _ => return .next ()

/-- `consume_ready_for_query`, `src/src/sync/pipeline/mod.rs:265–285`. -/
def consumeReadyForQuery : Act Error (Pipeline P) Unit := readMessages readyRound ()

/-- `consume_pending_syncs`, `src/src/sync/pipeline/mod.rs:288–296`. -/
def consumePendingSyncs : Act Error (Pipeline P) Unit := fun p =>
  consumeSyncs consumeReadyForQuery p.expectations p

/-- `claim_with_handler` after its automatic Sync, `src/src/sync/pipeline/mod.rs:322–349`. -/
def claimFront (ticket : Ticket) (handler : Handler) : Act Error (Pipeline P) (List Callback) := do
  let p ← Act.get
  if p.aborted then do
    Act.modify fun p => { p with claimSeq := p.claimSeq + 1 }
    let _ ← popExpectation
    consumePendingSyncs
    Act.fail pipelineAborted
  else do
    let expectation ← popExpectation
    let result ← Act.attempt (claimExpectation expectation ticket handler)
    match result with
    | .error e => Act.modify fun p => { p with
        conn := { p.conn with broken := p.conn.broken || e.isConnectionBroken }
        aborted := true }
    | .ok _ => pure ()
    Act.modify fun p => { p with claimSeq := p.claimSeq + 1 }
    consumePendingSyncs
    Act.ofExcept result

/-- `claim_with_handler`, `src/src/sync/pipeline/mod.rs:310–350`. -/
def claimWithHandler (ticket : Ticket) (handler : Handler) :
    Act Error (Pipeline P) (List Callback) := do
  checkSequence ticket.seq
  let p ← Act.get
  if p.buffers.writeBuffer ≠ [] then sync
  claimFront ticket handler

/-- `drain_expectation`, `src/src/sync/pipeline/mod.rs:138–145`: whatever happens is
ignored. -/
def drainExpectation (e : Expectation) : Act Error (Pipeline P) Unit := do
  let _ ← Act.attempt (match e with
    | .parseBindExecute => do let _ ← claimParseBindExecInner DropHandler
    | .bindExecute => do let _ ← claimBindExecInner DropHandler none
    | .sync => consumeReadyForQuery)
  return ()

/-- The drain after an error: the server skipped the operations, so only the ReadyForQuery
messages are read. `src/src/sync/pipeline/mod.rs:119–124`. -/
def drainAborted : List Expectation → Act Error (Pipeline P) Unit
  | [] => return ()
  | e :: rest => do
    Act.modify fun p => { p with expectations := rest }
    if e = .sync then do
      let _ ← Act.attempt consumeReadyForQuery
    drainAborted rest

/-- The drain of everything queued, `src/src/sync/pipeline/mod.rs:126–129`. -/
def drainAll : List Expectation → Act Error (Pipeline P) Unit
  | [] => return ()
  | e :: rest => do
    Act.modify fun p => { p with expectations := rest }
    drainExpectation e
    drainAll rest

/-- `cleanup_inner`, `src/src/sync/pipeline/mod.rs:103–135`. -/
def cleanup : Act Error (Pipeline P) Unit := do
  let p ← Act.get
  if p.queueSeq = 0 ∧ p.expectations = [] then return ()
  else do
    if p.buffers.writeBuffer ≠ [] ∨ .sync ∉ p.expectations then do
      let _ ← Act.attempt sync
    let p ← Act.get
    if p.aborted then drainAborted p.expectations
    else drainAll p.expectations
    Act.modify fun p => { p with queueSeq := 0, claimSeq := 0, aborted := false }

/-- One call of the program. -/
def call : PipelineCall → Act Error (Pipeline P) CallResult
  | .exec statement params => do return .ticket (← exec statement params)
  | .flush _ => do flush; return .done
  | .sync _ => do sync; return .done
  | .claim _ ticket handler => do return .calls (← claimWithHandler ticket handler)

/-- The calls of a program in order, with their results. -/
def runCalls : List PipelineCall → Act Error (Pipeline P) (List (Except Error CallResult))
  | [] => return []
  | c :: cs => do
    let r ← Act.attempt (call c)
    let rs ← runCalls cs
    return r :: rs

end Pipeline

end Sync

end ZeroPostgres
