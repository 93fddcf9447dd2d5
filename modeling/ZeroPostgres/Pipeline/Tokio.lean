import ZeroPostgres.Pipeline.Claim
import ZeroPostgres.Conn.Tokio

/-!
# Pipelines of the asynchronous client

`src/src/tokio/pipeline/mod.rs`.
-/

namespace ZeroPostgres

instance : PipelineDriver TokioFlags where
  onServerError e p :=
    if e.isConnectionBroken then { p with conn := { p.conn with broken := true } }
    else { p with aborted := true }
  saveColumns payload p := { p with columnBuffer := payload }

namespace Tokio

variable {P : Peer} {α : Type}

/-- A pipeline of the asynchronous client, `src/src/tokio/pipeline/mod.rs:56–68`. -/
abbrev Pipeline (P : Peer) := ZeroPostgres.Pipeline P TokioFlags

namespace Pipeline

open ZeroPostgres.Pipeline

/-- `new_inner`, `src/src/tokio/pipeline/mod.rs:92–109`. -/
def new (c : Conn P) : Pipeline P :=
  { conn := if c.isBroken then { c with broken := true }
      else { c with bufferSet := { c.bufferSet with writeBuffer := [] } }
    queueSeq := 0, claimSeq := 0, aborted := false, columnBuffer := [], expectations := [] }

/-- `Drop for Pipeline`, `src/src/tokio/pipeline/mod.rs:72–78`. -/
def drop (p : Pipeline P) : Conn P :=
  if p.conn.flags.scopePending then { p.conn with broken := true } else p.conn

/-- `exec`, `src/src/tokio/pipeline/mod.rs:217–239`. -/
def exec (statement : StatementRef) (params : Params) : Act Error (Pipeline P) Ticket := do
  onConn Conn.ensureExchangeReady
  queueExec statement params

/-- `flush`, `src/src/tokio/pipeline/mod.rs:271–286`. -/
def flush : Act Error (Pipeline P) Unit := do
  onConn Conn.ensureExchangeReady
  onConn Conn.beginExchange
  let p ← Act.get
  if p.buffers.writeBuffer = [] then onConn Conn.finishExchange
  else do
    onConn (setScopePending true)
    appendWrite [.flush]
    onConn Conn.send
    clearWrite
    onConn Conn.finishExchange

/-- `sync_inner`, `src/src/tokio/pipeline/mod.rs:305–318`. -/
def syncInner : Act Error (Pipeline P) Unit := do
  onConn Conn.beginExchange
  onConn (setScopePending true)
  appendWrite [.sync]
  pushExpectation .sync
  onConn Conn.send
  clearWrite
  onConn Conn.finishExchange

/-- Mark the connection broken when `x` fails with an error of the breaking kind. -/
def marking (x : Act Error (Pipeline P) α) : Act Error (Pipeline P) α := fun p =>
  match x p with
  | (.err e, p') => (.err e, if e.isConnectionBroken then
      { p' with conn := { p'.conn with broken := true } } else p')
  | r => r

/-- `sync`, `src/src/tokio/pipeline/mod.rs:294–303`. -/
def sync : Act Error (Pipeline P) Unit := do
  onConn Conn.ensureExchangeReady
  marking syncInner

/-- One round of `consume_ready_for_query`, `src/src/tokio/pipeline/mod.rs:321–348`: messages
of other types are passed over. -/
def readyRound (_ : Unit) (m : RawMessage) : Act Error (Pipeline P) (Flow Unit Unit) :=
  if m.isAsync then return .next ()
  else match m.type with
    | .errorResponse => do
      let error ← Act.lift (ErrorResponse.parse m.payload)
      if (Error.server error).isConnectionBroken then
        onConn (Act.modify fun c => { c with broken := true })
      Act.fail (.server error)
    | .readyForQuery => do
      let status ← Act.lift (ReadyForQuery.parse m.payload)
      onConn (Conn.setStatus status)
      let p ← Act.get
      onConn (setScopePending !p.expectations.isEmpty)
      return .stop ()
    | _ => return .next ()

/-- `consume_ready_for_query`, `src/src/tokio/pipeline/mod.rs:321–348`. -/
def consumeReadyForQuery : Act Error (Pipeline P) Unit := readMessages readyRound ()

/-- `consume_pending_syncs`, `src/src/tokio/pipeline/mod.rs:351–359`. -/
def consumePendingSyncs : Act Error (Pipeline P) Unit := fun p =>
  consumeSyncs consumeReadyForQuery p.expectations p

/-- The end of a claim: the Syncs behind the operation are consumed. -/
def finishClaim : Act Error (Pipeline P) Unit := do
  consumePendingSyncs
  onConn Conn.finishExchange

/-- `claim_with_handler` after its automatic Sync, `src/src/tokio/pipeline/mod.rs:394–422`. -/
def claimFront (ticket : Ticket) (handler : Handler) : Act Error (Pipeline P) (List Callback) := do
  onConn Conn.beginExchange
  let p ← Act.get
  if p.aborted then do
    Act.modify fun p => { p with claimSeq := p.claimSeq + 1 }
    let _ ← popExpectation
    finishClaim
    Act.fail pipelineAborted
  else do
    let expectation ← popExpectation
    let result ← Act.attempt (claimExpectation expectation ticket handler)
    let p ← Act.get
    if !result.isOk && (p.conn.broken || !p.aborted) then Act.ofExcept result
    else do
      Act.modify fun p => { p with claimSeq := p.claimSeq + 1 }
      finishClaim
      Act.ofExcept result

/-- `claim_with_handler`, `src/src/tokio/pipeline/mod.rs:377–424`. -/
def claimWithHandler (ticket : Ticket) (handler : Handler) :
    Act Error (Pipeline P) (List Callback) := do
  onConn Conn.ensureExchangeReady
  checkSequence ticket.seq
  let p ← Act.get
  if p.buffers.writeBuffer ≠ [] then sync
  claimFront ticket handler

/-- One round of the loop of `drain_expectation`: rows are discarded undecoded.
`src/src/tokio/pipeline/mod.rs:168–186`. -/
def drainRound (_ : Unit) (m : RawMessage) : Act Error (Pipeline P) (Flow Unit Unit) :=
  match m.type with
  | .commandComplete => do
    let _ ← Act.lift (CommandComplete.parse m.payload)
    return .stop ()
  | .emptyQueryResponse => do
    Act.lift (EmptyQueryResponse.parse m.payload)
    return .stop ()
  | .parseComplete | .bindComplete | .rowDescription | .noData | .dataRow => return .next ()
  | _ => unexpectedMessage "pipeline execution response" m

/-- `drain_expectation`, `src/src/tokio/pipeline/mod.rs:162–187`. -/
def drainExpectation (e : Expectation) : Act Error (Pipeline P) Unit :=
  if e = .sync then consumeReadyForQuery
  else readMessages (nextRound drainRound) ()

/-- The drain loop of `cleanup_inner`, `src/src/tokio/pipeline/mod.rs:142–154`; false when it
gives up and cleanup returns early. It recurses on the queue it pops from. -/
def drainLoop : List Expectation → Act Error (Pipeline P) Bool
  | [] => return true
  | e :: rest => do
    Act.modify fun p => { p with expectations := rest }
    let p ← Act.get
    if p.aborted ∧ e ≠ .sync then drainLoop rest
    else do
      let result ← Act.attempt (drainExpectation e)
      let p ← Act.get
      if !result.isOk && (!p.aborted || e = .sync) then return false
      else do
        if e = .sync then setAborted false
        drainLoop rest

/-- The part of `cleanup_inner` that drains the queue, `src/src/tokio/pipeline/mod.rs:139–158`. -/
def drain : Act Error (Pipeline P) Unit := do
  onConn Conn.beginExchange
  let p ← Act.get
  if ← drainLoop p.expectations then do
    Act.modify fun p => { p with queueSeq := 0, claimSeq := 0, aborted := false }
    onConn Conn.finishExchange
  else return ()

/-- `cleanup_inner`, `src/src/tokio/pipeline/mod.rs:126–159`. Its own result is `()`, so
nothing it runs into is reported. -/
def cleanup : Act Error (Pipeline P) Unit := do
  let p ← Act.get
  if !p.conn.exchangeReady then return ()
  else if p.expectations = [] ∧ p.conn.flags.scopePending = false then clearWrite
  else if p.buffers.writeBuffer ≠ [] ∨ .sync ∉ p.expectations then do
    match ← Act.attempt sync with
    | .ok () => drain
    | .error _ => return ()
  else drain

/-- One call of the program. -/
def call : PipelineCall → Act Error (Pipeline P) CallResult
  | .exec statement params => do return .ticket (← exec statement params)
  | .flush _ => do flush; return .done
  | .sync _ => do sync; return .done
  | .claim _ ticket handler => do return .calls (← claimWithHandler ticket handler)

/-- Set where the future of the next call is dropped. -/
def setCut (cut : Option Cut) (p : Pipeline P) : Pipeline P :=
  { p with conn := { p.conn with stream := { p.conn.stream with cut } } }

/-- Run a call whose future is dropped at `cut`, or in the end when it never completes; the
program goes on either way, without a result in the second case. -/
def dropping (cut : Option Cut) (x : Act Error (Pipeline P) α) (p : Pipeline P) :
    Option (Except Error α) × Pipeline P :=
  let r := x (setCut cut p)
  (r.1.toExcept?, setCut none r.2)

/-- One call of a program and what comes of it. -/
def runCall (c : PipelineCall) (p : Pipeline P) : Option (Except Error CallResult) × Pipeline P :=
  dropping c.cut (call c) p

/-- The pipeline after the calls of a program. -/
def afterCalls : List PipelineCall → Pipeline P → Pipeline P
  | [], p => p
  | c :: cs, p => afterCalls cs (runCall c p).2

/-- What the calls of a program give back. -/
def results : List PipelineCall → Pipeline P → List (Option (Except Error CallResult))
  | [], _ => []
  | c :: cs, p => (runCall c p).1 :: results cs (runCall c p).2

/-- The life of a pipeline on `c`: it is created, the program makes its calls, the pipeline is
cleaned up and dropped. -/
def run (calls : List PipelineCall) (cleanupCut : Option Cut) (c : Conn P) : Conn P :=
  drop (dropping cleanupCut cleanup (afterCalls calls (new c))).2

end Pipeline

end Tokio

end ZeroPostgres
