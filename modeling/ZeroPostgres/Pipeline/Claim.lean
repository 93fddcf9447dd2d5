import ZeroPostgres.Conn.Operations

/-!
# Pipelines: what both clients share

Tickets, expectations and the loops that read the reply of one queued operation,
`src/src/pipeline.rs`, `src/src/sync/pipeline/mod.rs` and `src/src/tokio/pipeline/mod.rs`.
The loops are the same text in both clients but for what an ErrorResponse does to the
pipeline besides failing the read: nothing in the blocking client, and a change of the flags
in the asynchronous one. Line numbers are those of the asynchronous client.
-/

namespace ZeroPostgres

/-- What response sequence to expect for a queued operation, `src/src/pipeline.rs:19–26`. -/
inductive Expectation where
  | parseBindExecute
  | bindExecute
  | sync
deriving DecidableEq, Repr

/-- A ticket for a queued pipeline operation, `src/src/pipeline.rs:11–15`. -/
structure Ticket where
  seq : Nat
  stmt : Option PreparedStatement
deriving DecidableEq, Repr

/-- One call made on a pipeline by user code, on any ticket the program holds. The
asynchronous client may drop the future of a call at `cut`; the blocking one has no cuts. -/
inductive PipelineCall where
  | exec (statement : StatementRef) (params : Params)
  | flush (cut : Option Cut)
  | sync (cut : Option Cut)
  | claim (cut : Option Cut) (ticket : Ticket) (handler : Handler)

/-- Where the future of a call is dropped. -/
def PipelineCall.cut : PipelineCall → Option Cut
  | .exec .. => none
  | .flush cut | .sync cut | .claim cut .. => cut

/-- What one call gives back to the program. -/
inductive CallResult where
  | ticket (ticket : Ticket)
  | done
  | calls (calls : List Callback)
deriving DecidableEq, Repr

/-- A pipeline over a connection it has borrowed, `src/src/tokio/pipeline/mod.rs:56–68`. The
blocking client has no column buffer of its own and uses that of the connection. -/
structure Pipeline (P : Peer) (K : Type) where
  conn : Conn P K
  queueSeq : Nat
  claimSeq : Nat
  aborted : Bool
  columnBuffer : Bytes
  expectations : List Expectation

/-- What `read_next_message` does to the pipeline on an ErrorResponse, and where the columns
of a result are kept. -/
class PipelineDriver (K : Type) extends Driver K where
  onServerError : {P : Peer} → Error → Pipeline P K → Pipeline P K
  saveColumns : {P : Peer} → Bytes → Pipeline P K → Pipeline P K

namespace Pipeline

variable {P : Peer} {K : Type} {α β : Type}

/-- Run an operation of the connection. -/
def onConn (x : Act Error (Conn P K) α) : Act Error (Pipeline P K) α := fun p =>
  let r := x p.conn
  (r.1, { p with conn := r.2 })

/-- The buffers of the connection. -/
def buffers (p : Pipeline P K) : BufferSet := p.conn.bufferSet

/-- Add messages to the write buffer. -/
def appendWrite (fs : List Frontend) : Act Error (Pipeline P K) Unit :=
  onConn (Act.modify fun c => { c with bufferSet :=
    { c.bufferSet with writeBuffer := c.bufferSet.writeBuffer ++ fs } })

/-- `write_buffer.clear()`. -/
def clearWrite : Act Error (Pipeline P K) Unit := onConn (Conn.setWriteBuffer [])

/-- `expectations.push_back`. -/
def pushExpectation (e : Expectation) : Act Error (Pipeline P K) Unit :=
  Act.modify fun p => { p with expectations := p.expectations ++ [e] }

/-- `expectations.pop_front`. -/
def popExpectation : Act Error (Pipeline P K) (Option Expectation) := fun p =>
  (.ok p.expectations.head?, { p with expectations := p.expectations.tail })

/-- Set the aborted flag. -/
def setAborted (aborted : Bool) : Act Error (Pipeline P K) Unit :=
  Act.modify fun p => { p with aborted }

/-! ### Queueing -/

/-- `exec_sql_inner`, `src/src/tokio/pipeline/mod.rs:241–250`. -/
def execSqlInner (sql : String) (params : Params) : Act Error (Pipeline P K) Unit := do
  let paramOids := params.naturalOids
  let p ← Act.get
  let written := writeBind (p.buffers.writeBuffer ++ [.parse "" sql paramOids]) "" "" params
    paramOids
  onConn (Conn.setWriteBuffer written.2)
  Act.ofExcept written.1
  appendWrite [.describePortal "", .execute "" 0]
  pushExpectation .parseBindExecute

/-- `exec_prepared_inner`, `src/src/tokio/pipeline/mod.rs:252–264`: the cached RowDescription
stands in for a Describe. -/
def execPreparedInner (stmtName : String) (paramOids : List Oid) (params : Params) :
    Act Error (Pipeline P K) Unit := do
  let p ← Act.get
  let written := writeBind p.buffers.writeBuffer "" stmtName params paramOids
  onConn (Conn.setWriteBuffer written.2)
  Act.ofExcept written.1
  appendWrite [.execute "" 0]
  pushExpectation .bindExecute

/-- The body of `exec`, `src/src/tokio/pipeline/mod.rs:217–239`. -/
def queueExec (statement : StatementRef) (params : Params) :
    Act Error (Pipeline P K) Ticket := do
  let p ← Act.get
  let seq := p.queueSeq
  Act.modify fun p => { p with queueSeq := p.queueSeq + 1 }
  match statement with
  | .sql text => do
    execSqlInner text params
    return ⟨seq, none⟩
  | .prepared stmt => do
    execPreparedInner stmt.wireName stmt.paramOids params
    return ⟨seq, some stmt⟩

/-- `check_sequence`, `src/src/tokio/pipeline/mod.rs:457–465`. -/
def checkSequence (seq : Nat) : Act Error (Pipeline P K) Unit := fun p =>
  if seq ≠ p.claimSeq then
    (.err (.invalidUsage ("claim out of order: expected seq " ++ toString p.claimSeq ++ ", got "
      ++ toString seq)), p)
  else (.ok (), p)

/-! ### Reading -/

/-- Read messages and hand each to `body` until it stops. -/
def readMessages (body : β → RawMessage → Act Error (Pipeline P K) (Flow β α)) (b : β) :
    Act Error (Pipeline P K) α := fun p =>
  readLoop (fun m => onConn (Conn.receive m)) (onConn Conn.starve) body p.conn.stream.inbound b p

variable [PipelineDriver K]

/-- A loop whose every round begins with `read_next_message`: asynchronous messages are
skipped, an ErrorResponse fails the loop, and `k` sees the rest.
`src/src/tokio/pipeline/mod.rs:609–635`. -/
def nextRound (k : β → RawMessage → Act Error (Pipeline P K) (Flow β α)) (b : β)
    (m : RawMessage) : Act Error (Pipeline P K) (Flow β α) :=
  if m.isAsync then return .next b
  else if m.type = .errorResponse then do
    let error ← Act.lift (ErrorResponse.parse m.payload)
    Act.modify (PipelineDriver.onServerError (.server error))
    Act.fail (.server error)
  else k b m

/-- `read_next_message`, `src/src/tokio/pipeline/mod.rs:609–635`. -/
def readNextMessage : Act Error (Pipeline P K) RawMessage :=
  readMessages (nextRound fun () m => return .stop m) ()

/-- `unexpected_message`, `src/src/tokio/pipeline/mod.rs:638–643`. -/
def unexpectedMessage (expected : String) (m : RawMessage) : Act Error (Pipeline P K) α :=
  Act.fail (unexpected ("expected " ++ expected ++ ", got ") m.type)

/-- Call the handler and propagate its error. -/
def callHandler (handler : Handler) (calls : List Callback) (c : Callback) :
    Act Error (Pipeline P K) (List Callback) := do
  let r := handler.call calls c
  Act.ofExcept r.1
  return r.2

/-- One round of the row loops of `claim_rows_inner` and `claim_rows_cached_inner`; `columns`
is the RowDescription payload, or the error a data row meets without one. -/
def rowRound (handler : Handler) (columns : Except Error Bytes) (calls : List Callback)
    (m : RawMessage) : Act Error (Pipeline P K) (Flow (List Callback) (List Callback)) :=
  match m.type with
  | .dataRow => do
    let payload ← Act.ofExcept columns
    let cols ← Act.lift (RowDescription.parse payload)
    let row ← Act.lift (DataRow.parse m.payload)
    let calls ← callHandler handler calls (.row cols row)
    return .next calls
  | .commandComplete => do
    let tag ← Act.lift (CommandComplete.parse m.payload)
    let calls ← callHandler handler calls (.resultEnd tag)
    return .stop calls
  | .emptyQueryResponse => do
    Act.lift (EmptyQueryResponse.parse m.payload)
    return .stop calls
  | t => Act.fail (unexpected "unexpected message type in pipeline claim: " t)

/-- Read data rows until the terminal message. -/
def claimRows (handler : Handler) (columns : Except Error Bytes) :
    Act Error (Pipeline P K) (List Callback) :=
  readMessages (nextRound (rowRound handler columns)) []

/-- `claim_rows_cached_inner`, `src/src/tokio/pipeline/mod.rs:570–606`. -/
def claimRowsCachedInner (handler : Handler) (rowDesc : Option Bytes) :
    Act Error (Pipeline P K) (List Callback) :=
  claimRows handler (match rowDesc with
    | some payload => .ok payload
    | none => .error (.libraryBug "received DataRow but no RowDescription cached"))

/-- `claim_rows_inner`, `src/src/tokio/pipeline/mod.rs:511–567`. -/
def claimRowsInner (handler : Handler) : Act Error (Pipeline P K) (List Callback) := do
  let m ← readNextMessage
  match m.type with
  | .rowDescription => do
    Act.modify (PipelineDriver.saveColumns m.payload)
    claimRows handler (.ok m.payload)
  | .noData => do
    Act.lift (NoData.parse m.payload)
    claimRows handler (.error (.libraryBug "received DataRow but no RowDescription"))
  | t => Act.fail (unexpected "expected RowDescription or NoData, got " t)

/-- Read the BindComplete that both kinds of operation begin their rows with. -/
def expectBindComplete : Act Error (Pipeline P K) Unit := do
  let m ← readNextMessage
  match m.type with
  | .bindComplete => Act.lift (BindComplete.parse m.payload)
  | _ => unexpectedMessage "BindComplete" m

/-- `claim_parse_bind_exec_inner`, `src/src/tokio/pipeline/mod.rs:468–488`. -/
def claimParseBindExecInner (handler : Handler) : Act Error (Pipeline P K) (List Callback) := do
  let m ← readNextMessage
  match m.type with
  | .parseComplete => do
    Act.lift (ParseComplete.parse m.payload)
    expectBindComplete
    claimRowsInner handler
  | _ => unexpectedMessage "ParseComplete" m

/-- `claim_bind_exec_inner`, `src/src/tokio/pipeline/mod.rs:491–508`. -/
def claimBindExecInner (handler : Handler) (stmt : Option PreparedStatement) :
    Act Error (Pipeline P K) (List Callback) := do
  expectBindComplete
  claimRowsCachedInner handler (stmt.bind (·.rowDescPayload))

/-- Read the reply of the operation a claim has popped from the queue,
`src/src/tokio/pipeline/mod.rs:405–412`. -/
def claimExpectation (expectation : Option Expectation) (ticket : Ticket) (handler : Handler) :
    Act Error (Pipeline P K) (List Callback) :=
  match expectation with
  | some .parseBindExecute => claimParseBindExecInner handler
  | some .bindExecute => claimBindExecInner handler ticket.stmt
  | some .sync => Act.fail (.libraryBug "unexpected Sync expectation")
  | none => Act.fail (.libraryBug "no expectation in queue")

/-- The error of a claim behind a failed operation. -/
def pipelineAborted : Error := .libraryBug "pipeline aborted due to earlier error"

/-- The loop of `consume_pending_syncs`, given how one ReadyForQuery is consumed,
`src/src/tokio/pipeline/mod.rs:351–359`. It recurses on the queue it pops from. -/
def consumeSyncs (consume : Act Error (Pipeline P K) Unit) :
    List Expectation → Act Error (Pipeline P K) Unit
  | .sync :: rest => do
    Act.modify fun p => { p with expectations := rest }
    consume
    setAborted false
    consumeSyncs consume rest
  | _ => return ()

end Pipeline

end ZeroPostgres
