import ZeroPostgres.Conn.Channel
import ZeroPostgres.State.Extended
import ZeroPostgres.State.SimpleQuery
import ZeroPostgres.State.Batch
import Mathlib.Data.List.Basic

/-!
# Operations common to both clients

The operations that `src/src/sync/conn.rs` and `src/src/tokio/conn.rs` write out twice with
the same text but for `.await` and the exchange flags. Each is defined once here; the two
clients give it its name in `Conn/Sync.lean` and `Conn/Tokio.lean`. Line numbers are those of
`src/src/tokio/conn.rs`, where the calls of `begin_exchange` and `finish_exchange` stand.

The query machines ask for a write in their first step only, so a later request to write is
a branch no run reaches (`LawfulStateMachine.step_meets`).
-/

namespace ZeroPostgres.Conn

variable {P : Peer} {K : Type} [Driver K] {S α : Type}

/-- Run one step of a machine on the buffers of the connection. -/
def stepMachine (step : Step S Action) (m : S) : Act Error (Conn P K) (Action × S) := fun c =>
  let r := step (m, c.bufferSet)
  (r.1.bind fun action => .ok (action, r.2.1), { c with bufferSet := r.2.2 })

/-- Set the transaction status. -/
def setStatus (status : TransactionStatus) : Act Error (Conn P K) Unit :=
  Act.modify fun c => { c with transactionStatus := status }

/-- Call the installed handler of asynchronous messages, if there is one. -/
def handleAsync (msg : AsyncMessage) : Act Error (Conn P K) Unit :=
  Act.modify fun c => { c with
    asyncMessageHandler := c.asyncMessageHandler.map fun calls => calls ++ [msg] }

/-- `write_all(&write_buffer)` and `flush()`. -/
def send : Act Error (Conn P K) Unit := do
  writeAll
  flushStream

/-! ### Driving the query machines -/

/-- One round of `drive` after its first step: step the machine on the message just read. -/
def driveRound [StateMachine S] (m : S) (_ : RawMessage) :
    Act Error (Conn P K) (Flow S S) := do
  let (action, m) ← stepMachine StateMachine.step m
  match action with
  | .readMessage => return .next m
  | .handleAsyncMessageAndReadMessage msg => do
    handleAsync msg
    return .next m
  | .error e => do
    setStatus (StateMachine.transactionStatus m)
    finishExchange
    Act.fail (.server e)
  | .finished => do
    finishExchange
    setStatus (StateMachine.transactionStatus m)
    return .stop m
  | .writeAndReadByte =>
    Act.fail (.libraryBug "Unexpected WriteAndReadByte in query state machine")
  | .tlsHandshake => Act.fail (.libraryBug "Unexpected TlsHandshake in query state machine")
  | .write | .writeAndReadMessage => Act.halt

/-- `drive`, `src/src/tokio/conn.rs:351–399`; the machine is returned as it ended. -/
def drive [StateMachine S] (m : S) : Act Error (Conn P K) S := do
  beginExchange
  let (action, m) ← stepMachine StateMachine.step m
  match action with
  | .writeAndReadMessage => do
    send
    readMessages driveRound m
  | _ => Act.halt

/-- `query_inner`, `src/src/tokio/conn.rs:413–416`; the calls made to the handler are
returned. -/
def queryInner (sql : String) (handler : Handler) : Act Error (Conn P K) (List Callback) := do
  let m ← drive (SimpleQueryStateMachine.new handler sql)
  return m.calls

/-- `query`, `src/src/tokio/conn.rs:402–411`. -/
def query (sql : String) (handler : Handler) : Act Error (Conn P K) (List Callback) :=
  guarded (queryInner sql handler)

/-- `query_drop`, `src/src/tokio/conn.rs:419–423`. -/
def queryDrop (sql : String) : Act Error (Conn P K) (List Callback) := query sql DropHandler

/-- `ping`, `src/src/tokio/conn.rs:345–348`. -/
def ping : Act Error (Conn P K) Unit := do
  let _ ← queryDrop ""
  return ()

/-- `prepare_inner`, `src/src/tokio/conn.rs:576–594`. -/
def prepareInner (idx : Nat) (sql : String) (paramOids : List Oid) :
    Act Error (Conn P K) PreparedStatement := do
  let c ← Act.get
  let (m, b) := ExtendedQueryStateMachine.prepare DropHandler c.bufferSet idx sql paramOids
  Act.modify fun c => { c with bufferSet := b }
  let m ← drive m
  match m.preparedStmt with
  | some stmt => return stmt
  | none => Act.fail (.libraryBug "No prepared statement")

/-- `prepare_typed`, `src/src/tokio/conn.rs:488–503`. -/
def prepareTyped (sql : String) (paramOids : List Oid) :
    Act Error (Conn P K) PreparedStatement := do
  ensureUsable
  Act.modify fun c => { c with nameCounter := c.nameCounter + 1 }
  let c ← Act.get
  markBroken (prepareInner c.nameCounter sql paramOids)

/-- The request of `exec`: raw SQL or a prepared statement. -/
def startExec (handler : Handler) (b : BufferSet) (statement : StatementRef) (params : Params) :
    Except Error ExtendedQueryStateMachine × BufferSet :=
  match statement with
  | .sql text => ExtendedQueryStateMachine.executeSql handler b text params
  | .prepared stmt =>
    ExtendedQueryStateMachine.execute handler b stmt.wireName stmt.paramOids params

/-- `exec_inner`, `src/src/tokio/conn.rs:617–637`. -/
def execInner (statement : StatementRef) (params : Params) (handler : Handler) :
    Act Error (Conn P K) (List Callback) := do
  let c ← Act.get
  let (m, b) := startExec handler c.bufferSet statement params
  Act.modify fun c => { c with bufferSet := b }
  let m ← drive (← Act.ofExcept m)
  return m.calls

/-- `exec`, `src/src/tokio/conn.rs:601–615`. -/
def exec (statement : StatementRef) (params : Params) (handler : Handler) :
    Act Error (Conn P K) (List Callback) := guarded (execInner statement params handler)

/-- `close_statement_inner`, `src/src/tokio/conn.rs:882–887`. -/
def closeStatementInner (name : String) : Act Error (Conn P K) Unit := do
  let c ← Act.get
  let (m, b) := ExtendedQueryStateMachine.closeStatement DropHandler c.bufferSet name
  Act.modify fun c => { c with bufferSet := b }
  let _ ← drive m
  return ()

/-- `close_statement`, `src/src/tokio/conn.rs:871–880`. -/
def closeStatement (stmt : PreparedStatement) : Act Error (Conn P K) Unit :=
  guarded (closeStatementInner stmt.wireName)

/-! ### Preparing several statements -/

/-- One round of `prepare_batch_inner` after its first step. -/
def prepareBatchRound (m : BatchPrepareStateMachine) (_ : RawMessage) :
    Act Error (Conn P K) (Flow BatchPrepareStateMachine (List PreparedStatement)) := do
  let (action, m) ← stepMachine BatchPrepareStateMachine.step m
  match action with
  | .readMessage => return .next m
  | .finished => do
    finishExchange
    setStatus m.transactionStatus
    return .stop m.statements
  | .writeAndReadMessage => Act.halt
  | _ => Act.fail (.libraryBug "Unexpected action in batch prepare")

/-- `prepare_batch_inner`, `src/src/tokio/conn.rs:539–574`. -/
def prepareBatchInner (queries : List String) (startIdx : Nat) :
    Act Error (Conn P K) (List PreparedStatement) := do
  let c ← Act.get
  let (m, b) := BatchPrepareStateMachine.startAt c.bufferSet queries startIdx
  Act.modify fun c => { c with bufferSet := b }
  beginExchange
  let (action, m) ← stepMachine BatchPrepareStateMachine.step m
  match action with
  | .writeAndReadMessage => do
    send
    readMessages prepareBatchRound m
  | _ => Act.halt

/-- `prepare_batch`, `src/src/tokio/conn.rs:521–537`. -/
def prepareBatch (queries : List String) : Act Error (Conn P K) (List PreparedStatement) := do
  ensureUsable
  match queries with
  | [] => return []
  | queries => do
    let c ← Act.get
    Act.modify fun c => { c with nameCounter := c.nameCounter + queries.length }
    markBroken (prepareBatchInner queries (c.nameCounter + 1))

/-! ### Executing with several parameter sets -/

/-- One round of `drive_batch` after its first step. -/
def driveBatchRound (m : BatchStateMachine) (_ : RawMessage) :
    Act Error (Conn P K) (Flow BatchStateMachine BatchStateMachine) := do
  let (action, m) ← stepMachine BatchStateMachine.step m
  match action with
  | .readMessage => return .next m
  | .finished => do
    finishExchange
    return .stop m
  | .error e => do
    setStatus m.transactionStatus
    finishExchange
    Act.fail (.server e)
  | .writeAndReadMessage => Act.halt
  | _ => Act.fail (.libraryBug "Unexpected action in batch")

/-- `drive_batch`, `src/src/tokio/conn.rs:836–868`. -/
def driveBatch (m : BatchStateMachine) : Act Error (Conn P K) BatchStateMachine := do
  beginExchange
  let (action, m) ← stepMachine BatchStateMachine.step m
  match action with
  | .writeAndReadMessage => do
    send
    readMessages driveBatchRound m
  | _ => Act.halt

/-- Bind and Execute for each parameter set of a chunk,
`src/src/tokio/conn.rs:806–820`. -/
def writeChunk (buf : List Frontend) (stmtName : String) (paramOids : List Oid) :
    List Params → Except Error Unit × List Frontend
  | [] => (.ok (), buf)
  | params :: rest =>
    match writeBind buf "" stmtName params paramOids with
    | (.error e, buf) => (.error e, buf)
    | (.ok (), buf) => writeChunk (buf ++ [.execute "" 0]) stmtName paramOids rest

/-- The OIDs and the statement name of a batch, `src/src/tokio/conn.rs:792–795`. -/
def batchTarget (statement : StatementRef) (first : Params) : List Oid × String :=
  match statement with
  | .sql _ => (first.naturalOids, "")
  | .prepared stmt => (stmt.paramOids, stmt.wireName)

/-- The buffer of a chunk before its Binds: raw SQL is parsed again for each chunk. -/
def chunkHead (statement : StatementRef) (paramOids : List Oid) : List Frontend :=
  match statement with
  | .sql text => [.parse "" text paramOids]
  | .prepared _ => []

/-- The batch machine of a chunk. -/
def chunkMachine (statement : StatementRef) : BatchStateMachine :=
  match statement with
  | .sql _ => BatchStateMachine.new true
  | .prepared _ => BatchStateMachine.new false

/-- The chunk loop of `exec_batch_inner`, `src/src/tokio/conn.rs:797–830`. -/
def execChunks (statement : StatementRef) (paramOids : List Oid) (stmtName : String) :
    List (List Params) → Act Error (Conn P K) Unit
  | [] => return ()
  | chunk :: chunks => do
    let written := writeChunk (chunkHead statement paramOids) stmtName paramOids chunk
    setWriteBuffer written.2
    Act.ofExcept written.1
    setWriteBuffer (written.2 ++ [.sync])
    let m ← driveBatch (chunkMachine statement)
    setStatus m.transactionStatus
    execChunks statement paramOids stmtName chunks

/-- `exec_batch_inner`, `src/src/tokio/conn.rs:776–833`. -/
def execBatchInner (statement : StatementRef) (paramsList : List Params) (chunkSize : Nat) :
    Act Error (Conn P K) Unit :=
  match paramsList with
  | [] => return ()
  | first :: rest =>
    let target := batchTarget statement first
    execChunks statement target.1 target.2 ((first :: rest).toChunks (max chunkSize 1))

/-- `exec_batch_chunked`, `src/src/tokio/conn.rs:758–774`. -/
def execBatchChunked (statement : StatementRef) (paramsList : List Params) (chunkSize : Nat) :
    Act Error (Conn P K) Unit := guarded (execBatchInner statement paramsList chunkSize)

/-! ### Portals -/

/-- One round of the bind loop of `create_named_portal` and `exec_portal_inner` after its
first step, `src/src/tokio/conn.rs:302–324`. -/
def bindRound (m : BindStateMachine) (_ : RawMessage) :
    Act Error (Conn P K) (Flow BindStateMachine Unit) := do
  let (action, m) ← stepMachine BindStateMachine.step m
  match action with
  | .readMessage => return .next m
  | .finished => do
    finishExchange
    return .stop ()
  | .write | .writeAndReadMessage => Act.halt
  | _ => Act.fail (.libraryBug "Unexpected action in bind")

/-- The bind loop of `create_named_portal` and `exec_portal_inner`. -/
def driveBind (m : BindStateMachine) : Act Error (Conn P K) Unit := do
  beginExchange
  let (action, m) ← stepMachine BindStateMachine.step m
  match action with
  | .writeAndReadMessage => do
    send
    readMessages bindRound m
  | _ => Act.halt

/-- The request that binds a statement to a portal. -/
def startBind (b : BufferSet) (portalName : String) (statement : StatementRef)
    (params : Params) : Except Error BindStateMachine × BufferSet :=
  match statement with
  | .sql text => BindStateMachine.bindSql b portalName text params
  | .prepared stmt =>
    BindStateMachine.bindPrepared b portalName stmt.wireName stmt.paramOids params

/-- Build the bind request in the write buffer, or fail when a parameter cannot be encoded. -/
def writePortalBind (portalName : String) (statement : StatementRef) (params : Params) :
    Act Error (Conn P K) BindStateMachine := do
  let c ← Act.get
  let (m, b) := startBind c.bufferSet portalName statement params
  Act.modify fun c => { c with bufferSet := b }
  Act.ofExcept m

/-- `create_named_portal`, `src/src/tokio/conn.rs:281–327`. -/
def createNamedPortal (portalName : String) (statement : StatementRef) (params : Params) :
    Act Error (Conn P K) Unit := do
  ensureUsable
  let m ← writePortalBind portalName statement params
  driveBind m

/-- `next_portal_name`, `src/src/tokio/conn.rs:273–276`. -/
def nextPortalName : Act Error (Conn P K) String := do
  Act.modify fun c => { c with nameCounter := c.nameCounter + 1 }
  let c ← Act.get
  return "_zero_p_" ++ toString c.nameCounter

/-! ### Low-level extended protocol -/

/-- `lowlevel_flush`, `src/src/tokio/conn.rs:896–908`. -/
def lowlevelFlush : Act Error (Conn P K) Unit := do
  ensureUsable
  setWriteBuffer [.flush]
  beginExchange
  send
  finishExchange

/-- One round of `lowlevel_bind_inner`. -/
def lowlevelBindRound (_ : Unit) (m : RawMessage) : Act Error (Conn P K) (Flow Unit Unit) :=
  if m.isAsync then return .next ()
  else match m.type with
    | .bindComplete => do
      Act.lift (BindComplete.parse m.payload)
      finishExchange
      return .stop ()
    | .errorResponse => do
      let error ← Act.lift (ErrorResponse.parse m.payload)
      Act.fail (.server error)
    | t => Act.fail (unexpected "Expected BindComplete or ErrorResponse, got " t)

/-- `lowlevel_bind_inner`, `src/src/tokio/conn.rs:1000–1050`. -/
def lowlevelBindInner (portal statementName : String) (params : Params) :
    Act Error (Conn P K) Unit := do
  let written := writeBind [] portal statementName params params.naturalOids
  setWriteBuffer written.2
  Act.ofExcept written.1
  setWriteBuffer (written.2 ++ [.flush])
  beginExchange
  send
  readMessages lowlevelBindRound ()

/-- `lowlevel_bind`, `src/src/tokio/conn.rs:982–998`. -/
def lowlevelBind (portal statementName : String) (params : Params) :
    Act Error (Conn P K) Unit := guarded (lowlevelBindInner portal statementName params)

/-- Local state of `lowlevel_execute_inner`: the column buffer and the handler's calls. -/
structure ExecuteState where
  columnBuffer : Bytes
  calls : List Callback
deriving DecidableEq, Repr

/-- Call the handler and propagate its error. -/
def callHandler (handler : Handler) (calls : List Callback) (c : Callback) :
    Act Error (Conn P K) (List Callback) := do
  let r := handler.call calls c
  Act.ofExcept r.1
  return r.2

/-- One round of `lowlevel_execute_inner`; a stop says whether more rows are available. -/
def lowlevelExecuteRound (handler : Handler) (s : ExecuteState) (m : RawMessage) :
    Act Error (Conn P K) (Flow ExecuteState (Bool × List Callback)) :=
  if m.isAsync then return .next s
  else match m.type with
    | .rowDescription => do
      let cols ← Act.lift (RowDescription.parse m.payload)
      let calls ← callHandler handler s.calls (.resultStart cols)
      return .next ⟨m.payload, calls⟩
    | .noData => do
      Act.lift (NoData.parse m.payload)
      return .next s
    | .dataRow => do
      let cols ← Act.lift (RowDescription.parse s.columnBuffer)
      let row ← Act.lift (DataRow.parse m.payload)
      let calls ← callHandler handler s.calls (.row cols row)
      return .next { s with calls }
    | .commandComplete => do
      let tag ← Act.lift (CommandComplete.parse m.payload)
      let calls ← callHandler handler s.calls (.resultEnd tag)
      finishExchange
      return .stop (false, calls)
    | .portalSuspended => do
      Act.lift (PortalSuspended.parse m.payload)
      finishExchange
      return .stop (true, s.calls)
    | .errorResponse => do
      let error ← Act.lift (ErrorResponse.parse m.payload)
      Act.fail (.server error)
    | t => Act.fail (unexpected "Unexpected message in execute: " t)

/-- `lowlevel_execute_inner`, `src/src/tokio/conn.rs:1080–1149`. -/
def lowlevelExecuteInner (portal : String) (maxRows : Nat) (handler : Handler) :
    Act Error (Conn P K) (Bool × List Callback) := do
  setWriteBuffer [.describePortal portal, .execute portal maxRows, .flush]
  beginExchange
  send
  readMessages (lowlevelExecuteRound handler) ⟨[], []⟩

/-- `lowlevel_execute`, `src/src/tokio/conn.rs:1064–1078`. -/
def lowlevelExecute (portal : String) (maxRows : Nat) (handler : Handler) :
    Act Error (Conn P K) (Bool × List Callback) :=
  guarded (lowlevelExecuteInner portal maxRows handler)

/-- One round of `lowlevel_close_portal_inner`. -/
def lowlevelClosePortalRound (_ : Unit) (m : RawMessage) :
    Act Error (Conn P K) (Flow Unit Unit) :=
  if m.isAsync then return .next ()
  else match m.type with
    | .closeComplete => do
      Act.lift (CloseComplete.parse m.payload)
      finishExchange
      return .stop ()
    | .errorResponse => do
      let error ← Act.lift (ErrorResponse.parse m.payload)
      Act.fail (.server error)
    | t => Act.fail (unexpected "Expected CloseComplete or ErrorResponse, got " t)

/-- `lowlevel_close_portal_inner`, `src/src/tokio/conn.rs:1284–1322`. -/
def lowlevelClosePortalInner (portal : String) : Act Error (Conn P K) Unit := do
  setWriteBuffer [.closePortal portal, .flush]
  beginExchange
  send
  readMessages lowlevelClosePortalRound ()

/-- `lowlevel_close_portal`, `src/src/tokio/conn.rs:1273–1282`. -/
def lowlevelClosePortal (portal : String) : Act Error (Conn P K) Unit :=
  guarded (lowlevelClosePortalInner portal)

end ZeroPostgres.Conn
