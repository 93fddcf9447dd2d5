import ZeroPostgres.State.Action

/-!
# Extended query state machine

`ExtendedQueryStateMachine`, `src/src/state/extended.rs:22–469`: one machine for the
operations Prepare, Execute, ExecuteSql and CloseStatement. The calls made to the handler
are kept beside it.
-/

namespace ZeroPostgres

/-- Extended query state, `src/src/state/extended.rs:23–32`. -/
inductive ExtendedState where
  | initial | waitingParse | waitingBind | waitingDescribe | waitingRowDesc
  | processingRows | waitingReady | finished
deriving DecidableEq, Repr

/-- Operation in progress, `src/src/state/extended.rs:70–79`. -/
inductive Operation where
  | prepare | execute | executeSql | closeStatement
deriving DecidableEq, Repr

/-- Extended query protocol state machine, `src/src/state/extended.rs:82–89`. -/
structure ExtendedQueryStateMachine where
  state : ExtendedState
  handler : Handler
  calls : List Callback
  operation : Operation
  transactionStatus : TransactionStatus
  preparedStmt : Option PreparedStatement
  pendingError : Option ServerError

namespace ExtendedQueryStateMachine

/-- A machine in its initial state. -/
def start (handler : Handler) (operation : Operation) (preparedStmt : Option PreparedStatement) :
    ExtendedQueryStateMachine :=
  ⟨.initial, handler, [], operation, .idle, preparedStmt, none⟩

/-- Prepare a statement: Parse, DescribeStatement, Sync. `src/src/state/extended.rs:100–125`. -/
def prepare (handler : Handler) (b : BufferSet) (idx : Nat) (query : String)
    (paramOids : List Oid) : ExtendedQueryStateMachine × BufferSet :=
  let name := (PreparedStatement.mk idx [] none).wireName
  (start handler .prepare (some ⟨idx, [], none⟩),
    { b with writeBuffer := [.parse name query paramOids, .describeStatement name, .sync] })

/-- Execute a prepared statement: Bind, DescribePortal, Execute, Sync.
`src/src/state/extended.rs:133–160`. -/
def execute (handler : Handler) (b : BufferSet) (statementName : String) (paramOids : List Oid)
    (params : Params) : Except Error ExtendedQueryStateMachine × BufferSet :=
  match writeBind [] "" statementName params paramOids with
  | (.error e, buf) => (.error e, { b with writeBuffer := buf })
  | (.ok (), buf) =>
    (.ok (start handler .execute none),
      { b with writeBuffer := buf ++ [.describePortal "", .execute "" 0, .sync] })

/-- Execute raw SQL: Parse, Bind, DescribePortal, Execute, Sync.
`src/src/state/extended.rs:169–191`. -/
def executeSql (handler : Handler) (b : BufferSet) (sql : String) (params : Params) :
    Except Error ExtendedQueryStateMachine × BufferSet :=
  let paramOids := params.naturalOids
  match writeBind [.parse "" sql paramOids] "" "" params paramOids with
  | (.error e, buf) => (.error e, { b with writeBuffer := buf })
  | (.ok (), buf) =>
    (.ok (start handler .executeSql none),
      { b with writeBuffer := buf ++ [.describePortal "", .execute "" 0, .sync] })

/-- Close a prepared statement: Close, Sync. `src/src/state/extended.rs:196–209`. -/
def closeStatement (handler : Handler) (b : BufferSet) (name : String) :
    ExtendedQueryStateMachine × BufferSet :=
  (start handler .closeStatement none, { b with writeBuffer := [.closeStatement name, .sync] })

/-- Set the state of the machine. -/
def setState (state : ExtendedState) : Step ExtendedQueryStateMachine Unit :=
  Act.modify fun (m, b) => ({ m with state }, b)

/-- Call the handler and propagate its error. -/
def callHandler (c : Callback) : Step ExtendedQueryStateMachine Unit := fun (m, b) =>
  let r := m.handler.call m.calls c
  (Act.ofExcept r.1) ({ m with calls := r.2 }, b)

/-- Change the prepared statement, if there is one. -/
def updateStmt (f : PreparedStatement → PreparedStatement) :
    Step ExtendedQueryStateMachine Unit :=
  Act.modify fun (m, b) => ({ m with preparedStmt := m.preparedStmt.map f }, b)

/-- Read a ReadyForQuery: the transaction status, and the end of the machine. -/
def readReady (payload : Bytes) : Step ExtendedQueryStateMachine Unit := do
  let status ← Act.lift (ReadyForQuery.parse payload)
  Act.modify fun (m, b) => ({ m with transactionStatus := status, state := .finished }, b)

/-- Store the columns for later row callbacks and announce them. -/
def startResult (payload : Bytes) : Step ExtendedQueryStateMachine Unit := do
  Act.modify fun (m, b) => (m, { b with columnBuffer := payload })
  let cols ← Act.lift (RowDescription.parse payload)
  callHandler (.resultStart cols)

/-- `handle_parse`, `src/src/state/extended.rs:211–233`. -/
def handleParse : Step ExtendedQueryStateMachine Action := do
  let (m, b) ← Act.get
  match b.typeByte with
  | .parseComplete => do
    Act.lift (ParseComplete.parse b.readBuffer)
    match m.operation with
    | .executeSql => do setState .waitingBind; return .readMessage
    | .prepare => do setState .waitingDescribe; return .readMessage
    | _ => Act.fail (.libraryBug "handle_parse called for non-parse operation")
  | t => Act.fail (unexpected "Expected ParseComplete, got " t)

/-- `handle_describe`, `src/src/state/extended.rs:235–251`. -/
def handleDescribe : Step ExtendedQueryStateMachine Action := do
  let (_, b) ← Act.get
  match b.typeByte with
  | .parameterDescription => do
    let oids ← Act.lift (ParameterDescription.parse b.readBuffer)
    updateStmt fun stmt => { stmt with paramOids := oids }
    setState .waitingRowDesc
    return .readMessage
  | t => Act.fail (unexpected "Expected ParameterDescription, got " t)

/-- `handle_row_desc`, `src/src/state/extended.rs:253–276`. -/
def handleRowDesc : Step ExtendedQueryStateMachine Action := do
  let (_, b) ← Act.get
  match b.typeByte with
  | .rowDescription => do
    updateStmt fun stmt => { stmt with rowDescPayload := some b.readBuffer }
    setState .waitingReady
    return .readMessage
  | .noData => do
    Act.lift (NoData.parse b.readBuffer)
    setState .waitingReady
    return .readMessage
  | t => Act.fail (unexpected "Expected RowDescription or NoData, got " t)

/-- `handle_bind`, `src/src/state/extended.rs:278–303`. -/
def handleBind : Step ExtendedQueryStateMachine Action := do
  let (_, b) ← Act.get
  match b.typeByte with
  | .bindComplete => do
    Act.lift (BindComplete.parse b.readBuffer)
    setState .processingRows
    return .readMessage
  | .rowDescription => do
    startResult b.readBuffer
    setState .processingRows
    return .readMessage
  | t => Act.fail (unexpected "Expected BindComplete, got " t)

/-- `handle_rows`, `src/src/state/extended.rs:305–358`. -/
def handleRows : Step ExtendedQueryStateMachine Action := do
  let (_, b) ← Act.get
  match b.typeByte with
  | .rowDescription => do
    startResult b.readBuffer
    return .readMessage
  | .noData => do
    Act.lift (NoData.parse b.readBuffer)
    return .readMessage
  | .dataRow => do
    let cols ← Act.lift (RowDescription.parse b.columnBuffer)
    let row ← Act.lift (DataRow.parse b.readBuffer)
    callHandler (.row cols row)
    return .readMessage
  | .commandComplete => do
    let tag ← Act.lift (CommandComplete.parse b.readBuffer)
    callHandler (.resultEnd tag)
    setState .waitingReady
    return .readMessage
  | .emptyQueryResponse => do
    Act.lift (EmptyQueryResponse.parse b.readBuffer)
    setState .waitingReady
    return .readMessage
  | .portalSuspended => do
    Act.lift (PortalSuspended.parse b.readBuffer)
    setState .waitingReady
    return .readMessage
  | .readyForQuery => do
    readReady b.readBuffer
    return .finished
  | t => Act.fail (unexpected "Unexpected message in rows: " t)

/-- Take the pending error, `self.pending_error.take()`. -/
def takePendingError : Step ExtendedQueryStateMachine (Option ServerError) := do
  let (m, _) ← Act.get
  Act.modify fun (m, b) => ({ m with pendingError := none }, b)
  return m.pendingError

/-- `handle_ready`, `src/src/state/extended.rs:360–385`. -/
def handleReady : Step ExtendedQueryStateMachine Action := do
  let (_, b) ← Act.get
  match b.typeByte with
  | .readyForQuery => do
    readReady b.readBuffer
    match ← takePendingError with
    | some e => return .error e
    | none => return .finished
  | .closeComplete => do
    Act.lift (CloseComplete.parse b.readBuffer)
    return .readMessage
  | t => Act.fail (unexpected "Expected ReadyForQuery, got " t)

/-- The state a machine waits in after writing its request,
`src/src/state/extended.rs:428–433`. -/
def firstState : Operation → ExtendedState
  | .prepare => .waitingParse
  | .execute => .waitingBind
  | .executeSql => .waitingParse
  | .closeStatement => .waitingReady

/-- The state's own handler, `src/src/state/extended.rs:452–463`. -/
def handleState : ExtendedState → Step ExtendedQueryStateMachine Action
  | .waitingParse => handleParse
  | .waitingDescribe => handleDescribe
  | .waitingRowDesc => handleRowDesc
  | .waitingBind => handleBind
  | .processingRows => handleRows
  | .waitingReady => handleReady
  | .initial => Act.fail (.libraryBug "Unexpected state Initial")
  | .finished => Act.fail (.libraryBug "Unexpected state Finished")

/-- `step`, `src/src/state/extended.rs:424–464`. -/
def step : Step ExtendedQueryStateMachine Action := do
  let (m, b) ← Act.get
  match m.state with
  | .initial => do
    setState (firstState m.operation)
    return .writeAndReadMessage
  | state =>
    if b.typeByte.isAsync then
      Act.lift (handleAsyncMessage ⟨b.typeByte, b.readBuffer⟩)
    else if b.typeByte = .errorResponse then do
      let error ← Act.lift (ErrorResponse.parse b.readBuffer)
      Act.modify fun (m, b) => ({ m with pendingError := some error, state := .waitingReady }, b)
      return .readMessage
    else handleState state

instance : StateMachine ExtendedQueryStateMachine where
  step := step
  transactionStatus := (·.transactionStatus)

end ExtendedQueryStateMachine

end ZeroPostgres
