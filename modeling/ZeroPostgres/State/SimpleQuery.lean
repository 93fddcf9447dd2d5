import ZeroPostgres.State.Action

/-!
# Simple query state machine

`SimpleQueryStateMachine`, `src/src/state/simple_query.rs`: one Query message, any number
of results, ReadyForQuery.
-/

namespace ZeroPostgres

/-- Simple query state, `src/src/state/simple_query.rs:18–24`. -/
inductive SimpleState where
  | initial | waitingResponse | processingRows | waitingReady | finished
deriving DecidableEq, Repr

/-- Simple query protocol state machine, `src/src/state/simple_query.rs:27–33`. -/
structure SimpleQueryStateMachine where
  state : SimpleState
  handler : Handler
  calls : List Callback
  query : String
  transactionStatus : TransactionStatus
  pendingError : Option ServerError

namespace SimpleQueryStateMachine

/-- `new`, `src/src/state/simple_query.rs:37–45`. -/
def new (handler : Handler) (query : String) : SimpleQueryStateMachine :=
  ⟨.initial, handler, [], query, .idle, none⟩

/-- Set the state of the machine. -/
def setState (state : SimpleState) : Step SimpleQueryStateMachine Unit :=
  Act.modify fun (m, b) => ({ m with state }, b)

/-- Call the handler and propagate its error. -/
def callHandler (c : Callback) : Step SimpleQueryStateMachine Unit := fun (m, b) =>
  let r := m.handler.call m.calls c
  (Act.ofExcept r.1) ({ m with calls := r.2 }, b)

/-- Read a ReadyForQuery: the transaction status, and the end of the machine. -/
def readReady (payload : Bytes) : Step SimpleQueryStateMachine Unit := do
  let status ← Act.lift (ReadyForQuery.parse payload)
  Act.modify fun (m, b) => ({ m with transactionStatus := status, state := .finished }, b)

/-- Read the end of a command; more commands may follow. -/
def endResult (payload : Bytes) : Step SimpleQueryStateMachine Action := do
  let tag ← Act.lift (CommandComplete.parse payload)
  callHandler (.resultEnd tag)
  setState .waitingResponse
  return .readMessage

/-- `handle_response`, `src/src/state/simple_query.rs:47–84`. -/
def handleResponse : Step SimpleQueryStateMachine Action := do
  let (_, b) ← Act.get
  match b.typeByte with
  | .rowDescription => do
    Act.modify fun (m, b) => (m, { b with columnBuffer := b.readBuffer })
    let cols ← Act.lift (RowDescription.parse b.readBuffer)
    callHandler (.resultStart cols)
    setState .processingRows
    return .readMessage
  | .commandComplete => endResult b.readBuffer
  | .emptyQueryResponse => do
    Act.lift (EmptyQueryResponse.parse b.readBuffer)
    setState .waitingReady
    return .readMessage
  | .readyForQuery => do
    readReady b.readBuffer
    return .finished
  | t => Act.fail (unexpected "Unexpected message in query response: " t)

/-- `handle_rows`, `src/src/state/simple_query.rs:87–116`. -/
def handleRows : Step SimpleQueryStateMachine Action := do
  let (_, b) ← Act.get
  match b.typeByte with
  | .dataRow => do
    let cols ← Act.lift (RowDescription.parse b.columnBuffer)
    let row ← Act.lift (DataRow.parse b.readBuffer)
    callHandler (.row cols row)
    return .readMessage
  | .commandComplete => endResult b.readBuffer
  | .readyForQuery => do
    readReady b.readBuffer
    return .finished
  | t => Act.fail (unexpected "Unexpected message in row processing: " t)

/-- Take the pending error, `self.pending_error.take()`. -/
def takePendingError : Step SimpleQueryStateMachine (Option ServerError) := do
  let (m, _) ← Act.get
  Act.modify fun (m, b) => ({ m with pendingError := none }, b)
  return m.pendingError

/-- `handle_ready`, `src/src/state/simple_query.rs:118–134`. -/
def handleReady : Step SimpleQueryStateMachine Action := do
  let (_, b) ← Act.get
  match b.typeByte with
  | .readyForQuery => do
    readReady b.readBuffer
    match ← takePendingError with
    | some e => return .error e
    | none => return .finished
  | t => Act.fail (unexpected "Expected ReadyForQuery, got " t)

/-- The state's own handler, `src/src/state/simple_query.rs:198–206`. -/
def handleState : SimpleState → Step SimpleQueryStateMachine Action
  | .waitingResponse => handleResponse
  | .processingRows => handleRows
  | .waitingReady => handleReady
  | .initial => Act.fail (.libraryBug "Unexpected state Initial")
  | .finished => Act.fail (.libraryBug "Unexpected state Finished")

/-- `step`, `src/src/state/simple_query.rs:173–207`. -/
def step : Step SimpleQueryStateMachine Action := do
  let (m, b) ← Act.get
  match m.state with
  | .initial => do
    Act.modify fun (m, b) => (m, { b with writeBuffer := [.query m.query] })
    setState .waitingResponse
    return .writeAndReadMessage
  | state =>
    if b.typeByte.isAsync then
      Act.lift (handleAsyncMessage ⟨b.typeByte, b.readBuffer⟩)
    else if b.typeByte = .errorResponse then do
      let error ← Act.lift (ErrorResponse.parse b.readBuffer)
      Act.modify fun (m, b) => ({ m with pendingError := some error, state := .waitingReady }, b)
      return .readMessage
    else handleState state

instance : StateMachine SimpleQueryStateMachine where
  step := step
  transactionStatus := (·.transactionStatus)

/-- The first step writes the query. -/
theorem step_new (handler : Handler) (query : String) (b : BufferSet) :
    StateMachine.step (new handler query, b) = (.ok .writeAndReadMessage,
      ({ new handler query with state := .waitingResponse },
        { b with writeBuffer := [.query query] })) := rfl

end SimpleQueryStateMachine

end ZeroPostgres
