import ZeroPostgres.Lib.Checked
import ZeroPostgres.State.Action

/-!
# Bind, batch and batch-prepare state machines

`BindStateMachine` and `BatchStateMachine`, `src/src/state/extended.rs:476–743`, and
`BatchPrepareStateMachine`, `src/src/state/batch_prepare.rs`. None of the three is a
`StateMachine`: each is driven by a loop of its own, and each skips asynchronous
messages.
-/

namespace ZeroPostgres

/-! ### Bind a portal: Parse? Bind Flush -/

/-- State for bind portal flow, `src/src/state/extended.rs:478–483`. -/
inductive BindState where
  | initial | waitingParse | waitingBind | finished
deriving DecidableEq, Repr

/-- State machine for binding a portal, `src/src/state/extended.rs:488–491`. -/
structure BindStateMachine where
  state : BindState
  needsParse : Bool
deriving DecidableEq, Repr

namespace BindStateMachine

/-- Bind a prepared statement to a portal, `src/src/state/extended.rs:502–523`. -/
def bindPrepared (b : BufferSet) (portalName statementName : String) (paramOids : List Oid)
    (params : Params) : Except Error BindStateMachine × BufferSet :=
  match writeBind [] portalName statementName params paramOids with
  | (.error e, buf) => (.error e, { b with writeBuffer := buf })
  | (.ok (), buf) => (.ok ⟨.initial, false⟩, { b with writeBuffer := buf ++ [.flush] })

/-- Parse raw SQL and bind to a portal, `src/src/state/extended.rs:533–556`. -/
def bindSql (b : BufferSet) (portalName sql : String) (params : Params) :
    Except Error BindStateMachine × BufferSet :=
  let paramOids := params.naturalOids
  match writeBind [.parse "" sql paramOids] portalName "" params paramOids with
  | (.error e, buf) => (.error e, { b with writeBuffer := buf })
  | (.ok (), buf) => (.ok ⟨.initial, true⟩, { b with writeBuffer := buf ++ [.flush] })

/-- `step`, `src/src/state/extended.rs:558–610`. -/
def step : Step BindStateMachine Action := do
  let (m, b) ← Act.get
  match m.state with
  | .initial => do
    Act.modify fun (m, b) =>
      ({ m with state := if m.needsParse then .waitingParse else .waitingBind }, b)
    return .writeAndReadMessage
  | state =>
    if b.typeByte.isAsync then return .readMessage
    else if b.typeByte = .errorResponse then do
      let error ← Act.lift (ErrorResponse.parse b.readBuffer)
      Act.fail (.server error)
    else match state with
      | .waitingParse =>
        match b.typeByte with
        | .parseComplete => do
          Act.lift (ParseComplete.parse b.readBuffer)
          Act.modify fun (m, b) => ({ m with state := .waitingBind }, b)
          return .readMessage
        | t => Act.fail (unexpected "Expected ParseComplete, got " t)
      | .waitingBind =>
        match b.typeByte with
        | .bindComplete => do
          Act.lift (BindComplete.parse b.readBuffer)
          Act.modify fun (m, b) => ({ m with state := .finished }, b)
          return .finished
        | t => Act.fail (unexpected "Expected BindComplete, got " t)
      | _ => Act.fail (.libraryBug "Unexpected state Finished")

end BindStateMachine

/-! ### Batch execution: Parse? (Bind Execute)* Sync -/

/-- State for batch execution flow, `src/src/state/extended.rs:618–623`. -/
inductive BatchState where
  | initial | waitingParse | processing | finished
deriving DecidableEq, Repr

/-- State machine for batch execution, `src/src/state/extended.rs:628–633`. -/
structure BatchStateMachine where
  state : BatchState
  needsParse : Bool
  transactionStatus : TransactionStatus
  pendingError : Option ServerError
deriving DecidableEq, Repr

namespace BatchStateMachine

/-- `new`, `src/src/state/extended.rs:642–649`. -/
def new (needsParse : Bool) : BatchStateMachine := ⟨.initial, needsParse, .idle, none⟩

/-- Read a ReadyForQuery and report a pending error, `src/src/state/extended.rs:721–730`. -/
def readReady (payload : Bytes) : Step BatchStateMachine Action := do
  let status ← Act.lift (ReadyForQuery.parse payload)
  let (m, _) ← Act.get
  Act.modify fun (m, b) =>
    ({ m with transactionStatus := status, state := .finished, pendingError := none }, b)
  match m.pendingError with
  | some e => return .error e
  | none => return .finished

/-- The `Processing` state, `src/src/state/extended.rs:694–736`. -/
def handleProcessing : Step BatchStateMachine Action := do
  let (_, b) ← Act.get
  match b.typeByte with
  | .bindComplete => do
    Act.lift (BindComplete.parse b.readBuffer)
    return .readMessage
  | .noData => do
    Act.lift (NoData.parse b.readBuffer)
    return .readMessage
  | .rowDescription => do
    let _ ← Act.lift (RowDescription.parse b.readBuffer)
    return .readMessage
  | .dataRow => return .readMessage
  | .commandComplete => do
    let _ ← Act.lift (CommandComplete.parse b.readBuffer)
    return .readMessage
  | .emptyQueryResponse => do
    Act.lift (EmptyQueryResponse.parse b.readBuffer)
    return .readMessage
  | .readyForQuery => readReady b.readBuffer
  | t => Act.fail (unexpected "Unexpected message in batch: " t)

/-- `step`, `src/src/state/extended.rs:657–742`. -/
def step : Step BatchStateMachine Action := do
  let (m, b) ← Act.get
  match m.state with
  | .initial => do
    Act.modify fun (m, b) =>
      ({ m with state := if m.needsParse then .waitingParse else .processing }, b)
    return .writeAndReadMessage
  | state =>
    if b.typeByte.isAsync then return .readMessage
    else if b.typeByte = .errorResponse then do
      let error ← Act.lift (ErrorResponse.parse b.readBuffer)
      Act.modify fun (m, b) => ({ m with pendingError := some error, state := .processing }, b)
      return .readMessage
    else match state with
      | .waitingParse =>
        match b.typeByte with
        | .parseComplete => do
          Act.lift (ParseComplete.parse b.readBuffer)
          Act.modify fun (m, b) => ({ m with state := .processing }, b)
          return .readMessage
        | t => Act.fail (unexpected "Expected ParseComplete, got " t)
      | .processing => handleProcessing
      | _ => Act.fail (.libraryBug "Unexpected state Finished")

end BatchStateMachine

/-! ### Batch prepare: (Parse Describe)* Sync -/

/-- State for batch prepare flow, `src/src/state/batch_prepare.rs:18–22`. -/
inductive BatchPrepareState where
  | initial | processing | finished
deriving DecidableEq, Repr

/-- State machine for batch prepare, `src/src/state/batch_prepare.rs:28–35`. -/
structure BatchPrepareStateMachine where
  state : BatchPrepareState
  statements : List PreparedStatement
  currentStmt : Nat
  transactionStatus : TransactionStatus
deriving DecidableEq, Repr

namespace BatchPrepareStateMachine

/-- The requests of the statements from the `i`-th on, and the statements themselves,
`src/src/state/batch_prepare.rs:46–56`. An index past `u64::MAX` is an overflow, which panics (a
build without overflow checks goes on at 0). -/
def writeStatements (startIdx : UInt64) (i : Nat) :
    List String → Parsed (List Frontend × List PreparedStatement)
  | [] => return ([], [])
  | query :: queries => do
    let idx ← Checked.unsigned 8 (startIdx.toNat + i : Nat)
    let stmt : PreparedStatement := ⟨idx, [], none⟩
    let rest ← writeStatements startIdx (i + 1) queries
    return (.parse stmt.wireName query [] :: .describeStatement stmt.wireName :: rest.1,
      stmt :: rest.2)

/-- `new`, `src/src/state/batch_prepare.rs:41–67`. -/
def new (b : BufferSet) (queries : List String) (startIdx : UInt64) :
    Parsed (BatchPrepareStateMachine × BufferSet) := do
  let written ← writeStatements startIdx 0 queries
  return (⟨.initial, written.2, 0, .idle⟩, { b with writeBuffer := written.1 ++ [.sync] })

/-- The statements numbered from `idx` on, where no index overflows. -/
def numberStatements (idx : Nat) : List String → List Frontend × List PreparedStatement
  | [] => ([], [])
  | query :: queries =>
    let stmt : PreparedStatement := ⟨idx, [], none⟩
    let rest := numberStatements (idx + 1) queries
    (.parse stmt.wireName query [] :: .describeStatement stmt.wireName :: rest.1, stmt :: rest.2)

/-- The machine of a batch whose indices do not overflow. A connection counts its statements one by
one from zero, so that its batches are such. -/
def startAt (b : BufferSet) (queries : List String) (startIdx : Nat) :
    BatchPrepareStateMachine × BufferSet :=
  let written := numberStatements startIdx queries
  (⟨.initial, written.2, 0, .idle⟩, { b with writeBuffer := written.1 ++ [.sync] })

theorem writeStatements_eq {startIdx : UInt64} {i : Nat} {queries : List String}
    (h : startIdx.toNat + i + queries.length ≤ 2 ^ 64) :
    writeStatements startIdx i queries = .ok (numberStatements (startIdx.toNat + i) queries) := by
  induction queries generalizing i with
  | nil => rfl
  | cons query queries ih =>
    rw [List.length_cons] at h
    have hidx : startIdx.toNat + i < 256 ^ 8 := by omega
    simp only [writeStatements, Checked.unsigned_ok hidx, Outcome.bind_ok,
      ih (i := i + 1) (by omega)]
    rfl

theorem writeStatements_halt {startIdx : UInt64} {i : Nat} {queries : List String}
    (hi : startIdx.toNat + i ≤ 2 ^ 64) (h : 2 ^ 64 < startIdx.toNat + i + queries.length) :
    writeStatements startIdx i queries = .halt := by
  induction queries generalizing i with
  | nil => exact absurd h (by simpa using hi)
  | cons query queries ih =>
    rw [List.length_cons] at h
    by_cases hidx : startIdx.toNat + i < 2 ^ 64
    · rw [writeStatements, Checked.unsigned_ok (by omega), Outcome.bind_ok,
        ih (i := i + 1) (by omega) (by omega)]
      rfl
    · rw [writeStatements, Checked.unsigned, if_neg (by omega)]
      rfl

theorem new_eq (b : BufferSet) {queries : List String} {startIdx : UInt64}
    (h : startIdx.toNat + queries.length ≤ 2 ^ 64) :
    new b queries startIdx = .ok (startAt b queries startIdx.toNat) := by
  rw [new, writeStatements_eq (by omega), Outcome.bind_ok]
  rfl

/-- The last index of a batch is past `u64::MAX`. -/
theorem new_halt (b : BufferSet) {queries : List String} {startIdx : UInt64}
    (h : 2 ^ 64 < startIdx.toNat + queries.length) : new b queries startIdx = .halt := by
  have hlt := startIdx.toNat_lt
  rw [new, writeStatements_halt (by omega) (by omega)]
  rfl

/-- Change the statement whose replies are being read, if there is one. -/
def updateCurrent (f : PreparedStatement → PreparedStatement) :
    Step BatchPrepareStateMachine Unit :=
  Act.modify fun (m, b) => ({ m with statements := m.statements.modify m.currentStmt f }, b)

/-- The current statement is complete. -/
def nextStatement : Step BatchPrepareStateMachine Unit :=
  Act.modify fun (m, b) => ({ m with currentStmt := m.currentStmt + 1 }, b)

/-- The `Processing` state, `src/src/state/batch_prepare.rs:100–135`. -/
def handleProcessing : Step BatchPrepareStateMachine Action := do
  let (_, b) ← Act.get
  match b.typeByte with
  | .parseComplete => do
    Act.lift (ParseComplete.parse b.readBuffer)
    return .readMessage
  | .parameterDescription => do
    let oids ← Act.lift (ParameterDescription.parse b.readBuffer)
    updateCurrent fun stmt => { stmt with paramOids := oids }
    return .readMessage
  | .rowDescription => do
    updateCurrent fun stmt => { stmt with rowDescPayload := some b.readBuffer }
    nextStatement
    return .readMessage
  | .noData => do
    Act.lift (NoData.parse b.readBuffer)
    nextStatement
    return .readMessage
  | .readyForQuery => do
    let status ← Act.lift (ReadyForQuery.parse b.readBuffer)
    Act.modify fun (m, b) => ({ m with transactionStatus := status, state := .finished }, b)
    return .finished
  | t => Act.fail (unexpected "Unexpected message in batch prepare: " t)

/-- `step`, `src/src/state/batch_prepare.rs:79–142`. -/
def step : Step BatchPrepareStateMachine Action := do
  let (m, b) ← Act.get
  match m.state with
  | .initial => do
    Act.modify fun (m, b) => ({ m with state := .processing }, b)
    return .writeAndReadMessage
  | state =>
    if b.typeByte.isAsync then return .readMessage
    else if b.typeByte = .errorResponse then do
      let error ← Act.lift (ErrorResponse.parse b.readBuffer)
      Act.fail (.server error)
    else match state with
      | .processing => handleProcessing
      | _ => Act.fail (.libraryBug "Unexpected state Finished")

end BatchPrepareStateMachine

end ZeroPostgres
