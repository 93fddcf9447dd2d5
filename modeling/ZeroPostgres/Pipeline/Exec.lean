import ZeroPostgres.Conversion.Encode
import ZeroPostgres.Pipeline.Sync
import ZeroPostgres.Pipeline.Tokio
import ZeroPostgres.Server.Reference

/-!
# What queueing an operation does

`exec` counts the operation, writes its messages and queues an expectation, in this order
(`src/src/sync/pipeline/mod.rs:175–220`, `src/src/tokio/pipeline/mod.rs:217–264`). A parameter that
cannot be encoded makes it return in between: `queueExec_run` is its effect in both cases, and
`exec_atomic_iff` says when a call that failed has left the pipeline as it was.
-/

namespace ZeroPostgres

/-- The OIDs the parameters of a statement are encoded for. -/
def StatementRef.targetOids (statement : StatementRef) (params : Params) : List Oid :=
  match statement with
  | .sql _ => params.naturalOids
  | .prepared stmt => stmt.paramOids

namespace Pipeline

variable {P : Peer} {K : Type}

/-- The messages of an operation whose parameters are encoded as `values`. -/
def request (statement : StatementRef) (params : Params) (values : Bytes) : List Frontend :=
  match statement with
  | .sql text =>
    [.parse "" text params.naturalOids,
      .bind "" "" (params.naturalOids.map preferredFormat) params.paramCount values,
      .describePortal "", .execute "" 0]
  | .prepared stmt =>
    [.bind "" stmt.wireName (stmt.paramOids.map preferredFormat) params.paramCount values,
      .execute "" 0]

/-- What is written of an operation before one of its parameters turns out not to encode. -/
def partialRequest (statement : StatementRef) (params : Params) : List Frontend :=
  match statement with
  | .sql text => [.parse "" text params.naturalOids, .bindHead "" ""]
  | .prepared stmt => [.bindHead "" stmt.wireName]

/-- The ticket of the next operation. -/
def nextTicket (statement : StatementRef) (p : Pipeline P K) : Ticket :=
  match statement with
  | .sql _ => ⟨p.queueSeq, none⟩
  | .prepared stmt => ⟨p.queueSeq, some stmt⟩

/-- The expectation of an operation on the statement. -/
def expectationOf : StatementRef → Expectation
  | .sql _ => .parseBindExecute
  | .prepared _ => .bindExecute

/-- Count an operation and add messages to the write buffer. -/
def counted (fs : List Frontend) (p : Pipeline P K) : Pipeline P K :=
  { p with
    queueSeq := p.queueSeq + 1
    conn := { p.conn with bufferSet :=
      { p.conn.bufferSet with writeBuffer := p.conn.bufferSet.writeBuffer ++ fs } } }

/-- Queueing an operation, whether its parameters encode or not. -/
theorem queueExec_run (statement : StatementRef) (params : Params) (p : Pipeline P K) :
    queueExec statement params p =
      match params.encode (statement.targetOids params) with
      | .ok values =>
        (.ok (p.nextTicket statement),
          { p.counted (request statement params values) with
            expectations := p.expectations ++ [expectationOf statement] })
      | .error e => (.err e, p.counted (partialRequest statement params)) := by
  cases statement with
  | sql text =>
    cases h : params.encode params.naturalOids with
    | ok values =>
      simp [queueExec, execSqlInner, writeBind, h, StatementRef.targetOids, Act.bind_run, onConn,
        Conn.setWriteBuffer, appendWrite, pushExpectation, counted, request, nextTicket,
        expectationOf, buffers]
    | error e =>
      simp [queueExec, execSqlInner, writeBind, h, StatementRef.targetOids, Act.bind_run, onConn,
        Conn.setWriteBuffer, counted, partialRequest, buffers]
  | prepared stmt =>
    cases h : params.encode stmt.paramOids with
    | ok values =>
      simp [queueExec, execPreparedInner, writeBind, h, StatementRef.targetOids, Act.bind_run,
        onConn, Conn.setWriteBuffer, appendWrite, pushExpectation, counted, request, nextTicket,
        expectationOf, buffers]
    | error e =>
      simp [queueExec, execPreparedInner, writeBind, h, StatementRef.targetOids, Act.bind_run,
        onConn, Conn.setWriteBuffer, counted, partialRequest, buffers]

/-- The queue and the write buffer are as they were. -/
structure Unchanged (p p' : Pipeline P K) : Prop where
  queueSeq : p'.queueSeq = p.queueSeq
  expectations : p'.expectations = p.expectations
  writeBuffer : p'.buffers.writeBuffer = p.buffers.writeBuffer

theorem not_unchanged_counted (fs : List Frontend) (p : Pipeline P K) :
    ¬ Unchanged p (p.counted fs) := by
  intro h
  exact absurd h.queueSeq (Nat.succ_ne_self p.queueSeq)

/-- A call that returns an error leaves the pipeline as it was. -/
def AtomicAt (exec : Act Error (Pipeline P K) Ticket) (p : Pipeline P K) : Prop :=
  ∀ e p', exec p = (.err e, p') → Unchanged p p'

theorem queueExec_atomicAt_iff (statement : StatementRef) (params : Params) (p : Pipeline P K) :
    AtomicAt (queueExec statement params) p ↔
      params.encodes (statement.targetOids params) = true := by
  have hrun := queueExec_run statement params p
  rw [Params.encodes]
  cases hencode : params.encode (statement.targetOids params) with
  | ok values =>
    rw [hencode] at hrun
    refine iff_of_true ?_ rfl
    intro e p' h
    rw [hrun] at h
    cases h
  | error e =>
    rw [hencode] at hrun
    refine iff_of_false ?_ Bool.false_ne_true
    intro hatomic
    exact not_unchanged_counted _ p (hatomic e _ hrun)

end Pipeline

open ZeroPostgres.Pipeline

/-- A call of `exec` that fails leaves the pipeline as it was exactly when it does not fail in the
encoding of a parameter: when they all encode, or when the asynchronous client refuses the call on a
broken connection before it looks at them. -/
theorem exec_atomic_iff (P : Peer) (statement : StatementRef) (params : Params) :
    (∀ p : Sync.Pipeline P, AtomicAt (Sync.Pipeline.exec statement params) p ↔
      params.encodes (statement.targetOids params) = true) ∧
    ∀ p : Tokio.Pipeline P, AtomicAt (Tokio.Pipeline.exec statement params) p ↔
      p.conn.exchangeReady = false ∨ params.encodes (statement.targetOids params) = true := by
  constructor
  · intro p
    exact queueExec_atomicAt_iff statement params p
  · intro p
    cases hready : p.conn.exchangeReady with
    | true =>
      have hrun : Tokio.Pipeline.exec statement params p = queueExec statement params p := by
        simp [Tokio.Pipeline.exec, Act.bind_run, onConn, Conn.ensureExchangeReady, hready]
      have hatomic := queueExec_atomicAt_iff statement params p
      rw [AtomicAt, ← hrun] at hatomic
      rw [AtomicAt, hatomic]
      simp
    | false =>
      have hrun : Tokio.Pipeline.exec statement params p = (.err .connectionBroken, p) := by
        simp [Tokio.Pipeline.exec, Act.bind_run, onConn, Conn.ensureExchangeReady, hready]
      refine iff_of_true ?_ (.inl rfl)
      intro e p' h
      rw [hrun] at h
      cases h
      exact ⟨rfl, rfl, rfl⟩

/-- `(u64::MAX,)`: one parameter, of natural type INT8, that INT8 cannot hold. -/
def overflowing : Params := ⟨[oid.int8], 1, fun _ => .error (.overflow "u64" "INT8")⟩

example : encodeU64 18446744073709551615 oid.int8 = .err (.overflow "u64" "INT8") := by
  decide +kernel

/-- A new pipeline of the blocking client. -/
def idlePipeline : Sync.Pipeline (Reference.scripted fun _ => .command) :=
  Sync.Pipeline.new (Conn.fresh Reference.start ⟨⟩)

/-- The failed call leaves its number taken, and a Parse and half a Bind in the write buffer. -/
theorem exec_not_atomic :
    ¬ ∀ (P : Peer) (statement : StatementRef) (params : Params) (p : Sync.Pipeline P),
      AtomicAt (Sync.Pipeline.exec statement params) p := by
  intro hatomic
  have hsame := hatomic (Reference.scripted fun _ => .command) (.sql "SELECT $1") overflowing
    idlePipeline (.overflow "u64" "INT8") _ rfl
  exact absurd hsame.queueSeq (by decide)

end ZeroPostgres
