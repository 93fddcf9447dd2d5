import ZeroPostgres.Conn.Operations
import ZeroPostgres.Server.Reference
import ZeroPostgres.State.BatchRuns

/-!
# Requests that end with a Sync

The machines whose request ends with a Sync: the extended query machine, the batch machine and
the batch-prepare machine. An exchange drains its reply when the machine goes on to
ReadyForQuery and reports the error of the reply there. `run_drains_iff` says when it does.
-/

namespace ZeroPostgres

open Conn (writeChunk chunkHead chunkMachine)
open ExtendedQueryStateMachine (exchange_conforms willing_of_concludes)

/-- A request that ends with a Sync. -/
inductive SyncedRequest where
  | query (request : ExtendedQueryStateMachine.Request)
  | chunk (statement : StatementRef) (paramOids : List Oid) (stmtName : String)
      (paramSets : List Params)
  | prepareBatch (queries : List String) (startIdx : Nat)

namespace SyncedRequest

/-- The request in the write buffer, if its parameters can be encoded. -/
def written (handler : Handler) (b : BufferSet) : SyncedRequest → Except Error Unit × BufferSet
  | .query request =>
    let r := request.start handler b
    (r.1.map fun _ => (), r.2)
  | .chunk statement paramOids stmtName paramSets =>
    let r := writeChunk (chunkHead statement paramOids) stmtName paramOids paramSets
    (r.1, { b with writeBuffer := r.2 ++ [.sync] })
  | .prepareBatch queries startIdx =>
    (.ok (), (BatchPrepareStateMachine.startAt b queries startIdx).2)

/-- The exchange of the request with the machine that drives it. -/
def run (handler : Handler) (b : BufferSet) (ms : List RawMessage) (request : SyncedRequest) :
    Outcome Error Verdict :=
  let b₀ := (request.written handler b).2
  match request with
  | .query request =>
    match (request.start handler b).1 with
    | .ok m => (exchange ExtendedQueryStateMachine.step ms (m, b₀)).1
    | .error e => .err e
  | .chunk statement _ _ _ => (exchange BatchStateMachine.step ms (chunkMachine statement, b₀)).1
  | .prepareBatch queries startIdx =>
    (exchange BatchPrepareStateMachine.step ms
      ((BatchPrepareStateMachine.startAt b queries startIdx).1, b₀)).1

/-- The handler calls of the reply. -/
def callbacks (reply : List RawMessage) : SyncedRequest → List Callback
  | .query request => request.callbacks reply
  | _ => []

/-- The request is one of `prepare_batch`. -/
def isPrepareBatch : SyncedRequest → Bool
  | .prepareBatch .. => true
  | _ => false

/-- The exchange drains its reply: it comes to its end, with the error of the reply, at
ReadyForQuery. -/
def Drains (reply more : List RawMessage) (o : Outcome Error Verdict) : Prop :=
  ∃ handsOn status v, o = .ok v ∧ Concludes handsOn status reply more v

/-! ### Written requests -/

/-- A chunk whose parameters can be encoded is written as one Bind and one Execute for each
parameter set. -/
private theorem writeChunk_frames {name : String} {oids : List Oid} {paramSets : List Params}
    {buf buf' : List Frontend} (h : writeChunk buf name oids paramSets = (.ok (), buf')) :
    ∃ fs, buf' = buf ++ fs ∧ QueueFrames (paramSets.map fun _ => .prepared) fs := by
  induction paramSets generalizing buf with
  | nil =>
    cases h
    exact ⟨[], by simp, .nil⟩
  | cons params paramSets ih =>
    simp only [writeChunk, writeBind] at h
    cases henc : params.encode oids with
    | error e =>
      rw [henc] at h
      cases h
    | ok values =>
      rw [henc] at h
      obtain ⟨fs, rfl, hfs⟩ := ih h
      exact ⟨[.bind "" name (oids.map preferredFormat) params.paramCount values,
        .execute "" 0] ++ fs, by simp, .cons .prepared hfs⟩

private theorem numberStatements_frames (idx : Nat) (queries : List String) :
    ∃ frames : List (String × String × List Oid),
      (BatchPrepareStateMachine.numberStatements idx queries).1 =
        frames.flatMap fun (name, sql, oids) =>
          [.parse name sql oids, .describeStatement name] := by
  induction queries generalizing idx with
  | nil => exact ⟨[], rfl⟩
  | cons query queries ih =>
    obtain ⟨frames, hframes⟩ := ih (idx + 1)
    refine ⟨(PreparedStatement.wireName ⟨idx, [], none⟩, query, []) :: frames, ?_⟩
    simp [BatchPrepareStateMachine.numberStatements, hframes]

/-! ### Chunks -/

/-- The reply to a chunk before its Sync. -/
def ChunkReply : StatementRef → Option ServerError → List RawMessage → Prop
  | .prepared _ => Consists executionTypes
  | .sql _ => fun error r => (∃ e x, error = some e ∧ r = [x] ∧ IsError e x) ∨
      ∃ p r', r = p :: r' ∧ Is .parseComplete p ∧ Consists executionTypes error r'

theorem feed_chunk {P : Peer} (hP : P.NoCopy) {st : P.State} (hm : (P.session st).mode = .ready)
    {statement : StatementRef} {oids : List Oid} {name : String} {paramSets : List Params}
    {buf : List Frontend}
    (h : writeChunk (chunkHead statement oids) name oids paramSets = (.ok (), buf)) :
    P.AnswersWith st buf (ChunkReply statement) := by
  obtain ⟨fs, rfl, hfs⟩ := writeChunk_frames h
  have hk : ∀ kind ∈ paramSets.map fun _ => OpKind.prepared, kind = .prepared := by simp
  cases statement with
  | sql text => exact feed_parsed hm hfs.isExtended fun st hm => feed_executions hP hm hfs hk
  | prepared stmt => exact feed_executions hP hm hfs hk

theorem errorsIn_chunk {statement : StatementRef} {error : Option ServerError}
    {r : List RawMessage} (h : ChunkReply statement error r) : errorsIn r = error.toList := by
  cases statement with
  | prepared stmt => exact h.errors
  | sql text =>
    rcases h with ⟨e, x, rfl, rfl, hx⟩ | ⟨p, r', rfl, hp, hc⟩
    · exact errorsIn_cons_error hx []
    · rw [errorsIn_cons_ne (by simp [hp.1]), hc.errors]

/-- The batch machine of a chunk once the chunk is written. -/
def chunkStarted (statement : StatementRef) : BatchStateMachine :=
  match statement with
  | .sql _ => { BatchStateMachine.new true with state := .waitingParse }
  | .prepared _ => { BatchStateMachine.new false with state := .processing }

/-- The first step has the chunk written. -/
theorem step_chunk (statement : StatementRef) (b : BufferSet) :
    BatchStateMachine.step (chunkMachine statement, b) =
      (.ok .writeAndReadMessage, (chunkStarted statement, b)) := by
  cases statement <;> rfl

open BatchStateMachine in
/-- The batch machine follows the reply to a chunk up to the Sync. -/
theorem run_chunk {statement : StatementRef} {error : Option ServerError} {r : List RawMessage}
    (h : ChunkReply statement error r) (b : BufferSet) :
    ∃ m b', m.state = .processing ∧ m.pendingError = error ∧
      ∀ rest, runMachine step (r ++ rest) (chunkStarted statement, b) =
        runMachine step rest (m, b') := by
  have executions {r : List RawMessage} (hc : Consists executionTypes error r)
      {m : BatchStateMachine} (hs : m.state = .processing) (he : m.pendingError = none)
      (b : BufferSet) : ∃ m' b', m'.state = .processing ∧ m'.pendingError = error ∧
        ∀ rest, runMachine step (r ++ rest) (m, b) = runMachine step rest (m', b') := by
    obtain ⟨b', hrun⟩ := run_executions hc.messages m b hs
    refine ⟨_, b', ?_, ?_, hrun⟩
    · exact hs
    · rw [hc.errors, he]
      cases error <;> rfl
  cases statement with
  | prepared stmt => exact executions h rfl rfl b
  | sql text =>
    rcases h with ⟨e, x, rfl, rfl, hx⟩ | ⟨p, r', rfl, hp, hc⟩
    · have hstep := BatchStateMachine.step_error (m := chunkStarted (.sql text)) (b := b)
        (by simp [Started, chunkStarted]) hx
      exact ⟨_, _, rfl, rfl, fun rest => runMachine_read hstep⟩
    · have hstep : step (chunkStarted (.sql text), b.load p) = (.ok .readMessage,
          ({ chunkStarted (.sql text) with state := .processing }, b.load p)) := by
        rw [BatchStateMachine.step_started (by simp [Started, chunkStarted])]
        simp [hp.1, MsgType.isAsync, chunkStarted, Act.bind_run]
      obtain ⟨m, b', hs, he, hrun⟩ := executions hc
        (m := { chunkStarted (.sql text) with state := .processing }) rfl rfl (b.load p)
      refine ⟨m, b', hs, he, fun rest => ?_⟩
      rw [List.cons_append, runMachine_read hstep, hrun]

/-- The exchange of a chunk drains its reply. -/
theorem chunk_drains {P : Peer} (hP : P.NoCopy) {st : P.State}
    (hready : (P.session st).mode = .ready) {statement : StatementRef} {oids : List Oid}
    {name : String} {paramSets : List Params} {buf : List Frontend}
    (h : writeChunk (chunkHead statement oids) name oids paramSets = (.ok (), buf))
    (hopen : (P.session (P.feed st (buf ++ [.sync])).2).mode ≠ .closed) (b : BufferSet)
    (more : List RawMessage) :
    Drains (P.feed st (buf ++ [.sync])).1 more (exchange BatchStateMachine.step
      ((P.feed st (buf ++ [.sync])).1 ++ more) (chunkMachine statement, b)).1 := by
  have hsynced := feed_synced (feed_chunk hP hready h)
  have hwell := P.feed_asyncs st (buf ++ [.sync])
  unfold Peer.Answers at hsynced
  generalize P.feed st (buf ++ [.sync]) = fed at hopen hwell hsynced ⊢
  obtain ⟨reply, st'⟩ := fed
  obtain ⟨-, error, sync, status, r₁, r₂, hcore, hrep, hsync⟩ := hsynced.resolve_left hopen
  obtain ⟨m, b', hs, rfl, hrun⟩ := run_chunk hrep b
  obtain ⟨m', b₁, hrun', -⟩ := BatchStateMachine.run_sync (b := b') hsync hs
  have hall : runMachine BatchStateMachine.step (core reply) (chunkStarted statement, b) =
      (.ok ⟨m.pendingError.or sync, [], []⟩, (m', b₁)) := by
    rw [hcore, hrun, hrun']
  obtain ⟨r₀, z, rfl, hz⟩ := hsync.ends
  have herrs : (m.pendingError.or sync).toList = errorsIn reply := by
    rw [← errorsIn_core, hcore, errorsIn_append, errorsIn_chunk hrep, hsync.errorsIn_eq]
    cases he : m.pendingError with
    | none => rfl
    | some e => simp [hsync.error_of_skipping (by rw [he]; rfl)]
  obtain ⟨v, hv, hconc⟩ := concludes_of_core BatchStateMachine.passesAsync
    BatchStateMachine.endsAtReady
    (by cases statement <;> simp [chunkStarted, BatchStateMachine.Started])
    hwell hall (by rw [hcore, List.append_assoc]) hz herrs more
  refine ⟨false, status, v, ?_, hconc⟩
  simp only [exchange, Act.bind_run, step_chunk]
  rw [hv]

/-! ### Batches of statements -/

/-- The exchange of `prepare_batch` drains its reply just when there is no error in it. -/
theorem prepareBatch_drains_iff {P : Peer} {st : P.State} (hready : (P.session st).mode = .ready)
    {queries : List String} {startIdx : Nat} {b b₀ : BufferSet} {m₀ : BatchPrepareStateMachine}
    (hstart : BatchPrepareStateMachine.startAt b queries startIdx = (m₀, b₀))
    (hopen : (P.session (P.feed st b₀.writeBuffer).2).mode ≠ .closed) (more : List RawMessage) :
    Drains (P.feed st b₀.writeBuffer).1 more (exchange BatchPrepareStateMachine.step
      ((P.feed st b₀.writeBuffer).1 ++ more) (m₀, b₀)).1 ↔
    errorsIn (P.feed st b₀.writeBuffer).1 = [] := by
  obtain ⟨frames, hframes⟩ := numberStatements_frames startIdx queries
  have hbuf : b₀.writeBuffer = (frames.flatMap fun (name, sql, oids) =>
      [Frontend.parse name sql oids, .describeStatement name]) ++ [.sync] := by
    rw [← hframes]
    cases hstart
    rfl
  have hfirst : BatchPrepareStateMachine.step (m₀, b₀) =
      (.ok .writeAndReadMessage, ({ m₀ with state := .processing }, b₀)) := by
    cases hstart
    rfl
  have hsynced := feed_synced (feed_preparations frames hready)
  have hwell := P.feed_asyncs st b₀.writeBuffer
  unfold Peer.Answers at hsynced
  rw [← hbuf] at hsynced
  generalize P.feed st b₀.writeBuffer = fed at hopen hwell hsynced ⊢
  obtain ⟨reply, st'⟩ := fed
  dsimp only at hopen hwell hsynced ⊢
  obtain ⟨-, error, sync, status, r₁, r₂, hcore, hrep, hsync⟩ := hsynced.resolve_left hopen
  have hstarted : ({ m₀ with state := .processing } : BatchPrepareStateMachine).Started := by
    simp [BatchPrepareStateMachine.Started]
  simp only [exchange, Act.bind_run, hfirst]
  constructor
  · rintro ⟨handsOn, status', v, hv, hconc⟩
    have hnone : v.error = none :=
      BatchPrepareStateMachine.run_error_eq_none hstarted (Prod.ext hv rfl)
    rw [← hconc.error, hnone]
    rfl
  · intro herrs
    have hall : error.toList ++ sync.toList = [] := by
      rw [← hrep.errors, ← hsync.errorsIn_eq, ← errorsIn_append, ← hcore, errorsIn_core, herrs]
    obtain rfl : error = none := by cases error <;> simp at hall ⊢
    obtain rfl : sync = none := by cases sync <;> simp at hall ⊢
    cases hsync with
    | @ready _ _ z hz =>
      obtain ⟨m, b', hs, hrun⟩ := BatchPrepareStateMachine.run_preparations hrep.plain
        { m₀ with state := .processing } b₀ rfl
      have hend := (hrun [z]).trans (BatchPrepareStateMachine.run_ready hs hz)
      rw [← hcore] at hend
      obtain ⟨v, hv, hconc⟩ := concludes_of_core BatchPrepareStateMachine.passesAsync
        BatchPrepareStateMachine.endsAtReady hstarted hwell hend hcore hz (by rw [herrs]; rfl) more
      exact ⟨false, status, v, by rw [hv], hconc⟩

/-! ### Which requests drain their reply -/

/-- A request drains its reply just when the handler refuses none of the calls of the reply and
the request is none of `prepare_batch` with an error in its reply. -/
theorem run_drains_iff {P : Peer} (hP : P.NoCopy) {st : P.State}
    (hready : (P.session st).mode = .ready) {request : SyncedRequest} {handler : Handler}
    {b : BufferSet} (hwritten : (request.written handler b).1 = .ok ())
    (hopen : (P.session (P.feed st (request.written handler b).2.writeBuffer).2).mode ≠ .closed)
    (more : List RawMessage) :
    Drains (P.feed st (request.written handler b).2.writeBuffer).1 more
      (request.run handler b ((P.feed st (request.written handler b).2.writeBuffer).1 ++ more)) ↔
    Willing handler [] (request.callbacks (P.feed st (request.written handler b).2.writeBuffer).1) ∧
      (request.isPrepareBatch = true →
        errorsIn (P.feed st (request.written handler b).2.writeBuffer).1 = []) := by
  cases request with
  | query request =>
    rcases hstart : request.start handler b with ⟨m₀ | e, b₀⟩
    · simp only [written, hstart] at hwritten
      cases hwritten
    · simp only [written, run, callbacks, isPrepareBatch, hstart] at hopen ⊢
      constructor
      · rintro ⟨handsOn, status, v, hv, hconc⟩
        exact ⟨willing_of_concludes hP hready hstart hopen (Prod.ext hv rfl) hconc, by simp⟩
      · rintro ⟨hw, -⟩
        obtain ⟨v, m₁, b₁, status, hv, hconc, -⟩ :=
          exchange_conforms hP hready hstart hopen hw more
        exact ⟨true, status, v, by rw [hv], hconc⟩
  | chunk statement oids name paramSets =>
    obtain ⟨buf, hbuf⟩ : ∃ buf, writeChunk (chunkHead statement oids) name oids paramSets =
        (.ok (), buf) := ⟨_, Prod.ext hwritten rfl⟩
    simp only [written, run, hbuf] at hopen ⊢
    have hdrains := chunk_drains hP hready hbuf hopen { b with writeBuffer := buf ++ [.sync] } more
    exact ⟨fun _ => ⟨trivial, by simp [isPrepareBatch]⟩, fun _ => hdrains⟩
  | prepareBatch queries startIdx =>
    have hiff := prepareBatch_drains_iff hready (b := b) rfl hopen more
    exact ⟨fun h => ⟨trivial, fun _ => hiff.mp h⟩, fun h => hiff.mpr (h.2 rfl)⟩

/-- A server that rejects the statement FAIL, and a batch of statements with FAIL in it. -/
def rejectingFail : Peer :=
  Reference.rejecting (· = "FAIL") ⟨fun _ => .command, fun _ => false, fun _ => false⟩

def failingBatch : SyncedRequest := .prepareBatch ["SELECT", "FAIL", "NEXT"] 1

def failingReply : List RawMessage :=
  (rejectingFail.feed Reference.start (failingBatch.written DropHandler .new).2.writeBuffer).1

theorem run_drains_iff_failingBatch :
    Drains failingReply [] (failingBatch.run DropHandler .new (failingReply ++ [])) ↔
      Willing DropHandler [] (failingBatch.callbacks failingReply) ∧
        (failingBatch.isPrepareBatch = true → errorsIn failingReply = []) :=
  run_drains_iff (P := rejectingFail) (Reference.rejecting_noCopy _ _) (by decide +kernel) rfl
    (by decide +kernel) []

/-- The machine returns the error of FAIL without having asked for the ReadyForQuery behind it. -/
theorem run_undrained :
    failingReply.map (·.type) = [.parseComplete, .parameterDescription, .noData, .errorResponse,
      .readyForQuery] ∧
    failingBatch.run DropHandler .new (failingReply.take 4) =
      .err (.server (Reference.serverError "ERROR")) ∧
    ¬ Drains failingReply [] (failingBatch.run DropHandler .new failingReply) := by
  have herr : failingBatch.run DropHandler .new failingReply =
      .err (.server (Reference.serverError "ERROR")) := by decide +kernel
  refine ⟨by decide +kernel, by decide +kernel, ?_⟩
  rintro ⟨handsOn, status, v, hv, -⟩
  rw [herr] at hv
  cases hv

end SyncedRequest

end ZeroPostgres
