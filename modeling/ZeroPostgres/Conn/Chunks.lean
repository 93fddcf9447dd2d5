import ZeroPostgres.Conversion.Types
import ZeroPostgres.Conn.Outcome
import ZeroPostgres.Conn.Sync
import ZeroPostgres.Conn.Tokio
import ZeroPostgres.Lib.Chunks
import ZeroPostgres.Server.Closing

/-!
# The chunks of a batch

What `exec_batch` sends. A chunk is a request of its own: a Parse for raw SQL, a Bind and an
Execute for each parameter set, and a Sync. `execChunks_accepted` is the loop over the chunks that
the server accepts, by induction on them; a chunk that does not encode or that the server rejects
is the last.
-/

namespace ZeroPostgres

open Conn (writeChunk chunkHead chunkMachine)

/-! ### Requests -/

/-- The Bind of a parameter set. -/
def bindOf (oids : List Oid) (name : String) (params : Params) : Frontend :=
  .bind "" name (oids.map preferredFormat) params.paramCount ((params.encode oids).toOption.getD [])

/-- The Bind and the Execute of a parameter set. -/
def setFrames (oids : List Oid) (name : String) (params : Params) : List Frontend :=
  [bindOf oids name params, .execute "" 0]

/-- The request of a chunk. -/
def chunkFrames (statement : StatementRef) (oids : List Oid) (name : String)
    (chunk : List Params) : List Frontend :=
  chunkHead statement oids ++ chunk.flatMap (setFrames oids name) ++ [.sync]

section Requests

variable {oids : List Oid} {name : String} {buf : List Frontend} {params : Params}
  {chunk : List Params}

theorem writeBind_encodes (h : params.encodes oids = true) :
    writeBind buf "" name params oids = (.ok (), buf ++ [bindOf oids name params]) := by
  rw [Params.encodes] at h
  rw [writeBind, bindOf]
  cases hencode : params.encode oids with
  | ok values => rfl
  | error e =>
    rw [hencode] at h
    cases h

/-- A chunk whose sets all encode is written whole. -/
theorem writeChunk_ok (h : ∀ params ∈ chunk, params.encodes oids = true) :
    writeChunk buf name oids chunk = (.ok (), buf ++ chunk.flatMap (setFrames oids name)) := by
  induction chunk generalizing buf with
  | nil => rw [writeChunk, List.flatMap_nil, List.append_nil]
  | cons params chunk ih =>
    obtain ⟨hparams, hchunk⟩ := List.forall_mem_cons.mp h
    rw [writeChunk, writeBind_encodes hparams]
    dsimp only
    rw [ih hchunk, List.flatMap_cons, setFrames]
    simp

/-- The first set that does not encode ends the writing of its chunk. -/
theorem writeChunk_error {front back : List Params} {e : Error}
    (hfront : ∀ params ∈ front, params.encodes oids = true) (h : params.encode oids = .error e) :
    (writeChunk buf name oids (front ++ params :: back)).1 = .error e := by
  induction front generalizing buf with
  | nil => rw [List.nil_append, writeChunk, writeBind, h]
  | cons params' front ih =>
    obtain ⟨hparams, hrest⟩ := List.forall_mem_cons.mp hfront
    rw [List.cons_append, writeChunk, writeBind_encodes hparams]
    exact ih hrest

end Requests

/-! ### The exchange of a chunk -/

namespace SyncedRequest

variable {P : Peer} {statement : StatementRef} {oids : List Oid} {name : String}
  {chunk : List Params}

/-- What a conformant server answers to a chunk that it is through with. -/
theorem chunk_answered {st : P.State} (hready : (P.session st).mode = .ready)
    (hencodes : ∀ params ∈ chunk, params.encodes oids = true)
    (hdone : (P.session (P.feed st (chunkFrames statement oids name chunk)).2).mode = .ready) :
    ∃ error sync status r₁ r₂,
      core (P.feed st (chunkFrames statement oids name chunk)).1 = r₁ ++ r₂ ∧
      ChunkReply statement error r₁ ∧ SyncReply error.isSome sync status r₂ := by
  have hready' : (P.copyFree.session (P.opened st)).mode = .ready := hready
  have hwritten : writeChunk (chunkHead statement oids) name oids chunk =
      (.ok (), chunkHead statement oids ++ chunk.flatMap (setFrames oids name)) :=
    writeChunk_ok hencodes
  have hcopy : (P.session (P.feed st (chunkFrames statement oids name chunk)).2).mode ≠
      .copying := by
    rw [hdone]
    decide
  have hanswers := feed_synced (feed_chunk (copyFree_noCopy P) hready' hwritten)
  have hsame := feed_copyFree hcopy
  unfold Peer.Answers at hanswers
  rw [← chunkFrames, hsame, session_opened] at hanswers
  have hopen : (P.session (P.feed st (chunkFrames statement oids name chunk)).2).mode ≠
      .closed := by
    rw [hdone]
    decide
  obtain ⟨-, error, sync, status, r₁, r₂, hcore, hrep, hsync⟩ := hanswers.resolve_left hopen
  exact ⟨error, sync, status, r₁, r₂, hcore, hrep, hsync⟩

open BatchStateMachine in
/-- The batch machine reads the reply to its chunk to the end, and reports the first error in it. -/
theorem run_answered {error sync : Option ServerError} {status : TransactionStatus}
    {ms r₁ r₂ : List RawMessage} (hcore : core ms = r₁ ++ r₂) (hrep : ChunkReply statement error r₁)
    (hsync : SyncReply error.isSome sync status r₂)
    (hwell : ∀ m ∈ ms, m.isAsync = true → m.wellFormed = true) (b : BufferSet) :
    ∃ m' b' tail, runMachine step ms (chunkStarted statement, b) =
        (.ok ⟨(errorsIn ms).head?, [], tail⟩, (m', b')) ∧ core tail = [] := by
  obtain ⟨m, b₁, hstate, rfl, hrun⟩ := run_chunk hrep b
  obtain ⟨m', b', hend, -⟩ := run_sync (b := b₁) hsync hstate
  have hall : runMachine step (core ms) (chunkStarted statement, b) =
      (.ok ⟨m.pendingError.or sync, [], []⟩, (m', b')) := by
    rw [hcore, hrun, hend]
  have hstarted : (chunkStarted statement).Started := by
    cases statement <;> simp [chunkStarted, Started]
  obtain ⟨body, z, tail, -, htail, -, hskip⟩ :=
    runMachine_core passesAsync hstarted hwell rfl rfl hall
  have hfirst : (errorsIn ms).head? = m.pendingError.or sync := by
    rw [← errorsIn_core, hcore, errorsIn_append, errorsIn_chunk hrep, hsync.errorsIn_eq]
    cases m.pendingError with
    | some e => rfl
    | none => cases sync <;> rfl
  refine ⟨m', b', tail, ?_, htail⟩
  rw [hfirst]
  exact hskip

end SyncedRequest

/-! ### The loop over the chunks -/

namespace BatchStateMachine

/-- The machine hands on no message. -/
theorem step_ne_handsOn (m : BatchStateMachine) (b : BufferSet) (msg : AsyncMessage) :
    (step (m, b)).1 ≠ .ok (.handleAsyncMessageAndReadMessage msg) := by
  by_cases hm : m.Started
  · have h : Act.Meets step (m, b) fun o _ => o ≠ .ok (.handleAsyncMessageAndReadMessage msg) := by
      refine .of_run_eq (step_started hm b) ?_
      split
      · simp
      · split
        · simp only [Act.meets_bind, Act.meets_lift]
          cases ErrorResponse.parse b.readBuffer <;> simp
        · split
          · split
            · simp
            · simp
          · simp only [handleProcessing, Act.meets_bind, Act.meets_get]
            split
            · simp
            · simp
            · simp only [Act.meets_bind, Act.meets_lift]
              cases RowDescription.parse b.readBuffer <;> simp
            · simp
            · simp only [Act.meets_bind, Act.meets_lift]
              cases CommandComplete.parse b.readBuffer <;> simp
            · simp
            · simp only [readReady, Act.meets_bind, Act.meets_lift, Act.meets_get, Act.meets_modify]
              cases ReadyForQuery.parse b.readBuffer with
              | ok =>
                dsimp only
                cases m.pendingError <;> simp
              | err => simp
              | halt => simp
            · simp
          · simp
    exact h.at
  · obtain ⟨state, needsParse, status, pending⟩ := m
    obtain rfl : state = .initial := not_not.mp hm
    simp [step, Act.bind_run]

end BatchStateMachine

namespace Conn

variable {P : Peer} {K : Type} [Driver K]

theorem driveBatchRound_obeys : Obeys BatchStateMachine.step
    (driveBatchRound :
      BatchStateMachine → RawMessage → Act Error (Conn P K) (Flow BatchStateMachine _)) where
  next {m m' x c b action} hstep hr := by
    cases action with
    | readMessage =>
      refine ⟨{ c with bufferSet := b }, ?_, rfl, rfl⟩
      simp [driveBatchRound, stepMachine, Act.bind_run, hstep, Outcome.bind]
    | handleAsyncMessageAndReadMessage msg =>
      exact absurd (congrArg Prod.fst hstep) (BatchStateMachine.step_ne_handsOn m c.bufferSet msg)
    | _ => cases hr
  finished hstep := by
    simp [driveBatchRound, stepMachine, Act.bind_run, hstep, Outcome.bind, finishExchange]
  error hstep := by
    simp [driveBatchRound, stepMachine, Act.bind_run, hstep, Outcome.bind, finishExchange,
      setStatus]
  failed hstep := by simp [driveBatchRound, stepMachine, Act.bind_run, hstep, Outcome.bind]

/-- The messages that have been sent. -/
def sent (c : Conn P K) : List Frontend := c.stream.log.map Prod.fst

/-- The connection is at rest: no future is dropped on it, it takes requests, nothing but
asynchronous messages waits on it, and the server is ready. -/
structure Idle (c : Conn P K) : Prop where
  cut : c.stream.cut = none
  ready : c.exchangeReady = true
  asyncs : ∀ m ∈ c.stream.inbound, m.isAsync = true → m.wellFormed = true
  aligned : c.Aligned

omit [Driver K] in
theorem Talked.sent {fs : List Frontend} {read : List RawMessage} {c c' : Conn P K}
    (h : Talked fs read c c') : c'.sent = c.sent ++ fs := by
  have hexchanges (st : P.State) (fs : List Frontend) :
      (P.exchanges st fs).map Prod.fst = fs := by
    induction fs generalizing st with
    | nil => rfl
    | cons f fs ih => rw [Peer.exchanges, List.map_cons, ih]
  rw [Conn.sent, h.log, List.map_append, hexchanges, Conn.sent]

/-- A client takes the next request when an exchange is through. -/
def Resumes (K : Type) [Driver K] : Prop :=
  ∀ marks : Bool × K, Driver.exchangeReady marks.1 marks.2 = true →
    Driver.exchangeReady (ended (begun marks)).1 (ended (begun marks)).2 = true

variable {statement : StatementRef} {oids : List Oid} {name : String} {chunk : List Params}

/-- What `drive_batch` comes to when the server is through with the chunk. -/
def chunkOutcome (reply : List RawMessage) (m : BatchStateMachine) :
    Outcome Error BatchStateMachine :=
  match (errorsIn reply).head? with
  | none => .ok m
  | some e => .err (.server e)

/-- The chunk goes out, and the first error in the reply, if there is one, is returned. Without one
the connection is at rest again. -/
theorem driveBatch_run {c : Conn P K} (hc : c.Idle)
    (hbuf : c.bufferSet.writeBuffer = chunkFrames statement oids name chunk)
    (hencodes : ∀ params ∈ chunk, params.encodes oids = true)
    (hdone : (P.session (P.feed c.stream.peer (chunkFrames statement oids name chunk)).2).mode =
      .ready) :
    ∃ m c', driveBatch (chunkMachine statement) c =
        (chunkOutcome (c.reply (chunkFrames statement oids name chunk)) m, c') ∧
      (∃ read, Talked (chunkFrames statement oids name chunk) read c c') ∧
      (errorsIn (c.reply (chunkFrames statement oids name chunk)) = [] →
        c'.unread = [] ∧ c'.marks = ended (begun c.marks)) := by
  obtain ⟨error, sync, status, r₁, r₂, hcore, hrep, hsync⟩ :=
    SyncedRequest.chunk_answered hc.aligned.2 hencodes hdone
  generalize hfs : chunkFrames statement oids name chunk = fs at *
  have hwell : ∀ m ∈ c.stream.inbound ++ c.reply fs, m.isAsync = true → m.wellFormed = true := by
    intro m hm
    rcases List.mem_append.mp hm with hm | hm
    · exact hc.asyncs m hm
    · exact P.feed_asyncs _ _ m hm
  have hcore' : core (c.stream.inbound ++ c.reply fs) = r₁ ++ r₂ := by
    rw [core_append, show core c.stream.inbound = [] from hc.aligned.1, List.nil_append]
    exact hcore
  have herrors : errorsIn (c.stream.inbound ++ c.reply fs) = errorsIn (c.reply fs) := by
    rw [← errorsIn_core, hcore', ← errorsIn_core (c.reply fs), reply, hcore]
  obtain ⟨m, b, tail, hrun, htail⟩ :=
    SyncedRequest.run_answered hcore' hrep hsync hwell c.bufferSet
  rw [herrors] at hrun
  have hfirst := SyncedRequest.step_chunk statement c.bufferSet
  have hbuf' : c.stream.inbound ++ c.reply fs =
      c.stream.inbound ++ c.reply c.bufferSet.writeBuffer := by rw [hbuf]
  rw [hbuf'] at hrun
  have hresult := exchangeWith_result driveBatchRound_obeys hc.cut hc.ready hfirst (by simp) hrun
  have hdriven := (exchangeWith_driven (K := K) driveBatchRound_still driveBatchRound_rounded
    hfirst).at
  have hexchange : driveBatch (chunkMachine statement) c =
      exchangeWith BatchStateMachine.step driveBatchRound (chunkMachine statement) c := rfl
  rw [← hexchange] at hresult hdriven
  generalize driveBatch (chunkMachine statement) c = r at hresult hdriven
  obtain ⟨o, c'⟩ := r
  have ho : o = chunkOutcome (c.reply fs) m := by
    refine hresult.trans ?_
    unfold chunkOutcome
    cases (errorsIn (c.reply fs)).head? <;> rfl
  obtain ⟨-, htalked, hdriven⟩ : c.exchangeReady = true ∧ (∃ read, Talked fs read c c') ∧
      Driven BatchStateMachine.step (fun m a _ => a = m)
        (fun m c => c.transactionStatus = m.transactionStatus)
        (c.stream.inbound ++ c.reply c.bufferSet.writeBuffer)
        (SyncedRequest.chunkStarted statement, c.bufferSet) (begun c.marks) o c' := by
    rcases hdriven with hhalt | ⟨hrefused, -⟩ | hdriven
    · dsimp only at hhalt
      rw [ho, chunkOutcome] at hhalt
      cases hhead : (errorsIn (c.reply fs)).head? with
      | none => rw [hhead] at hhalt; cases hhalt
      | some e => rw [hhead] at hhalt; cases hhalt
    · rw [hc.ready] at hrefused
      cases hrefused
    · rw [hbuf] at hdriven
      rw [hbuf]
      exact hdriven
  refine ⟨m, c', by rw [ho], htalked, fun hnone => ?_⟩
  rw [ho, chunkOutcome, hnone] at hdriven
  cases hdriven with
  | stop hv _ hin hmarks _ =>
    obtain ⟨hv, -⟩ := Prod.mk.inj (hv.symm.trans hrun)
    obtain rfl := Outcome.ok.inj hv
    exact ⟨by rw [unread, hin]; exact htail, hmarks⟩

/-- The connection with a request in its write buffer. -/
def withRequest (c : Conn P K) (fs : List Frontend) : Conn P K :=
  { c with bufferSet := { c.bufferSet with writeBuffer := fs } }

/-- A chunk that encodes is in the write buffer when it is driven. -/
theorem execChunks_cons {chunks : List (List Params)} (c : Conn P K)
    (hencodes : ∀ params ∈ chunk, params.encodes oids = true) :
    execChunks statement oids name (chunk :: chunks) c =
      (driveBatch (chunkMachine statement) >>= fun m => do
        setStatus m.transactionStatus
        execChunks statement oids name chunks)
        (c.withRequest (chunkFrames statement oids name chunk)) := by
  rw [execChunks, writeChunk_ok hencodes]
  rfl

/-- A chunk that does not encode is not sent, and neither is one after it. -/
theorem execChunks_unencodable {front back : List Params} {params : Params} {e : Error}
    {chunks : List (List Params)} (c : Conn P K)
    (hfront : ∀ params ∈ front, params.encodes oids = true) (h : params.encode oids = .error e) :
    ∃ c', execChunks statement oids name ((front ++ params :: back) :: chunks) c = (.err e, c') ∧
      c'.stream = c.stream := by
  have herror : (writeChunk (chunkHead statement oids) name oids (front ++ params :: back)).1 =
      .error e := writeChunk_error hfront h
  rw [execChunks]
  generalize writeChunk (chunkHead statement oids) name oids (front ++ params :: back) = written
    at herror
  obtain ⟨result, buf⟩ := written
  obtain rfl : result = .error e := herror
  exact ⟨_, rfl, rfl⟩

/-- A chunk that the server rejects is the last that is sent, and its error is returned. -/
theorem execChunks_rejected {c : Conn P K} (hc : c.Idle) {chunks : List (List Params)}
    (hencodes : ∀ params ∈ chunk, params.encodes oids = true)
    (hdone : (P.session (P.feed c.stream.peer (chunkFrames statement oids name chunk)).2).mode =
      .ready) {e : ServerError} {more : List ServerError}
    (herrors : errorsIn (c.reply (chunkFrames statement oids name chunk)) = e :: more) :
    ∃ c', execChunks statement oids name (chunk :: chunks) c = (.err (.server e), c') ∧
      c'.sent = c.sent ++ chunkFrames statement oids name chunk := by
  rw [execChunks_cons c hencodes, Act.bind_run]
  have hloaded : (c.withRequest (chunkFrames statement oids name chunk)).Idle :=
    ⟨hc.cut, hc.ready, hc.asyncs, hc.aligned⟩
  obtain ⟨m, c', hrun, ⟨read, htalked⟩, -⟩ := driveBatch_run hloaded rfl hencodes hdone
  have hreply : (c.withRequest (chunkFrames statement oids name chunk)).reply
      (chunkFrames statement oids name chunk) =
        c.reply (chunkFrames statement oids name chunk) := rfl
  rw [hreply, chunkOutcome, herrors] at hrun
  rw [hrun]
  exact ⟨c', rfl, htalked.sent⟩

end Conn

/-- The server answers one request after the other without an error, and is ready for the next. -/
def Peer.Accepts (P : Peer) : P.State → List (List Frontend) → Prop
  | _, [] => True
  | st, request :: requests =>
    (errorsIn (P.feed st request).1 = [] ∧ (P.session (P.feed st request).2).mode = .ready) ∧
      P.Accepts (P.feed st request).2 requests

namespace Conn

variable {P : Peer} {K : Type} [Driver K] {statement : StatementRef} {oids : List Oid}
  {name : String}

/-- The chunks that the server accepts go out in order, and the connection is at rest behind them.
The induction is on the chunks. -/
theorem execChunks_accepted (hK : Resumes K) {done : List (List Params)} {c : Conn P K}
    (hc : c.Idle) (hencodes : ∀ chunk ∈ done, ∀ params ∈ chunk, params.encodes oids = true)
    (haccepts : P.Accepts c.stream.peer (done.map (chunkFrames statement oids name)))
    (rest : List (List Params)) :
    ∃ c' : Conn P K, c'.Idle ∧
      c'.sent = c.sent ++ (done.map (chunkFrames statement oids name)).flatten ∧
      c'.stream.peer =
        (P.feed c.stream.peer (done.map (chunkFrames statement oids name)).flatten).2 ∧
      execChunks statement oids name (done ++ rest) c =
        execChunks statement oids name rest c' := by
  induction done generalizing c with
  | nil => exact ⟨c, hc, by simp, rfl, rfl⟩
  | cons chunk done ih =>
    obtain ⟨hchunk, hrest⟩ := List.forall_mem_cons.mp hencodes
    obtain ⟨⟨hnone, hdone⟩, haccepts⟩ := haccepts
    have hloaded : (c.withRequest (chunkFrames statement oids name chunk)).Idle :=
      ⟨hc.cut, hc.ready, hc.asyncs, hc.aligned⟩
    obtain ⟨m, c₁, hrun, ⟨read, htalked⟩, hidle⟩ := driveBatch_run hloaded rfl hchunk hdone
    obtain ⟨hunread, hmarks⟩ := hidle hnone
    have hpeer : c₁.stream.peer =
        (P.feed c.stream.peer (chunkFrames statement oids name chunk)).2 := htalked.peer
    have hready : c₁.exchangeReady = true := by
      have h := hK c.marks hc.ready
      rw [show c.marks = (c.withRequest (chunkFrames statement oids name chunk)).marks from rfl,
        ← hmarks] at h
      exact h
    let c₂ : Conn P K := { c₁ with transactionStatus := m.transactionStatus }
    have hc₂ : c₂.Idle := by
      refine ⟨htalked.cut hc.cut, hready, ?_, hunread, ?_⟩
      · intro x hx
        have hmem := List.mem_append_right read hx
        rw [← htalked.inbound] at hmem
        rcases List.mem_append.mp hmem with hmem | hmem
        · exact hc.asyncs x hmem
        · exact P.feed_asyncs _ _ x hmem
      · show (P.session c₁.stream.peer).mode = .ready
        rw [hpeer]
        exact hdone
    have hsent : c₂.sent = c.sent ++ chunkFrames statement oids name chunk := htalked.sent
    obtain ⟨c', hc', hsent', hpeer', hrun'⟩ := ih hc₂ hrest (by
      show P.Accepts c₁.stream.peer _
      rw [hpeer]
      exact haccepts)
    refine ⟨c', hc', ?_, ?_, ?_⟩
    · rw [hsent', hsent, List.map_cons, List.flatten_cons, List.append_assoc]
    · rw [hpeer', show c₂.stream.peer = _ from hpeer, List.map_cons, List.flatten_cons,
        P.feed_append]
    · rw [List.cons_append, execChunks_cons c hchunk, Act.bind_run, hrun, ← hrun']
      have hreply : errorsIn ((c.withRequest (chunkFrames statement oids name chunk)).reply
          (chunkFrames statement oids name chunk)) = [] := hnone
      rw [chunkOutcome, hreply]
      rfl

/-- How the loop ends at the chunks that are left, what it returns and what it sends of them. -/
inductive Ends (P : Peer) (st : P.State) (statement : StatementRef) (oids : List Oid)
    (name : String) : List (List Params) → Outcome Error Unit → List Frontend → Prop where
  | all : Ends P st statement oids name [] (.ok ()) []
  | unencodable {front params back later e} : (∀ p ∈ front, p.encodes oids = true) →
      params.encode oids = .error e →
      Ends P st statement oids name ((front ++ params :: back) :: later) (.err e) []
  | rejected {chunk later e more} : (∀ p ∈ chunk, p.encodes oids = true) →
      (P.session (P.feed st (chunkFrames statement oids name chunk)).2).mode = .ready →
      errorsIn (P.feed st (chunkFrames statement oids name chunk)).1 = e :: more →
      Ends P st statement oids name (chunk :: later) (.err (.server e))
        (chunkFrames statement oids name chunk)

/-- The loop sends the chunks that the server accepts and ends at the first that it does not. -/
theorem execChunks_ends (hK : Resumes K) {done rest : List (List Params)} {c : Conn P K}
    (hc : c.Idle) (hencodes : ∀ chunk ∈ done, ∀ params ∈ chunk, params.encodes oids = true)
    (haccepts : P.Accepts c.stream.peer (done.map (chunkFrames statement oids name)))
    {o : Outcome Error Unit} {last : List Frontend}
    (hends : Ends P (P.feed c.stream.peer (done.map (chunkFrames statement oids name)).flatten).2
      statement oids name rest o last) :
    ∃ c', execChunks statement oids name (done ++ rest) c = (o, c') ∧
      c'.sent = c.sent ++ (done.map (chunkFrames statement oids name)).flatten ++ last := by
  obtain ⟨c', hc', hsent, hpeer, hrun⟩ := execChunks_accepted hK hc hencodes haccepts rest
  rw [hrun, ← hsent]
  rw [← hpeer] at hends
  cases hends with
  | all => exact ⟨c', rfl, by rw [List.append_nil]⟩
  | unencodable hfront h =>
    obtain ⟨c'', hrun', hstream⟩ := execChunks_unencodable c' hfront h
    exact ⟨c'', hrun', by rw [Conn.sent, hstream, List.append_nil, Conn.sent]⟩
  | rejected hchunk hdone herrors => exact execChunks_rejected hc' hchunk hdone herrors

/-! ### Batches -/

/-- The OIDs that the parameter sets of a batch are encoded for. -/
def batchOids (statement : StatementRef) : List Params → List Oid
  | [] => []
  | first :: _ => (batchTarget statement first).1

/-- The name that a batch binds. -/
def batchName : StatementRef → String
  | .sql _ => ""
  | .prepared stmt => stmt.wireName

/-- The chunks of a batch. -/
def batchChunks (paramsList : List Params) (chunkSize : Nat) : List (List Params) :=
  paramsList.toChunks (max chunkSize 1)

/-- The request of a chunk of a batch. -/
def batchRequest (statement : StatementRef) (paramsList : List Params) :
    List Params → List Frontend :=
  chunkFrames statement (batchOids statement paramsList) (batchName statement)

theorem execBatchInner_eq (statement : StatementRef) (paramsList : List Params)
    (chunkSize : Nat) :
    (execBatchInner statement paramsList chunkSize : Act Error (Conn P K) Unit) =
      execChunks statement (batchOids statement paramsList) (batchName statement)
        (batchChunks paramsList chunkSize) := by
  cases paramsList with
  | nil => rfl
  | cons first rest => cases statement <;> rfl

/-- The messages that bind a parameter set. -/
def isBind : Frontend → Bool
  | .bind .. => true
  | _ => false

/-- The chunks of a batch bind its sets, each once and in their order. -/
theorem binds_requests (statement : StatementRef) (oids : List Oid) (name : String)
    (chunks : List (List Params)) :
    ((chunks.map (chunkFrames statement oids name)).flatten).filter isBind =
      chunks.flatten.map (bindOf oids name) := by
  have hsets (chunk : List Params) :
      (chunk.flatMap (setFrames oids name)).filter isBind = chunk.map (bindOf oids name) := by
    induction chunk with
    | nil => rfl
    | cons params chunk ih =>
      rw [List.flatMap_cons, List.filter_append, ih, List.map_cons]
      rfl
  have hhead : (chunkHead statement oids).filter isBind = [] := by cases statement <;> rfl
  induction chunks with
  | nil => rfl
  | cons chunk chunks ih =>
    rw [List.map_cons, List.flatten_cons, List.filter_append, ih, List.flatten_cons,
      List.map_append, chunkFrames, List.filter_append, List.filter_append, hhead, hsets]
    simp [isBind]

/-- An operation that is not refused returns what it comes to and has sent what it sends. -/
theorem guarded_run {α : Type} {x : Act Error (Conn P K) α} {c c' : Conn P K} {o : Outcome Error α}
    (husable : (Driver.refuses K && c.isBroken) = false) (h : x c = (o, c')) :
    ∃ c'', guarded x c = (o, c'') ∧ c''.sent = c'.sent := by
  rw [guarded_eq, husable, markBroken, h]
  cases o with
  | ok a => exact ⟨c', rfl, rfl⟩
  | err e =>
    by_cases hbreaks : e.isConnectionBroken = true
    · exact ⟨{ c' with broken := true }, by simp [hbreaks], rfl⟩
    · exact ⟨c', by simp [hbreaks], rfl⟩
  | halt => exact ⟨c', rfl, rfl⟩

/-- What a batch sends and returns, for the chunks `done` that the server accepts and those that
are left. -/
theorem execBatchChunked_ends (hK : Resumes K) {c : Conn P K} (hc : c.Idle)
    (husable : (Driver.refuses K && c.isBroken) = false) {paramsList : List Params}
    {chunkSize : Nat} {done rest : List (List Params)} {o : Outcome Error Unit}
    {last : List Frontend} (hchunks : batchChunks paramsList chunkSize = done ++ rest)
    (hencodes : ∀ chunk ∈ done, ∀ params ∈ chunk,
      params.encodes (batchOids statement paramsList) = true)
    (haccepts : P.Accepts c.stream.peer (done.map (batchRequest statement paramsList)))
    (hends : Ends P (P.feed c.stream.peer (done.map (batchRequest statement paramsList)).flatten).2
      statement (batchOids statement paramsList) (batchName statement) rest o last) :
    ∃ c', execBatchChunked statement paramsList chunkSize c = (o, c') ∧
      c'.sent = c.sent ++ (done.map (batchRequest statement paramsList)).flatten ++ last := by
  obtain ⟨c', hrun, hsent⟩ := execChunks_ends hK hc hencodes haccepts hends
  rw [← hchunks, ← execBatchInner_eq] at hrun
  obtain ⟨c'', hrun', hsent'⟩ := guarded_run husable hrun
  exact ⟨c'', hrun', hsent'.trans hsent⟩

end Conn

theorem Sync.resumes : Conn.Resumes SyncFlags := fun _ _ => rfl

theorem Tokio.resumes : Conn.Resumes TokioFlags := by
  rintro ⟨broken, flags⟩ h
  have hready : (!(broken || flags.exchangeInProgress)) = true := h
  show (!(broken || false)) = true
  cases broken with
  | true => cases hready
  | false => rfl

open Conn

/-- What `exec_batch` sends. The sets are in the chunks in order, each once. Of the chunks `done`
that the server accepts each is sent whole and its sets are bound in order; behind them nothing is
left, or a set does not encode and nothing more is sent, or the server rejects a set and its chunk
is the last that is sent. -/
theorem execBatch_covers {P : Peer} (statement : StatementRef) {paramsList : List Params}
    {chunkSize : Nat} {c : Sync.Conn P} (hc : c.Idle) {done rest : List (List Params)}
    {o : Outcome Error Unit} {last : List Frontend}
    (hchunks : batchChunks paramsList chunkSize = done ++ rest)
    (hencodes : ∀ chunk ∈ done, ∀ params ∈ chunk,
      params.encodes (batchOids statement paramsList) = true)
    (haccepts : P.Accepts c.stream.peer (done.map (batchRequest statement paramsList)))
    (hends : Ends P (P.feed c.stream.peer (done.map (batchRequest statement paramsList)).flatten).2
      statement (batchOids statement paramsList) (batchName statement) rest o last) :
    (batchChunks paramsList chunkSize).flatten = paramsList ∧
    (paramsList ≠ [] → Chunks.Full (max chunkSize 1) (batchChunks paramsList chunkSize)) ∧
    ((done.map (batchRequest statement paramsList)).flatten).filter isBind =
      done.flatten.map (bindOf (batchOids statement paramsList) (batchName statement)) ∧
    ∃ c', execBatchChunked statement paramsList chunkSize c = (o, c') ∧
      c'.sent = c.sent ++ (done.map (batchRequest statement paramsList)).flatten ++ last := by
  have hsize : 0 < max chunkSize 1 := by omega
  refine ⟨Chunks.flatten_toChunks hsize paramsList, Chunks.toChunks_full hsize,
    binds_requests statement _ _ done, ?_⟩
  exact execBatchChunked_ends Sync.resumes hc rfl hchunks hencodes haccepts hends

/-- The asynchronous client sends and returns the same on a connection that it does not refuse. -/
theorem Tokio.execBatch_sends {P : Peer} (statement : StatementRef) {paramsList : List Params}
    {chunkSize : Nat} {c : Tokio.Conn P} (hc : c.Idle) (husable : c.isBroken = false)
    {done rest : List (List Params)} {o : Outcome Error Unit} {last : List Frontend}
    (hchunks : batchChunks paramsList chunkSize = done ++ rest)
    (hencodes : ∀ chunk ∈ done, ∀ params ∈ chunk,
      params.encodes (batchOids statement paramsList) = true)
    (haccepts : P.Accepts c.stream.peer (done.map (batchRequest statement paramsList)))
    (hends : Ends P (P.feed c.stream.peer (done.map (batchRequest statement paramsList)).flatten).2
      statement (batchOids statement paramsList) (batchName statement) rest o last) :
    ∃ c', execBatchChunked statement paramsList chunkSize c = (o, c') ∧
      c'.sent = c.sent ++ (done.map (batchRequest statement paramsList)).flatten ++ last :=
  execBatchChunked_ends Tokio.resumes hc (by rw [husable, Bool.and_false]) hchunks hencodes
    haccepts hends

/-- A server that answers the second Sync with an error. -/
def secondSyncFails : Peer := Reference.peer ⟨fun _ => .command, fun n => n == 1, fun _ => false⟩

/-- A blocking connection to it after the startup exchange. -/
def toSecondSyncFails : Sync.Conn secondSyncFails := Conn.fresh Reference.start ⟨⟩

/-- The parameter set `(n,)` of an INT4. -/
def numbered (n : UInt8) : Params := ⟨[oid.int4], 1, fun _ => .ok (valueBytes (some [0, 0, 0, n]))⟩

theorem execBatch_covers_secondSyncFails :
    (batchChunks ([1, 2, 3, 4, 5].map numbered) 2).flatten = [1, 2, 3, 4, 5].map numbered ∧
    ([1, 2, 3, 4, 5].map numbered ≠ [] →
      Chunks.Full (max 2 1) (batchChunks ([1, 2, 3, 4, 5].map numbered) 2)) ∧
    (([[1, 2].map numbered].map
        (batchRequest (.sql "INSERT") ([1, 2, 3, 4, 5].map numbered))).flatten).filter isBind =
      [[1, 2].map numbered].flatten.map
        (bindOf (batchOids (.sql "INSERT") ([1, 2, 3, 4, 5].map numbered))
          (batchName (.sql "INSERT"))) ∧
    ∃ c', execBatchChunked (.sql "INSERT") ([1, 2, 3, 4, 5].map numbered) 2 toSecondSyncFails =
        (.err (.server (Reference.serverError "ERROR")), c') ∧
      c'.sent = toSecondSyncFails.sent ++ ([[1, 2].map numbered].map
        (batchRequest (.sql "INSERT") ([1, 2, 3, 4, 5].map numbered))).flatten ++
          batchRequest (.sql "INSERT") ([1, 2, 3, 4, 5].map numbered) ([3, 4].map numbered) :=
  execBatch_covers (.sql "INSERT") ⟨rfl, rfl, by simp [toSecondSyncFails, Conn.fresh], rfl, rfl⟩
    (rfl : batchChunks ([1, 2, 3, 4, 5].map numbered) 2 =
      [[1, 2].map numbered] ++ [[3, 4].map numbered, [5].map numbered])
    (by decide) ⟨⟨by decide +kernel, by decide +kernel⟩, trivial⟩
    (.rejected (by decide) (by decide +kernel) (by decide +kernel : _ = [_]))

/-- The parameter set `(u64::MAX,)`, whose natural type INT8 cannot hold it. -/
def tooLarge : Params := ⟨[oid.int8], 1, fun _ => .error (.overflow "u64" "INT8")⟩

/-- A set that does not encode is not sent, whatever the server would say to it. -/
theorem execBatch_unsent :
    ¬ ∀ (P : Peer) (c : Sync.Conn P) (statement : StatementRef) (paramsList : List Params)
        (chunkSize : Nat), c.Idle →
      P.Accepts c.stream.peer
        ((batchChunks paramsList chunkSize).map (batchRequest statement paramsList)) →
      ((execBatchChunked statement paramsList chunkSize c).2).sent = c.sent ++
        ((batchChunks paramsList chunkSize).map (batchRequest statement paramsList)).flatten := by
  intro h
  have hsent := h secondSyncFails toSecondSyncFails (.sql "INSERT") [tooLarge] 1
    ⟨rfl, rfl, by simp [toSecondSyncFails, Conn.fresh], rfl, rfl⟩
    ⟨⟨by decide +kernel, by decide +kernel⟩, trivial⟩
  exact absurd hsent (by decide +kernel)

end ZeroPostgres
