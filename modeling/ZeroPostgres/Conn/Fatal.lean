import ZeroPostgres.Conn.Chunks
import ZeroPostgres.Conn.Commit
import ZeroPostgres.Server.Closing

/-!
# Fatal errors

A server that sends a fatal error closes the connection behind it and sends no ReadyForQuery. The
query machines and the batch machine keep an error until ReadyForQuery, so the loop around them
reads on into the end of the file, and it is this that the operation reports: the error that the
machine holds is lost with the machine.
-/

namespace ZeroPostgres

variable {P : Peer} {K S : Type} {α : Type}

/-- The machine asks for another message behind each of these. -/
def readsOn (step : Step S Action) : List RawMessage → S × BufferSet → Bool
  | [], _ => true
  | x :: ms, (m, b) =>
    match step (m, b.load x) with
    | (.ok action, r) => action.reads && readsOn step ms r
    | _ => false

/-- A machine that has started asks for another message behind an error. -/
structure KeepsErrors (step : Step S Action) (Started : S → Prop) : Prop where
  started : ∀ m b, Started m → Started (step (m, b)).2.1
  error : ∀ {m b e x}, Started m → IsError e x → (step (m, BufferSet.load b x)).1 = .ok .readMessage

theorem ExtendedQueryStateMachine.keepsErrors :
    KeepsErrors (StateMachine.step (S := ExtendedQueryStateMachine)) HandlerMachine.Started where
  started := (LawfulStateMachine.endsAtReady ExtendedQueryStateMachine).step_started
  error hm hx := congrArg Prod.fst (step_error hm hx)

theorem SimpleQueryStateMachine.keepsErrors :
    KeepsErrors (StateMachine.step (S := SimpleQueryStateMachine)) HandlerMachine.Started where
  started := (LawfulStateMachine.endsAtReady SimpleQueryStateMachine).step_started
  error hm hx := congrArg Prod.fst (step_error hm hx)

theorem BatchStateMachine.keepsErrors :
    KeepsErrors BatchStateMachine.step BatchStateMachine.Started where
  started := BatchStateMachine.endsAtReady.step_started
  error hm hx := congrArg Prod.fst (step_error hm hx)

/-- A machine that reads on up to an error reads on behind it. -/
theorem KeepsErrors.readsOn {step : Step S Action} {Started : S → Prop}
    (h : KeepsErrors step Started) {pre : List RawMessage} {m : S} {b : BufferSet}
    {e : ServerError} {x : RawMessage} (hm : Started m) (hx : IsError e x)
    (hpre : ZeroPostgres.readsOn step pre (m, b) = true) :
    ZeroPostgres.readsOn step (pre ++ [x]) (m, b) = true := by
  induction pre generalizing m b with
  | nil =>
    have herror := h.error (b := b) hm hx
    simp only [List.nil_append, ZeroPostgres.readsOn]
    generalize step (m, b.load x) = r at herror
    obtain ⟨o, r⟩ := r
    cases herror
    rfl
  | cons y pre ih =>
    have hstarted := h.started m (b.load y) hm
    simp only [List.cons_append, ZeroPostgres.readsOn] at hpre ⊢
    generalize step (m, b.load y) = r at hstarted hpre ⊢
    obtain ⟨o, m', b'⟩ := r
    cases o with
    | ok action =>
      simp only [Bool.and_eq_true] at hpre ⊢
      exact ⟨hpre.1, ih hstarted hpre.2⟩
    | err e => cases hpre
    | halt => cases hpre

namespace Conn

/-- What a reader of a closed connection gets when nothing is left. -/
def endOfFile : Error := .io "unexpected end of file"

/-- What a computation is followed by does not change that it fails. -/
theorem bind_endOfFile {β : Type} {x : Act Error (Conn P K) α} {c : Conn P K}
    (h : (x c).1 = .err endOfFile) (f : α → Act Error (Conn P K) β) :
    ((x >>= f) c).1 = .err endOfFile := by
  rw [Act.bind_run]
  generalize x c = r at h ⊢
  obtain ⟨o, c'⟩ := r
  cases h
  rfl

/-- A loop whose machine reads on through all that waits comes to the end of the file. The induction
is on the messages. -/
theorem readMessages_endOfFile {step : Step S Action}
    {body : S → RawMessage → Act Error (Conn P K) (Flow S S)} (hbody : Obeys step body) {m : S}
    {c : Conn P K} (hcut : c.stream.cut = none) (hclosed : c.session.mode = .closed)
    (hreads : readsOn step c.stream.inbound (m, c.bufferSet) = true) :
    (readMessages body m c).1 = .err endOfFile := by
  suffices h : ∀ ms (m : S) (c : Conn P K), c.stream.cut = none → c.session.mode = .closed →
      readsOn step ms (m, c.bufferSet) = true →
      (readLoop receive starve body ms m c).1 = .err endOfFile from h _ m c hcut hclosed hreads
  intro ms
  induction ms with
  | nil =>
    intro m c hcut hclosed _
    have hawait : awaitPoint c = (.ok (), c) := by simp [awaitPoint, hcut]
    have hrun : (starve c : Outcome Error S × Conn P K) = _ := Act.bind_run c awaitPoint _
    rw [hawait] at hrun
    have hstarve : (starve c : Outcome Error S × Conn P K) = (.err endOfFile, c) :=
      hrun.trans (if_pos hclosed)
    rw [readLoop_nil, hstarve]
  | cons x ms ih =>
    intro m c hcut hclosed hreads
    have hreceive : receive x c = (.ok (), c.take x) := by
      simp [receive, awaitPoint, hcut, Act.bind_run]
    rw [readLoop_cons, Act.bind_run, hreceive]
    change ((body m x >>= resume receive starve body ms) (c.take x)).1 = _
    simp only [readsOn] at hreads
    rcases hstep : step (m, c.bufferSet.load x) with ⟨action | e | _, m', b'⟩
    · rw [hstep] at hreads
      obtain ⟨haction, hreads⟩ := Bool.and_eq_true_iff.mp hreads
      have hstep' : step (m, (c.take x).bufferSet) = (.ok action, (m', b')) := hstep
      obtain ⟨c', hround, hstream, hbuf⟩ := hbody.next (x := x) hstep' haction
      rw [Act.bind_run, hround]
      refine ih m' c' ?_ ?_ ?_
      · rw [hstream]
        exact hcut
      · rw [session, hstream]
        exact hclosed
      · rw [hbuf]
        exact hreads
    · rw [hstep] at hreads
      cases hreads
    · rw [hstep] at hreads
      cases hreads

/-- The exchange of a machine is cut short: where the machine still asks for more, the server sends
a fatal error and closes the connection. -/
structure CutShort [Driver K] (step : Step S Action) (m : S) (c : Conn P K) (e : ServerError) :
    Prop where
  uncut : c.stream.cut = none
  ready : c.exchangeReady = true
  fatal : e.isFatal = true
  closed : (P.session
    (P.feed c.stream.peer (step (m, c.bufferSet)).2.2.writeBuffer).2).mode = .closed
  error : ∃ pre x,
    c.stream.inbound ++ c.reply (step (m, c.bufferSet)).2.2.writeBuffer = pre ++ [x] ∧
    IsError e x ∧ readsOn step pre (step (m, c.bufferSet)).2 = true

/-- An exchange that is cut short ends in the end of the file. -/
theorem exchangeWith_cutShort [Driver K] {step : Step S Action} {Started : S → Prop}
    {body : S → RawMessage → Act Error (Conn P K) (Flow S S)} (hbody : Obeys step body)
    (hkeeps : KeepsErrors step Started) {m m₁ : S} {c : Conn P K} {b₁ : BufferSet} {e : ServerError}
    (hfirst : step (m, c.bufferSet) = (.ok .writeAndReadMessage, (m₁, b₁))) (hm : Started m₁)
    (h : CutShort step m c e) : (exchangeWith step body m c).1 = .err endOfFile := by
  obtain ⟨hcut, hready, -, hclosed, pre, x, hwaits, hx, hreads⟩ := h
  rw [hfirst] at hclosed hwaits hreads
  rw [exchangeWith_eq hcut hready hfirst]
  refine readMessages_endOfFile hbody (by simp [hcut]) ?_ ?_
  · rw [session, Stream.session, Stream.sendAll_peer]
    exact hclosed
  · rw [show (c.stream.sendAll b₁.writeBuffer).inbound = pre ++ [x] from
      (Stream.sendAll_inbound ..).trans hwaits]
    exact hkeeps.readsOn hm hx hreads

section Operations

variable [Driver K]

theorem drive_query_cutShort {sql : String} {handler : Handler} {c : Conn P K} {e : ServerError}
    (h : CutShort StateMachine.step (SimpleQueryStateMachine.new handler sql) c e) :
    (drive (SimpleQueryStateMachine.new handler sql) c).1 = .err endOfFile :=
  exchangeWith_cutShort driveRound_obeys SimpleQueryStateMachine.keepsErrors
    (SimpleQueryStateMachine.step_new handler sql c.bufferSet) (by simp [HandlerMachine.Started]) h

theorem drive_extended_cutShort {m : ExtendedQueryStateMachine} (hm : m.state = .initial)
    {c : Conn P K} {e : ServerError} (h : CutShort StateMachine.step m c e) :
    (drive m c).1 = .err endOfFile := by
  have hfirst : StateMachine.step (m, c.bufferSet) = (.ok .writeAndReadMessage,
      ({ m with state := ExtendedQueryStateMachine.firstState m.operation }, c.bufferSet)) := by
    cases m
    cases hm
    rfl
  have hstarted : HandlerMachine.Started
      { m with state := ExtendedQueryStateMachine.firstState m.operation } := by
    cases hop : m.operation <;>
      simp [HandlerMachine.Started, ExtendedQueryStateMachine.firstState]
  exact exchangeWith_cutShort driveRound_obeys ExtendedQueryStateMachine.keepsErrors hfirst
    hstarted h

theorem driveBatch_cutShort {statement : StatementRef} {c : Conn P K} {e : ServerError}
    (h : CutShort BatchStateMachine.step (chunkMachine statement) c e) :
    (driveBatch (chunkMachine statement) c).1 = .err endOfFile :=
  exchangeWith_cutShort driveBatchRound_obeys BatchStateMachine.keepsErrors
    (SyncedRequest.step_chunk statement c.bufferSet)
    (by cases statement <;> simp [BatchStateMachine.Started, SyncedRequest.chunkStarted]) h

end Operations

end Conn

/-! ### Operations -/

/-- The operations that one of the machines drives. -/
inductive DrivenOperation where
  | query (sql : String) (handler : Handler)
  | prepareTyped (sql : String) (paramOids : List Oid)
  | exec (statement : StatementRef) (params : Params) (handler : Handler)
  | closeStatement (stmt : PreparedStatement)
  | execBatchChunked (statement : StatementRef) (paramsList : List Params) (chunkSize : Nat)

namespace DrivenOperation

variable [Conn.Client K]

/-- The operation; what it returns does not matter here. -/
def run : DrivenOperation → Act Error (Conn P K) Unit
  | .query sql handler => do let _ ← Conn.query sql handler; return ()
  | .prepareTyped sql paramOids => do let _ ← Conn.prepareTyped sql paramOids; return ()
  | .exec statement params handler => do let _ ← Conn.exec statement params handler; return ()
  | .closeStatement stmt => Conn.closeStatement stmt
  | .execBatchChunked statement paramsList chunkSize =>
    Conn.execBatchChunked statement paramsList chunkSize

/-- The exchange of the operation is cut short, for a batch that of one of its chunks. -/
def CutShort (c : Conn P K) (e : ServerError) : DrivenOperation → Prop
  | .query sql handler =>
    Conn.CutShort StateMachine.step (SimpleQueryStateMachine.new handler sql) c e
  | .prepareTyped sql paramOids =>
    let c := { c with nameCounter := c.nameCounter + 1 }
    let r := ExtendedQueryStateMachine.prepare DropHandler c.bufferSet c.nameCounter sql paramOids
    Conn.CutShort StateMachine.step r.1 { c with bufferSet := r.2 } e
  | .exec statement params handler =>
    let r := Conn.startExec handler c.bufferSet statement params
    ∃ m, r.1 = .ok m ∧ Conn.CutShort StateMachine.step m { c with bufferSet := r.2 } e
  | .closeStatement stmt =>
    let r := ExtendedQueryStateMachine.closeStatement DropHandler c.bufferSet stmt.wireName
    Conn.CutShort StateMachine.step r.1 { c with bufferSet := r.2 } e
  | .execBatchChunked statement paramsList chunkSize =>
    ∃ first rest done chunk later c', paramsList = first :: rest ∧
      paramsList.toChunks (max chunkSize 1) = done ++ chunk :: later ∧
      let target := Conn.batchTarget statement first
      Conn.execChunks statement target.1 target.2 done c = (.ok (), c') ∧
      let written := Conn.writeChunk (Conn.chunkHead statement target.1) target.2 target.1 chunk
      written.1 = .ok () ∧
      Conn.CutShort BatchStateMachine.step (Conn.chunkMachine statement)
        (c'.withRequest (written.2 ++ [.sync])) e

/-- A machine that was started has made no request yet. -/
theorem startExec_initial {handler : Handler} {b : BufferSet} {statement : StatementRef}
    {params : Params} {m : ExtendedQueryStateMachine}
    (h : (Conn.startExec handler b statement params).1 = .ok m) : m.state = .initial := by
  cases statement with
  | sql text =>
    simp only [Conn.startExec, ExtendedQueryStateMachine.executeSql] at h
    split at h
    · cases h
    · cases h
      rfl
  | prepared stmt =>
    simp only [Conn.startExec, ExtendedQueryStateMachine.execute] at h
    split at h
    · cases h
    · cases h
      rfl

/-- The chunks behind those that went through. -/
theorem execChunks_done {statement : StatementRef} {oids : List Oid} {name : String}
    {done : List (List Params)} (rest : List (List Params)) {c c' : Conn P K}
    (h : Conn.execChunks statement oids name done c = (.ok (), c')) :
    Conn.execChunks statement oids name (done ++ rest) c =
      Conn.execChunks statement oids name rest c' := by
  induction done generalizing c with
  | nil =>
    cases h
    rfl
  | cons chunk done ih =>
    simp only [Conn.execChunks, Act.bind_eq_ok_iff] at h
    obtain ⟨u₁, c₁, h₁, u₂, c₂, h₂, u₃, c₃, h₃, m, c₄, h₄, u₅, c₅, h₅, h⟩ := h
    rw [List.cons_append, Conn.execChunks, Act.bind_run, h₁]
    dsimp only
    rw [Act.bind_run, h₂]
    dsimp only
    rw [Act.bind_run, h₃]
    dsimp only
    rw [Act.bind_run, h₄]
    dsimp only
    rw [Act.bind_run, h₅]
    exact ih h

/-- An error of the breaking kind is returned, and the connection is marked broken. -/
def Breaks (o : Outcome Error α) (c : Conn P K) : Prop :=
  o = .err Conn.endOfFile ∧ c.isBroken = true

theorem markBroken_breaks {x : Act Error (Conn P K) α} {c : Conn P K}
    (h : (x c).1 = .err Conn.endOfFile) :
    Breaks (Conn.markBroken x c).1 (Conn.markBroken x c).2 := by
  unfold Conn.markBroken
  generalize x c = r at h ⊢
  obtain ⟨o, c'⟩ := r
  cases h
  exact ⟨rfl, Conn.Client.isBroken_marked _⟩

theorem guarded_breaks {x : Act Error (Conn P K) α} {c : Conn P K}
    (husable : (Driver.refuses K && c.isBroken) = false) (h : (x c).1 = .err Conn.endOfFile) :
    Breaks (Conn.guarded x c).1 (Conn.guarded x c).2 := by
  rw [Conn.guarded_eq, if_neg (by simp [husable])]
  exact markBroken_breaks h

theorem Breaks.bind {β : Type} {x : Act Error (Conn P K) α} {c : Conn P K}
    (h : Breaks (x c).1 (x c).2) (f : α → Act Error (Conn P K) β) :
    Breaks ((x >>= f) c).1 ((x >>= f) c).2 := by
  rw [Act.bind_run]
  generalize x c = r at h ⊢
  obtain ⟨o, c'⟩ := r
  obtain ⟨rfl, h⟩ := h
  exact ⟨rfl, h⟩

/-- Preparing a statement sends a new machine's request. -/
theorem prepareInner_endOfFile {idx : Nat} {sql : String} {paramOids : List Oid} {c : Conn P K}
    {e : ServerError}
    (h : let r := ExtendedQueryStateMachine.prepare DropHandler c.bufferSet idx sql paramOids
      Conn.CutShort StateMachine.step r.1 { c with bufferSet := r.2 } e) :
    (Conn.prepareInner idx sql paramOids c).1 = .err Conn.endOfFile :=
  Conn.bind_endOfFile (Conn.drive_extended_cutShort rfl h) _

/-- The chunk that is cut short is the last one. -/
theorem execChunks_endOfFile {statement : StatementRef} {oids : List Oid} {name : String}
    {chunk : List Params} {later : List (List Params)} {c : Conn P K} {e : ServerError}
    (hwritten : (Conn.writeChunk (Conn.chunkHead statement oids) name oids chunk).1 = .ok ())
    (h : Conn.CutShort BatchStateMachine.step (Conn.chunkMachine statement) (c.withRequest
      ((Conn.writeChunk (Conn.chunkHead statement oids) name oids chunk).2 ++ [.sync])) e) :
    (Conn.execChunks statement oids name (chunk :: later) c).1 = .err Conn.endOfFile := by
  rw [Conn.execChunks]
  generalize Conn.writeChunk (Conn.chunkHead statement oids) name oids chunk = written
    at hwritten h
  obtain ⟨result, buf⟩ := written
  obtain rfl : result = .ok () := hwritten
  exact Conn.bind_endOfFile (Conn.driveBatch_cutShort h) _

/-- No driven operation returns the fatal error that ends its exchange: it returns the end of the
file, and the connection is broken. -/
theorem fatal_hidden (op : DrivenOperation) (c : Conn P K) (e : ServerError)
    (husable : (Driver.refuses K && c.isBroken) = false) (h : op.CutShort c e) :
    (op.run c).1 ≠ .err (.server e) ∧ (op.run c).1 = .err Conn.endOfFile ∧
      (op.run c).2.isBroken = true := by
  suffices hbreaks : Breaks (op.run c).1 (op.run c).2 by
    refine ⟨?_, hbreaks⟩
    rw [hbreaks.1]
    simp [Conn.endOfFile]
  cases op with
  | query sql handler =>
    have hinner : (Conn.queryInner sql handler c).1 = .err Conn.endOfFile :=
      Conn.bind_endOfFile (Conn.drive_query_cutShort h) _
    exact (guarded_breaks husable hinner).bind _
  | prepareTyped sql paramOids =>
    have hrun : (Conn.prepareTyped sql paramOids : Act Error (Conn P K) _) c =
        Conn.markBroken (Conn.prepareInner (c.nameCounter + 1) sql paramOids)
          { c with nameCounter := c.nameCounter + 1 } := by
      have hensure : Conn.ensureUsable c = (.ok (), c) := by
        simp [Conn.ensureUsable, husable]
      rw [Conn.prepareTyped, Act.bind_run, hensure]
      rfl
    have hprepare : Breaks (Conn.prepareTyped sql paramOids c).1
        (Conn.prepareTyped sql paramOids c).2 := by
      rw [hrun]
      exact markBroken_breaks (prepareInner_endOfFile h)
    exact hprepare.bind _
  | exec statement params handler =>
    obtain ⟨m, hm, h⟩ := h
    have hinner : (Conn.execInner statement params handler c).1 = .err Conn.endOfFile := by
      change ((Act.ofExcept (Conn.startExec handler c.bufferSet statement params).1 >>= fun m =>
        Conn.drive m >>= fun m => pure m.calls) _).1 = _
      rw [hm]
      exact Conn.bind_endOfFile (Conn.drive_extended_cutShort (startExec_initial hm) h) _
    exact (guarded_breaks husable hinner).bind _
  | closeStatement stmt =>
    have hinner : (Conn.closeStatementInner stmt.wireName c).1 = .err Conn.endOfFile :=
      Conn.bind_endOfFile (Conn.drive_extended_cutShort rfl h) _
    exact guarded_breaks husable hinner
  | execBatchChunked statement paramsList chunkSize =>
    obtain ⟨first, rest, done, chunk, later, c', rfl, hchunks, hdone, hwritten, h⟩ := h
    refine guarded_breaks husable ?_
    have hinner : Conn.execBatchInner statement (first :: rest) chunkSize c =
        Conn.execChunks statement (Conn.batchTarget statement first).1
          (Conn.batchTarget statement first).2 (chunk :: later) c' := by
      rw [← execChunks_done _ hdone, ← hchunks]
      rfl
    rw [hinner]
    exact execChunks_endOfFile hwritten h

/-- A server that is shut down while it executes a statement, and a connection to it. -/
def shutDown : Peer := SyncedRequest.rejectingFail.closingOn fun _ _ => true

def connectedTo (flags : K) : Conn shutDown K := .fresh (Reference.start, false) flags

/-- The shutdown comes behind the ParseComplete, BindComplete and NoData of the statement. -/
theorem exec_cutShort : (exec (.sql "SELECT") .none DropHandler).CutShort
    (connectedTo (⟨false, false⟩ : TokioFlags)) (Reference.serverError "FATAL") :=
  ⟨_, rfl, rfl, rfl, by decide, by decide +kernel,
    [⟨.parseComplete, []⟩, ⟨.bindComplete, []⟩, Reference.columns false], Reference.fatal,
    by decide +kernel, by decide, by decide +kernel⟩

theorem fatal_hidden_exec :
    ((exec (.sql "SELECT") .none DropHandler).run
      (connectedTo (⟨false, false⟩ : TokioFlags))).2.isBroken = true :=
  (fatal_hidden _ _ _ (by decide +kernel) exec_cutShort).2.2

/-- What the driver returns does not name the fatal error that it has read. -/
theorem exec_hides_fatal :
    ∃ (op : DrivenOperation) (c : Tokio.Conn shutDown) (e : ServerError), op.CutShort c e ∧
      c.isBroken = false ∧ Reference.fatal ∈ (op.run c).2.stream.received ∧
      IsError e Reference.fatal ∧ (op.run c).1 = .err (.io "unexpected end of file") :=
  ⟨_, _, _, exec_cutShort, by decide +kernel, by decide +kernel, by decide, by decide +kernel⟩

end DrivenOperation

end ZeroPostgres
