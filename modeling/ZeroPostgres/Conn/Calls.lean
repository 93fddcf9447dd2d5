import ZeroPostgres.Conn.Align
import ZeroPostgres.Conn.Drained

/-!
# Which calls settle

The public calls of a connection, each from an aligned connection. A call whose request ends with
a Sync settles unless its loop leaves early with an error that does not break the connection: that
of a handler, or in `prepare_batch` that of the server. The calls of the portals send a Flush, and
leave the server skipping messages when it answers with an error.
-/

namespace ZeroPostgres.Conn

open Act

variable {P : Peer} {K : Type}

/-! ### Queries -/

section Queries

variable [Driver K] {c : Conn P K}

/-- The handler refuses none of the calls that the reply to the messages makes, save with an error
that breaks the connection. -/
def Bearable (handler : Handler) (c : Conn P K) (fs : List Frontend) : Prop :=
  Bears handler [] (callbacksOf c.bufferSet.columnBuffer (c.reply fs))

instance (handler : Handler) (c : Conn P K) (fs : List Frontend) :
    Decidable (Bearable handler c fs) := inferInstanceAs (Decidable (Bears _ _ _))

/-- The first error in the reply to the messages, if there is one, breaks the connection. -/
def Sound (c : Conn P K) (fs : List Frontend) : Prop := FirstFatal (c.reply fs)

instance (c : Conn P K) (fs : List Frontend) : Decidable (Sound c fs) :=
  inferInstanceAs (Decidable (FirstFatal _))

omit [Driver K] in
/-- What waits on an aligned connection makes no calls. -/
theorem callbacksOf_waiting (hu : c.unread = []) (columns : Bytes) (ms : List RawMessage) :
    callbacksOf columns (c.stream.inbound ++ ms) = callbacksOf columns ms := by
  rw [← callbacksOf_core, core_append, show core c.stream.inbound = [] from hu, List.nil_append,
    callbacksOf_core]

omit [Driver K] in
/-- What waits on an aligned connection is no error. -/
theorem firstFatal_waiting (hu : c.unread = []) {ms : List RawMessage} (h : FirstFatal ms) :
    FirstFatal (c.stream.inbound ++ ms) := by
  unfold FirstFatal
  rw [← errorsIn_core, core_append, show core c.stream.inbound = [] from hu, List.nil_append,
    errorsIn_core]
  exact h

/-- The exchange of a query machine whose handler bears the reply. -/
theorem drive_settled {S : Type} [StateMachine S] [LawfulStateMachine S] (hP : P.NoCopy)
    {m m₁ : S} {b₁ : BufferSet} {fs : List Frontend} {f : Frontend}
    (hfirst : StateMachine.step (m, c.bufferSet) = (.ok .writeAndReadMessage, (m₁, b₁)))
    (hs : HandlerMachine.Started m₁) (hfs : b₁.writeBuffer = fs ++ [f])
    (hask : ∀ g ∈ fs, g.asksReady = false)
    (hcan : CanTake m₁ b₁.columnBuffer (c.reply b₁.writeBuffer)) (hc : c.Regular)
    (hu : c.unread = []) : Act.Meets (drive m) c Settled := by
  refine synced_settled hP driveRound_still driveRound_rounded hfirst
    (LawfulStateMachine.endsAtReady S) hs hfs hask ?_ hc hu
  refine LawfulStateMachine.run_breaks hs ?_
  unfold CanTake at hcan ⊢
  rwa [callbacksOf_waiting hu]

/-- A simple query. -/
theorem query_settled (hP : P.NoCopy) {sql : String} {handler : Handler}
    (hbear : Bearable handler c [.query sql]) (hc : c.Regular) (hu : c.unread = []) :
    Act.Meets (queryInner sql handler) c Settled := by
  refine settled_bind (drive_settled hP
    (SimpleQueryStateMachine.step_new handler sql c.bufferSet) (by simp [HandlerMachine.Started])
    (List.nil_append [_]).symm (by simp) (.inr ⟨trivial, hbear⟩) hc hu) ?_
    fun _ => keeps_pure _
  intro m c' _ ha
  exact .aligned ha

/-! ### The extended protocol -/

/-- A request of the extended query machine is written whole before its Sync. -/
theorem request_frames {request : ExtendedQueryStateMachine.Request} {handler : Handler}
    {b b₀ : BufferSet} {m₀ : ExtendedQueryStateMachine}
    (hstart : request.start handler b = (.ok m₀, b₀)) :
    b₀.columnBuffer = b.columnBuffer ∧
      ∃ fs, b₀.writeBuffer = fs ++ [.sync] ∧ ∀ g ∈ fs, g.asksReady = false := by
  cases request with
  | prepare idx query oids =>
    cases hstart
    exact ⟨rfl, [_, _], rfl, by simp [Frontend.asksReady]⟩
  | execute name oids params =>
    simp only [ExtendedQueryStateMachine.Request.start, ExtendedQueryStateMachine.execute,
      writeBind] at hstart
    cases henc : params.encode oids with
    | ok values =>
      rw [henc] at hstart
      cases hstart
      exact ⟨rfl, [_, _, _], rfl, by simp [Frontend.asksReady]⟩
    | error e =>
      rw [henc] at hstart
      cases hstart
  | executeSql sql params =>
    simp only [ExtendedQueryStateMachine.Request.start, ExtendedQueryStateMachine.executeSql,
      writeBind] at hstart
    cases henc : params.encode params.naturalOids with
    | ok values =>
      rw [henc] at hstart
      cases hstart
      exact ⟨rfl, [_, _, _, _], rfl, by simp [Frontend.asksReady]⟩
    | error e =>
      rw [henc] at hstart
      cases hstart
  | closeStatement name =>
    cases hstart
    exact ⟨rfl, [_], rfl, by simp [Frontend.asksReady]⟩

/-- The exchange of a request once it is written. -/
theorem driveRequest_settled (hP : P.NoCopy) (request : ExtendedQueryStateMachine.Request)
    {handler : Handler} {b₀ : BufferSet} {m₀ : ExtendedQueryStateMachine}
    (hstart : request.start handler c.bufferSet = (.ok m₀, b₀))
    (hbear : handler.Total ∨ (request.operation = .execute ∨ request.operation = .executeSql) ∧
      Bearable handler c b₀.writeBuffer) (hc : c.Regular) (hu : c.unread = []) :
    Act.Meets (drive m₀) { c with bufferSet := b₀ } Settled := by
  obtain ⟨hcol, fs, hfs, hask⟩ := request_frames hstart
  obtain ⟨m₁, hfirst, hstate, hhandler, hcalls, -, -, hop⟩ :=
    ExtendedQueryStateMachine.step_request hstart
  have hs : m₁.state ≠ .initial := by
    rw [hstate]
    cases m₁.operation <;> simp [ExtendedQueryStateMachine.firstState]
  refine drive_settled (c := { c with bufferSet := b₀ }) hP hfirst hs hfs hask ?_
    ⟨hc.asyncs, hc.mode⟩ hu
  rcases hbear with htotal | ⟨hexec, hbear⟩
  · refine .inl ?_
    intro calls
    have h := htotal calls
    rw [← hhandler] at h
    exact h
  · refine .inr ⟨⟨by rw [hop]; exact hexec, ?_, ?_⟩, ?_⟩
    · rw [hstate, hop]
      rcases hexec with h | h <;> rw [h] <;> simp [ExtendedQueryStateMachine.firstState]
    · rw [hstate, hop]
      rcases hexec with h | h <;> rw [h] <;> simp [ExtendedQueryStateMachine.firstState]
    · unfold Bearable at hbear
      rw [← hhandler, ← hcol] at hbear
      have hnil : HandlerMachine.calls m₁ = [] := hcalls
      rw [hnil]
      exact hbear

/-- `prepare` in all its forms. -/
theorem prepareInner_settled (hP : P.NoCopy) (idx : Nat) (sql : String) (paramOids : List Oid)
    (hc : c.Regular) (hu : c.unread = []) :
    Act.Meets (prepareInner idx sql paramOids) c Settled := by
  refine Act.meets_bind.mpr (Act.meets_get.mpr ?_)
  refine Act.meets_bind.mpr (Act.meets_modify.mpr ?_)
  refine settled_bind (driveRequest_settled hP (.prepare idx sql paramOids) rfl
    (.inl DropHandler_total) hc hu) ?_ ?_
  · intro m c' _ ha
    cases m.preparedStmt with
    | some stmt => exact .aligned ha
    | none => exact .err rfl
  · intro m
    cases m.preparedStmt with
    | some stmt => exact keeps_pure _
    | none => exact keeps_fail _

/-- `close_statement`. -/
theorem closeStatementInner_settled (hP : P.NoCopy) (name : String) (hc : c.Regular)
    (hu : c.unread = []) : Act.Meets (closeStatementInner name) c Settled := by
  refine Act.meets_bind.mpr (Act.meets_get.mpr ?_)
  refine Act.meets_bind.mpr (Act.meets_modify.mpr ?_)
  refine settled_bind (driveRequest_settled hP (.closeStatement name) rfl
    (.inl DropHandler_total) hc hu) ?_ fun _ => keeps_pure _
  intro m c' _ ha
  exact .aligned ha

/-- What `exec` writes, as a request. -/
def execRequest (params : Params) : StatementRef → ExtendedQueryStateMachine.Request
  | .sql text => .executeSql text params
  | .prepared stmt => .execute stmt.wireName stmt.paramOids params

omit [Driver K] in
theorem startExec_eq (handler : Handler) (b : BufferSet) (statement : StatementRef)
    (params : Params) :
    startExec handler b statement params = (execRequest params statement).start handler b := by
  cases statement <;> rfl

/-- `exec` in all its forms. A request that cannot be encoded is not sent. -/
theorem execInner_settled (hP : P.NoCopy) {statement : StatementRef} {params : Params}
    {handler : Handler}
    (hbear : ∀ m b, startExec handler c.bufferSet statement params = (.ok m, b) →
      Bearable handler c b.writeBuffer) (hc : c.Regular) (ha : c.Aligned) :
    Act.Meets (execInner statement params handler) c Settled := by
  refine Act.meets_bind.mpr (Act.meets_get.mpr ?_)
  dsimp only
  rcases hstart : startExec handler c.bufferSet statement params with ⟨e | m, b⟩
  · exact .aligned ha
  · refine Act.meets_bind.mpr (Act.meets_modify.mpr (Act.meets_bind.mpr ?_))
    have hbear := hbear m b hstart
    rw [startExec_eq] at hstart
    refine settled_bind (driveRequest_settled hP _ hstart (.inr ⟨?_, hbear⟩) hc ha.1) ?_
      fun _ => keeps_pure _
    · cases statement with
      | sql text => exact .inr rfl
      | prepared stmt => exact .inl rfl
    · intro m c' _ ha
      exact .aligned ha

/-! ### Batches -/

omit [Driver K] in
theorem numberStatements_asks (idx : Nat) (queries : List String) :
    ∀ g ∈ (BatchPrepareStateMachine.numberStatements idx queries).1, g.asksReady = false := by
  induction queries generalizing idx with
  | nil => simp [BatchPrepareStateMachine.numberStatements]
  | cons query queries ih =>
    intro g hg
    simp only [BatchPrepareStateMachine.numberStatements, List.mem_cons] at hg
    rcases hg with rfl | rfl | hg
    · rfl
    · rfl
    · exact ih _ g hg

/-- `prepare_batch` of statements that the server accepts, or rejects with an error that ends the
session. -/
theorem prepareBatchInner_settled (hP : P.NoCopy) {queries : List String} {startIdx : Nat}
    (hsound : Sound c (BatchPrepareStateMachine.startAt c.bufferSet queries startIdx).2.writeBuffer)
    (hc : c.Regular) (hu : c.unread = []) :
    Act.Meets (prepareBatchInner queries startIdx) c Settled := by
  let b₀ := (BatchPrepareStateMachine.startAt c.bufferSet queries startIdx).2
  let m₀ := (BatchPrepareStateMachine.startAt c.bufferSet queries startIdx).1
  let m₁ : BatchPrepareStateMachine := { m₀ with state := .processing }
  have hs : m₁.Started := by simp [BatchPrepareStateMachine.Started, m₁]
  have hfirst : BatchPrepareStateMachine.step (m₀, b₀) = (.ok .writeAndReadMessage, (m₁, b₀)) := rfl
  refine Act.meets_bind.mpr (Act.meets_get.mpr (Act.meets_bind.mpr (Act.meets_modify.mpr ?_)))
  exact synced_settled (c := { c with bufferSet := b₀ }) hP prepareBatchRound_still
    prepareBatchRound_rounded hfirst BatchPrepareStateMachine.endsAtReady hs rfl
    (numberStatements_asks startIdx queries)
    (BatchPrepareStateMachine.run_breaks hs _ (firstFatal_waiting hu hsound))
    ⟨hc.asyncs, hc.mode⟩ hu

omit [Driver K] in
/-- A chunk is written without its Sync. -/
theorem writeChunk_asks (name : String) (oids : List Oid) (paramSets : List Params)
    {buf : List Frontend} (hbuf : ∀ g ∈ buf, g.asksReady = false) :
    ∀ g ∈ (writeChunk buf name oids paramSets).2, g.asksReady = false := by
  induction paramSets generalizing buf with
  | nil => exact hbuf
  | cons params paramSets ih =>
    simp only [writeChunk, writeBind]
    cases params.encode oids with
    | ok values =>
      refine ih ?_
      intro g hg
      simp only [List.mem_append, List.mem_singleton] at hg
      rcases hg with (hg | rfl) | rfl
      · exact hbuf g hg
      · rfl
      · rfl
    | error e =>
      intro g hg
      rcases List.mem_append.mp hg with hg | hg
      · exact hbuf g hg
      · rw [List.mem_singleton.mp hg]
        rfl

/-- The exchange of a chunk. -/
theorem driveChunk_settled (hP : P.NoCopy) (statement : StatementRef) {fs : List Frontend}
    (hfs : c.bufferSet.writeBuffer = fs ++ [.sync]) (hask : ∀ g ∈ fs, g.asksReady = false)
    (hc : c.Regular) (hu : c.unread = []) :
    Act.Meets (driveBatch (chunkMachine statement)) c Settled := by
  have hs : (SyncedRequest.chunkStarted statement).Started := by
    cases statement <;> simp [SyncedRequest.chunkStarted, BatchStateMachine.Started]
  exact synced_settled hP driveBatchRound_still driveBatchRound_rounded
    (SyncedRequest.step_chunk statement c.bufferSet) BatchStateMachine.endsAtReady hs hfs hask
    (BatchStateMachine.run_breaks hs _ _) hc hu

/-- The chunks of `exec_batch`, one after the other. -/
theorem execChunks_settled (hP : P.NoCopy) (statement : StatementRef) (oids : List Oid)
    (name : String) (chunks : List (List Params)) (hc : c.Regular) (ha : c.Aligned) :
    Act.Meets (execChunks statement oids name chunks) c Settled := by
  induction chunks generalizing c with
  | nil => exact .aligned ha
  | cons chunk chunks ih =>
    have hhead : ∀ g ∈ chunkHead statement oids, g.asksReady = false := by
      cases statement <;> simp [chunkHead, Frontend.asksReady]
    have hask := writeChunk_asks name oids chunk hhead
    refine Act.meets_bind.mpr (Act.meets_modify.mpr ?_)
    generalize writeChunk (chunkHead statement oids) name oids chunk = written at hask ⊢
    obtain ⟨e | u, buf⟩ := written
    · exact .aligned ha
    · let c₁ : Conn P K :=
        { c with bufferSet := { c.bufferSet with writeBuffer := buf ++ [.sync] } }
      have hc₁ : c₁.Regular := ⟨hc.asyncs, hc.mode⟩
      refine Act.meets_bind.mpr (Act.meets_ofExcept_ok.mpr (Act.meets_bind.mpr ?_))
      refine Act.meets_modify.mpr ?_
      change Act.Meets (driveBatch (chunkMachine statement) >>= fun m => do
        setStatus m.transactionStatus
        execChunks statement oids name chunks) c₁ Settled
      refine settled_bind (driveChunk_settled hP statement rfl hask hc₁ ha.1) ?_ fun m => ?_
      · intro m c' hrun ha'
        have hdrive : Keeps Talks (driveBatch (chunkMachine statement) :
            Act Error (Conn P K) BatchStateMachine) := exchangeWith_talks driveBatchRound_still
        have hc' := (Talks.of_run hdrive hrun).regular hP hc₁
        refine Act.meets_bind.mpr (Act.meets_modify.mpr ?_)
        exact ih (c := { c' with transactionStatus := m.transactionStatus })
          ⟨hc'.asyncs, hc'.mode⟩ ha'
      · exact (still_talks (setStatus_still _)).bind fun _ => unheard_talks (execChunks_unheard ..)

/-- `exec_batch` and `exec_batch_chunked`. -/
theorem execBatchInner_settled (hP : P.NoCopy) (statement : StatementRef)
    (paramsList : List Params) (chunkSize : Nat) (hc : c.Regular) (ha : c.Aligned) :
    Act.Meets (execBatchInner statement paramsList chunkSize) c Settled := by
  cases paramsList with
  | nil => exact .aligned ha
  | cons first rest => exact execChunks_settled hP _ _ _ _ hc ha

end Queries

/-! ### Portals -/

section Portals

variable {c : Conn P K}

/-- A bind request that can be written has a Flush behind it. -/
theorem startBind_frames {b b₀ : BufferSet} {portalName : String} {statement : StatementRef}
    {params : Params} {m₀ : BindStateMachine}
    (hstart : startBind b portalName statement params = (.ok m₀, b₀)) :
    m₀.state = .initial ∧ ∃ gs f, b₀.writeBuffer = gs ++ [f, .flush] ∧ f.isExtended = true ∧
      f.executes = false ∧ ∀ g ∈ gs, g.isExtended = true ∧ g.describes = true := by
  cases statement with
  | sql text =>
    simp only [startBind, BindStateMachine.bindSql, writeBind] at hstart
    cases henc : params.encode params.naturalOids with
    | ok values =>
      rw [henc] at hstart
      cases hstart
      exact ⟨rfl, [_], _, rfl, rfl, rfl, by simp [Frontend.isExtended, Frontend.describes]⟩
    | error e =>
      rw [henc] at hstart
      cases hstart
  | prepared stmt =>
    simp only [startBind, BindStateMachine.bindPrepared, writeBind] at hstart
    cases henc : params.encode stmt.paramOids with
    | ok values =>
      rw [henc] at hstart
      cases hstart
      exact ⟨rfl, [], _, rfl, rfl, rfl, by simp⟩
    | error e =>
      rw [henc] at hstart
      cases hstart

/-- A bind machine has its request written in its first step. -/
theorem step_bind_first {m₀ : BindStateMachine} (hinitial : m₀.state = .initial) (b : BufferSet) :
    ∃ m₁ : BindStateMachine, m₁.Started ∧
      BindStateMachine.step (m₀, b) = (.ok .writeAndReadMessage, (m₁, b)) := by
  obtain ⟨state, needsParse⟩ := m₀
  cases hinitial
  refine ⟨⟨if needsParse then .waitingParse else .waitingBind, needsParse⟩, ?_, rfl⟩
  cases needsParse <;> simp [BindStateMachine.Started]

/-- The bind request is written, or it cannot be encoded. -/
theorem writePortalBind_meets {portalName : String} {statement : StatementRef} {params : Params}
    {Q : Outcome Error BindStateMachine → Conn P K → Prop}
    (herr : ∀ e b, startBind c.bufferSet portalName statement params = (.error e, b) →
      Q (.err e) { c with bufferSet := b })
    (hok : ∀ m b, startBind c.bufferSet portalName statement params = (.ok m, b) →
      Q (.ok m) { c with bufferSet := b }) :
    Act.Meets (writePortalBind portalName statement params) c Q := by
  refine Act.meets_bind.mpr (Act.meets_get.mpr ?_)
  dsimp only
  rcases hstart : startBind c.bufferSet portalName statement params with ⟨e | m, b⟩
  · exact herr e b hstart
  · exact hok m b hstart

/-- A bind that the server accepts, or rejects with an error that ends the session. -/
theorem driveBind_settled [Driver K] (hP : P.NoCopy) {portalName : String}
    {statement : StatementRef} {params : Params} {m₀ : BindStateMachine} {b₀ : BufferSet}
    (hstart : startBind c.bufferSet portalName statement params = (.ok m₀, b₀))
    (hsound : Sound c b₀.writeBuffer) (hc : c.Regular) (hu : c.unread = []) :
    Act.Meets (driveBind m₀) { c with bufferSet := b₀ } Settled := by
  obtain ⟨hinitial, gs, f, hfs, hf, -, hgs⟩ := startBind_frames hstart
  obtain ⟨m₁, hs, hfirst⟩ := step_bind_first hinitial b₀
  refine exchangeWith_settled (c := { c with bufferSet := b₀ }) bindRound_still bindRound_rounded
    hfirst (fun _ => isAsync_of_completes) (fun ms v r hrun => ?_)
    (BindStateMachine.run_breaks hs _ (firstFatal_waiting hu hsound)) ?_ hu
  · obtain ⟨before, z, hms, hz⟩ := BindStateMachine.run_last hs hrun
    exact ⟨before, z, hms, by rw [hz]; rfl⟩
  · rw [hfs]
    exact feed_completes hP hc.mode hgs hf

/-- A loop reads the reply to messages that go out before it. -/
theorem send_settled {α β : Type} {body : β → RawMessage → Act Error (Conn P K) (Flow β α)}
    {ends : MsgType → Bool} {Can : β → List RawMessage → Prop} (hruns : Runs ends Can body)
    (hstill : ∀ b m, Keeps Still (body b m)) (hasync : ∀ t, ends t = true → t.isAsync = false)
    {b : β} (hcan : Can b (c.stream.inbound ++ c.reply c.bufferSet.writeBuffer))
    (hends : ∀ before z tail, c.unread ++ core (c.reply c.bufferSet.writeBuffer) =
      before ++ z :: tail → ends z.type = true → tail = [] ∧
        (P.session (P.feed c.stream.peer c.bufferSet.writeBuffer).2).mode = .ready) :
    Act.Meets (send >>= fun _ => readMessages body b) c Settled := by
  refine Act.meets_bind.mpr (send_meets (fun _ => .halt) fun cut _ => ?_)
  refine readMessages_settled hruns hstill hasync ?_ ?_
  · rw [show ({ c with stream := { c.stream.sendAll c.bufferSet.writeBuffer with cut } } :
      Conn P K).stream.inbound = (c.stream.sendAll c.bufferSet.writeBuffer).inbound from rfl,
      Stream.sendAll_inbound]
    exact hcan
  · intro before z tail hcore hz
    have hin : core (c.stream.sendAll c.bufferSet.writeBuffer).inbound = before ++ z :: tail :=
      hcore
    rw [Stream.sendAll_inbound, core_append] at hin
    obtain ⟨htail, hmode⟩ := hends before z tail hin hz
    refine ⟨htail, ?_⟩
    rw [← hmode, ← Stream.sendAll_peer]
    rfl

/-- The messages before the one that ends a fetch: an error, or the last message of its reply. -/
def beforeEnd (ms : List RawMessage) : List RawMessage :=
  ms.takeWhile fun m => decide (m.type ≠ .errorResponse) && !m.type.completes

@[simp] theorem beforeEnd_cons_error {m : RawMessage} (h : m.type = .errorResponse)
    (ms : List RawMessage) : beforeEnd (m :: ms) = [] := by
  simp [beforeEnd, h]

theorem beforeEnd_cons {m : RawMessage} (h : m.type ≠ .errorResponse)
    (hc : m.type.completes = false) (ms : List RawMessage) :
    beforeEnd (m :: ms) = m :: beforeEnd ms := by
  simp [beforeEnd, h, hc]

/-- An asynchronous message does not end a fetch. -/
theorem not_ends_of_isAsync {m : RawMessage} (h : m.isAsync = true) :
    m.type ≠ .errorResponse ∧ m.type.completes = false := by
  unfold RawMessage.isAsync at h
  cases ht : m.type with
  | noticeResponse | notificationResponse | parameterStatus => exact ⟨nofun, rfl⟩
  | _ => rw [ht] at h; cases h

/-- Rows can be fetched: the handler refuses no call before the end, save with an error that breaks
the connection, and when it refuses none then an error of the server breaks the connection. What it
makes of the call at the end does not matter, for nothing is left to be read then. -/
def CanFetch (handler : Handler) (s : ExecuteState) (ms : List RawMessage) : Prop :=
  Bears handler s.calls (callbacksOf s.columnBuffer (beforeEnd ms)) ∧
    (Willing handler s.calls (callbacksOf s.columnBuffer (beforeEnd ms)) → FirstFatal ms)

instance (handler : Handler) (s : ExecuteState) (ms : List RawMessage) :
    Decidable (CanFetch handler s ms) :=
  inferInstanceAs (Decidable (Bears _ _ _ ∧ (Willing _ _ _ → FirstFatal _)))

/-- A message that makes no call. -/
private theorem CanFetch.skip {handler : Handler} {s : ExecuteState} {m : RawMessage}
    {ms : List RawMessage} (h : CanFetch handler s (m :: ms)) (hm : m.type ≠ .errorResponse)
    (hc : m.type.completes = false) (hnone : callbackOf s.columnBuffer m = none) :
    CanFetch handler { s with columnBuffer := columnsAfter s.columnBuffer m } ms := by
  unfold CanFetch FirstFatal at h ⊢
  rw [beforeEnd_cons hm hc, callbacksOf, hnone, errorsIn_cons_ne hm] at h
  exact h

/-- A message that makes a call: the handler accepts it, or refuses it with an error that breaks
the connection. -/
private theorem CanFetch.call {handler : Handler} {s : ExecuteState} {m : RawMessage}
    {ms : List RawMessage} (h : CanFetch handler s (m :: ms)) (hm : m.type ≠ .errorResponse)
    (hc : m.type.completes = false) {cb : Callback}
    (hsome : callbackOf s.columnBuffer m = some cb) :
    match handler.accept (s.calls ++ [cb]) with
    | .ok () => CanFetch handler ⟨columnsAfter s.columnBuffer m, s.calls ++ [cb]⟩ ms
    | .error e => e.isConnectionBroken = true := by
  unfold CanFetch FirstFatal at h ⊢
  rw [beforeEnd_cons hm hc, callbacksOf, hsome, errorsIn_cons_ne hm] at h
  obtain ⟨hbears, hfatal⟩ := h
  simp only [Option.toList_some, List.singleton_append, Bears, Willing] at hbears hfatal
  cases haccept : handler.accept (s.calls ++ [cb]) with
  | ok u =>
    rw [haccept] at hbears hfatal
    exact ⟨hbears, fun hw => hfatal ⟨rfl, hw⟩⟩
  | error e =>
    rw [haccept] at hbears
    exact hbears

/-- A round that calls the handler. -/
theorem callHandler_runs {α : Type} {handler : Handler} {calls : List Callback}
    {cb : Callback} {next : List Callback → Act Error (Conn P K) α} {c : Conn P K}
    {Q : Outcome Error α → Conn P K → Prop}
    (hok : handler.accept (calls ++ [cb]) = .ok () → Act.Meets (next (calls ++ [cb])) c Q)
    (herr : ∀ e, handler.accept (calls ++ [cb]) = .error e → Q (.err e) c) :
    Act.Meets (callHandler handler calls cb >>= next) c Q := by
  refine Act.meets_bind.mpr (Act.meets_bind.mpr ?_)
  simp only [Handler.call]
  cases haccept : handler.accept (calls ++ [cb]) with
  | ok u => exact hok haccept
  | error e => exact herr e haccept

/-- A round that parses its message first. -/
theorem lift_runs {α γ : Type} {o : Parsed α} (ho : Breaks o)
    {next : α → Act Error (Conn P K) γ} {c : Conn P K} {Q : Outcome Error γ → Conn P K → Prop}
    (hok : ∀ a, o = .ok a → Act.Meets (next a) c Q)
    (herr : ∀ e, e.isConnectionBroken = true → Q (.err e) c) (hhalt : Q .halt c) :
    Act.Meets (Act.lift o >>= next) c Q := by
  refine Act.meets_bind.mpr (Act.meets_lift.mpr ?_)
  cases o with
  | ok a => exact hok a rfl
  | err e => exact herr e (ho e rfl)
  | halt => exact hhalt

/-- Fetching rows ends where the reply to the Execute is complete. -/
theorem lowlevelExecuteRound_runs [Driver K] (handler : Handler) : Runs MsgType.completes
    (CanFetch handler) (lowlevelExecuteRound handler :
      ExecuteState → RawMessage →
        Act Error (Conn P K) (Flow ExecuteState (Bool × List Callback))) := by
  intro s m ms c hcan
  unfold lowlevelExecuteRound
  by_cases ha : m.isAsync = true
  · rw [if_pos ha]
    obtain ⟨hnone, hcols⟩ := callbackOf_async ha s.columnBuffer
    obtain ⟨hne, hc⟩ := not_ends_of_isAsync ha
    have h := hcan.skip hne hc hnone
    rw [hcols] at h
    exact h
  rw [if_neg ha]
  split
  · next ht =>
    have hne : m.type ≠ .errorResponse := by rw [ht]; decide
    refine lift_runs (RowDescription.parse_breaks _) (fun cols hcols => ?_) (fun e he => .inl he)
      trivial
    have hcall := hcan.call hne (by rw [ht]; rfl)
      (show _ = some (.resultStart cols) by simp [callbackOf, ht, hcols])
    refine callHandler_runs (fun haccept => ?_) fun e haccept => ?_
    · rw [haccept, columnsAfter, if_pos ht] at hcall
      exact hcall
    · rw [haccept] at hcall
      exact .inl hcall
  · next ht =>
    refine lift_runs (.ok _) (fun _ _ => ?_) (fun e he => .inl he) trivial
    have h := hcan.skip (by rw [ht]; decide) (by rw [ht]; rfl) (by simp [callbackOf, ht])
    rw [columnsAfter, if_neg (by rw [ht]; decide)] at h
    exact h
  · next ht =>
    have hne : m.type ≠ .errorResponse := by rw [ht]; decide
    refine lift_runs (RowDescription.parse_breaks _) (fun cols hcols => ?_) (fun e he => .inl he)
      trivial
    refine lift_runs (DataRow.parse_breaks _) (fun row hrow => ?_) (fun e he => .inl he) trivial
    have hcall := hcan.call hne (by rw [ht]; rfl)
      (show _ = some (.row cols row) by simp [callbackOf, ht, hcols, hrow])
    refine callHandler_runs (fun haccept => ?_) fun e haccept => ?_
    · rw [haccept, columnsAfter, if_neg (by rw [ht]; decide)] at hcall
      exact hcall
    · rw [haccept] at hcall
      exact .inl hcall
  · next ht =>
    have hends : m.type.completes = true := by
      rw [ht]
      rfl
    refine lift_runs (CommandComplete.parse_breaks _) (fun tag htag => ?_) (fun e he => .inl he)
      trivial
    exact callHandler_runs (fun _ => hends) fun e haccept => .inr hends
  · next ht =>
    refine lift_runs (.ok _) (fun _ _ => ?_) (fun e he => .inl he) trivial
    show m.type.completes = true
    rw [ht]
    rfl
  · next ht =>
    refine lift_runs (ErrorResponse.parse_breaks _) (fun e he => ?_) (fun e he => .inl he) trivial
    have herr : m.toError? = some e := by simp [RawMessage.toError?, ht, he]
    have hfatal := hcan.2 (by simp [ht, callbacksOf, Willing])
    exact .inl (hfatal e (by simp [errorsIn, herr]))
  · exact .inl rfl

/-- Closing a portal ends at CloseComplete. -/
theorem lowlevelClosePortalRound_runs [Driver K] : Runs MsgType.completes
    (fun _ ms => FirstFatal ms)
    (lowlevelClosePortalRound : Unit → RawMessage → Act Error (Conn P K) (Flow Unit Unit)) := by
  intro u m ms c hcan
  unfold lowlevelClosePortalRound
  by_cases ha : m.isAsync = true
  · rw [if_pos ha]
    have hne : m.type ≠ .errorResponse := by
      intro ht
      rw [RawMessage.isAsync, ht] at ha
      cases ha
    unfold FirstFatal at hcan
    rwa [errorsIn_cons_ne hne] at hcan
  rw [if_neg ha]
  split
  · next ht =>
    refine lift_runs (.ok _) (fun _ _ => ?_) (fun e he => .inl he) trivial
    show m.type.completes = true
    rw [ht]
    rfl
  · next ht =>
    refine lift_runs (ErrorResponse.parse_breaks _) (fun e he => ?_) (fun e he => .inl he) trivial
    have herr : m.toError? = some e := by simp [RawMessage.toError?, ht, he]
    exact .inl (hcan e (by simp [errorsIn, herr]))
  · exact .inl rfl

/-- A request with a Flush behind it, completed by the last message of its reply. -/
private theorem flushed_settled [Driver K] (hP : P.NoCopy) {α β : Type} (fs : List Frontend)
    (f : Frontend) {body : β → RawMessage → Act Error (Conn P K) (Flow β α)}
    {Can : β → List RawMessage → Prop} (hruns : Runs MsgType.completes Can body)
    (hstill : ∀ b m, Keeps Still (body b m)) {b : β}
    (hcan : Can b (c.stream.inbound ++ c.reply (fs ++ [f, .flush])))
    (hfs : ∀ g ∈ fs, g.isExtended = true ∧ g.describes = true) (hf : f.isExtended = true)
    (hc : c.Regular) (hu : c.unread = []) : Act.Meets (do
      setWriteBuffer (fs ++ [f, .flush])
      beginExchange
      send
      readMessages body b) c Settled := by
  refine Act.meets_bind.mpr (Act.meets_modify.mpr ?_)
  refine Act.meets_bind.mpr (beginExchange_meets (fun _ => .err rfl) fun _ => ?_)
  refine send_settled hruns hstill (fun _ => isAsync_of_completes) hcan ?_
  intro before z tail hcore hz
  have hu' : core c.stream.inbound = [] := hu
  exact feed_completes hP hc.mode hfs hf before z tail
    (by simpa [reply, unread, hu'] using hcore) hz

/-- Fetching rows from a portal. -/
theorem lowlevelExecuteInner_settled [Driver K] (hP : P.NoCopy) {portal : String} {maxRows : Nat}
    {handler : Handler}
    (hcan : CanFetch handler ⟨[], []⟩
      (c.reply [.describePortal portal, .execute portal maxRows, .flush]))
    (hc : c.Regular) (hu : c.unread = []) :
    Act.Meets (lowlevelExecuteInner portal maxRows handler) c Settled := by
  refine flushed_settled hP [.describePortal portal] (.execute portal maxRows)
    (lowlevelExecuteRound_runs handler) (lowlevelExecuteRound_still handler) ?_
    (by simp [Frontend.isExtended, Frontend.describes]) rfl hc hu
  have hbefore (ms : List RawMessage) : beforeEnd (c.stream.inbound ++ ms) =
      c.stream.inbound ++ beforeEnd ms := by
    refine List.takeWhile_append_of_pos fun m hm => ?_
    obtain ⟨hne, hc⟩ := not_ends_of_isAsync (m := m) (by
      simpa using (List.filter_eq_nil_iff.mp hu) m hm)
    simp [hne, hc]
  unfold CanFetch at hcan ⊢
  rw [hbefore, callbacksOf_waiting hu]
  exact ⟨hcan.1, fun hw => firstFatal_waiting hu (hcan.2 hw)⟩

/-- Closing a portal. -/
theorem lowlevelClosePortalInner_settled [Driver K] (hP : P.NoCopy) {portal : String}
    (hsound : Sound c [.closePortal portal, .flush]) (hc : c.Regular) (hu : c.unread = []) :
    Act.Meets (lowlevelClosePortalInner portal) c Settled :=
  flushed_settled hP [] (.closePortal portal) lowlevelClosePortalRound_runs
    lowlevelClosePortalRound_still (firstFatal_waiting hu hsound) (by simp) rfl hc hu

end Portals

end ZeroPostgres.Conn
