import ZeroPostgres.State.Steps
import ZeroPostgres.Server.Reference
import ZeroPostgres.Server.Requests

/-!
# Conformance of the query machines

What the query machines make of the reply of a conformant server. `run_reading` follows the
extended machine through the reply to an Execute, `run_prepared` through that to a prepare;
`exchange_conforms` is the whole exchange with asynchronous messages anywhere in it.
-/

namespace ZeroPostgres

/-- The OIDs of the ParameterDescription in a reply. -/
def paramOidsIn (ms : List RawMessage) : Option (List Oid) :=
  ms.findSome? fun m =>
    match m.type, ParameterDescription.parse m.payload with
    | .parameterDescription, .ok oids => some oids
    | _, _ => none

/-- The payload of the RowDescription in a reply. -/
def rowDescIn (ms : List RawMessage) : Option Bytes :=
  (ms.find? (·.type = .rowDescription)).map (·.payload)

/-- A statement as the reply to its Parse and Describe describes it. -/
def describedBy (ms : List RawMessage) (stmt : PreparedStatement) : PreparedStatement :=
  { stmt with
    paramOids := (paramOidsIn ms).getD stmt.paramOids
    rowDescPayload := (rowDescIn ms).or stmt.rowDescPayload }

/-! ### Exchanges that conclude -/

/-- What comes of an exchange with reply `reply`, more messages behind it: the machine asked for
the messages through the first ReadyForQuery and for no more, which are all of the reply but
asynchronous ones; it handed on those among them, and reports the error of the reply. -/
structure Concludes (handsOn : Bool) (status : TransactionStatus) (reply more : List RawMessage)
    (v : Verdict) : Prop where
  asks : ∃ body z tail, reply = body ++ z :: tail ∧ IsReady status z ∧
    (∀ x ∈ body, x.type ≠ .readyForQuery) ∧ core tail = [] ∧ v.unasked = tail ++ more ∧
    v.asyncs = handedOn handsOn body
  error : v.error.toList = errorsIn reply

/-- A machine that runs through the synchronous messages of a reply concludes the exchange. -/
theorem concludes_of_core {S : Type} {step : Step S Action} {Started : S → Prop} {handsOn : Bool}
    (hpass : PassesAsync step Started handsOn) (hend : EndsAtReady step Started) {s : S}
    {b : BufferSet} {reply : List RawMessage} (hs : Started s)
    (hwell : ∀ m ∈ reply, m.isAsync = true → m.wellFormed = true)
    {e : Option ServerError} {r : S × BufferSet}
    (hrun : runMachine step (core reply) (s, b) = (.ok ⟨e, [], []⟩, r))
    {status : TransactionStatus} {r₀ : List RawMessage} {z : RawMessage}
    (hcore : core reply = r₀ ++ [z]) (hz : IsReady status z) (he : e.toList = errorsIn reply)
    (more : List RawMessage) :
    ∃ v, runMachine step (reply ++ more) (s, b) = (.ok v, r) ∧
      Concludes handsOn status reply more v := by
  obtain ⟨body, z', tail, hreply, htail, hz', hrun'⟩ :=
    runMachine_core hpass hs hwell rfl rfl hrun
  obtain ⟨body', z'', hreply', -, hbody⟩ := runMachine_ends hend hs hrun'
  obtain ⟨rfl, htails⟩ := List.append_inj' (hreply.symm.trans hreply') rfl
  obtain ⟨rfl, -⟩ := List.cons.inj htails
  have hzz : z' = z := by
    have hc : core body ++ [z'] = r₀ ++ [z] := by
      rw [← hcore, hreply, core_append, core_cons_sync hz', htail]
    simpa using (List.append_inj' hc rfl).2
  refine ⟨_, runMachine_append more hrun', ⟨body, z', tail, hreply, ?_, hbody, htail, rfl, rfl⟩,
    he⟩
  rw [hzz]
  exact hz

/-- Messages that make no calls may stand behind others. -/
theorem callbacksOf_append {c : Bytes} {r r' : List RawMessage}
    (h : ∀ c, callbacksOf c r' = []) : callbacksOf c (r ++ r') = callbacksOf c r := by
  induction r generalizing c with
  | nil => exact h c
  | cons m r ih => simp only [List.cons_append, callbacksOf, ih]

/-- Asynchronous messages make no calls. -/
theorem callbacksOf_core (c : Bytes) (ms : List RawMessage) :
    callbacksOf c (core ms) = callbacksOf c ms := by
  induction ms generalizing c with
  | nil => rfl
  | cons m ms ih =>
    cases hm : m.isAsync with
    | true =>
      obtain ⟨hnone, hcols⟩ := callbackOf_async hm c
      rw [core_cons_async hm, callbacksOf, hnone, hcols, ih]
      rfl
    | false => rw [core_cons_sync hm, callbacksOf, callbacksOf, ih]

namespace ExtendedQueryStateMachine

variable {m : ExtendedQueryStateMachine} {b : BufferSet} {x : RawMessage}

/-- A step on a message other than the asynchronous ones and errors is the state's own. -/
theorem step_plain (hm : m.state ≠ .initial) (ha : x.type.isAsync = false)
    (he : x.type ≠ .errorResponse) : step (m, b.load x) = handleState m.state (m, b.load x) := by
  rw [step_started hm]
  simp [ha, he]

/-- An error makes the machine wait for ReadyForQuery. -/
theorem step_error {e : ServerError} (hm : m.state ≠ .initial) (hx : IsError e x) :
    step (m, b.load x) =
      (.ok .readMessage,
        ({ m with pendingError := some e, state := .waitingReady }, b.load x)) := by
  rw [step_started hm]
  simp [hx.1, hx.2, MsgType.isAsync, Act.bind_run]

/-- The machine after the reply to its requests before the Sync: it has made the calls of the
reply and keeps its error. -/
def answered (m : ExtendedQueryStateMachine) (cs : List Callback) (error : Option ServerError) :
    ExtendedQueryStateMachine :=
  { m with state := .waitingReady, calls := m.calls ++ cs, pendingError := error }

/-- The state in which the machine reads the reply from a stage on. -/
def waits : Stage → ExtendedState
  | .parse => .waitingParse
  | .bind _ => .waitingBind
  | .describe | .rows .. => .processingRows

/-- The machine and its buffers are where the reply to an Execute is read from a stage on. -/
structure At (stage : Stage) (m : ExtendedQueryStateMachine) (b : BufferSet) : Prop where
  state : m.state = waits stage
  parse : stage = .parse → m.operation = .executeSql
  bind : stage ≠ .bind false
  error : m.pendingError = none
  rows : ∀ columns, stage = .rows columns true →
    ∃ cols, RowDescription.parse b.columnBuffer = .ok cols

theorem At.ne_initial {stage : Stage} (h : At stage m b) : m.state ≠ .initial := by
  rw [h.state]
  cases stage <;> simp [waits]

/-- A step on a message of the reply, where the reply is read from a stage on. -/
theorem At.step_eq {stage : Stage} (h : At stage m b) (ha : x.type.isAsync = false)
    (he : x.type ≠ .errorResponse) :
    step (m, b.load x) = handleState (waits stage) (m, b.load x) := by
  rw [step_plain h.ne_initial ha he, h.state]

theorem step_parse (h : At .parse m b) (hx : Is .parseComplete x) :
    step (m, b.load x) = (.ok .readMessage, ({ m with state := .waitingBind }, b.load x)) := by
  rw [h.step_eq (by rw [hx.1]; rfl) (by simp [hx.1])]
  simp [waits, handleState, handleParse, Act.bind_run, hx.1, h.parse rfl, setState]

theorem step_bind (h : At (.bind true) m b) (hx : Is .bindComplete x) :
    step (m, b.load x) = (.ok .readMessage, ({ m with state := .processingRows }, b.load x)) := by
  rw [h.step_eq (by rw [hx.1]; rfl) (by simp [hx.1])]
  simp [waits, handleState, handleBind, Act.bind_run, hx.1, setState]

theorem step_noData (h : At .describe m b) (hx : Is .noData x) :
    step (m, b.load x) = (.ok .readMessage, (m, b.load x)) := by
  rw [h.step_eq (by rw [hx.1]; rfl) (by simp [hx.1])]
  simp [waits, handleState, handleRows, Act.bind_run, hx.1]

/-- Columns that the handler accepts. -/
theorem step_columns {cols : List FieldDescription} (h : At .describe m b)
    (hx : x.type = .rowDescription) (hcols : RowDescription.parse x.payload = .ok cols)
    (ha : m.handler.accept (m.calls ++ [.resultStart cols]) = .ok ()) :
    step (m, b.load x) = (.ok .readMessage, ({ m with calls := m.calls ++ [.resultStart cols] },
      { b.load x with columnBuffer := x.payload })) := by
  rw [h.step_eq (by rw [hx]; rfl) (by simp [hx])]
  simp [waits, handleState, handleRows, Act.bind_run, hx, startResult, hcols, callHandler,
    Handler.call, ha]

/-- A row that the handler accepts. -/
theorem step_row {columns : Option Bytes} {returnsRows : Bool} {cols : List FieldDescription}
    {row : DataRow} (h : At (.rows columns returnsRows) m b) (hx : x.type = .dataRow)
    (hcols : RowDescription.parse b.columnBuffer = .ok cols)
    (hrow : DataRow.parse x.payload = .ok row)
    (ha : m.handler.accept (m.calls ++ [.row cols row]) = .ok ()) :
    step (m, b.load x) =
      (.ok .readMessage, ({ m with calls := m.calls ++ [.row cols row] }, b.load x)) := by
  rw [h.step_eq (by rw [hx]; rfl) (by simp [hx])]
  simp [waits, handleState, handleRows, Act.bind_run, hx, hcols, hrow, callHandler, Handler.call,
    ha]

/-- An end of the result that the handler accepts. -/
theorem step_complete {columns : Option Bytes} {returnsRows : Bool} {tag : String}
    (h : At (.rows columns returnsRows) m b) (hx : IsComplete tag x)
    (ha : m.handler.accept (m.calls ++ [.resultEnd tag]) = .ok ()) :
    step (m, b.load x) = (.ok .readMessage, (m.answered [.resultEnd tag] none, b.load x)) := by
  rw [h.step_eq (by rw [hx.1]; rfl) (by simp [hx.1])]
  simp [waits, handleState, handleRows, Act.bind_run, hx.1, hx.2, callHandler, Handler.call, ha,
    setState, answered, h.error]

theorem step_empty {columns : Option Bytes} {returnsRows : Bool}
    (h : At (.rows columns returnsRows) m b) (hx : Is .emptyQueryResponse x) :
    step (m, b.load x) = (.ok .readMessage, (m.answered [] none, b.load x)) := by
  rw [h.step_eq (by rw [hx.1]; rfl) (by simp [hx.1])]
  simp [waits, handleState, handleRows, Act.bind_run, hx.1, setState, answered, h.error]

/-! The stage behind each message, and the machine there. -/

theorem At.parsed (h : At .parse m b) :
    At (.bind true) { m with state := .waitingBind } (b.load x) :=
  ⟨rfl, by simp, by simp, h.error, by simp⟩

theorem At.bound (h : At (.bind true) m b) :
    At .describe { m with state := .processingRows } (b.load x) :=
  ⟨rfl, by simp, by simp, h.error, by simp⟩

theorem At.undescribed (h : At .describe m b) : At (.rows none false) m (b.load x) :=
  ⟨h.state, by simp, by simp, h.error, by simp⟩

theorem At.described {cols : List FieldDescription} (h : At .describe m b) (c : Callback)
    (hcols : RowDescription.parse x.payload = .ok cols) :
    At (.rows (some x.payload) true) { m with calls := m.calls ++ [c] }
      { b.load x with columnBuffer := x.payload } :=
  ⟨h.state, by simp, by simp, h.error, fun _ _ => ⟨cols, hcols⟩⟩

theorem At.delivered {columns : Option Bytes} (h : At (.rows columns true) m b) (c : Callback) :
    At (.rows columns true) { m with calls := m.calls ++ [c] } (b.load x) :=
  ⟨h.state, by simp, by simp, h.error, fun _ _ => h.rows columns rfl⟩

/-- The machine follows the reply to an Execute. The induction is on the reply. -/
theorem run_reading {stage : Stage} {fate : Fate} {r : List RawMessage}
    (h : Reading stage fate r) : ∀ (m : ExtendedQueryStateMachine) (b : BufferSet),
      At stage m b → Willing m.handler m.calls (callbacksOf b.columnBuffer r) →
      ∃ b', ∀ rest, runMachine step (r ++ rest) (m, b) =
        runMachine step rest (m.answered (callbacksOf b.columnBuffer r) fate.error?, b') := by
  induction h with
  | @error stage e x hx _ =>
    intro m b hat _
    have hc : callbacksOf b.columnBuffer [x] = [] := by simp [callbacksOf, callbackOf, hx.1]
    refine ⟨b.load x, fun rest => ?_⟩
    rw [List.singleton_append, runMachine_read (step_error hat.ne_initial hx), hc]
    simp [answered, Fate.error?]
  | @parse fate x ms hx _ ih =>
    intro m b hat hw
    have hc : callbacksOf b.columnBuffer (x :: ms) = callbacksOf b.columnBuffer ms := by
      simp [callbacksOf, callbackOf, columnsAfter, hx.1]
    rw [hc] at hw ⊢
    obtain ⟨b', hrun⟩ := ih _ _ hat.parsed hw
    refine ⟨b', fun rest => ?_⟩
    rw [List.cons_append, runMachine_read (step_parse hat hx), hrun]
    rfl
  | @bindDescribed fate x ms hx _ ih =>
    intro m b hat hw
    have hc : callbacksOf b.columnBuffer (x :: ms) = callbacksOf b.columnBuffer ms := by
      simp [callbacksOf, callbackOf, columnsAfter, hx.1]
    rw [hc] at hw ⊢
    obtain ⟨b', hrun⟩ := ih _ _ hat.bound hw
    refine ⟨b', fun rest => ?_⟩
    rw [List.cons_append, runMachine_read (step_bind hat hx), hrun]
    rfl
  | bindCached _ _ _ _ =>
    intro m b hat _
    exact absurd rfl hat.bind
  | @columns fate x ms hx _ ih =>
    intro m b hat hw
    obtain ⟨cols, hcols⟩ := columns_parse hx
    have hc : callbacksOf b.columnBuffer (x :: ms) =
        .resultStart cols :: callbacksOf x.payload ms := by
      simp [callbacksOf, callbackOf, columnsAfter, hx.1, hcols]
    rw [hc] at hw ⊢
    obtain ⟨b', hrun⟩ := ih _ _ (hat.described _ hcols) hw.2
    refine ⟨b', fun rest => ?_⟩
    rw [List.cons_append, runMachine_read (step_columns hat hx.1 hcols hw.1), hrun]
    simp [answered]
  | @noData fate x ms hx _ ih =>
    intro m b hat hw
    have hc : callbacksOf b.columnBuffer (x :: ms) = callbacksOf b.columnBuffer ms := by
      simp [callbacksOf, callbackOf, columnsAfter, hx.1]
    rw [hc] at hw ⊢
    obtain ⟨b', hrun⟩ := ih _ _ hat.undescribed hw
    refine ⟨b', fun rest => ?_⟩
    rw [List.cons_append, runMachine_read (step_noData hat hx), hrun]
    rfl
  | @row columns rows ending x ms hx _ ih =>
    intro m b hat hw
    obtain ⟨cols, hcols⟩ := hat.rows columns rfl
    obtain ⟨row, hrow⟩ := row_parse hx
    have hc : callbacksOf b.columnBuffer (x :: ms) =
        .row cols row :: callbacksOf b.columnBuffer ms := by
      simp [callbacksOf, callbackOf, columnsAfter, hx.1, hcols, hrow]
    rw [hc] at hw ⊢
    obtain ⟨b', hrun⟩ := ih _ _ (hat.delivered _) hw.2
    refine ⟨b', fun rest => ?_⟩
    rw [List.cons_append, runMachine_read (step_row hat hx.1 hcols hrow hw.1), hrun]
    cases ending <;> simp [answered, Fate.error?]
  | @complete columns returnsRows tag x hx =>
    intro m b hat hw
    have hc : callbacksOf b.columnBuffer [x] = [.resultEnd tag] := by
      simp [callbacksOf, callbackOf, hx.1, hx.2]
    rw [hc] at hw ⊢
    refine ⟨b.load x, fun rest => ?_⟩
    rw [List.singleton_append, runMachine_read (step_complete hat hx hw.1)]
    rfl
  | @empty columns x hx =>
    intro m b hat _
    have hc : callbacksOf b.columnBuffer [x] = [] := by simp [callbacksOf, callbackOf, hx.1]
    rw [hc]
    refine ⟨b.load x, fun rest => ?_⟩
    rw [List.singleton_append, runMachine_read (step_empty hat hx)]
    rfl

/-- The machine follows the reply to the Parse and Describe of a statement. -/
theorem run_prepared {error : Option ServerError} {r : List RawMessage} (h : Preparing error r)
    {m : ExtendedQueryStateMachine} {b : BufferSet} (hs : m.state = .waitingParse)
    (hop : m.operation = .prepare) (he : m.pendingError = none) :
    ∃ b', ∀ rest, runMachine step (r ++ rest) (m, b) =
      runMachine step rest ({ m with
        state := .waitingReady, pendingError := error
        preparedStmt := m.preparedStmt.map (describedBy r) }, b') := by
  have parsed {p : RawMessage} (hp : Is .parseComplete p) (b : BufferSet) :
      step (m, b.load p) =
        (.ok .readMessage, ({ m with state := .waitingDescribe }, b.load p)) := by
    rw [step_plain (by simp [hs]) (by rw [hp.1]; rfl) (by simp [hp.1]), hs]
    simp [handleState, handleParse, Act.bind_run, hp.1, hop, setState]
  have described {d : RawMessage} {oids : List Oid} (hd : d.type = .parameterDescription)
      (ho : ParameterDescription.parse d.payload = .ok oids) (b : BufferSet) :
      step ({ m with state := .waitingDescribe }, b.load d) =
        (.ok .readMessage, ({ m with
          state := .waitingRowDesc
          preparedStmt := m.preparedStmt.map fun stmt => { stmt with paramOids := oids } },
          b.load d)) := by
    rw [step_plain (by simp) (by rw [hd]; rfl) (by simp [hd])]
    simp [handleState, handleDescribe, Act.bind_run, hd, ho, setState, updateStmt]
  have oidsOf {d : RawMessage} (hd : Is .parameterDescription d) :
      ∃ oids, ParameterDescription.parse d.payload = .ok oids :=
    parse_of_wellFormed (by simpa [RawMessage.wellFormed, hd.1] using hd.2)
  cases h with
  | @parseError e x hx _ =>
    have hstmt : m.preparedStmt.map (describedBy [x]) = m.preparedStmt := by
      cases m.preparedStmt <;> simp [describedBy, paramOidsIn, rowDescIn, hx.1]
    refine ⟨b.load x, fun rest => ?_⟩
    rw [List.singleton_append, runMachine_read (step_error (by simp [hs]) hx), hstmt]
  | @describeError e p x hp hx _ =>
    have hstmt : m.preparedStmt.map (describedBy [p, x]) = m.preparedStmt := by
      cases m.preparedStmt <;> simp [describedBy, paramOidsIn, rowDescIn, hp.1, hx.1]
    refine ⟨(b.load p).load x, fun rest => ?_⟩
    rw [List.cons_append, runMachine_read (parsed hp b), List.singleton_append,
      runMachine_read (step_error (by simp) hx), hstmt]
  | @columnsError e p d x hp hd hx _ =>
    obtain ⟨oids, ho⟩ := oidsOf hd
    have hstmt : m.preparedStmt.map (describedBy [p, d, x]) =
        m.preparedStmt.map fun stmt => { stmt with paramOids := oids } := by
      cases m.preparedStmt <;>
        simp [describedBy, paramOidsIn, rowDescIn, hp.1, hd.1, hx.1, ho]
    refine ⟨((b.load p).load d).load x, fun rest => ?_⟩
    rw [List.cons_append, runMachine_read (parsed hp b), List.cons_append,
      runMachine_read (described hd.1 ho _), List.singleton_append,
      runMachine_read (step_error (by simp) hx), hstmt]
  | @done p d c returnsRows hp hd hc =>
    obtain ⟨oids, ho⟩ := oidsOf hd
    refine ⟨((b.load p).load d).load c, fun rest => ?_⟩
    rw [List.cons_append, runMachine_read (parsed hp b), List.cons_append,
      runMachine_read (described hd.1 ho _), List.singleton_append]
    cases returnsRows with
    | true =>
      have hc : Is .rowDescription c := hc
      have hstep (n : ExtendedQueryStateMachine) (b : BufferSet) (hn : n.state = .waitingRowDesc) :
          step (n, b.load c) = (.ok .readMessage, ({ n with
            state := .waitingReady
            preparedStmt := n.preparedStmt.map fun stmt =>
              { stmt with rowDescPayload := some c.payload } }, b.load c)) := by
        rw [step_plain (by simp [hn]) (by rw [hc.1]; rfl) (by simp [hc.1]), hn]
        simp [handleState, handleRowDesc, Act.bind_run, hc.1, setState, updateStmt]
      have hstmt : m.preparedStmt.map (describedBy [p, d, c]) =
          (m.preparedStmt.map fun stmt => { stmt with paramOids := oids }).map fun stmt =>
            { stmt with rowDescPayload := some c.payload } := by
        cases m.preparedStmt <;>
          simp [describedBy, paramOidsIn, rowDescIn, hp.1, hd.1, hc.1, ho]
      rw [runMachine_read (hstep _ _ rfl), hstmt, ← he]
    | false =>
      have hc : Is .noData c := hc
      have hstep (n : ExtendedQueryStateMachine) (b : BufferSet) (hn : n.state = .waitingRowDesc) :
          step (n, b.load c) =
            (.ok .readMessage, ({ n with state := .waitingReady }, b.load c)) := by
        rw [step_plain (by simp [hn]) (by rw [hc.1]; rfl) (by simp [hc.1]), hn]
        simp [handleState, handleRowDesc, Act.bind_run, hc.1, setState]
      have hstmt : m.preparedStmt.map (describedBy [p, d, c]) =
          m.preparedStmt.map fun stmt => { stmt with paramOids := oids } := by
        cases m.preparedStmt <;>
          simp [describedBy, paramOidsIn, rowDescIn, hp.1, hd.1, hc.1, ho]
      rw [runMachine_read (hstep _ _ rfl), hstmt, ← he]

/-- The machine follows the reply to the Close of a statement. -/
theorem run_closed {error : Option ServerError} {r : List RawMessage} (h : Closing error r)
    {m : ExtendedQueryStateMachine} {b : BufferSet} (hs : m.state = .waitingReady)
    (he : m.pendingError = none) :
    ∃ b', ∀ rest, runMachine step (r ++ rest) (m, b) =
      runMachine step rest ({ m with pendingError := error }, b') := by
  cases h with
  | @error e x hx _ =>
    refine ⟨b.load x, fun rest => ?_⟩
    rw [List.singleton_append, runMachine_read (step_error (by simp [hs]) hx), ← hs]
  | @done x hx =>
    have hstep : step (m, b.load x) = (.ok .readMessage, (m, b.load x)) := by
      rw [step_plain (by simp [hs]) (by rw [hx.1]; rfl) (by simp [hx.1]), hs]
      simp [handleState, handleReady, Act.bind_run, hx.1]
    refine ⟨b.load x, fun rest => ?_⟩
    rw [List.singleton_append, runMachine_read hstep, ← he]

/-- The reply to the Sync ends the machine with the error of the exchange. -/
theorem run_sync {error : Option ServerError} {status : TransactionStatus} {r : List RawMessage}
    {m : ExtendedQueryStateMachine} {b : BufferSet}
    (h : SyncReply m.pendingError.isSome error status r) (hs : m.state = .waitingReady) :
    ∃ b', runMachine step r (m, b) =
      (.ok ⟨m.pendingError.or error, [], []⟩,
        ({ m with transactionStatus := status, state := .finished, pendingError := none },
          b')) := by
  -- the machine at ReadyForQuery, with whatever error it keeps
  have ready {n : ExtendedQueryStateMachine} {b : BufferSet} {z : RawMessage}
      (hn : n.state = .waitingReady) (hz : IsReady status z) :
      runMachine step [z] (n, b) = (.ok ⟨n.pendingError, [], []⟩,
        ({ n with transactionStatus := status, state := .finished, pendingError := none },
          b.load z)) := by
    have hstep : step (n, b.load z) =
        (.ok (n.pendingError.elim .finished .error),
          ({ n with transactionStatus := status, state := .finished, pendingError := none },
            b.load z)) := by
      rw [step_plain (by simp [hn]) (by rw [hz.1]; rfl) (by simp [hz.1]), hn]
      cases hp : n.pendingError <;>
        simp [handleState, handleReady, Act.bind_run, hz.1, hz.2, readReady, takePendingError,
          ReadyForQuery.parse, hp]
    cases hp : n.pendingError with
    | none =>
      rw [hp] at hstep
      exact runMachine_finished hstep
    | some e =>
      rw [hp] at hstep
      exact runMachine_error hstep
  generalize hskip : m.pendingError.isSome = skipping at h
  cases h with
  | @ready _ _ z hz =>
    refine ⟨b.load z, ?_⟩
    rw [ready hs hz]
    simp
  | @error e x _ z hx _ hz =>
    refine ⟨(b.load x).load z, ?_⟩
    have hnone : m.pendingError = none := by simpa using hskip
    rw [runMachine_read (step_error (by simp [hs]) hx), ready rfl hz, hnone]
    rfl

/-! ### Whole exchanges -/

/-- The operations the machine drives, with what they are started with. -/
inductive Request where
  | prepare (idx : Nat) (query : String) (paramOids : List Oid)
  | execute (statementName : String) (paramOids : List Oid) (params : Params)
  | executeSql (sql : String) (params : Params)
  | closeStatement (name : String)

/-- The operation of a request. -/
def Request.operation : Request → Operation
  | .prepare .. => .prepare
  | .execute .. => .execute
  | .executeSql .. => .executeSql
  | .closeStatement _ => .closeStatement

/-- The machine for a request, with the request in the write buffer. -/
def Request.start (handler : Handler) (b : BufferSet) :
    Request → Except Error ExtendedQueryStateMachine × BufferSet
  | .prepare idx query paramOids =>
    let r := ExtendedQueryStateMachine.prepare handler b idx query paramOids
    (.ok r.1, r.2)
  | .execute statementName paramOids params =>
    ExtendedQueryStateMachine.execute handler b statementName paramOids params
  | .executeSql sql params => ExtendedQueryStateMachine.executeSql handler b sql params
  | .closeStatement name =>
    let r := ExtendedQueryStateMachine.closeStatement handler b name
    (.ok r.1, r.2)

/-- The calls the reply to a request makes. -/
def Request.callbacks (reply : List RawMessage) : Request → List Callback
  | .execute .. | .executeSql .. => callbacksOf [] reply
  | _ => []

/-- The statement the reply to a request describes. -/
def Request.statement (reply : List RawMessage) : Request → Option PreparedStatement
  | .prepare idx _ _ => some (describedBy reply ⟨idx, [], none⟩)
  | _ => none

/-- What the server may answer to a request before its Sync, with the error it ends in. -/
def Request.Replies : Request → Option ServerError → List RawMessage → Prop
  | .prepare .. => Preparing
  | .execute .. => fun error r => ∃ fate, Reading (.bind true) fate r ∧ error = fate.error?
  | .executeSql .. => fun error r => ∃ fate, Reading .parse fate r ∧ error = fate.error?
  | .closeStatement _ => Closing

theorem answersWith_of_answersFrom {P : Peer} {st : P.State} {fs : List Frontend}
    {stage : Stage} (h : P.AnswersFrom st fs stage) :
    P.AnswersWith st fs fun error r => ∃ fate, Reading stage fate r ∧ error = fate.error? :=
  h.imp_right fun ⟨fate, hread, hmode⟩ =>
    ⟨fate.error?, ⟨fate, hread, rfl⟩, by rw [hread.error_isSome]; exact hmode⟩

/-- A conformant server answers a request and then its Sync. -/
theorem feed_request {P : Peer} (hP : P.NoCopy) {st : P.State}
    (hm : (P.session st).mode = .ready) {request : Request} {handler : Handler} {b b₀ : BufferSet}
    {m₀ : ExtendedQueryStateMachine} (hstart : request.start handler b = (.ok m₀, b₀)) :
    ∃ fs, b₀.writeBuffer = fs ++ [.sync] ∧ P.AnswersWith st fs request.Replies := by
  cases request with
  | prepare idx query oids =>
    cases hstart
    exact ⟨_, rfl, feed_prepare hm⟩
  | execute name oids params =>
    simp only [Request.start, execute, writeBind] at hstart
    cases henc : params.encode oids with
    | ok values =>
      rw [henc] at hstart
      cases hstart
      exact ⟨_, rfl, answersWith_of_answersFrom (feed_bindExecute hP hm)⟩
    | error e =>
      rw [henc] at hstart
      cases hstart
  | executeSql sql params =>
    simp only [Request.start, executeSql, writeBind] at hstart
    cases henc : params.encode params.naturalOids with
    | ok values =>
      rw [henc] at hstart
      cases hstart
      exact ⟨_, rfl, answersWith_of_answersFrom (feed_op hP hm .sql)⟩
    | error e =>
      rw [henc] at hstart
      cases hstart
  | closeStatement name =>
    cases hstart
    exact ⟨_, rfl, feed_closeStatement hm⟩

/-- The first step of a request has it written. -/
theorem step_request {request : Request} {handler : Handler} {b b₀ : BufferSet}
    {m₀ : ExtendedQueryStateMachine} (hstart : request.start handler b = (.ok m₀, b₀)) :
    ∃ m : ExtendedQueryStateMachine, step (m₀, b₀) = (.ok .writeAndReadMessage, (m, b₀)) ∧
      m.state = firstState m.operation ∧ m.handler = handler ∧ m.calls = [] ∧
      m.pendingError = none ∧ m.preparedStmt = request.statement [] ∧
      m.operation = request.operation := by
  have hm₀ : ∃ op stmt, m₀ = start handler op stmt ∧ stmt = request.statement [] ∧
      op = request.operation := by
    cases request with
    | prepare idx query oids =>
      cases hstart
      exact ⟨_, _, rfl, rfl, rfl⟩
    | execute name oids params =>
      simp only [Request.start, execute, writeBind] at hstart
      cases henc : params.encode oids with
      | ok values =>
        rw [henc] at hstart
        cases hstart
        exact ⟨_, _, rfl, rfl, rfl⟩
      | error e =>
        rw [henc] at hstart
        cases hstart
    | executeSql sql params =>
      simp only [Request.start, executeSql, writeBind] at hstart
      cases henc : params.encode params.naturalOids with
      | ok values =>
        rw [henc] at hstart
        cases hstart
        exact ⟨_, _, rfl, rfl, rfl⟩
      | error e =>
        rw [henc] at hstart
        cases hstart
    | closeStatement name =>
      cases hstart
      exact ⟨_, _, rfl, rfl, rfl⟩
  obtain ⟨op, stmt, rfl, rfl, hop⟩ := hm₀
  exact ⟨{ start handler op (request.statement []) with state := firstState op },
    rfl, rfl, rfl, rfl, rfl, rfl, hop⟩

/-- The columns in use before a reply that has its own make no difference to its calls. -/
theorem callbacksOf_reading {stage : Stage} {fate : Fate} {r : List RawMessage}
    (h : Reading stage fate r) (hb : stage ≠ .bind false)
    (hs : ∀ columns, stage ≠ .rows columns true) (c c' : Bytes) :
    callbacksOf c r = callbacksOf c' r := by
  induction h generalizing c c' with
  | error he _ => simp [callbacksOf, callbackOf, he.1]
  | parse hm _ ih =>
    simp only [callbacksOf, callbackOf, columnsAfter, hm.1, reduceCtorEq, if_false]
    rw [ih (by simp) (by simp) c c']
  | bindDescribed hm _ ih =>
    simp only [callbacksOf, callbackOf, columnsAfter, hm.1, reduceCtorEq, if_false]
    rw [ih (by simp) (by simp) c c']
  | bindCached => exact absurd rfl hb
  | columns hm _ ih => simp [callbacksOf, callbackOf, columnsAfter, hm.1]
  | noData hm _ ih =>
    simp only [callbacksOf, callbackOf, columnsAfter, hm.1, reduceCtorEq, if_false]
    rw [ih (by simp) (by simp) c c']
  | row => exact absurd rfl (hs _)
  | complete hm => simp [callbacksOf, callbackOf, hm.1]
  | empty hm => simp [callbacksOf, callbackOf, hm.1]

/-- The reply to a Sync makes no calls. -/
private theorem callbacksOf_sync {skipping : Bool} {error : Option ServerError}
    {status : TransactionStatus} {r : List RawMessage} (h : SyncReply skipping error status r)
    (c : Bytes) : callbacksOf c r = [] := by
  cases h with
  | ready hz => simp [callbacksOf, callbackOf, hz.1]
  | error he _ hz => simp [callbacksOf, callbackOf, he.1, hz.1]

/-- The reply to a Sync describes nothing. -/
private theorem describedBy_sync {skipping : Bool} {error : Option ServerError}
    {status : TransactionStatus} {r r' : List RawMessage} (h : SyncReply skipping error status r')
    (stmt : PreparedStatement) : describedBy (r ++ r') stmt = describedBy r stmt := by
  have hoids : paramOidsIn r' = none := by
    cases h with
    | ready hz => simp [paramOidsIn, hz.1]
    | error he _ hz => simp [paramOidsIn, he.1, hz.1]
  have hrow : rowDescIn r' = none := by
    cases h with
    | ready hz => simp [rowDescIn, hz.1]
    | error he _ hz => simp [rowDescIn, he.1, hz.1]
  have happ : paramOidsIn (r ++ r') = paramOidsIn r := by
    unfold paramOidsIn at hoids ⊢
    rw [List.findSome?_append, hoids, Option.or_none]
  have happ' : rowDescIn (r ++ r') = rowDescIn r := by
    unfold rowDescIn at hrow ⊢
    rw [List.find?_append]
    cases hf : r.find? (·.type = .rowDescription) with
    | some x => rfl
    | none => simpa using hrow
  rw [describedBy, happ, happ']
  rfl

/-- The machine follows the reply to a request up to the Sync. -/
theorem run_request {request : Request} {error : Option ServerError} {r : List RawMessage}
    (h : request.Replies error r) {m : ExtendedQueryStateMachine} {b : BufferSet}
    (hs : m.state = firstState m.operation) (hcalls : m.calls = [])
    (herr : m.pendingError = none) (hstmt : m.preparedStmt = request.statement [])
    (hop : m.operation = request.operation)
    (hw : Willing m.handler [] (request.callbacks r)) :
    ∃ m' b', (∀ rest, runMachine step (r ++ rest) (m, b) = runMachine step rest (m', b')) ∧
      m'.state = .waitingReady ∧ m'.pendingError = error ∧ m'.calls = request.callbacks r ∧
      m'.preparedStmt = request.statement r := by
  cases request with
  | prepare idx query oids =>
    obtain ⟨b', hrun⟩ := run_prepared (b := b) h (by rw [hs, hop]; rfl) hop herr
    refine ⟨_, b', hrun, rfl, rfl, hcalls, ?_⟩
    change m.preparedStmt.map (describedBy r) = _
    rw [hstmt]
    simp [Request.statement, describedBy, paramOidsIn, rowDescIn]
  | execute name oids params =>
    obtain ⟨fate, hread, rfl⟩ := h
    have hc := callbacksOf_reading hread (by simp) (by simp) b.columnBuffer []
    obtain ⟨b', hrun⟩ := run_reading hread m b
      ⟨by rw [hs, hop]; rfl, by simp, by simp, herr, by simp⟩ (by rw [hcalls, hc]; exact hw)
    refine ⟨_, b', hrun, rfl, rfl, ?_, hstmt⟩
    rw [answered, hc, hcalls]
    rfl
  | executeSql sql params =>
    obtain ⟨fate, hread, rfl⟩ := h
    have hc := callbacksOf_reading hread (by simp) (by simp) b.columnBuffer []
    obtain ⟨b', hrun⟩ := run_reading hread m b
      ⟨by rw [hs, hop]; rfl, fun _ => hop, by simp, herr, by simp⟩ (by rw [hcalls, hc]; exact hw)
    refine ⟨_, b', hrun, rfl, rfl, ?_, hstmt⟩
    rw [answered, hc, hcalls]
    rfl
  | closeStatement name =>
    obtain ⟨b', hrun⟩ := run_closed (b := b) h (by rw [hs, hop]; rfl) herr
    refine ⟨_, b', hrun, ?_, rfl, hcalls, hstmt⟩
    change m.state = _
    rw [hs, hop]
    rfl

/-- The error the reply to a request ends in is the only one it holds. -/
private theorem errorsIn_request {request : Request} {error : Option ServerError}
    {r : List RawMessage} (h : request.Replies error r) : errorsIn r = error.toList := by
  cases request with
  | prepare =>
    cases h with
    | parseError hx _ => rw [errorsIn_cons_error hx]; rfl
    | describeError hp hx _ =>
      rw [errorsIn_cons_ne (by simp [hp.1]), errorsIn_cons_error hx]; rfl
    | columnsError hp hd hx _ =>
      rw [errorsIn_cons_ne (by simp [hp.1]), errorsIn_cons_ne (by simp [hd.1]),
        errorsIn_cons_error hx]
      rfl
    | @done p d c returnsRows hp hd hc =>
      have hne : c.type ≠ .errorResponse := by
        rw [hc.1]
        cases returnsRows <;> simp
      rw [errorsIn_cons_ne (by simp [hp.1]), errorsIn_cons_ne (by simp [hd.1]),
        errorsIn_cons_ne hne]
      rfl
  | execute =>
    obtain ⟨fate, hread, rfl⟩ := h
    exact hread.errorsIn_eq
  | executeSql =>
    obtain ⟨fate, hread, rfl⟩ := h
    exact hread.errorsIn_eq
  | closeStatement =>
    cases h with
    | error hx _ => rw [errorsIn_cons_error hx]; rfl
    | done hc => rw [errorsIn_cons_ne (by simp [hc.1])]; rfl

/-- Asynchronous messages describe nothing. -/
theorem paramOidsIn_core (ms : List RawMessage) : paramOidsIn (core ms) = paramOidsIn ms := by
  induction ms with
  | nil => rfl
  | cons m ms ih =>
    unfold paramOidsIn at ih ⊢
    cases hm : m.isAsync with
    | true =>
      have hne : m.type ≠ .parameterDescription := by
        intro ht
        simp [RawMessage.isAsync, ht, MsgType.isAsync] at hm
      rw [core_cons_async hm, ih, List.findSome?_cons]
      split
      · next heq =>
        split at heq
        · next ht _ => exact absurd ht hne
        · cases heq
      · rfl
    | false => rw [core_cons_sync hm, List.findSome?_cons, List.findSome?_cons, ih]

theorem rowDescIn_core (ms : List RawMessage) : rowDescIn (core ms) = rowDescIn ms := by
  induction ms with
  | nil => rfl
  | cons m ms ih =>
    unfold rowDescIn at ih ⊢
    cases hm : m.isAsync with
    | true =>
      have hne : m.type ≠ .rowDescription := by
        intro ht
        simp [RawMessage.isAsync, ht, MsgType.isAsync] at hm
      rw [core_cons_async hm, ih]
      simp [hne]
    | false =>
      rw [core_cons_sync hm]
      by_cases ht : m.type = .rowDescription
      · simp [ht]
      · simpa [ht] using ih

/-- The whole reply to a request makes the calls of its part before the Sync and describes what
that part describes. -/
private theorem request_core (request : Request) {reply r₁ r₂ : List RawMessage}
    {skipping : Bool} {sync : Option ServerError} {status : TransactionStatus}
    (hcore : core reply = r₁ ++ r₂) (hsync : SyncReply skipping sync status r₂) :
    request.callbacks reply = request.callbacks r₁ ∧
      request.statement reply = request.statement r₁ := by
  have hcalls : callbacksOf [] reply = callbacksOf [] r₁ := by
    rw [← callbacksOf_core, hcore, callbacksOf_append (callbacksOf_sync hsync)]
  have hstmt (stmt : PreparedStatement) : describedBy reply stmt = describedBy r₁ stmt := by
    rw [← describedBy_sync (r := r₁) hsync stmt, ← hcore, describedBy, describedBy,
      paramOidsIn_core, rowDescIn_core]
  constructor
  · cases request <;> simp [Request.callbacks, hcalls]
  · cases request <;> simp [Request.statement, hstmt]

/-- Every request of the machine concludes at a conformant server: whatever the reply, the
machine asks for exactly its messages through ReadyForQuery and reports its error, its status,
the parts of its result and the statement it describes. -/
theorem exchange_conforms {P : Peer} (hP : P.NoCopy) {st : P.State} {request : Request}
    {handler : Handler} {b b₀ : BufferSet} {m₀ : ExtendedQueryStateMachine}
    (hready : (P.session st).mode = .ready) (hstart : request.start handler b = (.ok m₀, b₀))
    (hopen : (P.session (P.feed st b₀.writeBuffer).2).mode ≠ .closed)
    (hw : Willing handler [] (request.callbacks (P.feed st b₀.writeBuffer).1))
    (more : List RawMessage) :
    ∃ v m₁ b₁ status,
      exchange step ((P.feed st b₀.writeBuffer).1 ++ more) (m₀, b₀) = (.ok v, (m₁, b₁)) ∧
      Concludes true status (P.feed st b₀.writeBuffer).1 more v ∧
      m₁.transactionStatus = status ∧
      m₁.calls = request.callbacks (P.feed st b₀.writeBuffer).1 ∧
      m₁.preparedStmt = request.statement (P.feed st b₀.writeBuffer).1 := by
  obtain ⟨fs, hfs, hans⟩ := feed_request hP hready hstart
  obtain ⟨m, hfirst, hs, hhandler, hcalls, herr, hstmt, hop⟩ := step_request hstart
  have hwell := P.feed_asyncs st b₀.writeBuffer
  have hsynced := feed_synced hans
  unfold Peer.Answers at hsynced
  rw [← hfs] at hsynced
  generalize P.feed st b₀.writeBuffer = fed at hopen hw hwell hsynced ⊢
  obtain ⟨reply, st'⟩ := fed
  dsimp only at hopen hw hwell hsynced ⊢
  obtain ⟨-, error, sync, status, r₁, r₂, hcore, hrep, hsync⟩ := hsynced.resolve_left hopen
  obtain ⟨hcb, hst⟩ := request_core request hcore hsync
  -- the reply before the Sync, then the reply to the Sync
  obtain ⟨m', b', hrun, hs', herr', hcalls', hstmt'⟩ :=
    run_request (b := b₀) hrep hs hcalls herr hstmt hop (by rw [hhandler, ← hcb]; exact hw)
  rw [← herr'] at hsync
  obtain ⟨b₁, hrun'⟩ := run_sync (b := b') hsync hs'
  rw [herr'] at hrun' hsync
  have hall : runMachine step (core reply) (m, b₀) = (.ok ⟨error.or sync, [], []⟩,
      ({ m' with transactionStatus := status, state := .finished, pendingError := none }, b₁)) := by
    rw [hcore, hrun, hrun']
  obtain ⟨r₀, z, rfl, hz⟩ := hsync.ends
  have hlast : core reply = (r₁ ++ r₀) ++ [z] := by
    rw [hcore, List.append_assoc]
  have herrs : (error.or sync).toList = errorsIn reply := by
    rw [← errorsIn_core, hcore, errorsIn_append, errorsIn_request hrep, hsync.errorsIn_eq]
    cases error with
    | none => rfl
    | some e => simp [hsync.error_of_skipping rfl]
  have hstarted : HandlerMachine.Started m := by
    change m.state ≠ .initial
    rw [hs]
    cases m.operation <;> simp [firstState]
  obtain ⟨v, hv, hconc⟩ := concludes_of_core
    (LawfulStateMachine.passesAsync ExtendedQueryStateMachine)
    (LawfulStateMachine.endsAtReady ExtendedQueryStateMachine) hstarted hwell hall hlast hz herrs
    more
  refine ⟨v, { m' with transactionStatus := status, state := .finished, pendingError := none },
    b₁, status, ?_, hconc, rfl, hcalls'.trans hcb.symm, hstmt'.trans hst.symm⟩
  simp only [exchange, Act.bind_run, hfirst]
  exact hv

/-- The columns in use before an exchange make no difference to the calls of its reply. -/
private theorem callbacksOf_request {request : Request} {error sync : Option ServerError}
    {status : TransactionStatus} {reply r₁ r₂ : List RawMessage} {skipping : Bool}
    (h : request.Replies error r₁) (hcore : core reply = r₁ ++ r₂)
    (hsync : SyncReply skipping sync status r₂)
    (hop : request.operation = .execute ∨ request.operation = .executeSql) (c : Bytes) :
    callbacksOf c reply = request.callbacks reply := by
  have hr (c : Bytes) : callbacksOf c reply = callbacksOf c r₁ := by
    rw [← callbacksOf_core, hcore, callbacksOf_append (callbacksOf_sync hsync)]
  cases request with
  | execute name oids params =>
    obtain ⟨fate, hread, -⟩ := h
    rw [Request.callbacks, hr, hr, callbacksOf_reading hread (by simp) (by simp) c []]
  | executeSql sql params =>
    obtain ⟨fate, hread, -⟩ := h
    rw [Request.callbacks, hr, hr, callbacksOf_reading hread (by simp) (by simp) c []]
  | _ => rcases hop with hop | hop <;> cases hop

/-- A machine that concludes its exchange has had no call refused. -/
theorem willing_of_concludes {P : Peer} (hP : P.NoCopy) {st : P.State} {request : Request}
    {handler : Handler} {b b₀ : BufferSet} {m₀ : ExtendedQueryStateMachine}
    (hready : (P.session st).mode = .ready) (hstart : request.start handler b = (.ok m₀, b₀))
    (hopen : (P.session (P.feed st b₀.writeBuffer).2).mode ≠ .closed) {more : List RawMessage}
    {v : Verdict} {r : ExtendedQueryStateMachine × BufferSet} {handsOn : Bool}
    {status : TransactionStatus}
    (h : exchange step ((P.feed st b₀.writeBuffer).1 ++ more) (m₀, b₀) = (.ok v, r))
    (hconc : Concludes handsOn status (P.feed st b₀.writeBuffer).1 more v) :
    Willing handler [] (request.callbacks (P.feed st b₀.writeBuffer).1) := by
  obtain ⟨fs, hfs, hans⟩ := feed_request hP hready hstart
  obtain ⟨m, hfirst, hs, hhandler, hcalls, -, -, hop⟩ := step_request hstart
  have hsynced := feed_synced hans
  unfold Peer.Answers at hsynced
  rw [← hfs] at hsynced
  generalize P.feed st b₀.writeBuffer = fed at hopen h hsynced hconc ⊢
  obtain ⟨reply, st'⟩ := fed
  dsimp only at hopen h hsynced hconc ⊢
  obtain ⟨-, error, sync, status', r₁, r₂, hcore, hrep, hsync⟩ := hsynced.resolve_left hopen
  by_cases hx : request.operation = .execute ∨ request.operation = .executeSql
  · have hstarted :
        m.state ≠ .initial ∧ m.state ≠ .waitingDescribe ∧ m.state ≠ .waitingRowDesc := by
      rw [hs]
      cases m.operation <;> simp [firstState]
    have hexec : m.Executing := ⟨by rw [hop]; exact hx, hstarted.2⟩
    have hrun : runMachine step (reply ++ more) (m, b₀) = (.ok v, r) := by
      simp only [exchange, Act.bind_run, hfirst] at h
      exact h
    obtain ⟨asked, hasked, hw⟩ := LawfulStateMachine.willing hstarted.1 hexec hrun
    obtain ⟨body, z, tail, hreply, -, -, htail, hunasked, -⟩ := hconc.asks
    have heq : asked = body ++ [z] := by
      rw [hunasked, hreply, ← List.append_assoc] at hasked
      have hcancel := List.append_cancel_right hasked
      rw [List.append_cons] at hcancel
      exact (List.append_cancel_right hcancel).symm
    have hall : callbacksOf b₀.columnBuffer reply = callbacksOf b₀.columnBuffer asked := by
      rw [hreply, heq, List.append_cons]
      exact callbacksOf_append fun c => by rw [← callbacksOf_core, htail]; rfl
    rw [← callbacksOf_request hrep hcore hsync hx b₀.columnBuffer, hall]
    have hw : Willing m.handler m.calls (callbacksOf b₀.columnBuffer asked) := hw
    rwa [hhandler, hcalls] at hw
  · cases request with
    | execute => simp [Request.operation] at hx
    | executeSql => simp [Request.operation] at hx
    | _ => trivial

/-- The execution of a statement with rows at the reference server, which sends a notice before
the reply to each message. -/
def selecting : Peer :=
  Reference.peer ⟨fun _ => .select 2, fun _ => false, fun _ => true⟩

/-- A statement executed on empty buffers, and the server's reply to it. -/
def select : Request := .executeSql "SELECT" .none

def selectReply : List RawMessage :=
  (selecting.feed Reference.start (select.start DropHandler .new).2.writeBuffer).1

theorem exchange_conforms_select :
    ∃ v m₁ b₁ status,
      exchange step (selectReply ++ [])
        (start DropHandler .executeSql none, (select.start DropHandler .new).2) =
          (.ok v, (m₁, b₁)) ∧
      Concludes true status selectReply [] v ∧ m₁.transactionStatus = status ∧
      m₁.calls = select.callbacks selectReply ∧
      m₁.preparedStmt = select.statement selectReply :=
  exchange_conforms (P := selecting) (Reference.peer_noCopy _) (by decide +kernel) rfl
    (by decide +kernel) (DropHandler_total.willing _ _) []

end ExtendedQueryStateMachine

end ZeroPostgres
