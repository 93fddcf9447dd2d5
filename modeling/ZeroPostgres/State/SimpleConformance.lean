import Mathlib.Data.List.Forall2
import ZeroPostgres.State.Conformance

/-!
# Conformance of the simple query machine

What `SimpleQueryStateMachine` makes of the reply to a Query. `Answering` is the beginning of
some results as the machine reads it; `run_answering` follows the machine through it, and
`query_conforms` is the whole exchange.
-/

namespace ZeroPostgres

/-! ### The beginning of some results -/

/-- Messages of results, from within a result with rows or from between two results. They may
break off anywhere. -/
inductive Answering : Bool → List RawMessage → Prop where
  | nil {inRows} : Answering inRows []
  | columns {m ms} : Is .rowDescription m → Answering true ms → Answering false (m :: ms)
  | row {m ms} : Is .dataRow m → Answering true ms → Answering true (m :: ms)
  | complete {inRows tag m ms} : IsComplete tag m → Answering false ms →
      Answering inRows (m :: ms)

private theorem Answering.rows_append {rows ms : List RawMessage}
    (h : ∀ m ∈ rows, Is .dataRow m) (hms : Answering true ms) : Answering true (rows ++ ms) := by
  induction rows with
  | nil => exact hms
  | cons m rows ih =>
    exact .row (h m List.mem_cons_self) (ih fun x hx => h x (List.mem_cons_of_mem _ hx))

theorem Results.answering {ms : List RawMessage} (h : Results ms) : Answering false ms := by
  induction h with
  | nil => exact .nil
  | command hm _ ih => exact .complete hm ih
  | rows hc hr hm _ ih => exact .columns hc (.rows_append hr.1 (.complete hm ih))

/-- Results that break off begin as the whole results do. -/
theorem Answering.of_append {inRows : Bool} {ms rest : List RawMessage}
    (h : Answering inRows (ms ++ rest)) : Answering inRows ms := by
  generalize hall : ms ++ rest = all at h
  induction h generalizing ms with
  | nil =>
    rw [(List.append_eq_nil_iff.mp hall).1]
    exact .nil
  | columns hm _ ih =>
    rcases List.append_eq_cons_iff.mp hall with ⟨rfl, -⟩ | ⟨ms', rfl, hrest⟩
    · exact .nil
    · exact .columns hm (ih hrest.symm)
  | row hm _ ih =>
    rcases List.append_eq_cons_iff.mp hall with ⟨rfl, -⟩ | ⟨ms', rfl, hrest⟩
    · exact .nil
    · exact .row hm (ih hrest.symm)
  | complete hm _ ih =>
    rcases List.append_eq_cons_iff.mp hall with ⟨rfl, -⟩ | ⟨ms', rfl, hrest⟩
    · exact .nil
    · exact .complete hm (ih hrest.symm)

/-- The beginning of some results holds no errors. -/
theorem Answering.errorsIn_eq {inRows : Bool} {ms : List RawMessage} (h : Answering inRows ms) :
    errorsIn ms = [] := by
  induction h with
  | nil => rfl
  | columns hm _ ih => rw [errorsIn_cons_ne (by simp [hm.1]), ih]
  | row hm _ ih => rw [errorsIn_cons_ne (by simp [hm.1]), ih]
  | complete hm _ ih => rw [errorsIn_cons_ne (by simp [hm.1]), ih]

namespace SimpleQueryStateMachine

variable {m : SimpleQueryStateMachine} {b : BufferSet} {x : RawMessage}

theorem step_plain (hm : m.state ≠ .initial) (ha : x.type.isAsync = false)
    (he : x.type ≠ .errorResponse) : step (m, b.load x) = handleState m.state (m, b.load x) := by
  rw [step_started hm]
  simp [ha, he]

theorem step_error {e : ServerError} (hm : m.state ≠ .initial) (hx : IsError e x) :
    step (m, b.load x) =
      (.ok .readMessage,
        ({ m with pendingError := some e, state := .waitingReady }, b.load x)) := by
  rw [step_started hm]
  simp [hx.1, hx.2, MsgType.isAsync, Act.bind_run]

/-- The state in which the machine reads results: between two of them or within one. -/
def reads (inRows : Bool) : SimpleState :=
  if inRows then .processingRows else .waitingResponse

/-- The end of a command takes the machine on to the next one, whether the command had rows. -/
theorem step_complete {inRows : Bool} {tag : String} (hs : m.state = reads inRows)
    (hx : IsComplete tag x) (ha : m.handler.accept (m.calls ++ [.resultEnd tag]) = .ok ()) :
    step (m, b.load x) = (.ok .readMessage,
      ({ m with calls := m.calls ++ [.resultEnd tag], state := .waitingResponse }, b.load x)) := by
  rw [step_plain (by rw [hs]; cases inRows <;> simp [reads]) (by rw [hx.1]; rfl) (by simp [hx.1]),
    hs]
  cases inRows <;>
    simp [reads, handleState, handleResponse, handleRows, endResult, Act.bind_run, hx.1, hx.2,
      callHandler, Handler.call, ha, setState]

/-- The machine follows results, complete or not. The induction is on the messages. -/
theorem run_answering {inRows : Bool} {r : List RawMessage} (h : Answering inRows r) :
    ∀ (m : SimpleQueryStateMachine) (b : BufferSet), m.state = reads inRows →
      (inRows = true → ∃ cols, RowDescription.parse b.columnBuffer = .ok cols) →
      Willing m.handler m.calls (callbacksOf b.columnBuffer r) →
      ∃ inRows' b', ∀ rest, runMachine step (r ++ rest) (m, b) = runMachine step rest
        ({ m with state := reads inRows', calls := m.calls ++ callbacksOf b.columnBuffer r }, b')
    := by
  induction h with
  | @nil inRows =>
    intro m b hs _ _
    refine ⟨inRows, b, fun rest => ?_⟩
    simp [callbacksOf, ← hs]
  | @columns x ms hx _ ih =>
    intro m b hs _ hw
    obtain ⟨cols, hcols⟩ := columns_parse hx
    have hc : callbacksOf b.columnBuffer (x :: ms) =
        .resultStart cols :: callbacksOf x.payload ms := by
      simp [callbacksOf, callbackOf, columnsAfter, hx.1, hcols]
    rw [hc] at hw ⊢
    have hstep : step (m, b.load x) = (.ok .readMessage,
        ({ m with calls := m.calls ++ [.resultStart cols], state := .processingRows },
          { b.load x with columnBuffer := x.payload })) := by
      rw [step_plain (by simp [hs, reads]) (by rw [hx.1]; rfl) (by simp [hx.1]), hs]
      simp [reads, handleState, handleResponse, Act.bind_run, hx.1, hcols, callHandler,
        Handler.call, hw.1, setState]
    obtain ⟨inRows', b', hrun⟩ := ih
      { m with calls := m.calls ++ [.resultStart cols], state := .processingRows }
      { b.load x with columnBuffer := x.payload } rfl (fun _ => ⟨cols, hcols⟩) hw.2
    refine ⟨inRows', b', fun rest => ?_⟩
    rw [List.cons_append, runMachine_read hstep, hrun]
    simp
  | @row x ms hx _ ih =>
    intro m b hs hcols hw
    obtain ⟨cols, hcols⟩ := hcols rfl
    obtain ⟨row, hrow⟩ := row_parse hx
    have hc : callbacksOf b.columnBuffer (x :: ms) =
        .row cols row :: callbacksOf b.columnBuffer ms := by
      simp [callbacksOf, callbackOf, columnsAfter, hx.1, hcols, hrow]
    rw [hc] at hw ⊢
    have hstep : step (m, b.load x) =
        (.ok .readMessage, ({ m with calls := m.calls ++ [.row cols row] }, b.load x)) := by
      rw [step_plain (by simp [hs, reads]) (by rw [hx.1]; rfl) (by simp [hx.1]), hs]
      simp [reads, handleState, handleRows, Act.bind_run, hx.1, hcols, hrow, callHandler,
        Handler.call, hw.1]
      exact hs
    obtain ⟨inRows', b', hrun⟩ := ih { m with calls := m.calls ++ [.row cols row] } (b.load x) hs
      (fun _ => ⟨cols, hcols⟩) hw.2
    refine ⟨inRows', b', fun rest => ?_⟩
    rw [List.cons_append, runMachine_read hstep, hrun]
    simp
  | @complete inRows tag x ms hx _ ih =>
    intro m b hs _ hw
    have hc : callbacksOf b.columnBuffer (x :: ms) =
        .resultEnd tag :: callbacksOf b.columnBuffer ms := by
      simp [callbacksOf, callbackOf, columnsAfter, hx.1, hx.2]
    rw [hc] at hw ⊢
    have hstep := step_complete (b := b) hs hx hw.1
    obtain ⟨inRows', b', hrun⟩ := ih
      { m with calls := m.calls ++ [.resultEnd tag], state := .waitingResponse } (b.load x) rfl
      (by simp) hw.2
    refine ⟨inRows', b', fun rest => ?_⟩
    rw [List.cons_append, runMachine_read hstep, hrun]
    simp

/-! ### Whole exchanges -/

/-- The reply to a Query, asynchronous messages aside, with the error and the status it ends
with: an empty query, or results that an error may cut short. -/
inductive Answer : Option ServerError → TransactionStatus → List RawMessage → Prop where
  | empty {x status z} : Is .emptyQueryResponse x → IsReady status z →
      Answer none status [x, z]
  | results {ms status z} : Answering false ms → IsReady status z →
      Answer none status (ms ++ [z])
  | error {ms e x status z} : Answering false ms → IsError e x → IsReady status z →
      Answer (some e) status (ms ++ [x, z])

/-- What a conformant server answers to a Query, and the session it goes on with. -/
theorem respond_query_cases {P : Peer} (hP : P.NoCopy) {st : P.State} {sql : String}
    (hm : (P.session st).mode = .ready) :
    (P.session (P.respond st (.query sql)).2).mode = .closed ∨
      (∃ ms status z, core (P.respond st (.query sql)).1 = ms ++ [z] ∧
        QuerySuccess (P.effect sql) (P.session st).status ms status ∧ IsReady status z ∧
        P.session (P.respond st (.query sql)).2 =
          (P.session st).completed (P.effect sql) status ∧
        Answer none status (ms ++ [z])) ∨
      ∃ e status, e.isFatal = false ∧ Fails (P.effect sql) (P.session st).status status ∧
        P.session (P.respond st (.query sql)).2 = { P.session st with status } ∧
        Answer (some e) status (core (P.respond st (.query sql)).1) := by
  have hcopy := hP st (.query sql) (by simp [hm])
  have h := P.conforms st (.query sql)
  generalize P.session (P.respond st (.query sql)).2 = s' at h hcopy ⊢
  generalize core (P.respond st (.query sql)).1 = r at h ⊢
  have partial_answering {effect : TxEffect} {ms : List RawMessage} (h : QueryPartial effect ms) :
      Answering false ms := by
    rcases h with rfl | ⟨-, rest, h⟩
    · exact .nil
    · exact h.answering.of_append
  cases h with
  | query _ hs hz =>
    refine .inr (.inl ⟨_, _, _, rfl, hs, hz, rfl, ?_⟩)
    generalize P.effect sql = effect at hs
    cases hs with
    | empty hx => exact .empty hx hz
    | results _ h => exact .results h.answering hz
    | control _ _ _ hx => exact .results (.complete hx .nil) hz
    | other h => exact .results h.answering hz
  | queryError _ hp hx hfatal hf hz =>
    exact .inr (.inr ⟨_, _, hfatal, hf, rfl, .error (partial_answering hp) hx hz⟩)
  | queryFatal => exact .inl rfl
  | queryCopy _ _ _ hmode => exact absurd hmode hcopy
  | success _ h => cases h
  | error _ hf => cases hf
  | fatal _ hf => cases hf
  | discard hskip => rw [hm] at hskip; cases hskip
  | discardFatal hskip => rw [hm] at hskip; cases hskip
  | copying hcopying => rw [hm] at hcopying; cases hcopying
  | closed hclosed => exact .inl hclosed

/-- What a conformant server answers to a Query. -/
theorem respond_query {P : Peer} (hP : P.NoCopy) {st : P.State} {sql : String}
    (hm : (P.session st).mode = .ready) :
    (P.session (P.respond st (.query sql)).2).mode = .closed ∨
      ∃ error status, Answer error status (core (P.respond st (.query sql)).1) := by
  rcases respond_query_cases hP hm with
    h | ⟨ms, status, z, hr, -, -, -, h⟩ | ⟨e, status, -, -, -, h⟩
  · exact .inl h
  · exact .inr ⟨none, status, hr ▸ h⟩
  · exact .inr ⟨some e, status, h⟩

/-- ReadyForQuery ends the machine wherever it reads results. -/
private theorem run_ready {inRows : Bool} {status : TransactionStatus} (hs : m.state = reads inRows)
    (hx : IsReady status x) : runMachine step [x] (m, b) =
      (.ok ⟨none, [], []⟩,
        ({ m with transactionStatus := status, state := .finished }, b.load x)) := by
  refine runMachine_finished ?_
  rw [step_plain (by rw [hs]; cases inRows <;> simp [reads]) (by rw [hx.1]; rfl) (by simp [hx.1]),
    hs]
  cases inRows <;>
    simp [reads, handleState, handleResponse, handleRows, Act.bind_run, hx.1, hx.2, readReady,
      ReadyForQuery.parse]

/-- ReadyForQuery ends a machine that waits for it, with the error it keeps. -/
private theorem run_waiting {error : Option ServerError} {status : TransactionStatus}
    (hs : m.state = .waitingReady) (he : m.pendingError = error) (hx : IsReady status x) :
    runMachine step [x] (m, b) = (.ok ⟨error, [], []⟩,
      ({ m with transactionStatus := status, state := .finished, pendingError := none },
        b.load x)) := by
  have hstep : step (m, b.load x) =
      (.ok (match error with | some e => .error e | none => .finished),
        ({ m with transactionStatus := status, state := .finished, pendingError := none },
          b.load x)) := by
    rw [step_plain (by simp [hs]) (by rw [hx.1]; rfl) (by simp [hx.1]), hs]
    cases error <;>
      simp [handleState, handleReady, Act.bind_run, hx.1, hx.2, readReady, takePendingError,
        ReadyForQuery.parse, he]
  cases error with
  | none => exact runMachine_finished hstep
  | some e => exact runMachine_error hstep

/-- An error and ReadyForQuery end the machine wherever it is. -/
theorem run_error {e : ServerError} {status : TransactionStatus} {x z : RawMessage}
    (hm : m.state ≠ .initial) (hx : IsError e x) (hz : IsReady status z) :
    ∃ m' b', runMachine step [x, z] (m, b) = (.ok ⟨some e, [], []⟩, (m', b')) :=
  ⟨_, _, (runMachine_read (step_error hm hx)).trans (run_waiting rfl rfl hz)⟩

/-- The machine follows the reply to its Query to the end. -/
theorem run_answer {error : Option ServerError} {status : TransactionStatus}
    {r : List RawMessage} (h : Answer error status r) (hs : m.state = .waitingResponse)
    (he : m.pendingError = none) (hw : Willing m.handler m.calls (callbacksOf b.columnBuffer r)) :
    ∃ m' b', runMachine step r (m, b) = (.ok ⟨error, [], []⟩, (m', b')) ∧
      m'.transactionStatus = status ∧
      m'.calls = m.calls ++ callbacksOf b.columnBuffer r := by
  -- neither an error nor ReadyForQuery makes a call
  have hcalls (ms tail : List RawMessage) (ht : ∀ c, callbacksOf c tail = []) :
      callbacksOf b.columnBuffer (ms ++ tail) = callbacksOf b.columnBuffer ms :=
    callbacksOf_append ht
  cases h with
  | @empty x _ z hx hz =>
    have hstep : step (m, b.load x) =
        (.ok .readMessage, ({ m with state := .waitingReady }, b.load x)) := by
      rw [step_plain (by simp [hs]) (by rw [hx.1]; rfl) (by simp [hx.1]), hs]
      simp [handleState, handleResponse, Act.bind_run, hx.1, setState]
    refine ⟨_, _, (runMachine_read hstep).trans (run_waiting rfl he hz), rfl, ?_⟩
    simp [callbacksOf, callbackOf, hx.1, hz.1]
  | @results ms _ z hms hz =>
    have hc := hcalls ms [z] fun c => by simp [callbacksOf, callbackOf, hz.1]
    rw [hc] at hw ⊢
    obtain ⟨inRows, b', hrun⟩ := run_answering hms m b hs (by simp) hw
    exact ⟨_, _, (hrun [z]).trans (run_ready rfl hz), rfl, rfl⟩
  | @error ms e x _ z hms hx hz =>
    have hc := hcalls ms [x, z] fun c => by
      simp [callbacksOf, callbackOf, hx.1, hz.1]
    rw [hc] at hw ⊢
    obtain ⟨inRows, b', hrun⟩ := run_answering hms m b hs (by simp) hw
    have hstep := step_error (b := b') (m := { m with
      state := reads inRows, calls := m.calls ++ callbacksOf b.columnBuffer ms })
      (by cases inRows <;> simp [reads]) hx
    exact ⟨_, _, (hrun [x, z]).trans ((runMachine_read hstep).trans (run_waiting rfl rfl hz)),
      rfl, rfl⟩

/-- The end of the reply to a Query, and the errors in it. -/
theorem Answer.ends {error : Option ServerError} {status : TransactionStatus}
    {r : List RawMessage} (h : Answer error status r) :
    (∃ r₀ z, r = r₀ ++ [z] ∧ IsReady status z) ∧ errorsIn r = error.toList := by
  cases h with
  | @empty x _ z hx hz =>
    refine ⟨⟨[x], z, rfl, hz⟩, ?_⟩
    rw [errorsIn_cons_ne (by simp [hx.1]), errorsIn_cons_ne (by simp [hz.1])]
    rfl
  | @results ms _ z hms hz =>
    refine ⟨⟨ms, z, rfl, hz⟩, ?_⟩
    rw [errorsIn_append, hms.errorsIn_eq, errorsIn_cons_ne (by simp [hz.1])]
    rfl
  | @error ms e x _ z hms hx hz =>
    refine ⟨⟨ms ++ [x], z, by simp, hz⟩, ?_⟩
    rw [errorsIn_append, hms.errorsIn_eq, errorsIn_cons_error hx, errorsIn_cons_ne (by simp [hz.1])]
    rfl

/-- The columns in use before a Query make no difference to the calls of its reply. -/
theorem callbacksOf_answering {r : List RawMessage} (h : Answering false r) (c c' : Bytes) :
    callbacksOf c r = callbacksOf c' r := by
  generalize hr : false = inRows at h
  induction h with
  | nil => rfl
  | columns hx _ _ => simp [callbacksOf, callbackOf, columnsAfter, hx.1]
  | row => cases hr
  | complete hx _ ih => simp [callbacksOf, callbackOf, columnsAfter, hx.1, ih rfl]

theorem callbacksOf_answer {error : Option ServerError} {status : TransactionStatus}
    {r : List RawMessage} (h : Answer error status r) (c c' : Bytes) :
    callbacksOf c r = callbacksOf c' r := by
  cases h with
  | empty hx hz => simp [callbacksOf, callbackOf, hx.1, hz.1]
  | @results _ _ z hms hz =>
    have hz (c : Bytes) : callbacksOf c [z] = [] := by simp [callbacksOf, callbackOf, hz.1]
    rw [callbacksOf_append hz, callbacksOf_append hz, callbacksOf_answering hms]
  | @error _ _ x _ z hms hx hz =>
    have hxz (c : Bytes) : callbacksOf c [x, z] = [] := by
      simp [callbacksOf, callbackOf, hx.1, hz.1]
    rw [callbacksOf_append hxz, callbacksOf_append hxz, callbacksOf_answering hms]

/-- A Query concludes at a conformant server: whatever the reply, the machine asks for exactly
its messages through ReadyForQuery, reports its error and its status, and makes the calls of its
results in order. -/
theorem query_conforms {P : Peer} (hP : P.NoCopy) {st : P.State} {sql : String}
    {handler : Handler} (hready : (P.session st).mode = .ready)
    (hopen : (P.session (P.respond st (.query sql)).2).mode ≠ .closed)
    (hw : Willing handler [] (callbacksOf [] (P.respond st (.query sql)).1)) (b : BufferSet)
    (more : List RawMessage) :
    ∃ v m₁ b₁ status,
      exchange step ((P.respond st (.query sql)).1 ++ more) (new handler sql, b) =
        (.ok v, (m₁, b₁)) ∧
      Concludes true status (P.respond st (.query sql)).1 more v ∧
      m₁.transactionStatus = status ∧
      m₁.calls = callbacksOf [] (P.respond st (.query sql)).1 := by
  obtain ⟨error, status, hans⟩ := (respond_query hP hready).resolve_left hopen
  have hwell := P.asyncs st (.query sql)
  generalize (P.respond st (.query sql)).1 = reply at hw hans hwell ⊢
  have hcalls : callbacksOf b.columnBuffer (core reply) = callbacksOf [] reply := by
    rw [callbacksOf_answer hans b.columnBuffer [], callbacksOf_core]
  obtain ⟨⟨r₀, z, hlast, hz⟩, herrs⟩ := hans.ends
  obtain ⟨m₁, b₁, hrun, hstatus, hc⟩ :=
    run_answer (m := { new handler sql with state := .waitingResponse })
      (b := { b with writeBuffer := [.query sql] }) hans rfl rfl (by rw [hcalls]; exact hw)
  obtain ⟨v, hv, hconc⟩ := concludes_of_core
    (LawfulStateMachine.passesAsync SimpleQueryStateMachine)
    (LawfulStateMachine.endsAtReady SimpleQueryStateMachine) (by simp [HandlerMachine.Started])
    hwell hrun hlast hz (by rw [← errorsIn_core, herrs]) more
  refine ⟨v, m₁, b₁, status, ?_, hconc, hstatus, hc.trans hcalls⟩
  exact hv

/-- A server that sends a notice before each reply and fails after the first row. -/
def cutShort : Peer := Reference.peer ⟨fun _ => ⟨some 2, some 1⟩, fun _ => false, fun _ => true⟩

theorem query_conforms_cutShort :
    ∃ v m₁ b₁ status,
      exchange step ((cutShort.respond Reference.start (.query "SELECT")).1 ++ [])
        (new DropHandler "SELECT", .new) = (.ok v, (m₁, b₁)) ∧
      Concludes true status (cutShort.respond Reference.start (.query "SELECT")).1 [] v ∧
      m₁.transactionStatus = status ∧
      m₁.calls = callbacksOf [] (cutShort.respond Reference.start (.query "SELECT")).1 :=
  query_conforms (P := cutShort) (Reference.peer_noCopy _) (by decide +kernel)
    (by decide +kernel) (DropHandler_total.willing _ _) .new []

end SimpleQueryStateMachine

end ZeroPostgres
