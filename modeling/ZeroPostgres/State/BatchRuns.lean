import ZeroPostgres.State.Batch
import ZeroPostgres.State.Conformance

/-!
# Runs of the batch machines

`BatchStateMachine` and `BatchPrepareStateMachine` on replies to the requests before their Sync.
Both read messages of a few types in whatever order they come, so a reply is given by the types
and the error in it. The batch machine keeps an error until ReadyForQuery; the batch-prepare
machine returns it at once.
-/

namespace ZeroPostgres

namespace BatchStateMachine

variable {m : BatchStateMachine} {b : BufferSet} {x : RawMessage}

/-- The machine has had its request written. -/
def Started (m : BatchStateMachine) : Prop := m.state ≠ .initial

/-- The step of a machine that has started. -/
theorem step_started (hm : m.Started) (b : BufferSet) :
    step (m, b) =
      (if b.typeByte.isAsync then pure .readMessage
      else if b.typeByte = .errorResponse then do
        let error ← Act.lift (ErrorResponse.parse b.readBuffer)
        Act.modify fun (m, b) => ({ m with pendingError := some error, state := .processing }, b)
        return .readMessage
      else match m.state with
        | .waitingParse =>
          match b.typeByte with
          | .parseComplete => do
            Act.lift (ParseComplete.parse b.readBuffer)
            Act.modify fun (m, b) => ({ m with state := .processing }, b)
            return .readMessage
          | t => Act.fail (unexpected "Expected ParseComplete, got " t)
        | .processing => handleProcessing
        | _ => Act.fail (.libraryBug "Unexpected state Finished") :
        Step BatchStateMachine Action) (m, b) := by
  unfold step
  rw [Act.bind_run]
  dsimp only [Act.get_run]
  cases hs : m.state with
  | initial => exact absurd hs hm
  | _ => rfl

/-- A step goes on within the exchange, ends it at ReadyForQuery, or fails. -/
theorem step_meets (hm : m.Started) (b : BufferSet) :
    Act.Meets step (m, b) fun o r => r.1.Started ∧ ∀ action, o = .ok action →
      action.reads = true ∧ b.typeByte.within = true ∨
      action.ends = true ∧ b.typeByte = .readyForQuery := by
  have failed {o : Outcome Error Action} {m' : BatchStateMachine} (hm' : m'.Started)
      (ho : ∀ action, o ≠ .ok action) : m'.Started ∧ ∀ action, o = .ok action →
        action.reads = true ∧ b.typeByte.within = true ∨
        action.ends = true ∧ b.typeByte = .readyForQuery :=
    ⟨hm', fun action h => absurd h (ho action)⟩
  have reading {m' : BatchStateMachine} (hm' : m'.Started) (hb : b.typeByte.within = true) :
      m'.Started ∧ ∀ action, Outcome.ok (ε := Error) Action.readMessage = .ok action →
        action.reads = true ∧ b.typeByte.within = true ∨
        action.ends = true ∧ b.typeByte = .readyForQuery :=
    ⟨hm', fun action h => by cases h; exact .inl ⟨rfl, hb⟩⟩
  refine .of_run_eq (step_started hm b) ?_
  split
  · next ha => exact reading hm (within_of_isAsync ha)
  · split
    · next ht =>
      simp only [Act.meets_bind, Act.meets_lift]
      cases ErrorResponse.parse b.readBuffer with
      | ok error => exact reading (by simp [Started]) (by rw [ht]; rfl)
      | err e => exact failed hm (by simp)
      | halt => exact failed hm (by simp)
    · split
      · split
        · next ht => exact reading (by simp [Started, Act.bind_run]) (by rw [ht]; rfl)
        · exact failed hm (by simp)
      · simp only [handleProcessing, Act.meets_bind, Act.meets_get]
        split
        · next ht => exact reading hm (by rw [ht]; rfl)
        · next ht => exact reading hm (by rw [ht]; rfl)
        · next ht =>
          simp only [Act.meets_bind, Act.meets_lift]
          cases RowDescription.parse b.readBuffer with
          | ok => exact reading hm (by rw [ht]; rfl)
          | err => exact failed hm (by simp)
          | halt => exact failed hm (by simp)
        · next ht => exact reading hm (by rw [ht]; rfl)
        · next ht =>
          simp only [Act.meets_bind, Act.meets_lift]
          cases CommandComplete.parse b.readBuffer with
          | ok => exact reading hm (by rw [ht]; rfl)
          | err => exact failed hm (by simp)
          | halt => exact failed hm (by simp)
        · next ht => exact reading hm (by rw [ht]; rfl)
        · next ht =>
          simp only [readReady, Act.meets_bind, Act.meets_lift, Act.meets_get, Act.meets_modify]
          cases ReadyForQuery.parse b.readBuffer with
          | ok =>
            dsimp only
            cases m.pendingError with
            | none => exact ⟨by simp [Started], fun action h => by cases h; exact .inr ⟨rfl, ht⟩⟩
            | some e => exact ⟨by simp [Started], fun action h => by cases h; exact .inr ⟨rfl, ht⟩⟩
          | err => exact failed hm (by simp)
          | halt => exact failed hm (by simp)
        · exact failed hm (by simp)
      · exact failed hm (by simp)

theorem passesAsync : PassesAsync step Started false where
  step_started _ b hs := (step_meets hs b).at.1
  step_async m b msg hs hmsg := by
    have ha : b.typeByte.isAsync = true := isAsync_of_toAsync hmsg
    rw [step_started hs, if_pos ha]
    rfl

theorem endsAtReady : EndsAtReady step Started where
  step_started _ b hs := (step_meets hs b).at.1
  step_ends _ b hs := (step_meets hs b).at.2

/-- The machine has the status of the ReadyForQuery at which it ends. -/
theorem reportsStatus : ReportsStatus step Started (·.transactionStatus) := by
  refine reportsStatus_of_step fun m b hm _ _ => .inr (.of_run_eq (step_started hm b) ?_)
  split
  · exact closes_read
  split
  · exact closes_bind fun _ _ _ => closes_bind fun _ _ _ => closes_read
  split
  · split
    · exact closes_bind fun _ _ _ => closes_bind fun _ _ _ => closes_read
    · exact closes_fail
  · refine closes_get ?_
    dsimp only
    split
    · exact closes_bind fun _ _ _ => closes_read
    · exact closes_bind fun _ _ _ => closes_read
    · exact closes_bind fun _ _ _ => closes_read
    · exact closes_read
    · exact closes_bind fun _ _ _ => closes_read
    · exact closes_bind fun _ _ _ => closes_read
    · refine closes_bind fun status r hread => closes_get (closes_bind fun _ r' hset => ?_)
      cases hset
      have hparse : ReadyForQuery.parse b.readBuffer = .ok status := congrArg Prod.fst hread
      cases r.1.pendingError with
      | none => exact .inr ⟨rfl, hparse⟩
      | some e => exact .inr ⟨rfl, hparse⟩
    · exact closes_fail
  · exact closes_fail

/-- An error makes the machine go on to ReadyForQuery, wherever it comes. -/
theorem step_error {e : ServerError} (hm : m.Started) (hx : IsError e x) :
    step (m, b.load x) =
      (.ok .readMessage, ({ m with pendingError := some e, state := .processing }, b.load x)) := by
  rw [step_started hm]
  simp [hx.1, hx.2, MsgType.isAsync, Act.bind_run]

/-- The machine reads through executions and keeps the last error among them. -/
theorem run_executions {r : List RawMessage}
    (h : ∀ x ∈ r, x.type ∈ executionTypes ∧ x.wellFormed = true ∨ ∃ e, IsError e x) :
    ∀ (m : BatchStateMachine) (b : BufferSet), m.state = .processing →
      ∃ b', ∀ rest, runMachine step (r ++ rest) (m, b) = runMachine step rest
        ({ m with pendingError := (errorsIn r).getLast?.or m.pendingError }, b') := by
  induction r with
  | nil => exact fun m b _ => ⟨b, fun rest => rfl⟩
  | cons x r ih =>
    intro m b hs
    have hm : m.Started := by simp [Started, hs]
    have hr := fun y hy => h y (List.mem_cons_of_mem x hy)
    rcases h x List.mem_cons_self with ⟨hx, hw⟩ | ⟨e, hx⟩
    · have hstep : step (m, b.load x) = (.ok .readMessage, (m, b.load x)) := by
        rw [step_started hm]
        simp only [executionTypes, List.mem_cons, List.not_mem_nil, or_false] at hx
        rcases hx with hx | hx | hx | hx
        · simp [hx, MsgType.isAsync, hs, handleProcessing, Act.bind_run]
        · simp [hx, MsgType.isAsync, hs, handleProcessing, Act.bind_run]
        · obtain ⟨tag, htag⟩ := parse_of_wellFormed (o := CommandComplete.parse x.payload) (by
            simpa [RawMessage.wellFormed, hx] using hw)
          simp [hx, MsgType.isAsync, hs, handleProcessing, Act.bind_run, htag]
        · simp [hx, MsgType.isAsync, hs, handleProcessing, Act.bind_run]
      have hne : x.type ≠ .errorResponse := by
        intro ht
        simp [ht, executionTypes] at hx
      obtain ⟨b', hrun⟩ := ih hr m (b.load x) hs
      refine ⟨b', fun rest => ?_⟩
      rw [List.cons_append, runMachine_read hstep, hrun, errorsIn_cons_ne hne]
    · obtain ⟨b', hrun⟩ := ih hr { m with pendingError := some e, state := .processing }
        (b.load x) rfl
      refine ⟨b', fun rest => ?_⟩
      rw [List.cons_append, runMachine_read (step_error hm hx), hrun, errorsIn_cons_error hx, ← hs]
      cases hl : (errorsIn r).getLast? <;> simp [List.getLast?_cons, hl]

/-- The reply to the Sync ends the machine with the error of the exchange. -/
theorem run_sync {error : Option ServerError} {status : TransactionStatus} {r : List RawMessage}
    (h : SyncReply m.pendingError.isSome error status r) (hs : m.state = .processing) :
    ∃ m' b', runMachine step r (m, b) = (.ok ⟨m.pendingError.or error, [], []⟩, (m', b')) ∧
      m'.transactionStatus = status := by
  have ready {n : BatchStateMachine} {b : BufferSet} {z : RawMessage} (hn : n.state = .processing)
      (hz : IsReady status z) :
      runMachine step [z] (n, b) = (.ok ⟨n.pendingError, [], []⟩,
        ({ n with transactionStatus := status, state := .finished, pendingError := none },
          b.load z)) := by
    have hstep : step (n, b.load z) =
        (.ok (n.pendingError.elim .finished .error),
          ({ n with transactionStatus := status, state := .finished, pendingError := none },
            b.load z)) := by
      rw [step_started (by simp [Started, hn])]
      cases hp : n.pendingError <;>
        simp [hz.1, hz.2, hn, MsgType.isAsync, handleProcessing, readReady, ReadyForQuery.parse,
          Act.bind_run, hp]
    cases hp : n.pendingError with
    | none =>
      rw [hp] at hstep
      exact runMachine_finished hstep
    | some e =>
      rw [hp] at hstep
      exact runMachine_error hstep
  generalize hskip : m.pendingError.isSome = skipping at h
  cases h with
  | ready hz => exact ⟨_, _, by rw [ready hs hz, Option.or_none], rfl⟩
  | @error e x _ z hx _ hz =>
    have hnone : m.pendingError = none := by simpa using hskip
    have hm : m.Started := by simp [Started, hs]
    rw [hnone, Option.none_or]
    exact ⟨_, _, (runMachine_read (step_error hm hx)).trans (ready rfl hz), rfl⟩

end BatchStateMachine

namespace BatchPrepareStateMachine

variable {m : BatchPrepareStateMachine} {b : BufferSet} {x : RawMessage}

/-- The machine has had its request written. -/
def Started (m : BatchPrepareStateMachine) : Prop := m.state ≠ .initial

/-- The step of a machine that has started. -/
theorem step_started (hm : m.Started) (b : BufferSet) :
    step (m, b) =
      (if b.typeByte.isAsync then pure .readMessage
      else if b.typeByte = .errorResponse then do
        let error ← Act.lift (ErrorResponse.parse b.readBuffer)
        Act.fail (.server error)
      else match m.state with
        | .processing => handleProcessing
        | _ => Act.fail (.libraryBug "Unexpected state Finished") :
        Step BatchPrepareStateMachine Action) (m, b) := by
  unfold step
  rw [Act.bind_run]
  dsimp only [Act.get_run]
  cases hs : m.state with
  | initial => exact absurd hs hm
  | _ => rfl

/-- A step goes on within the exchange, ends it at ReadyForQuery, or fails: the machine has no
error to report at ReadyForQuery. -/
theorem step_meets (hm : m.Started) (b : BufferSet) :
    Act.Meets step (m, b) fun o r => r.1.Started ∧ ∀ action, o = .ok action →
      action.reads = true ∧ b.typeByte.within = true ∨
      action = .finished ∧ b.typeByte = .readyForQuery := by
  have failed {o : Outcome Error Action} {m' : BatchPrepareStateMachine} (hm' : m'.Started)
      (ho : ∀ action, o ≠ .ok action) : m'.Started ∧ ∀ action, o = .ok action →
        action.reads = true ∧ b.typeByte.within = true ∨
        action = .finished ∧ b.typeByte = .readyForQuery :=
    ⟨hm', fun action h => absurd h (ho action)⟩
  have reading {m' : BatchPrepareStateMachine} (hm' : m'.Started)
      (hb : b.typeByte.within = true) :
      m'.Started ∧ ∀ action, Outcome.ok (ε := Error) Action.readMessage = .ok action →
        action.reads = true ∧ b.typeByte.within = true ∨
        action = .finished ∧ b.typeByte = .readyForQuery :=
    ⟨hm', fun action h => by cases h; exact .inl ⟨rfl, hb⟩⟩
  refine .of_run_eq (step_started hm b) ?_
  split
  · next ha => exact reading hm (within_of_isAsync ha)
  · split
    · simp only [Act.meets_bind, Act.meets_lift]
      cases ErrorResponse.parse b.readBuffer with
      | ok error => exact failed hm (by simp)
      | err e => exact failed hm (by simp)
      | halt => exact failed hm (by simp)
    · split
      · simp only [handleProcessing, Act.meets_bind, Act.meets_get]
        split
        · next ht => exact reading hm (by rw [ht]; rfl)
        · next ht =>
          simp only [Act.meets_bind, Act.meets_lift]
          cases ParameterDescription.parse b.readBuffer with
          | ok => exact reading hm (by rw [ht]; rfl)
          | err => exact failed hm (by simp)
          | halt => exact failed hm (by simp)
        · next ht => exact reading hm (by rw [ht]; rfl)
        · next ht => exact reading hm (by rw [ht]; rfl)
        · next ht =>
          simp only [Act.meets_bind, Act.meets_lift, Act.meets_modify]
          cases ReadyForQuery.parse b.readBuffer with
          | ok => exact ⟨by simp [Started], fun action h => by cases h; exact .inr ⟨rfl, ht⟩⟩
          | err => exact failed hm (by simp)
          | halt => exact failed hm (by simp)
        · exact failed hm (by simp)
      · exact failed hm (by simp)

theorem passesAsync : PassesAsync step Started false where
  step_started _ b hs := (step_meets hs b).at.1
  step_async m b msg hs hmsg := by
    have ha : b.typeByte.isAsync = true := isAsync_of_toAsync hmsg
    rw [step_started hs, if_pos ha]
    rfl

theorem endsAtReady : EndsAtReady step Started where
  step_started _ b hs := (step_meets hs b).at.1
  step_ends _ b hs action ha :=
    ((step_meets hs b).at.2 action ha).imp_right fun h => ⟨by rw [h.1]; rfl, h.2⟩

/-- The machine has the status of the ReadyForQuery at which it ends. -/
theorem reportsStatus : ReportsStatus step Started (·.transactionStatus) := by
  refine reportsStatus_of_step fun m b hm _ _ => .inr (.of_run_eq (step_started hm b) ?_)
  split
  · exact closes_read
  split
  · exact closes_bind fun _ _ _ => closes_fail
  split
  · refine closes_get ?_
    dsimp only
    split
    · exact closes_bind fun _ _ _ => closes_read
    · exact closes_bind fun _ _ _ => closes_bind fun _ _ _ => closes_read
    · exact closes_bind fun _ _ _ => closes_bind fun _ _ _ => closes_read
    · exact closes_bind fun _ _ _ => closes_bind fun _ _ _ => closes_read
    · refine closes_bind fun status r hread => closes_bind fun _ r' hset => ?_
      cases hset
      have hparse : ReadyForQuery.parse b.readBuffer = .ok status := congrArg Prod.fst hread
      exact .inr ⟨rfl, hparse⟩
    · exact closes_fail
  · exact closes_fail

/-- A run that ends reports no error. -/
theorem run_error_eq_none {ms : List RawMessage} {v : Verdict}
    {r : BatchPrepareStateMachine × BufferSet} (hs : m.Started)
    (h : runMachine step ms (m, b) = (.ok v, r)) : v.error = none := by
  induction ms generalizing m b v r with
  | nil => cases h
  | cons x ms ih =>
    have hm := step_meets hs (b.load x)
    simp only [runMachine, Act.bind_run, Act.modify_run] at h
    rcases hrun : step (m, b.load x) with ⟨action | e | _, m₁, b₁⟩
    · rw [Act.Meets, hrun] at hm
      rw [hrun] at h
      cases action with
      | readMessage => exact ih hm.1 h
      | handleAsyncMessageAndReadMessage msg =>
        simp only [Act.bind_run] at h
        rcases hrun' : runMachine step ms (m₁, b₁) with ⟨v₁ | e | _, r₁⟩
        · rw [hrun'] at h
          cases h
          exact ih (v := v₁) hm.1 hrun'
        · rw [hrun'] at h
          cases h
        · rw [hrun'] at h
          cases h
      | error e =>
        have hact := hm.2 _ rfl
        simp [Action.reads] at hact
      | finished => cases h; rfl
      | _ => cases h
    · rw [hrun] at h
      cases h
    · rw [hrun] at h
      cases h

/-- The machine reads through preparations without an error. -/
theorem run_preparations {r : List RawMessage}
    (h : ∀ x ∈ r, x.type ∈ preparationTypes ∧ x.wellFormed = true) :
    ∀ (m : BatchPrepareStateMachine) (b : BufferSet), m.state = .processing →
      ∃ m' b', m'.state = .processing ∧
        ∀ rest, runMachine step (r ++ rest) (m, b) = runMachine step rest (m', b') := by
  induction r with
  | nil => exact fun m b hs => ⟨m, b, hs, fun rest => rfl⟩
  | cons x r ih =>
    intro m b hs
    have hm : m.Started := by simp [Started, hs]
    obtain ⟨hx, hw⟩ := h x List.mem_cons_self
    have hstep : ∃ m₁, m₁.state = .processing ∧
        step (m, b.load x) = (.ok .readMessage, (m₁, b.load x)) := by
      rw [step_started hm]
      simp only [preparationTypes, List.mem_cons, List.not_mem_nil, or_false] at hx
      rcases hx with hx | hx | hx | hx
      · exact ⟨m, hs, by simp [hx, MsgType.isAsync, hs, handleProcessing, Act.bind_run]⟩
      · obtain ⟨oids, hoids⟩ := parse_of_wellFormed (o := ParameterDescription.parse x.payload) (by
          simpa [RawMessage.wellFormed, hx] using hw)
        refine ⟨{ m with statements := m.statements.modify m.currentStmt fun stmt =>
          { stmt with paramOids := oids } }, hs, ?_⟩
        simp [hx, MsgType.isAsync, hs, handleProcessing, Act.bind_run, hoids, updateCurrent]
      · refine ⟨{ m with
          statements := m.statements.modify m.currentStmt fun stmt =>
            { stmt with rowDescPayload := some x.payload }
          currentStmt := m.currentStmt + 1 }, hs, ?_⟩
        simp [hx, MsgType.isAsync, hs, handleProcessing, Act.bind_run, updateCurrent,
          nextStatement]
      · refine ⟨{ m with currentStmt := m.currentStmt + 1 }, hs, ?_⟩
        simp [hx, MsgType.isAsync, hs, handleProcessing, Act.bind_run, nextStatement]
    obtain ⟨m₁, hs₁, hstep⟩ := hstep
    obtain ⟨m', b', hs', hrun⟩ := ih (fun y hy => h y (List.mem_cons_of_mem x hy)) m₁ (b.load x) hs₁
    refine ⟨m', b', hs', fun rest => ?_⟩
    rw [List.cons_append, runMachine_read hstep, hrun]

/-- ReadyForQuery ends the machine. -/
theorem run_ready {status : TransactionStatus} (hs : m.state = .processing)
    (hx : IsReady status x) :
    runMachine step [x] (m, b) = (.ok ⟨none, [], []⟩,
      ({ m with transactionStatus := status, state := .finished }, b.load x)) := by
  refine runMachine_finished ?_
  rw [step_started (by simp [Started, hs])]
  simp [hx.1, hx.2, MsgType.isAsync, hs, handleProcessing, ReadyForQuery.parse, Act.bind_run]

end BatchPrepareStateMachine

end ZeroPostgres
