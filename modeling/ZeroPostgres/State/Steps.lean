import ZeroPostgres.State.Extended
import ZeroPostgres.State.SimpleQuery
import ZeroPostgres.State.Run

/-!
# Steps of the query machines

Both query machines are lawful: `handleState_stepped` goes through the handlers of each state.
-/

namespace ZeroPostgres

/-! ### What one message adds to the account -/

section Account

variable {b : BufferSet} {handler : Handler} {calls : List Callback}

/-- A message that is no part of a result leaves the columns and the calls as they were. -/
private theorem account_silent
    (h : b.typeByte ∉ [MsgType.rowDescription, .dataRow, .commandComplete]) :
    b.columnBuffer = columnsAfter b.columnBuffer b.loaded ∧
      calls = calls ++ (callbackOf b.columnBuffer b.loaded).toList ∧
      ∀ c ∈ callbackOf b.columnBuffer b.loaded, handler.accept (calls ++ [c]) = .ok () := by
  have hcols : columnsAfter b.columnBuffer b.loaded = b.columnBuffer := by
    rw [columnsAfter, if_neg]
    intro ht
    exact h (by simp [show b.typeByte = .rowDescription from ht])
  have hnone : callbackOf b.columnBuffer b.loaded = none := by
    unfold callbackOf
    split
    · next ht => exact absurd (by simp [show b.typeByte = .rowDescription from ht]) h
    · next ht => exact absurd (by simp [show b.typeByte = .dataRow from ht]) h
    · next ht => exact absurd (by simp [show b.typeByte = .commandComplete from ht]) h
    · rfl
  rw [hcols, hnone]
  simp

/-- A message that makes a call adds it, if the handler takes it. -/
private theorem account_call {c : Callback} {columns : Bytes}
    (hc : callbackOf b.columnBuffer b.loaded = some c)
    (hcols : columns = columnsAfter b.columnBuffer b.loaded)
    (ha : handler.accept (calls ++ [c]) = .ok ()) :
    columns = columnsAfter b.columnBuffer b.loaded ∧
      calls ++ [c] = calls ++ (callbackOf b.columnBuffer b.loaded).toList ∧
      ∀ c ∈ callbackOf b.columnBuffer b.loaded, handler.accept (calls ++ [c]) = .ok () := by
  rw [hc]
  refine ⟨hcols, rfl, ?_⟩
  intro c' hmem
  cases hmem
  exact ha

end Account

/-! ### The extended query machine -/

namespace ExtendedQueryStateMachine

/-- The machine reads the reply to an Execute, or waits for the messages before it. -/
def Executing (m : ExtendedQueryStateMachine) : Prop :=
  (m.operation = .execute ∨ m.operation = .executeSql) ∧
    m.state ≠ .waitingDescribe ∧ m.state ≠ .waitingRowDesc

instance : HandlerMachine ExtendedQueryStateMachine where
  Started m := m.state ≠ .initial
  handler m := m.handler
  calls m := m.calls
  Executing := Executing

section Handlers

variable {m : ExtendedQueryStateMachine} {b : BufferSet}

private theorem stepped_next {m' : ExtendedQueryStateMachine} {b' : BufferSet} {action : Action}
    (hs : m'.state ≠ .initial) (hh : m'.handler = m.handler)
    (ha : action.reads = true ∧ b.typeByte.within = true ∨
      action.ends = true ∧ b.typeByte = .readyForQuery)
    (hcalls : m.Executing → m'.Executing ∧
      b'.columnBuffer = columnsAfter b.columnBuffer b.loaded ∧
      m'.calls = m.calls ++ (callbackOf b.columnBuffer b.loaded).toList ∧
      ∀ c ∈ callbackOf b.columnBuffer b.loaded, m.handler.accept (m.calls ++ [c]) = .ok ()) :
    Stepped m b (.ok action) (m', b') := Stepped.next hs hh ha hcalls

private theorem stepped_call {c : Callback} {b' : BufferSet}
    {f : Unit → Step ExtendedQueryStateMachine Action} (hs : m.state ≠ .initial)
    (hc : callbackOf b.columnBuffer b.loaded = some c)
    (hf : m.handler.accept (m.calls ++ [c]) = .ok () →
      Act.Meets (f ()) ({ m with calls := m.calls ++ [c] }, b') (Stepped m b)) :
    Act.Meets (callHandler c >>= f) (m, b') (Stepped m b) := by
  have hrun : callHandler c (m, b') =
      (Act.ofExcept (m.handler.accept (m.calls ++ [c])) ({ m with calls := m.calls ++ [c] }, b')) :=
    rfl
  have hs' : HandlerMachine.Started { m with calls := m.calls ++ [c] } := hs
  exact Stepped.call hs' rfl hrun (fun _ => hc) hf

private theorem startResult_stepped (ht : b.typeByte = .rowDescription)
    (hs : m.state ≠ .initial) {f : Unit → Step ExtendedQueryStateMachine Action}
    (hf : ∀ cols, callbackOf b.columnBuffer b.loaded = some (.resultStart cols) →
      m.handler.accept (m.calls ++ [.resultStart cols]) = .ok () →
      Act.Meets (f ()) ({ m with calls := m.calls ++ [.resultStart cols] },
        { b with columnBuffer := b.readBuffer }) (Stepped m b)) :
    Act.Meets (startResult b.readBuffer >>= f) (m, b) (Stepped m b) := by
  simp only [startResult, Act.meets_bind, Act.meets_modify, Act.meets_lift]
  cases hp : RowDescription.parse b.readBuffer with
  | ok cols =>
    have hc : callbackOf b.columnBuffer b.loaded = some (.resultStart cols) := by
      simp [callbackOf, BufferSet.loaded, ht, hp]
    exact Act.meets_bind.mp (stepped_call hs hc (hf cols hc))
  | err e => exact .broken hs rfl (RowDescription.parse_breaks _ e hp)
  | halt => exact .halted hs rfl

private theorem readReady_stepped (hs : m.state ≠ .initial)
    {f : Unit → Step ExtendedQueryStateMachine Action}
    (hf : ∀ status, Act.Meets (f ()) ({ m with transactionStatus := status, state := .finished }, b)
      (Stepped m b)) :
    Act.Meets (readReady b.readBuffer >>= f) (m, b) (Stepped m b) := by
  simp only [readReady, Act.meets_bind, Act.meets_lift]
  cases hp : ReadyForQuery.parse b.readBuffer with
  | ok status => exact hf status
  | err e => exact .broken hs rfl (ReadyForQuery.parse_breaks _ e hp)
  | halt => exact .halted hs rfl

private theorem handleParse_stepped (hs : m.state = .waitingParse) :
    Act.Meets handleParse (m, b) (Stepped m b) := by
  have hne : m.state ≠ .initial := by simp [hs]
  simp only [handleParse, Act.meets_bind, Act.meets_get]
  split
  · next ht =>
    simp only [Act.meets_bind, Act.meets_lift, ParseComplete.parse_eq]
    split
    · exact stepped_next (by simp) rfl (.inl ⟨rfl, by rw [ht]; rfl⟩) fun hx =>
        ⟨⟨hx.1, by simp⟩, account_silent (by rw [ht]; decide)⟩
    · next hop =>
      exact stepped_next (by simp) rfl (.inl ⟨rfl, by rw [ht]; rfl⟩) fun hx => by
        simp [Executing, hop] at hx
    · exact .broken hne rfl rfl
  · exact .broken hne rfl rfl

private theorem handleDescribe_stepped (hs : m.state = .waitingDescribe) :
    Act.Meets handleDescribe (m, b) (Stepped m b) := by
  have hne : m.state ≠ .initial := by simp [hs]
  simp only [handleDescribe, Act.meets_bind, Act.meets_get]
  split
  · next ht =>
    refine Stepped.parse (ParameterDescription.parse_breaks _) hne fun oids _ => ?_
    exact stepped_next (by simp) rfl (.inl ⟨rfl, by rw [ht]; rfl⟩) fun hx => absurd hs hx.2.1
  · exact .broken hne rfl rfl

private theorem handleRowDesc_stepped (hs : m.state = .waitingRowDesc) :
    Act.Meets handleRowDesc (m, b) (Stepped m b) := by
  have hne : m.state ≠ .initial := by simp [hs]
  simp only [handleRowDesc, Act.meets_bind, Act.meets_get]
  split
  · next ht =>
    exact stepped_next (by simp) rfl (.inl ⟨rfl, by rw [ht]; rfl⟩) fun hx => absurd hs hx.2.2
  · next ht =>
    exact stepped_next (by simp) rfl (.inl ⟨rfl, by rw [ht]; rfl⟩) fun hx => absurd hs hx.2.2
  · exact .broken hne rfl rfl

private theorem handleBind_stepped (hs : m.state = .waitingBind) :
    Act.Meets handleBind (m, b) (Stepped m b) := by
  have hne : m.state ≠ .initial := by simp [hs]
  simp only [handleBind, Act.meets_bind, Act.meets_get]
  split
  · next ht =>
    exact stepped_next (by simp) rfl (.inl ⟨rfl, by rw [ht]; rfl⟩) fun hx =>
      ⟨⟨hx.1, by simp⟩, account_silent (by rw [ht]; decide)⟩
  · next ht =>
    refine startResult_stepped ht hne fun cols hc ha => ?_
    exact stepped_next (by simp) rfl (.inl ⟨rfl, by rw [ht]; rfl⟩) fun hx =>
      ⟨⟨hx.1, by simp⟩, account_call hc (by simp [columnsAfter, BufferSet.loaded, ht]) ha⟩
  · exact .broken hne rfl rfl

private theorem handleRows_stepped (hs : m.state = .processingRows) :
    Act.Meets handleRows (m, b) (Stepped m b) := by
  have hne : m.state ≠ .initial := by simp [hs]
  have hrows : m.state ≠ .waitingDescribe ∧ m.state ≠ .waitingRowDesc := by simp [hs]
  simp only [handleRows, Act.meets_bind, Act.meets_get]
  split
  · next ht =>
    refine startResult_stepped ht hne fun cols hc ha => ?_
    exact stepped_next hne rfl (.inl ⟨rfl, by rw [ht]; rfl⟩) fun hx =>
      ⟨⟨hx.1, hrows⟩, account_call hc (by simp [columnsAfter, BufferSet.loaded, ht]) ha⟩
  · next ht =>
    exact stepped_next hne rfl (.inl ⟨rfl, by rw [ht]; rfl⟩) fun hx =>
      ⟨hx, account_silent (by rw [ht]; decide)⟩
  · next ht =>
    refine Stepped.parse (RowDescription.parse_breaks _) hne fun cols hcols => ?_
    refine Stepped.parse (DataRow.parse_breaks _) hne fun row hrow => ?_
    have hc : callbackOf b.columnBuffer b.loaded = some (.row cols row) := by
      simp [callbackOf, BufferSet.loaded, ht, hcols, hrow]
    refine stepped_call hne hc fun ha => ?_
    exact stepped_next hne rfl (.inl ⟨rfl, by rw [ht]; rfl⟩) fun hx =>
      ⟨⟨hx.1, hrows⟩, account_call hc (by simp [columnsAfter, BufferSet.loaded, ht]) ha⟩
  · next ht =>
    refine Stepped.parse (CommandComplete.parse_breaks _) hne fun tag htag => ?_
    have hc : callbackOf b.columnBuffer b.loaded = some (.resultEnd tag) := by
      simp [callbackOf, BufferSet.loaded, ht, htag]
    refine stepped_call hne hc fun ha => ?_
    exact stepped_next (by simp) rfl (.inl ⟨rfl, by rw [ht]; rfl⟩) fun hx =>
      ⟨⟨hx.1, by simp⟩, account_call hc (by simp [columnsAfter, BufferSet.loaded, ht]) ha⟩
  · next ht =>
    exact stepped_next (by simp) rfl (.inl ⟨rfl, by rw [ht]; rfl⟩) fun hx =>
      ⟨⟨hx.1, by simp⟩, account_silent (by rw [ht]; decide)⟩
  · next ht =>
    exact stepped_next (by simp) rfl (.inl ⟨rfl, by rw [ht]; rfl⟩) fun hx =>
      ⟨⟨hx.1, by simp⟩, account_silent (by rw [ht]; decide)⟩
  · next ht =>
    refine readReady_stepped hne fun status => ?_
    exact stepped_next (by simp) rfl (.inr ⟨rfl, ht⟩) fun hx =>
      ⟨⟨hx.1, by simp⟩, account_silent (by rw [ht]; decide)⟩
  · exact .broken hne rfl rfl

private theorem handleReady_stepped (hs : m.state = .waitingReady) :
    Act.Meets handleReady (m, b) (Stepped m b) := by
  have hne : m.state ≠ .initial := by simp [hs]
  simp only [handleReady, Act.meets_bind, Act.meets_get]
  split
  · next ht =>
    refine readReady_stepped hne fun status => ?_
    simp only [Act.meets_modify, takePendingError, Act.meets_bind, Act.meets_get]
    have hcalls (m' : ExtendedQueryStateMachine) (hx : m.Executing)
        (hop : m'.operation = m.operation) (hst : m'.state = .finished) : m'.Executing :=
      ⟨by rw [hop]; exact hx.1, by simp [hst]⟩
    simp only [Act.meets_pure]
    split
    · exact stepped_next (by simp) rfl (.inr ⟨rfl, ht⟩) fun hx =>
        ⟨hcalls _ hx rfl rfl, account_silent (by rw [ht]; decide)⟩
    · exact stepped_next (by simp) rfl (.inr ⟨rfl, ht⟩) fun hx =>
        ⟨hcalls _ hx rfl rfl, account_silent (by rw [ht]; decide)⟩
  · next ht =>
    exact stepped_next hne rfl (.inl ⟨rfl, by rw [ht]; rfl⟩) fun hx =>
      ⟨hx, account_silent (by rw [ht]; decide)⟩
  · exact .broken hne rfl rfl

end Handlers

/-- The handler of each state. -/
theorem handleState_stepped (m : ExtendedQueryStateMachine) (b : BufferSet)
    (hm : m.state ≠ .initial) : Act.Meets (handleState m.state) (m, b) (Stepped m b) := by
  cases hs : m.state with
  | initial => exact absurd hs hm
  | waitingParse => exact handleParse_stepped hs
  | waitingBind => exact handleBind_stepped hs
  | waitingDescribe => exact handleDescribe_stepped hs
  | waitingRowDesc => exact handleRowDesc_stepped hs
  | processingRows => exact handleRows_stepped hs
  | waitingReady => exact handleReady_stepped hs
  | finished => exact .broken hm rfl rfl

/-- The step of a machine that has started. -/
theorem step_started {m : ExtendedQueryStateMachine} (hm : m.state ≠ .initial) (b : BufferSet) :
    step (m, b) =
      (if b.typeByte.isAsync then Act.lift (handleAsyncMessage b.loaded)
      else if b.typeByte = .errorResponse then do
        let error ← Act.lift (ErrorResponse.parse b.readBuffer)
        Act.modify fun (m, b) =>
          ({ m with pendingError := some error, state := .waitingReady }, b)
        return .readMessage
      else handleState m.state : Step ExtendedQueryStateMachine Action) (m, b) := by
  unfold step
  rw [Act.bind_run]
  dsimp only [Act.get_run]
  cases hs : m.state with
  | initial => exact absurd hs hm
  | _ => rfl

instance : LawfulStateMachine ExtendedQueryStateMachine where
  step_meets m b hm := by
    refine .of_run_eq (step_started hm b) ?_
    split
    · next ha => exact Stepped.async hm ha
    · split
      · next ht =>
        refine Stepped.parse (ErrorResponse.parse_breaks _) hm fun error _ => ?_
        exact stepped_next (by simp) rfl (.inl ⟨rfl, by rw [ht]; rfl⟩) fun hx =>
          ⟨⟨hx.1, by simp⟩, account_silent (by rw [ht]; decide)⟩
      · exact handleState_stepped m b hm
  step_async m b msg hm hmsg := by
    have hrun := step_started hm b
    have ha : b.typeByte.isAsync = true := isAsync_of_toAsync hmsg
    rw [if_pos ha, Act.lift_run, handleAsyncMessage_of_toAsync hmsg] at hrun
    exact hrun

end ExtendedQueryStateMachine

/-! ### The simple query machine -/

namespace SimpleQueryStateMachine

instance : HandlerMachine SimpleQueryStateMachine where
  Started m := m.state ≠ .initial
  handler m := m.handler
  calls m := m.calls
  Executing _ := True

section Handlers

variable {m : SimpleQueryStateMachine} {b : BufferSet}

private theorem simple_next {m' : SimpleQueryStateMachine} {b' : BufferSet} {action : Action}
    (hs : m'.state ≠ .initial) (hh : m'.handler = m.handler)
    (ha : action.reads = true ∧ b.typeByte.within = true ∨
      action.ends = true ∧ b.typeByte = .readyForQuery)
    (hcalls : b'.columnBuffer = columnsAfter b.columnBuffer b.loaded ∧
      m'.calls = m.calls ++ (callbackOf b.columnBuffer b.loaded).toList ∧
      ∀ c ∈ callbackOf b.columnBuffer b.loaded, m.handler.accept (m.calls ++ [c]) = .ok ()) :
    Stepped m b (.ok action) (m', b') := Stepped.next hs hh ha fun _ => ⟨trivial, hcalls⟩

private theorem simple_call {c : Callback} {b' : BufferSet}
    {f : Unit → Step SimpleQueryStateMachine Action} (hs : m.state ≠ .initial)
    (hc : callbackOf b.columnBuffer b.loaded = some c)
    (hf : m.handler.accept (m.calls ++ [c]) = .ok () →
      Act.Meets (f ()) ({ m with calls := m.calls ++ [c] }, b') (Stepped m b)) :
    Act.Meets (callHandler c >>= f) (m, b') (Stepped m b) := by
  have hrun : callHandler c (m, b') =
      (Act.ofExcept (m.handler.accept (m.calls ++ [c])) ({ m with calls := m.calls ++ [c] }, b')) :=
    rfl
  have hs' : HandlerMachine.Started { m with calls := m.calls ++ [c] } := hs
  exact Stepped.call hs' rfl hrun (fun _ => hc) hf

private theorem simple_readReady (hs : m.state ≠ .initial)
    {f : Unit → Step SimpleQueryStateMachine Action}
    (hf : ∀ status, Act.Meets (f ()) ({ m with transactionStatus := status, state := .finished }, b)
      (Stepped m b)) :
    Act.Meets (readReady b.readBuffer >>= f) (m, b) (Stepped m b) := by
  simp only [readReady, Act.meets_bind, Act.meets_lift]
  cases hp : ReadyForQuery.parse b.readBuffer with
  | ok status => exact hf status
  | err e => exact .broken hs rfl (ReadyForQuery.parse_breaks _ e hp)
  | halt => exact .halted hs rfl

private theorem endResult_stepped (hs : m.state ≠ .initial) (ht : b.typeByte = .commandComplete) :
    Act.Meets (endResult b.readBuffer) (m, b) (Stepped m b) := by
  unfold endResult
  refine Stepped.parse (CommandComplete.parse_breaks _) hs fun tag htag => ?_
  have hc : callbackOf b.columnBuffer b.loaded = some (.resultEnd tag) := by
    simp [callbackOf, BufferSet.loaded, ht, htag]
  refine simple_call hs hc fun ha => ?_
  exact simple_next (by simp) rfl (.inl ⟨rfl, by rw [ht]; rfl⟩)
    (account_call hc (by simp [columnsAfter, BufferSet.loaded, ht]) ha)

private theorem handleResponse_stepped (hs : m.state = .waitingResponse) :
    Act.Meets handleResponse (m, b) (Stepped m b) := by
  have hne : m.state ≠ .initial := by simp [hs]
  simp only [handleResponse, Act.meets_bind, Act.meets_get]
  split
  · next ht =>
    simp only [Act.meets_bind, Act.meets_modify, Act.meets_lift]
    cases hp : RowDescription.parse b.readBuffer with
    | ok cols =>
      have hc : callbackOf b.columnBuffer b.loaded = some (.resultStart cols) := by
        simp [callbackOf, BufferSet.loaded, ht, hp]
      have hcall : Act.Meets
          (callHandler (.resultStart cols) >>= fun _ =>
            setState .processingRows >>= fun _ => pure .readMessage)
          (m, { b with columnBuffer := b.readBuffer }) (Stepped m b) := by
        refine simple_call hne hc fun ha => ?_
        exact simple_next (by simp) rfl (.inl ⟨rfl, by rw [ht]; rfl⟩)
          (account_call hc (by simp [columnsAfter, BufferSet.loaded, ht]) ha)
      simpa only [Act.meets_bind] using hcall
    | err e => exact .broken hne rfl (RowDescription.parse_breaks _ e hp)
    | halt => exact .halted hne rfl
  · next ht => exact endResult_stepped hne ht
  · next ht =>
    exact simple_next (by simp) rfl (.inl ⟨rfl, by rw [ht]; rfl⟩)
      (account_silent (by rw [ht]; decide))
  · next ht =>
    refine simple_readReady hne fun status => ?_
    exact simple_next (by simp) rfl (.inr ⟨rfl, ht⟩)
      (account_silent (by rw [ht]; decide))
  · exact .broken hne rfl rfl

private theorem handleRows_simple (hs : m.state = .processingRows) :
    Act.Meets handleRows (m, b) (Stepped m b) := by
  have hne : m.state ≠ .initial := by simp [hs]
  simp only [handleRows, Act.meets_bind, Act.meets_get]
  split
  · next ht =>
    refine Stepped.parse (RowDescription.parse_breaks _) hne fun cols hcols => ?_
    refine Stepped.parse (DataRow.parse_breaks _) hne fun row hrow => ?_
    have hc : callbackOf b.columnBuffer b.loaded = some (.row cols row) := by
      simp [callbackOf, BufferSet.loaded, ht, hcols, hrow]
    refine simple_call hne hc fun ha => ?_
    exact simple_next hne rfl (.inl ⟨rfl, by rw [ht]; rfl⟩)
      (account_call hc (by simp [columnsAfter, BufferSet.loaded, ht]) ha)
  · next ht => exact endResult_stepped hne ht
  · next ht =>
    refine simple_readReady hne fun status => ?_
    exact simple_next (by simp) rfl (.inr ⟨rfl, ht⟩)
      (account_silent (by rw [ht]; decide))
  · exact .broken hne rfl rfl

private theorem handleReady_simple (hs : m.state = .waitingReady) :
    Act.Meets handleReady (m, b) (Stepped m b) := by
  have hne : m.state ≠ .initial := by simp [hs]
  simp only [handleReady, Act.meets_bind, Act.meets_get]
  split
  · next ht =>
    refine simple_readReady hne fun status => ?_
    simp only [Act.meets_modify, takePendingError, Act.meets_bind, Act.meets_get, Act.meets_pure]
    split
    · exact simple_next (by simp) rfl (.inr ⟨rfl, ht⟩)
        (account_silent (by rw [ht]; decide))
    · exact simple_next (by simp) rfl (.inr ⟨rfl, ht⟩)
        (account_silent (by rw [ht]; decide))
  · exact .broken hne rfl rfl

end Handlers

/-- The handler of each state. -/
theorem handleState_stepped (m : SimpleQueryStateMachine) (b : BufferSet)
    (hm : m.state ≠ .initial) : Act.Meets (handleState m.state) (m, b) (Stepped m b) := by
  cases hs : m.state with
  | initial => exact absurd hs hm
  | waitingResponse => exact handleResponse_stepped hs
  | processingRows => exact handleRows_simple hs
  | waitingReady => exact handleReady_simple hs
  | finished => exact .broken hm rfl rfl

/-- The step of a machine that has started. -/
theorem step_started {m : SimpleQueryStateMachine} (hm : m.state ≠ .initial) (b : BufferSet) :
    step (m, b) =
      (if b.typeByte.isAsync then Act.lift (handleAsyncMessage b.loaded)
      else if b.typeByte = .errorResponse then do
        let error ← Act.lift (ErrorResponse.parse b.readBuffer)
        Act.modify fun (m, b) =>
          ({ m with pendingError := some error, state := .waitingReady }, b)
        return .readMessage
      else handleState m.state : Step SimpleQueryStateMachine Action) (m, b) := by
  unfold step
  rw [Act.bind_run]
  dsimp only [Act.get_run]
  cases hs : m.state with
  | initial => exact absurd hs hm
  | _ => rfl

instance : LawfulStateMachine SimpleQueryStateMachine where
  step_meets m b hm := by
    refine .of_run_eq (step_started hm b) ?_
    split
    · next ha => exact Stepped.async hm ha
    · split
      · next ht =>
        refine Stepped.parse (ErrorResponse.parse_breaks _) hm fun error _ => ?_
        exact simple_next (by simp) rfl (.inl ⟨rfl, by rw [ht]; rfl⟩)
          (account_silent (by rw [ht]; decide))
      · exact handleState_stepped m b hm
  step_async m b msg hm hmsg := by
    have hrun := step_started hm b
    have ha : b.typeByte.isAsync = true := isAsync_of_toAsync hmsg
    rw [if_pos ha, Act.lift_run, handleAsyncMessage_of_toAsync hmsg] at hrun
    exact hrun

end SimpleQueryStateMachine

/-! ### What the machines report -/

/-- A query machine reports what it was given: it hands on nothing but the asynchronous message in
the buffers, and it ends with the transaction status of the ReadyForQuery there. -/
class Reports (S : Type) [StateMachine S] [LawfulStateMachine S] : Prop where
  step_started : ∀ (s : S) (b : BufferSet), HandlerMachine.Started (StateMachine.step (s, b)).2.1
  step_handsOn : ∀ (s : S) (b : BufferSet) (msg : AsyncMessage), HandlerMachine.Started s →
    (StateMachine.step (s, b)).1 = .ok (.handleAsyncMessageAndReadMessage msg) →
    b.loaded.toAsync? = some msg
  reportsStatus : ReportsStatus (StateMachine.step (S := S)) HandlerMachine.Started
    StateMachine.transactionStatus

section Reports

variable {S : Type} {status : S → TransactionStatus} {x : Step S Action} {b : BufferSet}
  {r : S × BufferSet}

/-- A step that hands an asynchronous message on, or closes. -/
private theorem handsOn_of_closes (hx : Act.Meets x r (Closes status b)) {msg : AsyncMessage}
    (h : ((if b.typeByte.isAsync = true then Act.lift (handleAsyncMessage b.loaded) else x :
      Step S Action) r).1 = .ok (.handleAsyncMessageAndReadMessage msg)) :
    b.loaded.toAsync? = some msg := by
  split at h
  · obtain ⟨note, haction, hnote⟩ := toAsync_of_handleAsyncMessage h
    cases haction
    exact hnote
  · rw [Act.Meets, h] at hx
    rcases hx with h | ⟨h, -⟩
    · cases h
    · cases h

@[inherit_doc handsOn_of_closes]
private theorem reads_or_closes (hx : Act.Meets x r (Closes status b)) {action : Action}
    (h : ((if b.typeByte.isAsync = true then Act.lift (handleAsyncMessage b.loaded) else x :
      Step S Action) r).1 = .ok action) : action.reads = true ∨
    Act.Meets (if b.typeByte.isAsync = true then Act.lift (handleAsyncMessage b.loaded) else x :
      Step S Action) r (Closes status b) := by
  split at h
  · exact .inl (handleAsyncMessage_reads h).1
  · next ha =>
    rw [if_neg ha]
    exact .inr hx

end Reports

namespace ExtendedQueryStateMachine

section Closing

variable {m : ExtendedQueryStateMachine} {b : BufferSet}

private theorem handleParse_closes :
    Act.Meets handleParse (m, b) (Closes (·.transactionStatus) b) := by
  refine closes_get ?_
  dsimp only
  split
  · refine closes_bind fun _ _ _ => ?_
    split
    · exact closes_bind fun _ _ _ => closes_read
    · exact closes_bind fun _ _ _ => closes_read
    · exact closes_fail
  · exact closes_fail

private theorem handleDescribe_closes :
    Act.Meets handleDescribe (m, b) (Closes (·.transactionStatus) b) := by
  refine closes_get ?_
  dsimp only
  split
  · exact closes_bind fun _ _ _ => closes_bind fun _ _ _ => closes_bind fun _ _ _ => closes_read
  · exact closes_fail

private theorem handleRowDesc_closes :
    Act.Meets handleRowDesc (m, b) (Closes (·.transactionStatus) b) := by
  refine closes_get ?_
  dsimp only
  split
  · exact closes_bind fun _ _ _ => closes_bind fun _ _ _ => closes_read
  · exact closes_bind fun _ _ _ => closes_bind fun _ _ _ => closes_read
  · exact closes_fail

private theorem handleBind_closes :
    Act.Meets handleBind (m, b) (Closes (·.transactionStatus) b) := by
  refine closes_get ?_
  dsimp only
  split
  · exact closes_bind fun _ _ _ => closes_bind fun _ _ _ => closes_read
  · exact closes_bind fun _ _ _ => closes_bind fun _ _ _ => closes_read
  · exact closes_fail

/-- A ReadyForQuery that is read leaves its status in the machine. -/
private theorem readReady_reports {r : ExtendedQueryStateMachine × BufferSet}
    (h : readReady b.readBuffer (m, b) = (.ok (), r)) :
    ReadyForQuery.parse b.readBuffer = .ok r.1.transactionStatus := by
  obtain ⟨status, _, hparse, hset⟩ := Act.bind_eq_ok_iff.mp h
  cases hset
  exact congrArg Prod.fst hparse

private theorem handleRows_closes :
    Act.Meets handleRows (m, b) (Closes (·.transactionStatus) b) := by
  refine closes_get ?_
  dsimp only
  split
  · exact closes_bind fun _ _ _ => closes_read
  · exact closes_bind fun _ _ _ => closes_read
  · exact closes_bind fun _ _ _ => closes_bind fun _ _ _ => closes_bind fun _ _ _ => closes_read
  · exact closes_bind fun _ _ _ => closes_bind fun _ _ _ => closes_bind fun _ _ _ => closes_read
  · exact closes_bind fun _ _ _ => closes_bind fun _ _ _ => closes_read
  · exact closes_bind fun _ _ _ => closes_bind fun _ _ _ => closes_read
  · exact closes_bind fun _ _ hread => .inr ⟨rfl, readReady_reports hread⟩
  · exact closes_fail

private theorem handleReady_closes :
    Act.Meets handleReady (m, b) (Closes (·.transactionStatus) b) := by
  refine closes_get ?_
  dsimp only
  split
  · refine closes_bind fun _ r hread => closes_bind fun error r' htake => ?_
    cases htake
    have hparse := readReady_reports hread
    split
    · exact .inr ⟨rfl, hparse⟩
    · exact .inr ⟨rfl, hparse⟩
  · exact closes_bind fun _ _ _ => closes_read
  · exact closes_fail

end Closing

/-- The handler of each state. -/
theorem handleState_closes (m : ExtendedQueryStateMachine) (b : BufferSet)
    (state : ExtendedState) :
    Act.Meets (handleState state) (m, b) (Closes (·.transactionStatus) b) := by
  cases state with
  | waitingParse => exact handleParse_closes
  | waitingDescribe => exact handleDescribe_closes
  | waitingRowDesc => exact handleRowDesc_closes
  | waitingBind => exact handleBind_closes
  | processingRows => exact handleRows_closes
  | waitingReady => exact handleReady_closes
  | initial => exact closes_fail
  | finished => exact closes_fail

/-- The step of a machine that has started, past asynchronous messages. -/
private theorem started_closes (m : ExtendedQueryStateMachine) (b : BufferSet) :
    Act.Meets (if b.typeByte = .errorResponse then do
        let error ← Act.lift (ErrorResponse.parse b.readBuffer)
        Act.modify fun (m, b) =>
          ({ m with pendingError := some error, state := .waitingReady }, b)
        return .readMessage
      else handleState m.state : Step ExtendedQueryStateMachine Action) (m, b)
      (Closes (·.transactionStatus) b) := by
  split
  · exact closes_bind fun _ _ _ => closes_bind fun _ _ _ => closes_read
  · exact handleState_closes m b m.state

instance : Reports ExtendedQueryStateMachine where
  step_started m b := by
    by_cases hm : m.state = .initial
    · have hfirst : firstState m.operation ≠ .initial := by
        cases m.operation <;> simp [firstState]
      have hstep : step (m, b) =
          (.ok .writeAndReadMessage, ({ m with state := firstState m.operation }, b)) := by
        unfold step
        rw [Act.bind_run]
        dsimp only [Act.get_run]
        rw [hm]
        rfl
      change HandlerMachine.Started (step (m, b)).2.1
      rw [hstep]
      exact hfirst
    · exact (LawfulStateMachine.step_meets m b hm).at.started
  step_handsOn m b msg hm h :=
    handsOn_of_closes (started_closes m b) ((congrArg Prod.fst (step_started hm b)).symm.trans h)
  reportsStatus := reportsStatus_of_step fun m b hm action h =>
    (reads_or_closes (started_closes m b)
      ((congrArg Prod.fst (step_started hm b)).symm.trans h)).imp_right
      (.of_run_eq (step_started hm b))

end ExtendedQueryStateMachine

namespace SimpleQueryStateMachine

section Closing

variable {m : SimpleQueryStateMachine} {b : BufferSet}

private theorem simple_endResult_closes (payload : Bytes) :
    Act.Meets (endResult payload) (m, b) (Closes (·.transactionStatus) b) :=
  closes_bind fun _ _ _ => closes_bind fun _ _ _ => closes_bind fun _ _ _ => closes_read

private theorem simple_readReady_reports {r : SimpleQueryStateMachine × BufferSet}
    (h : readReady b.readBuffer (m, b) = (.ok (), r)) :
    ReadyForQuery.parse b.readBuffer = .ok r.1.transactionStatus := by
  obtain ⟨status, _, hparse, hset⟩ := Act.bind_eq_ok_iff.mp h
  cases hset
  exact congrArg Prod.fst hparse

private theorem handleResponse_closes :
    Act.Meets handleResponse (m, b) (Closes (·.transactionStatus) b) := by
  refine closes_get ?_
  dsimp only
  split
  · exact closes_bind fun _ _ _ => closes_bind fun _ _ _ => closes_bind fun _ _ _ =>
      closes_bind fun _ _ _ => closes_read
  · exact simple_endResult_closes _
  · exact closes_bind fun _ _ _ => closes_bind fun _ _ _ => closes_read
  · exact closes_bind fun _ _ hread => .inr ⟨rfl, simple_readReady_reports hread⟩
  · exact closes_fail

private theorem simple_handleRows_closes :
    Act.Meets handleRows (m, b) (Closes (·.transactionStatus) b) := by
  refine closes_get ?_
  dsimp only
  split
  · exact closes_bind fun _ _ _ => closes_bind fun _ _ _ => closes_bind fun _ _ _ => closes_read
  · exact simple_endResult_closes _
  · exact closes_bind fun _ _ hread => .inr ⟨rfl, simple_readReady_reports hread⟩
  · exact closes_fail

private theorem simple_handleReady_closes :
    Act.Meets handleReady (m, b) (Closes (·.transactionStatus) b) := by
  refine closes_get ?_
  dsimp only
  split
  · refine closes_bind fun _ r hread => closes_bind fun error r' htake => ?_
    cases htake
    have hparse := simple_readReady_reports hread
    split
    · exact .inr ⟨rfl, hparse⟩
    · exact .inr ⟨rfl, hparse⟩
  · exact closes_fail

end Closing

/-- The handler of each state. -/
theorem handleState_closes (m : SimpleQueryStateMachine) (b : BufferSet) (state : SimpleState) :
    Act.Meets (handleState state) (m, b) (Closes (·.transactionStatus) b) := by
  cases state with
  | waitingResponse => exact handleResponse_closes
  | processingRows => exact simple_handleRows_closes
  | waitingReady => exact simple_handleReady_closes
  | initial => exact closes_fail
  | finished => exact closes_fail

/-- The step of a machine that has started, past asynchronous messages. -/
private theorem simple_started_closes (m : SimpleQueryStateMachine) (b : BufferSet) :
    Act.Meets (if b.typeByte = .errorResponse then do
        let error ← Act.lift (ErrorResponse.parse b.readBuffer)
        Act.modify fun (m, b) =>
          ({ m with pendingError := some error, state := .waitingReady }, b)
        return .readMessage
      else handleState m.state : Step SimpleQueryStateMachine Action) (m, b)
      (Closes (·.transactionStatus) b) := by
  split
  · exact closes_bind fun _ _ _ => closes_bind fun _ _ _ => closes_read
  · exact handleState_closes m b m.state

instance : Reports SimpleQueryStateMachine where
  step_started m b := by
    by_cases hm : m.state = .initial
    · have hstep : (step (m, b)).2.1.state = .waitingResponse := by
        unfold step
        rw [Act.bind_run]
        dsimp only [Act.get_run]
        rw [hm]
        rfl
      change (step (m, b)).2.1.state ≠ .initial
      rw [hstep]
      decide
    · exact (LawfulStateMachine.step_meets m b hm).at.started
  step_handsOn m b msg hm h :=
    handsOn_of_closes (simple_started_closes m b)
      ((congrArg Prod.fst (step_started hm b)).symm.trans h)
  reportsStatus := reportsStatus_of_step fun m b hm action h =>
    (reads_or_closes (simple_started_closes m b)
      ((congrArg Prod.fst (step_started hm b)).symm.trans h)).imp_right
      (.of_run_eq (step_started hm b))

end SimpleQueryStateMachine

end ZeroPostgres
