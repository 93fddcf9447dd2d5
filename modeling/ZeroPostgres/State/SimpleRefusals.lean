import ZeroPostgres.State.Refusals
import ZeroPostgres.State.SimpleConformance

/-!
# Refused calls of a simple query, and all calls of both machines

The simple query machine fails with its handler's error as the extended one does. `run_queried` and
`run_answered` say for any handler how a whole reply ends, and that a machine whose handler refuses
nothing has made every call of the reply.
-/

namespace ZeroPostgres

namespace SimpleQueryStateMachine

variable {m : SimpleQueryStateMachine} {b : BufferSet} {x : RawMessage} {e : Error}

/-- A run whose first step fails. -/
private theorem run_head {ms : List RawMessage} (h : (step (m, b.load x)).1 = .err e) :
    (runMachine step (x :: ms) (m, b)).1 = .err e := by
  rcases hrun : step (m, b.load x) with ⟨o, r⟩
  rw [hrun] at h
  dsimp only at h
  subst h
  rw [runMachine_fails hrun]

/-- The machine on results, complete or not, whose handler refuses a call. The induction is on the
messages. -/
theorem run_refused {inRows : Bool} {r : List RawMessage} (h : Answering inRows r) :
    ∀ (m : SimpleQueryStateMachine) (b : BufferSet), m.state = reads inRows →
      (inRows = true → ∃ cols, RowDescription.parse b.columnBuffer = .ok cols) →
      Refuses m.handler e m.calls (callbacksOf b.columnBuffer r) →
      ∀ rest, (runMachine step (r ++ rest) (m, b)).1 = .err e := by
  induction h with
  | nil =>
    intro m b _ _ hr
    exact hr.elim
  | @columns x ms hx _ ih =>
    intro m b hs _ hr rest
    obtain ⟨cols, hcols⟩ := columns_parse hx
    have hc : callbacksOf b.columnBuffer (x :: ms) =
        .resultStart cols :: callbacksOf x.payload ms := by
      simp [callbacksOf, callbackOf, columnsAfter, hx.1, hcols]
    have hplain : step (m, b.load x) = handleState m.state (m, b.load x) :=
      step_plain (by simp [hs, reads]) (by rw [hx.1]; rfl) (by simp [hx.1])
    rw [hc] at hr
    rw [List.cons_append]
    rcases hr with he | ⟨ha, hr⟩
    · apply run_head
      rw [hplain, hs]
      simp [reads, handleState, handleResponse, Act.bind_run, hx.1, hcols, callHandler,
        Handler.call, he]
    · have hstep : step (m, b.load x) = (.ok .readMessage,
          ({ m with calls := m.calls ++ [.resultStart cols], state := .processingRows },
            { b.load x with columnBuffer := x.payload })) := by
        rw [hplain, hs]
        simp [reads, handleState, handleResponse, Act.bind_run, hx.1, hcols, callHandler,
          Handler.call, ha, setState]
      rw [runMachine_read hstep]
      exact ih { m with calls := m.calls ++ [.resultStart cols], state := .processingRows }
        { b.load x with columnBuffer := x.payload } rfl (fun _ => ⟨cols, hcols⟩) hr rest
  | @row x ms hx _ ih =>
    intro m b hs hcols hr rest
    obtain ⟨cols, hcols⟩ := hcols rfl
    obtain ⟨row, hrow⟩ := row_parse hx
    have hc : callbacksOf b.columnBuffer (x :: ms) =
        .row cols row :: callbacksOf b.columnBuffer ms := by
      simp [callbacksOf, callbackOf, columnsAfter, hx.1, hcols, hrow]
    have hplain : step (m, b.load x) = handleState m.state (m, b.load x) :=
      step_plain (by simp [hs, reads]) (by rw [hx.1]; rfl) (by simp [hx.1])
    rw [hc] at hr
    rw [List.cons_append]
    rcases hr with he | ⟨ha, hr⟩
    · apply run_head
      rw [hplain, hs]
      simp [reads, handleState, handleRows, Act.bind_run, hx.1, hcols, hrow, callHandler,
        Handler.call, he]
    · have hstep : step (m, b.load x) =
          (.ok .readMessage, ({ m with calls := m.calls ++ [.row cols row] }, b.load x)) := by
        rw [hplain, hs]
        simp [reads, handleState, handleRows, Act.bind_run, hx.1, hcols, hrow, callHandler,
          Handler.call, ha]
        exact hs
      rw [runMachine_read hstep]
      exact ih { m with calls := m.calls ++ [.row cols row] } (b.load x) hs
        (fun _ => ⟨cols, hcols⟩) hr rest
  | @complete inRows tag x ms hx _ ih =>
    intro m b hs _ hr rest
    have hc : callbacksOf b.columnBuffer (x :: ms) =
        .resultEnd tag :: callbacksOf b.columnBuffer ms := by
      simp [callbacksOf, callbackOf, columnsAfter, hx.1, hx.2]
    rw [hc] at hr
    rw [List.cons_append]
    rcases hr with he | ⟨ha, hr⟩
    · apply run_head
      rw [step_plain (by rw [hs]; cases inRows <;> simp [reads]) (by rw [hx.1]; rfl)
        (by simp [hx.1]), hs]
      cases inRows <;>
        simp [reads, handleState, handleResponse, handleRows, endResult, Act.bind_run, hx.1, hx.2,
          callHandler, Handler.call, he]
    · rw [runMachine_read (step_complete hs hx ha)]
      exact ih { m with calls := m.calls ++ [.resultEnd tag], state := .waitingResponse }
        (b.load x) rfl (by simp) hr rest

/-- How the reply to a Query ends, asynchronous messages anywhere in it: with the handler's error
when the handler refuses a call, and otherwise with the error of the reply, all its calls made. -/
theorem run_queried {error : Option ServerError} {status : TransactionStatus}
    {ms : List RawMessage} (hans : Answer error status (core ms))
    (hwell : ∀ x ∈ ms, x.isAsync = true → x.wellFormed = true) (hs : m.state = .waitingResponse)
    (he : m.pendingError = none) :
    (Willing m.handler m.calls (callbacksOf b.columnBuffer (core ms)) →
      ∃ v r, runMachine step ms (m, b) = (.ok v, r) ∧ v.error = error ∧
        r.1.calls = m.calls ++ callbacksOf b.columnBuffer (core ms)) ∧
    ∀ e, Refuses m.handler e m.calls (callbacksOf b.columnBuffer (core ms)) →
      (runMachine step ms (m, b)).1 = .err e := by
  have hpass := LawfulStateMachine.passesAsync SimpleQueryStateMachine
  have hstarted : HandlerMachine.Started m := by simp [HandlerMachine.Started, hs]
  constructor
  · intro hw
    obtain ⟨m', b', hrun, -, hcalls⟩ := run_answer (b := b) hans hs he hw
    obtain ⟨body, z, tail, -, -, -, hall⟩ := runMachine_core hpass hstarted hwell rfl rfl hrun
    exact ⟨_, _, hall, rfl, hcalls⟩
  · intro e hr
    refine runMachine_core_err hpass hstarted hwell rfl rfl ?_
    generalize core ms = reply at hans hr ⊢
    cases hans with
    | empty hx hz =>
      simp [callbacksOf, callbackOf, hx.1, hz.1, Refuses] at hr
    | @results ms _ z hms hz =>
      rw [callbacksOf_append fun c => by simp [callbacksOf, callbackOf, hz.1]] at hr
      exact run_refused hms m b hs (by simp) hr [z]
    | @error ms e' x _ z hms hx hz =>
      rw [callbacksOf_append fun c => by simp [callbacksOf, callbackOf, hx.1, hz.1]] at hr
      exact run_refused hms m b hs (by simp) hr [x, z]

end SimpleQueryStateMachine

namespace ExtendedQueryStateMachine

variable {m : ExtendedQueryStateMachine} {b : BufferSet}

/-- A run on the reply to an Execute and its Sync whose handler refuses nothing has made every call
of the reply. -/
theorem run_answered {stage : Stage} {fate : Fate} {sync : Option ServerError}
    {status : TransactionStatus} {ms r₁ r₂ : List RawMessage} (hread : Reading stage fate r₁)
    (hsync : SyncReply fate.error?.isSome sync status r₂) (hcore : core ms = r₁ ++ r₂)
    (hwell : ∀ x ∈ ms, x.isAsync = true → x.wellFormed = true) (hat : At stage m b)
    (hw : Willing m.handler m.calls (callbacksOf b.columnBuffer r₁)) :
    ∃ v r, runMachine step ms (m, b) = (.ok v, r) ∧ v.error = fate.error?.or sync ∧
      r.1.calls = m.calls ++ callbacksOf b.columnBuffer r₁ := by
  obtain ⟨b', hrun⟩ := run_reading hread m b hat hw
  obtain ⟨b₁, hrun'⟩ := run_sync (m := m.answered (callbacksOf b.columnBuffer r₁) fate.error?)
    (b := b') hsync rfl
  rw [← hrun, ← hcore] at hrun'
  obtain ⟨body, z, tail, -, -, -, hall⟩ := runMachine_core
    (LawfulStateMachine.passesAsync ExtendedQueryStateMachine) hat.ne_initial hwell rfl rfl hrun'
  exact ⟨_, _, hall, rfl, rfl⟩

end ExtendedQueryStateMachine

end ZeroPostgres
