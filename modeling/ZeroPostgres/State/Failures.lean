import ZeroPostgres.State.BatchRuns
import ZeroPostgres.State.Steps

/-!
# How runs fail

A run that fails leaves the messages behind that it did not ask for, so it matters whether its
error breaks the connection. The query machines fail where their handler does, the batch machine
does not fail on a conformant reply at all, and the batch-prepare machine and the bind machine
fail with the error of the server.
-/

namespace ZeroPostgres

section Runs

variable {S : Type} {step : Step S Action} {s : S} {b : BufferSet} {ms : List RawMessage}

/-- A run that ends has ended at a message at which a step may end. -/
theorem runMachine_last (Inv : S → Prop) (ends : MsgType → Bool)
    (hinv : ∀ s b, Inv s → Inv (step (s, b)).2.1)
    (hends : ∀ s b action, Inv s → (step (s, b)).1 = .ok action → action.ends = true →
      ends b.typeByte = true) (hs : Inv s) {v : Verdict} {r : S × BufferSet}
    (h : runMachine step ms (s, b) = (.ok v, r)) :
    ∃ body z, ms = body ++ z :: v.unasked ∧ ends z.type = true := by
  induction ms generalizing s b v r with
  | nil => cases h
  | cons m ms ih =>
    have hs' := hinv s (b.load m) hs
    simp only [runMachine, Act.bind_run, Act.modify_run] at h
    rcases hrun : step (s, b.load m) with ⟨action | e | _, s₁, b₁⟩
    · rw [hrun] at h hs'
      have hend := hends s (b.load m) action hs (by rw [hrun])
      have more (v₁ : Verdict) {r₁ : S × BufferSet}
          (h₁ : runMachine step ms (s₁, b₁) = (.ok v₁, r₁)) :
          ∃ body z, m :: ms = body ++ z :: v₁.unasked ∧ ends z.type = true := by
        obtain ⟨body, z, hms, hz⟩ := ih hs' h₁
        exact ⟨m :: body, z, by rw [hms]; rfl, hz⟩
      cases action with
      | readMessage => exact more v h
      | handleAsyncMessageAndReadMessage msg =>
        simp only [Act.bind_run] at h
        rcases hrun' : runMachine step ms (s₁, b₁) with ⟨v₁ | e | _, r₁⟩
        · rw [hrun'] at h
          cases h
          exact more v₁ hrun'
        · rw [hrun'] at h
          cases h
        · rw [hrun'] at h
          cases h
      | error e =>
        cases h
        exact ⟨[], m, rfl, hend rfl⟩
      | finished =>
        cases h
        exact ⟨[], m, rfl, hend rfl⟩
      | _ => cases h
    · rw [hrun] at h
      cases h
    · rw [hrun] at h
      cases h

/-- A run fails with a breaking error when each of its steps does that fails, `Can` being kept by
those that go on. -/
theorem runMachine_breaks (Can : S → BufferSet → List RawMessage → Prop)
    (hstep : ∀ s b m ms, Can s b (m :: ms) → Act.Meets step (s, b.load m) fun o r =>
      Breaks o ∧ ∀ action, o = .ok action → Can r.1 r.2 ms)
    (hcan : Can s b ms) : Breaks (runMachine step ms (s, b)).1 := by
  induction ms generalizing s b with
  | nil => exact .halt
  | cons m ms ih =>
    obtain ⟨hbreaks, hnext⟩ := (hstep s b m ms hcan).at
    simp only [runMachine, Act.bind_run, Act.modify_run]
    rcases hrun : step (s, b.load m) with ⟨action | e | _, s₁, b₁⟩
    · rw [hrun] at hnext
      have h := ih (hnext action rfl)
      cases action with
      | readMessage => exact h
      | handleAsyncMessageAndReadMessage msg =>
        simp only [Act.bind_run]
        generalize runMachine step ms (s₁, b₁) = r at h ⊢
        rcases r with ⟨v | e | _, r⟩
        · exact .ok _
        · exact h
        · exact .halt
      | error e => exact .ok _
      | finished => exact .ok _
      | _ => exact .halt
    · rw [hrun] at hbreaks
      intro e' he
      exact hbreaks e' (by cases he; rfl)
    · exact .halt

end Runs

/-- A query machine that can take the messages to come fails with breaking errors only. -/
theorem LawfulStateMachine.run_breaks {S : Type} [StateMachine S] [LawfulStateMachine S] {s : S}
    {b : BufferSet} {ms : List RawMessage} (hs : HandlerMachine.Started s)
    (hcan : CanTake s b.columnBuffer ms) :
    Breaks (runMachine StateMachine.step ms (s, b)).1 := by
  refine runMachine_breaks (fun s b ms => HandlerMachine.Started s ∧
    CanTake s b.columnBuffer ms) ?_ ⟨hs, hcan⟩
  intro s b m ms ⟨hs, hcan⟩
  have hstep := (LawfulStateMachine.step_meets s (b.load m) hs).at
  unfold Act.Meets
  generalize StateMachine.step (s, b.load m) = r at hstep ⊢
  obtain ⟨o, r⟩ := r
  have hload : CanTake s (b.load m).columnBuffer ((b.load m).loaded :: ms) := hcan
  have htake := hstep.canTake hload
  refine ⟨?_, ?_⟩
  · intro e he
    cases he
    exact htake
  · intro action ha
    cases ha
    exact ⟨hstep.started, htake⟩

/-! ### Machines without handlers -/

/-- The step fails with a breaking error, or with that of the message it reads. -/
def FailsAs {α : Type} (m : RawMessage) (o : Outcome Error α) : Prop :=
  ∀ e, o = .err e → e.isConnectionBroken = true ∨ ∃ e', m.toError? = some e' ∧ e = .server e'

theorem Breaks.failsAs {α : Type} {m : RawMessage} {o : Outcome Error α} (h : Breaks o) :
    FailsAs m o := fun e he => .inl (h e he)

/-- The first error among the messages breaks the connection. -/
def FirstFatal (ms : List RawMessage) : Prop := ∀ e ∈ (errorsIn ms).head?, e.isFatal = true

instance (ms : List RawMessage) : Decidable (FirstFatal ms) :=
  inferInstanceAs (Decidable (∀ e ∈ (errorsIn ms).head?, _))

/-- A machine that fails with the errors of messages breaks the connection where the first of
these errors does. -/
theorem runMachine_firstFatal {S : Type} {step : Step S Action} {Inv : S → Prop}
    (hinv : ∀ s b, Inv s → Inv (step (s, b)).2.1)
    (hfails : ∀ s b, Inv s → FailsAs b.loaded (step (s, b)).1)
    (hok : ∀ s b action, Inv s → (step (s, b)).1 = .ok action → b.typeByte ≠ .errorResponse)
    {s : S} {b : BufferSet} {ms : List RawMessage} (hs : Inv s) (hms : FirstFatal ms) :
    Breaks (runMachine step ms (s, b)).1 := by
  refine runMachine_breaks (fun s _ ms => Inv s ∧ FirstFatal ms) ?_ ⟨hs, hms⟩
  intro s b m ms ⟨hs, hms⟩
  refine ⟨fun e he => ?_, fun action ha => ⟨hinv s _ hs, ?_⟩⟩
  · rcases hfails s (b.load m) hs e he with h | ⟨e', herr, rfl⟩
    · exact h
    · have herr : m.toError? = some e' := herr
      exact hms e' (by simp [errorsIn, herr])
  · have hne : m.type ≠ .errorResponse := hok s (b.load m) action hs ha
    unfold FirstFatal at hms
    rwa [errorsIn_cons_ne hne] at hms

/-- A parser at the start of a step fails with a breaking error. -/
private theorem lift_breaks {S α : Type} {o : Parsed α} (ho : Breaks o) {r : S × BufferSet}
    {f : α → Step S Action} (hf : ∀ a, Act.Meets (f a) r fun o _ => Breaks o) :
    Act.Meets (Act.lift o >>= f) r fun o _ => Breaks o := by
  rw [Act.meets_bind, Act.meets_lift]
  cases o with
  | ok a => exact hf a
  | err e =>
    intro e' he
    cases he
    exact ho e rfl
  | halt => exact .halt

private theorem fail_breaks {S : Type} {e : Error} (he : e.isConnectionBroken = true)
    {r : S × BufferSet} : Act.Meets (Act.fail e : Step S Action) r fun o _ => Breaks o := by
  intro e' h
  cases h
  exact he

/-- The server's error ends the step. -/
private theorem serverError_failsAs {S : Type} {b : BufferSet} (ht : b.typeByte = .errorResponse)
    (r : S × BufferSet) : FailsAs b.loaded ((do
      let error ← Act.lift (ErrorResponse.parse b.readBuffer)
      Act.fail (.server error) : Step S Action) r).1 := by
  rw [Act.bind_run, Act.lift_run]
  cases hp : ErrorResponse.parse b.readBuffer with
  | ok e =>
    intro e' he
    cases he
    exact .inr ⟨e, by simp [RawMessage.toError?, BufferSet.loaded, ht, hp], rfl⟩
  | err e =>
    intro e' he
    cases he
    exact .inl (ErrorResponse.parse_breaks _ e hp)
  | halt =>
    intro e' he
    cases he

namespace BatchStateMachine

/-- The batch machine fails with breaking errors only. -/
theorem step_breaks {m : BatchStateMachine} (hm : m.Started) (b : BufferSet) :
    Act.Meets step (m, b) fun o _ => Breaks o := by
  refine .of_run_eq (step_started hm b) ?_
  split
  · exact .ok _
  · split
    · exact lift_breaks (ErrorResponse.parse_breaks _) fun _ => .ok _
    · split
      · split
        · exact lift_breaks (by rw [ParseComplete.parse_eq]; exact .ok _) fun _ => .ok _
        · exact fail_breaks rfl
      · refine Act.meets_bind.mpr ?_
        rw [Act.meets_get]
        dsimp only
        split
        · exact .ok _
        · exact .ok _
        · exact lift_breaks (RowDescription.parse_breaks _) fun _ => .ok _
        · exact .ok _
        · exact lift_breaks (CommandComplete.parse_breaks _) fun _ => .ok _
        · exact .ok _
        · refine lift_breaks (ReadyForQuery.parse_breaks _) fun status => ?_
          simp only [Act.meets_bind, Act.meets_get, Act.meets_modify]
          split <;> exact .ok _
        · exact fail_breaks rfl
      · exact fail_breaks rfl

theorem run_breaks {m : BatchStateMachine} (hm : m.Started) (b : BufferSet)
    (ms : List RawMessage) : Breaks (runMachine step ms (m, b)).1 :=
  runMachine_breaks (fun m _ _ => m.Started)
    (fun _ _ _ _ hm => ⟨(step_breaks hm _).at, fun _ _ => (step_meets hm _).at.1⟩) hm

end BatchStateMachine

namespace BatchPrepareStateMachine

/-- The batch-prepare machine fails with a breaking error or with that of the server. -/
theorem step_failsAs {m : BatchPrepareStateMachine} (hm : m.Started) (b : BufferSet) :
    Act.Meets step (m, b) fun o _ => FailsAs b.loaded o := by
  refine .of_run_eq (step_started hm b) ?_
  split
  · exact Breaks.failsAs (.ok _)
  · split
    · next ht => exact serverError_failsAs ht _
    · refine Act.Meets.mono (Q := fun o _ => Breaks o) ?_ fun _ _ h => h.failsAs
      split
      · refine Act.meets_bind.mpr ?_
        rw [Act.meets_get]
        dsimp only
        split
        · exact .ok _
        · exact lift_breaks (ParameterDescription.parse_breaks _) fun _ => .ok _
        · exact .ok _
        · exact .ok _
        · exact lift_breaks (ReadyForQuery.parse_breaks _) fun _ => .ok _
        · exact fail_breaks rfl
      · exact fail_breaks rfl

/-- An error of the server ends the run. -/
theorem step_ok {m : BatchPrepareStateMachine} (hm : m.Started) {b : BufferSet} {action : Action}
    (h : (step (m, b)).1 = .ok action) : b.typeByte ≠ .errorResponse := by
  intro ht
  rw [step_started hm] at h
  simp only [ht, MsgType.isAsync, Bool.false_eq_true, if_false, if_true, Act.bind_run] at h
  rcases hp : ErrorResponse.parse b.readBuffer with e | e | _ <;> simp [hp] at h

theorem run_breaks {m : BatchPrepareStateMachine} (hm : m.Started) (b : BufferSet)
    {ms : List RawMessage} (hms : FirstFatal ms) : Breaks (runMachine step ms (m, b)).1 :=
  runMachine_firstFatal (fun _ b hm => (step_meets hm b).at.1)
    (fun _ b hm => (step_failsAs hm b).at) (fun _ _ _ hm h => step_ok hm h) hm hms

end BatchPrepareStateMachine

namespace BindStateMachine

/-- The machine has had its request written. -/
def Started (m : BindStateMachine) : Prop := m.state ≠ .initial

/-- The step of a machine that has started. -/
theorem step_started {m : BindStateMachine} (hm : m.Started) (b : BufferSet) :
    step (m, b) =
      (if b.typeByte.isAsync then pure .readMessage
      else if b.typeByte = .errorResponse then do
        let error ← Act.lift (ErrorResponse.parse b.readBuffer)
        Act.fail (.server error)
      else match m.state with
        | .waitingParse =>
          match b.typeByte with
          | .parseComplete => do
            Act.lift (ParseComplete.parse b.readBuffer)
            Act.modify fun (m, b) => ({ m with state := .waitingBind }, b)
            return .readMessage
          | t => Act.fail (unexpected "Expected ParseComplete, got " t)
        | .waitingBind =>
          match b.typeByte with
          | .bindComplete => do
            Act.lift (BindComplete.parse b.readBuffer)
            Act.modify fun (m, b) => ({ m with state := .finished }, b)
            return .finished
          | t => Act.fail (unexpected "Expected BindComplete, got " t)
        | _ => Act.fail (.libraryBug "Unexpected state Finished") :
        Step BindStateMachine Action) (m, b) := by
  unfold step
  rw [Act.bind_run]
  dsimp only [Act.get_run]
  cases hs : m.state with
  | initial => exact absurd hs hm
  | _ => rfl

/-- The bind machine goes on or ends at BindComplete, and it fails with a breaking error or with
that of the server. -/
theorem step_meets {m : BindStateMachine} (hm : m.Started) (b : BufferSet) :
    Act.Meets step (m, b) fun o r => r.1.Started ∧ FailsAs b.loaded o ∧
      ∀ action, o = .ok action → (b.typeByte ≠ .errorResponse ∧ b.typeByte.within = true) ∧
        (action.ends = true → b.typeByte = .bindComplete) := by
  have reading {m' : BindStateMachine} (hm' : m'.Started)
      (hb : b.typeByte ≠ .errorResponse ∧ b.typeByte.within = true) :
      m'.Started ∧ FailsAs b.loaded (.ok .readMessage : Outcome Error Action) ∧
        ∀ action, Outcome.ok (ε := Error) Action.readMessage = .ok action →
          (b.typeByte ≠ .errorResponse ∧ b.typeByte.within = true) ∧
          (action.ends = true → b.typeByte = .bindComplete) := by
    refine ⟨hm', Breaks.failsAs (.ok _), fun action h => ?_⟩
    cases h
    exact ⟨hb, fun h => by cases h⟩
  have failing {e : Error} (he : e.isConnectionBroken = true) :
      m.Started ∧ FailsAs b.loaded (.err e : Outcome Error Action) ∧
        ∀ action, Outcome.err (α := Action) e = .ok action →
          (b.typeByte ≠ .errorResponse ∧ b.typeByte.within = true) ∧
          (action.ends = true → b.typeByte = .bindComplete) := by
    refine ⟨hm, fun e' h => ?_, fun action h => by cases h⟩
    cases h
    exact .inl he
  refine .of_run_eq (step_started hm b) ?_
  split
  · next ha =>
    refine reading hm ⟨fun ht => ?_, within_of_isAsync ha⟩
    rw [ht] at ha
    cases ha
  · split
    · next ht =>
      refine ⟨?_, serverError_failsAs ht _, ?_⟩
      · rw [Act.bind_run, Act.lift_run]
        cases ErrorResponse.parse b.readBuffer <;> exact hm
      · intro action h
        rw [Act.bind_run, Act.lift_run] at h
        rcases hp : ErrorResponse.parse b.readBuffer with e | e | _ <;> simp [hp] at h
    · split
      · split
        · next ht => exact reading (by simp [Started, Act.bind_run]) (by rw [ht]; decide)
        · exact failing rfl
      · split
        · next ht =>
          refine ⟨by simp [Started, Act.bind_run], Breaks.failsAs (.ok _), fun action h => ?_⟩
          cases h
          exact ⟨by rw [ht]; decide, fun _ => ht⟩
        · exact failing rfl
      · exact failing rfl

theorem run_breaks {m : BindStateMachine} (hm : m.Started) (b : BufferSet)
    {ms : List RawMessage} (hms : FirstFatal ms) : Breaks (runMachine step ms (m, b)).1 :=
  runMachine_firstFatal (fun _ b hm => (step_meets hm b).at.1)
    (fun _ b hm => (step_meets hm b).at.2.1) (fun _ b action hm h =>
      ((step_meets hm b).at.2.2 action h).1.1) hm hms

/-- The machine ends at BindComplete. -/
theorem run_last {m : BindStateMachine} (hm : m.Started) {b : BufferSet} {ms : List RawMessage}
    {v : Verdict} {r : BindStateMachine × BufferSet}
    (h : runMachine step ms (m, b) = (.ok v, r)) :
    ∃ body z, ms = body ++ z :: v.unasked ∧ z.type = .bindComplete := by
  obtain ⟨body, z, hms, hz⟩ := runMachine_last Started (· = .bindComplete)
    (fun _ b hm => (step_meets hm b).at.1) (fun _ b action hm ha he => by
      simpa using ((step_meets hm b).at.2.2 action ha).2 he) hm h
  exact ⟨body, z, hms, by simpa using hz⟩

end BindStateMachine

end ZeroPostgres
