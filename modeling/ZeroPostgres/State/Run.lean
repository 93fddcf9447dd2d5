import ZeroPostgres.State.Action
import ZeroPostgres.Protocol.ParseErrors

/-!
# Runs of the query machines

A query machine apart from its connection. `exchange` steps it on messages for as long as it
asks for more. `LawfulStateMachine` is what drivers rely on: a machine hands on every
asynchronous message, ends at ReadyForQuery and nowhere else, and fails without breaking the
connection only where its handler does.
-/

namespace ZeroPostgres

/-- How a run of a machine ends: the error it reports, the asynchronous messages it handed on
and the messages it did not ask for. -/
structure Verdict where
  error : Option ServerError
  asyncs : List AsyncMessage
  unasked : List RawMessage
deriving DecidableEq, Repr

/-- The action goes on to the next message. -/
def Action.reads : Action → Bool
  | .readMessage | .handleAsyncMessageAndReadMessage _ => true
  | _ => false

/-- The action ends the exchange. -/
def Action.ends : Action → Bool
  | .finished | .error _ => true
  | _ => false

theorem Action.ends_of_reads {action : Action} (h : action.reads = true) :
    action.ends = false := by
  cases action <;> first | rfl | cases h

/-- The message in the buffers. -/
def BufferSet.loaded (b : BufferSet) : RawMessage := ⟨b.typeByte, b.readBuffer⟩

theorem handleAsyncMessage_breaks (m : RawMessage) : Breaks (handleAsyncMessage m) := by
  unfold handleAsyncMessage
  split
  · exact (parseFieldsFrom_breaks _ _ _).bind fun _ => .ok _
  · exact ((readCstr_breaks _).bind fun name => (readCstr_breaks _).bind fun value => .ok _).bind
      fun _ => .ok _
  · exact ((readU32_breaks _).bind fun pid => (readCstr_breaks _).bind fun channel =>
      (readCstr_breaks _).bind fun text => .ok _).bind fun _ => .ok _
  · exact .libraryBug _

/-- Outcomes of `handle_async_message` go on to the next message. -/
theorem handleAsyncMessage_reads {m : RawMessage} {action : Action}
    (h : handleAsyncMessage m = .ok action) : action.reads = true ∧ m.isAsync = true := by
  have hbind {α : Type} {o : Parsed α} {f : α → AsyncMessage}
      (ho : (o.bind fun a => .ok (.handleAsyncMessageAndReadMessage (f a))) = .ok action) :
      action.reads = true := by
    cases o with
    | ok a => cases ho; rfl
    | err e => cases ho
    | halt => cases ho
  unfold handleAsyncMessage at h
  split at h
  · next ht => exact ⟨hbind h, by rw [RawMessage.isAsync, ht]; rfl⟩
  · next ht => exact ⟨hbind h, by rw [RawMessage.isAsync, ht]; rfl⟩
  · next ht => exact ⟨hbind h, by rw [RawMessage.isAsync, ht]; rfl⟩
  · cases h

theorem within_of_isAsync {t : MsgType} (h : t.isAsync = true) : t.within = true := by
  cases t <;> first | rfl | cases h

/-- Asynchronous messages are no part of a result. -/
theorem callbackOf_async {m : RawMessage} (h : m.type.isAsync = true) (columns : Bytes) :
    callbackOf columns m = none ∧ columnsAfter columns m = columns := by
  obtain ⟨t, payload⟩ := m
  cases t <;> first | exact ⟨rfl, rfl⟩ | cases h

/-! ### Runs -/

section Run

variable {S : Type} {step : Step S Action} {s : S} {b : BufferSet} {m : RawMessage}
  {ms : List RawMessage}

/-- Step a machine on one message after the other for as long as it asks for more. A machine
that asks for a message that is not there waits forever. -/
def runMachine (step : Step S Action) : List RawMessage → Step S Verdict
  | [] => Act.halt
  | m :: ms => do
    Act.modify fun (s, b) => (s, b.load m)
    match ← step with
    | .readMessage => runMachine step ms
    | .handleAsyncMessageAndReadMessage msg => do
      let v ← runMachine step ms
      return { v with asyncs := msg :: v.asyncs }
    | .error e => return ⟨some e, [], ms⟩
    | .finished => return ⟨none, [], ms⟩
    | _ => Act.halt

/-- A whole exchange: the machine has its request written and steps through the reply. -/
def exchange (step : Step S Action) (ms : List RawMessage) : Step S Verdict := do
  match ← step with
  | .writeAndReadMessage => runMachine step ms
  | _ => Act.halt

theorem runMachine_read {r : S × BufferSet} (h : step (s, b.load m) = (.ok .readMessage, r)) :
    runMachine step (m :: ms) (s, b) = runMachine step ms r := by
  simp only [runMachine, Act.bind_run, Act.modify_run, h]

theorem runMachine_error {e : ServerError} {r : S × BufferSet}
    (h : step (s, b.load m) = (.ok (.error e), r)) :
    runMachine step (m :: ms) (s, b) = (.ok ⟨some e, [], ms⟩, r) := by
  simp only [runMachine, Act.bind_run, Act.modify_run, h, Act.pure_run]

theorem runMachine_finished {r : S × BufferSet} (h : step (s, b.load m) = (.ok .finished, r)) :
    runMachine step (m :: ms) (s, b) = (.ok ⟨none, [], ms⟩, r) := by
  simp only [runMachine, Act.bind_run, Act.modify_run, h, Act.pure_run]

theorem runMachine_fails {e : Error} {r : S × BufferSet}
    (h : step (s, b.load m) = (.err e, r)) :
    runMachine step (m :: ms) (s, b) = (.err e, r) := by
  simp only [runMachine, Act.bind_run, Act.modify_run, h]

/-- A machine does not see the messages behind those it asks for. -/
theorem runMachine_append {v : Verdict} {r : S × BufferSet} (more : List RawMessage)
    (h : runMachine step ms (s, b) = (.ok v, r)) :
    runMachine step (ms ++ more) (s, b) =
      (.ok { v with unasked := v.unasked ++ more }, r) := by
  induction ms generalizing s b v r with
  | nil => cases h
  | cons m ms ih =>
    simp only [List.cons_append, runMachine, Act.bind_run, Act.modify_run] at h ⊢
    rcases hstep : step (s, b.load m) with ⟨action | e | _, s₁, b₁⟩
    · rw [hstep] at h
      cases action with
      | readMessage => exact ih h
      | handleAsyncMessageAndReadMessage msg =>
        simp only [Act.bind_run] at h ⊢
        rcases hrun : runMachine step ms (s₁, b₁) with ⟨v₁ | e | _, r₁⟩
        · rw [hrun] at h
          rw [ih hrun]
          cases h
          rfl
        · rw [hrun] at h
          cases h
        · rw [hrun] at h
          cases h
      | error e => cases h; rfl
      | finished => cases h; rfl
      | _ => cases h
    · rw [hstep] at h
      cases h
    · rw [hstep] at h
      cases h

/-- The machine reads on from messages within an exchange and ends at ReadyForQuery. -/
structure EndsAtReady (step : Step S Action) (Started : S → Prop) : Prop where
  step_started : ∀ s b, Started s → Started (step (s, b)).2.1
  step_ends : ∀ s b, Started s → ∀ action, (step (s, b)).1 = .ok action →
    action.reads = true ∧ b.typeByte.within = true ∨
    action.ends = true ∧ b.typeByte = .readyForQuery

/-- Where the step of a machine comes from the state's own handler: it reads on, or it ends with the
transaction status that the message in the buffers reports. -/
def Closes (status : S → TransactionStatus) (b : BufferSet) :
    Outcome Error Action → S × BufferSet → Prop
  | .ok action, r => action = .readMessage ∨
      action.ends = true ∧ ReadyForQuery.parse b.readBuffer = .ok (status r.1)
  | _, _ => True

section Closes

variable {status : S → TransactionStatus} {r : S × BufferSet} {α : Type}

theorem closes_read : Act.Meets (pure .readMessage) r (Closes status b) := .inl rfl

theorem closes_fail {e : Error} : Act.Meets (Act.fail e) r (Closes status b) := trivial

theorem closes_bind {x : Act Error (S × BufferSet) α} {f : α → Step S Action}
    (h : ∀ a r', x r = (.ok a, r') → Act.Meets (f a) r' (Closes status b)) :
    Act.Meets (x >>= f) r (Closes status b) := by
  rw [Act.meets_bind, Act.Meets]
  rcases hx : x r with ⟨a | e | _, r'⟩
  · exact h a r' hx
  · trivial
  · trivial

/-- The handler looks at the machine and the buffers. -/
theorem closes_get {f : S × BufferSet → Step S Action}
    (h : Act.Meets (f r) r (Closes status b)) :
    Act.Meets (Act.get >>= f) r (Closes status b) := by
  refine closes_bind fun a r' hget => ?_
  cases hget
  exact h

end Closes

/-- The machine ends with the transaction status that its last message reports. -/
def ReportsStatus (step : Step S Action) (Started : S → Prop) (status : S → TransactionStatus) :
    Prop :=
  ∀ s b, Started s → ∀ action, (step (s, b)).1 = .ok action → action.ends = true →
    ReadyForQuery.parse b.readBuffer = .ok (status (step (s, b)).2.1)

/-- A step that reads on or closes reports the status. -/
theorem reportsStatus_of_step {step : Step S Action} {Started : S → Prop}
    {status : S → TransactionStatus}
    (h : ∀ s b, Started s → ∀ action, (step (s, b)).1 = .ok action → action.reads = true ∨
      Act.Meets step (s, b) (Closes status b)) : ReportsStatus step Started status := by
  intro s b hs action haction hends
  rcases h s b hs action haction with hreads | hcloses
  · rw [Action.ends_of_reads hreads] at hends
    cases hends
  · rw [Act.Meets, haction] at hcloses
    rcases hcloses with rfl | ⟨-, hparse⟩
    · cases hends
    · exact hparse

/-- A machine that ends has asked for the messages through the first ReadyForQuery and for no
more. -/
theorem runMachine_ends {Started : S → Prop} (hend : EndsAtReady step Started) {v : Verdict}
    {r : S × BufferSet} (hs : Started s) (h : runMachine step ms (s, b) = (.ok v, r)) :
    ∃ body z, ms = body ++ z :: v.unasked ∧ z.type = .readyForQuery ∧
      ∀ x ∈ body, x.type ≠ .readyForQuery := by
  induction ms generalizing s b v r with
  | nil => cases h
  | cons m ms ih =>
    have hs' := hend.step_started s (b.load m) hs
    have hstep := hend.step_ends s (b.load m) hs
    simp only [runMachine, Act.bind_run, Act.modify_run] at h
    rcases hrun : step (s, b.load m) with ⟨action | e | _, s₁, b₁⟩
    · rw [hrun] at h hs' hstep
      have hact := hstep action rfl
      dsimp only at h hs'
      -- what both kinds of reading come to
      have reads {v₁ : Verdict} {r₁ : S × BufferSet} (hr : action.reads = true)
          (h₁ : runMachine step ms (s₁, b₁) = (.ok v₁, r₁)) :
          ∃ body z, m :: ms = body ++ z :: v₁.unasked ∧ z.type = .readyForQuery ∧
            ∀ x ∈ body, x.type ≠ .readyForQuery := by
        obtain ⟨body, z, rfl, hz, hbody⟩ := ih hs' h₁
        refine ⟨m :: body, z, rfl, hz, ?_⟩
        intro x hx
        rcases List.mem_cons.mp hx with rfl | hx
        · intro ht
          rcases hact with ⟨-, hw⟩ | ⟨he, -⟩
          · simp [MsgType.within, ht] at hw
          · rw [Action.ends_of_reads hr] at he
            cases he
        · exact hbody x hx
      cases action with
      | readMessage => exact reads rfl h
      | handleAsyncMessageAndReadMessage msg =>
        simp only [Act.bind_run] at h
        rcases hrun' : runMachine step ms (s₁, b₁) with ⟨v₁ | e | _, r₁⟩
        · rw [hrun'] at h
          cases h
          have hreads := reads rfl hrun'
          exact hreads
        · rw [hrun'] at h
          cases h
        · rw [hrun'] at h
          cases h
      | error e =>
        cases h
        exact ⟨[], m, rfl, (hact.resolve_left (by simp [Action.reads])).2, by simp⟩
      | finished =>
        cases h
        exact ⟨[], m, rfl, (hact.resolve_left (by simp [Action.reads])).2, by simp⟩
      | _ => cases h
    · rw [hrun] at h
      cases h
    · rw [hrun] at h
      cases h


/-- How a machine passes asynchronous messages: it hands them on, or it skips them. -/
structure PassesAsync (step : Step S Action) (Started : S → Prop) (handsOn : Bool) : Prop where
  step_started : ∀ s b, Started s → Started (step (s, b)).2.1
  step_async : ∀ s b msg, Started s → b.loaded.toAsync? = some msg →
    step (s, b) =
      (.ok (if handsOn then .handleAsyncMessageAndReadMessage msg else .readMessage), (s, b))

/-- The asynchronous messages a machine hands on. -/
def handedOn (handsOn : Bool) (ms : List RawMessage) : List AsyncMessage :=
  if handsOn then ms.filterMap (·.toAsync?) else []

/-- A run that ends with the last message of a reply ends there too when asynchronous messages
stand between the messages of the reply, before them or behind them. -/
theorem runMachine_core {Started : S → Prop} {handsOn : Bool}
    (hp : PassesAsync step Started handsOn) {b₀ : BufferSet} {e : Option ServerError}
    {r : S × BufferSet} (hs : Started s) (hwell : ∀ m ∈ ms, m.isAsync = true → m.wellFormed = true)
    (hcol : b.columnBuffer = b₀.columnBuffer) (hwrite : b.writeBuffer = b₀.writeBuffer)
    (h : runMachine step (core ms) (s, b₀) = (.ok ⟨e, [], []⟩, r)) :
    ∃ body z tail, ms = body ++ z :: tail ∧ core tail = [] ∧ z.isAsync = false ∧
      runMachine step ms (s, b) = (.ok ⟨e, handedOn handsOn body, tail⟩, r) := by
  induction ms generalizing s b b₀ with
  | nil => cases h
  | cons m ms ih =>
    have hwell' : ∀ m ∈ ms, m.isAsync = true → m.wellFormed = true :=
      fun m hm => hwell m (List.mem_cons_of_mem _ hm)
    cases hm : m.isAsync with
    | true =>
      rw [core_cons_async hm] at h
      obtain ⟨msg, hmsg⟩ := toAsync_of_wellFormed hm (hwell m List.mem_cons_self hm)
      obtain ⟨body, z, tail, rfl, htail, hz, hrun⟩ :=
        ih (b := b.load m) hs hwell' (by simpa using hcol) (by simpa using hwrite) h
      refine ⟨m :: body, z, tail, rfl, htail, hz, ?_⟩
      have hstep := hp.step_async s (b.load m) msg hs hmsg
      cases handsOn with
      | true =>
        simp only [runMachine, Act.bind_run, Act.modify_run, hstep, if_true]
        rw [hrun]
        simp [handedOn, hmsg]
      | false =>
        rw [runMachine_read (by simpa using hstep), hrun]
        simp [handedOn]
    | false =>
      rw [core_cons_sync hm] at h
      have hload : b.load m = b₀.load m := by
        simp only [BufferSet.load, hcol, hwrite]
      have hs' := hp.step_started s (b₀.load m) hs
      simp only [runMachine, Act.bind_run, Act.modify_run] at h ⊢
      rw [hload]
      rcases hstep : step (s, b₀.load m) with ⟨action | e | _, s₁, b₁⟩
      · rw [hstep] at h hs'
        dsimp only at h hs' ⊢
        cases action with
        | readMessage =>
          dsimp only at h ⊢
          obtain ⟨body, z, tail, rfl, htail, hz, hrun⟩ := ih hs' hwell' rfl rfl h
          refine ⟨m :: body, z, tail, rfl, htail, hz, ?_⟩
          rw [hrun]
          cases handsOn <;> simp [handedOn, toAsync_of_not_isAsync hm]
        | handleAsyncMessageAndReadMessage msg =>
          simp only [Act.bind_run] at h
          rcases hrun : runMachine step (core ms) (s₁, b₁) with ⟨v₁ | e | _, r₁⟩
          · rw [hrun] at h
            cases h
          · rw [hrun] at h
            cases h
          · rw [hrun] at h
            cases h
        | error e' =>
          obtain ⟨⟨rfl, hms⟩, rfl⟩ : (some e' = e ∧ core ms = []) ∧ (s₁, b₁) = r := by
            simpa using h
          exact ⟨[], m, ms, rfl, hms, hm, by cases handsOn <;> rfl⟩
        | finished =>
          obtain ⟨⟨rfl, hms⟩, rfl⟩ : (none = e ∧ core ms = []) ∧ (s₁, b₁) = r := by
            simpa using h
          exact ⟨[], m, ms, rfl, hms, hm, by cases handsOn <;> rfl⟩
        | _ => cases h
      · rw [hstep] at h
        cases h
      · rw [hstep] at h
        cases h

end Run

/-! ### Laws -/

/-- A machine that calls a handler: whether it has made its request, the handler and the calls
made to it, and whether the messages it reads are those of a result. -/
class HandlerMachine (S : Type) where
  Started : S → Prop
  handler : S → Handler
  calls : S → List Callback
  Executing : S → Prop

/-- What one step of a machine that has started does: it goes on reading or ends at
ReadyForQuery; it fails with a breaking error or with that of its handler; and a machine that
reads a result makes the call of the message, if there is one. -/
structure Stepped {S : Type} [HandlerMachine S] (m : S) (b : BufferSet)
    (o : Outcome Error Action) (r : S × BufferSet) : Prop where
  started : HandlerMachine.Started r.1
  ends : ∀ action, o = .ok action →
    action.reads = true ∧ b.typeByte.within = true ∨
    action.ends = true ∧ b.typeByte = .readyForQuery
  handler : HandlerMachine.handler r.1 = HandlerMachine.handler m
  fails : ∀ e, o = .err e → e.isConnectionBroken = true ∨
    ∃ c, (HandlerMachine.handler m).accept (HandlerMachine.calls m ++ [c]) = .error e ∧
      (HandlerMachine.Executing m → callbackOf b.columnBuffer b.loaded = some c)
  calls : HandlerMachine.Executing m → ∀ action, o = .ok action →
    HandlerMachine.Executing r.1 ∧ r.2.columnBuffer = columnsAfter b.columnBuffer b.loaded ∧
    HandlerMachine.calls r.1 =
      HandlerMachine.calls m ++ (callbackOf b.columnBuffer b.loaded).toList ∧
    ∀ c ∈ callbackOf b.columnBuffer b.loaded,
      (HandlerMachine.handler m).accept (HandlerMachine.calls m ++ [c]) = .ok ()

/-- What drivers rely on. -/
class LawfulStateMachine (S : Type) [StateMachine S] extends HandlerMachine S where
  /-- A step of a machine that has started. -/
  step_meets : ∀ (s : S) (b : BufferSet), Started s →
    Act.Meets StateMachine.step (s, b) (Stepped s b)
  /-- An asynchronous message is handed on. -/
  step_async : ∀ (s : S) (b : BufferSet) (msg : AsyncMessage), Started s →
    b.loaded.toAsync? = some msg →
    StateMachine.step (s, b) = (.ok (.handleAsyncMessageAndReadMessage msg), (s, b))

/-- The machine can take the messages to come: its handler refuses none of their calls, except
with an error that breaks the connection. -/
def CanTake {S : Type} [HandlerMachine S] (m : S) (columns : Bytes) (ms : List RawMessage) :
    Prop :=
  (HandlerMachine.handler m).Total ∨
    HandlerMachine.Executing m ∧
      Bears (HandlerMachine.handler m) (HandlerMachine.calls m) (callbacksOf columns ms)

namespace Stepped

variable {S : Type} [HandlerMachine S] {m : S} {b : BufferSet}

/-- A step that fails with a breaking error. -/
theorem broken {e : Error} {r : S × BufferSet} (hs : HandlerMachine.Started r.1)
    (hh : HandlerMachine.handler r.1 = HandlerMachine.handler m)
    (he : e.isConnectionBroken = true) : Stepped m b (.err e) r := by
  refine ⟨hs, ?_, hh, ?_, ?_⟩
  · intro action h
    cases h
  · intro e' h
    cases h
    exact .inl he
  · intro _ action h
    cases h

/-- A step that panics. -/
theorem halted {r : S × BufferSet} (hs : HandlerMachine.Started r.1)
    (hh : HandlerMachine.handler r.1 = HandlerMachine.handler m) : Stepped m b .halt r := by
  refine ⟨hs, ?_, hh, ?_, ?_⟩
  · intro action h
    cases h
  · intro e h
    cases h
  · intro _ action h
    cases h

/-- A step that goes on or ends. -/
theorem next {action : Action} {m' : S} {b' : BufferSet} (hs : HandlerMachine.Started m')
    (hh : HandlerMachine.handler m' = HandlerMachine.handler m)
    (ha : action.reads = true ∧ b.typeByte.within = true ∨
      action.ends = true ∧ b.typeByte = .readyForQuery)
    (hcalls : HandlerMachine.Executing m → HandlerMachine.Executing m' ∧
      b'.columnBuffer = columnsAfter b.columnBuffer b.loaded ∧
      HandlerMachine.calls m' =
        HandlerMachine.calls m ++ (callbackOf b.columnBuffer b.loaded).toList ∧
      ∀ c ∈ callbackOf b.columnBuffer b.loaded,
        (HandlerMachine.handler m).accept (HandlerMachine.calls m ++ [c]) = .ok ()) :
    Stepped m b (.ok action) (m', b') := by
  refine ⟨hs, ?_, hh, ?_, ?_⟩
  · intro action' h
    cases h
    exact ha
  · intro e h
    cases h
  · intro hx action' _
    exact hcalls hx

/-- A parser that fails ends the step. -/
theorem parse {α : Type} {o : Parsed α} (ho : Breaks o) (hs : HandlerMachine.Started m)
    {f : α → Step S Action} (hf : ∀ a, o = .ok a → Act.Meets (f a) (m, b) (Stepped m b)) :
    Act.Meets (Act.lift o >>= f) (m, b) (Stepped m b) := by
  rw [Act.meets_bind, Act.meets_lift]
  cases o with
  | ok a => exact hf a rfl
  | err e => exact .broken hs rfl (ho e rfl)
  | halt => exact .halted hs rfl

/-- A step that hands an asynchronous message on. -/
theorem async (hs : HandlerMachine.Started m) (h : b.typeByte.isAsync = true) :
    Act.Meets (Act.lift (handleAsyncMessage b.loaded)) (m, b) (Stepped m b) := by
  rw [Act.meets_lift]
  cases hp : handleAsyncMessage b.loaded with
  | ok action =>
    obtain ⟨hr, -⟩ := handleAsyncMessage_reads hp
    obtain ⟨hnone, hcols⟩ := callbackOf_async (m := b.loaded) h b.columnBuffer
    refine .next hs rfl (.inl ⟨hr, within_of_isAsync h⟩) fun hx => ⟨hx, hcols.symm, ?_, ?_⟩
    · rw [hnone]
      simp
    · simp [hnone]
  | err e => exact .broken hs rfl (handleAsyncMessage_breaks _ e hp)
  | halt => exact .halted hs rfl

/-- A step that calls the handler goes on where the handler accepts the call. -/
theorem call {x : Step S Unit} {f : Unit → Step S Action} {c : Callback} {m' : S}
    {b' : BufferSet} (hs : HandlerMachine.Started m')
    (hh : HandlerMachine.handler m' = HandlerMachine.handler m)
    (hx : x (m, b') =
      (Act.ofExcept ((HandlerMachine.handler m).accept (HandlerMachine.calls m ++ [c])) (m', b')))
    (hc : HandlerMachine.Executing m → callbackOf b.columnBuffer b.loaded = some c)
    (hf : (HandlerMachine.handler m).accept (HandlerMachine.calls m ++ [c]) = .ok () →
      Act.Meets (f ()) (m', b') (Stepped m b)) :
    Act.Meets (x >>= f) (m, b') (Stepped m b) := by
  rw [Act.meets_bind, Act.Meets, hx]
  cases ha : (HandlerMachine.handler m).accept (HandlerMachine.calls m ++ [c]) with
  | ok u => exact hf ha
  | error e =>
    refine ⟨hs, ?_, hh, ?_, ?_⟩
    · intro action h
      cases h
    · intro e' h
      cases h
      exact .inr ⟨c, ha, hc⟩
    · intro _ action h
      cases h

/-- A machine that can take the messages to come goes on to one that can take the rest, or fails
with a breaking error. -/
theorem canTake {o : Outcome Error Action} {r : S × BufferSet} {ms : List RawMessage}
    (h : Stepped m b o r) (ht : CanTake m b.columnBuffer (b.loaded :: ms)) :
    match o with
    | .ok _ => CanTake r.1 r.2.columnBuffer ms
    | .err e => e.isConnectionBroken = true
    | .halt => True := by
  rcases ht with ht | ⟨hx, hb⟩
  · cases o with
    | ok action =>
      refine .inl ?_
      rw [h.handler]
      exact ht
    | err e =>
      rcases h.fails e rfl with he | ⟨c, ha, -⟩
      · exact he
      · rw [ht] at ha
        cases ha
    | halt => trivial
  · rw [callbacksOf] at hb
    cases o with
    | ok action =>
      obtain ⟨hx', hcols, hcalls, ha⟩ := h.calls hx action rfl
      refine .inr ⟨hx', ?_⟩
      rw [h.handler, hcols, hcalls]
      cases hc : callbackOf b.columnBuffer b.loaded with
      | none => simpa [hc] using hb
      | some c =>
        have hacc := ha c hc
        rw [hc] at hb
        simpa [Bears, hacc] using hb
    | err e =>
      rcases h.fails e rfl with he | ⟨c, ha, hc⟩
      · exact he
      · rw [hc hx] at hb
        simpa [Bears, ha] using hb
    | halt => trivial

end Stepped

/-- A lawful machine hands asynchronous messages on. -/
theorem LawfulStateMachine.passesAsync (S : Type) [StateMachine S] [LawfulStateMachine S] :
    PassesAsync (StateMachine.step (S := S)) HandlerMachine.Started true where
  step_started s b hs := (LawfulStateMachine.step_meets s b hs).at.started
  step_async s b msg hs hmsg := LawfulStateMachine.step_async s b msg hs hmsg

/-- A lawful machine ends at ReadyForQuery. -/
theorem LawfulStateMachine.endsAtReady (S : Type) [StateMachine S] [LawfulStateMachine S] :
    EndsAtReady (StateMachine.step (S := S)) HandlerMachine.Started where
  step_started s b hs := (LawfulStateMachine.step_meets s b hs).at.started
  step_ends s b hs action ha := (LawfulStateMachine.step_meets s b hs).at.ends action ha

/-- The handler of a machine that comes to an end has accepted the calls of the messages asked
for. -/
theorem LawfulStateMachine.willing {S : Type} [StateMachine S] [LawfulStateMachine S] {m : S}
    {b : BufferSet} {ms : List RawMessage} {v : Verdict} {r : S × BufferSet}
    (hs : HandlerMachine.Started m) (hx : HandlerMachine.Executing m)
    (h : runMachine StateMachine.step ms (m, b) = (.ok v, r)) :
    ∃ asked, ms = asked ++ v.unasked ∧
      Willing (HandlerMachine.handler m) (HandlerMachine.calls m)
        (callbacksOf b.columnBuffer asked) := by
  induction ms generalizing m b v r with
  | nil => cases h
  | cons x ms ih =>
    have hstep := (LawfulStateMachine.step_meets m (b.load x) hs).at
    simp only [runMachine, Act.bind_run, Act.modify_run] at h
    rcases hrun : StateMachine.step (m, b.load x) with ⟨action | e | _, m₁, b₁⟩
    · rw [hrun] at h hstep
      obtain ⟨hx', hcols, hcalls, haccept⟩ := hstep.calls hx action rfl
      -- the call of this message, then those of the messages behind it
      have cons {cs : List Callback}
          (hw : Willing (HandlerMachine.handler m) (HandlerMachine.calls m₁) cs) :
          Willing (HandlerMachine.handler m) (HandlerMachine.calls m)
            ((callbackOf b.columnBuffer x).toList ++ cs) := by
        have hcalls : HandlerMachine.calls m₁ =
            HandlerMachine.calls m ++ (callbackOf b.columnBuffer x).toList := hcalls
        have haccept : ∀ c ∈ callbackOf b.columnBuffer x,
            (HandlerMachine.handler m).accept (HandlerMachine.calls m ++ [c]) = .ok () := haccept
        rw [hcalls] at hw
        cases hc : callbackOf b.columnBuffer x with
        | none => simpa [hc] using hw
        | some c =>
          rw [hc] at hw
          exact ⟨haccept c hc, hw⟩
      have reads {v₁ : Verdict} {r₁ : S × BufferSet}
          (h₁ : runMachine StateMachine.step ms (m₁, b₁) = (.ok v₁, r₁)) :
          ∃ asked, x :: ms = asked ++ v₁.unasked ∧
            Willing (HandlerMachine.handler m) (HandlerMachine.calls m)
              (callbacksOf b.columnBuffer asked) := by
        obtain ⟨asked, hms, hw⟩ := ih hstep.started hx' h₁
        refine ⟨x :: asked, by rw [hms]; rfl, cons ?_⟩
        have hcols : b₁.columnBuffer = columnsAfter b.columnBuffer x := hcols
        have hh : HandlerMachine.handler m₁ = HandlerMachine.handler m := hstep.handler
        rwa [hh, hcols] at hw
      cases action with
      | readMessage => exact reads h
      | handleAsyncMessageAndReadMessage msg =>
        simp only [Act.bind_run] at h
        rcases hrun' : runMachine StateMachine.step ms (m₁, b₁) with ⟨v₁ | e | _, r₁⟩
        · rw [hrun'] at h
          cases h
          have hreads := reads hrun'
          exact hreads
        · rw [hrun'] at h
          cases h
        · rw [hrun'] at h
          cases h
      | error e =>
        cases h
        exact ⟨[x], rfl, cons trivial⟩
      | finished =>
        cases h
        exact ⟨[x], rfl, cons trivial⟩
      | _ => cases h
    · rw [hrun] at h
      cases h
    · rw [hrun] at h
      cases h

end ZeroPostgres
