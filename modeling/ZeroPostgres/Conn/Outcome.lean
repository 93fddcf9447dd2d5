import ZeroPostgres.Conn.Calls
import ZeroPostgres.State.Refusals

/-!
# What a driven machine returns

On a connection whose future is not dropped, `drive` returns exactly what the run of its machine
comes to, so `exec` returns an error in the cases in which the reply or the handler has one.
-/

namespace ZeroPostgres

namespace Conn

variable {P : Peer} {K S : Type}

/-- What a loop makes of the verdict on a machine. -/
def concluded (v : Verdict) (m : S) : Outcome Error S :=
  match v.error with
  | none => .ok m
  | some e => .err (.server e)

/-- A round of a loop does what the step of the machine says. -/
structure Obeys (step : Step S Action)
    (body : S → RawMessage → Act Error (Conn P K) (Flow S S)) : Prop where
  next : ∀ {m m' : S} {x : RawMessage} {c : Conn P K} {b : BufferSet} {action : Action},
    step (m, c.bufferSet) = (.ok action, (m', b)) → action.reads = true →
      ∃ c', body m x c = (.ok (.next m'), c') ∧ c'.stream = c.stream ∧ c'.bufferSet = b
  finished : ∀ {m m' : S} {x : RawMessage} {c : Conn P K} {b : BufferSet},
    step (m, c.bufferSet) = (.ok .finished, (m', b)) → (body m x c).1 = .ok (.stop m')
  error : ∀ {m m' : S} {x : RawMessage} {c : Conn P K} {b : BufferSet} {e : ServerError},
    step (m, c.bufferSet) = (.ok (.error e), (m', b)) → (body m x c).1 = .err (.server e)
  failed : ∀ {m m' : S} {x : RawMessage} {c : Conn P K} {b : BufferSet} {e : Error},
    step (m, c.bufferSet) = (.err e, (m', b)) → (body m x c).1 = .err e

section Loop

variable {step : Step S Action} {body : S → RawMessage → Act Error (Conn P K) (Flow S S)}

/-- A round that stops ends the loop with its value. -/
private theorem round_stopped {m a : S} {x : RawMessage} {c : Conn P K} (ms : List RawMessage)
    (h : (body m x c).1 = .ok (.stop a)) :
    ((body m x >>= resume receive starve body ms) c).1 = .ok a := by
  rw [Act.bind_run]
  generalize body m x c = round at h
  obtain ⟨o, c'⟩ := round
  cases h
  rfl

/-- A round that fails ends the loop with its error. -/
private theorem round_failed {m : S} {x : RawMessage} {c : Conn P K} {e : Error}
    (ms : List RawMessage) (h : (body m x c).1 = .err e) :
    ((body m x >>= resume receive starve body ms) c).1 = .err e := by
  rw [Act.bind_run]
  generalize body m x c = round at h
  obtain ⟨o, c'⟩ := round
  cases h
  rfl

/-- The loop returns what the run of the machine on the messages that wait comes to, if it comes to
an end. The induction is on the messages. -/
theorem readMessages_result (hbody : Obeys step body) {m : S} {c : Conn P K}
    (hcut : c.stream.cut = none) {o : Outcome Error Verdict} {r : S × BufferSet} (ho : o ≠ .halt)
    (hrun : runMachine step c.stream.inbound (m, c.bufferSet) = (o, r)) :
    (readMessages body m c).1 = o.bind fun v => concluded v r.1 := by
  suffices h : ∀ ms (m : S) (c : Conn P K) (o : Outcome Error Verdict), c.stream.cut = none →
      o ≠ .halt → runMachine step ms (m, c.bufferSet) = (o, r) →
      (readLoop receive starve body ms m c).1 = o.bind fun v => concluded v r.1 from
    h _ m c o hcut ho hrun
  intro ms
  induction ms with
  | nil =>
    intro m c o _ ho hrun
    cases hrun
    exact absurd rfl ho
  | cons x ms ih =>
    intro m c o hcut ho hrun
    have hreceive : receive x c = (.ok (), c.take x) := by
      simp [receive, awaitPoint, hcut, Act.bind_run]
    rw [readLoop_cons, Act.bind_run, hreceive]
    change ((body m x >>= resume receive starve body ms) (c.take x)).1 = _
    rcases hstep : step (m, c.bufferSet.load x) with ⟨action | e | _, m', b'⟩
    · have hstep' : step (m, (c.take x).bufferSet) = (.ok action, (m', b')) := hstep
      -- the round has the machine read on
      have next {o : Outcome Error Verdict} (hr : action.reads = true) (ho : o ≠ .halt)
          (h : runMachine step ms (m', b') = (o, r)) :
          ((body m x >>= resume receive starve body ms) (c.take x)).1 =
            o.bind fun v => concluded v r.1 := by
        obtain ⟨c', hround, hstream, hbuf⟩ := hbody.next (x := x) hstep' hr
        rw [Act.bind_run, hround]
        rw [← hbuf] at h
        refine ih m' c' o ?_ ho h
        rw [hstream]
        exact hcut
      cases action with
      | readMessage =>
        rw [runMachine_read hstep] at hrun
        exact next rfl ho hrun
      | handleAsyncMessageAndReadMessage msg =>
        simp only [runMachine, Act.bind_run, Act.modify_run, hstep] at hrun
        rcases hrest : runMachine step ms (m', b') with ⟨v | e | _, r'⟩
        · rw [hrest] at hrun
          cases hrun
          -- the messages handed on are no part of what is returned
          exact (next rfl (by simp) hrest :)
        · rw [hrest] at hrun
          cases hrun
          exact next rfl ho hrest
        · rw [hrest] at hrun
          cases hrun
          exact absurd rfl ho
      | error e =>
        rw [runMachine_error hstep] at hrun
        cases hrun
        exact round_failed ms (hbody.error hstep')
      | finished =>
        rw [runMachine_finished hstep] at hrun
        cases hrun
        exact round_stopped ms (hbody.finished hstep')
      | _ =>
        simp only [runMachine, Act.bind_run, Act.modify_run, hstep, Act.halt_run] at hrun
        cases hrun
        exact absurd rfl ho
    · rw [runMachine_fails hstep] at hrun
      cases hrun
      have hstep' : step (m, (c.take x).bufferSet) = (.err e, (m', b')) := hstep
      exact round_failed ms (hbody.failed hstep')
    · simp only [runMachine, Act.bind_run, Act.modify_run, hstep] at hrun
      cases hrun
      exact absurd rfl ho

/-- An exchange sends the request of its machine and reads. -/
theorem exchangeWith_eq [Driver K] {m m₁ : S} {c : Conn P K} {b₁ : BufferSet}
    (hcut : c.stream.cut = none) (hready : c.exchangeReady = true)
    (hfirst : step (m, c.bufferSet) = (.ok .writeAndReadMessage, (m₁, b₁))) :
    exchangeWith step body m c = readMessages body m₁ { c with
      flags := Driver.beginFlags c.flags, bufferSet := b₁
      stream := c.stream.sendAll b₁.writeBuffer } := by
  simp [exchangeWith, Act.bind_run, beginExchange, ensureExchangeReady, hready, stepMachine,
    hfirst, Outcome.bind, send, writeAll, hcut, flushStream, awaitPoint]

/-- An exchange sends the request of its machine and returns what the machine comes to. -/
theorem exchangeWith_result [Driver K] (hbody : Obeys step body) {m m₁ : S} {c : Conn P K}
    {b₁ : BufferSet} (hcut : c.stream.cut = none) (hready : c.exchangeReady = true)
    (hfirst : step (m, c.bufferSet) = (.ok .writeAndReadMessage, (m₁, b₁)))
    {o : Outcome Error Verdict} {r : S × BufferSet} (ho : o ≠ .halt)
    (hrun : runMachine step (c.stream.inbound ++ c.reply b₁.writeBuffer) (m₁, b₁) = (o, r)) :
    (exchangeWith step body m c).1 = o.bind fun v => concluded v r.1 := by
  rw [exchangeWith_eq hcut hready hfirst]
  refine readMessages_result hbody (by simp [hcut]) ho ?_
  rw [← hrun]
  simp only [Stream.sendAll_inbound]
  rfl

end Loop

section Loops

variable [Driver K]

theorem driveRound_obeys [StateMachine S] :
    Obeys StateMachine.step (driveRound : S → RawMessage → Act Error (Conn P K) (Flow S S)) where
  next {m m' x c b action} hstep hr := by
    cases action with
    | readMessage =>
      refine ⟨{ c with bufferSet := b }, ?_, rfl, rfl⟩
      simp [driveRound, stepMachine, Act.bind_run, hstep, Outcome.bind]
    | handleAsyncMessageAndReadMessage msg =>
      refine ⟨{ c with
        bufferSet := b
        asyncMessageHandler := c.asyncMessageHandler.map fun calls => calls ++ [msg] },
        ?_, rfl, rfl⟩
      simp [driveRound, stepMachine, Act.bind_run, hstep, Outcome.bind, handleAsync]
    | _ => cases hr
  finished hstep := by
    simp [driveRound, stepMachine, Act.bind_run, hstep, Outcome.bind, finishExchange, setStatus]
  error hstep := by
    simp [driveRound, stepMachine, Act.bind_run, hstep, Outcome.bind, finishExchange, setStatus]
  failed hstep := by simp [driveRound, stepMachine, Act.bind_run, hstep, Outcome.bind]

/-- `drive` sends the request of its machine and returns what the machine comes to. -/
theorem drive_result [StateMachine S] (m m₁ : S) (c : Conn P K) (b₁ : BufferSet)
    (hcut : c.stream.cut = none) (hready : c.exchangeReady = true)
    (hfirst : StateMachine.step (m, c.bufferSet) = (.ok .writeAndReadMessage, (m₁, b₁)))
    {o : Outcome Error Verdict} {r : S × BufferSet} (ho : o ≠ .halt)
    (hrun : runMachine StateMachine.step (c.stream.inbound ++ c.reply b₁.writeBuffer) (m₁, b₁) =
      (o, r)) :
    (drive m c).1 = o.bind fun v => concluded v r.1 :=
  exchangeWith_result driveRound_obeys hcut hready hfirst ho hrun

end Loops

end Conn

end ZeroPostgres
