import ZeroPostgres.Conn.Talk
import ZeroPostgres.State.Run

/-!
# Machines on a connection

The loops over the query machines, the batch machine and the batch-prepare machine differ only in
what they do where the machine ends. `Rounded` is what a round of each does, and
`readMessages_driven` says that the loop then runs the machine on the messages that wait.
-/

namespace ZeroPostgres

open Act

namespace Conn

variable {P : Peer} {K S α : Type} [Driver K]

/-- Whether the connection is marked broken, and the flags of its exchange. -/
def marks {K : Type} (c : Conn P K) : Bool × K := (c.broken, c.flags)

/-- The marks when an exchange has begun, or has ended. -/
def begun (marks : Bool × K) : Bool × K := (marks.1, Driver.beginFlags marks.2)

@[inherit_doc begun]
def ended (marks : Bool × K) : Bool × K := (marks.1, Driver.finishFlags marks.2)

/-- What one round does with a machine: it goes on as the step says, it stops or fails at the
end of the exchange, or it fails. `Stop` and `Fail` say what is then done with the machine. -/
inductive Rounded (step : Step S Action) (Stop : S → α → Conn P K → Prop)
    (Fail : S → Conn P K → Prop) (m : S) (c : Conn P K) :
    Outcome Error (Flow S α) → Conn P K → Prop where
  | next {action m' c'} : step (m, c.bufferSet) = (.ok action, (m', c'.bufferSet)) →
      action.reads = true → c'.marks = c.marks → Rounded step Stop Fail m c (.ok (.next m')) c'
  | stop {a m' c'} : step (m, c.bufferSet) = (.ok .finished, (m', c'.bufferSet)) →
      c'.marks = ended c.marks → Stop m' a c' →
      Rounded step Stop Fail m c (.ok (.stop a)) c'
  | error {e m' c'} : step (m, c.bufferSet) = (.ok (.error e), (m', c'.bufferSet)) →
      c'.marks = ended c.marks → Fail m' c' →
      Rounded step Stop Fail m c (.err (.server e)) c'
  | failed {e r c'} : step (m, c.bufferSet) = (.err e, r) → c'.marks = c.marks →
      Rounded step Stop Fail m c (.err e) c'
  | bug {e c'} : e.isConnectionBroken = true → c'.marks = c.marks →
      Rounded step Stop Fail m c (.err e) c'
  | halt {c'} : Rounded step Stop Fail m c .halt c'

/-- What the loop does with a machine, run on messages: it stops or fails where the machine ends,
with what the machine did not ask for left on the stream, or it fails on the way. -/
inductive Driven (step : Step S Action) (Stop : S → α → Conn P K → Prop)
    (Fail : S → Conn P K → Prop) (ms : List RawMessage) (r : S × BufferSet) (marks : Bool × K) :
    Outcome Error α → Conn P K → Prop where
  | stop {v a m' c'} : runMachine step ms r = (.ok v, (m', c'.bufferSet)) → v.error = none →
      c'.stream.inbound = v.unasked → c'.marks = ended marks → Stop m' a c' →
      Driven step Stop Fail ms r marks (.ok a) c'
  | error {v e m' c'} : runMachine step ms r = (.ok v, (m', c'.bufferSet)) → v.error = some e →
      c'.stream.inbound = v.unasked → c'.marks = ended marks → Fail m' c' →
      Driven step Stop Fail ms r marks (.err (.server e)) c'
  | failed {e r' c'} : runMachine step ms r = (.err e, r') → c'.marks = marks →
      Driven step Stop Fail ms r marks (.err e) c'
  | bug {e c'} : e.isConnectionBroken = true → c'.marks = marks →
      Driven step Stop Fail ms r marks (.err e) c'
  | halt {c'} : Driven step Stop Fail ms r marks .halt c'

variable {step : Step S Action} {Stop : S → α → Conn P K → Prop} {Fail : S → Conn P K → Prop}

/-- A machine that asks for more goes on with the messages behind. -/
private theorem Driven.cons {x : RawMessage} {ms : List RawMessage} {m m' : S} {b b' : BufferSet}
    {marks : Bool × K} {action : Action} (hstep : step (m, b.load x) = (.ok action, (m', b')))
    (hr : action.reads = true) {o : Outcome Error α} {c' : Conn P K}
    (h : Driven step Stop Fail ms (m', b') marks o c') :
    Driven step Stop Fail (x :: ms) (m, b) marks o c' := by
  -- a run on the messages behind is one on all, with the message handed on if it is asynchronous
  have more {v : Verdict} {r : S × BufferSet} (hv : runMachine step ms (m', b') = (.ok v, r)) :
      ∃ v', runMachine step (x :: ms) (m, b) = (.ok v', r) ∧ v'.error = v.error ∧
        v'.unasked = v.unasked := by
    cases action with
    | readMessage => exact ⟨v, (runMachine_read hstep).trans hv, rfl, rfl⟩
    | handleAsyncMessageAndReadMessage msg =>
      refine ⟨{ v with asyncs := msg :: v.asyncs }, ?_, rfl, rfl⟩
      simp only [runMachine, Act.bind_run, Act.modify_run, hstep, hv, Act.pure_run]
    | _ => cases hr
  cases h with
  | stop hv he hin hf hs =>
    obtain ⟨v', hv', he', hin'⟩ := more hv
    exact .stop hv' (he'.trans he) (hin.trans hin'.symm) hf hs
  | error hv he hin hf hs =>
    obtain ⟨v', hv', he', hin'⟩ := more hv
    exact .error hv' (he'.trans he) (hin.trans hin'.symm) hf hs
  | @failed e r' _ hv hf =>
    refine .failed (?_ : runMachine step (x :: ms) (m, b) = (.err e, r')) hf
    cases action with
    | readMessage => exact (runMachine_read hstep).trans hv
    | handleAsyncMessageAndReadMessage msg =>
      simp only [runMachine, Act.bind_run, Act.modify_run, hstep, hv]
    | _ => cases hr
  | bug he hf => exact .bug he hf
  | halt => exact .halt

omit [Driver K] in
/-- At an await point the future is dropped, or it goes on. -/
theorem awaitPoint_meets {c : Conn P K} {Q : Outcome Error Unit → Conn P K → Prop}
    (hhalt : Q .halt c)
    (hgo : ∀ cut, (c.stream.cut = none → cut = none) →
      Q (.ok ()) { c with stream := { c.stream with cut } }) : Act.Meets awaitPoint c Q := by
  unfold Act.Meets awaitPoint
  split
  · exact hgo c.stream.cut id
  · exact hhalt
  · next hcut => exact hgo _ fun h => by rw [hcut] at h; cases h

/-- The loop runs the machine on the messages that wait. The induction is on them. -/
theorem readMessages_driven {body : S → RawMessage → Act Error (Conn P K) (Flow S α)}
    (hstill : ∀ m x, Keeps Still (body m x))
    (hround : ∀ m x c, Act.Meets (body m x) c (Rounded step Stop Fail m c)) (m : S)
    (c : Conn P K) : Act.Meets (readMessages body m) c
      (Driven step Stop Fail c.stream.inbound (m, c.bufferSet) c.marks) := by
  suffices h : ∀ ms (m : S) (c : Conn P K), c.stream.inbound = ms →
      Act.Meets (readLoop receive starve body ms m) c
        (Driven step Stop Fail ms (m, c.bufferSet) c.marks) from h _ m c rfl
  intro ms
  induction ms with
  | nil =>
    intro m c _
    rw [readLoop_nil]
    refine Act.meets_bind.mpr (awaitPoint_meets .halt fun cut _ => ?_)
    unfold Act.Meets
    dsimp only
    split
    · exact .bug rfl rfl
    · exact .halt
  | cons x ms ih =>
    intro m c hin
    -- past the await point the message is in the buffers
    have loaded (c₁ : Conn P K) (hin₁ : c₁.stream.inbound = x :: ms)
        (hb : c₁.bufferSet = c.bufferSet) (hf : c₁.marks = c.marks) :
        Act.Meets (body m x >>= resume receive starve body ms) (c₁.take x)
          (Driven step Stop Fail (x :: ms) (m, c.bufferSet) c.marks) := by
      have hbuf : (c₁.take x).bufferSet = c.bufferSet.load x := by rw [← hb]; rfl
      have hmarks : (c₁.take x).marks = c.marks := hf
      rw [Act.meets_bind]
      have hmeets := (hround m x (c₁.take x)).at
      have hst := (hstill m x).rel (c₁.take x)
      unfold Act.Meets
      generalize body m x (c₁.take x) = r at hmeets hst
      obtain ⟨o, c₂⟩ := r
      dsimp only at hmeets hst
      have hin₂ : c₂.stream.inbound = ms := by
        rw [hst.1]
        simp [take, hin₁]
      cases hmeets with
      | next hstep hr hf' =>
        rw [hbuf] at hstep
        rw [hmarks] at hf'
        have h := (ih _ c₂ hin₂).at.cons hstep hr
        rw [hf'] at h
        exact h
      | stop hstep hf' hs =>
        rw [hbuf] at hstep
        exact .stop (runMachine_finished hstep) rfl hin₂ (hf'.trans (congrArg _ hmarks)) hs
      | error hstep hf' hs =>
        rw [hbuf] at hstep
        exact .error (runMachine_error hstep) rfl hin₂ (hf'.trans (congrArg _ hmarks)) hs
      | failed hstep hf' =>
        rw [hbuf] at hstep
        exact .failed (runMachine_fails hstep) (hf'.trans hmarks)
      | bug he hf' => exact .bug he (hf'.trans hmarks)
      | halt => exact .halt
    rw [readLoop_cons]
    simp only [receive, Act.meets_bind, Act.meets_modify]
    exact awaitPoint_meets .halt fun cut _ => Act.meets_bind.mp
      (loaded { c with stream := { c.stream with cut } } hin rfl rfl)

omit [Driver K] in
/-- What is in the write buffer goes out, or the future is dropped on the way. -/
theorem send_meets {c : Conn P K} {Q : Outcome Error Unit → Conn P K → Prop}
    (hhalt : ∀ c', Q .halt c')
    (hgo : ∀ cut, (c.stream.cut = none → cut = none) → Q (.ok ())
      { c with stream := { c.stream.sendAll c.bufferSet.writeBuffer with cut } }) :
    Act.Meets send c Q := by
  refine Act.meets_bind.mpr ?_
  have flush {s : Stream P} (cut : Option Cut) (hcut : c.stream.cut = none → cut = none)
      (hs : s = { c.stream.sendAll c.bufferSet.writeBuffer with cut }) :
      Act.Meets flushStream { c with stream := s } Q := by
    subst hs
    exact awaitPoint_meets (hhalt _) fun cut' hcut' => hgo cut' fun h => hcut' (hcut h)
  unfold Act.Meets writeAll
  split
  · next hcut => exact flush none (fun _ => rfl) (Stream.sendAll_no_cut _ hcut).symm
  · exact hhalt _
  · next hcut => exact flush _ (fun h => by rw [hcut] at h; cases h) rfl

omit [Driver K] in
/-- A step of a machine on the buffers of the connection. -/
theorem stepMachine_meets {m m' : S} {c : Conn P K} {action : Action} {b : BufferSet}
    {Q : Outcome Error (Action × S) → Conn P K → Prop}
    (hstep : step (m, c.bufferSet) = (.ok action, (m', b)))
    (h : Q (.ok (action, m')) { c with bufferSet := b }) : Act.Meets (stepMachine step m) c Q := by
  unfold Act.Meets stepMachine
  rw [hstep]
  exact h

/-- An exchange begins, or it is refused. -/
theorem beginExchange_meets {c : Conn P K} {Q : Outcome Error Unit → Conn P K → Prop}
    (hrefuse : c.exchangeReady = false → Q (.err .connectionBroken) c)
    (hgo : c.exchangeReady = true → Q (.ok ()) { c with flags := Driver.beginFlags c.flags }) :
    Act.Meets beginExchange c Q := by
  refine Act.meets_bind.mpr ?_
  unfold Act.Meets ensureExchangeReady
  cases hready : c.exchangeReady with
  | false => exact hrefuse hready
  | true => exact hgo hready

/-- The exchange of a machine that writes its request in its first step: it sends the request and
runs the machine on what waits. -/
theorem exchangeWith_driven {body : S → RawMessage → Act Error (Conn P K) (Flow S α)}
    (hstill : ∀ m x, Keeps Still (body m x))
    (hround : ∀ m x c, Act.Meets (body m x) c (Rounded step Stop Fail m c)) {m m₁ : S}
    {c : Conn P K} {b₁ : BufferSet}
    (hfirst : step (m, c.bufferSet) = (.ok .writeAndReadMessage, (m₁, b₁))) :
    Act.Meets (exchangeWith step body m) c fun o c' => o = .halt ∨
      (c.exchangeReady = false ∧ o = .err .connectionBroken ∧ c' = c) ∨
      (c.exchangeReady = true ∧ (∃ read, Talked b₁.writeBuffer read c c') ∧
        Driven step Stop Fail (c.stream.inbound ++ (P.feed c.stream.peer b₁.writeBuffer).1)
          (m₁, b₁) (begun c.marks) o c') := by
  refine Act.meets_bind.mpr
    (beginExchange_meets (fun h => .inr (.inl ⟨h, rfl, rfl⟩)) fun hready => ?_)
  refine Act.meets_bind.mpr (stepMachine_meets hfirst ?_)
  refine Act.meets_bind.mpr (send_meets (fun _ => .inl rfl) fun cut hcut => ?_)
  dsimp only at hcut ⊢
  generalize hc₁ : ({ c with
    flags := Driver.beginFlags c.flags, bufferSet := b₁
    stream := { c.stream.sendAll b₁.writeBuffer with cut } } : Conn P K) = c₁
  have hsent : Talked b₁.writeBuffer [] c c₁ := by
    subst hc₁
    refine ⟨Stream.sendAll_peer .., Stream.sendAll_log .., (Stream.sendAll_inbound ..).symm, ?_,
      id, hcut⟩
    simp
  have hdriven := (readMessages_driven hstill hround m₁ c₁).at
  obtain ⟨read, hread⟩ := (readMessages_reads hstill m₁).rel c₁
  have htalked := hsent.trans hread
  rw [List.append_nil, List.nil_append] at htalked
  have hin : c₁.stream.inbound =
      c.stream.inbound ++ (P.feed c.stream.peer b₁.writeBuffer).1 := by
    simpa using hsent.inbound.symm
  rw [hin] at hdriven
  subst hc₁
  exact .inr (.inr ⟨hready, ⟨read, htalked⟩, hdriven⟩)

/-- A public operation is refused on a broken connection, or it runs. -/
theorem guarded_eq (x : Act Error (Conn P K) α) (c : Conn P K) :
    guarded x c = if Driver.refuses K && c.isBroken then (.err .connectionBroken, c)
      else markBroken x c := by
  unfold guarded
  rw [Act.bind_run]
  unfold ensureUsable
  split
  · next h =>
    split at h
    · cases h
    · next hb => cases h; rw [if_neg hb]
  · next h =>
    split at h
    · next hb => cases h; rw [if_pos hb]
    · cases h
  · next h =>
    split at h
    · cases h
    · cases h

/-- A public operation that returns a value has run. -/
theorem guarded_ok {x : Act Error (Conn P K) α} {c c' : Conn P K} {a : α}
    (h : guarded x c = (.ok a, c')) : x c = (.ok a, c') := by
  rw [guarded_eq] at h
  split at h
  · cases h
  · unfold markBroken at h
    generalize x c = r at h ⊢
    rcases r with ⟨_ | _ | _, c₁⟩
    · exact h
    · cases h
    · cases h

/-! ### The three loops -/

omit [Driver K] in
/-- A round that begins with a step goes by what the step comes to. -/
theorem stepMachine_cases {m : S} {c : Conn P K}
    {Q : Outcome Error (Action × S) → Conn P K → Prop}
    (hok : ∀ action m' b, step (m, c.bufferSet) = (.ok action, (m', b)) →
      Q (.ok (action, m')) { c with bufferSet := b })
    (herr : ∀ e m' b, step (m, c.bufferSet) = (.err e, (m', b)) →
      Q (.err e) { c with bufferSet := b })
    (hhalt : ∀ b, Q .halt { c with bufferSet := b }) : Act.Meets (stepMachine step m) c Q := by
  unfold Act.Meets stepMachine
  rcases hstep : step (m, c.bufferSet) with ⟨action | e | _, m', b⟩
  · exact hok action m' b hstep
  · exact herr e m' b hstep
  · exact hhalt b

/-- The connection has the transaction status of the machine. -/
def HasStatus [StateMachine S] (m : S) (c : Conn P K) : Prop :=
  c.transactionStatus = StateMachine.transactionStatus m

theorem driveRound_rounded [StateMachine S] (m : S) (x : RawMessage) (c : Conn P K) :
    Act.Meets (driveRound m x) c
      (Rounded StateMachine.step (fun m a c => a = m ∧ HasStatus m c) HasStatus m c) := by
  refine Act.meets_bind.mpr (stepMachine_cases ?_ ?_ fun _ => .halt)
  · intro action m' b hstep
    cases action with
    | readMessage => exact .next hstep rfl rfl
    | handleAsyncMessageAndReadMessage msg => exact .next hstep rfl rfl
    | error e => exact .error hstep rfl rfl
    | finished => exact .stop hstep rfl ⟨rfl, rfl⟩
    | writeAndReadByte => exact .bug rfl rfl
    | tlsHandshake => exact .bug rfl rfl
    | write => exact .halt
    | writeAndReadMessage => exact .halt
  · intro e m' b hstep
    exact .failed hstep rfl

theorem driveBatchRound_rounded (m : BatchStateMachine) (x : RawMessage) (c : Conn P K) :
    Act.Meets (driveBatchRound m x) c (Rounded BatchStateMachine.step (fun m a _ => a = m)
      (fun m c => c.transactionStatus = m.transactionStatus) m c) := by
  refine Act.meets_bind.mpr (stepMachine_cases ?_ ?_ fun _ => .halt)
  · intro action m' b hstep
    cases action with
    | readMessage => exact .next hstep rfl rfl
    | error e => exact .error hstep rfl rfl
    | finished => exact .stop hstep rfl rfl
    | writeAndReadMessage => exact .halt
    | _ => exact .bug rfl rfl
  · intro e m' b hstep
    exact .failed hstep rfl

theorem prepareBatchRound_rounded (m : BatchPrepareStateMachine) (x : RawMessage)
    (c : Conn P K) : Act.Meets (prepareBatchRound m x) c (Rounded BatchPrepareStateMachine.step
      (fun m a c => a = m.statements ∧ c.transactionStatus = m.transactionStatus)
      (fun _ _ => False) m c) := by
  refine Act.meets_bind.mpr (stepMachine_cases ?_ ?_ fun _ => .halt)
  · intro action m' b hstep
    cases action with
    | readMessage => exact .next hstep rfl rfl
    | finished => exact .stop hstep rfl ⟨rfl, rfl⟩
    | writeAndReadMessage => exact .halt
    | _ => exact .bug rfl rfl
  · intro e m' b hstep
    exact .failed hstep rfl

theorem bindRound_rounded (m : BindStateMachine) (x : RawMessage) (c : Conn P K) :
    Act.Meets (bindRound m x) c
      (Rounded BindStateMachine.step (fun _ _ _ => True) (fun _ _ => True) m c) := by
  refine Act.meets_bind.mpr (stepMachine_cases ?_ ?_ fun _ => .halt)
  · intro action m' b hstep
    cases action with
    | readMessage => exact .next hstep rfl rfl
    | finished => exact .stop hstep rfl trivial
    | write => exact .halt
    | writeAndReadMessage => exact .halt
    | _ => exact .bug rfl rfl
  · intro e m' b hstep
    exact .failed hstep rfl

end Conn

end ZeroPostgres
