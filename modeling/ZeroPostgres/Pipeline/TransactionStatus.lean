import ZeroPostgres.Conn.TransactionStatus
import ZeroPostgres.Pipeline.Calls
import ZeroPostgres.Pipeline.Exec
import ZeroPostgres.Startup.ScramServer

/-!
# The transaction status behind a pipeline

A pipeline stores the status of a ReadyForQuery where it consumes a Sync, in `readyRound`. The loops
that read the reply to an operation fail at a ReadyForQuery and leave the exchange in progress, so
whatever is claimed, flushed, synced or drained, a connection that is ready for an exchange has the
status that the last ReadyForQuery reports.
-/

namespace ZeroPostgres

open Act

namespace Tokio.Pipeline

open ZeroPostgres.Pipeline

variable {P : Peer} {α β : Type} {c₀ : Conn P} {aborted : Bool} {p p' : Pipeline P}

/-! ### Reading in an exchange -/

/-- An exchange is in progress, and the transaction status is what the messages read since `c₀`
report. -/
structure Current (c₀ : Conn P) (aborted : Bool) (p : Pipeline P) : Prop where
  busy : Busy p
  aborted : p.aborted = aborted
  tracks : Tracks c₀ p.conn

/-- A message has been read on top of that, and not been looked at. -/
structure Pending (c₀ : Conn P) (aborted : Bool) (m : RawMessage) (p : Pipeline P) : Prop where
  busy : Busy p
  aborted : p.aborted = aborted
  read : ∀ status, Reported p.conn.transactionStatus [m] status →
    Tracks c₀ { p.conn with transactionStatus := status }

theorem Pending.passed {m : RawMessage} (h : Pending c₀ aborted m p) (hm : m.type.isReady = false) :
    Current c₀ aborted p :=
  ⟨h.busy, h.aborted, h.read _ (reported_of_not_ready hm)⟩

/-- The loop goes on with the status up to date. -/
abbrev RoundPost (c₀ : Conn P) (aborted : Bool) (Q : Outcome Error α → Pipeline P → Prop) :
    Outcome Error (Flow β α) → Pipeline P → Prop :=
  Round (fun (_ : List RawMessage) _ => Current c₀ aborted) Q []

/-- A loop that goes on only with the status up to date. -/
theorem readMessages_current {body : β → RawMessage → Act Error (Pipeline P) (Flow β α)}
    {Q : Outcome Error α → Pipeline P → Prop}
    (hround : ∀ b m p, Pending c₀ aborted m p → Act.Meets (body b m) p (RoundPost c₀ aborted Q))
    (hwait : ∀ o p, o.isOk = false → Busy p → p.aborted = aborted → Q o p) (b : β)
    (hp : Current c₀ aborted p) : Act.Meets (readMessages body b) p Q := by
  refine readLoop_meets (fun m => onConn (Conn.receive m)) (onConn Conn.starve) body
    (I := fun _ _ => Current c₀ aborted) (Q := Q) ?_ ?_ _ b p hp
  · intro b p hp
    have wait (cut : Option Cut) (o : Outcome Error α) (ho : o.isOk = false) :
        Q o { p with conn := { p.conn with stream := { p.conn.stream with cut } } } :=
      hwait _ _ ho hp.busy hp.aborted
    rw [meets_onConn]
    refine Act.meets_bind.mpr (Conn.awaitPoint_meets (hwait _ _ rfl hp.busy hp.aborted)
      fun cut _ => ?_)
    unfold Act.Meets
    dsimp only
    split
    · exact wait cut _ rfl
    · exact wait cut _ rfl
  · intro m ms b p hp
    rw [Act.meets_bind, meets_onConn]
    simp only [Conn.receive, Act.meets_bind, Act.meets_modify]
    refine Conn.awaitPoint_meets (hwait _ _ rfl hp.busy hp.aborted) fun cut _ => ?_
    dsimp only
    refine Act.Meets.mono (hround b m _ ⟨hp.busy, hp.aborted, fun status h => ?_⟩) fun o p' h => ?_
    · exact hp.tracks.read rfl h
    · cases o with
      | ok flow => cases flow <;> exact h
      | err e => exact h
      | halt => exact h

/-! ### The reply to an operation -/

/-- Where reading for an operation leads. An error leaves the status up to date where it aborts the
pipeline, and a value does where it is `good`; otherwise a ReadyForQuery may have been read. -/
def Gathers (c₀ : Conn P) (good : α → Prop) (o : Outcome Error α) (p : Pipeline P) : Prop :=
  Busy p ∧ match o with
    | .ok a => p.aborted = false ∧ (good a → Tracks c₀ p.conn)
    | .err _ => p.aborted = true → Tracks c₀ p.conn
    | .halt => True

theorem Gathers.of_err {good : α → Prop} {e : Error} (hb : Busy p) (ha : p.aborted = false) :
    Gathers c₀ good (.err e) p :=
  ⟨hb, fun h => Bool.noConfusion (ha.symm.trans h)⟩

/-- A loop that does not go on past a ReadyForQuery, and ends at one with no good value. -/
theorem nextRound_gathers {good : α → Prop}
    {k : β → RawMessage → Act Error (Pipeline P) (Flow β α)} (hstay : ∀ b m, Keeps Eq (k b m))
    (hready : ∀ b m p flow, m.type.isReady = true → (k b m p).1 = .ok flow →
      ∃ a, flow = .stop a ∧ ¬ good a) (b : β) (hp : Current c₀ false p) :
    Act.Meets (readMessages (nextRound k) b) p (Gathers c₀ good) := by
  refine readMessages_current (fun b m p h => ?_) (fun o p ho hb ha => ?_) b hp
  · unfold nextRound
    split
    · next ha => exact h.passed (not_ready_of_within (within_of_isAsync ha))
    · split
      · next ht =>
        have hcurrent := h.passed (by rw [ht]; rfl)
        refine Act.meets_bind.mpr (Act.meets_lift.mpr ?_)
        cases ErrorResponse.parse m.payload with
        | ok e =>
          refine Act.meets_bind.mpr (Act.meets_modify.mpr ?_)
          change Gathers c₀ good (.err (.server e)) (PipelineDriver.onServerError (.server e) p)
          unfold PipelineDriver.onServerError instPipelineDriverTokioFlags
          dsimp only
          split
          · exact .of_err hcurrent.busy hcurrent.aborted
          · exact ⟨hcurrent.busy, fun _ => hcurrent.tracks⟩
        | err e => exact (.of_err h.busy h.aborted : Gathers c₀ good (.err e) p)
        | halt => exact (⟨h.busy, trivial⟩ : Gathers c₀ good .halt p)
      · have hsame := (hstay b m).rel p
        have hready := hready b m p
        unfold Act.Meets
        generalize k b m p = r at hsame hready
        obtain ⟨o, p'⟩ := r
        dsimp only at hsame hready ⊢
        subst hsame
        have passed (hm : ¬ m.type.isReady = true) : Current c₀ false p :=
          h.passed (Bool.eq_false_of_not_eq_true hm)
        match o with
        | .ok (.next _) =>
          exact passed fun hm => by obtain ⟨_, h, -⟩ := hready _ hm rfl; cases h
        | .ok (.stop a) =>
          refine ⟨h.busy, h.aborted, fun hgood => (passed fun hm => ?_).tracks⟩
          obtain ⟨_, hstop, hbad⟩ := hready _ hm rfl
          cases hstop
          exact hbad hgood
        | .err e => exact (.of_err h.busy h.aborted : Gathers c₀ good (.err e) p)
        | .halt => exact ⟨h.busy, trivial⟩
  · cases o with
    | ok a => cases ho
    | err e => exact .of_err hb ha
    | halt => exact ⟨hb, trivial⟩

/-- Sequencing, from the state that reading leads to. -/
theorem gathers_bind {good : α → Prop} {good' : β → Prop} {x : Act Error (Pipeline P) α}
    {f : α → Act Error (Pipeline P) β} (hx : Act.Meets x p (Gathers c₀ good))
    (hf : ∀ a p, Busy p → p.aborted = false → (good a → Current c₀ false p) →
      Act.Meets (f a) p (Gathers c₀ good')) : Act.Meets (x >>= f) p (Gathers c₀ good') := by
  refine Act.meets_bind.mpr (hx.mono fun o p' h => ?_)
  cases o with
  | ok a => exact hf a p' h.1 h.2.1 fun hgood => ⟨h.1, h.2.1, h.2.2 hgood⟩
  | err e => exact h
  | halt => exact h

/-- A part of a message is parsed, or reading fails. -/
theorem lift_gathers {o : Outcome Error α} {f : α → Act Error (Pipeline P) β} {good : β → Prop}
    (hp : Current c₀ false p) (hf : ∀ a, Act.Meets (f a) p (Gathers c₀ good)) :
    Act.Meets (Act.lift o >>= f) p (Gathers c₀ good) := by
  cases o with
  | ok a => exact hf a
  | err e => exact .of_err hp.busy hp.aborted
  | halt => exact ⟨hp.busy, trivial⟩

theorem readNextMessage_gathers (hp : Current c₀ false p) :
    Act.Meets readNextMessage p (Gathers c₀ fun m => m.type.isReady = false) := by
  refine nextRound_gathers (fun _ _ => keeps_pure _) (fun _ m _ flow hm hflow => ?_) () hp
  cases hflow
  exact ⟨m, rfl, fun h => Bool.noConfusion (hm.symm.trans h)⟩

theorem callHandler_stays (handler : Handler) (calls : List Callback) (c : Callback) :
    Keeps Eq (callHandler handler calls c : Act Error (Pipeline P) (List Callback)) :=
  (keeps_ofExcept _).bind fun _ => keeps_pure _

/-- The rows of a reply. -/
theorem claimRows_gathers (handler : Handler) (columns : Except Error Bytes)
    (hp : Current c₀ false p) :
    Act.Meets (claimRows handler columns) p (Gathers c₀ fun _ => True) := by
  refine nextRound_gathers (fun calls m => ?_) (fun calls m p flow hm hflow => ?_) [] hp
  · unfold rowRound
    split
    · exact (keeps_ofExcept _).bind fun _ => (keeps_lift _).bind fun _ => (keeps_lift _).bind
        fun _ => (callHandler_stays ..).bind fun _ => keeps_pure _
    · exact (keeps_lift _).bind fun _ => (callHandler_stays ..).bind fun _ => keeps_pure _
    · exact (keeps_lift _).bind fun _ => keeps_pure _
    · exact keeps_fail _
  · unfold rowRound at hflow
    cases ht : m.type <;> rw [ht] at hm hflow <;> first | exact Bool.noConfusion hm | cases hflow

theorem expectBindComplete_gathers (hp : Current c₀ false p) :
    Act.Meets expectBindComplete p (Gathers c₀ fun _ => True) := by
  refine gathers_bind (readNextMessage_gathers hp) fun m p hb ha hcurrent => ?_
  split
  · next ht =>
    have hp := hcurrent (by rw [ht]; rfl)
    exact ⟨hp.busy, hp.aborted, fun _ => hp.tracks⟩
  · exact .of_err hb ha

theorem claimRowsInner_gathers (handler : Handler) (hp : Current c₀ false p) :
    Act.Meets (claimRowsInner handler) p (Gathers c₀ fun _ => True) := by
  refine gathers_bind (readNextMessage_gathers hp) fun m p hb ha hcurrent => ?_
  split
  · next ht =>
    have hp := hcurrent (by rw [ht]; rfl)
    refine Act.meets_bind.mpr (Act.meets_modify.mpr ?_)
    exact claimRows_gathers _ _ ⟨hp.busy, hp.aborted, hp.tracks⟩
  · next ht =>
    have hp := hcurrent (by rw [ht]; rfl)
    exact lift_gathers hp fun _ => claimRows_gathers _ _ hp
  · exact .of_err hb ha

/-- The reply that a claim reads. -/
theorem claimExpectation_gathers (e : Option Expectation) (ticket : Ticket) (handler : Handler)
    (hp : Current c₀ false p) :
    Act.Meets (claimExpectation e ticket handler) p (Gathers c₀ fun _ => True) := by
  unfold claimExpectation
  split
  · refine gathers_bind (readNextMessage_gathers hp) fun m p hb ha hcurrent => ?_
    split
    · next ht =>
      have hp := hcurrent (by rw [ht]; rfl)
      refine lift_gathers hp fun _ => gathers_bind (expectBindComplete_gathers hp)
        fun _ p _ _ hp => claimRowsInner_gathers handler (hp trivial)
    · exact .of_err hb ha
  · exact gathers_bind (expectBindComplete_gathers hp)
      fun _ p _ _ hp => claimRows_gathers handler _ (hp trivial)
  · exact .of_err hp.busy hp.aborted
  · exact .of_err hp.busy hp.aborted

/-! ### The end of an exchange -/

/-- The loop stores the status of the ReadyForQuery it waits for. -/
theorem consumeReadyForQuery_current (hp : Current c₀ aborted p) :
    Act.Meets consumeReadyForQuery p fun o p' =>
      Busy p' ∧ p'.aborted = aborted ∧ (o.isOk = true → Tracks c₀ p'.conn) := by
  refine readMessages_current (fun u m p h => ?_) (fun o p ho hb ha => ⟨hb, ha, fun h => ?_⟩) () hp
  · unfold readyRound
    split
    · next ha => exact h.passed (not_ready_of_within (within_of_isAsync ha))
    · split
      · refine Act.meets_bind.mpr (Act.meets_lift.mpr ?_)
        cases ErrorResponse.parse m.payload with
        | ok e =>
          dsimp only
          split <;> exact ⟨h.busy, h.aborted, fun h => Bool.noConfusion h⟩
        | err e => exact ⟨h.busy, h.aborted, fun h => Bool.noConfusion h⟩
        | halt => exact ⟨h.busy, h.aborted, fun h => Bool.noConfusion h⟩
      · next ht =>
        refine Act.meets_bind.mpr (Act.meets_lift.mpr ?_)
        cases hparse : ReadyForQuery.parse m.payload with
        | ok status =>
          have htracks := h.read status (reported_of_ready (by rw [ht]; rfl) hparse)
          exact ⟨h.busy, h.aborted, fun _ => htracks⟩
        | err e => exact ⟨h.busy, h.aborted, fun h => Bool.noConfusion h⟩
        | halt => exact ⟨h.busy, h.aborted, fun h => Bool.noConfusion h⟩
      · next hready => exact h.passed (by
          cases ht : m.type <;> first | rfl | exact absurd ht hready)
  · rw [ho] at h
    cases h

/-- An exchange ends with the status up to date, or stays in progress. -/
def Ends (c₀ : Conn P) (_ : Outcome Error α) (p : Pipeline P) : Prop := Busy p ∨ Tracks c₀ p.conn

/-- Consuming the Syncs at the front of the queue. The induction is on the queue. -/
theorem consumeSyncs_current (q : List Expectation) (hp : Current c₀ aborted p) :
    Act.Meets (consumeSyncs consumeReadyForQuery q) p fun o p' =>
      Busy p' ∧ (o.isOk = true → Tracks c₀ p'.conn) := by
  induction q generalizing aborted p with
  | nil => exact ⟨hp.busy, fun _ => hp.tracks⟩
  | cons e q ih =>
    cases e with
    | sync =>
      refine Act.meets_bind.mpr (Act.meets_modify.mpr (Act.meets_bind.mpr ?_))
      refine Act.Meets.mono (consumeReadyForQuery_current ⟨hp.busy, hp.aborted, hp.tracks⟩)
        fun o p' ⟨hb, _, htracks⟩ => ?_
      cases o with
      | ok u => exact Act.meets_bind.mpr (meets_setAborted.mpr (ih ⟨hb, rfl, htracks rfl⟩))
      | err e => exact ⟨hb, fun h => Bool.noConfusion h⟩
      | halt => exact ⟨hb, fun h => Bool.noConfusion h⟩
    | parseBindExecute => exact ⟨hp.busy, fun _ => hp.tracks⟩
    | bindExecute => exact ⟨hp.busy, fun _ => hp.tracks⟩

theorem finishClaim_ends (hp : Current c₀ aborted p) :
    Act.Meets finishClaim p (Ends c₀) := by
  have hsyncs : Act.Meets consumePendingSyncs p fun o p' =>
      Busy p' ∧ (o.isOk = true → Tracks c₀ p'.conn) := consumeSyncs_current p.expectations hp
  refine Act.meets_bind.mpr (hsyncs.mono fun o p' h => ?_)
  cases o with
  | ok u => exact .inr (h.2 rfl)
  | err e => exact .inl h.1
  | halt => exact .inl h.1

/-- What comes behind the end of a claim returns its result. -/
theorem finishThen_ends (result : Except Error α) (hp : Current c₀ aborted p) :
    Act.Meets (finishClaim >>= fun _ => Act.ofExcept result) p (Ends c₀) := by
  refine Act.meets_bind.mpr ((finishClaim_ends hp).mono fun o p' h => ?_)
  cases o with
  | ok u => cases result <;> exact h
  | err e => exact h
  | halt => exact h

/-! ### Calls -/

/-- The relation on pipelines. -/
def Records (p p' : Pipeline P) : Prop := Tokio.Records p.conn p'.conn

instance : Std.Refl (Records (P := P)) := ⟨fun p => Std.Refl.refl p.conn⟩

instance : IsTrans (Pipeline P) Records where
  trans _ _ _ h h' := IsTrans.trans (r := Tokio.Records) _ _ _ h h'

/-- A connection that is ready for an exchange begins it. -/
theorem begin_records {f : Act Error (Pipeline P) α}
    (hf : Current p.conn p.aborted (begun p) → Act.Meets f (begun p) (Ends p.conn)) :
    Act.Meets (onConn Conn.beginExchange >>= fun _ => f) p fun _ p' => Records p p' := by
  refine Act.meets_bind.mpr (meets_onConn.mpr (Conn.beginExchange_meets
    (fun _ => (Std.Refl.refl p.conn : Tokio.Records p.conn p.conn)) fun hready => ?_))
  refine (hf ⟨rfl, rfl, .of_eq rfl rfl⟩).mono fun o p' h hready' => ⟨hready, ?_⟩
  rcases h with hb | htracks
  · rw [hb.not_ready] at hready'
    cases hready'
  · exact htracks

/-- Nothing is read, and the transaction status stays. -/
def ReadsNothing (p p' : Pipeline P) : Prop :=
  p'.conn.stream.received = p.conn.stream.received ∧ SameStatus p.conn p'.conn

instance : Std.Refl (ReadsNothing (P := P)) := ⟨fun _ => ⟨rfl, rfl⟩⟩

instance : IsTrans (Pipeline P) ReadsNothing where
  trans _ _ _ h h' := ⟨h'.1.trans h.1, h'.2.trans h.2⟩

/-- A call that sends, behind its check. -/
theorem checked_records {f : Act Error (Pipeline P) α} (hf : Keeps ReadsNothing f) :
    Keeps Records (onConn Conn.ensureExchangeReady >>= fun _ => f) := by
  refine ⟨fun p => ?_⟩
  cases hready : p.conn.exchangeReady with
  | true =>
    have hrun : (onConn Conn.ensureExchangeReady >>= fun _ => f) p = f p := by
      rw [Act.bind_run]
      simp only [onConn, Conn.ensureExchangeReady, hready, if_true]
    have h := hf.rel p
    rw [hrun]
    exact fun _ => ⟨hready, .of_eq h.1 h.2⟩
  | false =>
    have hrun : (onConn Conn.ensureExchangeReady >>= fun _ => f) p =
        (.err .connectionBroken, p) := by
      rw [Act.bind_run]
      simp [onConn, Conn.ensureExchangeReady, hready]
    rw [hrun]
    exact Std.Refl.refl p

theorem begin_readsNothing :
    Keeps ReadsNothing (onConn Conn.beginExchange : Act Error (Pipeline P) Unit) :=
  ⟨fun p => (Conn.beginExchange_meets (Q := fun _ c =>
    c.stream.received = p.conn.stream.received ∧ SameStatus p.conn c) (fun _ => ⟨rfl, rfl⟩)
    fun _ => ⟨rfl, rfl⟩).at⟩

theorem send_readsNothing : Keeps ReadsNothing (onConn Conn.send : Act Error (Pipeline P) Unit) :=
  ⟨fun p => (send_sends.rel p.conn).2⟩

theorem exec_records (statement : StatementRef) (params : Params) :
    Keeps Records (exec statement params : Act Error (Pipeline P) Ticket) := by
  refine checked_records ⟨fun p => ?_⟩
  rw [queueExec_run]
  split <;> exact ⟨rfl, rfl⟩

theorem flush_records : Keeps Records (flush : Act Error (Pipeline P) Unit) := by
  refine checked_records (begin_readsNothing.bind fun _ => keeps_get.bind fun p => ?_)
  split
  · exact ⟨fun _ => ⟨rfl, rfl⟩⟩
  · exact Keeps.bind ⟨fun _ => ⟨rfl, rfl⟩⟩ fun _ => Keeps.bind ⟨fun _ => ⟨rfl, rfl⟩⟩ fun _ =>
      send_readsNothing.bind fun _ => Keeps.bind ⟨fun _ => ⟨rfl, rfl⟩⟩ fun _ =>
        ⟨fun _ => ⟨rfl, rfl⟩⟩

theorem syncInner_readsNothing : Keeps ReadsNothing (syncInner : Act Error (Pipeline P) Unit) :=
  begin_readsNothing.bind fun _ => Keeps.bind ⟨fun _ => ⟨rfl, rfl⟩⟩ fun _ =>
    Keeps.bind ⟨fun _ => ⟨rfl, rfl⟩⟩ fun _ => Keeps.bind ⟨fun _ => ⟨rfl, rfl⟩⟩ fun _ =>
      send_readsNothing.bind fun _ => Keeps.bind ⟨fun _ => ⟨rfl, rfl⟩⟩ fun _ =>
        ⟨fun _ => ⟨rfl, rfl⟩⟩

theorem sync_records : Keeps Records (sync : Act Error (Pipeline P) Unit) := by
  refine checked_records ⟨fun p => ?_⟩
  have h := syncInner_readsNothing.rel p
  unfold marking
  generalize syncInner p = r at h ⊢
  rcases r with ⟨_ | e | _, p'⟩
  · exact h
  · dsimp only
    split <;> exact h
  · exact h

/-- A claim goes on to the end of the exchange only where the status is up to date. -/
theorem claimFront_records (ticket : Ticket) (handler : Handler) :
    Keeps Records (claimFront ticket handler : Act Error (Pipeline P) (List Callback)) := by
  refine ⟨fun p => (begin_records (p := p) fun hp => Act.meets_bind.mpr ?_).at⟩
  rw [Act.meets_get]
  dsimp only
  split
  · refine Act.meets_bind.mpr (Act.meets_modify.mpr (Act.meets_bind.mpr ?_))
    rw [meets_popExpectation]
    exact finishThen_ends (.error pipelineAborted) ⟨hp.busy, hp.aborted, hp.tracks⟩
  · next ha =>
    have ha : p.aborted = false := Bool.eq_false_of_not_eq_true ha
    rw [Act.meets_bind, meets_popExpectation]
    dsimp only
    rw [Act.meets_bind, Act.meets_attempt]
    refine Act.Meets.mono (claimExpectation_gathers _ ticket handler ⟨hp.busy, ha, hp.tracks⟩)
      fun o p₁ h => ?_
    cases o with
    | ok calls =>
      refine Act.meets_bind.mpr (Act.meets_get.mpr ?_)
      exact Act.meets_bind.mpr (finishThen_ends (.ok calls) ⟨h.1, h.2.1, h.2.2 trivial⟩)
    | err e =>
      refine Act.meets_bind.mpr (Act.meets_get.mpr ?_)
      dsimp only
      split
      · exact .inl h.1
      · next hcond =>
        have haborted : p₁.aborted = true := by
          simp only [Except.isOk, Except.toBool, Bool.not_false, Bool.true_and, Bool.or_eq_true,
            not_or, Bool.not_eq_true', Bool.not_eq_false] at hcond
          exact hcond.2
        exact Act.meets_bind.mpr
          (finishThen_ends (.error e) ⟨h.1, rfl, h.2 haborted⟩)
    | halt => exact .inl h.1

/-- A check that leaves the pipeline alone. -/
theorem ensureExchangeReady_records :
    Keeps Records (onConn Conn.ensureExchangeReady : Act Error (Pipeline P) Unit) :=
  keeps_of_snd_eq fun p => by
    simp only [onConn, Conn.ensureExchangeReady]
    split <;> rfl

theorem call_records (c : PipelineCall) :
    Keeps Records (call c : Act Error (Pipeline P) CallResult) := by
  cases c with
  | exec statement params => exact (exec_records statement params).bind fun _ => keeps_pure _
  | flush cut => exact flush_records.bind fun _ => keeps_pure _
  | sync cut => exact sync_records.bind fun _ => keeps_pure _
  | claim cut ticket handler =>
    have hcheck : Keeps Records (checkSequence ticket.seq : Act Error (Pipeline P) Unit) :=
      keeps_of_snd_eq fun p => by unfold checkSequence; split <;> rfl
    refine Keeps.bind (ensureExchangeReady_records.bind fun _ => hcheck.bind fun _ =>
      keeps_get.bind fun p => ?_) fun _ => keeps_pure _
    split
    · exact sync_records.bind fun _ => claimFront_records ticket handler
    · exact claimFront_records ticket handler

/-! ### Cleanup -/

theorem drainRound_gathers (hp : Current c₀ false p) :
    Act.Meets (readMessages (nextRound drainRound) ()) p (Gathers c₀ fun _ => True) := by
  refine nextRound_gathers (fun u m => ?_) (fun u m p flow hm hflow => ?_) () hp
  · unfold drainRound
    split
    · exact (keeps_lift _).bind fun _ => keeps_pure _
    · exact (keeps_lift _).bind fun _ => keeps_pure _
    all_goals first | exact keeps_pure _ | exact keeps_fail _
  · unfold drainRound at hflow
    cases ht : m.type <;> rw [ht] at hm hflow <;> first | exact Bool.noConfusion hm | cases hflow

/-- One step of the drain loop goes on with the status up to date. -/
theorem drainExpectation_current (e : Expectation) (hp : Current c₀ aborted p)
    (hskip : ¬ (aborted = true ∧ e ≠ .sync)) :
    Act.Meets (drainExpectation e) p fun o p' => Busy p' ∧
      (o.isOk = true ∨ p'.aborted = true ∧ e ≠ .sync ∧ o ≠ .halt → Tracks c₀ p'.conn) := by
  unfold drainExpectation
  split
  · next he =>
    refine (consumeReadyForQuery_current hp).mono fun o p' ⟨hb, _, htracks⟩ => ⟨hb, fun h => ?_⟩
    rcases h with h | ⟨_, hne, _⟩
    · exact htracks h
    · exact absurd he hne
  · next he =>
    have ha : aborted = false := Bool.eq_false_of_not_eq_true fun ha => hskip ⟨ha, he⟩
    subst ha
    refine (drainRound_gathers hp).mono fun o p' h => ⟨h.1, fun hgood => ?_⟩
    cases o with
    | ok u => exact h.2.2 trivial
    | err e =>
      rcases hgood with hok | ⟨ha, _, _⟩
      · cases hok
      · exact h.2 ha
    | halt =>
      rcases hgood with hok | ⟨_, _, hne⟩
      · cases hok
      · exact absurd rfl hne

/-- The drain loop comes to its end only with the status up to date. The induction is on the
queue. -/
theorem drainLoop_current (q : List Expectation) (hp : Current c₀ aborted p) :
    Act.Meets (drainLoop q) p fun o p' => Busy p' ∧ (o = .ok true → Tracks c₀ p'.conn) := by
  induction q generalizing aborted p with
  | nil => exact ⟨hp.busy, fun _ => hp.tracks⟩
  | cons e q ih =>
    refine Act.meets_bind.mpr (Act.meets_modify.mpr (Act.meets_bind.mpr (Act.meets_get.mpr ?_)))
    dsimp only
    split
    · exact ih ⟨hp.busy, hp.aborted, hp.tracks⟩
    · next hskip =>
      rw [hp.aborted] at hskip
      have more {p : Pipeline P} (hb : Busy p) (htracks : Tracks c₀ p.conn) :
          Act.Meets (do
            if e = .sync then setAborted false
            drainLoop q) p fun o p' => Busy p' ∧ (o = .ok true → Tracks c₀ p'.conn) := by
        split
        · exact Act.meets_bind.mpr (meets_setAborted.mpr (ih ⟨hb, rfl, htracks⟩))
        · exact ih ⟨hb, rfl, htracks⟩
      rw [Act.meets_bind, Act.meets_attempt]
      refine Act.Meets.mono (drainExpectation_current e ⟨hp.busy, hp.aborted, hp.tracks⟩ hskip)
        fun o p₁ ⟨hb, htracks⟩ => ?_
      cases o with
      | ok u => exact Act.meets_bind.mpr (Act.meets_get.mpr (more hb (htracks (.inl rfl))))
      | err error =>
        refine Act.meets_bind.mpr (Act.meets_get.mpr ?_)
        dsimp only
        split
        · exact ⟨hb, fun h => by cases h⟩
        · next hcond =>
          have hgood : p₁.aborted = true ∧ e ≠ .sync := by
            simpa [Except.isOk, Except.toBool] using hcond
          exact more hb (htracks (.inr ⟨hgood.1, hgood.2, by simp⟩))
      | halt => exact ⟨hb, fun h => by cases h⟩

theorem drain_records : Keeps Records (drain : Act Error (Pipeline P) Unit) := by
  refine ⟨fun p => (begin_records (p := p) fun hp => Act.meets_bind.mpr ?_).at⟩
  refine Act.meets_get.mpr (Act.meets_bind.mpr ?_)
  refine (drainLoop_current (begun p).expectations hp).mono fun o p' ⟨hb, htracks⟩ => ?_
  match o with
  | .ok true => exact .inr (htracks rfl)
  | .ok false => exact .inl hb
  | .err e => exact .inl hb
  | .halt => exact .inl hb

theorem cleanup_records : Keeps Records (cleanup : Act Error (Pipeline P) Unit) := by
  refine keeps_get.bind fun p => ?_
  split
  · exact keeps_pure _
  · split
    · exact ⟨fun p => KeptAside.quiet (R := Tokio.Records) ⟨rfl, rfl, id⟩⟩
    · split
      · refine sync_records.attempt.bind fun r => ?_
        cases r with
        | ok u => exact drain_records
        | error e => exact keeps_pure _
      · exact drain_records

/-! ### Whole lives -/

/-- Dropped or not. -/
theorem dropping_records {x : Act Error (Pipeline P) α} (h : Keeps Records x) (cut : Option Cut)
    (p : Pipeline P) : Records p (dropping cut x p).2 :=
  h.rel (setCut cut p)

theorem new_records (c : Conn P) : Tokio.Records c (new c).conn := by
  unfold new
  split
  · exact KeptAside.quiet (quiet_broken c)
  · exact KeptAside.quiet ⟨rfl, rfl, id⟩

/-- The run lemma: whatever the calls, after each of them. -/
theorem afterCalls_records (calls : List PipelineCall) (p : Pipeline P) :
    Records p (afterCalls calls p) := by
  induction calls generalizing p with
  | nil => exact Std.Refl.refl p
  | cons c calls ih =>
    exact IsTrans.trans _ _ _ (dropping_records (call_records c) c.cut p) (ih _)

theorem drop_records (p : Pipeline P) : Tokio.Records p.conn (drop p) := by
  unfold drop
  split
  · exact KeptAside.quiet (quiet_broken _)
  · exact Std.Refl.refl _

theorem run_records (calls : List PipelineCall) (cleanupCut : Option Cut) (c : Conn P) :
    Tokio.Records c (run calls cleanupCut c) := by
  have hcalls : Tokio.Records c (afterCalls calls (new c)).conn :=
    IsTrans.trans _ _ _ (new_records c) (afterCalls_records calls (new c))
  exact IsTrans.trans _ _ _ (IsTrans.trans _ _ _ hcalls
    (dropping_records cleanup_records cleanupCut _)) (drop_records _)

end Tokio.Pipeline

namespace Tokio

variable {P : Peer}

/-- What a connection is used for next: the call of an operation, or the life of a pipeline. -/
inductive Use where
  | operation (call : Call)
  | pipeline (calls : List PipelineCall) (cleanupCut : Option Cut)

/-- The connection after the use. -/
def Use.run (use : Use) (c : Conn P) : Conn P :=
  match use with
  | .operation call => (call.run c).2
  | .pipeline calls cleanupCut => Pipeline.run calls cleanupCut c

/-- The connection after some uses. -/
def afterUses (c : Conn P) (uses : List Use) : Conn P := uses.foldl (fun c use => use.run c) c

theorem Use.run_records (use : Use) (c : Conn P) : Records c (use.run c) := by
  cases use with
  | operation call => exact call.run_keeps.rel c
  | pipeline calls cleanupCut => exact Pipeline.run_records calls cleanupCut c

/-- The run lemma. -/
theorem afterUses_records (c : Conn P) (uses : List Use) : Records c (afterUses c uses) := by
  induction uses generalizing c with
  | nil => exact Std.Refl.refl c
  | cons use uses ih => exact IsTrans.trans _ _ _ (use.run_records c) (ih (use.run c))

/-- The connection that a startup exchange leaves, `src/src/tokio/conn.rs:127–138`. -/
def established (st : P.State) (m : ConnectionStateMachine) : Conn P :=
  { ZeroPostgres.Conn.fresh st ⟨false, false⟩ with transactionStatus := m.transactionStatus }

section Tracked

variable {env : StartupEnv} {options : Opts} {buffers : StartupBuffers} {feeds : List Feed}
  {s : Startup}

/-- What a connection has read since its startup counts behind the startup's own messages. -/
theorem Tracks.last {c : Conn P} {st : P.State}
    (hrun : runSteps (Startup.turn env) (.new options buffers) feeds = some s)
    (hfinished : s.machine.state = .finished) (h : Tracks (established st s.machine) c) :
    LastReports (messages feeds ++ c.stream.received) c.transactionStatus := by
  obtain ⟨hstart, m, hm, hready⟩ := Startup.run_reports hrun hfinished
  obtain ⟨read, hreceived, hread⟩ := h
  have hreceived : c.stream.received = read := hreceived
  rw [hreceived]
  exact (hstart.trans hread).last ⟨m, List.mem_append_left _ hm, hready⟩

/-- After any uses of a connection, dropped at any await point or not, and after any calls of a
pipeline on it, the transaction status is that of the last ReadyForQuery the connection has read,
in its startup exchange or since, unless the connection is broken. -/
theorem transactionStatus_tracked (st : P.State)
    (hrun : runSteps (Startup.turn env) (.new options buffers) feeds = some s)
    (hfinished : s.machine.state = .finished) (uses : List Use) (calls : List PipelineCall) :
    let c := afterUses (established st s.machine) uses
    let p := Pipeline.afterCalls calls (Pipeline.new c)
    (c.isBroken = false →
      LastReports (messages feeds ++ c.stream.received) c.transactionStatus) ∧
    (p.conn.exchangeReady = true →
      LastReports (messages feeds ++ p.conn.stream.received) p.conn.transactionStatus) := by
  intro c p
  have huses : Records (established st s.machine) c := afterUses_records _ uses
  have hcalls : Records (established st s.machine) p.conn :=
    IsTrans.trans _ _ _ huses (IsTrans.trans _ _ _ (Pipeline.new_records c)
      (Pipeline.afterCalls_records calls (Pipeline.new c)))
  exact ⟨fun hb => (huses (ready_of_not_broken hb)).2.last hrun hfinished,
    fun hready => (hcalls hready).2.last hrun hfinished⟩

end Tracked

/-- What the machine is given by a server that trusts the client. -/
def trustFeeds : List Feed :=
  [.nothing, .nothing, .message ⟨.authentication, [0, 0, 0, 0]⟩, .message (Reference.ready .idle)]

/-- An environment without TLS. -/
def trustEnv : StartupEnv := ⟨ScramServer.pencil, ScramServer.pencilNonce, false⟩

/-- The startup exchange with it, begun. -/
def trustStart : Startup := .new { Opts.default with user := "u" } ⟨.other 0, [], []⟩

/-- The startup exchange with it, finished. -/
def trusted : Startup := (runSteps (Startup.turn trustEnv) trustStart trustFeeds).getD trustStart

/-- A pipeline in which FAIL is executed, synced and claimed. -/
def failingClaim : List PipelineCall :=
  [.exec (.sql "FAIL") .none, .sync none, .claim none ⟨0, none⟩ DropHandler]

/-- A transaction is begun, and a pipeline fails in it. -/
def failingUses : List Use :=
  [.operation ⟨.query "BEGIN" DropHandler, none⟩, .pipeline failingClaim none]

/-- The connection after the startup exchange. -/
def opened : Conn SyncedRequest.rejectingFail := established Reference.start trusted.machine

theorem transactionStatus_tracked_failing :
    ((afterUses opened failingUses).isBroken = false ∧
      (afterUses opened failingUses).transactionStatus = .failed ∧
      LastReports (messages trustFeeds ++ (afterUses opened failingUses).stream.received)
        (afterUses opened failingUses).transactionStatus) ∧
    let p := Pipeline.afterCalls failingClaim (Pipeline.new (afterUses opened []))
    p.conn.exchangeReady = true ∧ p.conn.transactionStatus = .idle ∧
      LastReports (messages trustFeeds ++ p.conn.stream.received) p.conn.transactionStatus := by
  have hrun : runSteps (Startup.turn trustEnv) trustStart trustFeeds = some trusted := by
    decide +kernel
  have hfinished : trusted.machine.state = .finished := by decide +kernel
  have hwhole : (afterUses opened failingUses).isBroken = false := by decide +kernel
  have hready : (Pipeline.afterCalls failingClaim
      (Pipeline.new (afterUses opened []))).conn.exchangeReady = true := by decide +kernel
  have hafter := transactionStatus_tracked (P := SyncedRequest.rejectingFail) Reference.start hrun
    hfinished failingUses []
  have hwithin := transactionStatus_tracked (P := SyncedRequest.rejectingFail) Reference.start hrun
    hfinished [] failingClaim
  unfold opened at *
  exact ⟨⟨hwhole, by decide +kernel, hafter.1 hwhole⟩, hready, by decide +kernel,
    hwithin.2 hready⟩

end Tokio

end ZeroPostgres
