import ZeroPostgres.Pipeline.Ledger

/-!
# Calls on an asynchronous pipeline

What each call of `src/src/tokio/pipeline/mod.rs` does to the ledger. `Active` is the
invariant between calls, `Stuck` the state of a pipeline that will exchange nothing more: an
exchange was begun and not finished, or the peer has closed the session.
-/

namespace ZeroPostgres

instance : Pipeline.LawfulPipelineDriver TokioFlags where
  saveColumns_reads _ p := by constructor <;> simp [PipelineDriver.saveColumns, Pipeline.buffers]
  saveColumns_inbound _ _ := rfl

namespace Tokio.Pipeline

open ZeroPostgres.Pipeline

variable {P : Peer} {start : List (Frontend × List RawMessage)} {past items : List Item}
variable {kinds : List OpKind} {t : Bool} {p p' : Pipeline P}

/-- The account of a pipeline that is not broken. A scope that is not pending owes
nothing. -/
structure Active (start : List (Frontend × List RawMessage)) (past items : List Item)
    (kinds : List OpKind) (t : Bool) (p : Pipeline P) : Prop
    extends Ledger start past items kinds t p where
  unbroken : p.conn.broken = false
  scope : p.conn.flags.scopePending = false → items = [] ∧ p.aborted = false

/-- An exchange is in progress. -/
def Busy (p : Pipeline P) : Prop := p.conn.flags.exchangeInProgress = true

/-- Nothing more will be exchanged. -/
def Stuck (p : Pipeline P) : Prop := Closed p ∨ p.conn.exchangeReady = false

/-- The counters stay, and no future is dropped where none was to be. -/
structure Counts (p p' : Pipeline P) : Prop where
  queueSeq : p'.queueSeq = p.queueSeq
  claimSeq : p'.claimSeq = p.claimSeq
  nocut : p.conn.stream.cut = none → p'.conn.stream.cut = none

theorem Busy.not_ready (h : Busy p) : p.conn.exchangeReady = false := by
  have h : p.conn.flags.exchangeInProgress = true := h
  simp [Conn.exchangeReady, Driver.exchangeReady, h]

theorem Active.ready (h : Active start past items kinds t p) (hb : ¬ Busy p) :
    p.conn.exchangeReady = true := by
  have hb : p.conn.flags.exchangeInProgress = false := by simpa [Busy] using hb
  simp [Conn.exchangeReady, Driver.exchangeReady, h.unbroken, hb]

theorem meets_ensureExchangeReady (hr : p.conn.exchangeReady = true)
    {Q : Outcome Error Unit → Pipeline P → Prop} :
    Act.Meets (onConn Conn.ensureExchangeReady) p Q ↔ Q (.ok ()) p := by
  have hrun : onConn Conn.ensureExchangeReady p = (.ok (), p) := by
    simp only [onConn, Conn.ensureExchangeReady, hr, if_true]
  rw [Act.Meets, hrun]

/-- The state after `begin_exchange`. -/
def begun (p : Pipeline P) : Pipeline P :=
  { p with conn := { p.conn with flags := { p.conn.flags with exchangeInProgress := true } } }

/-- The pipeline with another `scope_pending`. -/
def setPending (pending : Bool) (p : Pipeline P) : Pipeline P :=
  { p with conn := { p.conn with flags := { p.conn.flags with scopePending := pending } } }

@[simp] theorem meets_setScopePending {pending : Bool}
    {Q : Outcome Error Unit → Pipeline P → Prop} :
    Act.Meets (onConn (setScopePending pending)) p Q ↔ Q (.ok ()) (setPending pending p) :=
  Iff.rfl

/-- The state after `finish_exchange`. -/
def finished (p : Pipeline P) : Pipeline P :=
  { p with conn := { p.conn with flags := { p.conn.flags with exchangeInProgress := false } } }

theorem meets_beginExchange (hr : p.conn.exchangeReady = true)
    {Q : Outcome Error Unit → Pipeline P → Prop} :
    Act.Meets (onConn Conn.beginExchange) p Q ↔ Q (.ok ()) (begun p) := by
  have hrun : onConn Conn.beginExchange p = (.ok (), begun p) := by
    simp only [onConn, Conn.beginExchange, Act.bind_run, Conn.ensureExchangeReady, hr, if_true]
    rfl
  rw [Act.Meets, hrun]

@[simp] theorem meets_finishExchange {Q : Outcome Error Unit → Pipeline P → Prop} :
    Act.Meets (onConn Conn.finishExchange) p Q ↔ Q (.ok ()) (finished p) := Iff.rfl

theorem Active.begun (h : Active start past items kinds t p) :
    Active start past items kinds t (begun p) where
  toLedger := h.toLedger.of_eq rfl rfl rfl rfl
  unbroken := h.unbroken
  scope := h.scope

theorem Active.finished (h : Active start past items kinds t p) :
    Active start past items kinds t (finished p) where
  toLedger := h.toLedger.of_eq rfl rfl rfl rfl
  unbroken := h.unbroken
  scope := h.scope

/-- Marking adds to the errors of the breaking kind. -/
theorem meets_marking {α : Type} {x : Act Error (Pipeline P) α}
    {Q : Outcome Error α → Pipeline P → Prop} :
    Act.Meets (marking x) p Q ↔ Act.Meets x p fun o p' =>
      match o with
      | .ok a => Q (.ok a) p'
      | .err e => Q (.err e) (if e.isConnectionBroken then
          { p' with conn := { p'.conn with broken := true } } else p')
      | .halt => Q .halt p' := by
  unfold Act.Meets marking
  rcases x p with ⟨_ | _ | _, p'⟩ <;> exact Iff.rfl

/-! ### Flush and Sync -/

/-- Where sending leads: the future is dropped in the middle of the exchange, or the peer
closes the session, or the entries sent are in the ledger. -/
def SendPost (start : List (Frontend × List RawMessage)) (past items : List Item)
    (kinds : List OpKind) (sync : Bool) (p : Pipeline P) :
    Outcome Error Unit → Pipeline P → Prop
  | .ok _, p' => Counts p p' ∧ p'.aborted = p.aborted ∧ ¬ Busy p' ∧ (Closed p' ∨
      ∃ new u, QueueFrames kinds p.buffers.writeBuffer ∧ new.map Item.kind? = kinds.map some ∧
        if sync then ∃ error, Active start past (items ++ new ++ [.sync error]) [] false p'
        else Active start past (items ++ new) [] u p')
  | .err _, _ => False
  | .halt, p' => p.conn.stream.cut ≠ none ∧ Busy p'

theorem flush_meets (hP : P.NoCopy) (h : Active start past items kinds t p) (hb : ¬ Busy p) :
    Act.Meets flush p (SendPost start past items kinds false p) := by
  have hr := h.ready hb
  simp only [flush, Act.meets_bind, meets_ensureExchangeReady hr, meets_beginExchange hr,
    Act.meets_get]
  by_cases hw : (begun p).buffers.writeBuffer = []
  · have hk := h.kinds_nil hw
    subst hk
    simp only [hw, if_true, meets_finishExchange]
    have hnil : QueueFrames [] p.buffers.writeBuffer := by
      rw [show p.buffers.writeBuffer = [] from hw]
      exact .nil
    refine ⟨⟨rfl, rfl, id⟩, rfl, by simp [Busy, Pipeline.finished], .inr ⟨[], t, hnil, rfl, ?_⟩⟩
    simpa using h.begun.finished
  · simp only [hw, if_false, Act.meets_bind, meets_setScopePending, meets_appendWrite,
      meets_clearWrite, meets_finishExchange]
    refine (send_meets _).mono fun o p₁ ho => ?_
    cases o with
    | ok u =>
      obtain ⟨cut, hcut, rfl⟩ := ho
      refine ⟨⟨rfl, rfl, hcut⟩, rfl, by simp [Busy, Pipeline.finished], ?_⟩
      refine Or.imp_right ?_ (h.sent_flush hP (.of_stream rfl rfl rfl) rfl)
      rintro ⟨new, u, hq, hnew, hl⟩
      exact ⟨new, u, hq, hnew, hl, h.unbroken, fun hs => by cases hs⟩
    | err e => exact ho
    | halt => exact ⟨ho.1, by rw [Busy, ho.2]; rfl⟩

theorem sync_meets (hP : P.NoCopy) (h : Active start past items kinds t p) (hb : ¬ Busy p) :
    Act.Meets sync p (SendPost start past items kinds true p) := by
  have hr := h.ready hb
  have hinner : Act.Meets syncInner p (SendPost start past items kinds true p) := by
    simp only [syncInner, Act.meets_bind, meets_beginExchange hr, meets_setScopePending,
      meets_appendWrite, meets_pushExpectation, meets_clearWrite, meets_finishExchange]
    refine (send_meets _).mono fun o p₁ ho => ?_
    cases o with
    | ok u =>
      obtain ⟨cut, hcut, rfl⟩ := ho
      refine ⟨⟨rfl, rfl, hcut⟩, rfl, by simp [Busy, Pipeline.finished], ?_⟩
      refine Or.imp_right ?_ (h.sent_sync hP (.of_stream rfl rfl rfl) rfl)
      rintro ⟨new, error, hq, hnew, hl⟩
      exact ⟨new, false, hq, hnew, error, hl, h.unbroken, fun hs => by cases hs⟩
    | err e => exact ho
    | halt => exact ⟨ho.1, by rw [Busy, ho.2]; rfl⟩
  simp only [sync, Act.meets_bind, meets_ensureExchangeReady hr, meets_marking]
  refine hinner.mono fun o p₁ ho => ?_
  cases o with
  | ok u => exact ho
  | err e => exact ho.elim
  | halt => exact ho

/-! ### Consuming a ReadyForQuery -/

/-- A ReadyForQuery was read. -/
structure Readied (p : Pipeline P) (ms : List RawMessage) (p' : Pipeline P) : Prop
    extends Counts p p' where
  expectations : p'.expectations = p.expectations
  aborted : p'.aborted = p.aborted
  broken : p'.conn.broken = p.conn.broken
  flags : p'.conn.flags = { p.conn.flags with scopePending := !p.expectations.isEmpty }
  writeBuffer : p'.buffers.writeBuffer = p.buffers.writeBuffer
  peer : p'.conn.stream.peer = p.conn.stream.peer
  log : p'.conn.stream.log = p.conn.stream.log
  unread : p'.unread = ms

private theorem readyRound_skipsAsync : SkipsAsync (readyRound (P := P)) := by
  intro b m hm
  simp only [readyRound, hm, if_true]

private theorem isReady_parse {status : TransactionStatus} {m : RawMessage}
    (h : IsReady status m) : ReadyForQuery.parse m.payload = .ok status := by
  simp [ReadyForQuery.parse, h.2]

/-- The ReadyForQuery that is next is consumed, unless the future is dropped. -/
theorem consumeReadyForQuery_meets {status : TransactionStatus} {z : RawMessage}
    {ms : List RawMessage} (hz : IsReady status z) (h : p.unread = z :: ms) :
    Act.Meets consumeReadyForQuery p fun o p' =>
      match o with
      | .ok _ => Readied p ms p'
      | .err _ => False
      | .halt => Reads p p' ∧ p.conn.stream.cut ≠ none := by
  obtain ⟨p₁, hr, ⟨hcut, hrun⟩ | ⟨hun, hrun⟩⟩ := readMessages_core readyRound_skipsAsync h ()
  · rw [Act.Meets, consumeReadyForQuery, hrun]
    exact ⟨hr, hcut⟩
  · rw [Act.Meets, consumeReadyForQuery, hrun]
    have ha : z.isAsync = false := by simp [RawMessage.isAsync, hz.1, MsgType.isAsync]
    have hround : readyRound () z p₁ =
        (.ok (.stop ()), setPending (!p₁.expectations.isEmpty)
          { p₁ with conn := { p₁.conn with transactionStatus := status } }) := by
      simp [readyRound, ha, hz.1, Act.bind_run, isReady_parse hz, onConn, Conn.setStatus,
        setScopePending, setPending]
    simp only [afterMessage, Act.bind_run, hround]
    exact {
      queueSeq := hr.queueSeq, claimSeq := hr.claimSeq, nocut := hr.nocut
      expectations := hr.expectations, aborted := hr.aborted, broken := hr.broken
      flags := by
        change { p₁.conn.flags with scopePending := !p₁.expectations.isEmpty } = _
        rw [hr.flags, hr.expectations]
      writeBuffer := hr.writeBuffer, peer := hr.peer, log := hr.log, unread := hun }

/-- The error that is next before a ReadyForQuery ends the read. -/
theorem consumeReadyForQuery_error {e : ServerError} {m : RawMessage} {ms : List RawMessage}
    (he : IsError e m) (hf : e.isFatal = false) (h : p.unread = m :: ms) :
    Act.Meets consumeReadyForQuery p fun o p' =>
      match o with
      | .ok _ => False
      | .err _ => Reads p p'
      | .halt => Reads p p' ∧ p.conn.stream.cut ≠ none := by
  obtain ⟨p₁, hr, ⟨hcut, hrun⟩ | ⟨hun, hrun⟩⟩ := readMessages_core readyRound_skipsAsync h ()
  · rw [Act.Meets, consumeReadyForQuery, hrun]
    exact ⟨hr, hcut⟩
  · rw [Act.Meets, consumeReadyForQuery, hrun]
    have ha : m.isAsync = false := by simp [RawMessage.isAsync, he.1, MsgType.isAsync]
    have hround : readyRound () m p₁ = (.err (.server e), p₁) := by
      simp [readyRound, ha, he.1, he.2, Act.bind_run, hf]
    simp only [afterMessage, Act.bind_run, hround]
    exact hr

/-- The state of a claim or a drain while it consumes Syncs. -/
structure Draining (start : List (Frontend × List RawMessage)) (kinds : List OpKind) (t : Bool)
    (p : Pipeline P) (past items : List Item) (p' : Pipeline P) : Prop
    extends Active start past items kinds t p', Counts p p' where
  busy : Busy p'

/-- A Sync popped from the front of the queue: its ReadyForQuery is consumed, unless the
future is dropped or the Sync was answered with an error. -/
theorem consumeSync_meets {error : Option ServerError} {p₁ : Pipeline P}
    (h : Draining start kinds t p past (.sync error :: items) p₁) :
    Act.Meets consumeReadyForQuery { p₁ with expectations := p₁.expectations.tail } fun o p' =>
      match o with
      | .ok _ => error = none ∧ p'.conn.flags.scopePending = !p'.expectations.isEmpty ∧
          Draining start kinds t p (past ++ [.sync error]) items { p' with aborted := false }
      | .err _ => error ≠ none ∧ Busy p'
      | .halt => Busy p' ∧ p.conn.stream.cut ≠ none := by
  rcases h.owes.sync_inv with ⟨status, z, ms, rfl, hm, hz, hrest⟩ | ⟨e, m, ms, rfl, hm, he, hf⟩
  · refine (consumeReadyForQuery_meets (p := { p₁ with expectations := p₁.expectations.tail })
      hz hm).mono fun o p₂ ho => ?_
    cases o with
    | ok u =>
      refine ⟨rfl, ?_, ⟨?_, ho.broken.trans h.unbroken, fun hp => ?_⟩, ?_, ?_⟩
      · rw [ho.flags, ho.expectations]
      · refine h.pop ho.expectations ?_ ho.peer ho.log ho.writeBuffer
        rw [show unread { p₂ with aborted := false } = ms from ho.unread]
        exact hrest
      · have hflag : p₂.conn.flags.scopePending = false := hp
        rw [ho.flags] at hflag
        have htail : p₁.expectations.tail = [] := by simpa using hflag
        rw [h.queue] at htail
        exact ⟨by simpa using (List.append_eq_nil_iff.mp htail).1, rfl⟩
      · exact ⟨ho.queueSeq.trans h.queueSeq, ho.claimSeq.trans h.claimSeq,
          fun hc => ho.nocut (h.nocut hc)⟩
      · change p₂.conn.flags.exchangeInProgress = true
        rw [ho.flags]
        exact h.busy
    | err e => exact ho.elim
    | halt =>
      refine ⟨?_, fun hc => ho.2 (h.nocut hc)⟩
      rw [Busy, ho.1.flags]
      exact h.busy
  · refine (consumeReadyForQuery_error (p := { p₁ with expectations := p₁.expectations.tail })
      he hf hm).mono fun o p₂ ho => ?_
    cases o with
    | ok u => exact ho.elim
    | err e =>
      refine ⟨by simp, ?_⟩
      rw [Busy, ho.flags]
      exact h.busy
    | halt =>
      refine ⟨?_, fun hc => ho.2 (h.nocut hc)⟩
      rw [Busy, ho.1.flags]
      exact h.busy

/-- The end of a claim: the Syncs behind the operation are consumed and the exchange is
over, unless the future is dropped or a Sync was answered with an error. -/
theorem finishClaim_meets {p₁ : Pipeline P} (h : Draining start kinds t p past items p₁) :
    Act.Meets finishClaim p₁ fun o p' =>
      match o with
      | .ok _ => ∃ n items', items = List.replicate n (.sync none) ++ items' ∧
          (∀ error, items'.head? ≠ some (.sync error)) ∧ Counts p p' ∧ ¬ Busy p' ∧
          Active start (past ++ List.replicate n (.sync none)) items' kinds t p'
      | .err _ => (∃ error, .sync (some error) ∈ items) ∧ Busy p'
      | .halt => Busy p' ∧ p.conn.stream.cut ≠ none := by
  have hone (past error items p₁) (h : Draining start kinds t p past (.sync error :: items) p₁) :
      Act.Meets (do
        Act.modify fun p => { p with expectations := p.expectations.tail }
        consumeReadyForQuery
        setAborted false) p₁ fun o p' =>
          match o with
          | .ok _ => error = none ∧ Draining start kinds t p (past ++ [.sync error]) items p'
          | .err _ => error ≠ none ∧ Busy p'
          | .halt => Busy p' ∧ p.conn.stream.cut ≠ none := by
    simp only [Act.meets_bind, Act.meets_modify, meets_setAborted]
    refine (consumeSync_meets h).mono fun o p₂ ho => ?_
    cases o with
    | ok u => exact ⟨ho.1, ho.2.2⟩
    | err e => exact ho
    | halt => exact ho
  have hloop := consumeSyncs_meets (E := fun _ => Busy) kinds (fun _ _ _ h => h.queue) hone items
    past p₁ h
  simp only [finishClaim, Act.meets_bind, meets_finishExchange]
  refine .of_run_eq (y := consumeSyncs consumeReadyForQuery p₁.expectations) rfl
    (hloop.mono fun o p₂ ho => ?_)
  cases o with
  | ok u =>
    obtain ⟨n, items', hitems, hhead, hd⟩ := ho
    exact ⟨n, items', hitems, hhead, ⟨hd.queueSeq, hd.claimSeq, hd.nocut⟩,
      by simp [Busy, Pipeline.finished], hd.toActive.finished⟩
  | err e => exact ho
  | halt => exact ho

/-! ### Claims -/

/-- The claim of the operation at the front ran to its end: the operation and the Syncs
behind it are consumed, and the claim reported what became of the operation. -/
def Settled (start : List (Frontend × List RawMessage)) (past : List Item) (kind : OpKind)
    (fate : Fate) (items : List Item) (kinds : List OpKind) (t : Bool) (ticket : Ticket)
    (p : Pipeline P) (o : Outcome Error (List Callback)) (p' : Pipeline P) : Prop :=
  ∃ n items', items = List.replicate n (.sync none) ++ items' ∧
    (∀ error, items'.head? ≠ some (.sync error)) ∧
    Counts { p with claimSeq := p.claimSeq + 1 } p' ∧ ¬ Busy p' ∧
    Active start (past ++ .op kind fate :: List.replicate n (.sync none)) items' kinds t p' ∧
    Reported (claimResult kind ticket fate) o

/-- The claim of the operation at the front stopped within an exchange: its future was
dropped, a Sync behind it was answered with an error, or it could not be delivered. -/
def Abandoned (kind : OpKind) (fate : Fate) (items : List Item) (ticket : Ticket)
    (handler : Handler) (p p' : Pipeline P) : Prop :=
  Busy p' ∧ (p.conn.stream.cut ≠ none ∨ (∃ error, .sync (some error) ∈ items) ∨
    ¬ Delivers kind ticket handler fate)

/-- The end of a claim that has consumed the operation at the front. -/
private theorem finish_meets {kind : OpKind} {fate : Fate} {p₁ : Pipeline P} (ticket : Ticket)
    (handler : Handler) (result : Except Error (List Callback))
    (h : Draining start kinds t { p with claimSeq := p.claimSeq + 1 } (past ++ [.op kind fate])
      items p₁)
    (hres : claimResult kind ticket fate = some result) :
    Act.Meets (finishClaim >>= fun _ => Act.ofExcept result) p₁ fun o p' =>
      Settled start past kind fate items kinds t ticket p o p' ∨
        Abandoned kind fate items ticket handler p p' := by
  rw [Act.meets_bind]
  refine (finishClaim_meets h).mono fun o p₂ ho => ?_
  cases o with
  | ok u =>
    obtain ⟨n, items', hitems, hhead, hc, hb, ha⟩ := ho
    have ha : Active start (past ++ .op kind fate :: List.replicate n (.sync none)) items' kinds t
        p₂ := by simpa using ha
    cases result with
    | ok cs => exact .inl ⟨n, items', hitems, hhead, hc, hb, ha, hres⟩
    | error e => exact .inl ⟨n, items', hitems, hhead, hc, hb, ha, hres⟩
  | err e => exact .inr ⟨ho.2, .inr (.inl ho.1)⟩
  | halt => exact .inr ⟨ho.1, .inl ho.2⟩

/-- The state in which a claim reads: the exchange is begun, the operation is popped. -/
private def opened (p : Pipeline P) : Pipeline P :=
  { begun p with aborted := false, expectations := p.expectations.tail }

/-- The operation at the front was read to the end of its reply. -/
private theorem draining_of_reads {kind : OpKind} {fate : Fate} {aborted : Bool} {p₁ : Pipeline P}
    (h : Active start past (.op kind fate :: items) kinds t p) (hr : Reads (opened p) p₁)
    (howes : Owes aborted items p₁.unread t) :
    Draining start kinds t { p with claimSeq := p.claimSeq + 1 } (past ++ [.op kind fate]) items
      { p₁ with aborted, claimSeq := p₁.claimSeq + 1 } where
  toLedger := h.toLedger.pop hr.expectations howes hr.peer hr.log hr.writeBuffer
  unbroken := hr.broken.trans h.unbroken
  scope hs := by
    have hs : p₁.conn.flags.scopePending = false := hs
    rw [hr.flags] at hs
    cases (h.scope hs).1
  queueSeq := hr.queueSeq
  claimSeq := congrArg (· + 1) hr.claimSeq
  nocut := hr.nocut
  busy := by
    change p₁.conn.flags.exchangeInProgress = true
    rw [hr.flags]
    rfl

/-- The claim of an operation at the front of the queue. -/
theorem claimFront_meets {kind : OpKind} {fate : Fate} (ticket : Ticket) (handler : Handler)
    (h : Active start past (.op kind fate :: items) kinds t p) (hb : ¬ Busy p) :
    Act.Meets (claimFront ticket handler) p fun o p' =>
      Settled start past kind fate items kinds t ticket p o p' ∨
        Abandoned kind fate items ticket handler p p' := by
  have hr := h.ready hb
  have hq : p.expectations.head? = some kind.expectation := by
    rw [h.queue]
    rfl
  simp only [claimFront, Act.meets_bind, meets_beginExchange hr, Act.meets_get]
  rcases h.owes.op_inv with ⟨ha, rfl, hrest⟩ |
    ⟨ha, c, rows, ending, r, rest, rfl, hun, hread, hrest⟩
  · simp only [show (begun p).aborted = true from ha, if_true, Act.meets_bind, Act.meets_modify,
      meets_popExpectation]
    have hm := finish_meets ticket handler (.error pipelineAborted)
      (draining_of_reads h (Reads.refl (opened p)) hrest) rfl
    exact Act.meets_bind.mp hm
  · simp only [show (begun p).aborted = false from ha, Bool.false_eq_true, if_false,
      Act.meets_bind, meets_popExpectation, Act.meets_attempt, Act.meets_get]
    rw [show (begun p).expectations.head? = _ from hq]
    refine (claimExpectation_meets hread ticket (opened p) hun).mono fun o p₁ ho => ?_
    cases o with
    | ok calls =>
      obtain ⟨hend, ⟨cs, hcs, -, rfl⟩, hr, hun⟩ := ho
      have hf : ending.failed = false := by
        cases ending with
        | error e => exact absurd rfl (hend e)
        | _ => rfl
      have ha₁ : p₁.aborted = false := hr.aborted
      simp only [Except.isOk, Except.toBool, Bool.not_true, Bool.false_and, Bool.false_eq_true,
        if_false, Act.meets_bind, Act.meets_modify, ha₁]
      have hrest : Owes false items p₁.unread t := by
        rw [hun, ← hf]
        exact hrest
      have hm := finish_meets ticket handler _ (draining_of_reads h hr hrest)
        (reported_of_calls hend hcs)
      exact Act.meets_bind.mp hm
    | err e =>
      rcases ho with ⟨se, rfl, rfl, hfatal, p₂, hr, hun, rfl⟩ | ⟨hr, hd⟩
      · have hb₂ : p₂.conn.broken = false := hr.broken.trans h.unbroken
        simp only [PipelineDriver.onServerError, Error.isConnectionBroken_server, hfatal,
          Bool.false_eq_true, if_false, hb₂, Bool.not_true, Bool.or_false, Bool.and_false,
          Act.meets_bind, Act.meets_modify]
        have hrest : Owes true items p₂.unread t := by
          rw [hun]
          exact hrest
        have hm := finish_meets ticket handler _ (draining_of_reads h hr hrest) rfl
        exact Act.meets_bind.mp hm
      · have ha₁ : p₁.aborted = false := hr.aborted
        simp only [Except.isOk, Except.toBool, Bool.not_false, ha₁, Bool.or_true, Bool.and_true,
          if_true]
        refine .inr ⟨?_, .inr (.inr hd)⟩
        change p₁.conn.flags.exchangeInProgress = true
        rw [hr.flags]
        rfl
    | halt =>
      refine .inr ⟨?_, ho.2.imp_right .inr⟩
      rw [Busy, ho.1.flags]
      rfl

/-- A claim with no operation at the front: with an empty queue behind a failed operation it
reports the failure, and otherwise it stops within its exchange. A Sync at the front behind a
failed operation is left out here. -/
theorem claimFront_other (ticket : Ticket) (handler : Handler)
    (h : Active start past items kinds t p) (hb : ¬ Busy p)
    (hfront : p.expectations = [] ∨ p.expectations.head? = some .sync ∧ p.aborted = false) :
    Act.Meets (claimFront ticket handler) p fun _ p' =>
      Busy p' ∨ ¬ Busy p' ∧ Active start past items kinds t p' := by
  have hr := h.ready hb
  simp only [claimFront, Act.meets_bind, meets_beginExchange hr, Act.meets_get]
  by_cases ha : p.aborted = true
  · have hq : p.expectations = [] := hfront.resolve_right fun hs => by simp [ha] at hs
    have hnil : items = [] := by
      have hqueue := h.queue
      rw [hq] at hqueue
      exact List.map_eq_nil_iff.mp (List.append_eq_nil_iff.mp hqueue.symm).1
    subst hnil
    have hd : Draining start kinds t { p with claimSeq := p.claimSeq + 1 } past []
        { opened p with aborted := true, claimSeq := p.claimSeq + 1 } :=
      ⟨⟨h.toLedger.of_eq (by simp [opened, hq]) ha.symm rfl rfl, h.unbroken,
        fun hs => absurd (h.scope hs).2 (by simp [ha])⟩, ⟨rfl, rfl, id⟩, rfl⟩
    simp only [show (begun p).aborted = true from ha, if_true, Act.meets_bind, Act.meets_modify,
      meets_popExpectation]
    refine (finishClaim_meets hd).mono fun o p₁ ho => ?_
    cases o with
    | ok u =>
      obtain ⟨n, items', hitems, -, -, hb, ha⟩ := ho
      obtain ⟨hn, rfl⟩ := List.append_eq_nil_iff.mp hitems.symm
      rw [hn, List.append_nil] at ha
      exact .inr ⟨hb, ha⟩
    | err e => exact .inl ho.2
    | halt => exact .inl ho.1
  · have ha : p.aborted = false := by simpa using ha
    have hfail : ∃ text, claimExpectation p.expectations.head? ticket handler =
        (Act.fail (.libraryBug text) : Act Error (Pipeline P) (List Callback)) := by
      rcases hfront with hq | hq
      · rw [hq]
        exact ⟨_, rfl⟩
      · rw [hq.1]
        exact ⟨_, rfl⟩
    obtain ⟨text, hfail⟩ := hfail
    simp only [show (begun p).aborted = false from ha, Bool.false_eq_true, if_false,
      Act.meets_bind, meets_popExpectation, Act.meets_attempt, Act.meets_get]
    rw [show (begun p).expectations.head? = p.expectations.head? from rfl, hfail]
    simp only [Act.meets_fail, Except.isOk, Except.toBool, Bool.not_false, Bool.or_true,
      Bool.and_true, if_true]
    exact .inl rfl

/-- A claim that passes its checks sends what is queued and goes on from there, unless its
future is dropped while sending. -/
theorem claimWithHandler_eq (hP : P.NoCopy) (ticket : Ticket) (handler : Handler)
    (h : Active start past items kinds t p) (hb : ¬ Busy p) (hseq : ticket.seq = p.claimSeq) :
    ∃ p₁, Follows p p₁ ∧
      (claimWithHandler ticket handler p = (.halt, p₁) ∧ p.conn.stream.cut ≠ none ∧ Busy p₁ ∨
        claimWithHandler ticket handler p = claimFront ticket handler p₁ ∧ Counts p p₁ ∧
          (Closed p₁ ∨ ¬ Busy p₁ ∧ p₁.aborted = p.aborted ∧
            QueueFrames kinds p.buffers.writeBuffer ∧
            (p₁.expectations = p.expectations ∨
              p.expectations ≠ [] ∧ p₁.expectations = p.expectations ++ [.sync]) ∧
            ∃ items₁ t₁, Active start past items₁ [] t₁ p₁)) := by
  have hr := h.ready hb
  have hstart : claimWithHandler ticket handler p =
      (if p.buffers.writeBuffer ≠ [] then sync >>= fun _ => claimFront ticket handler
        else claimFront ticket handler) p := by
    have hens : onConn Conn.ensureExchangeReady p = (.ok (), p) := by
      simp only [onConn, Conn.ensureExchangeReady, hr, if_true]
    have hcheck : checkSequence ticket.seq p = (.ok (), p) := by simp [checkSequence, hseq]
    simp only [claimWithHandler, Act.bind_run, hens, hcheck, Act.get_run]
  rw [hstart]
  by_cases hw : p.buffers.writeBuffer = []
  · have hk := h.kinds_nil hw
    subst hk
    refine ⟨p, Std.Refl.refl p, .inr ⟨by simp [hw], ⟨rfl, rfl, id⟩,
      .inr ⟨hb, rfl, ?_, .inl rfl, items, t, h⟩⟩⟩
    rw [hw]
    exact .nil
  · have hs := sync_meets hP h hb
    have hfollows := sync_follows.rel p
    simp only [ne_eq, hw, not_false_eq_true, if_true, Act.bind_run]
    unfold Act.Meets at hs
    generalize sync p = r at hs hfollows ⊢
    rcases r with ⟨_ | e | _, p₁⟩
    · obtain ⟨hc, ha, hb₁, hl⟩ := hs
      refine ⟨p₁, hfollows, .inr ⟨rfl, hc, hl.imp_right ?_⟩⟩
      rintro ⟨new, u, hframes, hnew, error, hactive⟩
      refine ⟨hb₁, ha, hframes, .inr ⟨fun hnil => ?_, ?_⟩, _, _, hactive⟩
      · rw [h.queue] at hnil
        have hk : kinds = [] := List.map_eq_nil_iff.mp (List.append_eq_nil_iff.mp hnil).2
        rw [hk] at hframes
        exact hw hframes.nil_inv
      · rw [h.queue, hactive.queue]
        simp [expectations_of_kinds hnew, Item.expectation]
    · exact hs.elim
    · exact ⟨p₁, hfollows, .inl ⟨rfl, hs⟩⟩

/-! ### Cleanup -/

private theorem drainRound_next {m : RawMessage} {ty : MsgType} (hm : m.type = ty)
    (ht : ty ∈ [.parseComplete, .bindComplete, .rowDescription, .noData, .dataRow])
    (p : Pipeline P) : drainRound () m p = (.ok (.next ()), p) := by
  simp only [List.mem_cons, List.not_mem_nil, or_false] at ht
  rcases ht with rfl | rfl | rfl | rfl | rfl <;> simp [drainRound, hm]

/-- Where draining a reply leads: to its end, or to the error it ended in. -/
def DrainPost (ending : Ending) (p : Pipeline P) (rest : List RawMessage) :
    Outcome Error Unit → Pipeline P → Prop
  | .ok _, p' => ending.failed = false ∧ Reads p p' ∧ p'.unread = rest
  | .err _, p' => ∃ p₁, ending.failed = true ∧ Reads p p₁ ∧ p₁.unread = rest ∧
      p' = { p₁ with aborted := true }
  | .halt, p' => Reads p p' ∧ p.conn.stream.cut ≠ none

private theorem DrainPost.of_reads {ending : Ending} {p₁ : Pipeline P} {rest : List RawMessage}
    {o : Outcome Error Unit} (h : Reads p p₁) (hp : DrainPost ending p₁ rest o p') :
    DrainPost ending p rest o p' := by
  cases o with
  | ok u => exact ⟨hp.1, h.trans hp.2.1, hp.2.2⟩
  | err e =>
    obtain ⟨p₂, hf, hr, hp⟩ := hp
    exact ⟨p₂, hf, h.trans hr, hp⟩
  | halt => exact ⟨h.trans hp.1, fun hc => hp.2 (h.nocut hc)⟩

/-- The drain of one operation reads its reply to the end. The induction is on the reply. -/
theorem drainReply_meets {stage : Stage} {fate : Fate} {c : Option Bytes} {rows : List Bytes}
    {ending : Ending} {r rest : List RawMessage} (hread : Reading stage fate r)
    (hfate : fate = .ran c rows ending) :
    ∀ p : Pipeline P, p.unread = r ++ rest →
      Act.Meets (readMessages (nextRound drainRound) ()) p (DrainPost ending p rest) := by
  have skip {m : RawMessage} {ms : List RawMessage} {ty : MsgType} (hm : m.type = ty)
      (ht : ty ∈ [.parseComplete, .bindComplete, .rowDescription, .noData, .dataRow])
      (ih : ∀ p : Pipeline P, p.unread = ms ++ rest →
        Act.Meets (readMessages (nextRound drainRound) ()) p (DrainPost ending p rest))
      (p : Pipeline P) (hp : p.unread = m :: ms ++ rest) :
      Act.Meets (readMessages (nextRound drainRound) ()) p (DrainPost ending p rest) := by
    obtain ⟨p₁, hr, ⟨hcut, hrun⟩ | ⟨hun, hrun⟩⟩ :=
      readMessages_core (nextRound_skipsAsync drainRound) hp ()
    · rw [Act.Meets, hrun]
      exact ⟨hr, hcut⟩
    · have hne : m.type ≠ .errorResponse := by
        rw [hm]
        rintro rfl
        simp at ht
      rw [Act.Meets, hrun, afterMessage, Act.bind_run, nextRound_eq (not_async hp) hne,
        drainRound_next hm ht p₁]
      exact (ih p₁ hun).at.of_reads hr
  have last {m : RawMessage} (hne : m.type ≠ .errorResponse) (hf : ending.failed = false)
      (hm : ∀ p : Pipeline P, drainRound () m p = (.ok (.stop ()), p))
      (p : Pipeline P) (hp : p.unread = [m] ++ rest) :
      Act.Meets (readMessages (nextRound drainRound) ()) p (DrainPost ending p rest) := by
    obtain ⟨p₁, hr, ⟨hcut, hrun⟩ | ⟨hun, hrun⟩⟩ :=
      readMessages_core (nextRound_skipsAsync drainRound) hp ()
    · rw [Act.Meets, hrun]
      exact ⟨hr, hcut⟩
    · rw [Act.Meets, hrun, afterMessage, Act.bind_run, nextRound_eq (not_async hp) hne, hm p₁]
      exact ⟨hf, hr, hun⟩
  induction hread generalizing c rows with
  | @error stage e m he hf =>
    cases hfate
    intro p hp
    refine (readMessages_error hp he ()).mono fun o p' ho => ?_
    cases o with
    | ok u => exact ho.elim
    | err e' =>
      obtain ⟨-, p₁, hr, hun, rfl⟩ := ho
      exact ⟨p₁, rfl, hr, hun, by simp [PipelineDriver.onServerError, hf]⟩
    | halt => exact ho
  | parse hm _ ih => exact skip hm.1 (by simp) (ih hfate)
  | bindDescribed hm _ ih => exact skip hm.1 (by simp) (ih hfate)
  | bindCached _ hm _ ih => exact skip hm.1 (by simp) (ih hfate)
  | columns hm _ ih => exact skip hm.1 (by simp) (ih hfate)
  | noData hm _ ih => exact skip hm.1 (by simp) (ih hfate)
  | row hm _ ih =>
    cases hfate
    exact skip hm.1 (by simp) (ih rfl)
  | complete hm =>
    cases hfate
    exact last (by rw [hm.1]; decide) rfl fun p => by
      simp [drainRound, hm.1, hm.2, Act.bind_run]
  | empty hm =>
    cases hfate
    exact last (by rw [hm.1]; decide) rfl fun p => by simp [drainRound, hm.1, Act.bind_run]

/-- The operation popped from the front was read to the end of its reply. -/
private theorem Draining.consumed {kind : OpKind} {fate : Fate} {aborted : Bool}
    {p₁ p₂ : Pipeline P} (h : Draining start kinds t p past (.op kind fate :: items) p₁)
    (hr : Reads { p₁ with aborted := false, expectations := p₁.expectations.tail } p₂)
    (howes : Owes aborted items p₂.unread t) :
    Draining start kinds t p (past ++ [.op kind fate]) items { p₂ with aborted } where
  toLedger := h.toLedger.pop hr.expectations howes hr.peer hr.log hr.writeBuffer
  unbroken := hr.broken.trans h.unbroken
  scope hs := by
    have hs : p₂.conn.flags.scopePending = false := hs
    rw [hr.flags] at hs
    cases (h.scope hs).1
  queueSeq := hr.queueSeq.trans h.queueSeq
  claimSeq := hr.claimSeq.trans h.claimSeq
  nocut hc := hr.nocut (h.nocut hc)
  busy := by
    change p₂.conn.flags.exchangeInProgress = true
    rw [hr.flags]
    exact h.busy

/-- The drain loop consumes every entry, unless the future is dropped or a Sync was answered
with an error. The induction is on the entries. -/
theorem drainLoop_meets : ∀ items past (p₁ : Pipeline P), Draining start [] t p past items p₁ →
    Act.Meets (drainLoop p₁.expectations) p₁ fun o p' =>
      match o with
      | .ok true => Draining start [] t p (past ++ items) [] p' ∧
          ((∃ error, items.getLast? = some (.sync error)) → p'.conn.flags.scopePending = false)
      | .ok false => Busy p' ∧ ∃ error, .sync (some error) ∈ items
      | .err _ => False
      | .halt => Busy p' ∧ p.conn.stream.cut ≠ none := by
  intro items
  induction items with
  | nil =>
    intro past p₁ h
    rw [show p₁.expectations = [] from h.queue]
    exact ⟨by rw [List.append_nil]; exact h, by simp⟩
  | cons item items ih =>
    intro past p₁ h
    -- What the rest of the loop does from a state in which the entry is consumed.
    have next {p₂ : Pipeline P} (hd : Draining start [] t p (past ++ [item]) items p₂)
        (hp : (∃ error, item = .sync error) → items = [] → p₂.conn.flags.scopePending = false) :
        Act.Meets (drainLoop p₂.expectations) p₂ fun o p' =>
          match o with
          | .ok true => Draining start [] t p (past ++ item :: items) [] p' ∧
              ((∃ error, (item :: items).getLast? = some (.sync error)) →
                p'.conn.flags.scopePending = false)
          | .ok false => Busy p' ∧ ∃ error, .sync (some error) ∈ item :: items
          | .err _ => False
          | .halt => Busy p' ∧ p.conn.stream.cut ≠ none := by
      cases items with
      | nil =>
        rw [show p₂.expectations = [] from hd.queue]
        refine ⟨hd, fun ⟨error, he⟩ => hp ⟨error, ?_⟩ rfl⟩
        simpa using he
      | cons item' items =>
        refine (ih _ p₂ hd).mono fun o p' ho => ?_
        match o, ho with
        | .ok true, ho =>
          refine ⟨by simpa using ho.1, fun ⟨error, he⟩ => ho.2 ⟨error, ?_⟩⟩
          simpa [List.getLast?_cons_cons] using he
        | .ok false, ho =>
          obtain ⟨hb, error, he⟩ := ho
          exact ⟨hb, error, List.mem_cons_of_mem _ he⟩
        | .halt, ho => exact ho
    have hq : p₁.expectations = item.expectation :: p₁.expectations.tail := by
      rw [h.queue]
      rfl
    rw [hq]
    simp only [drainLoop, Act.meets_bind, Act.meets_modify, Act.meets_get]
    cases item with
    | op kind fate =>
      have hne : Item.expectation (.op kind fate) ≠ .sync := by cases kind <;> simp [
        Item.expectation, OpKind.expectation]
      rcases h.owes.op_inv with
        ⟨ha, rfl, hrest⟩ | ⟨ha, c, rows, ending, r, rest, rfl, hun, hread, hrest⟩
      · simp only [ha, hne, ne_eq, not_false_eq_true, and_self, if_true]
        exact next (h.consumed (Reads.refl _) hrest) (by simp)
      · simp only [ha, hne, Bool.false_eq_true, false_and, if_false, Act.meets_bind,
          Act.meets_attempt, Act.meets_get, drainExpectation, decide_false, Bool.or_false]
        have hpopped : Pipeline.unread { p₁ with
            aborted := false, expectations := p₁.expectations.tail } = r ++ rest := hun
        refine (drainReply_meets hread rfl _ hpopped).mono fun o p₂ ho => ?_
        cases o with
        | ok u =>
          obtain ⟨hf, hr, rfl⟩ := ho
          have hrest : Owes p₂.aborted items p₂.unread t := by
            rw [show p₂.aborted = ending.failed from hr.aborted.trans hf.symm]
            exact hrest
          have htail : p₁.expectations.tail = p₂.expectations := hr.expectations.symm
          simp only [Except.isOk, Except.toBool, Bool.not_true, Bool.false_and,
            Bool.false_eq_true, if_false, htail]
          exact next (h.consumed hr hrest) (by simp)
        | err e =>
          obtain ⟨p₃, hf, hr, rfl, rfl⟩ := ho
          have hrest : Owes true items p₃.unread t := by
            rw [← hf]
            exact hrest
          have htail : p₁.expectations.tail = p₃.expectations := hr.expectations.symm
          simp only [Bool.not_true, Bool.and_false, Bool.false_eq_true, if_false, htail]
          exact next (h.consumed hr hrest) (by simp)
        | halt =>
          refine ⟨?_, fun hc => ho.2 (h.nocut hc)⟩
          rw [Busy, ho.1.flags]
          exact h.busy
    | sync error =>
      simp only [Item.expectation, ne_eq, not_true_eq_false, and_false, if_false, Act.meets_bind,
        Act.meets_attempt, Act.meets_get, drainExpectation, if_true]
      refine (consumeSync_meets h).mono fun o p₂ ho => ?_
      cases o with
      | ok u =>
        obtain ⟨-, hpending, hd⟩ := ho
        simp only [Except.isOk, Except.toBool, Bool.not_true, Bool.false_and, Bool.false_eq_true,
          if_false, Act.meets_bind, meets_setAborted]
        have htail : p₁.expectations.tail = p₂.expectations := by
          have hqueue := hd.queue
          rw [h.queue]
          exact hqueue.symm
        rw [htail]
        refine next hd fun _ hnil => ?_
        subst hnil
        have hempty : p₂.expectations = [] := hd.queue
        change p₂.conn.flags.scopePending = false
        rw [hpending, hempty]
        rfl
      | err e =>
        simp only [Except.isOk, Except.toBool, Bool.not_false, decide_true, Bool.or_true,
          Bool.and_true, if_true, Act.meets_pure]
        obtain ⟨hne, hb⟩ := ho
        obtain ⟨e, rfl⟩ := Option.ne_none_iff_exists'.mp hne
        exact ⟨hb, e, by simp⟩
      | halt => exact ho

/-- The queue was drained: nothing is owed, and a server that still discards messages owes a
Sync, which keeps the scope pending. -/
structure Drained (p : Pipeline P) : Prop where
  idle : ¬ Busy p
  unbroken : p.conn.broken = false
  unread : p.unread = []
  mode : p.conn.flags.scopePending = false → p.conn.session.mode = .ready

private theorem Active.drained (h : Active start past [] kinds t p) (hb : ¬ Busy p) :
    Drained p where
  idle := hb
  unbroken := h.unbroken
  unread := h.owes.of_nil.1
  mode hs := by
    rw [h.mode, h.owes.of_nil.2, (h.scope hs).2]
    rfl

/-- The drain of a queue that was sent to its end. It stops within its exchange when its
future is dropped or a Sync was answered with an error. -/
theorem drain_meets (h : Active start past items [] t p) (hb : ¬ Busy p) :
    Act.Meets drain p fun _ p' =>
      Busy p' ∧ (p.conn.stream.cut ≠ none ∨ ∃ error, .sync (some error) ∈ items) ∨
      Drained p' ∧
        ((∃ error, items.getLast? = some (.sync error)) → p'.conn.flags.scopePending = false) := by
  have hr := h.ready hb
  have hd : Draining start [] t p past items (begun p) := ⟨h.begun, ⟨rfl, rfl, id⟩, rfl⟩
  simp only [drain, Act.meets_bind, meets_beginExchange hr, Act.meets_get]
  refine (drainLoop_meets items past (begun p) hd).mono fun o p₁ ho => ?_
  cases o with
  | ok finished =>
    cases finished with
    | true =>
      simp only [if_true, Act.meets_bind, Act.meets_modify, meets_finishExchange]
      refine .inr ⟨?_, ho.2⟩
      have hf := ho.1.toActive.finished.drained (by simp [Busy, Pipeline.finished])
      exact ⟨hf.idle, hf.unbroken, hf.unread, hf.mode⟩
    | false =>
      simp only [Bool.false_eq_true, if_false, Act.meets_pure]
      exact .inl ⟨ho.1, .inr ho.2⟩
  | err e => exact ho.elim
  | halt => exact .inl ⟨ho.1, .inl ho.2⟩

/-- The write buffer is empty and the queue holds a Sync, but its last entry is an operation:
cleanup then sends no Sync of its own. -/
def EndsInOperation (p : Pipeline P) : Prop :=
  p.buffers.writeBuffer = [] ∧ .sync ∈ p.expectations ∧ p.expectations.getLast? ≠ some .sync

instance (p : Pipeline P) : Decidable (EndsInOperation p) := inferInstanceAs (Decidable (_ ∧ _))

/-- Cleanup stopped within an exchange: its future was dropped, or one of the Syncs it had to
consume was answered with an error. -/
def Halted (start : List (Frontend × List RawMessage)) (past : List Item) (p p' : Pipeline P) :
    Prop :=
  Busy p' ∧ (p.conn.stream.cut ≠ none ∨ ∃ items t p₁ error, Follows p₁ p' ∧
    Active start past items [] t p₁ ∧ .sync (some error) ∈ items)

theorem cleanup_meets (hP : P.NoCopy) (h : Active start past items kinds t p) (hb : ¬ Busy p) :
    Act.Meets cleanup p fun _ p' => Closed p' ∨ Halted start past p p' ∨
      Drained p' ∧ (¬ EndsInOperation p → p'.conn.flags.scopePending = false) := by
  have hr := h.ready hb
  have hdrain {items₁ : List Item} {t₁ : Bool} {p₁ : Pipeline P}
      (hc : p.conn.stream.cut = none → p₁.conn.stream.cut = none)
      (ha : Active start past items₁ [] t₁ p₁) (hb₁ : ¬ Busy p₁)
      (hlast : ¬ EndsInOperation p → ∃ error, items₁.getLast? = some (.sync error)) :
      Act.Meets drain p₁ fun _ p' => Closed p' ∨ Halted start past p p' ∨
        Drained p' ∧ (¬ EndsInOperation p → p'.conn.flags.scopePending = false) := by
    have hf : Act.Meets drain p₁ fun _ p' => Follows p₁ p' := drain_follows.rel p₁
    refine ((drain_meets ha hb₁).and hf).mono fun o p' ho => .inr ?_
    rcases ho with ⟨⟨hbusy, hcut | ⟨error, he⟩⟩ | ⟨hd, hp⟩, hf⟩
    · exact .inl ⟨hbusy, .inl fun hn => hcut (hc hn)⟩
    · exact .inl ⟨hbusy, .inr ⟨_, _, p₁, error, hf, ha, he⟩⟩
    · exact .inr ⟨hd, fun he => hp (hlast he)⟩
  simp only [cleanup, Act.meets_bind, Act.meets_get, hr, Bool.not_true, Bool.false_eq_true,
    if_false]
  by_cases hempty : p.expectations = [] ∧ p.conn.flags.scopePending = false
  · rw [if_pos hempty, meets_clearWrite]
    obtain ⟨rfl, -⟩ := h.scope hempty.2
    have hd := h.drained hb
    exact .inr (.inr ⟨⟨hd.idle, hd.unbroken, hd.unread, hd.mode⟩, fun _ => hempty.2⟩)
  · rw [if_neg hempty]
    by_cases hs : p.buffers.writeBuffer ≠ [] ∨ .sync ∉ p.expectations
    · rw [if_pos hs]
      simp only [Act.meets_bind, Act.meets_attempt]
      refine (sync_meets hP h hb).mono fun o p₁ ho => ?_
      cases o with
      | ok u =>
        obtain ⟨hc, -, hb₁, hclosed | ⟨new, u, -, -, error, ha⟩⟩ := ho
        · exact .inl ((drain_follows.rel p₁).closed hclosed)
        · exact hdrain hc.nocut ha hb₁ fun _ => ⟨error, by simp⟩
      | err e => exact ho.elim
      | halt => exact .inr (.inl ⟨ho.2, .inl ho.1⟩)
    · rw [if_neg hs]
      have hw : p.buffers.writeBuffer = [] := by
        by_contra hw
        exact hs (.inl hw)
      have hmem : .sync ∈ p.expectations := by
        by_contra hm
        exact hs (.inr hm)
      have hk := h.kinds_nil hw
      subst hk
      refine hdrain id h hb fun hend => ?_
      have hlast : p.expectations.getLast? = some .sync := by
        by_contra hl
        exact hend ⟨hw, hmem, hl⟩
      rw [h.queue, List.map_nil, List.append_nil, List.getLast?_map] at hlast
      obtain ⟨item, hitem, hsync⟩ := Option.map_eq_some_iff.mp hlast
      cases item with
      | op kind fate => cases kind <;> cases hsync
      | sync error => exact ⟨error, hitem⟩

end Tokio.Pipeline

end ZeroPostgres
