import ZeroPostgres.Conn.SyncAlignment
import ZeroPostgres.Conn.Cancellation
import ZeroPostgres.Pipeline.Alignment
import ZeroPostgres.Pipeline.Tickets

/-!
# The tickets of both clients

The calls of the blocking and of the asynchronous client meet the laws of `Pipeline/Tickets.lean`.
They differ in what happens to a claim that does not come to its end: the blocking client waits in
it, and the asynchronous one leaves an exchange open behind it, so that later calls are refused.
-/

namespace ZeroPostgres

open Act

variable {P : Peer} {K : Type} {α β : Type}

/-! ### The counters -/

namespace Pipeline

/-- The counters are as they were. -/
structure SameCounts (p p' : Pipeline P K) : Prop where
  queueSeq : p'.queueSeq = p.queueSeq
  claimSeq : p'.claimSeq = p.claimSeq

theorem SameCounts.trans {p₁ p₂ p₃ : Pipeline P K} (h : SameCounts p₁ p₂) (h' : SameCounts p₂ p₃) :
    SameCounts p₁ p₃ :=
  ⟨h'.queueSeq.trans h.queueSeq, h'.claimSeq.trans h.claimSeq⟩

theorem SameCounts.refl (p : Pipeline P K) : SameCounts p p := ⟨rfl, rfl⟩

/-- No more was claimed than executed, if it was so before. -/
def Within (p p' : Pipeline P K) : Prop := p.claimSeq ≤ p.queueSeq → p'.claimSeq ≤ p'.queueSeq

theorem SameCounts.within {p p' : Pipeline P K} (h : SameCounts p p') : Within p p' := by
  intro hle
  rw [h.queueSeq, h.claimSeq]
  exact hle

/-- What reacting to an error and keeping columns leave alone. -/
class CountPreserving (K : Type) [PipelineDriver K] : Prop where
  onServerError_counts : ∀ {P : Peer} (e : Error) (p : Pipeline P K),
    SameCounts p (PipelineDriver.onServerError e p)
  saveColumns_counts : ∀ {P : Peer} (payload : Bytes) (p : Pipeline P K),
    SameCounts p (PipelineDriver.saveColumns payload p)

instance : CountPreserving TokioFlags where
  onServerError_counts e p := by
    simp only [PipelineDriver.onServerError]
    split <;> exact ⟨rfl, rfl⟩
  saveColumns_counts _ _ := ⟨rfl, rfl⟩

instance : CountPreserving SyncFlags where
  onServerError_counts _ _ := ⟨rfl, rfl⟩
  saveColumns_counts _ _ := ⟨rfl, rfl⟩

section Kept

variable [PipelineDriver K] [CountPreserving K]

instance : KeptByExchange (SameCounts (P := P) (K := K)) where
  refl _ := ⟨rfl, rfl⟩
  trans _ _ _ := SameCounts.trans
  receive _ := ⟨fun _ => ⟨rfl, rfl⟩⟩
  starve := ⟨fun _ => ⟨rfl, rfl⟩⟩
  onServerError := CountPreserving.onServerError_counts
  saveColumns := CountPreserving.saveColumns_counts
  onConn _ := ⟨fun _ => ⟨rfl, rfl⟩⟩
  expectations _ _ := ⟨rfl, rfl⟩
  aborted _ _ := ⟨rfl, rfl⟩

instance : KeptByExchange (Within (P := P) (K := K)) where
  refl _ := id
  trans _ _ _ h h' := h' ∘ h
  receive _ := ⟨fun _ => id⟩
  starve := ⟨fun _ => id⟩
  onServerError e p := (CountPreserving.onServerError_counts e p).within
  saveColumns payload p := (CountPreserving.saveColumns_counts payload p).within
  onConn _ := ⟨fun _ => id⟩
  expectations _ _ := id
  aborted _ _ := id

end Kept

/-- A call leaves the pipeline where its computation does. -/
theorem return_snd (x : Act Error (Pipeline P K) α) (f : α → β) (p : Pipeline P K) :
    ((x >>= fun a => pure (f a)) p).2 = (x p).2 := by
  rw [Act.bind_run]
  rcases x p with ⟨_ | _ | _, p'⟩ <;> rfl

theorem return_halt {x : Act Error (Pipeline P K) α} {f : α → β} {p : Pipeline P K}
    (h : (x p).1 = .halt) : ((x >>= fun a => pure (f a)) p).1 = .halt := by
  rw [Act.bind_run]
  generalize x p = r at h ⊢
  obtain ⟨o, p'⟩ := r
  cases h
  rfl

/-- `exec` issues the next number, or fails after counting. -/
theorem queueExec_counts (statement : StatementRef) (params : Params) (p : Pipeline P K) :
    let r := queueExec statement params p
    r.2.queueSeq = p.queueSeq + 1 ∧ r.2.claimSeq = p.claimSeq ∧
      r.2.conn.flags = p.conn.flags ∧ r.2.conn.broken = p.conn.broken ∧
      ((∃ t : Ticket, r.1 = .ok t ∧ t.seq = p.queueSeq) ∨ ∃ e, r.1 = .err e) := by
  intro r
  have hrun : r = _ := queueExec_run statement params p
  cases hencode : params.encode (statement.targetOids params) with
  | ok values =>
    rw [hencode] at hrun
    rw [hrun]
    refine ⟨rfl, rfl, rfl, rfl, .inl ⟨_, rfl, ?_⟩⟩
    cases statement <;> rfl
  | error e =>
    rw [hencode] at hrun
    rw [hrun]
    exact ⟨rfl, rfl, rfl, rfl, .inr ⟨e, rfl⟩⟩

theorem checkSequence_refuses {seq : Nat} {p : Pipeline P K} (h : seq ≠ p.claimSeq) :
    ∃ e, checkSequence seq p = (.err e, p) := ⟨_, if_pos h⟩

/-- The counter moves on, and what follows leaves it alone. -/
theorem moved_meets {p p₁ : Pipeline P K} (h : SameCounts p p₁) {x : Act Error (Pipeline P K) α}
    (hx : Keeps SameCounts x) (Q : Outcome Error α → Pipeline P K → Prop) :
    Act.Meets ((Act.modify fun p => { p with claimSeq := p.claimSeq + 1 }) >>= fun _ => x) p₁
      fun o p' => p'.queueSeq = p.queueSeq ∧ (p'.claimSeq = p.claimSeq + 1 ∨ Q o p') := by
  have hcounts := hx.rel { p₁ with claimSeq := p₁.claimSeq + 1 }
  exact ⟨hcounts.queueSeq.trans h.queueSeq,
    .inl (hcounts.claimSeq.trans (congrArg (· + 1) h.claimSeq))⟩

/-- A claim that is let through to `front` moves the counter as that does. -/
theorem claim_counts {pre : Act Error (Pipeline P K) Unit} {front : Act Error (Pipeline P K) α}
    {L : Outcome Error α → Pipeline P K → Prop} (hpre : Keeps SameCounts pre)
    (hfront : ∀ p, Act.Meets front p fun o p' => p'.queueSeq = p.queueSeq ∧
      (p'.claimSeq = p.claimSeq + 1 ∨ p'.claimSeq = p.claimSeq ∧ L o p')) (p : Pipeline P K) :
    let r := (pre >>= fun _ => front) p
    r.2.queueSeq = p.queueSeq ∧ ((pre p).1.isOk = false → r.2.claimSeq = p.claimSeq) ∧
      ((pre p).1.isOk = true → r.2.claimSeq = p.claimSeq + 1 ∨
        r.2.claimSeq = p.claimSeq ∧ L r.1 r.2) := by
  intro r
  have hr : r = _ := Act.bind_run p pre fun _ => front
  have hcounts := hpre.rel p
  rw [hr]
  generalize pre p = q at hcounts ⊢
  rcases q with ⟨_ | e | _, p₁⟩
  · obtain ⟨hqueue, hclaim⟩ := (hfront p₁).at
    refine ⟨hqueue.trans hcounts.queueSeq, fun h => Bool.noConfusion h, fun _ => ?_⟩
    rw [← hcounts.claimSeq]
    exact hclaim
  · exact ⟨hcounts.queueSeq, fun _ => hcounts.claimSeq, fun h => Bool.noConfusion h⟩
  · exact ⟨hcounts.queueSeq, fun _ => hcounts.claimSeq, fun h => Bool.noConfusion h⟩

/-- A claim that is refused returns the error of its check. -/
theorem claim_refused {pre : Act Error (Pipeline P K) Unit} {front : Act Error (Pipeline P K) α}
    {e : Error} {p : Pipeline P K} (h : pre p = (.err e, p)) (f : α → β) :
    ((pre >>= fun _ => front) >>= fun a => pure (f a)) p = (.err e, p) := by
  rw [Act.bind_run, Act.bind_run, h]

end Pipeline

/-! ### The blocking client -/

namespace Sync.Pipeline

open ZeroPostgres.Pipeline

/-- `claim_with_handler` up to where it reads, `src/src/sync/pipeline/mod.rs:315–320`. -/
def admission (ticket : Ticket) : Act Error (Pipeline P) Unit := do
  checkSequence ticket.seq
  let p ← Act.get
  if p.buffers.writeBuffer ≠ [] then sync

theorem claimWithHandler_split (ticket : Ticket) (handler : Handler) :
    (claimWithHandler ticket handler : Act Error (Pipeline P) _) =
      admission ticket >>= fun _ => claimFront ticket handler := by
  funext p
  simp only [claimWithHandler, admission, Act.bind_run]
  rcases checkSequence ticket.seq p with ⟨_ | _ | _, p₁⟩
  · simp only [Act.get_run]
    split
    · rfl
    · rfl
  · rfl
  · rfl

theorem admit_keeps {R : Pipeline P → Pipeline P → Prop} [KeptByExchange R] (ticket : Ticket) :
    Keeps R (admission ticket : Act Error (Pipeline P) Unit) := by
  refine (checkSequence_keeps _).bind fun _ => keeps_get.bind fun p => ?_
  split
  · exact sync_keeps
  · exact keeps_pure _

/-- Once a claim reads replies the counter moves on, unless the claim never returns. -/
theorem claimFront_counts (ticket : Ticket) (handler : Handler) (p : Pipeline P) :
    Act.Meets (claimFront ticket handler) p fun o p' => p'.queueSeq = p.queueSeq ∧
      (p'.claimSeq = p.claimSeq + 1 ∨ p'.claimSeq = p.claimSeq ∧ o = .halt) := by
  unfold claimFront
  rw [Act.meets_bind, Act.meets_get]
  dsimp only
  split
  · exact moved_meets (SameCounts.refl p) (Q := _) (popExpectation_keeps.bind fun _ =>
      consumePendingSyncs_keeps.bind fun _ => keeps_fail _)
  · have hread := (claimExpectation_keeps (R := SameCounts) p.expectations.head? ticket handler).rel
      { p with expectations := p.expectations.tail }
    have hmeets : Act.Meets (claimExpectation p.expectations.head? ticket handler)
        { p with expectations := p.expectations.tail } fun _ p' => SameCounts p p' :=
      ⟨hread.queueSeq, hread.claimSeq⟩
    rw [Act.meets_bind, meets_popExpectation]
    dsimp only
    rw [Act.meets_bind, Act.meets_attempt]
    refine hmeets.mono fun o p₁ hcounts => ?_
    have htail (result : Except Error (List Callback)) : Keeps SameCounts (do
        consumePendingSyncs
        Act.ofExcept result : Act Error (Pipeline P) _) :=
      consumePendingSyncs_keeps.bind fun _ => keeps_ofExcept _
    cases o with
    | ok calls => exact moved_meets hcounts (htail (.ok calls)) _
    | err e =>
      have hmarked : SameCounts p { p₁ with
          conn := { p₁.conn with broken := p₁.conn.broken || e.isConnectionBroken }
          aborted := true } := ⟨hcounts.queueSeq, hcounts.claimSeq⟩
      dsimp only
      rw [Act.meets_bind, Act.meets_modify]
      exact moved_meets hmarked (htail (.error e)) _
    | halt => exact ⟨hcounts.queueSeq, .inr ⟨hcounts.claimSeq, rfl⟩⟩

/-- The pipelines of the blocking client: a call that does not return goes on forever. -/
def pipelineApi (P : Peer) : PipelineApi P SyncFlags where
  new := new
  runCall c p := ((call c p).1.toExcept?, (call c p).2)
  cleanup _ p := ((cleanup p).1.toExcept?.map fun _ => (), (cleanup p).2)
  admits _ ticket p := (admission ticket p).1.isOk
  ready _ := true
  blocks := true

/-- A call that keeps the counters is quiet. -/
theorem quiet_of_keeps {x : Act Error (Pipeline P) α} (hx : Keeps SameCounts x)
    (f : α → CallResult) (p : Pipeline P) :
    Program.Quiet (pipelineApi P) (fun _ => True) p ((x >>= fun a => pure (f a)) p).2 := by
  rw [return_snd]
  exact ⟨trivial, (hx.rel p).claimSeq, Nat.le_of_eq (hx.rel p).queueSeq.symm, id⟩

theorem exec_law (statement : StatementRef) (params : Params) (p : Pipeline P) :
    let r := (pipelineApi P).runCall (.exec statement params) p
    (∃ t : Ticket, r.1 = some (.ok (.ticket t)) ∧ t.seq = p.queueSeq ∧
      r.2.queueSeq = p.queueSeq + 1 ∧ Program.Quiet (pipelineApi P) (fun _ => True) p r.2) ∨
    (∀ t, r.1 ≠ some (.ok (.ticket t))) ∧
      Program.Quiet (pipelineApi P) (fun _ => True) p r.2 := by
  intro r
  obtain ⟨hqueue, hclaim, -, -, hresult⟩ := queueExec_counts statement params p
  have hsnd : r.2 = (queueExec statement params p).2 := return_snd _ CallResult.ticket p
  have hquiet : Program.Quiet (pipelineApi P) (fun _ => True) p r.2 := by
    rw [hsnd]
    exact ⟨trivial, hclaim, by rw [hqueue]; exact Nat.le_succ _, id⟩
  have hfst : r.1 = ((queueExec statement params >>= fun t =>
    pure (CallResult.ticket t)) p).1.toExcept? := rfl
  rw [Act.bind_run] at hfst
  generalize queueExec statement params p = q at *
  obtain ⟨o, p'⟩ := q
  rcases hresult with ⟨t, rfl, hseq⟩ | ⟨e, rfl⟩
  · refine .inl ⟨t, hfst, hseq, ?_, hquiet⟩
    rw [hsnd]
    exact hqueue
  · refine .inr ⟨fun t ht => ?_, hquiet⟩
    rw [hfst] at ht
    cases ht

theorem call_claim (cut : Option Cut) (t : Ticket) (handler : Handler) :
    (call (.claim cut t handler) : Act Error (Pipeline P) _) =
      (admission t >>= fun _ => claimFront t handler) >>= fun calls => pure (.calls calls) := by
  rw [← claimWithHandler_split]
  rfl

theorem refused_law {t : Ticket} {p : Pipeline P} (h : t.seq ≠ p.claimSeq) (cut : Option Cut)
    (handler : Handler) : (pipelineApi P).admits cut t p = false ∧
      ∃ e, (pipelineApi P).runCall (.claim cut t handler) p = (some (.error e), p) := by
  obtain ⟨e, hcheck⟩ := checkSequence_refuses h
  have hpre : admission t p = (.err e, p) := by rw [admission, Act.bind_run, hcheck]
  refine ⟨?_, e, ?_⟩
  · change (admission t p).1.isOk = false
    rw [hpre]
    rfl
  · change ((call (.claim cut t handler) p).1.toExcept?, (call (.claim cut t handler) p).2) = _
    rw [call_claim, claim_refused hpre]
    rfl

theorem passed_law (t : Ticket) (cut : Option Cut) (handler : Handler) (p : Pipeline P) :
    let r := (pipelineApi P).runCall (.claim cut t handler) p
    r.2.queueSeq = p.queueSeq ∧
    ((pipelineApi P).admits cut t p = false → r.2.claimSeq = p.claimSeq) ∧
    ((pipelineApi P).admits cut t p = true → r.2.claimSeq = p.claimSeq + 1 ∨
      r.2.claimSeq = p.claimSeq ∧ r.1.isNone = true) := by
  intro r
  have hr : r = ((call (.claim cut t handler) p).1.toExcept?, (call (.claim cut t handler) p).2) :=
    rfl
  obtain ⟨hqueue, hkept, hmoved⟩ := claim_counts (admit_keeps t) (claimFront_counts t handler) p
  rw [call_claim] at hr
  rw [hr]
  dsimp only
  rw [return_snd]
  refine ⟨hqueue, hkept, fun hadmits => (hmoved hadmits).imp_right fun h => ⟨h.1, ?_⟩⟩
  rw [return_halt h.2]
  rfl

theorem ticketLaws (P : Peer) : Program.TicketLaws (pipelineApi P) fun _ => True where
  new _ := ⟨trivial, Nat.le_refl 0⟩
  exec statement params p _ := exec_law statement params p
  flush _ p _ := quiet_of_keeps flush_keeps (fun _ => .done) p
  sync _ p _ := quiet_of_keeps sync_keeps (fun _ => .done) p
  refused cut t handler p _ h := refused_law (h.resolve_right Bool.noConfusion) cut handler
  passed cut t handler p _ _ _ := by
    obtain ⟨hqueue, hkept, hmoved⟩ := passed_law t cut handler p
    exact ⟨trivial, hqueue, hkept, fun h => (hmoved h).imp_right fun h => ⟨h.1, .inr h.2⟩⟩
  cleanup _ p _ hle :=
    ⟨trivial, (cleanup_keeps (R := Within) fun _ _ => Nat.le_refl 0).rel p hle⟩

end Sync.Pipeline

/-! ### The asynchronous client -/

namespace Tokio.Pipeline

open ZeroPostgres.Pipeline

/-- `claim_with_handler` up to where it reads, `src/src/tokio/pipeline/mod.rs:382–388`. -/
def admission (ticket : Ticket) : Act Error (Pipeline P) Unit := do
  onConn Conn.ensureExchangeReady
  checkSequence ticket.seq
  let p ← Act.get
  if p.buffers.writeBuffer ≠ [] then sync

theorem claimWithHandler_split (ticket : Ticket) (handler : Handler) :
    (claimWithHandler ticket handler : Act Error (Pipeline P) _) =
      admission ticket >>= fun _ => claimFront ticket handler := by
  funext p
  simp only [claimWithHandler, admission, Act.bind_run]
  rcases onConn Conn.ensureExchangeReady p with ⟨_ | _ | _, p₁⟩
  · dsimp only
    rcases checkSequence ticket.seq p₁ with ⟨_ | _ | _, p₂⟩
    · simp only [Act.get_run]
      split
      · rfl
      · rfl
    · rfl
    · rfl
  · rfl
  · rfl

theorem admit_keeps {R : Pipeline P → Pipeline P → Prop} [KeptByExchange R] (ticket : Ticket) :
    Keeps R (admission ticket : Act Error (Pipeline P) Unit) := by
  refine ensureExchangeReady_keeps.bind fun _ => (checkSequence_keeps _).bind fun _ =>
    keeps_get.bind fun p => ?_
  split
  · exact sync_keeps
  · exact keeps_pure _

/-- The flags are as they were. -/
def SameFlags (p p' : Pipeline P) : Prop := p'.conn.flags = p.conn.flags

theorem receive_flags (m : RawMessage) (c : Conn P) : (Conn.receive m c).2.flags = c.flags := by
  rcases hcut : c.stream.cut with _ | ⟨_ | n, k⟩ <;>
    simp [Conn.receive, Act.bind_run, Conn.awaitPoint, hcut, Conn.take]

theorem starve_flags (c : Conn P) :
    (Conn.starve c : Outcome Error α × Conn P).2.flags = c.flags := by
  have hwait : (Conn.awaitPoint c).2.flags = c.flags := by
    rcases hcut : c.stream.cut with _ | ⟨_ | n, k⟩ <;> simp [Conn.awaitPoint, hcut]
  have hrun : (Conn.starve c : Outcome Error α × Conn P) = _ := Act.bind_run c Conn.awaitPoint _
  rw [hrun]
  generalize Conn.awaitPoint c = r at hwait ⊢
  rcases r with ⟨_ | _ | _, c'⟩
  · dsimp only
    split <;> exact hwait
  · exact hwait
  · exact hwait

instance : KeptByReading (SameFlags (P := P)) where
  refl _ := rfl
  trans _ _ _ h h' := h'.trans h
  receive m := ⟨fun p => receive_flags m p.conn⟩
  starve := ⟨fun p => starve_flags p.conn⟩
  onServerError e p := by
    simp only [PipelineDriver.onServerError]
    split <;> rfl
  saveColumns _ _ := rfl

/-- A claim that fails in the middle of an operation leaves the exchange open. -/
theorem claimExpectation_counts {p₀ : Pipeline P} (e : Option Expectation) (ticket : Ticket)
    (handler : Handler) (p : Pipeline P) (hcounts : SameCounts p₀ p) (hb : Busy p) :
    Act.Meets (claimExpectation e ticket handler) p fun _ p' => SameCounts p₀ p' ∧ Busy p' := by
  have hread := (claimExpectation_keeps (R := SameCounts) e ticket handler).rel p
  have hflags := (claimExpectation_keeps (R := SameFlags) e ticket handler).rel p
  refine ⟨hcounts.trans hread, ?_⟩
  rw [Busy, hflags]
  exact hb

/-- Once a claim reads replies the counter moves on, or later calls are refused. -/
theorem claimFront_counts (ticket : Ticket) (handler : Handler) (p : Pipeline P) :
    Act.Meets (claimFront ticket handler) p fun _ p' => p'.queueSeq = p.queueSeq ∧
      (p'.claimSeq = p.claimSeq + 1 ∨
        p'.claimSeq = p.claimSeq ∧ p'.conn.exchangeReady = false) := by
  cases hready : p.conn.exchangeReady with
  | false =>
    have hbegin : onConn Conn.beginExchange p = (.err .connectionBroken, p) := by
      simp only [onConn, Conn.beginExchange, Act.bind_run, Conn.ensureExchangeReady, hready,
        Bool.false_eq_true, if_false]
    have hrun : claimFront ticket handler p = (.err .connectionBroken, p) := by
      rw [claimFront, Act.bind_run, hbegin]
    rw [Act.Meets, hrun]
    exact ⟨rfl, .inr ⟨rfl, hready⟩⟩
  | true =>
    unfold claimFront
    rw [Act.meets_bind, meets_beginExchange hready]
    dsimp only
    rw [Act.meets_bind, Act.meets_get]
    dsimp only
    split
    · have hbegun : SameCounts p (begun p) := ⟨rfl, rfl⟩
      exact moved_meets hbegun (Q := _) (popExpectation_keeps.bind fun _ =>
        finishClaim_keeps.bind fun _ => keeps_fail _)
    · rw [Act.meets_bind, meets_popExpectation]
      dsimp only
      rw [Act.meets_bind, Act.meets_attempt]
      have hpopped : SameCounts p { begun p with expectations := (begun p).expectations.tail } :=
        ⟨rfl, rfl⟩
      refine (claimExpectation_counts _ ticket handler _ hpopped rfl).mono fun o p₁ hpost => ?_
      obtain ⟨hcounts, hb⟩ := hpost
      have htail (result : Except Error (List Callback)) : Keeps SameCounts (do
          finishClaim
          Act.ofExcept result : Act Error (Pipeline P) _) :=
        finishClaim_keeps.bind fun _ => keeps_ofExcept _
      cases o with
      | ok calls => exact moved_meets hcounts (htail (.ok calls)) _
      | err e =>
        dsimp only
        rw [Act.meets_bind, Act.meets_get]
        dsimp only
        split
        · exact ⟨hcounts.queueSeq, .inr ⟨hcounts.claimSeq, hb.not_ready⟩⟩
        · exact moved_meets hcounts (htail (.error e)) _
      | halt => exact ⟨hcounts.queueSeq, .inr ⟨hcounts.claimSeq, hb.not_ready⟩⟩

/-- The pipelines of the asynchronous client: the program may drop the future of a call and call
again. -/
def pipelineApi (P : Peer) : PipelineApi P TokioFlags where
  new c := setCut none (new c)
  runCall := runCall
  cleanup cut p := ((dropping cut cleanup p).1.map fun _ => (), (dropping cut cleanup p).2)
  admits cut ticket p := (admission ticket (setCut cut p)).1.isOk
  ready p := p.conn.exchangeReady
  blocks := false

/-- No future is dropped between calls. -/
def Unhurried (p : Pipeline P) : Prop := p.conn.stream.cut = none

theorem setCut_restore {p : Pipeline P} (h : Unhurried p) (cut : Option Cut) :
    setCut none (setCut cut p) = p := by
  have h : p.conn.stream.cut = none := h
  unfold setCut
  dsimp only
  rw [← h]

/-- On a connection that is not ready a call changes nothing. -/
theorem runCall_not_ready {p : Pipeline P} (h : Unhurried p) (hready : p.conn.exchangeReady = false)
    (c : PipelineCall) : runCall c p = (some (.error .connectionBroken), p) := by
  have hcall : call c (setCut c.cut p) = (.err .connectionBroken, setCut c.cut p) :=
    call_not_ready (p := setCut c.cut p) hready c
  rw [runCall, dropping, hcall]
  dsimp only
  rw [setCut_restore h]
  rfl

theorem runCall_ready {p : Pipeline P} (h : Unhurried p) (c : PipelineCall)
    (hready : p.conn.exchangeReady = false) : (runCall c p).2.conn.exchangeReady = false := by
  rw [runCall_not_ready h hready]
  exact hready

/-- A call that keeps the counters is quiet. -/
theorem quiet_of_keeps {p : Pipeline P} {c : PipelineCall} (h : Unhurried p)
    (hcall : Keeps SameCounts (call c : Act Error (Pipeline P) _)) :
    Program.Quiet (pipelineApi P) Unhurried p (runCall c p).2 := by
  have hcounts := hcall.rel (setCut c.cut p)
  exact ⟨rfl, hcounts.claimSeq, Nat.le_of_eq hcounts.queueSeq.symm, runCall_ready h c⟩

theorem exec_law {p : Pipeline P} (h : Unhurried p) (statement : StatementRef) (params : Params) :
    let r := (pipelineApi P).runCall (.exec statement params) p
    (∃ t : Ticket, r.1 = some (.ok (.ticket t)) ∧ t.seq = p.queueSeq ∧
      r.2.queueSeq = p.queueSeq + 1 ∧ Program.Quiet (pipelineApi P) Unhurried p r.2) ∨
    (∀ t, r.1 ≠ some (.ok (.ticket t))) ∧
      Program.Quiet (pipelineApi P) Unhurried p r.2 := by
  intro r
  have hready := runCall_ready h (.exec statement params)
  cases hr : p.conn.exchangeReady with
  | false =>
    have hrun : r = _ := runCall_not_ready h hr (.exec statement params)
    rw [hrun]
    refine .inr ⟨fun t ht => ?_, h, rfl, Nat.le_refl _, id⟩
    cases ht
  | true =>
    obtain ⟨hqueue, hclaim, -, -, hresult⟩ := queueExec_counts statement params (setCut none p)
    have hens : onConn Conn.ensureExchangeReady (setCut none p) = (.ok (), setCut none p) := by
      have hr : (setCut none p).conn.exchangeReady = true := hr
      simp only [onConn, Conn.ensureExchangeReady, hr, if_true]
    have hcall : call (.exec statement params) (setCut none p) =
        ((queueExec statement params : Act Error (Pipeline P) _) >>= fun t =>
          pure (CallResult.ticket t)) (setCut none p) := by
      simp only [call, exec, Act.bind_run, hens]
    have hfst : r.1 = (call (.exec statement params) (setCut none p)).1.toExcept? := rfl
    have hsnd : r.2 = setCut none (queueExec statement params (setCut none p)).2 := by
      rw [← return_snd _ CallResult.ticket, ← hcall]
      rfl
    have hquiet : Program.Quiet (pipelineApi P) Unhurried p r.2 := by
      refine ⟨rfl, ?_, ?_, hready⟩
      · rw [hsnd]
        exact hclaim
      · rw [hsnd]
        exact Nat.le_trans (Nat.le_succ _) (Nat.le_of_eq hqueue.symm)
    rw [hcall, Act.bind_run] at hfst
    generalize queueExec statement params (setCut none p) = q at *
    obtain ⟨o, p'⟩ := q
    rcases hresult with ⟨t, rfl, hseq⟩ | ⟨e, rfl⟩
    · refine .inl ⟨t, hfst, hseq, ?_, hquiet⟩
      rw [hsnd]
      exact hqueue
    · refine .inr ⟨fun t ht => ?_, hquiet⟩
      rw [hfst] at ht
      cases ht

theorem call_claim (cut : Option Cut) (t : Ticket) (handler : Handler) :
    (call (.claim cut t handler) : Act Error (Pipeline P) _) =
      (admission t >>= fun _ => claimFront t handler) >>= fun calls => pure (.calls calls) := by
  rw [← claimWithHandler_split]
  rfl

/-- The check in front of a claim refuses a ticket whose number is not the expected one. -/
theorem admit_refuses {t : Ticket} {p : Pipeline P}
    (h : t.seq ≠ p.claimSeq ∨ p.conn.exchangeReady = false) : ∃ e, admission t p = (.err e, p) := by
  cases hready : p.conn.exchangeReady with
  | false =>
    refine ⟨.connectionBroken, ?_⟩
    have hens : onConn Conn.ensureExchangeReady p = (.err .connectionBroken, p) := by
      simp [onConn, Conn.ensureExchangeReady, hready]
    rw [admission, Act.bind_run, hens]
  | true =>
    have hseq : t.seq ≠ p.claimSeq := h.resolve_right (by simp [hready])
    obtain ⟨e, hcheck⟩ := checkSequence_refuses hseq
    have hens : onConn Conn.ensureExchangeReady p = (.ok (), p) := by
      simp only [onConn, Conn.ensureExchangeReady, hready, if_true]
    refine ⟨e, ?_⟩
    rw [admission, Act.bind_run, hens]
    dsimp only
    rw [Act.bind_run, hcheck]

theorem refused_law {t : Ticket} {p : Pipeline P} (h : Unhurried p)
    (hrefused : t.seq ≠ p.claimSeq ∨ p.conn.exchangeReady = false) (cut : Option Cut)
    (handler : Handler) : (pipelineApi P).admits cut t p = false ∧
      ∃ e, (pipelineApi P).runCall (.claim cut t handler) p = (some (.error e), p) := by
  obtain ⟨e, hpre⟩ := admit_refuses (p := setCut cut p) hrefused
  refine ⟨?_, e, ?_⟩
  · change (admission t (setCut cut p)).1.isOk = false
    rw [hpre]
    rfl
  · change dropping cut (call (.claim cut t handler)) p = _
    rw [dropping, call_claim, claim_refused hpre]
    dsimp only
    rw [setCut_restore h]
    rfl

theorem passed_law (t : Ticket) (cut : Option Cut) (handler : Handler) (p : Pipeline P) :
    let r := (pipelineApi P).runCall (.claim cut t handler) p
    r.2.queueSeq = p.queueSeq ∧
    ((pipelineApi P).admits cut t p = false → r.2.claimSeq = p.claimSeq) ∧
    ((pipelineApi P).admits cut t p = true → r.2.claimSeq = p.claimSeq + 1 ∨
      r.2.claimSeq = p.claimSeq ∧ r.2.conn.exchangeReady = false) := by
  intro r
  have hr : r.2 = setCut none (call (.claim cut t handler) (setCut cut p)).2 := rfl
  obtain ⟨hqueue, hkept, hmoved⟩ := claim_counts (L := fun _ p' => p'.conn.exchangeReady = false)
    (admit_keeps t) (claimFront_counts t handler) (setCut cut p)
  rw [call_claim, return_snd] at hr
  rw [hr]
  exact ⟨hqueue, hkept, hmoved⟩

theorem ticketLaws (P : Peer) : Program.TicketLaws (pipelineApi P) Unhurried where
  new _ := ⟨rfl, Nat.le_refl 0⟩
  exec statement params _ h := exec_law h statement params
  flush _ _ h := quiet_of_keeps h (flush_keeps.bind fun _ => keeps_pure _)
  sync _ _ h := quiet_of_keeps h (sync_keeps.bind fun _ => keeps_pure _)
  refused cut t handler _ h hrefused := refused_law h hrefused cut handler
  passed cut t handler p _ _ _ := by
    obtain ⟨hqueue, hkept, hmoved⟩ := passed_law t cut handler p
    exact ⟨rfl, hqueue, hkept, fun h => (hmoved h).imp_right fun h => ⟨h.1, .inl h.2⟩⟩
  cleanup cut p _ hle :=
    ⟨rfl, (cleanup_keeps (R := Within) fun _ _ => Nat.le_refl 0).rel (setCut cut p) hle⟩

end Tokio.Pipeline

/-! ### Runs of both clients -/

namespace Program

/-- As long as no pipeline is presented a foreign ticket with the number it expects, a claim reads
replies only for the next ticket of its own pipeline, any other claim is rejected and changes
nothing, and no count of pending tickets underflows. -/
theorem tickets_identified (P : Peer) :
    (∀ steps s, Always (step (Sync.Pipeline.pipelineApi P)) (Genuine (Sync.Pipeline.pipelineApi P))
        empty steps → runSteps (step (Sync.Pipeline.pipelineApi P)) empty steps = some s →
      (∀ d ∈ s.pipelines, d.pipeline.pendingCount ≠ none) ∧
        Always (step (Sync.Pipeline.pipelineApi P)) (ClaimChecked (Sync.Pipeline.pipelineApi P))
          empty steps) ∧
    (∀ steps s, Always (step (Tokio.Pipeline.pipelineApi P))
        (Genuine (Tokio.Pipeline.pipelineApi P)) empty steps →
      runSteps (step (Tokio.Pipeline.pipelineApi P)) empty steps = some s →
      (∀ d ∈ s.pipelines, d.pipeline.pendingCount ≠ none) ∧
        Always (step (Tokio.Pipeline.pipelineApi P)) (ClaimChecked (Tokio.Pipeline.pipelineApi P))
          empty steps) :=
  ⟨fun _ _ => identified (Sync.Pipeline.ticketLaws P),
    fun _ _ => identified (Tokio.Pipeline.ticketLaws P)⟩

/-- Two pipelines on the connections `c` and `c'`. The first one's tickets are claimed, one of them
twice, and the second one is presented a ticket of the first. -/
def twoPipelines (c c' : Conn P K) : List (ProgramStep P K) :=
  [.new c, .exec 0 (.sql "FAIL") .none, .exec 0 (.sql "NEXT") .none, .sync 0 none,
    .claim 0 none 0 DropHandler, .claim 0 none 0 DropHandler, .new c', .exec 1 (.sql "LAST") .none,
    .claim 1 none 1 DropHandler, .claim 1 none 2 DropHandler, .claim 0 none 1 DropHandler]

theorem tickets_identified_twoPipelines :
    (∀ s, runSteps (step (Sync.Pipeline.pipelineApi SyncedRequest.rejectingFail)) empty
        (twoPipelines Sync.Operation.connected Sync.Operation.connected) = some s →
      ∀ d ∈ s.pipelines, d.pipeline.pendingCount ≠ none) ∧
    (∀ s, runSteps (step (Tokio.Pipeline.pipelineApi SyncedRequest.rejectingFail)) empty
        (twoPipelines Tokio.connected Tokio.connected) = some s →
      ∀ d ∈ s.pipelines, d.pipeline.pendingCount ≠ none) :=
  ⟨fun s hs => ((tickets_identified SyncedRequest.rejectingFail).1 _ s (by decide +kernel) hs).1,
    fun s hs => ((tickets_identified SyncedRequest.rejectingFail).2 _ s (by decide +kernel) hs).1⟩

/-- A ticket of one pipeline that is presented to a new one. -/
def foreignTicket (c c' : Conn P K) : List (ProgramStep P K) :=
  [.new c, .exec 0 (.sql "FIRST") .none, .new c']

/-- The new pipeline has issued no ticket, and lets the foreign one through; in the blocking client
its count of pending tickets then underflows. -/
theorem foreign_ticket_admitted :
    (∃ s d t s', runSteps (step (Sync.Pipeline.pipelineApi SyncedRequest.rejectingFail)) empty
        (foreignTicket Sync.Operation.connected Sync.Operation.connected) = some s ∧
      s.pipelines[1]? = some d ∧ d.issued = [] ∧ s.tickets[0]? = some t ∧
      (Sync.Pipeline.pipelineApi _).admits none t d.pipeline = true ∧
      step (Sync.Pipeline.pipelineApi _) s (.claim 1 none 0 DropHandler) = some s' ∧
      ∃ d' ∈ s'.pipelines, d'.pipeline.pendingCount = none) ∧
    (∃ s d t, runSteps (step (Tokio.Pipeline.pipelineApi SyncedRequest.rejectingFail)) empty
        (foreignTicket Tokio.connected Tokio.connected) = some s ∧
      s.pipelines[1]? = some d ∧ d.issued = [] ∧ s.tickets[0]? = some t ∧
      (Tokio.Pipeline.pipelineApi _).admits none t d.pipeline = true) := by
  refine ⟨⟨_, _, _, _, rfl, rfl, rfl, rfl, rfl, rfl, _, List.mem_cons_of_mem _ List.mem_cons_self,
    rfl⟩, _, _, _, rfl, rfl, rfl, rfl, rfl⟩

end Program

end ZeroPostgres
