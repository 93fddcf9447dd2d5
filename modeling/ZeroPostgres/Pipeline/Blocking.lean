import ZeroPostgres.Pipeline.Accounts
import ZeroPostgres.Pipeline.Silent

/-!
# Calls on a blocking pipeline

What each call of `src/src/sync/pipeline/mod.rs` does to the ledger: the calls meet the laws of
`Pipeline/Accounts.lean` (`accounts`).
-/

namespace ZeroPostgres

instance : Pipeline.LawfulPipelineDriver SyncFlags where
  saveColumns_reads _ p := by constructor <;> simp [PipelineDriver.saveColumns, Pipeline.buffers]
  saveColumns_inbound _ _ := rfl

namespace Sync.Pipeline

open Act ZeroPostgres.Pipeline

variable {P : Peer} {start : List (Frontend × List RawMessage)} {past items : List Item}
variable {kinds : List OpKind} {t : Bool} {p p' : Pipeline P}

/-- One call of a program and what comes of it, if it returns. -/
def runCall : Runner P SyncFlags := fun c p => ((call c p).1.toExcept?, (call c p).2)

/-- The account of a pipeline between two calls. -/
def Between (start : List (Frontend × List RawMessage)) : Account P SyncFlags :=
  fun past items kinds t p => Ledger start past items kinds t p ∧ p.conn.stream.cut = none

/-! ### Flush and Sync -/

/-- What is queued was sent, with `tail` queued behind it, or the peer has closed the session. -/
structure SendPost (start : List (Frontend × List RawMessage)) (past : List Item)
    (tail : List Expectation) (p p' : Pipeline P) : Prop where
  queueSeq : p'.queueSeq = p.queueSeq
  claimSeq : p'.claimSeq = p.claimSeq
  sent : Closed p' ∨ ¬ Malformed p.buffers.writeBuffer ∧
    p'.expectations = p.expectations ++ tail ∧ ∃ items t, Between start past items [] t p'

theorem SendPost.posted {tail : List Expectation} (h : SendPost start past tail p p')
    (ht : opCount tail = 0) : Posted (Between start) past p p' := by
  refine h.sent.imp_right ?_
  rintro ⟨hm, hq, hb⟩
  refine ⟨hm, h.queueSeq, h.claimSeq, ?_, hb⟩
  rw [opCount] at ht
  rw [hq, opCount, List.countP_append, ht]
  rfl

/-- What is queued and `f` behind it went out, and `tail` was queued. -/
structure Dispatched (f : Frontend) (tail : List Expectation) (p p' : Pipeline P) : Prop
    extends Sent f p p' where
  queue : p'.expectations = p.expectations ++ tail
  queueSeq : p'.queueSeq = p.queueSeq
  claimSeq : p'.claimSeq = p.claimSeq
  cut : p'.conn.stream.cut = none

theorem flush_dispatches (hcut : p.conn.stream.cut = none) (hw : p.buffers.writeBuffer ≠ []) :
    Act.Meets flush p fun o p' => o = .ok () ∧ Dispatched .flush [] p p' := by
  simp only [flush, Act.meets_bind, Act.meets_get, hw, if_false, meets_appendWrite,
    meets_clearWrite]
  refine (send_meets _).mono fun o p₁ ho => ?_
  cases o with
  | ok u =>
    obtain ⟨cut, hnone, rfl⟩ := ho
    exact ⟨trivial, .of_stream rfl rfl rfl, (List.append_nil _).symm, rfl, rfl, hnone hcut⟩
  | err e => exact ho.elim
  | halt => exact absurd hcut ho.1

theorem sync_dispatches (hcut : p.conn.stream.cut = none) :
    Act.Meets sync p fun o p' => o = .ok () ∧ Dispatched .sync [.sync] p p' := by
  have hinner : Act.Meets syncInner p fun o p' => o = .ok () ∧
      Dispatched .sync [.sync] p p' := by
    simp only [syncInner, Act.meets_bind, meets_appendWrite, meets_pushExpectation,
      meets_clearWrite]
    refine (send_meets _).mono fun o p₁ ho => ?_
    cases o with
    | ok u =>
      obtain ⟨cut, hnone, rfl⟩ := ho
      exact ⟨trivial, .of_stream rfl rfl rfl, rfl, rfl, rfl, hnone hcut⟩
    | err e => exact ho.elim
    | halt => exact absurd hcut ho.1
  unfold Act.Meets at hinner ⊢
  unfold sync marking
  generalize syncInner p = r at hinner ⊢
  obtain ⟨o, p₁⟩ := r
  obtain ⟨rfl, hp₁⟩ := hinner
  exact ⟨rfl, hp₁⟩

theorem flush_meets (hP : P.NoCopy) (h : Between start past items kinds t p) :
    Act.Meets flush p fun o p' => o = .ok () ∧ SendPost start past [] p p' := by
  obtain ⟨h, hcut⟩ := h
  by_cases hw : p.buffers.writeBuffer = []
  · have hk := h.kinds_nil hw
    subst hk
    simp only [flush, Act.meets_bind, Act.meets_get, hw, if_true]
    refine ⟨rfl, rfl, rfl, .inr ⟨?_, by simp, items, t, h, hcut⟩⟩
    rw [hw]
    exact QueueFrames.nil.not_malformed
  · refine (flush_dispatches hcut hw).mono fun o p₁ ho => ?_
    obtain ⟨rfl, hd⟩ := ho
    have hq : p₁.expectations = p.expectations := by simpa using hd.queue
    refine ⟨rfl, hd.queueSeq, hd.claimSeq, Or.imp_right ?_ (h.sent_flush hP hd.toSent hq)⟩
    rintro ⟨new, u, hq, hnew, hl⟩
    exact ⟨hq.not_malformed, hd.queue, _, _, hl, hd.cut⟩

theorem sync_meets (hP : P.NoCopy) (h : Between start past items kinds t p) :
    Act.Meets sync p fun o p' => o = .ok () ∧ SendPost start past [.sync] p p' := by
  obtain ⟨h, hcut⟩ := h
  refine (sync_dispatches hcut).mono fun o p₁ ho => ?_
  obtain ⟨rfl, hd⟩ := ho
  refine ⟨rfl, hd.queueSeq, hd.claimSeq, Or.imp_right ?_ (h.sent_sync hP hd.toSent hd.queue)⟩
  rintro ⟨new, error, hq, hnew, hl⟩
  exact ⟨hq.not_malformed, hd.queue, _, _, hl, hd.cut⟩

/-! ### Claims -/

/-- While a claim consumes the Syncs behind its operation. -/
structure Settling (start : List (Frontend × List RawMessage)) (t : Bool) (p : Pipeline P)
    (past items : List Item) (p' : Pipeline P) : Prop where
  between : Between start past items [] t p'
  queueSeq : p'.queueSeq = p.queueSeq
  claimSeq : p'.claimSeq = p.claimSeq + 1

/-- A Sync popped from the front of the queue: its ReadyForQuery is consumed, unless it was
answered with an error. -/
theorem consumeSync_meets {error : Option ServerError} {p₁ : Pipeline P}
    (h : Settling start t p past (.sync error :: items) p₁) :
    Act.Meets (do
      Act.modify fun p => { p with expectations := p.expectations.tail }
      consumeReadyForQuery
      setAborted false) p₁ fun o p' =>
        match o with
        | .ok _ => error = none ∧ Settling start t p (past ++ [.sync error]) items p'
        | .err _ => error ≠ none
        | .halt => False := by
  obtain ⟨⟨hl, hcut⟩, hqueueSeq, hclaimSeq⟩ := h
  simp only [Act.meets_bind, Act.meets_modify, meets_setAborted]
  rcases hl.owes.sync_inv with ⟨status, z, ms, rfl, hm, hz, hrest⟩ | ⟨e, m, ms, rfl, hm, he, -⟩
  · obtain ⟨p₂, hrun, hr, hun⟩ := consumeReadyForQuery_reaches
      (p := { p₁ with expectations := p₁.expectations.tail }) ⟨hz.1, hz.wellFormed⟩ hm hcut
    rw [Act.Meets, hrun]
    refine ⟨rfl, ⟨?_, hr.nocut hcut⟩, hr.queueSeq.trans hqueueSeq, hr.claimSeq.trans hclaimSeq⟩
    refine hl.pop hr.expectations ?_ hr.peer hr.log hr.writeBuffer
    rw [show Pipeline.unread { p₂ with aborted := false } = ms from hun]
    exact hrest
  · obtain ⟨p₂, hrun, -, -⟩ := consumeReadyForQuery_fails
      (p := { p₁ with expectations := p₁.expectations.tail }) he hm hcut
    rw [Act.Meets, hrun]
    exact Option.some_ne_none e

/-- The Syncs behind an operation are consumed, unless one was answered with an error. -/
theorem consumePendingSyncs_meets {p₁ : Pipeline P} (h : Settling start t p past items p₁) :
    Act.Meets consumePendingSyncs p₁ fun o p' =>
      match o with
      | .ok _ => ∃ m items', items = List.replicate m (.sync none) ++ items' ∧
          Settling start t p (past ++ List.replicate m (.sync none)) items' p'
      | .err _ => ∃ error, .sync (some error) ∈ items
      | .halt => False := by
  have hone (past error items p₁) (h : Settling start t p past (.sync error :: items) p₁) :
      Act.Meets (do
        Act.modify fun p => { p with expectations := p.expectations.tail }
        consumeReadyForQuery
        setAborted false) p₁ fun o p' =>
          match o with
          | .ok _ => error = none ∧ Settling start t p (past ++ [.sync error]) items p'
          | .err _ => error ≠ none ∧ True
          | .halt => False := by
    refine (consumeSync_meets h).mono fun o p₂ ho => ?_
    cases o with
    | ok u => exact ho
    | err e => exact ⟨ho, trivial⟩
    | halt => exact ho
  have hloop := consumeSyncs_meets (E := fun _ _ => True) [] (fun _ _ _ h => h.between.1.queue)
    hone items past p₁ h
  refine .of_run_eq (y := consumeSyncs consumeReadyForQuery p₁.expectations) rfl
    (hloop.mono fun o p₂ ho => ?_)
  cases o with
  | ok u =>
    obtain ⟨m, items', hitems, -, hs⟩ := ho
    exact ⟨m, items', hitems, hs⟩
  | err e => exact ho.1
  | halt => exact ho

/-- What comes of the claim of the operation at the front. -/
def ClaimPost (start : List (Frontend × List RawMessage)) (past : List Item) (kind : OpKind)
    (fate : Fate) (rest : List Item) (t : Bool) (ticket : Ticket) (handler : Handler)
    (p : Pipeline P) (o : Outcome Error (List Callback)) (p' : Pipeline P) : Prop :=
  (∃ m items', rest = List.replicate m (.sync none) ++ items' ∧
    Settling start t p (past ++ .op kind fate :: List.replicate m (.sync none)) items' p' ∧
    Pipeline.Reported (claimResult kind ticket fate) o) ∨
  (∃ error, .sync (some error) ∈ rest) ∨ ¬ Pipeline.Delivers kind ticket handler fate

/-- The end of a claim that has consumed the operation at the front. -/
private theorem settle_meets {kind : OpKind} {fate : Fate} {p₁ : Pipeline P} (ticket : Ticket)
    (handler : Handler) (result : Except Error (List Callback))
    (h : Settling start t p (past ++ [.op kind fate]) items p₁)
    (hres : claimResult kind ticket fate = some result) :
    Act.Meets (consumePendingSyncs >>= fun _ => Act.ofExcept result) p₁
      (ClaimPost start past kind fate items t ticket handler p) := by
  rw [Act.meets_bind]
  refine (consumePendingSyncs_meets h).mono fun o p₂ ho => ?_
  cases o with
  | ok u =>
    obtain ⟨m, items', hitems, hs⟩ := ho
    rw [List.append_assoc, List.singleton_append] at hs
    cases result with
    | ok cs => exact .inl ⟨m, items', hitems, hs, hres⟩
    | error e => exact .inl ⟨m, items', hitems, hs, hres⟩
  | err e => exact .inr (.inl ho)
  | halt => exact ho.elim

private theorem undelivered_meets {kind : OpKind} {fate : Fate} {ticket : Ticket}
    {handler : Handler} (h : ¬ Pipeline.Delivers kind ticket handler fate)
    (x : Act Error (Pipeline P) (List Callback)) (p₁ : Pipeline P) :
    Act.Meets x p₁ (ClaimPost start past kind fate items t ticket handler p) := Or.inr (Or.inr h)

/-- The operation at the front was read to the end of its reply. -/
private theorem settling_of_reads {kind : OpKind} {fate : Fate} {a aborted broken : Bool}
    {p₁ : Pipeline P} (h : Between start past (.op kind fate :: items) [] t p)
    (hr : Reads { p with aborted := a, expectations := p.expectations.tail } p₁)
    (howes : Owes aborted items p₁.unread t) :
    Settling start t p (past ++ [.op kind fate]) items
      { p₁ with conn := { p₁.conn with broken }, aborted, claimSeq := p₁.claimSeq + 1 } where
  between := ⟨h.1.pop hr.expectations howes hr.peer hr.log hr.writeBuffer, hr.nocut h.2⟩
  queueSeq := hr.queueSeq
  claimSeq := congrArg (· + 1) hr.claimSeq

/-- The claim of an operation at the front of the queue. -/
theorem claimFront_meets {kind : OpKind} {fate : Fate} (ticket : Ticket) (handler : Handler)
    (h : Between start past (.op kind fate :: items) [] t p) :
    Act.Meets (claimFront ticket handler) p
      (ClaimPost start past kind fate items t ticket handler p) := by
  have hq : p.expectations.head? = some kind.expectation := by
    rw [h.1.queue]
    rfl
  simp only [claimFront, Act.meets_bind, Act.meets_get]
  rcases h.1.owes.op_inv with ⟨ha, rfl, hrest⟩ |
    ⟨ha, c, rows, ending, r, rest, rfl, hun, hread, hrest⟩
  · simp only [ha, if_true, Act.meets_bind, Act.meets_modify, meets_popExpectation]
    exact Act.meets_bind.mp (settle_meets ticket handler (.error pipelineAborted)
      (settling_of_reads (a := true) h (Reads.refl _) hrest) rfl)
  · simp only [ha, Bool.false_eq_true, if_false, Act.meets_bind, meets_popExpectation,
      Act.meets_attempt]
    rw [hq]
    have hpopped : Pipeline.unread
        { p with aborted := false, expectations := p.expectations.tail } = r ++ rest := hun
    refine (claimExpectation_meets hread ticket _ hpopped).mono fun o p₁ ho => ?_
    cases o with
    | ok calls =>
      obtain ⟨hend, ⟨cs, hcs, -, rfl⟩, hr, hun⟩ := ho
      have hf : ending.failed = false := by
        cases ending with
        | error e => exact absurd rfl (hend e)
        | _ => rfl
      have ha₁ : p₁.aborted = false := hr.aborted
      have hrest : Owes false items p₁.unread t := by
        rw [hun, ← hf]
        exact hrest
      have hrest : Owes p₁.aborted items p₁.unread t := by
        rw [ha₁]
        exact hrest
      simp only [Act.meets_modify]
      exact Act.meets_bind.mp (settle_meets ticket handler _ (settling_of_reads h hr hrest)
        (reported_of_calls hend hcs))
    | err e =>
      simp only [Act.meets_modify]
      rcases ho with ⟨se, rfl, rfl, -, p₂, hr, hun, hp₂⟩ | ⟨-, hd⟩
      · obtain rfl : p₁ = p₂ := hp₂
        have hrest : Owes true items p₁.unread t := by
          rw [hun]
          exact hrest
        exact Act.meets_bind.mp (settle_meets ticket handler _ (settling_of_reads h hr hrest) rfl)
      · have hd : ¬ Pipeline.Delivers kind ticket handler (.ran c rows ending) := hd
        exact Act.meets_bind.mp (undelivered_meets hd _ _)
    | halt =>
      rcases ho.2 with hcut | hd
      · exact absurd h.2 hcut
      · exact .inr (.inr hd)

theorem claimFront_follows (ticket : Ticket) (handler : Handler) :
    Keeps Follows (claimFront ticket handler : Act Error (Pipeline P) (List Callback)) :=
  claimFront_keeps ticket handler

/-- A claim that passes its check. -/
theorem claimWithHandler_run {ticket : Ticket} {handler : Handler}
    (hseq : ticket.seq = p.claimSeq) : claimWithHandler ticket handler p =
      (if p.buffers.writeBuffer ≠ [] then sync >>= fun _ => claimFront ticket handler
        else claimFront ticket handler) p := by
  have hcheck : checkSequence ticket.seq p = (.ok (), p) := by simp [checkSequence, hseq]
  simp only [claimWithHandler, Act.bind_run, hcheck, Act.get_run]

/-- A claim that passes its check sends what is queued and goes on from there. -/
theorem claimWithHandler_eq (hP : P.NoCopy) (ticket : Ticket) (handler : Handler)
    (h : Between start past items kinds t p) (hseq : ticket.seq = p.claimSeq) :
    ∃ p₁, claimWithHandler ticket handler p = claimFront ticket handler p₁ ∧
      p₁.queueSeq = p.queueSeq ∧ p₁.claimSeq = p.claimSeq ∧
      (Closed p₁ ∨ ¬ Malformed p.buffers.writeBuffer ∧
        (p₁.expectations = p.expectations ∨ p₁.expectations = p.expectations ++ [.sync]) ∧
        ∃ items₁ t₁, Between start past items₁ [] t₁ p₁) := by
  rw [claimWithHandler_run hseq]
  by_cases hw : p.buffers.writeBuffer = []
  · have hk := h.1.kinds_nil hw
    subst hk
    refine ⟨p, by simp [hw], rfl, rfl, .inr ⟨?_, .inl rfl, items, t, h⟩⟩
    rw [hw]
    exact QueueFrames.nil.not_malformed
  · have hs := sync_meets hP h
    simp only [ne_eq, hw, not_false_eq_true, if_true, Act.bind_run]
    unfold Act.Meets at hs
    generalize sync p = r at hs ⊢
    obtain ⟨o, p₁⟩ := r
    obtain ⟨rfl, hs⟩ := hs
    refine ⟨p₁, rfl, hs.queueSeq, hs.claimSeq, hs.sent.imp_right ?_⟩
    rintro ⟨hm, hq, hb⟩
    exact ⟨hm, .inr hq, hb⟩

/-- The claim of the operation at the front. -/
private theorem claim_settles (hP : P.NoCopy) {ticket : Ticket} (handler : Handler)
    (h : Between start past items kinds t p) (hseq : ticket.seq = p.claimSeq)
    (hne : p.expectations ≠ []) (hfront : p.expectations.head? ≠ some .sync) :
    let r := claimWithHandler ticket handler p
    Closed r.2 ∨ Disturbed (Between start) past ticket handler r.2 ∨
      Consumed (Between start) past ticket p r.2 (r.1.toExcept?.map fun r => r.map .calls) := by
  intro r
  obtain ⟨p₁, hrun, hqueueSeq, hclaimSeq, hclosed | ⟨-, hq, items₁, t₁, h₁⟩⟩ :=
    claimWithHandler_eq hP ticket handler h hseq
  · have hr : r = claimFront ticket handler p₁ := hrun
    rw [hr]
    exact .inl (((claimFront_follows ticket handler).rel p₁).closed hclosed)
  · right
    have hr : r = claimFront ticket handler p₁ := hrun
    rw [hr]
    have hqueue : p₁.expectations = items₁.map Item.expectation := by simpa using h₁.1.queue
    obtain ⟨kind, fate, rest, rfl, hcount⟩ := front_of_synced hq hqueue hne hfront
    have hfollows := (claimFront_follows ticket handler).rel p₁
    rcases (claimFront_meets ticket handler h₁).at with ⟨m, items', rfl, hs, hrep⟩ | hd
    · exact .inr (consumed_of_reported hs.between (hs.queueSeq.trans hqueueSeq)
        (by rw [hs.claimSeq, hclaimSeq]) (by simpa using hs.between.1.queue) hcount hrep)
    · exact .inl ⟨kind, fate, rest, t₁, p₁, h₁, hfollows, hd⟩

/-- What a call does is what its computation does. -/
theorem runCall_snd {α : Type} {x : Act Error (Pipeline P) α} {f : α → CallResult}
    {c : PipelineCall} (hcall : call c = x >>= fun a => pure (f a)) :
    (runCall c p).2 = (x p).2 := by
  simp only [runCall, hcall, Act.bind_run]
  rcases x p with ⟨_ | _ | _, p'⟩ <;> rfl

theorem runClaim_eq {cut : Option Cut} {ticket : Ticket} {handler : Handler} :
    runCall (.claim cut ticket handler) p =
      ((claimWithHandler ticket handler p).1.toExcept?.map fun r => r.map .calls,
        (claimWithHandler ticket handler p).2) := by
  simp only [runCall, call, Act.bind_run]
  rcases claimWithHandler ticket handler p with ⟨_ | _ | _, p'⟩ <;> rfl

/-- The calls of a blocking client meet the laws. -/
theorem accounts (hP : P.NoCopy) (start : List (Frontend × List RawMessage)) :
    Accounts (runCall (P := P)) start (Between start) where
  ledger h := h.1
  follows c p := (call_keeps (R := Follows) c).rel p
  exec statement params h := by
    obtain ⟨h, hcut⟩ := h
    have hmeets := queueExec_meets h statement params
    rw [runCall_snd (x := queueExec statement params) (f := .ticket) rfl]
    unfold Act.Meets at hmeets
    generalize queueExec statement params _ = r at hmeets ⊢
    obtain ⟨o, p'⟩ := r
    obtain ⟨hq, ho⟩ := hmeets
    have hcut' : p'.conn.stream.cut = none := by
      rw [hq.stream]
      exact hcut
    refine ⟨hq.queueSeq, hq.claimSeq, hq.malformed, ?_⟩
    cases o with
    | ok ticket => exact .inl ⟨ho.2, hcut'⟩
    | err e => exact .inr ⟨ho.1, ho.2, hcut'⟩
    | halt => exact ho.elim
  flush h := by
    rw [runCall_snd (x := flush) (f := fun _ => .done) rfl]
    exact (flush_meets hP h).at.2.posted rfl
  sync h := by
    rw [runCall_snd (x := sync) (f := fun _ => .done) rfl]
    exact (sync_meets hP h).at.2.posted rfl
  malformed {past items kinds t p} ticket handler h hm := by
    rw [runCall_snd (x := claimWithHandler ticket handler) (f := .calls) rfl]
    by_cases hseq : ticket.seq = p.claimSeq
    · obtain ⟨p₁, hrun, -, -, hclosed | ⟨hn, -⟩⟩ := claimWithHandler_eq hP ticket handler h hseq
      · rw [hrun]
        exact .inl (((claimFront_follows ticket handler).rel p₁).closed hclosed)
      · exact absurd hm hn
    · exact .inr (by simp [claimWithHandler, Act.bind_run, checkSequence, hseq])
  claim handler h hseq hne hfront _ := by
    rw [runClaim_eq]
    exact claim_settles hP handler h hseq hne hfront

/-- A new pipeline on an aligned connection has an empty account and holds no tickets. -/
theorem new_tracked {c : Conn P} (h : c.Aligned) (hcut : c.stream.cut = none) :
    Tracked (Between c.stream.log) [] 0 (new c) := by
  refine ⟨[], [], [], false, ⟨⟨rfl, ?_, h.2, .inl .nil, [], [], by simp [new], .nil, .nil⟩, hcut⟩,
    .inr ⟨rfl, rfl, rfl, rfl, rfl⟩⟩
  rw [show Pipeline.unread _ = c.unread from rfl, h.1]
  exact .nil

end Sync.Pipeline

end ZeroPostgres
