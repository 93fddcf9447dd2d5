import ZeroPostgres.Pipeline.Accounts
import ZeroPostgres.Pipeline.Alignment

/-!
# Programs that claim in order

Asynchronous pipelines whose tickets are claimed in order and whose futures are never dropped meet
the laws of `Pipeline/Accounts.lean` (`accounts`). `run_unbroken` says when they leave a usable
connection behind: the claims that find a Sync at the front of the queue, and the Syncs answered
with an error, are left out.
-/

namespace ZeroPostgres.Tokio.Pipeline

open ZeroPostgres.Pipeline

variable {P : Peer} {start : List (Frontend × List RawMessage)} {p : Pipeline P}

/-- The call is a claim that passes the sequence check and finds a Sync at the front. -/
def FindsSync (p : Pipeline P) : PipelineCall → Prop
  | .claim _ ticket _ => ticket.seq = p.claimSeq ∧ p.expectations.head? = some .sync
  | _ => False

instance (p : Pipeline P) : ∀ c, Decidable (FindsSync p c)
  | .claim .. => inferInstanceAs (Decidable (_ ∧ _))
  | .exec .. | .flush .. | .sync .. => inferInstanceAs (Decidable False)

/-- The account of a pipeline between two calls whose futures are not dropped. -/
def Between (start : List (Frontend × List RawMessage)) : Account P TokioFlags :=
  fun past items kinds t p => Active start past items kinds t p ∧ ¬ Busy p ∧
    p.conn.stream.cut = none

theorem afterCalls_eq (calls : List PipelineCall) (p : Pipeline P) :
    afterCalls calls p = Runner.after runCall calls p := by
  induction calls generalizing p with
  | nil => rfl
  | cons c cs ih => exact ih _

theorem always_of_everyCall {Q : Pipeline P → PipelineCall → Prop} {calls : List PipelineCall}
    {p : Pipeline P} (h : EveryCall Q calls p) : Always (Runner.step runCall) Q p calls := by
  induction calls generalizing p with
  | nil => trivial
  | cons c cs ih =>
    refine ⟨h.1, fun p' hp' => ?_⟩
    cases hp'
    exact ih h.2

/-! ### The laws -/

section Laws

variable {past items : List Item} {kinds : List OpKind} {t : Bool}

theorem setCut_same (hp : p.conn.stream.cut = none) : setCut none p = p := by
  obtain ⟨⟨⟨_, _, _, _, _⟩, _, _, _, _, _, _, _⟩, _, _, _, _, _⟩ := p
  cases hp
  rfl

/-- Where no future is dropped a call is run to its end. -/
theorem runCall_eq {c : PipelineCall} (hc : c.cut = none) (hp : p.conn.stream.cut = none) :
    runCall c p = ((call c p).1.toExcept?, setCut none (call c p).2) := by
  rw [runCall, dropping, hc, setCut_same hp]

theorem runClaim_eq {ticket : Ticket} {handler : Handler} (hp : p.conn.stream.cut = none) :
    runCall (.claim none ticket handler) p =
      ((claimWithHandler ticket handler p).1.toExcept?.map fun r => r.map .calls,
        setCut none (claimWithHandler ticket handler p).2) := by
  rw [runCall_eq rfl hp]
  simp only [call, Act.bind_run]
  rcases claimWithHandler ticket handler p with ⟨_ | _ | _, p'⟩ <;> rfl

/-- What a call does is what its computation does. -/
private theorem runCall_snd {α : Type} {x : Act Error (Pipeline P) α} {f : α → CallResult}
    {c : PipelineCall} (hcall : call c = x >>= fun a => pure (f a)) (hc : c.cut = none)
    (hp : p.conn.stream.cut = none) : (runCall c p).2 = setCut none (x p).2 := by
  rw [runCall_eq hc hp, hcall, Act.bind_run]
  rcases x p with ⟨_ | _ | _, p'⟩ <;> rfl

/-- Sending changes neither the counters nor the operations in the queue. -/
private theorem SendPost.posted {sync : Bool} {o : Outcome Error Unit} {p' : Pipeline P}
    (hs : SendPost start past items kinds sync p o p') (h : Active start past items kinds t p)
    (hcut : p.conn.stream.cut = none) : Posted (Between start) past p (setCut none p') := by
  cases o with
  | ok u =>
    obtain ⟨hc, -, hb, hclosed | ⟨new, u, hframes, hnew, ha⟩⟩ := hs
    · exact .inl hclosed
    · refine .inr ⟨hframes.not_malformed, hc.queueSeq, hc.claimSeq, ?_⟩
      cases sync with
      | true =>
        obtain ⟨error, ha⟩ := ha
        refine ⟨?_, _, _, ha.setCut none, hb, rfl⟩
        rw [show (setCut none p').expectations = p'.expectations from rfl, ha.queue, h.queue]
        simp [opCount, Item.expectation, expectations_of_kinds hnew]
      | false =>
        refine ⟨?_, _, _, ha.setCut none, hb, rfl⟩
        rw [show (setCut none p').expectations = p'.expectations from rfl, ha.queue, h.queue]
        simp [expectations_of_kinds hnew]
  | err e => exact hs.elim
  | halt => exact absurd hcut hs.1

/-- A claim with half a message in the write buffer is refused, or the peer closes the
session. -/
theorem claim_malformed (hP : P.NoCopy) (ticket : Ticket) (handler : Handler)
    (h : Active start past items kinds t p) (hb : ¬ Busy p) (hcut : p.conn.stream.cut = none)
    (hm : Malformed p.buffers.writeBuffer) :
    Closed (claimWithHandler ticket handler p).2 ∨ (claimWithHandler ticket handler p).2 = p := by
  by_cases hseq : ticket.seq = p.claimSeq
  · obtain ⟨p₁, -, ⟨-, hne, -⟩ | ⟨hrun, -, hclosed | ⟨-, -, hframes, -⟩⟩⟩ :=
      claimWithHandler_eq hP ticket handler h hb hseq
    · exact absurd hcut hne
    · rw [hrun]
      exact .inl (((claimFront_follows ticket handler).rel p₁).closed hclosed)
    · exact absurd hm hframes.not_malformed
  · have hens : onConn Conn.ensureExchangeReady p = (.ok (), p) := by
      simp [onConn, Conn.ensureExchangeReady, h.ready hb]
    exact .inr (by simp [claimWithHandler, Act.bind_run, hens, checkSequence, hseq])

/-- The claim of the operation at the front. -/
private theorem claim_settles (hP : P.NoCopy) {ticket : Ticket} (handler : Handler)
    (h : Active start past items kinds t p) (hb : ¬ Busy p) (hcut : p.conn.stream.cut = none)
    (hseq : ticket.seq = p.claimSeq) (hne : p.expectations ≠ [])
    (hfront : p.expectations.head? ≠ some .sync) :
    let r := claimWithHandler ticket handler p
    Closed r.2 ∨ Disturbed (Between start) past ticket handler (setCut none r.2) ∨
      Consumed (Between start) past ticket p (setCut none r.2)
        (r.1.toExcept?.map fun r => r.map .calls) := by
  intro r
  obtain ⟨p₁, -, ⟨-, hcut', -⟩ | ⟨hrun, hc, hclosed | ⟨hb₁, -, -, hq, items₁, t₁, h₁⟩⟩⟩ :=
    claimWithHandler_eq hP ticket handler h hb hseq
  · exact absurd hcut hcut'
  · have hr : r = claimFront ticket handler p₁ := hrun
    rw [hr]
    exact .inl (((claimFront_follows ticket handler).rel p₁).closed hclosed)
  · right
    have hr : r = claimFront ticket handler p₁ := hrun
    rw [hr]
    have hqueue : p₁.expectations = items₁.map Item.expectation := by simpa using h₁.queue
    obtain ⟨kind, fate, rest, rfl, hcount⟩ :=
      front_of_synced (hq.imp_right And.right) hqueue hne hfront
    have hfollows := (claimFront_follows ticket handler).rel p₁
    rcases (claimFront_meets ticket handler h₁ hb₁).at with
      ⟨m, items', rfl, -, hc', hb', ha', hrep⟩ | ⟨-, hcut' | hd⟩
    · have hclaim : (claimFront ticket handler p₁).2.claimSeq = p₁.claimSeq + 1 := hc'.claimSeq
      exact .inr (consumed_of_reported ⟨ha'.setCut none, hb', rfl⟩
        (hc'.queueSeq.trans hc.queueSeq) (hclaim.trans (by rw [hc.claimSeq]))
        (by simpa using (ha'.setCut none).queue) hcount hrep)
    · exact absurd (hc.nocut hcut) hcut'
    · exact .inl ⟨kind, fate, rest, t₁, p₁, ⟨h₁, hb₁, hc.nocut hcut⟩, hfollows, hd⟩

/-- The calls of an asynchronous client whose futures are not dropped meet the laws. -/
theorem accounts (hP : P.NoCopy) (start : List (Frontend × List RawMessage)) :
    Accounts (runCall (P := P)) start (Between start) where
  ledger h := h.1.toLedger
  follows c p := dropping_follows (call_follows c) c.cut p
  exec statement params h := by
    obtain ⟨h, hb, hcut⟩ := h
    have hmeets := exec_meets h hb statement params
    rw [runCall_snd (x := exec statement params) (f := .ticket) rfl rfl hcut]
    unfold Act.Meets at hmeets
    generalize exec statement params _ = r at hmeets ⊢
    obtain ⟨o, p'⟩ := r
    obtain ⟨hq, hb', ho⟩ := hmeets
    refine ⟨hq.queueSeq, hq.claimSeq, hq.malformed, ?_⟩
    cases o with
    | ok ticket => exact .inl ⟨ho.2.setCut none, hb', rfl⟩
    | err e => exact .inr ⟨ho.1, ho.2.setCut none, hb', rfl⟩
    | halt => exact ho.elim
  flush h := by
    obtain ⟨h, hb, hcut⟩ := h
    rw [runCall_snd (x := flush) (f := fun _ => .done) rfl rfl hcut]
    exact SendPost.posted (flush_meets hP h hb).at h hcut
  sync h := by
    obtain ⟨h, hb, hcut⟩ := h
    rw [runCall_snd (x := sync) (f := fun _ => .done) rfl rfl hcut]
    exact SendPost.posted (sync_meets hP h hb).at h hcut
  malformed {past items kinds t p} ticket handler h hm := by
    obtain ⟨h, hb, hcut⟩ := h
    rw [runCall_snd (x := claimWithHandler ticket handler) (f := .calls) rfl rfl hcut]
    refine (claim_malformed hP ticket handler h hb hcut hm).imp_right fun hsame => ?_
    rw [hsame]
    exact setCut_same hcut
  claim handler h hseq hne hfront _ := by
    obtain ⟨h, hb, hcut⟩ := h
    rw [runClaim_eq hcut]
    exact claim_settles hP handler h hb hcut hseq hne hfront

end Laws

/-! ### Whole programs -/

/-- A new pipeline holds no tickets. -/
theorem new_tracked {c : Conn P} (hc : c.isBroken = false) (h : c.Aligned)
    (hcut : c.stream.cut = none) : Tracked (Between c.stream.log) [] 0 (new c) := by
  obtain ⟨ha, hb⟩ := new_active hc h
  have hcut' : (new c).conn.stream.cut = none := by
    unfold new
    split <;> exact hcut
  exact ⟨[], [], [], false, ⟨ha, hb, hcut'⟩, .inr ⟨rfl, rfl, rfl, rfl, rfl⟩⟩

/-- What the server did for the operations and Syncs of a pipeline on `c` that ends in `c'`. -/
def servedBetween (c c' : Conn P) : List Item := served (c'.stream.log.drop c.stream.log.length)

/-- A program that claims in order, drops no future and can deliver what it claims leaves a
usable connection behind, if no claim finds a Sync at the front of the queue, no Sync is
answered with an error, and cleanup does not find the queue ending in an operation that has
no Sync coming. -/
theorem run_unbroken (hP : P.NoCopy) (c : Conn P) (calls : List PipelineCall)
    (hc : c.isBroken = false) (haligned : c.Aligned) (hcut : c.stream.cut = none)
    (horder : ClaimsInOrder [] 0 calls) (hcuts : ∀ call ∈ calls, call.cut = none)
    (hopen : (run calls none c).session.mode ≠ .closed)
    (hdeliver : DeliversAll (claimsOf calls)
      (operations false (servedBetween c (run calls none c))))
    (hfind : EveryCall (fun p c => ¬ FindsSync p c) calls (new c))
    (hsyncs : SyncsSucceed (servedBetween c (run calls none c)))
    (hend : ¬ EndsInOperation (afterCalls calls (new c))) :
    (run calls none c).isBroken = false := by
  have hrun : run calls none c =
      drop (setCut none (cleanup (setCut none (afterCalls calls (new c)))).2) := rfl
  have hstream (p : Pipeline P) : (drop p).stream = p.conn.stream := by
    unfold drop
    split <;> rfl
  have hfollows : Follows (afterCalls calls (new c)) (cleanup (setCut none
      (afterCalls calls (new c)))).2 := cleanup_follows.rel (setCut none _)
  rw [servedBetween, hrun, hstream] at hdeliver hsyncs
  rw [hrun, Conn.session, hstream] at hopen
  rw [hrun, drop_isBroken]
  have hnew : (new c).queueSeq = 0 := by
    unfold new
    split <;> rfl
  have haccounts := accounts hP c.stream.log
  have htracked := haccounts.after_tracked hsyncs calls (new_tracked hc haligned hcut)
    (by rw [hnew]; exact horder) hcuts (always_of_everyCall hfind)
    (by rw [← afterCalls_eq]; exact fun hclosed => hopen (hfollows.closed hclosed))
    (by rw [← afterCalls_eq]; exact haccounts.foretold hfollows.log_grows)
    (by simpa using hdeliver)
  rw [← afterCalls_eq] at htracked
  obtain ⟨⟨held, n, past, items, kinds, t, ⟨h, hb, -⟩, -⟩, -⟩ := htracked
  rcases (cleanup_meets hP (h.setCut none) hb).at with hclosed | ⟨-, hcut' | hsync⟩ | ⟨hd, hp⟩
  · exact absurd hclosed hopen
  · exact absurd rfl hcut'
  · obtain ⟨items, t, p₁, error, hf, ha, he⟩ := hsync
    refine absurd ((ha.toLedger.told hf.log_grows).subset ?_) (hsyncs.not_mem error)
    exact List.mem_append_right _ he
  · have hidle := hd.idle
    have hscope := hp hend
    have hunbroken := hd.unbroken
    rw [Busy, Bool.not_eq_true] at hidle
    generalize (cleanup (setCut none (afterCalls calls (new c)))).2 = p' at hidle hscope hunbroken
    change (p'.conn.broken || p'.conn.flags.exchangeInProgress ||
      p'.conn.flags.scopePending) = false
    rw [hunbroken, hidle, hscope]
    rfl

/-- A batch with a failing operation, claimed, and an operation that nobody claims. -/
def unclaimedBatch : List PipelineCall :=
  [.exec (.sql "FAIL") .none, .exec (.sql "NEXT") .none, .sync none,
    .claim none ⟨0, none⟩ DropHandler, .exec (.sql "LAST") .none]

/-- A Sync, and behind it an operation that was flushed but not synced. -/
def flushedBehindSync : List PipelineCall :=
  [.exec (.sql "FIRST") .none, .sync none, .exec (.sql "LAST") .none, .flush none]

theorem run_unbroken_unclaimedBatch :
    (run unclaimedBatch none failing).isBroken = false :=
  run_unbroken (P := Reference.scripted _) (Reference.peer_noCopy _) failing unclaimedBatch
    (by decide +kernel) (by decide +kernel) (by decide +kernel) (by decide +kernel)
    (by decide +kernel) (by decide +kernel) (by decide +kernel) (by decide +kernel)
    (by decide +kernel) (by decide +kernel)

/-- A pipeline whose every operation succeeds and that drops no future breaks its connection:
`scope_pending` is not cleared by a ReadyForQuery that leaves an operation in the queue. -/
theorem run_broken : failing.isBroken = false ∧ failing.Aligned ∧ failing.stream.cut = none ∧
    ClaimsInOrder [] 0 flushedBehindSync ∧ (∀ call ∈ flushedBehindSync, call.cut = none) ∧
    claimsOf flushedBehindSync = [] ∧
    (run flushedBehindSync none failing).session.mode = .ready ∧
    (run flushedBehindSync none failing).unread = [] ∧
    (run flushedBehindSync none failing).isBroken = true := by
  decide +kernel

end ZeroPostgres.Tokio.Pipeline
