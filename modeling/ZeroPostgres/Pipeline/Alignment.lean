import ZeroPostgres.Pipeline.Calls
import ZeroPostgres.Server.Reference

/-!
# Alignment of asynchronous pipelines

Whole lives of a pipeline: any calls, then cleanup and drop. A connection is aligned when the
server owes nothing and waits for messages. `run_aligned` says that a pipeline hands back an
aligned connection or a broken one; `run_unbroken` that it hands back a usable one. Both leave
out the calls at which the queue and the server come apart, and the runs at the end of each
part show that they do.
-/

namespace ZeroPostgres

variable {P : Peer}

namespace Tokio.Pipeline

open ZeroPostgres.Pipeline

variable {start : List (Frontend × List RawMessage)} {p : Pipeline P}

/-- Between calls: nothing more is exchanged, or the pipeline has an account. -/
def Sound (start : List (Frontend × List RawMessage)) (p : Pipeline P) : Prop :=
  Stuck p ∨ ∃ past items kinds t, Active start past items kinds t p ∧ ¬ Busy p

/-- The call is a claim that passes its checks and finds a Sync at the front of the queue,
behind an operation that failed. -/
def PopsSync (p : Pipeline P) : PipelineCall → Prop
  | .claim _ ticket _ => p.conn.exchangeReady = true ∧ ticket.seq = p.claimSeq ∧
      p.aborted = true ∧ p.expectations.head? = some .sync
  | _ => False

/-- A property of every call of a program and the state it is made in. -/
def EveryCall (Q : Pipeline P → PipelineCall → Prop) : List PipelineCall → Pipeline P → Prop
  | [], _ => True
  | c :: cs, p => Q p c ∧ EveryCall Q cs (runCall c p).2

instance (p : Pipeline P) : ∀ c, Decidable (PopsSync p c)
  | .claim .. => inferInstanceAs (Decidable (_ ∧ _))
  | .exec .. | .flush .. | .sync .. => inferInstanceAs (Decidable False)

/-- Checking every call of a program runs it. -/
instance EveryCall.decidable (Q : Pipeline P → PipelineCall → Prop) [∀ p c, Decidable (Q p c)] :
    ∀ cs p, Decidable (EveryCall Q cs p)
  | [], _ => .isTrue trivial
  | c :: cs, p =>
    have := EveryCall.decidable Q cs (runCall c p).2
    inferInstanceAs (Decidable (Q p c ∧ EveryCall Q cs (runCall c p).2))

/-! ### One call -/

/-- On a connection with an exchange in progress every call fails and changes nothing. -/
theorem call_not_ready (hr : p.conn.exchangeReady = false) (c : PipelineCall) :
    call c p = (.err .connectionBroken, p) := by
  have hens : onConn Conn.ensureExchangeReady p = (.err .connectionBroken, p) := by
    simp [onConn, Conn.ensureExchangeReady, hr]
  cases c with
  | exec statement params => simp only [call, exec, Act.bind_run, hens]
  | flush cut => simp only [call, flush, Act.bind_run, hens]
  | sync cut => simp only [call, sync, Act.bind_run, hens]
  | claim cut ticket handler => simp only [call, claimWithHandler, Act.bind_run, hens]

/-- A pipeline whose connection exchanges nothing more stays so. -/
theorem Stuck.call (h : Stuck p) (c : PipelineCall) : Stuck (call c p).2 := by
  rcases h with h | h
  · exact .inl (((call_follows c).rel p).closed h)
  · rw [call_not_ready h]
    exact .inr h

section Step

variable {past items : List Item} {kinds : List OpKind} {t : Bool}

/-- `exec` adds an operation to the account, or leaves half a message in the write buffer. -/
theorem exec_meets (h : Active start past items kinds t p) (hb : ¬ Busy p)
    (statement : StatementRef) (params : Params) :
    Act.Meets (exec statement params) p fun o p' => Queued p p' ∧ ¬ Busy p' ∧
      match o with
      | .ok ticket => ticket = ⟨p.queueSeq, statement.stmt?⟩ ∧
          Active start past items (kinds ++ [statement.kind]) t p'
      | .err _ => Malformed p'.buffers.writeBuffer ∧ Active start past items kinds t p'
      | .halt => False := by
  simp only [exec, Act.meets_bind, meets_ensureExchangeReady (h.ready hb)]
  refine (queueExec_meets h.toLedger statement params).mono fun o p' hpost => ?_
  obtain ⟨hq, ho⟩ := hpost
  have active {kinds' : List OpKind} (hl : Ledger start past items kinds' t p') :
      Active start past items kinds' t p' :=
    ⟨hl, hq.broken.trans h.unbroken, by rw [hq.flags, hq.aborted]; exact h.scope⟩
  refine ⟨hq, by rw [Busy, hq.flags]; exact hb, ?_⟩
  cases o with
  | ok ticket => exact ⟨ho.1, active ho.2⟩
  | err e => exact ⟨ho.1, active ho.2⟩
  | halt => exact ho

private theorem SendPost.sound {sync : Bool} {o : Outcome Error Unit} {p' : Pipeline P}
    (h : SendPost start past items kinds sync p o p') : Sound start p' := by
  cases o with
  | ok u =>
    obtain ⟨-, -, hb, hc | ⟨new, u, -, -, ha⟩⟩ := h
    · exact .inl (.inl hc)
    · cases sync with
      | true =>
        obtain ⟨error, ha⟩ := ha
        exact .inr ⟨_, _, _, _, ha, hb⟩
      | false => exact .inr ⟨_, _, _, _, ha, hb⟩
  | err e => exact h.elim
  | halt => exact .inl (.inr h.2.not_ready)

/-- The step lemma: a call that does not pop a Sync keeps the account. -/
theorem call_sound (hP : P.NoCopy) (h : Active start past items kinds t p) (hb : ¬ Busy p)
    (c : PipelineCall) (hc : ¬ PopsSync p c) :
    Act.Meets (call c) p fun _ p' => Sound start p' := by
  cases c with
  | exec statement params =>
    simp only [call, Act.meets_bind, Act.meets_pure]
    refine (exec_meets h hb statement params).mono fun o p' hpost => ?_
    obtain ⟨-, hb', ho⟩ := hpost
    cases o with
    | ok ticket => exact .inr ⟨_, _, _, _, ho.2, hb'⟩
    | err e => exact .inr ⟨_, _, _, _, ho.2, hb'⟩
    | halt => exact ho.elim
  | flush cut =>
    simp only [call, Act.meets_bind, Act.meets_pure]
    refine (flush_meets hP h hb).mono fun o p' ho => ?_
    cases o <;> exact ho.sound
  | sync cut =>
    simp only [call, Act.meets_bind, Act.meets_pure]
    refine (sync_meets hP h hb).mono fun o p' ho => ?_
    cases o <;> exact ho.sound
  | claim cut ticket handler =>
    have hclaim : Act.Meets (claimWithHandler ticket handler) p fun _ p' => Sound start p' := by
      by_cases hseq : ticket.seq = p.claimSeq
      · obtain ⟨p₁, -, ⟨hrun, -, hb₁⟩ | ⟨hrun, -, hp₁⟩⟩ :=
          claimWithHandler_eq hP ticket handler h hb hseq
        · rw [Act.Meets, hrun]
          exact .inl (.inr hb₁.not_ready)
        · rw [Act.Meets, hrun]
          rcases hp₁ with hclosed | ⟨hb₁, ha, -, hq, items₁, t₁, hactive⟩
          · exact .inl (.inl (((claimFront_follows ticket handler).rel p₁).closed hclosed))
          · have hother (hq : p₁.expectations = [] ∨
                p₁.expectations.head? = some .sync ∧ p₁.aborted = false) :=
              (claimFront_other ticket handler hactive hb₁ hq).mono
                (R := fun _ p' => Sound start p') fun o p' ho => ho.elim
                  (fun hb => .inl (.inr hb.not_ready)) fun ho => .inr ⟨_, _, _, _, ho.2, ho.1⟩
            cases items₁ with
            | nil => exact hother (.inl hactive.queue)
            | cons item items₁ =>
              cases item with
              | sync error =>
                have hsync : p₁.expectations.head? = some .sync := by
                  rw [hactive.queue]
                  rfl
                refine hother (.inr ⟨hsync, ?_⟩)
                rw [ha]
                by_contra hab
                have hhead : p.expectations.head? = some .sync := by
                  rcases hq with hq | ⟨hne, hq⟩
                  · rw [← hq, hsync]
                  · rw [hq] at hsync
                    obtain ⟨e, q, hp⟩ := List.exists_cons_of_ne_nil hne
                    rw [hp] at hsync ⊢
                    exact hsync
                exact hc ⟨h.ready hb, hseq, by simpa using hab, hhead⟩
              | op kind fate =>
                refine (claimFront_meets ticket handler hactive hb₁).mono
                  (R := fun _ p' => Sound start p') fun o p' ho => ?_
                rcases ho with ⟨n, items', -, -, -, hb', ha', -⟩ | ⟨hb', -⟩
                · exact .inr ⟨_, _, _, _, ha', hb'⟩
                · exact .inl (.inr hb'.not_ready)
      · have hens : onConn Conn.ensureExchangeReady p = (.ok (), p) := by
          simp [onConn, Conn.ensureExchangeReady, h.ready hb]
        have hrun : (claimWithHandler ticket handler p).2 = p := by
          simp [claimWithHandler, Act.bind_run, hens, checkSequence, hseq]
        rw [Act.Meets, hrun]
        exact .inr ⟨_, _, _, _, h, hb⟩
    simp only [call, Act.meets_bind, Act.meets_pure]
    refine hclaim.mono fun o p' ho => ?_
    cases o <;> exact ho

/-- An account does not depend on where the next future is dropped. -/
theorem Active.setCut (h : Active start past items kinds t p) (cut : Option Cut) :
    Active start past items kinds t (setCut cut p) :=
  ⟨⟨h.queue, h.owes, h.mode, h.buffer, h.history⟩, h.unbroken, h.scope⟩

end Step

theorem Sound.setCut (h : Sound start p) (cut : Option Cut) : Sound start (setCut cut p) := by
  rcases h with h | ⟨past, items, kinds, t, h, hb⟩
  · exact .inl h
  · exact .inr ⟨past, items, kinds, t, h.setCut cut, hb⟩

/-! ### Whole lives -/

theorem runCall_sound (hP : P.NoCopy) (h : Sound start p) (c : PipelineCall)
    (hc : ¬ PopsSync p c) : Sound start (runCall c p).2 := by
  refine Sound.setCut (p := (call c (Pipeline.setCut c.cut p)).2) ?_ none
  rcases h.setCut c.cut with h | ⟨past, items, kinds, t, h, hb⟩
  · exact .inl (h.call c)
  · refine (call_sound hP h hb c fun hpop => hc ?_).at
    cases c <;> exact hpop

/-- The run lemma: an account survives any calls that do not pop a Sync. -/
theorem afterCalls_sound (hP : P.NoCopy) {calls : List PipelineCall} (h : Sound start p)
    (hcalls : EveryCall (fun p c => ¬ PopsSync p c) calls p) :
    Sound start (afterCalls calls p) := by
  induction calls generalizing p with
  | nil => exact h
  | cons c cs ih => exact ih (runCall_sound hP h c hcalls.1) hcalls.2

/-- A new pipeline on an aligned connection has an empty account. -/
theorem new_active {c : Conn P} (hc : c.isBroken = false) (h : c.Aligned) :
    Active c.stream.log [] [] [] false (new c) ∧ ¬ Busy (new c) := by
  have hflags : (c.broken = false ∧ c.flags.exchangeInProgress = false) ∧
      c.flags.scopePending = false := by
    simpa [Conn.isBroken, Driver.isBroken] using hc
  simp only [new, hc, Bool.false_eq_true, if_false]
  refine ⟨⟨⟨rfl, ?_, h.2, .inl .nil, [], [], by simp, .nil, .nil⟩, hflags.1.1,
    fun _ => ⟨rfl, rfl⟩⟩, ?_⟩
  · rw [show Pipeline.unread _ = c.unread from rfl, h.1]
    exact .nil
  · simp [Busy, hflags.1.2]

/-- A new pipeline is sound. -/
theorem new_sound {c : Conn P} (h : c.isBroken = false → c.Aligned) :
    Sound c.stream.log (new c) := by
  cases hc : c.isBroken with
  | false => exact .inr ⟨_, _, _, _, new_active hc (h hc)⟩
  | true =>
    refine .inl (.inr ?_)
    simp [new, hc, Conn.exchangeReady, Driver.exchangeReady]

/-- `is_broken()` after the drop of a pipeline. -/
theorem drop_isBroken (p : Pipeline P) : (drop p).isBroken =
    (p.conn.broken || p.conn.flags.exchangeInProgress || p.conn.flags.scopePending) := by
  unfold drop
  split <;> simp_all [Conn.isBroken, Driver.isBroken]

private theorem drop_stream (p : Pipeline P) : (drop p).stream = p.conn.stream := by
  unfold drop
  split <;> rfl

/-- Whatever the calls of a program, wherever their futures are dropped and whatever the
server does short of closing the session: if no claim pops a Sync, the connection that a
pipeline hands back is aligned unless it says that it is broken. -/
theorem run_aligned (hP : P.NoCopy) (c : Conn P) (calls : List PipelineCall)
    (cleanupCut : Option Cut) (hc : c.isBroken = false → c.Aligned)
    (hcalls : EveryCall (fun p c => ¬ PopsSync p c) calls (new c))
    (hopen : (run calls cleanupCut c).session.mode ≠ .closed)
    (hbroken : (run calls cleanupCut c).isBroken = false) : (run calls cleanupCut c).Aligned := by
  have hs := (afterCalls_sound hP (new_sound hc) hcalls).setCut cleanupCut
  have hrun : run calls cleanupCut c = drop (setCut none
      (cleanup (setCut cleanupCut (afterCalls calls (new c)))).2) := rfl
  rw [hrun] at hopen hbroken ⊢
  generalize setCut cleanupCut (afterCalls calls (new c)) = p at hs hopen hbroken ⊢
  rw [drop_isBroken] at hbroken
  simp only [Bool.or_eq_false_iff] at hbroken
  obtain ⟨⟨hunbroken, hidle⟩, hscope⟩ := hbroken
  rw [Conn.session, drop_stream] at hopen
  rw [Conn.Aligned, Conn.unread, Conn.session, drop_stream]
  rcases hs with (hclosed | hr) | ⟨past, items, kinds, t, h, hb⟩
  · exact absurd ((cleanup_follows.rel p).closed hclosed) hopen
  · have hsame : (cleanup p).2 = p := by
      simp [cleanup, Act.bind_run, hr]
    rw [hsame] at hunbroken hidle
    have hready : p.conn.exchangeReady = true := by
      simp only [setCut] at hunbroken hidle
      simp [Conn.exchangeReady, Driver.exchangeReady, hunbroken, hidle]
    rw [hready] at hr
    cases hr
  · rcases (cleanup_meets hP h hb).at with hclosed | hhalt | hd
    · exact absurd hclosed hopen
    · exact absurd hidle (by simpa [Busy, setCut] using hhalt.1)
    · exact ⟨hd.1.unread, hd.1.mode hscope⟩

/-! ### A misaligned connection -/

/-- A connection to the reference server where the operation FAIL fails. -/
def failing : Conn (Reference.scripted fun sql =>
    if sql = "FAIL" then .fails else .command) := Conn.fresh Reference.start ⟨false, false⟩

/-- The claims of a failed operation and of one queued behind it and flushed with it. -/
def abortedBatch : List PipelineCall :=
  [.exec (.sql "FAIL") .none, .exec (.sql "NEXT") .none, .claim none ⟨0, none⟩ DropHandler,
    .claim none ⟨1, none⟩ DropHandler, .exec (.sql "LAST") .none]

/-- After the claim of a failed operation a Sync is queued, and an operation behind it: the
claim of that operation pops the Sync. -/
def syncBehindFailure : List PipelineCall :=
  [.exec (.sql "FAIL") .none, .flush none, .claim none ⟨0, none⟩ DropHandler, .sync none,
    .exec (.sql "NEXT") .none, .claim none ⟨1, none⟩ DropHandler]

theorem run_aligned_abortedBatch : (run abortedBatch none failing).Aligned :=
  run_aligned (P := Reference.scripted _) (Reference.peer_noCopy _) failing abortedBatch none
    (fun _ => by decide +kernel) (by decide +kernel) (by decide +kernel) (by decide +kernel)

/-- The connection is handed back as usable with the reply to NEXT and a ReadyForQuery still
to be read, although the server raised one error of severity ERROR and nothing else. -/
theorem run_misaligned :
    failing.isBroken = false ∧ failing.Aligned ∧
      (run syncBehindFailure none failing).isBroken = false ∧
      (run syncBehindFailure none failing).session.mode = .ready ∧
      (run syncBehindFailure none failing).unread.length = 5 ∧
      ¬ (run syncBehindFailure none failing).Aligned := by
  decide +kernel

end Tokio.Pipeline

end ZeroPostgres
