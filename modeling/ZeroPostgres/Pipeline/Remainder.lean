import ZeroPostgres.Pipeline.Stopping

/-!
# What claims leave behind

A claim of the blocking client that fails on the client's side leaves the rest of a reply unread.
`Lag` is the account of a pipeline with such a rest in front of what the server owes for the queue.
Every call keeps it that returns and leaves the session open and the connection unmarked
(`call_traced`), unless the claim of an aborted pipeline drops a Sync unread (`SkipsSync`), or one
that fails on the client's side has an error behind it (`LeavesCalm`). The next ReadyForQuery then
brings the pipeline back in step with the server (`Clean`).
-/

namespace ZeroPostgres

/-! ### Operations that fail -/

/-- The entries from the `n`-th operation on. -/
def fromOp : Nat → List Item → List Item
  | _, [] => []
  | n, .sync _ :: items => fromOp n items
  | 0, .op kind fate :: items => .op kind fate :: items
  | n + 1, .op .. :: items => fromOp n items

/-- No operation up to the next Sync fails. -/
def Calm : List Item → Prop
  | .op _ fate :: items => fate.failed = false ∧ Calm items
  | _ => True

instance Calm.decidable : ∀ items, Decidable (Calm items)
  | [] => .isTrue trivial
  | .sync _ :: _ => .isTrue trivial
  | .op _ fate :: items =>
    have := Calm.decidable items
    inferInstanceAs (Decidable (fate.failed = false ∧ Calm items))

/-- What is calm from an operation on is calm from the entry behind those before it on. -/
theorem calm_of_fromOp {past items : List Item} {behind : Bool} {n : Nat}
    (hn : (operations behind past).length = n) (h : Calm (fromOp n (past ++ items))) :
    Calm items := by
  induction past generalizing behind n with
  | nil =>
    subst hn
    cases items with
    | nil => trivial
    | cons item items =>
      cases item with
      | op kind fate => exact h
      | sync error => trivial
  | cons item past ih =>
    cases item with
    | op kind fate =>
      subst hn
      exact ih rfl h
    | sync error => exact ih hn h

/-- The reply to one entry of a queue, given whether the server discards messages before it, and
whether it does behind it. -/
inductive Replied : Bool → Item → List RawMessage → Bool → Prop where
  | skipped {kind} : Replied true (.op kind .skipped) [] true
  | op {kind fate r} : Reading kind.first fate r → Replied false (.op kind fate) r fate.skipping
  | sync {s status z} : IsReady status z → Replied s (.sync none) [z] false
  | syncError {status e m z} : IsError e m → IsReady status z →
      Replied false (.sync (some e)) [m, z] false

/-- What is owed for a queue is the reply to its first entry and what is owed for the others. -/
theorem Owes.uncons {s t : Bool} {item : Item} {items : List Item} {ms : List RawMessage}
    (h : Owes s (item :: items) ms t) :
    ∃ reply rest s', ms = reply ++ rest ∧ Replied s item reply s' ∧ Owes s' items rest t := by
  cases h with
  | skipped h => exact ⟨[], _, true, rfl, .skipped, h⟩
  | op hr h => exact ⟨_, _, _, rfl, .op hr, h⟩
  | sync hz h => exact ⟨[_], _, false, rfl, .sync hz, h⟩
  | syncError he _ hz h => exact ⟨[_, _], _, false, rfl, .syncError he hz, h⟩

namespace Replied

variable {s s' : Bool} {item : Item} {reply : List RawMessage}

theorem bounded (h : Replied s item reply s') : Bounded reply := by
  cases h with
  | skipped => exact .nil
  | op hr => exact hr.bounded.2
  | sync hz => exact .single hz.wellFormed (by rw [hz.1]; rfl)
  | syncError he hz =>
    exact .cons he.wellFormed (by simp) (.single hz.wellFormed (by rw [hz.1]; rfl))

/-- An operation that the server runs and that does not fail disturbs nothing. -/
theorem undisturbing {kind : OpKind} {fate : Fate} (h : Replied false (.op kind fate) reply s')
    (hf : fate.failed = false) : Undisturbing reply ∧ s' = false := by
  cases h with
  | op hr =>
    refine ⟨hr.undisturbing hf, ?_⟩
    cases fate with
    | ran columns rows ending => exact hf
    | skipped => exact absurd rfl hr.ne_skipped

end Replied

namespace Sync.Pipeline

open Act ZeroPostgres.Pipeline

variable {P : Peer} {start : List (Frontend × List RawMessage)} {past items : List Item}
variable {kinds : List OpKind} {t : Bool} {s s' : Bool} {junk junk' ms ms' : List RawMessage}
variable {p p' : Pipeline P}

/-! ### What every call keeps -/

/-- A connection marked as broken stays marked. -/
def Marked (p p' : Pipeline P) : Prop := p.conn.broken = true → p'.conn.broken = true

theorem receive_marked (m : RawMessage) :
    Keeps Marked (onConn (Conn.receive m) : Act Error (Pipeline P) Unit) := by
  refine ⟨fun p hb => ?_⟩
  have hawait := (Conn.awaitPoint_reads.rel p.conn).talks.broken hb
  simp only [onConn, Conn.receive, Act.bind_run]
  rcases hrun : Conn.awaitPoint p.conn with ⟨_ | _ | _, c⟩ <;> rw [hrun] at hawait <;> exact hawait

instance : KeptByCalls (Marked (P := P)) where
  refl _ := id
  trans _ _ _ h h' hb := h' (h hb)
  receive := receive_marked
  starve := ⟨fun p => (Conn.starve_reads.rel p.conn).talks.broken⟩
  onServerError _ _ := id
  saveColumns _ _ := id
  onConn h := ⟨fun p => (h.rel p.conn).1.broken⟩
  expectations _ _ := id
  aborted _ _ := id
  counters _ _ _ := id

/-! ### The account -/

/-- The pipeline as the server accounts for it: `ms` wait to be read, and `s` says whether it
discards messages before them. -/
def asServed (s : Bool) (ms : List RawMessage) (p : Pipeline P) : Pipeline P :=
  { p with
    aborted := s
    conn := { p.conn with stream := { p.conn.stream with inbound := ms } } }

/-- The account of a pipeline with `junk` left unread in front of the messages `ms` that the server
owes for the queue. -/
structure Lag (start : List (Frontend × List RawMessage)) (past items : List Item)
    (kinds : List OpKind) (t s : Bool) (junk ms : List RawMessage) (p : Pipeline P) : Prop where
  ledger : Ledger start past items kinds t (asServed s ms p)
  unread : p.unread = junk ++ core ms
  bounded : Bounded junk
  cut : p.conn.stream.cut = none
  counted : (operations false past).length + opCount p.expectations = p.queueSeq ∨
    Malformed p.buffers.writeBuffer

/-- The account speaks of the queue, the numbers, the stream and the write buffer. -/
theorem Lag.of_eq (h : Lag start past items kinds t s junk ms p)
    (hq : p'.expectations = p.expectations) (hn : p'.queueSeq = p.queueSeq)
    (hs : p'.conn.stream = p.conn.stream)
    (hw : p'.buffers.writeBuffer = p.buffers.writeBuffer) :
    Lag start past items kinds t s junk ms p' where
  ledger := h.ledger.of_eq hq rfl (by simp only [asServed, hs]) hw
  unread := by
    rw [ZeroPostgres.Pipeline.unread, Conn.unread, hs]
    exact h.unread
  bounded := h.bounded
  cut := by
    rw [hs]
    exact h.cut
  counted := by
    rw [hq, hn, hw]
    exact h.counted

/-- The entry at the front of the queue, and what is owed for it. -/
theorem Lag.uncons {item : Item} (h : Lag start past (item :: items) kinds t s junk ms p) :
    ∃ reply rest s', Replied s item reply s' ∧ p.unread = junk ++ reply ++ core rest ∧
      Owes s' items (core rest) t := by
  obtain ⟨reply, rest, s', hms, hr, howes⟩ := Owes.uncons h.ledger.owes
  have hcore : core ms = reply ++ rest := hms
  have hrest : core rest = rest := core_eq_self fun m hm => by
    have hmem : m ∈ core ms := by
      rw [hcore]
      exact List.mem_append_right _ hm
    simpa using (List.mem_filter.mp hmem).2
  refine ⟨reply, rest, s', hr, ?_, by rwa [hrest]⟩
  rw [h.unread, hcore, hrest, List.append_assoc]

/-- An entry of the queue is consumed: `left` is all that is left unread of what was there before it
and of its reply. -/
theorem Lag.pop {item : Item} {left : List RawMessage} {p₁ : Pipeline P}
    (h : Lag start past (item :: items) kinds t s junk ms p)
    (hr : Reads { p with expectations := p.expectations.tail } p₁)
    (hun : p₁.unread = left ++ core ms') (howes : Owes s' items (core ms') t) (hb : Bounded left)
    (hq : p'.expectations = p₁.expectations) (hn : p'.queueSeq = p₁.queueSeq)
    (hs : p'.conn.stream = p₁.conn.stream)
    (hw : p'.buffers.writeBuffer = p₁.buffers.writeBuffer) :
    Lag start (past ++ [item]) items kinds t s' left ms' p' where
  ledger := by
    refine h.ledger.pop (hq.trans hr.expectations) howes ?_ ?_ (hw.trans hr.writeBuffer)
    · simp only [asServed, hs]
      exact hr.peer
    · simp only [asServed, hs]
      exact hr.log
  unread := by
    rw [ZeroPostgres.Pipeline.unread, Conn.unread, hs]
    exact hun
  bounded := hb
  cut := by
    rw [hs]
    exact hr.nocut h.cut
  counted := by
    have hqueue : p.expectations = item.expectation :: p.expectations.tail := by
      have hall : p.expectations = (item :: items).map Item.expectation ++
          kinds.map OpKind.expectation := h.ledger.queue
      rw [hall]
      rfl
    rw [hq, hr.expectations, hn, hr.queueSeq, hw, hr.writeBuffer]
    refine h.counted.imp_left fun hc => ?_
    rw [← hc, hqueue, operations_append, List.length_append]
    cases item with
    | op kind fate => cases kind <;> simp [operations, opCount, Item.expectation,
        OpKind.expectation] <;> omega
    | sync error => simp [operations, opCount, Item.expectation]

/-- The pipeline is in step with the server, or what is left unread and the operations up to the
next Sync disturb nothing on the way to its ReadyForQuery. -/
structure Clean (served past : List Item) (s : Bool) (junk : List RawMessage) (p : Pipeline P) :
    Prop where
  step : p.aborted = s ∧ junk = [] ∨
    p.aborted = true ∧ s = false ∧ Undisturbing junk ∧ Calm (served.drop past.length)
  begun : p.aborted = true → p.queueSeq ≠ 0

/-- Between two calls of a run that has not marked its connection as broken. -/
def Traced (served : List Item) (start : List (Frontend × List RawMessage))
    (past items : List Item) (kinds : List OpKind) (t : Bool) (p : Pipeline P) : Prop :=
  ∃ s junk ms, Lag start past items kinds t s junk ms p ∧ Clean served past s junk p

section Sending

variable {served : List Item}

/-- A call that consumes nothing. -/
private theorem Clean.of_eq (h : Clean served past s junk p) (ha : p'.aborted = p.aborted)
    (hn : p.queueSeq ≠ 0 → p'.queueSeq ≠ 0) : Clean served past s junk p' :=
  ⟨by rw [ha]; exact h.step, fun hp => hn (h.begun (ha.symm.trans hp))⟩

/-! ### Queueing -/

private theorem queueExec_asServed (statement : StatementRef) (params : Params) :
    queueExec statement params (asServed s ms p) =
      ((queueExec statement params p).1, asServed s ms (queueExec statement params p).2) ∧
    (queueExec statement params p).2.conn.stream = p.conn.stream ∧
    (queueExec statement params p).2.aborted = p.aborted ∧
    (queueExec statement params p).2.queueSeq = p.queueSeq + 1 := by
  cases statement with
  | sql text =>
    cases henc : params.encode params.naturalOids <;>
      simp [queueExec, execSqlInner, Act.bind_run, onConn, Conn.setWriteBuffer, writeBind, henc,
        buffers, appendWrite, pushExpectation, asServed]
  | prepared stmt =>
    cases henc : params.encode stmt.paramOids <;>
      simp [queueExec, execPreparedInner, Act.bind_run, onConn, Conn.setWriteBuffer, writeBind,
        henc, buffers, appendWrite, pushExpectation, asServed]

/-- `exec` adds an operation to the account, or leaves half a message in the write buffer. -/
theorem exec_traced (h : Traced served start past items kinds t p) (statement : StatementRef)
    (params : Params) :
    ∃ kinds', Traced served start past items kinds' t (queueExec statement params p).2 := by
  obtain ⟨s, junk, ms, hl, hclean⟩ := h
  obtain ⟨hrun, hstream, ha, hseq⟩ :=
    queueExec_asServed (s := s) (p := p) statement params
  have hmeets := (queueExec_meets hl.ledger statement params).at
  rw [hrun] at hmeets
  obtain ⟨hq, ho⟩ := hmeets
  generalize queueExec statement params p = r at *
  obtain ⟨o, p'⟩ := r
  dsimp only at hstream ha hseq hq ho ⊢
  have hunread : p'.unread = junk ++ core ms := by
    rw [unread, Conn.unread, hstream]
    exact hl.unread
  have hcut : p'.conn.stream.cut = none := by
    rw [hstream]
    exact hl.cut
  have hbegun : p.queueSeq ≠ 0 → p'.queueSeq ≠ 0 := fun _ => by
    rw [hseq]
    exact Nat.succ_ne_zero _
  cases o with
  | ok ticket =>
    refine ⟨_, s, junk, ms, ⟨ho.2, hunread, hl.bounded, hcut, ?_⟩, hclean.of_eq ha hbegun⟩
    refine hl.counted.imp (fun hc => ?_) fun hm => hq.malformed hm
    have hqueue : p'.expectations = p.expectations ++ [statement.kind.expectation] := by
      have h₁ := ho.2.queue
      have h₂ := hl.ledger.queue
      simp only [asServed] at h₁ h₂
      rw [h₁, h₂]
      simp
    rw [hqueue, hseq, ← hc, opCount, List.countP_append]
    cases statement <;> simp [StatementRef.kind, OpKind.expectation, opCount] <;> omega
  | err e =>
    exact ⟨_, s, junk, ms, ⟨ho.2, hunread, hl.bounded, hcut, .inr ho.1⟩, hclean.of_eq ha hbegun⟩
  | halt => exact ho.elim

/-! ### Sending -/

/-- The server's account of what was sent. -/
private theorem sent_asServed {f : Frontend} (h : Sent f p p') :
    Sent f (asServed s ms p) (asServed s
      (ms ++ (P.feed p.conn.stream.peer (p.buffers.writeBuffer ++ [f])).1) p') :=
  ⟨h.peer, rfl, h.log, rfl, h.writeBuffer⟩

private theorem Lag.dispatched {f : Frontend} {tail : List Expectation} {items' : List Item}
    {t' : Bool} (h : Lag start past items kinds t s junk ms p) (hd : Dispatched f tail p p')
    (htail : opCount tail = 0) (hwhole : ¬ Malformed p.buffers.writeBuffer)
    (hledger : Ledger start past items' [] t' (asServed s
      (ms ++ (P.feed p.conn.stream.peer (p.buffers.writeBuffer ++ [f])).1) p')) :
    Lag start past items' [] t' s junk
      (ms ++ (P.feed p.conn.stream.peer (p.buffers.writeBuffer ++ [f])).1) p' where
  ledger := hledger
  unread := by
    rw [ZeroPostgres.Pipeline.unread, ZeroPostgres.Conn.unread, hd.inbound, core_append,
      core_append, ← List.append_assoc, ← h.unread]
    rfl
  bounded := h.bounded
  cut := hd.cut
  counted := by
    left
    rw [opCount] at htail
    rw [hd.queue, hd.queueSeq, ← h.counted.resolve_right hwhole, opCount, List.countP_append,
      htail]
    rfl

theorem flush_traced (hP : P.NoCopy) (h : Traced served start past items kinds t p) :
    Closed (flush p).2 ∨ ∃ items' kinds' t',
      Traced served start past items' kinds' t' (flush p).2 := by
  obtain ⟨s, junk, ms, hl, hclean⟩ := h
  by_cases hw : p.buffers.writeBuffer = []
  · have hsame : (flush p).2 = p := by simp [flush, Act.bind_run, hw]
    rw [hsame]
    exact .inr ⟨items, kinds, t, s, junk, ms, hl, hclean⟩
  · obtain ⟨-, hd⟩ := (flush_dispatches hl.cut hw).at
    have hq : (flush p).2.expectations = p.expectations := by simpa using hd.queue
    have hsent : Sent .flush (asServed s ms p) (asServed s _ (flush p).2) :=
      sent_asServed hd.toSent
    have hpost := hl.ledger.sent_flush hP hsent hq
    refine Or.imp_right ?_ hpost
    rintro ⟨new, u, hframes, -, hledger⟩
    exact ⟨_, _, _, s, junk, _, hl.dispatched hd rfl hframes.not_malformed hledger,
      hclean.of_eq hd.aborted (by rw [hd.queueSeq]; exact id)⟩

theorem sync_traced (hP : P.NoCopy) (h : Traced served start past items kinds t p) :
    (sync p).1 = .ok () ∧ (Closed (sync p).2 ∨ ¬ Malformed p.buffers.writeBuffer ∧
      Dispatched .sync [.sync] p (sync p).2 ∧ ∃ items' t',
        Traced served start past items' [] t' (sync p).2) := by
  obtain ⟨s, junk, ms, hl, hclean⟩ := h
  obtain ⟨ho, hd⟩ := (sync_dispatches hl.cut).at
  have hsent : Sent .sync (asServed s ms p) (asServed s _ (sync p).2) := sent_asServed hd.toSent
  have hpost := hl.ledger.sent_sync hP hsent hd.queue
  refine ⟨ho, Or.imp_right ?_ hpost⟩
  rintro ⟨new, error, hframes, -, hledger⟩
  exact ⟨hframes.not_malformed, hd, _, _, s, junk, _,
    hl.dispatched hd rfl hframes.not_malformed hledger,
    hclean.of_eq hd.aborted (by rw [hd.queueSeq]; exact id)⟩

/-! ### Claims -/

/-- The entries behind what was consumed begin with the one at the front of the queue. -/
private theorem drop_past {item : Item} (h : past ++ item :: items <+: served) :
    served.drop past.length = item :: served.drop (past ++ [item]).length := by
  obtain ⟨more, rfl⟩ := h
  simp

/-- A Sync at the front of the queue: its ReadyForQuery is consumed, with what was left in front of
it. -/
private theorem consumeSync_traced {error : Option ServerError}
    (h : Traced served start past (.sync error :: items) [] t p) (hnone : error = none) :
    Act.Meets (do
      Act.modify fun p => { p with expectations := p.expectations.tail }
      consumeReadyForQuery
      setAborted false) p fun o p' =>
        o = .ok () ∧ Traced served start (past ++ [.sync error]) items [] t p' := by
  subst hnone
  obtain ⟨s, junk, ms, hl, hclean⟩ := h
  obtain ⟨reply, rest, s', hreply, hun, howes⟩ := hl.uncons
  cases hreply with
  | @sync _ status z hz =>
    have hjunk : Undisturbing junk := by
      rcases hclean.step with ⟨-, rfl⟩ | ⟨-, -, hjunk, -⟩
      · exact .nil
      · exact hjunk
    rw [List.append_assoc, List.singleton_append] at hun
    have hpast : Reaches consumeReadyForQuery { p with expectations := p.expectations.tail }
        (core rest) (.ok ()) := consumeReadyForQuery_past hjunk ⟨hz.1, hz.wellFormed⟩ hun hl.cut
    obtain ⟨p₁, hrun, hr, hun₁⟩ := hpast
    simp only [Act.meets_bind, Act.meets_modify, meets_setAborted]
    rw [Act.Meets, hrun]
    refine ⟨trivial, false, [], rest, hl.pop hr ?_ howes .nil rfl rfl rfl rfl, .inl ⟨rfl, rfl⟩, ?_⟩
    · rw [hun₁]
      rfl
    · intro ha
      cases ha

/-- The Syncs at the front of the queue are consumed. -/
theorem consumePendingSyncs_traced (h : Traced served start past items [] t p)
    (htold : past ++ items <+: served) (hsyncs : SyncsSucceed served) :
    Act.Meets consumePendingSyncs p fun o p' =>
      o = .ok () ∧ ∃ past' items', Traced served start past' items' [] t p' := by
  -- what is consumed was in the queue, so every Sync met succeeds
  let J (past items : List Item) (p : Pipeline P) : Prop :=
    Traced served start past items [] t p ∧ past ++ items <+: served
  have hone (past error items p) (h : J past (.sync error :: items) p) :
      Act.Meets (do
        Act.modify fun p => { p with expectations := p.expectations.tail }
        consumeReadyForQuery
        setAborted false) p fun o p' =>
          o = .ok () ∧ error = none ∧ J (past ++ [.sync error]) items p' := by
    have hnone : error = none := hsyncs (.sync error) (h.2.subset (by simp))
    refine (consumeSync_traced h.1 hnone).mono fun o p' ho => ?_
    obtain ⟨ho, ht⟩ := ho
    exact ⟨ho, hnone, ht, by simpa using h.2⟩
  have hqueue (past items p) (h : J past items p) :
      p.expectations = items.map Item.expectation ++ ([] : List OpKind).map OpKind.expectation := by
    obtain ⟨⟨s, junk, ms, hl, -⟩, -⟩ := h
    exact hl.ledger.queue
  have hloop := consumeSyncs_meets (J := J) (E := fun _ _ => False) (H := fun _ => False) [] hqueue
    (fun past error items p h => (hone past error items p h).mono fun o p' ho => by
      obtain ⟨rfl, ho⟩ := ho
      exact ho) items past p ⟨h, htold⟩
  refine .of_run_eq (y := consumeSyncs consumeReadyForQuery p.expectations) rfl
    (hloop.mono fun o p' ho => ?_)
  cases o with
  | ok u =>
    obtain ⟨m, items', -, -, hJ, -⟩ := ho
    exact ⟨rfl, _, _, hJ⟩
  | err e => exact ho.2.elim
  | halt => exact ho.elim

/-- The call is the claim of the next ticket of an aborted pipeline, and a Sync is at the front of
the queue. -/
def SkipsSync (p : Pipeline P) (c : PipelineCall) : Prop := p.aborted = true ∧ MeetsSync p c

instance (p : Pipeline P) (c : PipelineCall) : Decidable (SkipsSync p c) :=
  inferInstanceAs (Decidable (_ ∧ _))

/-- Where a claim leads: it does not return, or breaks the connection, or keeps the account. -/
def ClaimedOn (served : List Item) (start : List (Frontend × List RawMessage)) (t : Bool)
    (o : Outcome Error (List Callback)) (p' : Pipeline P) : Prop :=
  o = .halt ∨ p'.conn.broken = true ∨ ∃ past items, Traced served start past items [] t p'

/-- The end of a claim. -/
private theorem settle_traced (result : Except Error (List Callback))
    (h : Traced served start past items [] t p) (htold : past ++ items <+: served)
    (hsyncs : SyncsSucceed served) :
    Act.Meets (consumePendingSyncs >>= fun _ => Act.ofExcept result) p
      (ClaimedOn served start t) := by
  rw [Act.meets_bind]
  refine (consumePendingSyncs_traced h htold hsyncs).mono fun o p' ho => ?_
  obtain ⟨rfl, ho⟩ := ho
  cases result <;> exact .inr (.inr ho)

/-- The end of a claim on a broken connection. -/
private theorem settle_broken (result : Except Error (List Callback))
    (hb : p.conn.broken = true) :
    Act.Meets (consumePendingSyncs >>= fun _ => Act.ofExcept result) p
      (ClaimedOn served start t) := by
  have hkeeps : Keeps Marked
      (consumePendingSyncs >>= fun _ => Act.ofExcept result : Act Error (Pipeline P) _) :=
    consumePendingSyncs_keeps.bind fun _ => keeps_ofExcept _
  exact .inr (.inl (hkeeps.rel p hb))

/-- The claim of an aborted pipeline takes an entry off the queue and reads nothing for it. -/
private theorem claimFront_aborted (ticket : Ticket) (handler : Handler) (ha : p.aborted = true)
    (h : Traced served start past items [] t p) (htold : past ++ items <+: served)
    (hsyncs : SyncsSucceed served) (hfront : p.expectations.head? ≠ some .sync) :
    Act.Meets (claimFront ticket handler) p (ClaimedOn served start t) := by
  simp only [claimFront, Act.meets_bind, Act.meets_get]
  rw [if_pos ha]
  simp only [Act.meets_bind, Act.meets_modify, meets_popExpectation]
  obtain ⟨s, junk, ms, hl, hclean⟩ := h
  have hq : p.expectations = items.map Item.expectation :=
    hl.ledger.queue.trans (List.append_nil _)
  refine Act.meets_bind.mp ?_
  cases items with
  | nil =>
    have hempty : Traced served start past [] [] t
        { p with claimSeq := p.claimSeq + 1, expectations := p.expectations.tail } :=
      ⟨s, junk, ms, hl.of_eq (by simp [hq]) rfl rfl rfl, hclean.of_eq rfl id⟩
    exact settle_traced (.error pipelineAborted) hempty htold hsyncs
  | cons item items =>
    cases item with
    | sync error =>
      rw [hq] at hfront
      exact absurd rfl hfront
    | op kind fate =>
      obtain ⟨reply, rest, s', hreply, hun, howes⟩ := hl.uncons
      have hpopped : Lag start (past ++ [.op kind fate]) items [] t s' (junk ++ reply) rest
          { p with claimSeq := p.claimSeq + 1, expectations := p.expectations.tail } :=
        hl.pop (Reads.refl _) hun howes (hl.bounded.append hreply.bounded) rfl rfl rfl rfl
      refine settle_traced (.error pipelineAborted)
        ⟨s', junk ++ reply, rest, hpopped, ?_, fun _ => hclean.begun ha⟩ (by simpa using htold)
        hsyncs
      rcases hclean.step with ⟨hs, rfl⟩ | ⟨-, rfl, hjunk, hcalm⟩
      · rw [ha] at hs
        subst hs
        cases hreply with
        | skipped => exact .inl ⟨ha, rfl⟩
      · rw [drop_past htold] at hcalm
        obtain ⟨hundisturbing, rfl⟩ := hreply.undisturbing hcalm.1
        exact .inr ⟨ha, rfl, hjunk.append hundisturbing, hcalm.2⟩

/-- The claim of a pipeline that is not aborted reads the reply to the operation at the front. When
the client fails on its own side, the operations up to the next Sync have to be calm. -/
private theorem claimFront_running {kind : OpKind} {fate : Fate} (ticket : Ticket)
    (handler : Handler) (ha : p.aborted = false)
    (h : Traced served start past (.op kind fate :: items) [] t p)
    (hw : ¬ Malformed p.buffers.writeBuffer)
    (htold : past ++ .op kind fate :: items <+: served) (hsyncs : SyncsSucceed served)
    (hcalm : Pipeline.Delivers kind ticket handler fate ∨ Calm (served.drop past.length)) :
    Act.Meets (claimFront ticket handler) p (ClaimedOn served start t) := by
  obtain ⟨s, junk, ms, hl, hclean⟩ := h
  obtain ⟨hs, rfl⟩ : p.aborted = s ∧ junk = [] := by
    rcases hclean.step with hstep | ⟨ha', -⟩
    · exact hstep
    · rw [ha] at ha'
      cases ha'
  rw [ha] at hs
  subst hs
  obtain ⟨reply, rest, s', hreply, hun, howes⟩ := hl.uncons
  have hbegun : p.queueSeq ≠ 0 := by
    have hc := hl.counted.resolve_right hw
    have hq : p.expectations = kind.expectation :: (items.map Item.expectation ++ []) :=
      hl.ledger.queue
    rw [← hc, hq]
    cases kind <;> simp [opCount, OpKind.expectation]
  have htold' : (past ++ [.op kind fate]) ++ items <+: served := by simpa using htold
  have hun' : Pipeline.unread { p with expectations := p.expectations.tail } =
      reply ++ core rest := hun
  cases hreply with
  | @op _ _ _ hread =>
    have hq : p.expectations.head? = some kind.expectation := by
      rw [show p.expectations = kind.expectation :: (items.map Item.expectation ++ []) from
        hl.ledger.queue]
      rfl
    obtain ⟨c, rows, ending, rfl⟩ : ∃ c rows ending, fate = .ran c rows ending := by
      cases fate with
      | ran c rows ending => exact ⟨c, rows, ending, rfl⟩
      | skipped => exact absurd rfl hread.ne_skipped
    simp only [claimFront, Act.meets_bind, Act.meets_get]
    rw [if_neg (by simp [ha])]
    simp only [Act.meets_bind, meets_popExpectation, Act.meets_attempt]
    rw [hq]
    refine ((claimExpectation_meets hread ticket _ hun').and
      (claimExpectation_stops hread.bounded.2 hread.bounded.1 hun' hl.cut)).mono fun o p₁ ho => ?_
    obtain ⟨ho, hr, -, left, hleft, hun₁⟩ := ho
    -- what the claim has done to the account, with what it has left of the reply
    have popped (p' : Pipeline P) (hq : p'.expectations = p₁.expectations)
        (hn : p'.queueSeq = p₁.queueSeq) (hs : p'.conn.stream = p₁.conn.stream)
        (hw : p'.buffers.writeBuffer = p₁.buffers.writeBuffer) :
        Lag start (past ++ [.op kind (.ran c rows ending)]) items [] t ending.failed left rest
          p' :=
      hl.pop hr hun₁ howes (hread.bounded.2.of_suffix hleft) hq hn hs hw
    have hread_all (h : p₁.unread = core rest) : left = [] := by
      rw [h] at hun₁
      simpa using hun₁.symm
    cases o with
    | ok calls =>
      obtain ⟨hend, -, -, hun₂⟩ := ho
      have hf : ending.failed = false := by
        cases ending with
        | error e => exact absurd rfl (hend e)
        | _ => rfl
      simp only [Act.meets_modify]
      refine Act.meets_bind.mp (settle_traced (.ok calls)
        ⟨_, _, _, popped _ rfl rfl rfl rfl, .inl ⟨?_, hread_all hun₂⟩, ?_⟩ htold' hsyncs)
      · rw [hf]
        exact hr.aborted.trans ha
      · intro ha'
        cases ha'.symm.trans (hr.aborted.trans ha)
    | err e =>
      simp only [Act.meets_modify]
      refine Act.meets_bind.mp (settle_traced (.error e)
        ⟨_, _, _, popped _ rfl rfl rfl rfl, ?_, fun _ => ?_⟩ htold' hsyncs)
      · rcases ho with ⟨se, rfl, -, -, p₂, hr₂, hun₂, hp₂⟩ | ⟨-, hd⟩
        · obtain rfl : p₁ = p₂ := hp₂
          exact .inl ⟨rfl, hread_all hun₂⟩
        · have hcalm := hcalm.resolve_left hd
          rw [drop_past htold] at hcalm
          exact .inr ⟨rfl, hcalm.1, (hread.undisturbing hcalm.1).of_suffix hleft, hcalm.2⟩
      · exact fun hn => hbegun (hr.queueSeq.symm.trans hn)
    | halt => exact .inl rfl

/-- A claim with no operation at the front breaks the connection. -/
private theorem claimFront_breaks (ticket : Ticket) (handler : Handler) (ha : p.aborted = false)
    (hfront : p.expectations.head? = none ∨ p.expectations.head? = some .sync) :
    Act.Meets (claimFront ticket handler) p (ClaimedOn served start t) := by
  obtain ⟨text, hrun⟩ : ∃ text, (claimExpectation p.expectations.head? ticket handler :
      Act Error (Pipeline P) _) = Act.fail (.libraryBug text) := by
    rcases hfront with hq | hq <;> rw [hq] <;> exact ⟨_, rfl⟩
  simp only [claimFront, Act.meets_bind, Act.meets_get]
  rw [if_neg (by simp [ha])]
  simp only [Act.meets_bind, meets_popExpectation, Act.meets_attempt, hrun, Act.meets_fail,
    Act.meets_modify]
  exact Act.meets_bind.mp (settle_broken _ (by simp))

/-- A claim keeps the account of a pipeline, unless it does not return or breaks the connection. -/
theorem claimFront_traced (ticket : Ticket) (handler : Handler)
    (h : Traced served start past items [] t p) (hw : ¬ Malformed p.buffers.writeBuffer)
    (htold : past ++ items <+: served) (hsyncs : SyncsSucceed served)
    (hskip : p.aborted = true → p.expectations.head? ≠ some .sync)
    (hcalm : p.aborted = false → ∀ kind fate, items.head? = some (.op kind fate) →
      Pipeline.Delivers kind ticket handler fate ∨ Calm (served.drop past.length)) :
    Act.Meets (claimFront ticket handler) p (ClaimedOn served start t) := by
  have hq : p.expectations = items.map Item.expectation := by
    obtain ⟨s, junk, ms, hl, -⟩ := h
    exact hl.ledger.queue.trans (List.append_nil _)
  cases ha : p.aborted with
  | true => exact claimFront_aborted ticket handler ha h htold hsyncs (hskip ha)
  | false =>
    cases items with
    | nil => exact claimFront_breaks ticket handler ha (.inl (by rw [hq]; rfl))
    | cons item items =>
      cases item with
      | sync error => exact claimFront_breaks ticket handler ha (.inr (by rw [hq]; rfl))
      | op kind fate =>
        exact claimFront_running ticket handler ha h hw htold hsyncs (hcalm ha kind fate rfl)

/-! ### Programs -/

/-- The number of operations that were consumed. -/
def consumed (p : Pipeline P) : Nat := p.queueSeq - opCount p.expectations

/-- The claim of the next ticket of a pipeline that is not aborted can be delivered, or no operation
from the one it is for up to the next Sync fails. -/
def LeavesCalm (served : List Item) (p : Pipeline P) : PipelineCall → Prop
  | .claim _ ticket handler => p.aborted = false → ticket.seq = p.claimSeq →
      ∀ o ∈ (operations false served)[consumed p]?,
        Pipeline.Delivers o.kind ticket handler o.fate ∨ Calm (fromOp (consumed p) served)
  | _ => True

instance (served : List Item) (p : Pipeline P) : ∀ c, Decidable (LeavesCalm served p c)
  | .claim .. => inferInstanceAs (Decidable (_ → _))
  | .exec .. | .flush .. | .sync .. => .isTrue trivial

/-- The accounts of a run that ends in `p'` tell the beginning of `served`. -/
def Told (served : List Item) (start : List (Frontend × List RawMessage)) (p' : Pipeline P) :
    Prop :=
  ∀ past items kinds t p, Traced served start past items kinds t p → Follows p p' →
    past ++ items <+: served

/-- What the accounts tell is told by the log at the end. -/
theorem told_of_log {log : List (Frontend × List RawMessage)}
    (hlog : p.conn.stream.log <+: log) :
    Told (ZeroPostgres.served (log.drop start.length)) start p := by
  rintro past items kinds t p₁ ⟨s, junk, ms, hl, -⟩ hf
  exact hl.ledger.told (hf.log_grows.trans hlog)

/-- A claim of the next ticket, with what is queued sent before. -/
private theorem claim_traced (hP : P.NoCopy) {cut : Option Cut} {ticket : Ticket}
    {handler : Handler} (h : Traced served start past items kinds t p)
    (hseq : ticket.seq = p.claimSeq)
    (hopen : ¬ Closed (claimWithHandler ticket handler p).2)
    (htold : Told served start (claimWithHandler ticket handler p).2)
    (hsyncs : SyncsSucceed served) (hskip : ¬ SkipsSync p (.claim cut ticket handler))
    (hcalm : LeavesCalm served p (.claim cut ticket handler)) :
    ∃ t', ClaimedOn served start t' (claimWithHandler ticket handler p).1
      (claimWithHandler ticket handler p).2 := by
  -- where the claim of the entry at the front begins
  have front {p₁ : Pipeline P} {items₁ : List Item} {t₁ : Bool}
      (hrun : claimWithHandler ticket handler p = claimFront ticket handler p₁)
      (h₁ : Traced served start past items₁ [] t₁ p₁) (hw : ¬ Malformed p₁.buffers.writeBuffer)
      (ha : p₁.aborted = p.aborted) (hhead : p₁.expectations.head? = p.expectations.head?)
      (hconsumed : consumed p₁ = consumed p) :
      ∃ t', ClaimedOn served start t' (claimWithHandler ticket handler p).1
        (claimWithHandler ticket handler p).2 := by
    rw [hrun] at htold ⊢
    have hserved : past ++ items₁ <+: served :=
      htold past items₁ [] t₁ p₁ h₁ ((claimFront_follows ticket handler).rel p₁)
    have hpast : (operations false past).length = consumed p := by
      obtain ⟨s, junk, ms, hl, -⟩ := h₁
      have hc := hl.counted.resolve_right hw
      rw [← hconsumed, consumed, ← hc]
      simp
    refine ⟨t₁, (claimFront_traced ticket handler h₁ hw hserved hsyncs (fun ha' hq => ?_)
      fun ha' kind fate hitems => ?_).at⟩
    · exact hskip ⟨ha.symm.trans ha', hseq, hhead.symm.trans hq⟩
    · obtain ⟨rest, rfl⟩ : ∃ rest, items₁ = .op kind fate :: rest := by
        cases items₁ with
        | nil => cases hitems
        | cons item rest =>
          cases hitems
          exact ⟨rest, rfl⟩
      refine (hcalm (ha.symm.trans ha') hseq _ (operation_at hserved hpast)).imp_right fun hc => ?_
      have hsplit : past ++ served.drop past.length = served := by
        obtain ⟨more, rfl⟩ := hserved
        simp
      rw [← hsplit] at hc
      exact calm_of_fromOp hpast hc
  by_cases hw : p.buffers.writeBuffer = []
  · have hk : kinds = [] := by
      obtain ⟨s, junk, ms, hl, -⟩ := h
      exact hl.ledger.kinds_nil hw
    subst hk
    have hrun : claimWithHandler ticket handler p = claimFront ticket handler p := by
      simp [claimWithHandler_run hseq, hw]
    refine front hrun h ?_ rfl rfl rfl
    rw [hw]
    exact QueueFrames.nil.not_malformed
  · obtain ⟨ho, hpost⟩ := sync_traced hP h
    have hrun : claimWithHandler ticket handler p = claimFront ticket handler (sync p).2 := by
      rw [claimWithHandler_run hseq, if_pos hw, Act.bind_run]
      generalize sync p = r at ho ⊢
      obtain ⟨o, p₁⟩ := r
      obtain rfl : o = .ok () := ho
      rfl
    obtain ⟨hwhole, hd, items₁, t₁, h₁⟩ := hpost.resolve_left fun hclosed => hopen (by
      rw [hrun]
      exact ((claimFront_follows ticket handler).rel _).closed hclosed)
    have hne : p.expectations ≠ [] := by
      obtain ⟨s, junk, ms, hl, -⟩ := h
      intro hnil
      have hq : items.map Item.expectation ++ kinds.map OpKind.expectation = [] :=
        hl.ledger.queue.symm.trans hnil
      have hk : kinds = [] := List.map_eq_nil_iff.mp (List.append_eq_nil_iff.mp hq).2
      subst hk
      rcases hl.ledger.buffer with hb | hb
      · have hb : QueueFrames [] p.buffers.writeBuffer := hb
        generalize p.buffers.writeBuffer = fs at hb hw
        cases hb
        exact hw rfl
      · exact hwhole hb
    refine front hrun h₁ ?_ hd.aborted ?_ ?_
    · rw [hd.writeBuffer]
      exact QueueFrames.nil.not_malformed
    · rw [hd.queue, List.head?_append_of_ne_nil _ hne]
    · rw [consumed, hd.queue, hd.queueSeq, opCount, List.countP_append]
      rfl

/-- One call keeps the account of a pipeline, if it returns and leaves session and connection
alone. -/
theorem call_traced (hP : P.NoCopy) (c : PipelineCall)
    (h : Traced served start past items kinds t p) (hreturns : (runCall c p).1 ≠ none)
    (hopen : ¬ Closed (runCall c p).2) (hbroken : (runCall c p).2.conn.broken = false)
    (htold : Told served start (runCall c p).2) (hsyncs : SyncsSucceed served)
    (hskip : ¬ SkipsSync p c) (hcalm : LeavesCalm served p c) :
    ∃ past items kinds t, Traced served start past items kinds t (runCall c p).2 := by
  cases c with
  | exec statement params =>
    rw [runCall_snd (x := queueExec statement params) (f := .ticket) rfl]
    obtain ⟨kinds', h'⟩ := exec_traced h statement params
    exact ⟨_, _, _, _, h'⟩
  | flush cut =>
    rw [runCall_snd (x := flush) (f := fun _ => .done) rfl] at hopen ⊢
    obtain ⟨items', kinds', t', h'⟩ := (flush_traced hP h).resolve_left hopen
    exact ⟨_, _, _, _, h'⟩
  | sync cut =>
    rw [runCall_snd (x := sync) (f := fun _ => .done) rfl] at hopen ⊢
    obtain ⟨-, -, items', t', h'⟩ := (sync_traced hP h).2.resolve_left hopen
    exact ⟨_, _, _, _, h'⟩
  | claim cut ticket handler =>
    rw [runClaim_eq] at hreturns hopen hbroken htold ⊢
    by_cases hseq : ticket.seq = p.claimSeq
    · obtain ⟨t', hhalt | hb | ⟨past', items', h'⟩⟩ :=
        claim_traced hP h hseq hopen htold hsyncs hskip hcalm
      · simp [hhalt, Outcome.toExcept?] at hreturns
      · rw [hb] at hbroken
        cases hbroken
      · exact ⟨_, _, _, _, h'⟩
    · have hsame : (claimWithHandler ticket handler p).2 = p := by
        simp [claimWithHandler, Act.bind_run, checkSequence, hseq]
      rw [hsame]
      exact ⟨_, _, _, _, h⟩

/-- The calls of a program keep the mark of a broken connection. -/
private theorem after_marked (calls : List PipelineCall) (p : Pipeline P) :
    Marked p (runCall.after calls p) := by
  induction calls generalizing p with
  | nil => exact id
  | cons c calls ih => exact fun hb => ih _ (((call_keeps (R := Marked) c).rel p) hb)

/-- The run lemma: the calls of a program that leave session and connection alone keep the account.
The induction is on the calls. -/
theorem after_traced (hP : P.NoCopy) (calls : List PipelineCall)
    (h : Traced served start past items kinds t p) (hsyncs : SyncsSucceed served)
    (hreturns : Always runCall.step (fun p c => (runCall c p).1 ≠ none) p calls)
    (hopen : ¬ Closed (runCall.after calls p))
    (hbroken : (runCall.after calls p).conn.broken = false)
    (htold : Told served start (runCall.after calls p))
    (hskip : Always runCall.step (fun p c => ¬ SkipsSync p c) p calls)
    (hcalm : Always runCall.step (LeavesCalm served) p calls) :
    ∃ past items kinds t, Traced served start past items kinds t (runCall.after calls p) := by
  induction calls generalizing past items kinds t p with
  | nil => exact ⟨past, items, kinds, t, h⟩
  | cons c calls ih =>
    have hfollows : Follows (runCall c p).2 (runCall.after calls (runCall c p).2) :=
      (accounts hP []).after_follows calls _
    have hbroken' : (runCall c p).2.conn.broken = false := by
      rw [Bool.eq_false_iff]
      intro hb
      exact Bool.eq_false_iff.mp hbroken (after_marked calls _ hb)
    obtain ⟨past', items', kinds', t', h'⟩ := call_traced hP c h hreturns.1
      (fun hc => hopen (hfollows.closed hc)) hbroken'
      (fun _ _ _ _ _ hp hf => htold _ _ _ _ _ hp (IsTrans.trans (r := Conn.Follows) _ _ _ hf
        hfollows)) hsyncs hskip.1 hcalm.1
    exact ih h' (hreturns.2 _ rfl) hopen hbroken htold (hskip.2 _ rfl) (hcalm.2 _ rfl)

end Sending

end Sync.Pipeline

end ZeroPostgres
