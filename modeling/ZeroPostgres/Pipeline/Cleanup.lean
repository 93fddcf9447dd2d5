import ZeroPostgres.Pipeline.AsyncMessages
import ZeroPostgres.Pipeline.Remainder

/-!
# What cleanup leaves behind

`cleanup_inner` of the blocking client, `src/src/sync/pipeline/mod.rs:103–135`, drains the queue of
a pipeline and ignores what fails on the way. `pipeline_aligned` says when a connection that was not
marked as broken can be used again behind it: no claim of an aborted pipeline may drop a Sync
unread, and the drain has to find the messages it waits for.
-/

namespace ZeroPostgres

/-- An entry that is an operation which the server ran and which failed. -/
def Item.failed : Item → Bool
  | .op _ fate => fate.failed
  | .sync _ => false

namespace Sync.Pipeline

open Act ZeroPostgres.Pipeline

variable {P : Peer} {start : List (Frontend × List RawMessage)} {past items : List Item}
variable {kinds : List OpKind} {t s : Bool} {junk ms : List RawMessage} {p p' : Pipeline P}

/-! ### What can be drained -/

/-- The ticket a drain claims operations with: it keeps no statement. -/
def unclaimed : Ticket := ⟨0, none⟩

/-- The drain of a pipeline that is not aborted finds what it waits for. `left` says that something
is left unread in front of the entries: the reply to an operation whose rows the drain cannot read,
and nothing behind it may fail before the next Sync. A failed operation stands alone. -/
def drains : Bool → List Item → Bool
  | left, [] => !left
  | _, .sync _ :: items => drains false items
  | left, .op kind fate :: items =>
    let whole := decide (Pipeline.Delivers kind unclaimed DropHandler fate)
    if fate.failed then !left && whole && items.head?.any (·.kind?.isNone) && drains false items
    else drains (left || !whole) items

/-- What waits in the queue of a pipeline can be drained. The drain of an aborted pipeline reads
nothing for operations, so that none of them may fail, and the last entry has to be a Sync. -/
def Drainable (aborted : Bool) (items : List Item) : Prop :=
  if aborted then (∀ item ∈ items, item.failed = false) ∧
    items.getLast?.any (·.kind?.isNone) = true
  else drains false items = true

instance (aborted : Bool) (items : List Item) : Decidable (Drainable aborted items) :=
  inferInstanceAs (Decidable (if aborted then (∀ item ∈ items, item.failed = false) ∧
    items.getLast?.any (·.kind?.isNone) = true else drains false items = true))

/-! ### The drain of an aborted pipeline -/

/-- Only what Syncs are answered with is read. The rest is in front of them. -/
theorem drainAborted_meets (h : Lag start past items [] t s junk ms p)
    (hjunk : Undisturbing junk) (hcalm : ∀ item ∈ items, item.failed = false)
    (hsyncs : SyncsSucceed items)
    (hend : ∀ item, items.getLast? = some item → item.kind? = none)
    (hnil : items = [] → s = false ∧ junk = []) :
    Act.Meets (drainAborted p.expectations) p fun o p' =>
      o = .ok () ∧ ∃ past ms, Lag start past [] [] t false [] ms p' := by
  have hq : p.expectations = items.map Item.expectation :=
    h.ledger.queue.trans (List.append_nil _)
  rw [hq]
  induction items generalizing past s junk ms p with
  | nil =>
    obtain ⟨rfl, rfl⟩ := hnil rfl
    exact ⟨rfl, past, ms, h⟩
  | cons item items ih =>
    obtain ⟨reply, rest, s', hreply, hun, howes⟩ := h.uncons
    have hcalm' : ∀ item ∈ items, item.failed = false := fun x hx =>
      hcalm x (List.mem_cons_of_mem _ hx)
    have hsyncs' : SyncsSucceed items := fun x hx => hsyncs x (List.mem_cons_of_mem _ hx)
    have hend' (x : Item) (hx : items.getLast? = some x) : x.kind? = none := by
      refine hend x ?_
      rw [List.getLast?_cons, hx]
      rfl
    have htail : p.expectations.tail = items.map Item.expectation := by
      rw [hq]
      rfl
    cases item with
    | op kind fate =>
      have hf : fate.failed = false := hcalm _ List.mem_cons_self
      have hundisturbing : Undisturbing reply := by
        cases hreply with
        | skipped => exact .nil
        | op hr => exact hr.undisturbing hf
      have hpopped : Lag start (past ++ [.op kind fate]) items [] t s' (junk ++ reply) rest
          { p with expectations := p.expectations.tail } :=
        h.pop (Reads.refl _) hun howes (h.bounded.append hreply.bounded) rfl rfl rfl rfl
      have hrun : drainAborted (((.op kind fate : Item) :: items).map Item.expectation) p =
          drainAborted (items.map Item.expectation)
            { p with expectations := p.expectations.tail } := by
        rw [htail]
        cases kind <;> simp [drainAborted, Item.expectation, OpKind.expectation, Act.bind_run]
      rw [Act.Meets, hrun]
      refine ih hpopped (hjunk.append hundisturbing) hcalm' hsyncs' hend' ?_ htail
      rintro rfl
      cases hend _ rfl
    | sync error =>
      have hnone : error = none := hsyncs _ List.mem_cons_self
      subst hnone
      cases hreply with
      | @sync _ status z hz =>
        rw [List.append_assoc, List.singleton_append] at hun
        have hpast : Reaches consumeReadyForQuery { p with expectations := p.expectations.tail }
            (core rest) (.ok ()) := consumeReadyForQuery_past hjunk ⟨hz.1, hz.wellFormed⟩ hun h.cut
        obtain ⟨p₁, hconsume, hr, hun₁⟩ := hpast
        have hpopped : Lag start (past ++ [.sync none]) items [] t false [] rest p₁ :=
          h.pop hr hun₁ howes .nil rfl rfl rfl rfl
        have hrun : drainAborted (((.sync none : Item) :: items).map Item.expectation) p =
            drainAborted (items.map Item.expectation) p₁ := by
          rw [htail] at hconsume
          simp [drainAborted, Item.expectation, Act.bind_run, Act.attempt_run, hconsume]
        rw [Act.Meets, hrun]
        exact ih hpopped .nil hcalm' hsyncs' hend' (fun _ => ⟨rfl, rfl⟩)
          (hr.expectations.trans htail)

/-! ### The drain of everything queued -/

/-- The drain of one operation is a claim of it, and what it fails with is ignored. -/
private theorem drainExpectation_op (kind : OpKind) :
    (drainExpectation kind.expectation : Act Error (Pipeline P) Unit) = (do
      let _ ← Act.attempt (claimExpectation (some kind.expectation) unclaimed DropHandler)
      return ()) := by
  funext p
  cases kind with
  | sql =>
    simp only [drainExpectation, OpKind.expectation, claimExpectation, Act.bind_run,
      Act.attempt_run]
    rcases claimParseBindExecInner DropHandler p with ⟨_ | _ | _, p'⟩ <;> rfl
  | prepared =>
    simp only [drainExpectation, OpKind.expectation, claimExpectation, unclaimed, Act.bind_run,
      Act.attempt_run]
    rcases claimBindExecInner DropHandler none p with ⟨_ | _ | _, p'⟩ <;> rfl

/-- The drain of an operation that the server has run: its reply is read to the end, or what is
left of it and of `junk` disturbs nothing. -/
private theorem drainOp_meets {kind : OpKind} {fate : Fate} {reply rest : List RawMessage}
    (hread : Reading kind.first fate reply) (hb : Bounded junk) (hjunk : Undisturbing junk)
    (hun : p.unread = junk ++ reply ++ rest) (hcut : p.conn.stream.cut = none)
    (hwhole : fate.failed = true → junk = [] ∧ Pipeline.Delivers kind unclaimed DropHandler fate) :
    Act.Meets (drainExpectation kind.expectation) p fun o p' =>
      o = .ok () ∧ Reads p p' ∧ ∃ left, p'.unread = left ++ rest ∧ Bounded left ∧
        Undisturbing left ∧
        (junk = [] → Pipeline.Delivers kind unclaimed DropHandler fate → left = []) := by
  obtain ⟨c, rows, ending, rfl⟩ : ∃ c rows ending, fate = .ran c rows ending := by
    cases fate with
    | ran c rows ending => exact ⟨c, rows, ending, rfl⟩
    | skipped => exact absurd rfl hread.ne_skipped
  have hbounded := hb.append hread.bounded.2
  have hstops : Act.Meets (claimExpectation (some kind.expectation) unclaimed DropHandler) p
      (Stopped _ (junk ++ reply) rest p) :=
    claimExpectation_stops hbounded (by simp [hread.bounded.1]) hun hcut
  rw [drainExpectation_op, Act.meets_bind, Act.meets_attempt]
  by_cases hall : junk = [] ∧ Pipeline.Delivers kind unclaimed DropHandler (.ran c rows ending)
  · obtain ⟨rfl, hd⟩ := hall
    refine ((claimExpectation_meets hread unclaimed p hun).and hstops).mono fun o p₁ ho => ?_
    obtain ⟨ho, hr, hreturns, -⟩ := ho
    have hend : p₁.unread = rest := by
      cases o with
      | ok calls => exact ho.2.2.2
      | err e =>
        rcases ho with ⟨se, -, -, -, p₂, -, hun₂, hp₂⟩ | ⟨-, hn⟩
        · obtain rfl : p₁ = p₂ := hp₂
          exact hun₂
        · exact absurd hd hn
      | halt => exact absurd rfl (hreturns (by simp [unclaimed]))
    have hleft : ∃ left, p₁.unread = left ++ rest ∧ Bounded left ∧ Undisturbing left ∧
        (([] : List RawMessage) = [] → Pipeline.Delivers kind unclaimed DropHandler
          (.ran c rows ending) → left = []) := ⟨[], hend, .nil, .nil, fun _ _ => rfl⟩
    cases o with
    | ok calls => exact ⟨rfl, hr, hleft⟩
    | err e => exact ⟨rfl, hr, hleft⟩
    | halt => exact absurd rfl (hreturns (by simp [unclaimed]))
  · have hf : Fate.failed (.ran c rows ending) = false := by
      rw [Bool.eq_false_iff]
      exact fun hf => hall (hwhole hf)
    refine hstops.mono fun o p₁ ho => ?_
    obtain ⟨hr, hreturns, left, hleft, hun₁⟩ := ho
    have hrest : ∃ left, p₁.unread = left ++ rest ∧ Bounded left ∧ Undisturbing left ∧
        (junk = [] → Pipeline.Delivers kind unclaimed DropHandler (.ran c rows ending) →
          left = []) :=
      ⟨left, hun₁, hbounded.of_suffix hleft, (hjunk.append (hread.undisturbing hf)).of_suffix hleft,
        fun hj hd => absurd ⟨hj, hd⟩ hall⟩
    cases o with
    | ok calls => exact ⟨rfl, hr, hrest⟩
    | err e => exact ⟨rfl, hr, hrest⟩
    | halt => exact absurd rfl (hreturns (by simp [unclaimed]))

/-- Behind an operation that failed and before the next Sync, nothing waits and nothing is left. -/
structure Drainage (left : Bool) (items : List Item) (s : Bool) (junk : List RawMessage) :
    Prop where
  undisturbing : Undisturbing junk
  whole : left = false → junk = []
  synced : s = true → left = false ∧ items.head?.any (·.kind?.isNone) = true

/-- Everything that the server sent is read. The induction is on the queue. -/
theorem drainAll_meets {left : Bool} (h : Lag start past items [] t s junk ms p)
    (hd : Drainage left items s junk) (hdrains : drains left items = true)
    (hsyncs : SyncsSucceed items) :
    Act.Meets (drainAll p.expectations) p fun o p' =>
      o = .ok () ∧ ∃ past ms, Lag start past [] [] t false [] ms p' := by
  have hq : p.expectations = items.map Item.expectation :=
    h.ledger.queue.trans (List.append_nil _)
  rw [hq]
  induction items generalizing past s junk ms p left with
  | nil =>
    have hleft : left = false := by simpa [drains] using hdrains
    obtain rfl : s = false := by
      rw [Bool.eq_false_iff]
      intro hs
      cases (hd.synced hs).2
    obtain rfl := hd.whole hleft
    exact ⟨rfl, past, ms, h⟩
  | cons item items ih =>
    obtain ⟨reply, rest, s', hreply, hun, howes⟩ := h.uncons
    have hsyncs' : SyncsSucceed items := fun x hx => hsyncs x (List.mem_cons_of_mem _ hx)
    have htail : p.expectations.tail = items.map Item.expectation := by
      rw [hq]
      rfl
    cases item with
    | op kind fate =>
      obtain rfl : s = false := by
        rw [Bool.eq_false_iff]
        intro hs
        cases (hd.synced hs).2
      cases hreply with
      | op hread =>
        have hskip : fate.skipping = fate.failed := by
          cases fate with
          | ran => rfl
          | skipped => exact absurd rfl hread.ne_skipped
        have hrun (p₁ : Pipeline P) (hdrain : drainExpectation kind.expectation
            { p with expectations := p.expectations.tail } = (.ok (), p₁)) :
            drainAll (((.op kind fate : Item) :: items).map Item.expectation) p =
              drainAll (items.map Item.expectation) p₁ := by
          rw [htail] at hdrain
          simp [drainAll, Item.expectation, Act.bind_run, hdrain]
        have hwhole (hf : fate.failed = true) :
            junk = [] ∧ Pipeline.Delivers kind unclaimed DropHandler fate := by
          simp only [drains, hf, if_true, Bool.and_eq_true, Bool.not_eq_true',
            decide_eq_true_eq] at hdrains
          exact ⟨hd.whole hdrains.1.1.1, hdrains.1.1.2⟩
        have hdrain := (drainOp_meets (p := { p with expectations := p.expectations.tail }) hread
          h.bounded hd.undisturbing hun h.cut hwhole).at
        generalize hr : drainExpectation kind.expectation
          { p with expectations := p.expectations.tail } = r at hdrain
        obtain ⟨o, p₁⟩ := r
        obtain ⟨rfl, hreads, left', hun₁, hbounded, hundisturbing, hall⟩ := hdrain
        have hpopped : Lag start (past ++ [.op kind fate]) items [] t fate.skipping left' rest p₁ :=
          h.pop hreads hun₁ howes hbounded rfl rfl rfl rfl
        rw [Act.Meets, hrun p₁ hr]
        cases hf : fate.failed with
        | true =>
          simp only [drains, hf, if_true, Bool.and_eq_true, Bool.not_eq_true',
            decide_eq_true_eq] at hdrains
          obtain ⟨⟨⟨hleft, hdelivers⟩, hnext⟩, hrest⟩ := hdrains
          obtain rfl := hall (hd.whole hleft) hdelivers
          exact ih hpopped ⟨.nil, fun _ => rfl, fun _ => ⟨rfl, hnext⟩⟩ hrest hsyncs'
            (hreads.expectations.trans htail)
        | false =>
          simp only [drains, hf, Bool.false_eq_true, if_false] at hdrains
          refine ih hpopped ⟨hundisturbing, fun hl => ?_, fun hs => ?_⟩ hdrains hsyncs'
            (hreads.expectations.trans htail)
          · simp only [Bool.or_eq_false_iff, Bool.not_eq_false', decide_eq_true_eq] at hl
            exact hall (hd.whole hl.1) hl.2
          · rw [hskip, hf] at hs
            cases hs
    | sync error =>
      have hnone : error = none := hsyncs _ List.mem_cons_self
      subst hnone
      cases hreply with
      | @sync _ status z hz =>
        rw [List.append_assoc, List.singleton_append] at hun
        have hpast : Reaches consumeReadyForQuery { p with expectations := p.expectations.tail }
            (core rest) (.ok ()) :=
          consumeReadyForQuery_past hd.undisturbing ⟨hz.1, hz.wellFormed⟩ hun h.cut
        obtain ⟨p₁, hconsume, hr, hun₁⟩ := hpast
        have hpopped : Lag start (past ++ [.sync none]) items [] t false [] rest p₁ :=
          h.pop hr hun₁ howes .nil rfl rfl rfl rfl
        have hrun : drainAll (((.sync none : Item) :: items).map Item.expectation) p =
            drainAll (items.map Item.expectation) p₁ := by
          rw [htail] at hconsume
          simp [drainAll, drainExpectation, Item.expectation, Act.bind_run, Act.attempt_run,
            hconsume]
        rw [Act.Meets, hrun]
        exact ih hpopped ⟨.nil, fun _ => rfl, fun hs => by cases hs⟩ hdrains hsyncs'
          (hr.expectations.trans htail)

/-! ### Cleanup -/

/-- The pipeline when its cleanup begins to drain the queue: what was not sent has gone out, and the
Sync that cleanup queues. -/
def atDrain (p : Pipeline P) : Pipeline P :=
  if p.queueSeq = 0 ∧ p.expectations = [] then p
  else if p.buffers.writeBuffer ≠ [] ∨ .sync ∉ p.expectations then (sync p).2
  else p

/-- What the server did for the operations and Syncs of a pipeline over `c`. -/
def servedFor (c : Conn P) (p : Pipeline P) : List Item :=
  served (p.conn.stream.log.drop c.stream.log.length)

/-- What it did for those that wait in the queue. -/
def waiting (c : Conn P) (p : Pipeline P) : List Item :=
  (servedFor c p).drop ((servedFor c p).length - p.expectations.length)

/-- A pipeline with nothing left to be read and nothing in its queue is over an aligned
connection. -/
private theorem Lag.aligned (h : Lag start past [] [] t false [] ms p) : p.conn.Aligned := by
  have howes : Owes false [] (core ms) t := h.ledger.owes
  have hun : p.unread = core ms := h.unread
  generalize core ms = l at howes hun
  cases howes with
  | nil => exact ⟨hun, h.ledger.mode⟩

/-- The queue of an account holds what is told last. -/
private theorem Lag.waiting_eq {c : Conn P} (h : Lag c.stream.log past items [] t s junk ms p) :
    servedFor c p = past ++ items ∧ waiting c p = items := by
  obtain ⟨log, _, hlog, hserves, -⟩ := h.ledger.history
  have hlog : p.conn.stream.log = c.stream.log ++ log := hlog
  have hserved : servedFor c p = past ++ items := by
    rw [servedFor, hlog, List.drop_left, ← List.append_nil log, hserves []]
    exact List.append_nil _
  have hq : p.expectations = items.map Item.expectation :=
    h.ledger.queue.trans (List.append_nil _)
  refine ⟨hserved, ?_⟩
  rw [waiting, hserved, hq]
  simp

/-- The drain of a pipeline, and what is left behind it. -/
private theorem drain_aligned {c : Conn P} {served : List Item}
    (h : Traced served c.stream.log past items [] t p) (hsyncs : SyncsSucceed (servedFor c p))
    (hdrain : Drainable p.aborted (waiting c p)) :
    Act.Meets (if p.aborted then drainAborted p.expectations else drainAll p.expectations) p
      fun o p' => o = .ok () ∧ p'.conn.Aligned := by
  obtain ⟨s, junk, ms, hl, hclean⟩ := h
  obtain ⟨hserved, hwaiting⟩ := hl.waiting_eq
  rw [hwaiting] at hdrain
  have hsyncs' : SyncsSucceed items := fun item hi => hsyncs item (by
    rw [hserved]
    exact List.mem_append_right _ hi)
  cases ha : p.aborted with
  | true =>
    rw [ha, Drainable, if_pos rfl] at hdrain
    have hjunk : Undisturbing junk := by
      rcases hclean.step with ⟨-, rfl⟩ | ⟨-, -, hjunk, -⟩
      · exact .nil
      · exact hjunk
    refine (drainAborted_meets hl hjunk hdrain.1 hsyncs' (fun item hitem => ?_) ?_).mono
      fun o p' ho => ?_
    · have hany := hdrain.2
      rw [hitem] at hany
      simpa using hany
    · rintro rfl
      cases hdrain.2
    · obtain ⟨ho, past', ms', hl'⟩ := ho
      exact ⟨ho, hl'.aligned⟩
  | false =>
    rw [ha, Drainable, if_neg (by simp)] at hdrain
    obtain ⟨rfl, rfl⟩ : s = false ∧ junk = [] := by
      rcases hclean.step with ⟨hs, hj⟩ | ⟨ha', -⟩
      · exact ⟨hs.symm.trans ha, hj⟩
      · rw [ha] at ha'
        cases ha'
    refine (drainAll_meets hl ⟨.nil, fun _ => rfl, fun hs => by cases hs⟩ hdrain hsyncs').mono
      fun o p' ho => ?_
    obtain ⟨ho, past', ms', hl'⟩ := ho
    exact ⟨ho, hl'.aligned⟩

/-- What cleanup does once everything has gone out. -/
private theorem drain_run (q : Pipeline P) : (do
    let p ← Act.get
    if p.aborted then drainAborted p.expectations else drainAll p.expectations
    Act.modify fun p => { p with queueSeq := 0, claimSeq := 0, aborted := false } :
      Act Error (Pipeline P) Unit) q =
    ((if q.aborted then drainAborted q.expectations else drainAll q.expectations) >>= fun _ =>
      Act.modify fun p => { p with queueSeq := 0, claimSeq := 0, aborted := false }) q := by
  rw [Act.bind_run, Act.get_run]
  by_cases ha : q.aborted = true
  · simp only [if_pos ha]
  · simp only [if_neg ha]

/-- Cleanup returns and leaves an aligned connection behind a pipeline whose account is in order. -/
theorem cleanup_aligned (hP : P.NoCopy) {c : Conn P} {served : List Item}
    (h : Traced served c.stream.log past items kinds t p) (hopen : ¬ Closed (atDrain p))
    (hsyncs : SyncsSucceed (servedFor c (atDrain p)))
    (hdrain : Drainable (atDrain p).aborted (waiting c (atDrain p))) :
    Act.Meets cleanup p fun o p' => o = .ok () ∧ p'.conn.Aligned := by
  by_cases hidle : p.queueSeq = 0 ∧ p.expectations = []
  · simp only [cleanup, Act.meets_bind, Act.meets_get, hidle, and_self, if_true]
    obtain ⟨s, junk, ms, hl, hclean⟩ := h
    have hq : items.map Item.expectation ++ kinds.map OpKind.expectation = [] :=
      hl.ledger.queue.symm.trans hidle.2
    obtain ⟨hitems, hkinds⟩ := List.append_eq_nil_iff.mp hq
    obtain rfl := List.map_eq_nil_iff.mp hitems
    obtain rfl := List.map_eq_nil_iff.mp hkinds
    have ha : p.aborted = false := by
      rw [Bool.eq_false_iff]
      exact fun ha => hclean.begun ha hidle.1
    obtain ⟨rfl, rfl⟩ : s = false ∧ junk = [] := by
      rcases hclean.step with ⟨hs, hj⟩ | ⟨ha', -⟩
      · exact ⟨hs.symm.trans ha, hj⟩
      · rw [ha] at ha'
        cases ha'
    exact ⟨rfl, hl.aligned⟩
  · -- what was queued goes out first
    have hsent : ∃ items' t', Traced served c.stream.log past items' [] t' (atDrain p) ∧
        cleanup p = ((if (atDrain p).aborted then drainAborted (atDrain p).expectations
            else drainAll (atDrain p).expectations) >>= fun _ =>
          Act.modify fun p => { p with queueSeq := 0, claimSeq := 0, aborted := false })
            (atDrain p) := by
      by_cases hsync : p.buffers.writeBuffer ≠ [] ∨ .sync ∉ p.expectations
      · have hq : atDrain p = (sync p).2 := by rw [atDrain, if_neg hidle, if_pos hsync]
        obtain ⟨ho, hpost⟩ := sync_traced hP h
        rw [hq] at hopen ⊢
        obtain ⟨-, -, items', t', h'⟩ := hpost.resolve_left hopen
        refine ⟨items', t', h', ?_⟩
        rw [cleanup, Act.bind_run, Act.get_run]
        simp only [hidle, if_false]
        rw [Act.bind_run, if_pos hsync, Act.bind_run, Act.attempt_run]
        generalize sync p = r at ho ⊢
        obtain ⟨o, p₁⟩ := r
        obtain rfl : o = .ok () := ho
        exact drain_run p₁
      · have hq : atDrain p = p := by rw [atDrain, if_neg hidle, if_neg hsync]
        have hk : kinds = [] := by
          obtain ⟨s, junk, ms, hl, -⟩ := h
          exact hl.ledger.kinds_nil (not_not.mp fun hw => hsync (.inl hw))
        subst hk
        rw [hq]
        refine ⟨items, t, h, ?_⟩
        rw [cleanup, Act.bind_run, Act.get_run]
        simp only [hidle, if_false]
        rw [Act.bind_run, if_neg hsync]
        exact drain_run p
    obtain ⟨items', t', h', hrun⟩ := hsent
    rw [Act.Meets, hrun]
    refine (Act.meets_bind (Q := fun o (p' : Pipeline P) => o = .ok () ∧ p'.conn.Aligned)).mpr ?_
    refine (drain_aligned h' hsyncs hdrain).mono fun o p' ho => ?_
    obtain ⟨rfl, ho⟩ := ho
    exact ⟨rfl, ho⟩

/-- The calls of a closure that returns, one after the other. -/
private theorem runCalls_returns {calls : List PipelineCall}
    (h : (runCalls calls p).1.returned = true) :
    (∃ results, runCalls calls p = (.ok results, runCall.after calls p)) ∧
      Always runCall.step (fun p c => (runCall c p).1 ≠ none) p calls := by
  induction calls generalizing p with
  | nil => exact ⟨⟨[], rfl⟩, trivial⟩
  | cons c calls ih =>
    simp only [runCalls, Act.bind_run, Act.attempt_run] at h ⊢
    have hnext : runCall.after (c :: calls) p = runCall.after calls (call c p).2 := rfl
    have halways : Always runCall.step (fun p c => (runCall c p).1 ≠ none) p (c :: calls) ↔
        (call c p).1.toExcept? ≠ none ∧
          Always runCall.step (fun p c => (runCall c p).1 ≠ none) (call c p).2 calls :=
      and_congr_right fun _ => ⟨fun h => h _ rfl, fun h _ hs => by cases hs; exact h⟩
    rw [hnext, halways]
    -- the calls behind one that returned
    have rest (result : Except Error CallResult) (p₁ : Pipeline P)
        (h : ((runCalls calls >>= fun results => pure (result :: results)) p₁).1.returned = true) :
        (∃ results, (runCalls calls >>= fun results => pure (result :: results)) p₁ =
          (.ok results, runCall.after calls p₁)) ∧
          Always runCall.step (fun p c => (runCall c p).1 ≠ none) p₁ calls := by
      rw [Act.bind_run] at h ⊢
      have hrest : (runCalls calls p₁).1.returned = true := by
        generalize runCalls calls p₁ = r at h
        obtain ⟨_ | _ | _, p₂⟩ := r
        · rfl
        · rfl
        · cases h
      obtain ⟨⟨results, hresults⟩, halways⟩ := ih hrest
      rw [hresults]
      exact ⟨⟨result :: results, rfl⟩, halways⟩
    generalize call c p = r at h ⊢
    obtain ⟨_ | _ | _, p₁⟩ := r
    · obtain ⟨hresults, halways⟩ := rest _ p₁ h
      exact ⟨hresults, by simp [Outcome.toExcept?], halways⟩
    · obtain ⟨hresults, halways⟩ := rest _ p₁ h
      exact ⟨hresults, by simp [Outcome.toExcept?], halways⟩
    · cases h

/-- The run of a closure that returns, and what waits at its end, are as cleanup needs them. -/
structure Cleanable (calls : List PipelineCall) (c : Conn P) : Prop where
  returns : (runCalls calls (new c)).1.returned = true
  session : (atDrain (runCall.after calls (new c))).conn.session.mode ≠ .closed
  syncs : SyncsSucceed (servedFor c (atDrain (runCall.after calls (new c))))
  skips : Always runCall.step (fun p c => ¬ SkipsSync p c) (new c) calls
  calm : Always runCall.step
    (LeavesCalm (servedFor c (atDrain (runCall.after calls (new c))))) (new c) calls
  drains : Drainable (atDrain (runCall.after calls (new c))).aborted
    (waiting c (atDrain (runCall.after calls (new c))))

/-- A pipeline on an aligned connection marks it as broken, or returns and leaves it aligned. -/
theorem pipeline_aligned (hP : P.NoCopy) (c : Conn P) (calls : List PipelineCall)
    (haligned : c.Aligned) (hcut : c.stream.cut = none) (hok : Cleanable calls c) :
    (Sync.pipeline calls c).2.broken = true ∨
      (Sync.pipeline calls c).1 = .ok () ∧ (Sync.pipeline calls c).2.Aligned := by
  obtain ⟨⟨results, hcalls⟩, hreturns⟩ := runCalls_returns hok.returns
  have hrun : Sync.pipeline calls c = ((cleanup (runCall.after calls (new c))).1,
      (cleanup (runCall.after calls (new c))).2.conn) := by
    simp only [Sync.pipeline, Act.bind_run, hcalls]
  rw [hrun]
  have hkept : Marked (runCall.after calls (new c)) (cleanup (runCall.after calls (new c))).2 :=
    (cleanup_keeps (R := Marked) ZeroPostgres.Pipeline.reset).rel _
  cases hbroken : (runCall.after calls (new c)).conn.broken with
  | true => exact .inl (hkept hbroken)
  | false =>
    right
    have hgrows : Follows (runCall.after calls (new c))
        (atDrain (runCall.after calls (new c))) := by
      unfold atDrain
      split
      · exact .of_eq rfl rfl
      · split
        · exact (sync_keeps (R := Follows)).rel _
        · exact .of_eq rfl rfl
    have hnew : Traced (servedFor c (atDrain (runCall.after calls (new c)))) c.stream.log [] [] []
        false (new c) :=
      ⟨false, [], [], ⟨⟨rfl, .nil, haligned.2, .inl .nil, [], [], by simp [asServed, new], .nil,
        .nil⟩, haligned.1, .nil, hcut, .inl rfl⟩, .inl ⟨rfl, rfl⟩, fun ha => by cases ha⟩
    obtain ⟨past, items, kinds, t, h⟩ := after_traced hP calls hnew hok.syncs hreturns
      (fun hclosed => hok.session (hgrows.closed hclosed)) hbroken (told_of_log hgrows.log_grows)
      hok.skips hok.calm
    exact (cleanup_aligned hP h hok.session hok.syncs hok.drains).at

/-- A server that rejects FAIL and has two rows for SELECT. -/
def selecting : Peer := Reference.scripted fun sql =>
  if sql = "FAIL" then .fails else if sql = "SELECT" then .select 2 else .command

/-- A connection to it. -/
def connected : Conn selecting := .fresh Reference.start {}

/-- The connection with a statement prepared. -/
def prepared : Conn selecting := ((Operation.prepareTyped "SELECT" []).run connected).2

/-- A handler that takes no rows. -/
def rejectRows : Handler where
  accept
    | .row .. :: _ => .error (.decode "row")
    | _ => .ok ()

/-- A claim that fails on a row and one behind it in the batch, and operations that nobody claims:
one that fails, one whose rows the drain cannot read, and one behind it. -/
def abandoned : List PipelineCall :=
  [.exec (.sql "SELECT") .none, .exec (.sql "NEXT") .none, .sync none,
    .claim none ⟨0, none⟩ rejectRows, .claim none ⟨1, none⟩ DropHandler,
    .exec (.sql "FAIL") .none, .sync none, .exec (.prepared ⟨1, [], none⟩) .none,
    .exec (.sql "NEXT") .none]

theorem pipeline_aligned_abandoned :
    (Sync.pipeline abandoned prepared).2.broken = true ∨
      (Sync.pipeline abandoned prepared).1 = .ok () ∧
        (Sync.pipeline abandoned prepared).2.Aligned :=
  pipeline_aligned (P := selecting) (Reference.peer_noCopy _) prepared abandoned
    (by decide +kernel) (by decide +kernel)
    ⟨by decide +kernel, by decide +kernel, by decide +kernel, by decide +kernel,
      by decide +kernel, by decide +kernel⟩

/-- Behind a failed operation in its own batch the drain waits for a message that never comes. -/
example : (Sync.pipeline [.exec (.sql "FAIL") .none, .exec (.sql "NEXT") .none, .sync none]
    connected).1.returned = false := by decide +kernel

/-- A claim that fails on a row, with the failure of another operation behind it: the ReadyForQuery
is left unread. -/
example : (Sync.pipeline [.exec (.sql "SELECT") .none, .exec (.sql "FAIL") .none, .sync none,
      .claim none ⟨0, none⟩ rejectRows, .claim none ⟨1, none⟩ DropHandler] connected).2.unread.map
    (·.type) = [.readyForQuery] := by decide +kernel

end Sync.Pipeline

end ZeroPostgres
