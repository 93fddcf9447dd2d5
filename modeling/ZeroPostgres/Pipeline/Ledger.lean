import ZeroPostgres.Pipeline.Follows
import ZeroPostgres.Pipeline.Reading

/-!
# The ledger of a pipeline

What ties the queue of a pipeline to the server: which entries of the queue were sent, what
became of each, and what the server still owes for them. `Ledger` holds between the calls of
both clients; the lemmas say how queueing, sending and consuming an entry change it.
-/

namespace ZeroPostgres

/-- The expectation queued for an entry. -/
def Item.expectation : Item → Expectation
  | .op kind _ => kind.expectation
  | .sync _ => .sync

/-- The kind of operation a statement is queued as. -/
def StatementRef.kind : StatementRef → OpKind
  | .sql _ => .sql
  | .prepared _ => .prepared

/-- The prepared statement a ticket keeps. -/
def StatementRef.stmt? : StatementRef → Option PreparedStatement
  | .sql _ => none
  | .prepared stmt => some stmt

/-- A message whose length was never filled in. -/
def Malformed (fs : List Frontend) : Prop := ∃ portal name, Frontend.bindHead portal name ∈ fs

/-- The message's length was never filled in. -/
def Frontend.isHead : Frontend → Bool
  | .bindHead .. => true
  | _ => false

theorem any_isHead {fs : List Frontend} :
    fs.any (·.isHead) = true ↔ Malformed fs := by
  rw [List.any_eq_true]
  constructor
  · rintro ⟨f, hf, hhead⟩
    cases f with
    | bindHead portal name => exact ⟨portal, name, hf⟩
    | _ => cases hhead
  · rintro ⟨portal, name, hf⟩
    exact ⟨_, hf, rfl⟩

instance (fs : List Frontend) : Decidable (Malformed fs) := decidable_of_iff _ any_isHead

/-- The messages of queued operations are whole. -/
theorem QueueFrames.not_malformed {kinds : List OpKind} {fs : List Frontend}
    (h : QueueFrames kinds fs) : ¬ Malformed fs := by
  rintro ⟨portal, name, hm⟩
  induction h with
  | nil => cases hm
  | cons ho _ ih =>
    rcases List.mem_append.mp hm with hm | hm
    · cases ho <;> simp at hm
    · exact ih hm

namespace Pipeline

variable {P : Peer} {K : Type} {α : Type}

/-- The account of a pipeline over a connection whose log was `start`: the entries consumed
(`past`), those sent and not consumed (`items`) and the operations not sent (`kinds`). `t`
says whether the server discards messages at the end of what was sent. -/
structure Ledger (start : List (Frontend × List RawMessage)) (past items : List Item)
    (kinds : List OpKind) (t : Bool) (p : Pipeline P K) : Prop where
  queue : p.expectations = items.map Item.expectation ++ kinds.map OpKind.expectation
  owes : Owes p.aborted items p.unread t
  mode : p.conn.session.mode = modeOf t
  buffer : QueueFrames kinds p.buffers.writeBuffer ∨ Malformed p.buffers.writeBuffer
  history : ∃ log ms, p.conn.stream.log = start ++ log ∧ Serves log (past ++ items) ∧
    Owes false (past ++ items) ms t

@[simp] theorem meets_onConn {x : Act Error (Conn P K) α} {p : Pipeline P K}
    {Q : Outcome Error α → Pipeline P K → Prop} :
    Act.Meets (onConn x) p Q ↔ Act.Meets x p.conn fun o c => Q o { p with conn := c } := Iff.rfl

/-- The pipeline with another write buffer. -/
def setWrite (fs : List Frontend) (p : Pipeline P K) : Pipeline P K :=
  { p with conn := { p.conn with bufferSet := { p.conn.bufferSet with writeBuffer := fs } } }

@[simp] theorem meets_appendWrite {fs : List Frontend} {p : Pipeline P K}
    {Q : Outcome Error Unit → Pipeline P K → Prop} :
    Act.Meets (appendWrite fs) p Q ↔ Q (.ok ()) (setWrite (p.buffers.writeBuffer ++ fs) p) :=
  Iff.rfl

@[simp] theorem meets_clearWrite {p : Pipeline P K}
    {Q : Outcome Error Unit → Pipeline P K → Prop} :
    Act.Meets clearWrite p Q ↔ Q (.ok ()) (setWrite [] p) := Iff.rfl

@[simp] theorem meets_pushExpectation {e : Expectation} {p : Pipeline P K}
    {Q : Outcome Error Unit → Pipeline P K → Prop} :
    Act.Meets (pushExpectation e) p Q ↔
      Q (.ok ()) { p with expectations := p.expectations ++ [e] } := Iff.rfl

@[simp] theorem meets_setAborted {aborted : Bool} {p : Pipeline P K}
    {Q : Outcome Error Unit → Pipeline P K → Prop} :
    Act.Meets (setAborted aborted) p Q ↔ Q (.ok ()) { p with aborted } := Iff.rfl

@[simp] theorem meets_popExpectation {p : Pipeline P K}
    {Q : Outcome Error (Option Expectation) → Pipeline P K → Prop} :
    Act.Meets popExpectation p Q ↔
      Q (.ok p.expectations.head?) { p with expectations := p.expectations.tail } := Iff.rfl

section

variable {start : List (Frontend × List RawMessage)} {past items : List Item}
variable {kinds : List OpKind} {t : Bool} {p p' : Pipeline P K}

/-- The account speaks of the queue, the aborted flag, the stream and the write buffer. -/
theorem Ledger.of_eq (h : Ledger start past items kinds t p)
    (hq : p'.expectations = p.expectations) (ha : p'.aborted = p.aborted)
    (hs : p'.conn.stream = p.conn.stream)
    (hw : p'.buffers.writeBuffer = p.buffers.writeBuffer) : Ledger start past items kinds t p' where
  queue := hq.trans h.queue
  owes := by
    rw [ha, unread, Conn.unread, hs]
    exact h.owes
  mode := by
    rw [Conn.session, hs]
    exact h.mode
  buffer := by
    rw [hw]
    exact h.buffer
  history := by
    rw [hs]
    exact h.history

/-- An entry of the queue is consumed. -/
theorem Ledger.pop {item : Item} (h : Ledger start past (item :: items) kinds t p)
    (hq : p'.expectations = p.expectations.tail) (howes : Owes p'.aborted items p'.unread t)
    (hpeer : p'.conn.stream.peer = p.conn.stream.peer)
    (hlog : p'.conn.stream.log = p.conn.stream.log)
    (hw : p'.buffers.writeBuffer = p.buffers.writeBuffer) :
    Ledger start (past ++ [item]) items kinds t p' where
  queue := by
    rw [hq, h.queue]
    rfl
  owes := howes
  mode := by
    rw [Conn.session, Stream.session, hpeer]
    exact h.mode
  buffer := by
    rw [hw]
    exact h.buffer
  history := by
    rw [hlog, List.append_assoc]
    exact h.history

/-- A well-formed write buffer that is empty queues nothing. -/
theorem Ledger.kinds_nil (h : Ledger start past items kinds t p)
    (hw : p.buffers.writeBuffer = []) : kinds = [] := by
  rcases h.buffer with hb | ⟨_, _, hb⟩
  · exact (hw ▸ hb).of_nil
  · rw [hw] at hb
    cases hb

/-! ### Queueing -/

/-- Where `exec` leads: the operation is queued, or a parameter could not be encoded and the
write buffer holds the head of a message. -/
def ExecPost (start : List (Frontend × List RawMessage)) (past items : List Item)
    (kinds : List OpKind) (t : Bool) (statement : StatementRef) (p : Pipeline P K) :
    Outcome Error Ticket → Pipeline P K → Prop
  | .ok ticket, p' => ticket = ⟨p.queueSeq, statement.stmt?⟩ ∧
      Ledger start past items (kinds ++ [statement.kind]) t p'
  | .err _, p' => Malformed p'.buffers.writeBuffer ∧ Ledger start past items kinds t p'
  | .halt, _ => False

/-- What `exec` leaves alone. -/
structure Queued (p p' : Pipeline P K) : Prop where
  queueSeq : p'.queueSeq = p.queueSeq + 1
  claimSeq : p'.claimSeq = p.claimSeq
  aborted : p'.aborted = p.aborted
  broken : p'.conn.broken = p.conn.broken
  flags : p'.conn.flags = p.conn.flags
  stream : p'.conn.stream = p.conn.stream
  malformed : Malformed p.buffers.writeBuffer → Malformed p'.buffers.writeBuffer

private theorem malformed_append {fs : List Frontend} (gs : List Frontend) (h : Malformed fs) :
    Malformed (fs ++ gs) := by
  obtain ⟨portal, name, hm⟩ := h
  exact ⟨portal, name, List.mem_append_left gs hm⟩

private theorem buffer_snoc {fs : List Frontend} {kind : OpKind} {gs : List Frontend}
    (h : QueueFrames kinds fs ∨ Malformed fs) (ho : OpFrames kind gs) :
    QueueFrames (kinds ++ [kind]) (fs ++ gs) ∨ Malformed (fs ++ gs) :=
  h.imp (·.snoc ho) (malformed_append gs)

theorem queueExec_meets (h : Ledger start past items kinds t p) (statement : StatementRef)
    (params : Params) :
    Act.Meets (queueExec statement params) p fun o p' =>
      Queued p p' ∧ ExecPost start past items kinds t statement p o p' := by
  cases statement with
  | sql text =>
    have hb (values : Bytes) := buffer_snoc h.buffer (@OpFrames.sql text params.naturalOids
      (params.naturalOids.map preferredFormat) params.paramCount values)
    cases henc : params.encode params.naturalOids with
    | ok values =>
      simp only [queueExec, execSqlInner, Act.meets_bind, Act.meets_get, Act.meets_modify,
        meets_onConn, Conn.setWriteBuffer, writeBind, Act.meets_ofExcept_ok, appendWrite,
        pushExpectation, Act.meets_pure, buffers, henc]
      refine ⟨⟨rfl, rfl, rfl, rfl, rfl, rfl, fun hm => ?_⟩, rfl, ?_, h.owes, h.mode, ?_, h.history⟩
      · exact malformed_append _ (malformed_append _ (malformed_append _ hm))
      · simp [h.queue, StatementRef.kind, OpKind.expectation]
      · simpa [buffers, StatementRef.kind] using hb values
    | error e =>
      simp only [queueExec, execSqlInner, Act.meets_bind, Act.meets_get, Act.meets_modify,
        meets_onConn, Conn.setWriteBuffer, writeBind, Act.meets_ofExcept_error, buffers, henc]
      have hm : Malformed (p.conn.bufferSet.writeBuffer ++ [.parse "" text params.naturalOids] ++
        [.bindHead "" ""]) := ⟨"", "", by simp⟩
      exact ⟨⟨rfl, rfl, rfl, rfl, rfl, rfl, fun _ => hm⟩, hm, h.queue, h.owes, h.mode, .inr hm,
        h.history⟩
  | prepared stmt =>
    have hb (values : Bytes) := buffer_snoc h.buffer (@OpFrames.prepared stmt.wireName
      (stmt.paramOids.map preferredFormat) params.paramCount values)
    cases henc : params.encode stmt.paramOids with
    | ok values =>
      simp only [queueExec, execPreparedInner, Act.meets_bind, Act.meets_get, Act.meets_modify,
        meets_onConn, Conn.setWriteBuffer, writeBind, Act.meets_ofExcept_ok, appendWrite,
        pushExpectation, Act.meets_pure, buffers, henc]
      refine ⟨⟨rfl, rfl, rfl, rfl, rfl, rfl, fun hm => ?_⟩, rfl, ?_, h.owes, h.mode, ?_, h.history⟩
      · exact malformed_append _ (malformed_append _ hm)
      · simp [h.queue, StatementRef.kind, OpKind.expectation]
      · simpa [buffers, StatementRef.kind] using hb values
    | error e =>
      simp only [queueExec, execPreparedInner, Act.meets_bind, Act.meets_get, Act.meets_modify,
        meets_onConn, Conn.setWriteBuffer, writeBind, Act.meets_ofExcept_error, buffers, henc]
      have hm : Malformed (p.conn.bufferSet.writeBuffer ++ [.bindHead "" stmt.wireName]) :=
        ⟨"", stmt.wireName, by simp⟩
      exact ⟨⟨rfl, rfl, rfl, rfl, rfl, rfl, fun _ => hm⟩, hm, h.queue, h.owes, h.mode, .inr hm,
        h.history⟩

/-! ### Sending -/

/-- The write buffer and `f` behind it were sent. -/
structure Sent (f : Frontend) (p p' : Pipeline P K) : Prop where
  peer : p'.conn.stream.peer = (P.feed p.conn.stream.peer (p.buffers.writeBuffer ++ [f])).2
  inbound : p'.conn.stream.inbound = p.conn.stream.inbound ++
    (P.feed p.conn.stream.peer (p.buffers.writeBuffer ++ [f])).1
  log : p'.conn.stream.log = p.conn.stream.log ++
    P.exchanges p.conn.stream.peer (p.buffers.writeBuffer ++ [f])
  aborted : p'.aborted = p.aborted
  writeBuffer : p'.buffers.writeBuffer = []

/-- The write buffer and `f` behind it went out to the stream. -/
theorem Sent.of_stream {f : Frontend} {cut : Option Cut}
    (hs : p'.conn.stream =
      { p.conn.stream.sendAll (p.buffers.writeBuffer ++ [f]) with cut })
    (ha : p'.aborted = p.aborted) (hw : p'.buffers.writeBuffer = []) : Sent f p p' where
  peer := by
    rw [hs]
    exact Stream.sendAll_peer ..
  inbound := by
    rw [hs]
    exact Stream.sendAll_inbound ..
  log := by
    rw [hs]
    exact Stream.sendAll_log ..
  aborted := ha
  writeBuffer := hw

/-- The peer has closed the session. -/
def Closed (p : Pipeline P K) : Prop := p.conn.session.mode = .closed

/-- Sending what is queued: the operations are entries now, and one more message follows. -/
private theorem Ledger.sent (hP : P.NoCopy) (h : Ledger start past items kinds t p)
    {f : Frontend} (hs : Sent f p p') :
    Closed p' ∨ ∃ new u, QueueFrames kinds p.buffers.writeBuffer ∧
      new.map Item.kind? = kinds.map some ∧ ∃ r st, (P.session st).mode = modeOf u ∧
        p'.conn.session = P.session (P.respond st f).2 ∧
        Owes p'.aborted (items ++ new) r u ∧ p'.unread = r ++ core (P.respond st f).1 ∧
        ∃ log ms, p'.conn.stream.log = start ++ (log ++ P.exchanges st [f]) ∧
          Serves log (past ++ (items ++ new)) ∧ Owes false (past ++ (items ++ new)) ms u := by
  have hmode : (P.session p.conn.stream.peer).mode = modeOf t := h.mode
  have hne : (P.session p.conn.stream.peer).mode ≠ .copying := by
    rw [hmode]
    cases t <;> decide
  rcases h.buffer with hb | hb
  · rcases feed_queue hP hmode hb with hc | ⟨new, u, hnew, howes, hserves, hend⟩
    · left
      rw [Closed, Conn.session, Stream.session, hs.peer, P.feed_append]
      exact (feed_closed [f] hc).2
    · refine .inr ⟨new, u, hb, hnew, p.unread ++ core (P.feed p.conn.stream.peer
        p.buffers.writeBuffer).1, (P.feed p.conn.stream.peer p.buffers.writeBuffer).2, hend,
        ?_, ?_, ?_, ?_⟩
      · rw [Conn.session, Stream.session, hs.peer, P.feed_append]
        rfl
      · rw [hs.aborted]
        exact h.owes.append howes
      · rw [unread, Conn.unread, hs.inbound, P.feed_append]
        simp [P.feed_cons, unread, Conn.unread]
      · obtain ⟨log, ms, hlog, hpast, hms⟩ := h.history
        refine ⟨log ++ P.exchanges p.conn.stream.peer p.buffers.writeBuffer,
          ms ++ core (P.feed p.conn.stream.peer p.buffers.writeBuffer).1, ?_, ?_, ?_⟩
        · rw [hs.log, hlog, P.exchanges_append]
          simp
        · rw [← List.append_assoc]
          exact hpast.append hserves
        · rw [← List.append_assoc]
          exact hms.append howes
  · left
    rw [Closed, Conn.session, Stream.session, hs.peer]
    obtain ⟨portal, name, hm⟩ := hb
    exact feed_malformed hP hne ⟨portal, name, List.mem_append_left _ hm⟩

theorem expectations_of_kinds {new : List Item}
    (h : new.map Item.kind? = kinds.map some) :
    new.map Item.expectation = kinds.map OpKind.expectation := by
  induction new generalizing kinds with
  | nil =>
    cases kinds with
    | nil => rfl
    | cons => cases h
  | cons item new ih =>
    cases kinds with
    | nil => cases h
    | cons kind kinds =>
      simp only [List.map_cons, List.cons.injEq] at h ⊢
      refine ⟨?_, ih h.2⟩
      cases item with
      | op kind' fate =>
        cases h.1
        rfl
      | sync => cases h.1

/-- A Flush sends what is queued. -/
theorem Ledger.sent_flush (hP : P.NoCopy) (h : Ledger start past items kinds t p)
    (hs : Sent .flush p p') (hq : p'.expectations = p.expectations) :
    Closed p' ∨ ∃ new u, QueueFrames kinds p.buffers.writeBuffer ∧
      new.map Item.kind? = kinds.map some ∧ Ledger start past (items ++ new) [] u p' := by
  rcases h.sent hP hs with hc | ⟨new, u, hb, hnew, r, st, hu, hst, howes, hun, log, ms, hlog, hrest⟩
  · exact .inl hc
  · rcases respond_flush hu with hc | ⟨hr, hmode⟩
    · left
      rw [Closed, hst]
      exact hc
    · refine .inr ⟨new, u, hb, hnew, ?_, ?_, ?_, .inl ?_, log ++ P.exchanges st [.flush], ms,
        hlog, ?_, hrest.2⟩
      · simp [hq, h.queue, expectations_of_kinds hnew]
      · rw [hun, hr, List.append_nil]
        exact howes
      · rw [hst]
        exact hmode
      · rw [hs.writeBuffer]
        exact .nil
      · simpa using hrest.1.append (serves_flush st)

/-- A Sync sends what is queued and is itself an entry. -/
theorem Ledger.sent_sync (hP : P.NoCopy) (h : Ledger start past items kinds t p)
    (hs : Sent .sync p p') (hq : p'.expectations = p.expectations ++ [.sync]) :
    Closed p' ∨ ∃ new error, QueueFrames kinds p.buffers.writeBuffer ∧
      new.map Item.kind? = kinds.map some ∧
      Ledger start past (items ++ new ++ [.sync error]) [] false p' := by
  rcases h.sent hP hs with hc | ⟨new, u, hb, hnew, r, st, hu, hst, howes, hun, log, ms, hlog, hrest⟩
  · exact .inl hc
  · rcases respond_sync hu with hc | ⟨error, hr, hserves, hmode⟩
    · left
      rw [Closed, hst]
      exact hc
    · refine .inr ⟨new, error, hb, hnew, ?_, ?_, ?_, .inl ?_, log ++ P.exchanges st [.sync],
        ms ++ core (P.respond st .sync).1, hlog, ?_, ?_⟩
      · simp [hq, h.queue, expectations_of_kinds hnew, Item.expectation]
      · rw [hun]
        exact howes.append hr
      · rw [hst]
        exact hmode
      · rw [hs.writeBuffer]
        exact .nil
      · simpa using hrest.1.append hserves
      · simpa using hrest.2.append hr

/-- `write_all` and `flush` send the write buffer, unless the future is dropped. -/
theorem send_meets (p : Pipeline P K) :
    Act.Meets (onConn Conn.send) p fun o p' =>
      match o with
      | .ok _ => ∃ cut, (p.conn.stream.cut = none → cut = none) ∧
          p' = { p with conn := { p.conn with stream :=
            { p.conn.stream.sendAll p.buffers.writeBuffer with cut } } }
      | .err _ => False
      | .halt => p.conn.stream.cut ≠ none ∧ p'.conn.flags = p.conn.flags := by
  simp only [meets_onConn, Conn.send, Conn.flushStream, Act.meets_bind]
  rcases hc : p.conn.stream.cut with _ | ⟨_ | n, k⟩
  · simp only [Act.Meets, Conn.writeAll, Conn.awaitPoint, hc, buffers, Stream.sendAll_cut]
    exact ⟨none, fun _ => rfl, by rw [Stream.sendAll_no_cut _ hc]⟩
  · simp [Act.Meets, Conn.writeAll, hc]
  · rcases n with _ | n
    · simp [Act.Meets, Conn.writeAll, Conn.awaitPoint, hc]
    · simp [Act.Meets, Conn.writeAll, Conn.awaitPoint, hc, buffers]

/-! ### Claims -/

/-- What a claim of an operation gives back: the result of an operation that succeeded, the
error of one that failed, or that it was skipped. There is none when rows have no columns. -/
def claimResult (kind : OpKind) (ticket : Ticket) :
    Fate → Option (Except Error (List Callback))
  | .skipped => some (.error pipelineAborted)
  | .ran _ _ (.error e) => some (.error (.server e))
  | .ran columns rows ending => (callsFor (kind.source ticket columns) rows ending).map .ok

/-- A computation ended with the given result. -/
def Reported (result : Option (Except Error α)) : Outcome Error α → Prop
  | .ok a => result = some (.ok a)
  | .err e => result = some (.error e)
  | .halt => False

theorem Reported.eq {result : Option (Except Error α)} {o : Outcome Error α}
    (h : Reported result o) : o.toExcept? = result := by
  cases o with
  | ok a => exact h.symm
  | err e => exact h.symm
  | halt => exact h.elim

/-- What the server sent for an operation can be delivered: its rows have columns, and the
handler accepts every call. -/
def Delivers (kind : OpKind) (ticket : Ticket) (handler : Handler) : Fate → Prop
  | .skipped => True
  | .ran columns rows ending => Deliverable handler (kind.source ticket columns) [] rows ending

instance (kind : OpKind) (ticket : Ticket) (handler : Handler) :
    ∀ fate, Decidable (Delivers kind ticket handler fate)
  | .skipped => .isTrue trivial
  | .ran columns rows ending =>
    inferInstanceAs (Decidable (Deliverable handler (kind.source ticket columns) [] rows ending))

/-- A reply that was delivered to its end is the result of the operation. -/
theorem reported_of_calls {kind : OpKind} {ticket : Ticket} {c : Option Bytes}
    {rows : List Bytes} {ending : Ending} {cs : List Callback} (he : ∀ e, ending ≠ .error e)
    (h : callsFor (kind.source ticket c) rows ending = some cs) :
    claimResult kind ticket (.ran c rows ending) = some (.ok cs) := by
  cases ending with
  | error e => exact absurd rfl (he e)
  | complete tag => simp [claimResult, h]
  | empty => simp [claimResult, h]

/-! ### Consuming the Syncs at the front -/

/-- The loop over the Syncs at the front of the queue, for an invariant `J` of the entries
consumed and the entries left, and postconditions for the two ways not to finish. -/
theorem consumeSyncs_meets {consume : Act Error (Pipeline P K) Unit}
    {J : List Item → List Item → Pipeline P K → Prop} {E : Error → Pipeline P K → Prop}
    {H : Pipeline P K → Prop} (kinds : List OpKind)
    (queue : ∀ past items p, J past items p →
      p.expectations = items.map Item.expectation ++ kinds.map OpKind.expectation)
    (one : ∀ past error items p, J past (.sync error :: items) p →
      Act.Meets (do
        Act.modify fun p => { p with expectations := p.expectations.tail }
        consume
        setAborted false) p fun o p' =>
          match o with
          | .ok _ => error = none ∧ J (past ++ [.sync error]) items p'
          | .err e => error ≠ none ∧ E e p'
          | .halt => H p') :
    ∀ items past (p : Pipeline P K), J past items p →
      Act.Meets (consumeSyncs consume p.expectations) p fun o p' =>
        match o with
        | .ok _ => ∃ n items', items = List.replicate n (.sync none) ++ items' ∧
            (∀ error, items'.head? ≠ some (.sync error)) ∧
            J (past ++ List.replicate n (.sync none)) items' p'
        | .err e => (∃ error, .sync (some error) ∈ items) ∧ E e p'
        | .halt => H p' := by
  intro items
  induction items with
  | nil =>
    intro past p hJ
    have hq := queue _ _ _ hJ
    have hrun : consumeSyncs consume p.expectations = pure () := by
      rw [hq]
      cases kinds with
      | nil => rfl
      | cons kind kinds => cases kind <;> rfl
    rw [hrun]
    exact ⟨0, [], rfl, by simp, by simpa using hJ⟩
  | cons item items ih =>
    intro past p hJ
    have hq := queue _ _ _ hJ
    cases item with
    | op kind fate =>
      have hrun : consumeSyncs consume p.expectations = pure () := by
        rw [hq]
        cases kind <;> rfl
      rw [hrun]
      exact ⟨0, _, rfl, by simp, by simpa using hJ⟩
    | sync error =>
      have h := one past error items p hJ
      have hrun : consumeSyncs consume p.expectations p =
          ((do
            Act.modify fun p => { p with expectations := p.expectations.tail }
            consume
            setAborted false) >>= fun _ => consumeSyncs consume p.expectations.tail) p := by
        rw [hq]
        simp only [List.map_cons, List.cons_append, Item.expectation, List.tail_cons, consumeSyncs,
          Act.bind_run, Act.modify_run, hq]
        generalize consume _ = r
        rcases r with ⟨_ | _ | _, p₁⟩ <;> rfl
      refine Act.Meets.of_run_eq hrun (Act.meets_bind.mpr (h.mono fun o p₁ ho => ?_))
      cases o with
      | ok u =>
        obtain ⟨rfl, hJ₁⟩ := ho
        have hq₁ := queue _ _ _ hJ₁
        have htail : p.expectations.tail = p₁.expectations := by
          rw [hq, hq₁]
          rfl
        dsimp only
        rw [htail]
        refine (ih _ p₁ hJ₁).mono fun o p₂ ho => ?_
        cases o with
        | ok u =>
          obtain ⟨n, items', rfl, hhead, hJ₂⟩ := ho
          refine ⟨n + 1, items', by simp [List.replicate_succ], hhead, ?_⟩
          simpa [List.replicate_succ] using hJ₂
        | err e =>
          obtain ⟨⟨error, hmem⟩, hE⟩ := ho
          exact ⟨⟨error, List.mem_cons_of_mem _ hmem⟩, hE⟩
        | halt => exact ho
      | err e =>
        obtain ⟨hne, hE⟩ := ho
        obtain ⟨error, rfl⟩ := Option.ne_none_iff_exists'.mp hne
        exact ⟨⟨error, by simp⟩, hE⟩
      | halt => exact ho

end

end Pipeline

end ZeroPostgres
