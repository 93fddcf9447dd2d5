import ZeroPostgres.Pipeline.Claim
import ZeroPostgres.Server.Replies

/-!
# Reading the reply to one operation

What the claim loops of `Pipeline/Claim.lean` do on the reply of a conformant server. `Reads`
says that nothing but the stream and the buffers changed; `claimExpectation_meets` is the one
lemma the proofs about pipelines use for a claim.
-/

namespace ZeroPostgres

/-- The expectation queued for an operation. -/
def OpKind.expectation : OpKind → Expectation
  | .sql => .parseBindExecute
  | .prepared => .bindExecute

/-- The columns the rows of an operation are read with: those of its own reply, or those
cached in the ticket's statement. -/
def OpKind.source (kind : OpKind) (ticket : Ticket) (own : Option Bytes) : Option Bytes :=
  match kind with
  | .sql => own
  | .prepared => ticket.stmt.bind (·.rowDescPayload)

namespace Pipeline

variable {P : Peer} {K : Type} {α β : Type}

/-- The messages that wait to be read, asynchronous ones aside. -/
def unread (p : Pipeline P K) : List RawMessage := p.conn.unread

/-- Nothing was done but reading: the queue, the flags and what was sent are as before. -/
structure Reads (p p' : Pipeline P K) : Prop where
  queueSeq : p'.queueSeq = p.queueSeq
  claimSeq : p'.claimSeq = p.claimSeq
  aborted : p'.aborted = p.aborted
  expectations : p'.expectations = p.expectations
  broken : p'.conn.broken = p.conn.broken
  flags : p'.conn.flags = p.conn.flags
  writeBuffer : p'.buffers.writeBuffer = p.buffers.writeBuffer
  peer : p'.conn.stream.peer = p.conn.stream.peer
  log : p'.conn.stream.log = p.conn.stream.log
  nocut : p.conn.stream.cut = none → p'.conn.stream.cut = none

theorem Reads.refl (p : Pipeline P K) : Reads p p := by
  constructor <;> simp

theorem Reads.trans {p₁ p₂ p₃ : Pipeline P K} (h : Reads p₁ p₂) (h' : Reads p₂ p₃) :
    Reads p₁ p₃ where
  queueSeq := h'.queueSeq.trans h.queueSeq
  claimSeq := h'.claimSeq.trans h.claimSeq
  aborted := h'.aborted.trans h.aborted
  expectations := h'.expectations.trans h.expectations
  broken := h'.broken.trans h.broken
  flags := h'.flags.trans h.flags
  writeBuffer := h'.writeBuffer.trans h.writeBuffer
  peer := h'.peer.trans h.peer
  log := h'.log.trans h.log
  nocut hc := h'.nocut (h.nocut hc)

/-- The two clients keep the columns of a result beside everything else. -/
class LawfulPipelineDriver (K : Type) [PipelineDriver K] : Prop where
  saveColumns_reads : ∀ {P : Peer} (payload : Bytes) (p : Pipeline P K),
    Reads p (PipelineDriver.saveColumns payload p)
  saveColumns_inbound : ∀ {P : Peer} (payload : Bytes) (p : Pipeline P K),
    (PipelineDriver.saveColumns payload p).conn.stream.inbound = p.conn.stream.inbound

/-! ### The next message -/

/-- A loop body that passes over asynchronous messages. -/
def SkipsAsync (body : β → RawMessage → Act Error (Pipeline P K) (Flow β α)) : Prop :=
  ∀ b m, m.isAsync = true → body b m = pure (.next b)

theorem nextRound_skipsAsync [PipelineDriver K]
    (k : β → RawMessage → Act Error (Pipeline P K) (Flow β α)) : SkipsAsync (nextRound k) := by
  intro b m hm
  simp only [nextRound, hm, if_true]

/-- Go on with a loop after one of its rounds, with the messages that are left. -/
def continueWith (body : β → RawMessage → Act Error (Pipeline P K) (Flow β α))
    (ms : List RawMessage) : Flow β α → Act Error (Pipeline P K) α :=
  resume (fun m => onConn (Conn.receive m)) (onConn Conn.starve) body ms

/-- The loop on a message just taken off the stream: the round, then the rest of the loop. -/
def afterMessage (body : β → RawMessage → Act Error (Pipeline P K) (Flow β α)) (b : β)
    (m : RawMessage) : Act Error (Pipeline P K) α := fun p =>
  (body b m >>= continueWith body p.conn.stream.inbound) p

/-- A loop that passes over asynchronous messages takes the next other message off the
stream, unless its future is dropped on the way. -/
theorem readMessages_core {body : β → RawMessage → Act Error (Pipeline P K) (Flow β α)}
    (hskip : SkipsAsync body) {p : Pipeline P K} {m : RawMessage} {ms : List RawMessage}
    (h : p.unread = m :: ms) (b : β) :
    ∃ p₁, Reads p p₁ ∧
      (p.conn.stream.cut ≠ none ∧ readMessages body b p = (.halt, p₁) ∨
        p₁.unread = ms ∧ readMessages body b p = afterMessage body b m p₁) := by
  obtain ⟨l, hl⟩ : ∃ l, p.conn.stream.inbound = l := ⟨_, rfl⟩
  induction l generalizing p with
  | nil =>
    simp only [unread, Conn.unread, hl, core_nil] at h
    cases h
  | cons x l ih =>
    have hrun : readMessages body b p =
        readLoop (fun m => onConn (Conn.receive m)) (onConn Conn.starve) body (x :: l) b p := by
      rw [readMessages, hl]
    rw [hrun, readLoop_cons]
    -- The await point either drops the future or leaves a state that differs by the cut.
    have hrecv : (onConn (Conn.receive x) p = (.halt, p) ∧ p.conn.stream.cut ≠ none) ∨
        ∃ p₁, onConn (Conn.receive x) p = (.ok (), p₁) ∧ Reads p p₁ ∧
          p₁.conn.stream.inbound = l := by
      rcases hc : p.conn.stream.cut with _ | ⟨_ | n, k⟩
      · refine .inr ⟨{ p with conn := p.conn.take x }, ?_, ?_, ?_⟩
        · simp [onConn, Conn.receive, Act.bind_run, Conn.awaitPoint, hc]
        · constructor <;> simp [Conn.take, buffers]
        · simp [Conn.take, hl]
      · refine .inl ⟨?_, by simp⟩
        simp [onConn, Conn.receive, Act.bind_run, Conn.awaitPoint, hc]
      · refine .inr ⟨{ p with conn := Conn.take { p.conn with stream :=
          { p.conn.stream with cut := some ⟨n, k⟩ } } x }, ?_, ?_, ?_⟩
        · simp [onConn, Conn.receive, Act.bind_run, Conn.awaitPoint, hc]
        · constructor <;> simp [Conn.take, buffers, hc]
        · simp [Conn.take, hl]
    rw [Act.bind_run]
    rcases hrecv with ⟨hrecv, hcut⟩ | ⟨p₁, hrecv, hreads, hin⟩
    · rw [hrecv]
      exact ⟨p, Reads.refl p, .inl ⟨hcut, rfl⟩⟩
    · rw [hrecv]
      dsimp only
      have hcore : core (x :: l) = m :: ms := by
        rw [← hl]
        exact h
      by_cases hx : x.isAsync = true
      · rw [core_cons_async hx] at hcore
        have hun : p₁.unread = m :: ms := by
          rw [unread, Conn.unread, hin]
          exact hcore
        obtain ⟨p₂, hreads', hres⟩ := ih hun hin
        refine ⟨p₂, hreads.trans hreads', ?_⟩
        have hsame : (body b x >>= resume (fun m => onConn (Conn.receive m))
            (onConn Conn.starve) body l) p₁ = readMessages body b p₁ := by
          rw [hskip b x hx, readMessages, hin]
          rfl
        rw [hsame]
        exact hres.imp_left fun ⟨hcut, hr⟩ => ⟨fun hn => hcut (hreads.nocut hn), hr⟩
      · rw [Bool.not_eq_true] at hx
        rw [core_cons_sync hx] at hcore
        cases hcore
        refine ⟨p₁, hreads, .inr ⟨?_, ?_⟩⟩
        · rw [unread, Conn.unread, hin]
        · rw [afterMessage, hin]
          rfl

/-! ### Claiming one reply -/

variable [PipelineDriver K]

/-- After an ErrorResponse: everything before it was read, and the client has reacted. -/
def Failed (p : Pipeline P K) (e : ServerError) (ms : List RawMessage) (p' : Pipeline P K) :
    Prop :=
  ∃ p₁, Reads p p₁ ∧ p₁.unread = ms ∧ p' = PipelineDriver.onServerError (.server e) p₁

theorem Failed.of_reads {p p₁ p' : Pipeline P K} {e : ServerError} {ms : List RawMessage}
    (h : Reads p p₁) (hf : Failed p₁ e ms p') : Failed p e ms p' := by
  obtain ⟨p₂, hr, hu, rfl⟩ := hf
  exact ⟨p₂, h.trans hr, hu, rfl⟩

/-- Where reading one message leads: to the message, to the error it carries, or nowhere when
the future is dropped. -/
def NextPost (p : Pipeline P K) (m : RawMessage) (ms : List RawMessage) :
    Outcome Error RawMessage → Pipeline P K → Prop
  | .ok m', p' => m' = m ∧ m.type ≠ .errorResponse ∧ Reads p p' ∧ p'.unread = ms
  | .err e, p' => ∃ se, IsError se m ∧ e = .server se ∧ Failed p se ms p'
  | .halt, p' => Reads p p' ∧ p.conn.stream.cut ≠ none

/-- A round of a loop that begins with `read_next_message`, on a message that is neither
asynchronous nor an error. -/
theorem nextRound_eq {k : β → RawMessage → Act Error (Pipeline P K) (Flow β α)} {b : β}
    {m : RawMessage} (ha : m.isAsync = false) (he : m.type ≠ .errorResponse) :
    nextRound k b m = k b m := by
  simp [nextRound, ha, he]

/-- The same on an ErrorResponse: the client reacts and the loop fails. -/
theorem nextRound_error {k : β → RawMessage → Act Error (Pipeline P K) (Flow β α)} {b : β}
    {m : RawMessage} {e : ServerError} (he : IsError e m) (p : Pipeline P K) :
    nextRound k b m p =
      (.err (.server e), PipelineDriver.onServerError (.server e) p) := by
  have ha : m.isAsync = false := by simp [RawMessage.isAsync, he.1, MsgType.isAsync]
  simp [nextRound, ha, he.1, he.2, Act.bind_run]

omit [PipelineDriver K] in
theorem not_async {m : RawMessage} {ms : List RawMessage} {p : Pipeline P K}
    (h : p.unread = m :: ms) : m.isAsync = false := by
  have hm : m ∈ core p.conn.stream.inbound := by
    rw [show core p.conn.stream.inbound = m :: ms from h]
    exact List.mem_cons_self
  simpa [core] using (List.mem_filter.mp hm).2

/-- A loop whose rounds begin with `read_next_message`, on an ErrorResponse. -/
theorem readMessages_error {k : β → RawMessage → Act Error (Pipeline P K) (Flow β α)}
    {p : Pipeline P K} {m : RawMessage} {ms : List RawMessage} {e : ServerError}
    (h : p.unread = m :: ms) (he : IsError e m) (b : β) :
    Act.Meets (readMessages (nextRound k) b) p fun o p' =>
      match o with
      | .ok _ => False
      | .err e' => e' = .server e ∧ Failed p e ms p'
      | .halt => Reads p p' ∧ p.conn.stream.cut ≠ none := by
  obtain ⟨p₁, hr, ⟨hcut, hrun⟩ | ⟨hun, hrun⟩⟩ :=
    readMessages_core (nextRound_skipsAsync k) h b
  · rw [Act.Meets, hrun]
    exact ⟨hr, hcut⟩
  · rw [Act.Meets, hrun, afterMessage, Act.bind_run, nextRound_error he]
    exact ⟨rfl, p₁, hr, hun, rfl⟩

/-- `read_next_message` on the messages of a well-formed reply. -/
theorem readNextMessage_meets {p : Pipeline P K} {m : RawMessage} {ms : List RawMessage}
    (h : p.unread = m :: ms) (hw : m.wellFormed = true) :
    Act.Meets readNextMessage p (NextPost p m ms) := by
  by_cases he : m.type = .errorResponse
  · obtain ⟨e, hparse⟩ : ∃ e, ErrorResponse.parse m.payload = .ok e :=
      parse_of_wellFormed (by simpa [RawMessage.wellFormed, he] using hw)
    refine (readMessages_error h ⟨he, hparse⟩ ()).mono fun o p' ho => ?_
    cases o with
    | ok a => exact ho.elim
    | err e' => exact ⟨e, ⟨he, hparse⟩, ho⟩
    | halt => exact ho
  · obtain ⟨p₁, hr, ⟨hcut, hrun⟩ | ⟨hun, hrun⟩⟩ :=
      readMessages_core (nextRound_skipsAsync fun () m => return .stop m) h ()
    · rw [Act.Meets, readNextMessage, hrun]
      exact ⟨hr, hcut⟩
    · rw [Act.Meets, readNextMessage, hrun, afterMessage, nextRound_eq (not_async h) he]
      exact ⟨rfl, he, hr, hun⟩

/-! ### The rows of a reply -/

/-- The row a DataRow payload holds. -/
def rowOf (payload : Bytes) : DataRow :=
  match DataRow.parse payload with
  | .ok row => row
  | _ => ⟨0, []⟩

/-- The handler calls that end a reply: an empty query and an error make none. -/
def endCalls : Ending → List Callback
  | .complete tag => [.resultEnd tag]
  | _ => []

/-- The handler calls for the rows of a reply and their end, in the columns of `source`;
none when there are rows and no columns to read them with. -/
def callsFor (source : Option Bytes) (rows : List Bytes) (ending : Ending) :
    Option (List Callback) :=
  match rows with
  | [] => some (endCalls ending)
  | rows =>
    match source.map RowDescription.parse with
    | some (.ok cols) => some (rows.map (fun p => .row cols (rowOf p)) ++ endCalls ending)
    | _ => none

/-- A reply can be delivered: its rows have columns, and the handler accepts every call. -/
def Deliverable (handler : Handler) (source : Option Bytes) (acc : List Callback)
    (rows : List Bytes) (ending : Ending) : Prop :=
  ∃ cs, callsFor source rows ending = some cs ∧ Willing handler acc cs

instance (handler : Handler) (source : Option Bytes) (acc : List Callback) (rows : List Bytes)
    (ending : Ending) : Decidable (Deliverable handler source acc rows ending) :=
  match h : callsFor source rows ending with
  | some cs => decidable_of_iff (Willing handler acc cs) (by simp [Deliverable, h])
  | none => .isFalse (by simp [Deliverable, h])

/-- Where reading a reply leads: to the calls made for it, to the error that ended it, or to
a failure on the client's own side when it cannot be delivered. -/
def ReplyPost (handler : Handler) (source : Option Bytes) (acc : List Callback)
    (rows : List Bytes) (ending : Ending) (p : Pipeline P K) (rest : List RawMessage) :
    Outcome Error (List Callback) → Pipeline P K → Prop
  | .ok calls, p' => (∀ e, ending ≠ .error e) ∧
      (∃ cs, callsFor source rows ending = some cs ∧ Willing handler acc cs ∧
        calls = acc ++ cs) ∧ Reads p p' ∧ p'.unread = rest
  | .err e, p' => (∃ se, ending = .error se ∧ e = .server se ∧ se.isFatal = false ∧
        Failed p se rest p') ∨
      (Reads p p' ∧ ¬ Deliverable handler source acc rows ending)
  | .halt, p' => Reads p p' ∧
      (p.conn.stream.cut ≠ none ∨ ¬ Deliverable handler source acc rows ending)

theorem ReplyPost.of_reads {handler : Handler} {source : Option Bytes} {acc : List Callback}
    {rows : List Bytes} {ending : Ending} {p p₁ p' : Pipeline P K} {rest : List RawMessage}
    {o : Outcome Error (List Callback)} (h : Reads p p₁)
    (hp : ReplyPost handler source acc rows ending p₁ rest o p') :
    ReplyPost handler source acc rows ending p rest o p' := by
  cases o with
  | ok calls => exact ⟨hp.1, hp.2.1, h.trans hp.2.2.1, hp.2.2.2⟩
  | err e =>
    rcases hp with ⟨se, he, hse, hfatal, hf⟩ | ⟨hr, hd⟩
    · exact .inl ⟨se, he, hse, hfatal, hf.of_reads h⟩
    · exact .inr ⟨h.trans hr, hd⟩
  | halt => exact ⟨h.trans hp.1, hp.2.imp_left fun hc hn => hc (h.nocut hn)⟩

private theorem callsFor_cons {source : Option Bytes} {cols : List FieldDescription}
    (hs : source.map RowDescription.parse = some (.ok cols)) (payload : Bytes)
    (rows : List Bytes) (ending : Ending) :
    ∃ cs, callsFor source rows ending = some cs ∧
      callsFor source (payload :: rows) ending = some (.row cols (rowOf payload) :: cs) := by
  cases rows <;> simp [callsFor, hs]

private theorem deliverable_cons {handler : Handler} {source : Option Bytes} {acc : List Callback}
    {payload : Bytes} {rows : List Bytes} {ending : Ending} {cols : List FieldDescription}
    (hs : source.map RowDescription.parse = some (.ok cols)) :
    Deliverable handler source acc (payload :: rows) ending ↔
      handler.accept (acc ++ [.row cols (rowOf payload)]) = .ok () ∧
        Deliverable handler source (acc ++ [.row cols (rowOf payload)]) rows ending := by
  obtain ⟨cs, hcs, hcons⟩ := callsFor_cons hs payload rows ending
  simp only [Deliverable, hcs, hcons, Option.some.injEq]
  constructor
  · rintro ⟨_, rfl, ha, hw⟩
    exact ⟨ha, cs, rfl, hw⟩
  · rintro ⟨ha, _, rfl, hw⟩
    exact ⟨_, rfl, ha, hw⟩

/-- The columns a row loop reads its rows with. -/
def Sourced (columns : Except Error Bytes) (source : Option Bytes) : Prop :=
  match source with
  | some payload => columns = .ok payload
  | none => ∃ e, columns = .error e

omit [PipelineDriver K] in
/-- A data row is delivered, or it is not deliverable. -/
theorem rowRound_dataRow {handler : Handler} {columns : Except Error Bytes}
    {source : Option Bytes} (hc : Sourced columns source) {acc : List Callback}
    {m : RawMessage} (hm : Is .dataRow m) (rows : List Bytes) (ending : Ending)
    (p : Pipeline P K) :
    (∃ cols, source.map RowDescription.parse = some (.ok cols) ∧
      handler.accept (acc ++ [.row cols (rowOf m.payload)]) = .ok () ∧
      rowRound handler columns acc m p =
        (.ok (.next (acc ++ [.row cols (rowOf m.payload)])), p)) ∨
    (¬ Deliverable handler source acc (m.payload :: rows) ending ∧
      ((∃ e, rowRound handler columns acc m p = (.err e, p)) ∨
        rowRound handler columns acc m p = (.halt, p))) := by
  obtain ⟨row, hrow⟩ := row_parse hm
  cases source with
  | none =>
    obtain ⟨e, rfl⟩ := hc
    refine .inr ⟨by simp [Deliverable, callsFor], .inl ⟨e, ?_⟩⟩
    simp [rowRound, hm.1, Act.bind_run]
  | some payload =>
    simp only [Sourced] at hc
    subst hc
    cases hcols : RowDescription.parse payload with
    | err e =>
      refine .inr ⟨by simp [Deliverable, callsFor, hcols], .inl ⟨e, ?_⟩⟩
      simp [rowRound, hm.1, Act.bind_run, hcols]
    | halt =>
      refine .inr ⟨by simp [Deliverable, callsFor, hcols], .inr ?_⟩
      simp [rowRound, hm.1, Act.bind_run, hcols]
    | ok cols =>
      have hs : (some payload).map RowDescription.parse = some (.ok cols) := by simp [hcols]
      have hro : rowOf m.payload = row := by simp [rowOf, hrow]
      cases ha : handler.accept (acc ++ [.row cols (rowOf m.payload)]) with
      | ok u =>
        refine .inl ⟨cols, hs, ha, ?_⟩
        rw [hro] at ha ⊢
        simp [rowRound, hm.1, Act.bind_run, hcols, hrow, callHandler, Handler.call, ha]
      | error e =>
        refine .inr ⟨?_, .inl ⟨e, ?_⟩⟩
        · rw [deliverable_cons hs, ha]
          simp
        · rw [hro] at ha
          simp [rowRound, hm.1, Act.bind_run, hcols, hrow, callHandler, Handler.call, ha]

/-- The row loop on the rest of a reply. The induction is on the rows still to be read. -/
theorem rows_meets {handler : Handler} {columns : Except Error Bytes} {source c : Option Bytes}
    {returnsRows : Bool} {rows : List Bytes} {ending : Ending} {r rest : List RawMessage}
    (hc : Sourced columns source)
    (hread : Reading (.rows c returnsRows) (.ran c rows ending) r) :
    ∀ (acc : List Callback) (p : Pipeline P K), p.unread = r ++ rest →
      Act.Meets (readMessages (nextRound (rowRound handler columns)) acc) p
        (ReplyPost handler source acc rows ending p rest) := by
  generalize hstage : Stage.rows c returnsRows = stage at hread
  generalize hfate : Fate.ran c rows ending = fate at hread
  induction hread generalizing rows with
  | @error stage e m he hf =>
    cases hfate
    intro acc p hp
    refine (readMessages_error hp he acc).mono fun o p' ho => ?_
    cases o with
    | ok a => exact ho.elim
    | err e' => exact .inl ⟨e, rfl, ho.1, hf, ho.2⟩
    | halt => exact ⟨ho.1, .inl ho.2⟩
  | @row columns' rows' ending' m ms hm _ ih =>
    cases hfate
    cases hstage
    intro acc p hp
    have hne : m.type ≠ .errorResponse := by rw [hm.1]; decide
    obtain ⟨p₁, hr, ⟨hcut, hrun⟩ | ⟨hun, hrun⟩⟩ :=
      readMessages_core (nextRound_skipsAsync (rowRound handler columns)) hp acc
    · rw [Act.Meets, hrun]
      exact ⟨hr, .inl hcut⟩
    · have hround := nextRound_eq (k := rowRound (P := P) (K := K) handler columns) (b := acc)
        (not_async hp) hne
      rw [Act.Meets, hrun, afterMessage, Act.bind_run, hround]
      rcases rowRound_dataRow hc hm rows' ending p₁ with
        ⟨cols, hs, ha, hrow⟩ | ⟨hd, ⟨e, hrow⟩ | hrow⟩
      · rw [hrow]
        have h := ih rfl rfl (acc ++ [.row cols (rowOf m.payload)]) p₁ hun
        refine ReplyPost.of_reads hr (h.mono fun o p' ho => ?_).at
        obtain ⟨cs, hcs, hcons⟩ := callsFor_cons hs m.payload rows' ending
        cases o with
        | ok calls =>
          obtain ⟨hend, ⟨cs', hcs', hw, rfl⟩, hrest⟩ := ho
          rw [hcs] at hcs'
          cases hcs'
          exact ⟨hend, ⟨_, hcons, ⟨ha, hw⟩, by simp⟩, hrest⟩
        | err e =>
          refine ho.imp_right fun ⟨hr', hd⟩ => ⟨hr', ?_⟩
          rw [deliverable_cons hs]
          exact fun h => hd h.2
        | halt =>
          refine ⟨ho.1, ho.2.imp_right fun hd => ?_⟩
          rw [deliverable_cons hs]
          exact fun h => hd h.2
      · rw [hrow]
        exact .inr ⟨hr, hd⟩
      · rw [hrow]
        exact ⟨hr, .inr hd⟩
  | @complete columns' returnsRows' tag m hm =>
    cases hfate
    intro acc p hp
    have hne : m.type ≠ .errorResponse := by rw [hm.1]; decide
    obtain ⟨p₁, hr, ⟨hcut, hrun⟩ | ⟨hun, hrun⟩⟩ :=
      readMessages_core (nextRound_skipsAsync (rowRound handler columns)) hp acc
    · rw [Act.Meets, hrun]
      exact ⟨hr, .inl hcut⟩
    · have hround := nextRound_eq (k := rowRound (P := P) (K := K) handler columns) (b := acc)
        (not_async hp) hne
      rw [Act.Meets, hrun, afterMessage, Act.bind_run, hround]
      cases ha : handler.accept (acc ++ [.resultEnd tag]) with
      | ok u =>
        have hrow : rowRound handler columns acc m p₁ =
            (.ok (.stop (acc ++ [.resultEnd tag])), p₁) := by
          simp [rowRound, hm.1, Act.bind_run, hm.2, callHandler, Handler.call, ha]
        rw [hrow]
        exact ⟨by simp, ⟨_, rfl, ⟨ha, trivial⟩, rfl⟩, hr, hun⟩
      | error e =>
        have hrow : rowRound handler columns acc m p₁ = (.err e, p₁) := by
          simp [rowRound, hm.1, Act.bind_run, hm.2, callHandler, Handler.call, ha]
        rw [hrow]
        refine .inr ⟨hr, ?_⟩
        rintro ⟨cs, hcs, hw⟩
        cases hcs
        rw [hw.1] at ha
        cases ha
  | @empty columns' m hm =>
    cases hfate
    intro acc p hp
    have hne : m.type ≠ .errorResponse := by rw [hm.1]; decide
    obtain ⟨p₁, hr, ⟨hcut, hrun⟩ | ⟨hun, hrun⟩⟩ :=
      readMessages_core (nextRound_skipsAsync (rowRound handler columns)) hp acc
    · rw [Act.Meets, hrun]
      exact ⟨hr, .inl hcut⟩
    · have hround := nextRound_eq (k := rowRound (P := P) (K := K) handler columns) (b := acc)
        (not_async hp) hne
      have hrow : rowRound handler columns acc m p₁ = (.ok (.stop acc), p₁) := by
        simp [rowRound, hm.1, Act.bind_run]
      rw [Act.Meets, hrun, afterMessage, Act.bind_run, hround, hrow]
      exact ⟨by simp, ⟨_, rfl, trivial, by simp [endCalls]⟩, hr, hun⟩
  | _ => cases hstage

/-! ### The whole reply -/

section Whole

variable {handler : Handler} {source : Option Bytes} {rows : List Bytes} {ending : Ending}
variable {rest : List RawMessage}

/-- A step that begins with `read_next_message`, when the reply fails there. -/
private theorem next_error {k : RawMessage → Act Error (Pipeline P K) (List Callback)}
    {p : Pipeline P K} {m : RawMessage} {e : ServerError} (hp : p.unread = m :: rest)
    (he : IsError e m) (hf : e.isFatal = false) :
    Act.Meets (readNextMessage >>= k) p (ReplyPost handler source [] [] (.error e) p rest) := by
  rw [Act.meets_bind]
  refine (readNextMessage_meets hp (he.wellFormed)).mono fun o p' ho => ?_
  cases o with
  | ok m' => exact absurd he.1 ho.2.1
  | err e' =>
    obtain ⟨se, hse, rfl, hfail⟩ := ho
    have heq : se = e := by
      have h := hse.2
      rw [he.2] at h
      exact (Outcome.ok.inj h).symm
    exact .inl ⟨se, by rw [heq], rfl, by rw [heq]; exact hf, hfail⟩
  | halt => exact ⟨ho.1, .inl ho.2⟩

/-- The same when the reply goes on with a message of another type. -/
private theorem next_ok {k : RawMessage → Act Error (Pipeline P K) (List Callback)}
    {p : Pipeline P K} {t : MsgType} {m : RawMessage} {ms : List RawMessage}
    (hp : p.unread = m :: ms) (hm : Is t m) (ht : t ≠ .errorResponse)
    (hk : ∀ p₁, p₁.unread = ms →
      Act.Meets (k m) p₁ (ReplyPost handler source [] rows ending p₁ rest)) :
    Act.Meets (readNextMessage >>= k) p (ReplyPost handler source [] rows ending p rest) := by
  rw [Act.meets_bind]
  refine (readNextMessage_meets hp hm.2).mono fun o p' ho => ?_
  cases o with
  | ok m' =>
    obtain ⟨rfl, -, hr, hun⟩ := ho
    exact (hk p' hun).mono fun o p'' h => h.of_reads hr
  | err e =>
    obtain ⟨se, hse, -⟩ := ho
    exact absurd (hm.1.symm.trans hse.1) ht
  | halt => exact ⟨ho.1, .inl ho.2⟩

variable [LawfulPipelineDriver K]

private theorem describe_meets {c : Option Bytes} {r : List RawMessage}
    (hread : Reading .describe (.ran c rows ending) r) (p : Pipeline P K)
    (hp : p.unread = r ++ rest) :
    Act.Meets (claimRowsInner handler) p (ReplyPost handler c [] rows ending p rest) := by
  unfold claimRowsInner
  cases hread with
  | error he hf => exact next_error hp he hf
  | @columns _ m ms hm hread =>
    refine next_ok hp hm (by decide) fun p₁ hun => ?_
    simp only [hm.1, Act.meets_bind, Act.meets_modify]
    have hreads := LawfulPipelineDriver.saveColumns_reads m.payload p₁
    have hun' : (PipelineDriver.saveColumns m.payload p₁).unread = ms ++ rest := by
      rw [unread, Conn.unread, LawfulPipelineDriver.saveColumns_inbound]
      exact hun
    have hc : c = some m.payload := hread.columns_eq
    rw [hc] at hread ⊢
    have hs : Sourced (.ok m.payload) (some m.payload) := rfl
    exact (rows_meets hs hread [] _ hun').mono fun o p'' h => h.of_reads hreads
  | @noData _ m ms hm hread =>
    refine next_ok hp hm (by decide) fun p₁ hun => ?_
    simp only [hm.1, Act.meets_bind, Act.meets_lift, NoData.parse_eq]
    have hc : c = none := hread.columns_eq
    rw [hc] at hread ⊢
    have hs (e : Error) : Sourced (.error e) none := ⟨e, rfl⟩
    exact rows_meets (hs _) hread [] p₁ hun

omit [LawfulPipelineDriver K] in
private theorem bind_meets {describes : Bool} {c : Option Bytes} {r : List RawMessage}
    {k : Act Error (Pipeline P K) (List Callback)}
    (hread : Reading (.bind describes) (.ran c rows ending) r) (p : Pipeline P K)
    (hp : p.unread = r ++ rest)
    (hk : ∀ stage ms p₁, (describes = true ∧ stage = .describe ∨
        describes = false ∧ ∃ returnsRows, stage = .rows none returnsRows) →
      Reading stage (.ran c rows ending) ms → p₁.unread = ms ++ rest →
      Act.Meets k p₁ (ReplyPost handler source [] rows ending p₁ rest)) :
    Act.Meets (expectBindComplete >>= fun _ => k) p
      (ReplyPost handler source [] rows ending p rest) := by
  rw [expectBindComplete, Act.bind_assoc]
  cases hread with
  | error he hf => exact next_error hp he hf
  | @bindDescribed _ m ms hm hread =>
    refine next_ok hp hm (by decide) fun p₁ hun => ?_
    simp only [hm.1, Act.meets_bind, Act.meets_lift, BindComplete.parse_eq]
    exact hk .describe ms p₁ (.inl ⟨rfl, rfl⟩) hread hun
  | @bindCached _ m ms returnsRows hm hread =>
    refine next_ok hp hm (by decide) fun p₁ hun => ?_
    simp only [hm.1, Act.meets_bind, Act.meets_lift, BindComplete.parse_eq]
    exact hk _ ms p₁ (.inr ⟨rfl, _, rfl⟩) hread hun

/-- A claim of the operation at the front of the queue, on the reply it is owed: the reply is
consumed to its end, or the client fails on its own side. -/
theorem claimExpectation_meets {kind : OpKind} {c : Option Bytes} {r : List RawMessage}
    (hread : Reading kind.first (.ran c rows ending) r) (ticket : Ticket) (p : Pipeline P K)
    (hp : p.unread = r ++ rest) :
    Act.Meets (claimExpectation (some kind.expectation) ticket handler) p
      (ReplyPost handler (kind.source ticket c) [] rows ending p rest) := by
  cases kind with
  | sql =>
    simp only [OpKind.expectation, claimExpectation, claimParseBindExecInner, OpKind.source]
    cases hread with
    | error he hf => exact next_error hp he hf
    | @parse _ m ms hm hread =>
      refine next_ok hp hm (by decide) fun p₁ hun => ?_
      rw [hm.1, Act.meets_bind]
      simp only [Act.meets_lift, ParseComplete.parse_eq]
      refine bind_meets hread p₁ hun fun stage ms' p₂ hstage hread' hun' => ?_
      rcases hstage with ⟨-, rfl⟩ | ⟨h, -⟩
      · exact describe_meets hread' p₂ hun'
      · cases h
  | prepared =>
    simp only [OpKind.expectation, claimExpectation, claimBindExecInner, OpKind.source]
    refine bind_meets hread p hp fun stage ms' p₂ hstage hread' hun' => ?_
    rcases hstage with ⟨h, -⟩ | ⟨-, returnsRows, rfl⟩
    · cases h
    · have hc : c = none := hread'.columns_eq
      subst hc
      unfold claimRowsCachedInner claimRows
      refine rows_meets ?_ hread' [] p₂ hun'
      cases ticket.stmt.bind (·.rowDescPayload) with
      | none => exact ⟨_, rfl⟩
      | some payload => exact rfl

end Whole

end Pipeline

end ZeroPostgres
