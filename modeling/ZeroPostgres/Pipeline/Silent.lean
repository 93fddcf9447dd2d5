import ZeroPostgres.Pipeline.Sync
import ZeroPostgres.Pipeline.Reading
import ZeroPostgres.State.Refusals

/-!
# Claims without a result set

What a claim of the blocking client does on a reply that announces no columns and sends no rows: it
is read to its end for any handler, whose one call is that of the end. A claim never makes the call
that announces columns (`claimExpectation_congr`).
-/

namespace ZeroPostgres

/-- The call announces columns. -/
def Callback.announces : Callback → Bool
  | .resultStart _ => true
  | _ => false

namespace Sync

open Act

variable {P : Peer}

namespace Pipeline

open ZeroPostgres.Pipeline

variable {α β : Type} {p p₁ : Pipeline P} {rest ms : List RawMessage} {m : RawMessage}
variable {handler : Handler}

/-! ### Reading without a result set -/

/-- A computation reads up to the messages `rest`, does nothing else and has the outcome `o`. -/
def Reaches (x : Act Error (Pipeline P) α) (p : Pipeline P) (rest : List RawMessage)
    (o : Outcome Error α) : Prop :=
  ∃ p', x p = (o, p') ∧ Reads p p' ∧ p'.unread = rest

theorem Reaches.of_reads {x y : Act Error (Pipeline P) α} {o : Outcome Error α} (hr : Reads p p₁)
    (hxy : x p = y p₁) (h : Reaches y p₁ rest o) : Reaches x p rest o := by
  obtain ⟨p', hrun, hr', hun⟩ := h
  exact ⟨p', hxy.trans hrun, hr.trans hr', hun⟩

theorem Reaches.bind {x : Act Error (Pipeline P) α} {f : α → Act Error (Pipeline P) β} {a : α}
    {o : Outcome Error β} (hcut : p.conn.stream.cut = none) (hx : Reaches x p ms (.ok a))
    (hf : ∀ p₁, p₁.unread = ms → p₁.conn.stream.cut = none → Reaches (f a) p₁ rest o) :
    Reaches (x >>= f) p rest o := by
  obtain ⟨p₁, hrun, hr, hun⟩ := hx
  refine .of_reads hr ?_ (hf p₁ hun (hr.nocut hcut))
  rw [Act.bind_run, hrun]

theorem Reaches.bind_err {x : Act Error (Pipeline P) α} {f : α → Act Error (Pipeline P) β}
    {e : Error} (hx : Reaches x p rest (.err e)) : Reaches (x >>= f) p rest (.err e) := by
  obtain ⟨p₁, hrun, hr, hun⟩ := hx
  exact ⟨p₁, by rw [Act.bind_run, hrun], hr, hun⟩

/-- A loop whose rounds begin with `read_next_message` takes the next message. -/
theorem readMessages_next {k : β → RawMessage → Act Error (Pipeline P) (Flow β α)}
    (h : p.unread = m :: ms) (hcut : p.conn.stream.cut = none) (b : β) :
    ∃ p₁, Reads p p₁ ∧ p₁.unread = ms ∧ p₁.conn.stream.cut = none ∧
      readMessages (nextRound k) b p = afterMessage (nextRound k) b m p₁ := by
  obtain ⟨p₁, hr, ⟨hc, -⟩ | ⟨hun, hrun⟩⟩ := readMessages_core (nextRound_skipsAsync k) h b
  · exact absurd hcut hc
  · exact ⟨p₁, hr, hun, hr.nocut hcut, hrun⟩

/-- Such a loop fails on an ErrorResponse. -/
theorem readMessages_fails {k : β → RawMessage → Act Error (Pipeline P) (Flow β α)}
    {e : ServerError} (h : p.unread = m :: ms) (hcut : p.conn.stream.cut = none)
    (he : IsError e m) (b : β) :
    Reaches (readMessages (nextRound k) b) p ms (.err (.server e)) := by
  obtain ⟨p₁, hr, hun, -, hrun⟩ := readMessages_next h hcut b
  refine ⟨p₁, ?_, hr, hun⟩
  rw [hrun, afterMessage, Act.bind_run, nextRound_error he]
  rfl

theorem readNextMessage_reaches {t : MsgType} (h : p.unread = m :: ms)
    (hcut : p.conn.stream.cut = none) (hm : Is t m) (ht : t ≠ .errorResponse) :
    Reaches readNextMessage p ms (.ok m) := by
  obtain ⟨p₁, hr, hun, -, hrun⟩ := readMessages_next h hcut ()
  refine ⟨p₁, ?_, hr, hun⟩
  rw [readNextMessage, hrun, afterMessage, nextRound_eq (not_async h) (by rw [hm.1]; exact ht)]
  rfl

/-- How the reply to an operation that announces no columns and sends no rows is read. -/
def silent (handler : Handler) : Ending → Outcome Error (List Callback)
  | .complete tag =>
    match handler.accept [.resultEnd tag] with
    | .ok () => .ok [.resultEnd tag]
    | .error e => .err e
  | .empty => .ok []
  | .error e => .err (.server e)

theorem claimRows_silent {columns : Except Error Bytes} {returnsRows : Bool} {ending : Ending}
    {r : List RawMessage} (hread : Reading (.rows none returnsRows) (.ran none [] ending) r)
    (hp : p.unread = r ++ rest) (hcut : p.conn.stream.cut = none) :
    Reaches (claimRows handler columns) p rest (silent handler ending) := by
  unfold claimRows
  cases hread with
  | error he _ => exact readMessages_fails hp hcut he []
  | @complete _ _ tag m hm =>
    obtain ⟨p₁, hr, hun, -, hrun⟩ := readMessages_next hp hcut []
    refine ⟨p₁, ?_, hr, hun⟩
    rw [hrun, afterMessage, nextRound_eq (not_async hp) (by rw [hm.1]; decide), Act.bind_run]
    cases ha : handler.accept [.resultEnd tag] with
    | ok u =>
      simp [rowRound, hm.1, hm.2, Act.bind_run, callHandler, Handler.call, ha, silent, continueWith,
        resume]
    | error e =>
      simp [rowRound, hm.1, hm.2, Act.bind_run, callHandler, Handler.call, ha, silent]
  | @empty _ m hm =>
    obtain ⟨p₁, hr, hun, -, hrun⟩ := readMessages_next hp hcut []
    refine ⟨p₁, ?_, hr, hun⟩
    rw [hrun, afterMessage, nextRound_eq (not_async hp) (by rw [hm.1]; decide), Act.bind_run]
    simp [rowRound, hm.1, Act.bind_run, silent, continueWith, resume]

theorem claimRowsInner_silent {ending : Ending} {r : List RawMessage}
    (hread : Reading .describe (.ran none [] ending) r) (hp : p.unread = r ++ rest)
    (hcut : p.conn.stream.cut = none) :
    Reaches (claimRowsInner handler) p rest (silent handler ending) := by
  unfold claimRowsInner
  cases hread with
  | error he _ => exact .bind_err (readMessages_fails hp hcut he ())
  | columns hm hread => cases hread.columns_eq
  | noData hm hread =>
    refine .bind hcut (readNextMessage_reaches hp hcut hm (by decide)) fun p₁ hun hcut₁ => ?_
    rw [hm.1]
    simp only [NoData.parse_eq]
    exact claimRows_silent hread hun hcut₁

theorem expectBindComplete_reaches (h : p.unread = m :: ms) (hcut : p.conn.stream.cut = none)
    (hm : Is .bindComplete m) : Reaches expectBindComplete p ms (.ok ()) := by
  refine .bind hcut (readNextMessage_reaches h hcut hm (by decide)) fun p₁ hun _ => ?_
  rw [hm.1]
  exact ⟨p₁, by simp, .refl p₁, hun⟩

/-- A claim on a reply that announces no columns and sends no rows. -/
theorem claimExpectation_silent {kind : OpKind} {ending : Ending} {r : List RawMessage}
    (hread : Reading kind.first (.ran none [] ending) r) (ticket : Ticket)
    (hp : p.unread = r ++ rest) (hcut : p.conn.stream.cut = none) :
    Reaches (claimExpectation (some kind.expectation) ticket handler) p rest
      (silent handler ending) := by
  cases kind with
  | sql =>
    change Reaches (claimParseBindExecInner handler) p rest _
    unfold claimParseBindExecInner
    cases hread with
    | error he _ => exact .bind_err (readMessages_fails hp hcut he ())
    | parse hm hread =>
      refine .bind hcut (readNextMessage_reaches hp hcut hm (by decide)) fun p₁ hun hcut₁ => ?_
      rw [hm.1]
      rw [ParseComplete.parse_eq]
      refine .bind hcut₁ ⟨p₁, rfl, .refl p₁, hun⟩ fun p₁ hun hcut₁ => ?_
      cases hread with
      | error he _ => exact .bind_err (.bind_err (readMessages_fails hun hcut₁ he ()))
      | bindDescribed hm hread =>
        refine .bind hcut₁ (expectBindComplete_reaches hun hcut₁ hm) fun p₂ hun hcut₂ => ?_
        exact claimRowsInner_silent hread hun hcut₂
  | prepared =>
    change Reaches (claimBindExecInner handler ticket.stmt) p rest _
    unfold claimBindExecInner
    cases hread with
    | error he _ => exact .bind_err (.bind_err (readMessages_fails hp hcut he ()))
    | bindCached _ hm hread =>
      refine .bind hcut (expectBindComplete_reaches hp hcut hm) fun p₁ hun hcut₁ => ?_
      exact claimRows_silent hread hun hcut₁

/-! ### No columns are announced -/

/-- The handlers answer alike, unless columns were announced to them. -/
def AgreeUnannounced (handler handler' : Handler) : Prop :=
  ∀ calls, (∀ c ∈ calls, c.announces = false) → handler.accept calls = handler'.accept calls

variable {handler' : Handler}

private theorem callHandler_congr (h : AgreeUnannounced handler handler') {acc : List Callback}
    (hacc : ∀ c ∈ acc, c.announces = false) (call : Callback) (hc : call.announces = false) :
    (callHandler handler acc call : Act Error (Pipeline P) _) = callHandler handler' acc call := by
  have hcalls : ∀ c ∈ acc ++ [call], c.announces = false := by
    intro c hmem
    rcases List.mem_append.mp hmem with hmem | hmem
    · exact hacc c hmem
    · rw [List.mem_singleton.mp hmem]
      exact hc
  unfold callHandler Handler.call
  rw [h _ hcalls]

/-- A round that reads on has made no call, or that of a row. -/
private theorem nextRound_next {columns : Except Error Bytes} {acc acc' : List Callback}
    {p' : Pipeline P}
    (h : nextRound (rowRound handler columns) acc m p = (.ok (.next acc'), p')) :
    acc' = acc ∨ ∃ cols row, acc' = acc ++ [.row cols row] := by
  unfold nextRound at h
  split at h
  · cases h
    exact .inl rfl
  · split at h
    · obtain ⟨e, p₁, -, h⟩ := Act.bind_eq_ok_iff.mp h
      obtain ⟨-, p₂, -, h⟩ := Act.bind_eq_ok_iff.mp h
      cases h
    · cases ht : m.type <;> simp only [rowRound, ht] at h
      case dataRow =>
        obtain ⟨payload, p₁, -, h⟩ := Act.bind_eq_ok_iff.mp h
        obtain ⟨cols, p₂, -, h⟩ := Act.bind_eq_ok_iff.mp h
        obtain ⟨row, p₃, -, h⟩ := Act.bind_eq_ok_iff.mp h
        obtain ⟨calls, p₄, hcall, h⟩ := Act.bind_eq_ok_iff.mp h
        obtain ⟨-, p₅, -, hcall⟩ := Act.bind_eq_ok_iff.mp hcall
        cases hcall
        cases h
        exact .inr ⟨cols, row, rfl⟩
      case commandComplete =>
        obtain ⟨tag, p₁, -, h⟩ := Act.bind_eq_ok_iff.mp h
        obtain ⟨calls, p₂, -, h⟩ := Act.bind_eq_ok_iff.mp h
        cases h
      case emptyQueryResponse =>
        obtain ⟨-, p₁, -, h⟩ := Act.bind_eq_ok_iff.mp h
        cases h
      all_goals cases h

/-- A row loop announces no columns. -/
theorem claimRows_congr (h : AgreeUnannounced handler handler') (columns : Except Error Bytes) :
    (claimRows handler columns : Act Error (Pipeline P) _) = claimRows handler' columns := by
  funext p
  refine congrFun (readLoop_congr _ _ _ (I := fun acc => ∀ c ∈ acc, c.announces = false) ?_ ?_ _ []
    (by simp)) p
  · intro acc m hacc
    have hrow (cols : List FieldDescription) (row : DataRow) :=
      callHandler_congr (P := P) h hacc (.row cols row) rfl
    have hend (tag : String) := callHandler_congr (P := P) h hacc (.resultEnd tag) rfl
    simp only [nextRound, rowRound, hrow, hend]
  · intro acc m p acc' p' hacc hround
    rcases nextRound_next hround with rfl | ⟨cols, row, rfl⟩
    · exact hacc
    · intro c hmem
      rcases List.mem_append.mp hmem with hmem | hmem
      · exact hacc c hmem
      · rw [List.mem_singleton.mp hmem]
        rfl

/-- So does a claim. -/
theorem claimExpectation_congr (h : AgreeUnannounced handler handler') (e : Option Expectation)
    (ticket : Ticket) : (claimExpectation e ticket handler : Act Error (Pipeline P) _) =
      claimExpectation e ticket handler' := by
  have hrows := claimRows_congr (P := P) h
  cases e with
  | none => rfl
  | some e =>
    cases e with
    | parseBindExecute =>
      simp only [claimExpectation, claimParseBindExecInner, claimRowsInner, hrows]
    | bindExecute =>
      simp only [claimExpectation, claimBindExecInner, claimRowsCachedInner, hrows]
    | sync => rfl

/-! ### The Sync behind it -/

private theorem readyRound_skipsAsync : SkipsAsync (readyRound (P := P)) := by
  intro b m hm
  simp only [readyRound, hm, if_true]

/-- What comes of a Sync that is answered with an error, or with none. -/
def syncOutcome : Option ServerError → Outcome Error Unit
  | none => .ok ()
  | some e => .err (.server e)

/-- A ReadyForQuery that is next is consumed. -/
theorem consumeReadyForQuery_reaches (hz : Is .readyForQuery m) (hp : p.unread = m :: ms)
    (hcut : p.conn.stream.cut = none) : Reaches consumeReadyForQuery p ms (.ok ()) := by
  obtain ⟨status, hparse⟩ : ∃ status, ReadyForQuery.parse m.payload = .ok status :=
    parse_of_wellFormed (by simpa [RawMessage.wellFormed, hz.1] using hz.2)
  obtain ⟨p₁, hr, ⟨hc, -⟩ | ⟨hun, hrun⟩⟩ := readMessages_core readyRound_skipsAsync hp ()
  · exact absurd hcut hc
  · refine ⟨{ p₁ with conn := { p₁.conn with transactionStatus := status } }, ?_,
      ⟨hr.queueSeq, hr.claimSeq, hr.aborted, hr.expectations, hr.broken, hr.flags, hr.writeBuffer,
        hr.peer, hr.log, hr.nocut⟩, hun⟩
    rw [consumeReadyForQuery, hrun, afterMessage, Act.bind_run]
    simp [readyRound, not_async hp, hz.1, hparse, Act.bind_run, onConn, Conn.setStatus,
      continueWith, resume]

/-- A message that is neither an error nor a ReadyForQuery is passed over. -/
theorem consumeReadyForQuery_next (he : m.type ≠ .errorResponse) (hz : m.type ≠ .readyForQuery)
    (hp : p.unread = m :: ms) (hcut : p.conn.stream.cut = none) :
    ∃ p₁, Reads p p₁ ∧ p₁.unread = ms ∧ consumeReadyForQuery p = consumeReadyForQuery p₁ := by
  obtain ⟨p₁, hr, ⟨hc, -⟩ | ⟨hun, hrun⟩⟩ := readMessages_core readyRound_skipsAsync hp ()
  · exact absurd hcut hc
  · refine ⟨p₁, hr, hun, ?_⟩
    have hround : readyRound () m = (pure (.next ()) : Act Error (Pipeline P) _) := by
      cases ht : m.type <;> simp_all [readyRound]
    rw [consumeReadyForQuery, hrun, afterMessage, hround]
    rfl

/-- An ErrorResponse that is next ends the read. -/
theorem consumeReadyForQuery_fails {e : ServerError} (he : IsError e m) (hp : p.unread = m :: ms)
    (hcut : p.conn.stream.cut = none) :
    Reaches consumeReadyForQuery p ms (.err (.server e)) := by
  obtain ⟨p₁, hr, ⟨hc, -⟩ | ⟨hun, hrun⟩⟩ := readMessages_core readyRound_skipsAsync hp ()
  · exact absurd hcut hc
  · refine ⟨p₁, ?_, hr, hun⟩
    rw [consumeReadyForQuery, hrun, afterMessage, Act.bind_run]
    simp [readyRound, not_async hp, he.1, he.2, Act.bind_run]

/-- The reply to the Sync is read up to its first message: with an error in it, the claim fails. -/
theorem consumeReadyForQuery_failed {sync : Option ServerError} {skipping : Bool}
    {status : TransactionStatus} {r : List RawMessage} (hsync : SyncReply skipping sync status r)
    (hp : p.unread = r) (hcut : p.conn.stream.cut = none) :
    (consumeReadyForQuery p).1 = syncOutcome sync := by
  cases hsync with
  | ready hz =>
    obtain ⟨p', hrun, -⟩ := consumeReadyForQuery_reaches ⟨hz.1, hz.wellFormed⟩ hp hcut
    rw [hrun]
    rfl
  | error he _ _ =>
    obtain ⟨p', hrun, -⟩ := consumeReadyForQuery_fails he hp hcut
    rw [hrun]
    rfl

/-- What a claim does once it has read the reply of its operation,
`src/src/sync/pipeline/mod.rs:341–349`. -/
def settle (result : Except Error (List Callback)) : Act Error (Pipeline P) (List Callback) := do
  match result with
  | .error e => Act.modify fun p => { p with
      conn := { p.conn with broken := p.conn.broken || e.isConnectionBroken }
      aborted := true }
  | .ok _ => pure ()
  Act.modify fun p => { p with claimSeq := p.claimSeq + 1 }
  consumePendingSyncs
  Act.ofExcept result

/-- The loop over one Sync behind an operation. -/
theorem consumePendingSyncs_failed {sync : Option ServerError} {skipping : Bool}
    {status : TransactionStatus} {r : List RawMessage} (hsync : SyncReply skipping sync status r)
    (hp : p.unread = r) (hcut : p.conn.stream.cut = none) (hexp : p.expectations = [.sync]) :
    (consumePendingSyncs p).1 = syncOutcome sync := by
  have hconsume := consumeReadyForQuery_failed (p := { p with expectations := [] }) hsync hp hcut
  simp only [consumePendingSyncs, hexp, consumeSyncs, Act.bind_run, Act.modify_run]
  rw [← hconsume]
  rcases consumeReadyForQuery { p with expectations := [] } with ⟨_ | _ | _, p₁⟩ <;> rfl

/-- With one Sync behind it, a claim fails when its operation or the Sync did. -/
theorem settle_failed (result : Except Error (List Callback)) {sync : Option ServerError}
    {skipping : Bool} {status : TransactionStatus} {r : List RawMessage}
    (hsync : SyncReply skipping sync status r) (hp : p.unread = r)
    (hcut : p.conn.stream.cut = none) (hexp : p.expectations = [.sync]) :
    (settle result p).1.failed = true ↔ sync ≠ none ∨ result.isOk = false := by
  -- the state in which the Sync is consumed differs from `p` beside the stream and the queue
  have finish {p' : Pipeline P} (hs : p'.conn.stream = p.conn.stream)
      (he : p'.expectations = p.expectations) :
      ((consumePendingSyncs >>= fun _ => Act.ofExcept result :
        Act Error (Pipeline P) (List Callback)) p').1.failed = true ↔
          sync ≠ none ∨ result.isOk = false := by
    have hun : p'.unread = r := by
      rw [← hp, ZeroPostgres.Pipeline.unread, ZeroPostgres.Conn.unread, hs]
      rfl
    have hconsume := consumePendingSyncs_failed hsync hun (by rw [hs]; exact hcut)
      (he.trans hexp)
    rw [Act.bind_run]
    rcases hrun : consumePendingSyncs p' with ⟨o, p₁⟩
    rw [hrun] at hconsume
    obtain rfl : o = syncOutcome sync := hconsume
    cases sync with
    | none => cases result <;> simp [syncOutcome, Outcome.failed, Except.isOk, Except.toBool]
    | some e => simp [syncOutcome, Outcome.failed]
  cases result with
  | ok calls => exact finish rfl rfl
  | error e => exact finish rfl rfl

end Pipeline

end Sync

end ZeroPostgres
