import ZeroPostgres.Conn.Outcome
import ZeroPostgres.Pipeline.Exec
import ZeroPostgres.Pipeline.Silent

/-!
# A statement executed directly and through a pipeline

What handlers hear of one statement from `exec` of a connection and from `exec` and
`claim_with_handler` of a pipeline, `src/src/sync/pipeline/mod.rs:390–545` against
`src/src/state/extended.rs:278–358`. Both make the calls of the rows and of their end, and only the
connection announces the columns: `sameEvents_iff` says when a handler cannot tell the two apart.
-/

namespace ZeroPostgres

open Act

/-! ### Requests and replies -/

/-- The messages `exec` of a connection sends for parameters encoded as `values`. -/
def execFrames (statement : StatementRef) (params : Params) (values : Bytes) : List Frontend :=
  match statement with
  | .sql text =>
    [.parse "" text params.naturalOids,
      .bind "" "" (params.naturalOids.map preferredFormat) params.paramCount values,
      .describePortal "", .execute "" 0, .sync]
  | .prepared stmt =>
    [.bind "" stmt.wireName (stmt.paramOids.map preferredFormat) params.paramCount values,
      .describePortal "", .execute "" 0, .sync]

/-- The messages a pipeline sends for the same statement when it is claimed. -/
def claimFrames (statement : StatementRef) (params : Params) (values : Bytes) : List Frontend :=
  Pipeline.request statement params values ++ [.sync]

/-- The reply without asynchronous messages and without the description of columns. -/
def undescribed (reply : List RawMessage) : List RawMessage :=
  (core reply).filter fun m => ¬ (m.type = .rowDescription ∨ m.type = .noData)

/-- The tags in a reply. -/
def tagsIn (ms : List RawMessage) : List String :=
  ms.filterMap fun m =>
    match m.type, CommandComplete.parse m.payload with
    | .commandComplete, .ok tag => some tag
    | _, _ => none

namespace Conn

variable {P : Peer} {K : Type}

/-- What a request is answered with, when its parameters encode and it is sent. -/
def replyTo (c : Conn P K) (frames : StatementRef → Params → Bytes → List Frontend)
    (statement : StatementRef) (params : Params) : List RawMessage :=
  match params.encode (statement.targetOids params) with
  | .ok values => c.reply (frames statement params values)
  | .error _ => []

/-- The session is open after a request, when it is sent. -/
def OpenAfter (c : Conn P K) (frames : StatementRef → Params → Bytes → List Frontend)
    (statement : StatementRef) (params : Params) : Prop :=
  match params.encode (statement.targetOids params) with
  | .ok values =>
    (P.session (P.feed c.stream.peer (frames statement params values)).2).mode ≠ .closed
  | .error _ => True

instance (c : Conn P K) (frames : StatementRef → Params → Bytes → List Frontend)
    (statement : StatementRef) (params : Params) :
    Decidable (c.OpenAfter frames statement params) :=
  match h : params.encode (statement.targetOids params) with
  | .ok values => decidable_of_iff
      ((P.session (P.feed c.stream.peer (frames statement params values)).2).mode ≠ .closed)
      (by simp [OpenAfter, h])
  | .error _ => .isTrue (by simp [OpenAfter, h])

/-- The connection waits for nothing, and the server answers the statement in the same way, the
description of its columns aside, whether `exec` or a claim asks. -/
structure Serves (c : Conn P K) (statement : StatementRef) (params : Params) : Prop where
  regular : c.Regular
  aligned : c.Aligned
  uncut : c.stream.cut = none
  openExec : c.OpenAfter execFrames statement params
  openClaim : c.OpenAfter claimFrames statement params
  same : undescribed (c.replyTo execFrames statement params) =
    undescribed (c.replyTo claimFrames statement params)

/-- The server announces columns for the statement. -/
def AnnouncesColumns (c : Conn P K) (statement : StatementRef) (params : Params) : Prop :=
  ∃ m ∈ c.replyTo execFrames statement params, m.type = .rowDescription

instance (c : Conn P K) (statement : StatementRef) (params : Params) :
    Decidable (c.AnnouncesColumns statement params) :=
  inferInstanceAs
    (Decidable (∃ m ∈ c.replyTo execFrames statement params, m.type = .rowDescription))

end Conn

/-! ### Replies without a result set -/

/-- The tag a reply ended with. -/
def Ending.tags : Ending → List String
  | .complete tag => [tag]
  | _ => []

/-- The error a reply ended with. -/
def Ending.error? : Ending → Option ServerError
  | .error e => some e
  | _ => none

theorem tagsIn_append (ms ms' : List RawMessage) : tagsIn (ms ++ ms') = tagsIn ms ++ tagsIn ms' :=
  List.filterMap_append

theorem tagsIn_cons_ne {m : RawMessage} (h : m.type ≠ .commandComplete) (ms : List RawMessage) :
    tagsIn (m :: ms) = tagsIn ms := by
  obtain ⟨t, payload⟩ := m
  cases t <;> first | exact absurd rfl h | rfl

/-- The description of columns carries no tags and no errors. -/
theorem filterMap_undescribed {α : Type} {f : RawMessage → Option α}
    (h : ∀ m, m.type = .rowDescription ∨ m.type = .noData → f m = none) (reply : List RawMessage) :
    (undescribed reply).filterMap f = (core reply).filterMap f := by
  unfold undescribed
  induction core reply with
  | nil => rfl
  | cons m ms ih =>
    by_cases hm : m.type = .rowDescription ∨ m.type = .noData
    · rw [List.filter_cons_of_neg (by rcases hm with ht | ht <;> simp [ht]), ih,
        List.filterMap_cons, h m hm]
    · rw [List.filter_cons_of_pos (by simpa using hm), List.filterMap_cons, List.filterMap_cons, ih]

theorem tagsIn_undescribed (reply : List RawMessage) :
    tagsIn (undescribed reply) = tagsIn (core reply) := by
  refine filterMap_undescribed ?_ reply
  rintro ⟨t, payload⟩ (rfl | rfl) <;> rfl

theorem errorsIn_undescribed (reply : List RawMessage) :
    errorsIn (undescribed reply) = errorsIn (core reply) := by
  refine filterMap_undescribed ?_ reply
  rintro m (h | h) <;> exact toError_of_ne (by simp [h])

/-- A message that neither describes columns nor is a row. -/
def Bare (m : RawMessage) : Prop := m.type ≠ .rowDescription ∧ m.type ≠ .dataRow

theorem SyncReply.bare {skipping : Bool} {sync : Option ServerError} {status : TransactionStatus}
    {r : List RawMessage} (h : SyncReply skipping sync status r) :
    (∀ m ∈ r, Bare m) ∧ tagsIn r = [] := by
  cases h with
  | ready hz =>
    refine ⟨by simp [Bare, hz.1], ?_⟩
    rw [tagsIn_cons_ne (by simp [hz.1])]
    rfl
  | error he _ hz =>
    refine ⟨by simp [Bare, he.1, hz.1], ?_⟩
    rw [tagsIn_cons_ne (by simp [he.1]), tagsIn_cons_ne (by simp [hz.1])]
    rfl

/-- A reply without columns and rows says how it ended with its tag and its error. The induction is
on the reply. -/
theorem Reading.silent {stage : Stage} {fate : Fate} {r : List RawMessage}
    (h : Reading stage fate r) (hs : stage.columns = none) (hbare : ∀ m ∈ r, Bare m) :
    ∃ ending, fate = .ran none [] ending ∧ tagsIn r = ending.tags := by
  induction h with
  | @error stage e m he _ =>
    rw [hs]
    refine ⟨_, rfl, ?_⟩
    rw [tagsIn_cons_ne (by simp [he.1])]
    rfl
  | parse hm _ ih | bindDescribed hm _ ih | bindCached _ hm _ ih | noData hm _ ih =>
    rw [tagsIn_cons_ne (by simp [hm.1])]
    exact ih rfl fun x hx => hbare x (List.mem_cons_of_mem _ hx)
  | columns hm => exact absurd hm.1 (hbare _ List.mem_cons_self).1
  | row hm => exact absurd hm.1 (hbare _ List.mem_cons_self).2
  | complete hm =>
    obtain rfl : _ = none := hs
    exact ⟨_, rfl, by simp [tagsIn, hm.1, hm.2, Ending.tags]⟩
  | empty hm =>
    obtain rfl : _ = none := hs
    refine ⟨_, rfl, ?_⟩
    rw [tagsIn_cons_ne (by simp [hm.1])]
    rfl

/-- The stages before columns are announced, and that behind NoData. -/
def Stage.Undescribed : Stage → Prop
  | .parse | .bind true | .describe | .rows none false => True
  | _ => False

/-- A statement's reply announces its columns with its first call, or has no columns and rows. -/
theorem Reading.announces_or_bare {stage : Stage} {fate : Fate} {r : List RawMessage}
    (h : Reading stage fate r) (hs : stage.Undescribed) :
    ((∃ m ∈ r, m.type = .rowDescription) ∧
      ∃ cols cs, ∀ c, callbacksOf c r = .resultStart cols :: cs) ∨
    (∀ m ∈ r, Bare m) ∧ ∀ c, callbacksOf c r = (tagsIn r).map .resultEnd := by
  -- a message in front that makes no call
  have skip {m : RawMessage} {ms : List RawMessage} (hm : ∀ c, callbackOf c m = none)
      (hcols : m.type ≠ .rowDescription) (hrow : m.type ≠ .dataRow)
      (htag : m.type ≠ .commandComplete)
      (ih : ((∃ x ∈ ms, x.type = .rowDescription) ∧
          ∃ cols cs, ∀ c, callbacksOf c ms = .resultStart cols :: cs) ∨
        (∀ x ∈ ms, Bare x) ∧ ∀ c, callbacksOf c ms = (tagsIn ms).map .resultEnd) :
      ((∃ x ∈ m :: ms, x.type = .rowDescription) ∧
          ∃ cols cs, ∀ c, callbacksOf c (m :: ms) = .resultStart cols :: cs) ∨
        (∀ x ∈ m :: ms, Bare x) ∧
          ∀ c, callbacksOf c (m :: ms) = (tagsIn (m :: ms)).map .resultEnd := by
    have hcalls : ∀ c, callbacksOf c (m :: ms) = callbacksOf c ms := by
      intro c
      simp [callbacksOf, hm, columnsAfter, hcols]
    rcases ih with ⟨⟨x, hx, ht⟩, cols, cs, hcs⟩ | ⟨hbare, hcs⟩
    · exact .inl ⟨⟨x, List.mem_cons_of_mem _ hx, ht⟩, cols, cs, fun c => (hcalls c).trans (hcs c)⟩
    · refine .inr ⟨List.forall_mem_cons.mpr ⟨⟨hcols, hrow⟩, hbare⟩, fun c => ?_⟩
      rw [hcalls, hcs, tagsIn_cons_ne htag]
  have nothing : ((∃ x ∈ ([] : List RawMessage), x.type = .rowDescription) ∧
        ∃ cols cs, ∀ c, callbacksOf c [] = .resultStart cols :: cs) ∨
      (∀ x ∈ ([] : List RawMessage), Bare x) ∧
        ∀ c, callbacksOf c [] = (tagsIn []).map .resultEnd :=
    .inr ⟨by simp, fun _ => rfl⟩
  induction h with
  | error he _ =>
    exact skip (by simp [callbackOf, he.1]) (by simp [he.1]) (by simp [he.1]) (by simp [he.1])
      nothing
  | parse hm _ ih | bindDescribed hm _ ih | noData hm _ ih =>
    exact skip (by simp [callbackOf, hm.1]) (by simp [hm.1]) (by simp [hm.1]) (by simp [hm.1])
      (ih trivial)
  | bindCached => exact hs.elim
  | @columns fate m ms hm _ ih =>
    obtain ⟨cols, hcols⟩ := columns_parse hm
    refine .inl ⟨⟨m, List.mem_cons_self, hm.1⟩, cols, callbacksOf m.payload ms, fun c => ?_⟩
    simp [callbacksOf, callbackOf, columnsAfter, hm.1, hcols]
  | row => simp [Stage.Undescribed] at hs
  | complete hm =>
    refine .inr ⟨by simp [Bare, hm.1], fun c => ?_⟩
    simp [callbacksOf, callbackOf, tagsIn, hm.1, hm.2]
  | empty hm =>
    exact skip (by simp [callbackOf, hm.1]) (by simp [hm.1]) (by simp [hm.1]) (by simp [hm.1])
      nothing

/-! ### Execution on a connection -/

section Exec

open ExtendedQueryStateMachine Conn

variable {P : Peer} {K : Type} {c : Conn P K} {statement : StatementRef} {params : Params}
variable {values : Bytes}

/-- Where the reply to `exec` begins. -/
def execStage : StatementRef → Stage
  | .sql _ => .parse
  | .prepared _ => .bind true

theorem startExec_run (hencode : params.encode (statement.targetOids params) = .ok values)
    (handler : Handler) (b : BufferSet) :
    ∃ op, startExec handler b statement params =
        (.ok (start handler op none),
          { b with writeBuffer := execFrames statement params values }) ∧
      waits (execStage statement) = firstState op ∧
      (execStage statement = .parse → op = .executeSql) := by
  cases statement with
  | sql text =>
    refine ⟨.executeSql, ?_, rfl, fun _ => rfl⟩
    have h : params.encode params.naturalOids = .ok values := hencode
    simp [startExec, executeSql, writeBind, h, execFrames]
  | prepared stmt =>
    refine ⟨.execute, ?_, rfl, by simp [execStage]⟩
    have h : params.encode stmt.paramOids = .ok values := hencode
    simp [startExec, execute, writeBind, h, execFrames]

theorem startExec_error {e : Error}
    (hencode : params.encode (statement.targetOids params) = .error e)
    (handler : Handler) (b : BufferSet) :
    (startExec handler b statement params).1 = .error e := by
  cases statement with
  | sql text =>
    have h : params.encode params.naturalOids = .error e := hencode
    simp [startExec, executeSql, writeBind, h]
  | prepared stmt =>
    have h : params.encode stmt.paramOids = .error e := hencode
    simp [startExec, execute, writeBind, h]

/-- A conformant server answers the request of `exec` up to its Sync, and then the Sync. -/
theorem exec_reading (hP : P.NoCopy) (ha : c.Aligned)
    (hopen : (P.session (P.feed c.stream.peer (execFrames statement params values)).2).mode ≠
      .closed) :
    ∃ fate sync status r₁ r₂,
      core (c.reply (execFrames statement params values)) = r₁ ++ r₂ ∧
      Reading (execStage statement) fate r₁ ∧ SyncReply fate.error?.isSome sync status r₂ := by
  have hm : (P.session c.stream.peer).mode = .ready := ha.2
  have hans : ∃ fs, execFrames statement params values = fs ++ [.sync] ∧
      P.AnswersFrom c.stream.peer fs (execStage statement) := by
    cases statement with
    | sql text => exact ⟨_, rfl, feed_op hP hm .sql⟩
    | prepared stmt => exact ⟨_, rfl, feed_bindExecute hP hm⟩
  obtain ⟨fs, hfs, hans⟩ := hans
  have hsynced := feed_synced (answersWith_of_answersFrom hans)
  rw [← hfs] at hsynced
  obtain ⟨-, error, sync, status, r₁, r₂, hcore, ⟨fate, hread, rfl⟩, hsync⟩ :=
    hsynced.resolve_left hopen
  exact ⟨fate, sync, status, r₁, r₂, hcore, hread, hsync⟩

variable [Driver K]

/-- `exec` of a connection that is not refused is the exchange of its machine. -/
theorem exec_result (hcut : c.stream.cut = none) (hready : c.exchangeReady = true)
    (husable : (Driver.refuses K && c.isBroken) = false)
    (hencode : params.encode (statement.targetOids params) = .ok values) (handler : Handler) :
    ∃ m : ExtendedQueryStateMachine,
      At (execStage statement) m { c.bufferSet with
        writeBuffer := execFrames statement params values } ∧
      m.handler = handler ∧ m.calls = [] ∧
      ∀ o r, o ≠ .halt → runMachine step
          (c.stream.inbound ++ c.reply (execFrames statement params values))
          (m, { c.bufferSet with writeBuffer := execFrames statement params values }) = (o, r) →
        (exec statement params handler c).1 =
          o.bind fun v => (concluded v r.1).bind fun m => .ok m.calls := by
  obtain ⟨op, hstart, hstate, hop⟩ := startExec_run hencode handler c.bufferSet
  refine ⟨{ start handler op none with state := firstState op }, ?_, rfl, rfl, ?_⟩
  · refine ⟨hstate.symm, hop, ?_, rfl, ?_⟩ <;> cases statement <;> simp [execStage]
  intro o r ho hrun
  have hdrive := drive_result (start handler op none)
    { start handler op none with state := firstState op }
    { c with bufferSet := { c.bufferSet with
      writeBuffer := execFrames statement params values } }
    { c.bufferSet with writeBuffer := execFrames statement params values }
    hcut hready rfl ho hrun
  have hinner : (execInner statement params handler c).1 =
      o.bind fun v => (concluded v r.1).bind fun m => .ok m.calls := by
    have hassoc : (o.bind fun v => (concluded v r.1).bind fun m => .ok m.calls) =
        (o.bind fun v => concluded v r.1).bind fun m => .ok m.calls := by
      cases o <;> rfl
    rw [hassoc, ← hdrive]
    simp only [execInner, Act.bind_run, Act.get_run, hstart, Act.modify_run, Act.ofExcept_ok_run]
    rcases drive (start handler op none) { c with bufferSet := { c.bufferSet with
      writeBuffer := execFrames statement params values } } with ⟨_ | _ | _, _⟩ <;> rfl
  rw [exec, guarded_eq, if_neg (by rw [husable]; simp), ← hinner, markBroken]
  rcases execInner statement params handler c with ⟨_ | _ | _, _⟩ <;> rfl

end Exec

namespace Sync

open Conn ExtendedQueryStateMachine

variable {P : Peer} {c : Conn P} {statement : StatementRef} {params : Params} {values : Bytes}

/-- What `exec` delivers: the calls of the reply, and its error. -/
theorem exec_delivers (hP : P.NoCopy) (h : c.Serves statement params)
    (hencode : params.encode (statement.targetOids params) = .ok values) :
    ∃ fate sync status r₁ r₂,
      core (c.reply (execFrames statement params values)) = r₁ ++ r₂ ∧
      Reading (execStage statement) fate r₁ ∧ SyncReply fate.error?.isSome sync status r₂ ∧
      Delivers (fun handler => (exec statement params handler c).1) (callbacksOf [] r₁)
        ((fate.error?.or sync).map .server) := by
  have hopen := h.openExec
  simp only [OpenAfter, hencode] at hopen
  obtain ⟨fate, sync, status, r₁, r₂, hcore, hread, hsync⟩ := exec_reading hP h.aligned hopen
  refine ⟨fate, sync, status, r₁, r₂, hcore, hread, hsync, ?_⟩
  have hunread : core c.stream.inbound = [] := h.aligned.1
  have hall : core (c.stream.inbound ++ c.reply (execFrames statement params values)) =
      r₁ ++ r₂ := by
    rw [core_append, hunread, hcore]
    rfl
  have hwell : ∀ x ∈ c.stream.inbound ++ c.reply (execFrames statement params values),
      x.isAsync = true → x.wellFormed = true := by
    intro x hx
    rcases List.mem_append.mp hx with hx | hx
    · exact h.regular.asyncs x hx
    · exact P.feed_asyncs _ _ x hx
  have hcalls := callbacksOf_reading hread (by cases statement <;> simp [execStage])
    (by cases statement <;> simp [execStage]) c.bufferSet.columnBuffer []
  constructor
  · intro handler e hr
    obtain ⟨m, hat, hhandler, hnil, hexec⟩ :=
      exec_result (c := c) h.uncut rfl rfl hencode handler
    rw [← hhandler, ← hnil, ← hcalls] at hr
    have herr := (run_executed hread hsync hall hwell hat).2 e hr
    generalize hrun : runMachine step _ _ = r at herr
    obtain ⟨o, r⟩ := r
    dsimp only at herr
    subst herr
    exact hexec _ r (by simp) hrun
  · intro handler hw
    obtain ⟨m, hat, hhandler, hnil, hexec⟩ :=
      exec_result (c := c) h.uncut rfl rfl hencode handler
    rw [← hhandler, ← hnil, ← hcalls] at hw
    obtain ⟨v, r, hrun, herr⟩ := (run_executed hread hsync hall hwell hat).1 hw
    have hres := hexec _ r (by simp) hrun
    rw [← herr]
    cases hv : v.error with
    | none =>
      simp only [Outcome.bind, concluded, hv] at hres
      simp [hres, Outcome.failed]
    | some se =>
      simp only [Outcome.bind, concluded, hv] at hres
      exact hres

namespace Pipeline

open ZeroPostgres.Pipeline

/-! ### Execution through a pipeline -/

/-- Queue a statement and claim it. -/
def execAndClaim (statement : StatementRef) (params : Params) (handler : Handler) :
    Act Error (Pipeline P) (List Callback) := do
  let ticket ← exec statement params
  claimWithHandler ticket handler

/-- The part of it that has the handler: up to where the reply to the statement is read. -/
def execAndRead (statement : StatementRef) (params : Params) (handler : Handler) :
    Act Error (Pipeline P) (List Callback) := do
  let ticket ← exec statement params
  sync
  let expectation ← popExpectation
  claimExpectation expectation ticket handler

/-- The kind of operation a statement is queued as. -/
def kindOf : StatementRef → OpKind
  | .sql _ => .sql
  | .prepared _ => .prepared

/-- A new pipeline with one statement queued. -/
def queued (c : Conn P) (statement : StatementRef) (params : Params) (values : Bytes) :
    Pipeline P :=
  { conn := { c with bufferSet := { c.bufferSet with
      writeBuffer := request statement params values } }
    queueSeq := 1, claimSeq := 0, aborted := false, columnBuffer := []
    expectations := [(kindOf statement).expectation] }

/-- A new pipeline that has sent one statement and is about to read its reply. -/
def awaiting (c : Conn P) (statement : StatementRef) (params : Params) (values : Bytes) :
    Pipeline P :=
  { conn := { c with
      stream := c.stream.sendAll (claimFrames statement params values)
      bufferSet := { c.bufferSet with writeBuffer := [] } }
    queueSeq := 1, claimSeq := 0, aborted := false, columnBuffer := [], expectations := [.sync] }

theorem exec_run (hencode : params.encode (statement.targetOids params) = .ok values) :
    exec statement params (new c) =
      (.ok ((new c).nextTicket statement), queued c statement params values) := by
  have hexec := queueExec_run statement params (new c)
  rw [hencode] at hexec
  refine hexec.trans ?_
  cases statement <;> rfl

/-- The statement and its Sync are sent. -/
theorem sync_run (hcut : c.stream.cut = none) :
    sync (queued c statement params values) = (.ok (), { awaiting c statement params values with
      expectations := [(kindOf statement).expectation, .sync] }) := by
  have hcut : (queued c statement params values).conn.stream.cut = none := hcut
  simp [sync, marking, syncInner, Act.bind_run, appendWrite, pushExpectation, clearWrite, onConn,
    setWriteBuffer, send, writeAll, flushStream, awaitPoint, hcut]
  exact ⟨rfl, rfl, rfl, rfl, rfl, rfl⟩

theorem execAndRead_run (hcut : c.stream.cut = none)
    (hencode : params.encode (statement.targetOids params) = .ok values) (handler : Handler) :
    execAndRead statement params handler (new c) =
      claimExpectation (some (kindOf statement).expectation) ((new c).nextTicket statement) handler
        (awaiting c statement params values) := by
  rw [execAndRead, Act.bind_run, exec_run hencode]
  dsimp only
  rw [Act.bind_run, sync_run hcut]
  rfl

/-- The claim reads the reply and settles with the Sync behind it. -/
theorem execAndClaim_run (hcut : c.stream.cut = none)
    (hencode : params.encode (statement.targetOids params) = .ok values) (handler : Handler) :
    execAndClaim statement params handler (new c) =
      (Act.attempt (claimExpectation (some (kindOf statement).expectation)
        ((new c).nextTicket statement) handler) >>= settle)
        (awaiting c statement params values) := by
  have hwritten : (queued c statement params values).buffers.writeBuffer ≠ [] := by
    cases statement <;> simp [queued, buffers, request]
  have hseq : ((new c).nextTicket statement).seq = 0 := by cases statement <;> rfl
  rw [execAndClaim, Act.bind_run, exec_run hencode]
  change claimWithHandler ((new c).nextTicket statement) handler
    (queued c statement params values) = _
  rw [claimWithHandler, hseq, Act.bind_run]
  change (if (queued c statement params values).buffers.writeBuffer ≠ [] then
    sync >>= fun _ => claimFront ((new c).nextTicket statement) handler
    else claimFront ((new c).nextTicket statement) handler) (queued c statement params values) = _
  rw [if_pos hwritten, Act.bind_run, sync_run hcut]
  rfl

/-- Nothing waits behind the statement but the reply of the server. -/
theorem awaiting_unread (ha : c.Aligned) :
    ZeroPostgres.Pipeline.unread (awaiting c statement params values) =
      core (c.reply (claimFrames statement params values)) := by
  have hunread : core c.stream.inbound = [] := ha.1
  simp only [ZeroPostgres.Pipeline.unread, Conn.unread, awaiting, Stream.sendAll_inbound,
    core_append, hunread]
  rfl

/-! ### What a claim delivers -/

theorem silent_delivers (ending : Ending) :
    Delivers (fun handler => silent handler ending) (ending.tags.map .resultEnd)
      (ending.error?.map .server) := by
  constructor
  · intro handler e hr
    cases ending with
    | complete tag =>
      rcases hr with he | ⟨-, hr⟩
      · rw [List.nil_append] at he
        simp [silent, he]
      · exact hr.elim
    | empty => exact hr.elim
    | error e => exact hr.elim
  · intro handler hw
    cases ending with
    | complete tag =>
      have ha : handler.accept [.resultEnd tag] = .ok () := hw.1
      simp [Ending.error?, silent, ha, Outcome.failed]
    | empty => simp [Ending.error?, silent, Outcome.failed]
    | error e => simp [Ending.error?, silent]

theorem silent_ne_halt (handler : Handler) (ending : Ending) : silent handler ending ≠ .halt := by
  cases ending with
  | complete tag => cases ha : handler.accept [.resultEnd tag] <;> simp [silent, ha]
  | empty => simp [silent]
  | error e => simp [silent]

/-- A conformant server answers a claimed statement and then its Sync. -/
theorem claim_reading (hP : P.NoCopy) (ha : c.Aligned)
    (hopen : (P.session (P.feed c.stream.peer (claimFrames statement params values)).2).mode ≠
      .closed) :
    ∃ fate sync status r₁ r₂,
      core (c.reply (claimFrames statement params values)) = r₁ ++ r₂ ∧
      Reading (kindOf statement).first fate r₁ ∧ SyncReply fate.error?.isSome sync status r₂ := by
  have hm : (P.session c.stream.peer).mode = .ready := ha.2
  have hframes : OpFrames (kindOf statement) (request statement params values) := by
    cases statement with
    | sql text => exact .sql
    | prepared stmt => exact .prepared
  have hsynced := feed_synced (answersWith_of_answersFrom (feed_op hP hm hframes))
  obtain ⟨-, error, sync, status, r₁, r₂, hcore, ⟨fate, hread, rfl⟩, hsync⟩ :=
    hsynced.resolve_left hopen
  exact ⟨fate, sync, status, r₁, r₂, hcore, hread, hsync⟩

/-- A claim on a statement without columns: the reply is silent but for the end of the statement,
with the tags and the errors of the reply to `exec`. -/
theorem claim_silent (hP : P.NoCopy) (h : c.Serves statement params)
    (hencode : params.encode (statement.targetOids params) = .ok values)
    (hbare : ∀ m ∈ core (c.reply (execFrames statement params values)), Bare m) :
    ∃ ending sync,
      ending.tags = tagsIn (core (c.reply (execFrames statement params values))) ∧
      ending.error?.toList ++ sync.toList =
        errorsIn (core (c.reply (execFrames statement params values))) ∧
      Delivers (fun handler => (execAndRead statement params handler (new c)).1)
        (ending.tags.map .resultEnd) (ending.error?.map .server) ∧
      ∀ handler, (execAndClaim statement params handler (new c)).1.failed = true ↔
        sync ≠ none ∨ (silent handler ending).failed = true := by
  have hopen := h.openClaim
  have hsame := h.same
  simp only [OpenAfter, hencode] at hopen
  simp only [replyTo, hencode] at hsame
  obtain ⟨fate, sync, status, r₁, r₂, hcore, hread, hsync⟩ := claim_reading hP h.aligned hopen
  have hrow : ∀ m ∈ r₁, m.type ≠ .dataRow := by
    intro m hm ht
    have hmem : m ∈ undescribed (c.reply (claimFrames statement params values)) := by
      refine List.mem_filter.mpr ⟨?_, by simp [ht]⟩
      rw [hcore]
      exact List.mem_append_left _ hm
    rw [← hsame] at hmem
    exact (hbare m (List.mem_filter.mp hmem).1).2 ht
  have hcols : ∀ m ∈ r₁, m.type ≠ .rowDescription := by
    intro m hm ht
    cases statement with
    | sql text =>
      refine (hbare m ?_).1 ht
      have hmem : m ∈ r₁ ++ r₂ := List.mem_append_left _ hm
      rw [← hcore] at hmem
      exact hmem
    | prepared stmt =>
      rcases (hread.consists (.inl rfl)).messages m hm with ⟨htypes, -⟩ | ⟨e, he⟩
      · rw [ht] at htypes
        exact absurd htypes (by decide)
      · cases ht.symm.trans he.1
  obtain ⟨ending, rfl, htags⟩ := hread.silent (by cases statement <;> rfl)
    fun m hm => ⟨hcols m hm, hrow m hm⟩
  have herror : (Fate.ran none [] ending).error? = ending.error? := by cases ending <;> rfl
  -- the reply is read to its Sync
  have hreads (handler : Handler) : Reaches (claimExpectation (some (kindOf statement).expectation)
      ((new c).nextTicket statement) handler) (awaiting c statement params values) r₂
      (silent handler ending) :=
    claimExpectation_silent hread _ ((awaiting_unread h.aligned).trans hcore)
      (by simp [awaiting, h.uncut])
  have hrun (handler : Handler) :
      (execAndRead statement params handler (new c)).1 = silent handler ending := by
    obtain ⟨p', hrun, -⟩ := hreads handler
    rw [execAndRead_run h.uncut hencode, hrun]
  refine ⟨ending, sync, ?_, ?_, ?_, ?_⟩
  · rw [← tagsIn_undescribed, hsame, tagsIn_undescribed, hcore, tagsIn_append, hsync.bare.2,
      List.append_nil, htags]
  · rw [← errorsIn_undescribed, hsame, errorsIn_undescribed, hcore, errorsIn_append,
      hread.errorsIn_eq, hsync.errorsIn_eq, herror]
  · simp only [hrun]
    exact silent_delivers ending
  · intro handler
    obtain ⟨p', hclaim, hr, hun⟩ := hreads handler
    have hsettle (result : Except Error (List Callback)) := settle_failed result hsync
      hun (hr.nocut (by simp [awaiting, h.uncut])) hr.expectations
    rw [execAndClaim_run h.uncut hencode, Act.bind_run, Act.attempt_run, hclaim]
    cases hs : silent handler ending with
    | ok calls =>
      simp only [hsettle]
      simp [Outcome.failed, Except.isOk, Except.toBool]
    | err e =>
      simp only [hsettle]
      simp [Outcome.failed, Except.isOk, Except.toBool]
    | halt => exact absurd hs (silent_ne_halt handler ending)

end Pipeline

open Sync.Pipeline in
/-- A statement gives the same result events through a connection and through a pipeline: its
handler is called with the same sequences of calls, and the same of the two return an error. -/
structure SameEvents (c : Conn P) (statement : StatementRef) (params : Params)
    (handler : Handler) : Prop where
  calls : ∀ cs, Makes (fun handler => (Conn.exec statement params handler c).1) handler cs ↔
    Makes (fun handler => (execAndRead statement params handler (new c)).1) handler cs
  fails : (Conn.exec statement params handler c).1.failed =
    (execAndClaim statement params handler (new c)).1.failed

open Sync.Pipeline in
/-- Parameters that do not encode: both fail, and nothing is sent. -/
theorem sameEvents_of_error {e : Error}
    (hencode : params.encode (statement.targetOids params) = .error e) (handler : Handler) :
    SameEvents c statement params handler := by
  have hconn (handler : Handler) : (Conn.exec statement params handler c).1 = .err e := by
    have hstart := startExec_error hencode handler c.bufferSet
    have hinner : (execInner statement params handler c).1 = .err e := by
      simp only [execInner, Act.bind_run, Act.get_run, hstart, Act.modify_run,
        Act.ofExcept_error_run]
    rw [Conn.exec, guarded_eq, if_neg (by simp [Driver.refuses]), ← hinner, markBroken]
    rcases execInner statement params handler c with ⟨_ | _ | _, _⟩ <;> rfl
  have hexec : (Pipeline.exec statement params (new c)).1 = .err e := by
    rw [Pipeline.exec, ZeroPostgres.Pipeline.queueExec_run, hencode]
  have hread (handler : Handler) : (execAndRead statement params handler (new c)).1 = .err e := by
    rw [execAndRead, Act.bind_run]
    rcases hrun : Pipeline.exec statement params (new c) with ⟨o, p⟩
    rw [hrun] at hexec
    obtain rfl : o = .err e := hexec
    rfl
  have hclaim (handler : Handler) : (execAndClaim statement params handler (new c)).1 = .err e := by
    rw [execAndClaim, Act.bind_run]
    rcases hrun : Pipeline.exec statement params (new c) with ⟨o, p⟩
    rw [hrun] at hexec
    obtain rfl : o = .err e := hexec
    rfl
  constructor
  · intro cs
    exact iff_of_false (not_makes_of_const fun e => hconn _) (not_makes_of_const fun e => hread _)
  · rw [hconn, hclaim]

/-- Whether there is an error is told from the errors of a whole reply. -/
private theorem some_error_iff {a s a' s' : Option ServerError}
    (h : a.toList ++ s.toList = a'.toList ++ s'.toList) :
    a.or s ≠ none ↔ a' ≠ none ∨ s' ≠ none := by
  cases a <;> cases s <;> cases a' <;> cases s' <;> simp at h ⊢

theorem announcesColumns_iff {r₁ r₂ : List RawMessage} {skipping : Bool}
    {sync : Option ServerError} {status : TransactionStatus}
    (hencode : params.encode (statement.targetOids params) = .ok values)
    (hcore : core (c.reply (execFrames statement params values)) = r₁ ++ r₂)
    (hsync : SyncReply skipping sync status r₂) :
    c.AnnouncesColumns statement params ↔ ∃ m ∈ r₁, m.type = .rowDescription := by
  simp only [AnnouncesColumns, replyTo, hencode]
  constructor
  · rintro ⟨m, hm, ht⟩
    have hmem : m ∈ r₁ ++ r₂ := by
      rw [← hcore]
      exact List.mem_filter.mpr ⟨hm, by simp [RawMessage.isAsync, ht, MsgType.isAsync]⟩
    rcases List.mem_append.mp hmem with hm | hm
    · exact ⟨m, hm, ht⟩
    · exact absurd ht (hsync.bare.1 m hm).1
  · rintro ⟨m, hm, ht⟩
    have hmem : m ∈ r₁ ++ r₂ := List.mem_append_left _ hm
    rw [← hcore] at hmem
    exact ⟨m, (List.mem_filter.mp hmem).1, ht⟩

open Sync.Pipeline in
/-- A claim never announces columns. -/
theorem not_makes_resultStart (hcut : c.stream.cut = none)
    (hencode : params.encode (statement.targetOids params) = .ok values) (handler : Handler)
    (cols : List FieldDescription) :
    ¬ Makes (fun handler => (execAndRead statement params handler (new c)).1) handler
      [.resultStart cols] := by
  refine not_makes_of_const (o := (execAndRead statement params handler (new c)).1) fun e => ?_
  have hagree : AgreeUnannounced (handler.refusing [.resultStart cols] e) handler := by
    intro calls hcalls
    have hne : calls ≠ [.resultStart cols] := by
      rintro rfl
      exact absurd (hcalls _ List.mem_cons_self) (by simp [Callback.announces])
    rw [refusing_accept, if_neg hne]
  rw [execAndRead_run hcut hencode, execAndRead_run hcut hencode, claimExpectation_congr hagree]

/-- A handler cannot tell a pipeline from a connection exactly when the server announces no columns
for the statement: a claim never calls `result_start`. -/
theorem sameEvents_iff (hP : P.NoCopy) (h : c.Serves statement params) (handler : Handler) :
    SameEvents c statement params handler ↔ ¬ c.AnnouncesColumns statement params := by
  cases hencode : params.encode (statement.targetOids params) with
  | error e =>
    refine iff_of_true (sameEvents_of_error hencode handler) ?_
    rintro ⟨m, hm, -⟩
    simp only [replyTo, hencode] at hm
    cases hm
  | ok values =>
    obtain ⟨fate, sync, status, r₁, r₂, hcore, hread, hsync, hexec⟩ := exec_delivers hP h hencode
    rw [announcesColumns_iff hencode hcore hsync]
    have hstage : (execStage statement).Undescribed := by cases statement <;> trivial
    rcases hread.announces_or_bare hstage with ⟨hann, cols, cs, hcalls⟩ | ⟨hbare, hcalls⟩
    · -- `exec` announces the columns first, and a claim does not
      refine iff_of_false ?_ (not_not_intro hann)
      intro hsame
      rw [hcalls] at hexec
      exact not_makes_resultStart h.uncut hencode handler cols
        ((hsame.calls _).mp (hexec.makes_head handler))
    · refine iff_of_true ?_ fun ⟨m, hm, ht⟩ => (hbare m hm).1 ht
      have hall : ∀ m ∈ core (c.reply (execFrames statement params values)), Bare m := by
        rw [hcore]
        exact List.forall_mem_append.mpr ⟨hbare, hsync.bare.1⟩
      obtain ⟨ending, sync', htags, herrors, hclaim, hfails⟩ :=
        Pipeline.claim_silent hP h hencode hall
      rw [hcore, tagsIn_append, hsync.bare.2, List.append_nil] at htags
      rw [hcore, errorsIn_append, hread.errorsIn_eq, hsync.errorsIn_eq] at herrors
      rw [hcalls, ← htags] at hexec
      refine ⟨hexec.makes_iff hclaim handler, ?_⟩
      have herror : (fate.error?.or sync).map Error.server ≠ none ↔
          sync' ≠ none ∨ ending.error?.map Error.server ≠ none := by
        simpa [or_comm] using some_error_iff herrors.symm
      rw [Bool.eq_iff_iff, hexec.failed_iff, hfails, (Pipeline.silent_delivers ending).failed_iff,
        herror, or_assoc]

/-- A connection to a server at which every statement behaves alike. -/
def fresh (behaviour : Reference.Behaviour) : Conn (Reference.scripted fun _ => behaviour) :=
  Conn.fresh Reference.start ⟨⟩

theorem sameEvents_iff_command :
    SameEvents (fresh .command) (.sql "UPDATE") .none DropHandler :=
  (sameEvents_iff (P := Reference.scripted fun _ => .command) (c := fresh .command)
    (Reference.peer_noCopy _) ⟨by decide +kernel, by decide +kernel, rfl, by decide +kernel,
      by decide +kernel, by decide +kernel⟩ DropHandler).mpr (by decide +kernel)

/-- A handler that refuses a result without columns when it is announced. -/
def refusingStart : Handler := DropHandler.refusing [.resultStart []] (.io "refused")

/-- `exec` fails with the error of such a handler, and a claim never asks it. -/
theorem sameEvents_not_all :
    ¬ ∀ (P : Peer) (c : Conn P) (statement : StatementRef) (params : Params) (handler : Handler),
      P.NoCopy → c.Serves statement params → SameEvents c statement params handler := by
  intro hall
  have hsame := hall _ (fresh (.select 2)) (.sql "SELECT") .none refusingStart
    (Reference.peer_noCopy _)
    ⟨by decide +kernel, by decide +kernel, rfl, by decide +kernel, by decide +kernel,
      by decide +kernel⟩
  exact absurd hsame.fails (by decide +kernel)

end Sync

end ZeroPostgres
