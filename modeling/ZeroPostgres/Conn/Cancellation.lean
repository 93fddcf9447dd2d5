import ZeroPostgres.Conn.Tidy

/-!
# Cancellation in the asynchronous client

A run is any sequence of calls on an asynchronous connection, each of which may be dropped at any
await point. `after_tidy` says that the connection stays tidy throughout, `refuses_run` that a
broken connection sends nothing and refuses every operation.
-/

namespace ZeroPostgres

open Act

namespace Tokio

open ZeroPostgres.Conn

variable {P : Peer} {α β : Type}

/-! ### Aside from exchanges -/

/-- A change aside from exchanges: nothing is sent or read, the transaction status stays, and the
connection is not made ready for an exchange. -/
structure Quiet (c c' : Conn P) : Prop where
  stream : c'.stream = c.stream
  transactionStatus : c'.transactionStatus = c.transactionStatus
  ready : c'.exchangeReady = true → c.exchangeReady = true

/-- A relation that such changes keep. -/
class KeptAside (R : Conn P → Conn P → Prop) : Prop extends Std.Refl R, IsTrans (Conn P) R where
  quiet : ∀ {c c' : Conn P}, Quiet c c' → R c c'

section Aside

variable {R : Conn P → Conn P → Prop} [KeptAside R]

theorem modify_keeps {f : Conn P → Conn P} (h : ∀ c, Quiet c (f c)) :
    Keeps R (Act.modify f : Act Error (Conn P) Unit) := keeps_modify fun c => KeptAside.quiet (h c)

theorem setWriteBuffer_keeps (fs : List Frontend) :
    Keeps R (setWriteBuffer fs : Act Error (Conn P) Unit) := modify_keeps fun _ => ⟨rfl, rfl, id⟩

theorem setScopePending_keeps (pending : Bool) :
    Keeps R (setScopePending pending : Act Error (Conn P) Unit) :=
  modify_keeps fun _ => ⟨rfl, rfl, id⟩

theorem countNames_keeps (n : Conn P → Nat) :
    Keeps R (Act.modify fun c => { c with nameCounter := n c } : Act Error (Conn P) Unit) :=
  modify_keeps fun _ => ⟨rfl, rfl, id⟩

theorem nextPortalName_keeps : Keeps R (nextPortalName : Act Error (Conn P) String) :=
  (countNames_keeps fun c => c.nameCounter + 1).bind fun _ => keeps_get.bind fun _ => keeps_pure _

theorem ensureUsable_keeps : Keeps R (ensureUsable : Act Error (Conn P) Unit) :=
  keeps_of_snd_eq fun c => by unfold ensureUsable; split <;> rfl

theorem checkTransaction_keeps (tx : Transaction) :
    Keeps R (checkTransaction tx : Act Error (Conn P) Unit) := by
  refine keeps_get.bind fun c => ?_
  split
  · exact keeps_fail _
  · exact keeps_pure _

/-- A connection marked broken is not ready for an exchange. -/
theorem quiet_broken (c : Conn P) : Quiet c { c with broken := true } :=
  ⟨rfl, rfl, fun h => by simp [Conn.exchangeReady, Driver.exchangeReady] at h⟩

theorem marked_keeps {x : Act Error (Conn P) α} (h : Keeps R x) : Keeps R (markBroken x) := by
  refine ⟨fun c => ?_⟩
  have hx := h.rel c
  unfold markBroken
  generalize x c = r at hx ⊢
  rcases r with ⟨_ | e | _, c'⟩
  · exact hx
  · dsimp only
    split
    · exact IsTrans.trans _ _ _ hx (KeptAside.quiet (quiet_broken c'))
    · exact hx
  · exact hx

theorem guarded_keeps {x : Act Error (Conn P) α} (h : Keeps R x) : Keeps R (guarded x) :=
  ensureUsable_keeps.bind fun _ => marked_keeps h

end Aside

/-! ### What keeps a connection tidy -/

/-- From `c` to `c'` a tidy connection stays tidy. -/
def Tidies (c c' : Conn P) : Prop := Tidy c → Tidy c'

theorem keeps_tidies {x : Act Error (Conn P) α}
    (h : ∀ c, Tidy c → Act.Meets x c fun _ c' => Tidy c') : Keeps Tidies x := ⟨h⟩

/-- Nothing is sent or read, and the connection is not made ready for an exchange. -/
theorem Tidy.of_eq {c c' : Conn P} (h : Tidy c) (hin : c'.stream.inbound = c.stream.inbound)
    (hpeer : c'.stream.peer = c.stream.peer)
    (hready : c'.exchangeReady = true → c.exchangeReady = true) : Tidy c' := by
  intro hr
  unfold unread session Stream.session
  rw [hin, hpeer]
  exact h (hready hr)

instance : KeptAside (Tidies (P := P)) where
  refl _ := id
  trans _ _ _ h h' ht := h' (h ht)
  quiet h ht := ht.of_eq (by rw [h.stream]) (by rw [h.stream]) h.ready

theorem setStatus_tidies (status : TransactionStatus) :
    Keeps Tidies (setStatus status : Act Error (Conn P) Unit) :=
  keeps_modify fun _ ht => ht.of_eq rfl rfl id

/-- A call leaves a tidy connection tidy, dropped or not. -/
theorem withCut_tidy {x : Act Error (Conn P) α} {c : Conn P} {cut : Option Cut}
    (h : Act.Meets x { c with stream := { c.stream with cut } } fun _ c' => Tidy c') :
    Act.Meets (withCut cut x) c fun _ c' => Tidy c' :=
  Tidy.of_eq h.at rfl rfl id

theorem withCut_tidies {x : Act Error (Conn P) α} (h : Keeps Tidies x) (cut : Option Cut) :
    Keeps Tidies (withCut cut x) :=
  keeps_tidies fun c ht => withCut_tidy
    (h.rel { c with stream := { c.stream with cut } } (Tidy.of_eq ht rfl rfl id))

/-- Sequencing at a state. -/
theorem tidy_bind {x : Act Error (Conn P) α} {f : α → Act Error (Conn P) β} {c : Conn P}
    (hx : Act.Meets x c fun _ c' => Tidy c') (hf : ∀ a, Keeps Tidies (f a)) :
    Act.Meets (x >>= f) c fun _ c' => Tidy c' := by
  refine Act.meets_bind.mpr (hx.mono fun o c' ht => ?_)
  cases o with
  | ok a => exact (hf a).rel c' ht
  | err e => exact ht
  | halt => exact ht

/-! ### Exchanges -/

/-- The exchange of a query machine. -/
theorem drive_tidy {S : Type} [StateMachine S] [LawfulStateMachine S] {m m₁ : S} {c : Conn P}
    {b₁ : BufferSet} {fs : List Frontend} {f : Frontend}
    (hfirst : StateMachine.step (m, c.bufferSet) = (.ok .writeAndReadMessage, (m₁, b₁)))
    (hs : HandlerMachine.Started m₁) (hfs : b₁.writeBuffer = fs ++ [f])
    (hask : ∀ g ∈ fs, g.asksReady = false) (ht : Tidy c) :
    Act.Meets (drive m) c fun _ c' => Tidy c' := by
  refine exchangeWith_tidy
    (synced_steady (LawfulStateMachine.endsAtReady S) driveRound_rounded driveRound_halts)
    driveRound_still (fun _ => isAsync_of_isReady) hfirst hs (fun hc => ?_) ht
  rw [hfs]
  exact feed_ends_past f hc hask

theorem queryInner_tidies (sql : String) (handler : Handler) :
    Keeps Tidies (queryInner sql handler : Act Error (Conn P) (List Callback)) := by
  refine Keeps.bind (keeps_tidies fun c ht => ?_) fun _ => keeps_pure _
  exact drive_tidy (SimpleQueryStateMachine.step_new handler sql c.bufferSet)
    (by simp [HandlerMachine.Started]) (List.nil_append [_]).symm (by simp) ht

/-- The exchange of a request once it is written. -/
theorem driveRequest_tidy (request : ExtendedQueryStateMachine.Request) {handler : Handler}
    {b : BufferSet} {m₀ : ExtendedQueryStateMachine} {c : Conn P}
    (hstart : request.start handler b = (.ok m₀, c.bufferSet)) (ht : Tidy c) :
    Act.Meets (drive m₀) c fun _ c' => Tidy c' := by
  obtain ⟨-, fs, hfs, hask⟩ := request_frames hstart
  obtain ⟨m₁, hfirst, hstate, -⟩ := ExtendedQueryStateMachine.step_request hstart
  have hs : m₁.state ≠ .initial := by
    rw [hstate]
    cases m₁.operation <;> simp [ExtendedQueryStateMachine.firstState]
  exact drive_tidy hfirst hs hfs hask ht

theorem prepareInner_tidies (idx : Nat) (sql : String) (paramOids : List Oid) :
    Keeps Tidies (prepareInner idx sql paramOids : Act Error (Conn P) PreparedStatement) := by
  refine keeps_tidies fun c ht => ?_
  refine Act.meets_bind.mpr (Act.meets_get.mpr (Act.meets_bind.mpr (Act.meets_modify.mpr ?_)))
  refine tidy_bind (driveRequest_tidy (.prepare idx sql paramOids) rfl
    (ht.of_eq rfl rfl id)) fun m => ?_
  cases m.preparedStmt with
  | some stmt => exact keeps_pure _
  | none => exact keeps_fail _

theorem closeStatementInner_tidies (name : String) :
    Keeps Tidies (closeStatementInner name : Act Error (Conn P) Unit) := by
  refine keeps_tidies fun c ht => ?_
  refine Act.meets_bind.mpr (Act.meets_get.mpr (Act.meets_bind.mpr (Act.meets_modify.mpr ?_)))
  exact tidy_bind (driveRequest_tidy (.closeStatement name) rfl (ht.of_eq rfl rfl id))
    fun _ => keeps_pure _

theorem execInner_tidies (statement : StatementRef) (params : Params) (handler : Handler) :
    Keeps Tidies (execInner statement params handler : Act Error (Conn P) (List Callback)) := by
  refine keeps_tidies fun c ht => Act.meets_bind.mpr (Act.meets_get.mpr ?_)
  dsimp only
  rcases hstart : startExec handler c.bufferSet statement params with ⟨e | m, b⟩
  · exact ht.of_eq rfl rfl id
  · refine Act.meets_bind.mpr (Act.meets_modify.mpr (Act.meets_bind.mpr ?_))
    rw [startExec_eq] at hstart
    exact tidy_bind (driveRequest_tidy _ hstart (ht.of_eq rfl rfl id)) fun _ => keeps_pure _

theorem prepareBatchInner_tidies (queries : List String) (startIdx : Nat) :
    Keeps Tidies (prepareBatchInner queries startIdx :
      Act Error (Conn P) (List PreparedStatement)) := by
  refine keeps_tidies fun c ht => ?_
  let b₀ := (BatchPrepareStateMachine.startAt c.bufferSet queries startIdx).2
  let m₀ := (BatchPrepareStateMachine.startAt c.bufferSet queries startIdx).1
  let m₁ : BatchPrepareStateMachine := { m₀ with state := .processing }
  have hfirst : BatchPrepareStateMachine.step (m₀, b₀) = (.ok .writeAndReadMessage, (m₁, b₀)) := rfl
  refine Act.meets_bind.mpr (Act.meets_get.mpr (Act.meets_bind.mpr (Act.meets_modify.mpr ?_)))
  exact exchangeWith_tidy (c := { c with bufferSet := b₀ })
    (synced_steady BatchPrepareStateMachine.endsAtReady prepareBatchRound_rounded
      prepareBatchRound_halts)
    prepareBatchRound_still (fun _ => isAsync_of_isReady) hfirst
    (by simp [BatchPrepareStateMachine.Started, m₁])
    (fun hc => feed_ends_past .sync hc (numberStatements_asks startIdx queries))
    (ht.of_eq rfl rfl id)

/-- The chunks of `exec_batch`, one after the other. -/
theorem execChunks_tidies (statement : StatementRef) (oids : List Oid) (name : String)
    (chunks : List (List Params)) :
    Keeps Tidies (execChunks statement oids name chunks : Act Error (Conn P) Unit) := by
  induction chunks with
  | nil => exact keeps_pure _
  | cons chunk chunks ih =>
    refine keeps_tidies fun c ht => Act.meets_bind.mpr (Act.meets_modify.mpr ?_)
    have hhead : ∀ g ∈ chunkHead statement oids, g.asksReady = false := by
      cases statement <;> simp [chunkHead, Frontend.asksReady]
    have hask := writeChunk_asks name oids chunk hhead
    generalize writeChunk (chunkHead statement oids) name oids chunk = written at hask ⊢
    obtain ⟨e | u, buf⟩ := written
    · exact ht.of_eq rfl rfl id
    · refine Act.meets_bind.mpr (Act.meets_ofExcept_ok.mpr (Act.meets_bind.mpr ?_))
      refine Act.meets_modify.mpr (tidy_bind ?_ fun m => (setStatus_tidies _).bind fun _ => ih)
      have hs : (SyncedRequest.chunkStarted statement).Started := by
        cases statement <;> simp [SyncedRequest.chunkStarted, BatchStateMachine.Started]
      exact exchangeWith_tidy
        (c := { c with bufferSet := { c.bufferSet with writeBuffer := buf ++ [.sync] } })
        (synced_steady BatchStateMachine.endsAtReady driveBatchRound_rounded driveBatchRound_halts)
        driveBatchRound_still (fun _ => isAsync_of_isReady)
        (SyncedRequest.step_chunk statement _) hs (fun hc => feed_ends_past .sync hc hask)
        (ht.of_eq rfl rfl id)

theorem execBatchInner_tidies (statement : StatementRef) (paramsList : List Params)
    (chunkSize : Nat) :
    Keeps Tidies (execBatchInner statement paramsList chunkSize : Act Error (Conn P) Unit) := by
  cases paramsList with
  | nil => exact keeps_pure _
  | cons first rest => exact execChunks_tidies _ _ _ _

/-! ### Portals and the low-level calls -/

/-- Binding to a portal once the request is written. -/
theorem driveBind_tidy {portalName : String} {statement : StatementRef} {params : Params}
    {m₀ : BindStateMachine} {b : BufferSet} {c : Conn P}
    (hstart : startBind b portalName statement params = (.ok m₀, c.bufferSet)) (ht : Tidy c) :
    Act.Meets (driveBind m₀) c fun _ c' => Tidy c' := by
  obtain ⟨hinitial, gs, f, hfs, hf, hexec, hgs⟩ := startBind_frames hstart
  obtain ⟨m₁, hs, hfirst⟩ := step_bind_first hinitial c.bufferSet
  refine exchangeWith_tidy bindRound_steady bindRound_still (fun _ => isAsync_of_completes) hfirst
    hs (fun hc => ?_) ht
  rw [hfs]
  exact feed_completes_unexecuted _ _ hc hgs hf hexec _

theorem createNamedPortal_tidies (portalName : String) (statement : StatementRef)
    (params : Params) :
    Keeps Tidies (createNamedPortal portalName statement params : Act Error (Conn P) Unit) := by
  refine ensureUsable_keeps.bind fun _ => keeps_tidies fun c ht => Act.meets_bind.mpr ?_
  exact writePortalBind_meets (fun e b _ => ht.of_eq rfl rfl id) fun m b hstart =>
    driveBind_tidy hstart (ht.of_eq rfl rfl id)

/-- A request that goes out from the write buffer, and the loop that reads its reply. -/
theorem exchange_tidies {Inv : β → Prop} {ends pass : MsgType → Bool} {fs : List Frontend}
    {body : β → RawMessage → Act Error (Conn P) (Flow β α)} (hsteady : Steady Inv ends pass body)
    (hstill : ∀ b m, Keeps Still (body b m)) (hasync : ∀ t, ends t = true → t.isAsync = false)
    {b : β} (hb : Inv b)
    (hends : ∀ st, (P.session st).mode ≠ .copying → P.FinishesPast ends pass st fs) :
    Keeps Tidies (do
      setWriteBuffer fs
      beginExchange
      send
      readMessages body b) := by
  refine keeps_tidies fun c ht => Act.meets_bind.mpr (Act.meets_modify.mpr ?_)
  refine beginExchange_tidy (ht.of_eq rfl rfl id) fun hu hmode => ?_
  refine request_tidy hsteady hstill hasync hb rfl hu (hends _ ?_)
  rcases hmode with h | h <;> intro hcopy <;> cases h.symm.trans hcopy

theorem lowlevelExecuteInner_tidies (portal : String) (maxRows : Nat) (handler : Handler) :
    Keeps Tidies (lowlevelExecuteInner portal maxRows handler :
      Act Error (Conn P) (Bool × List Callback)) :=
  exchange_tidies ((lowlevelExecuteRound_steady handler).mono fun _ => notCopy_of_within)
    (lowlevelExecuteRound_still handler)
    (fun _ => isAsync_of_completes) trivial fun _ hc =>
      feed_completes_past [.describePortal portal] (.execute portal maxRows) hc
        (by simp [Frontend.isExtended, Frontend.describes]) rfl

theorem lowlevelClosePortalInner_tidies (portal : String) :
    Keeps Tidies (lowlevelClosePortalInner portal : Act Error (Conn P) Unit) :=
  exchange_tidies lowlevelClosePortalRound_steady lowlevelClosePortalRound_still
    (fun _ => isAsync_of_completes) trivial fun _ hc =>
      feed_completes_unexecuted [] (.closePortal portal) hc (by simp) rfl rfl _

theorem lowlevelSyncInner_tidies : Keeps Tidies (lowlevelSyncInner : Act Error (Conn P) Unit) :=
  exchange_tidies lowlevelSyncRound_steady (fun b m => mute_still (lowlevelSyncRound_mute b m))
    (fun _ => isAsync_of_isReady) trivial fun _ hc => feed_sync_past hc _

theorem lowlevelBindInner_tidies (portal statementName : String) (params : Params) :
    Keeps Tidies (lowlevelBindInner portal statementName params : Act Error (Conn P) Unit) := by
  unfold lowlevelBindInner
  refine (setWriteBuffer_keeps _).bind fun _ => ?_
  unfold writeBind
  cases params.encode params.naturalOids with
  | error e => exact keeps_tidies fun c ht => ht
  | ok values =>
    exact (keeps_ofExcept _).bind fun _ => exchange_tidies lowlevelBindRound_steady
      (fun u m => mute_still (lowlevelBindRound_mute u m)) (fun _ => isAsync_of_completes) trivial
      fun _ hc => feed_completes_unexecuted [] _ hc (by simp) rfl rfl _

/-- Messages that a server does not answer. -/
theorem feed_unanswered {st : P.State} (fs : List Frontend)
    (hmode : (P.session st).mode = .ready ∨ (P.session st).mode = .closed)
    (hfs : ∀ f ∈ fs, f = .flush ∨ f = .terminate) :
    core (P.feed st fs).1 = [] ∧ ((P.session (P.feed st fs).2).mode = .ready ∨
      (P.session (P.feed st fs).2).mode = .closed) := by
  induction fs generalizing st with
  | nil => exact ⟨rfl, hmode⟩
  | cons f fs ih =>
    have hone : core (P.respond st f).1 = [] ∧ ((P.session (P.respond st f).2).mode = .ready ∨
        (P.session (P.respond st f).2).mode = .closed) := by
      have h := P.conforms st f
      generalize core (P.respond st f).1 = r at h ⊢
      generalize P.session (P.respond st f).2 = s' at h ⊢
      rcases hfs f List.mem_cons_self with rfl | rfl
      · cases h with
        | flush => exact ⟨rfl, hmode⟩
        | closed => exact ⟨rfl, hmode⟩
        | success _ h => cases h
        | error _ h | fatal _ h => cases h
        | discard _ h => rcases h with h | ⟨_, h⟩ <;> cases h
        | discardFatal hskip => rcases hmode with h | h <;> cases h.symm.trans hskip
        | copying hcopying => rcases hmode with h | h <;> cases h.symm.trans hcopying
      · cases h with
        | terminate => exact ⟨rfl, .inr rfl⟩
        | closed => exact ⟨rfl, hmode⟩
        | success _ h => cases h
        | error _ h | fatal _ h => cases h
        | discard _ h => rcases h with h | ⟨_, h⟩ <;> cases h
        | discardFatal hskip => rcases hmode with h | h <;> cases h.symm.trans hskip
        | copying hcopying => rcases hmode with h | h <;> cases h.symm.trans hcopying
    obtain ⟨hnil, hmode'⟩ := ih hone.2 fun g hg => hfs g (List.mem_cons_of_mem _ hg)
    rw [P.feed_cons, core_append, hone.1]
    exact ⟨hnil, hmode'⟩

/-- Sending them, all or some, leaves nothing to be read. -/
theorem send_unanswered {c : Conn P}
    (hfs : ∀ f ∈ c.bufferSet.writeBuffer, f = .flush ∨ f = .terminate) (hu : c.unread = [])
    (hmode : c.session.mode = .ready ∨ c.session.mode = .closed) :
    Act.Meets send c fun _ c' =>
      c'.unread = [] ∧ (c'.session.mode = .ready ∨ c'.session.mode = .closed) := by
  refine (send_talked c).mono fun _ c' h => ?_
  obtain ⟨k, read, htalked⟩ := h
  obtain ⟨hnil, hmode'⟩ := feed_unanswered (c.bufferSet.writeBuffer.take k) hmode
    fun f hf => hfs f (List.mem_of_mem_take hf)
  have hown := htalked.answers_own hu
  rw [hnil] at hown
  refine ⟨(List.append_eq_nil_iff.mp hown.symm).2, ?_⟩
  unfold session Stream.session
  rw [htalked.peer]
  exact hmode'

theorem lowlevelFlush_tidies : Keeps Tidies (lowlevelFlush : Act Error (Conn P) Unit) := by
  refine ensureUsable_keeps.bind fun _ => keeps_tidies fun c ht => ?_
  refine Act.meets_bind.mpr (Act.meets_modify.mpr ?_)
  refine beginExchange_tidy (ht.of_eq rfl rfl id) fun hu hmode => Act.meets_bind.mpr ?_
  let c₁ : Conn P := { c with
    bufferSet := { c.bufferSet with writeBuffer := [.flush] }
    flags := Driver.beginFlags c.flags }
  refine (send_unanswered (c := c₁) (by simp [c₁]) hu hmode).mono fun o c' h => ?_
  cases o with
  | ok _ => exact fun _ => h
  | err e => exact fun _ => h
  | halt => exact fun _ => h

theorem close_tidies : Keeps Tidies (close : Act Error (Conn P) Unit) := by
  refine ensureUsable_keeps.bind fun _ => keeps_tidies fun c ht => ?_
  refine Act.meets_bind.mpr (Act.meets_modify.mpr ?_)
  let c₁ : Conn P := { c with bufferSet := { c.bufferSet with writeBuffer := [.terminate] } }
  have hmarks := (send_marks c₁).at
  intro hready
  obtain ⟨hu, hmode⟩ := ht ((exchangeReady_of_marks hmarks).symm.trans hready)
  exact (send_unanswered (c := c₁) (by simp [c₁]) hu hmode).at

theorem execPortalInner_tidies (bindCut syncCut : Option Cut) (statement : StatementRef)
    (params : Params) (f : PortalProg) :
    Keeps Tidies (execPortalInner bindCut syncCut statement params f :
      Act Error (Conn P) Unit) := by
  refine keeps_tidies fun c ht => Act.meets_bind.mpr ?_
  refine writePortalBind_meets (fun e b _ => ht.of_eq rfl rfl id) fun m b hstart => ?_
  refine Act.meets_bind.mpr (Act.meets_modify.mpr ?_)
  refine tidy_bind (withCut_tidy (driveBind_tidy hstart (ht.of_eq rfl rfl id))) fun _ => ?_
  refine (runPortal_keeps (fun cut _ _ => withCut_tidies (lowlevelExecuteInner_tidies _ _ _) cut)
    f).attempt.bind fun result => ?_
  refine (withCut_tidies lowlevelSyncInner_tidies syncCut).attempt.bind fun syncResult => ?_
  exact keeps_get.bind fun c => (setScopePending_keeps _).bind fun _ => keeps_ofExcept _

/-! ### Operations -/

/-- The operations of an asynchronous connection but for pipelines. The forms of `query`, `prepare`
and `exec` differ in the handler or in what they return only. A transaction is `begin`, then what
its closure does, then `finish` with whether the closure succeeded. -/
inductive Operation where
  | query (sql : String) (handler : Handler)
  | ping
  | prepareTyped (sql : String) (paramOids : List Oid)
  | prepareBatch (queries : List String)
  | exec (statement : StatementRef) (params : Params) (handler : Handler)
  | execBatch (statement : StatementRef) (paramsList : List Params) (chunkSize : Nat)
  | closeStatement (stmt : PreparedStatement)
  | lowlevelFlush
  | lowlevelSync
  | lowlevelBind (portal statementName : String) (params : Params)
  | lowlevelExecute (portal : String) (maxRows : Nat) (handler : Handler)
  | lowlevelClosePortal (portal : String)
  | execPortal (bindCut syncCut : Option Cut) (statement : StatementRef) (params : Params)
      (f : PortalProg)
  | beginTransaction
  | finishTransaction (result : Except Error Unit)
  | commit (tx : Transaction)
  | rollback (tx : Transaction)
  | execPortalNamed (tx : Transaction) (statement : StatementRef) (params : Params)
  | execNamed (portal : NamedPortal) (maxRows : Nat) (handler : Handler)
  | closeNamed (portal : NamedPortal)
  | close

/-- A call without its value. -/
def void (x : Act Error (Conn P) α) : Act Error (Conn P) Unit := do
  let _ ← x
  return ()

namespace Operation

/-- What the operation does. -/
def run : Operation → Act Error (Conn P) Unit
  | .query sql handler => void (ZeroPostgres.Conn.query sql handler)
  | .ping => ZeroPostgres.Conn.ping
  | .prepareTyped sql oids => void (ZeroPostgres.Conn.prepareTyped sql oids)
  | .prepareBatch queries => void (ZeroPostgres.Conn.prepareBatch queries)
  | .exec statement params handler => void (ZeroPostgres.Conn.exec statement params handler)
  | .execBatch statement paramsList chunkSize => execBatchChunked statement paramsList chunkSize
  | .closeStatement stmt => ZeroPostgres.Conn.closeStatement stmt
  | .lowlevelFlush => ZeroPostgres.Conn.lowlevelFlush
  | .lowlevelSync => Tokio.lowlevelSync
  | .lowlevelBind portal name params => ZeroPostgres.Conn.lowlevelBind portal name params
  | .lowlevelExecute portal maxRows handler =>
    void (ZeroPostgres.Conn.lowlevelExecute portal maxRows handler)
  | .lowlevelClosePortal portal => ZeroPostgres.Conn.lowlevelClosePortal portal
  | .execPortal bindCut syncCut statement params f =>
    Tokio.execPortal bindCut syncCut statement params f
  | .beginTransaction => void ZeroPostgres.Conn.beginTransaction
  | .finishTransaction result => endTransaction result
  | .commit tx => ZeroPostgres.Conn.commit tx
  | .rollback tx => ZeroPostgres.Conn.rollback tx
  | .execPortalNamed tx statement params =>
    void (ZeroPostgres.Conn.execPortalNamed tx statement params)
  | .execNamed portal maxRows handler => void (ZeroPostgres.Conn.execNamed portal maxRows handler)
  | .closeNamed portal => ZeroPostgres.Conn.closeNamed Tokio.lowlevelSync portal
  | .close => Tokio.close

/-- The operation begins a call of its own: all do but the end of a transaction, which is a part of
the call that began it. -/
def isCall : Operation → Bool
  | .finishTransaction _ => false
  | _ => true

/-- The operation drives a query machine, and nothing else. -/
def drives : Operation → Bool
  | .query .. | .ping | .prepareTyped .. | .exec .. | .closeStatement _ | .beginTransaction
  | .finishTransaction _ | .commit _ | .rollback _ => true
  | .prepareBatch _ | .execBatch .. | .lowlevelFlush | .lowlevelSync | .lowlevelBind ..
  | .lowlevelExecute .. | .lowlevelClosePortal _ | .execPortal .. | .execPortalNamed ..
  | .execNamed .. | .closeNamed _ | .close => false

theorem void_keeps {R : Conn P → Conn P → Prop} [Std.Refl R] [IsTrans (Conn P) R]
    {x : Act Error (Conn P) α} (h : Keeps R x) : Keeps R (void x) := h.bind fun _ => keeps_pure _

theorem lowlevelSync_unheard : Keeps Unheard (Tokio.lowlevelSync : Act Error (Conn P) Unit) :=
  guarded_unheard (request_unheard _ lowlevelSyncRound_mute none)

theorem execPortal_unheard (bindCut syncCut : Option Cut) (statement : StatementRef)
    (params : Params) (f : PortalProg) :
    Keeps Unheard (Tokio.execPortal bindCut syncCut statement params f :
      Act Error (Conn P) Unit) := by
  have hscope (pending : Bool) :
      Keeps Unheard (setScopePending pending : Act Error (Conn P) Unit) :=
    mute_unheard (modify_mute (fun _ => rfl) (fun _ => id) fun _ => rfl)
  refine guarded_unheard ((writePortalBind_unheard _ _ _).bind fun m => (hscope true).bind
    fun _ => ?_)
  refine (withCut_unheard (driveBind_unheard m) bindCut).bind fun _ => ?_
  refine (runPortal_keeps (fun cut _ _ => withCut_unheard (lowlevelExecuteInner_unheard _ _ _) cut)
    f).attempt.bind fun result => ?_
  refine (withCut_unheard (request_unheard _ lowlevelSyncRound_mute none) syncCut).attempt.bind
    fun syncResult => ?_
  exact keeps_get.bind fun c => (hscope _).bind fun _ => keeps_ofExcept _

theorem close_unheard : Keeps Unheard (Tokio.close : Act Error (Conn P) Unit) :=
  (mute_unheard ensureUsable_mute).bind fun _ => (mute_unheard (setWriteBuffer_mute _)).bind
    fun _ => send_unheard

theorem run_driven {R : Conn P → Conn P → Prop} [KeptByDrive R] {op : Operation}
    (hop : op.drives = true) : Keeps R (op.run : Act Error (Conn P) Unit) := by
  cases op with
  | query sql handler => exact void_keeps (query_keeps sql handler)
  | ping => exact ping_keeps
  | prepareTyped sql oids => exact void_keeps (prepareTyped_keeps sql oids)
  | exec statement params handler => exact void_keeps (exec_keeps statement params handler)
  | closeStatement stmt => exact closeStatement_keeps stmt
  | beginTransaction => exact void_keeps beginTransaction_keeps
  | finishTransaction result => exact endTransaction_keeps result
  | commit tx => exact commit_keeps tx
  | rollback tx => exact rollback_keeps tx
  | _ => cases hop

theorem run_unheard {op : Operation} (hop : op.drives = false) :
    Keeps Unheard (op.run : Act Error (Conn P) Unit) := by
  cases op with
  | prepareBatch queries => exact void_keeps (prepareBatch_unheard queries)
  | execBatch statement paramsList chunkSize => exact execBatchChunked_unheard ..
  | lowlevelFlush => exact lowlevelFlush_unheard
  | lowlevelSync => exact lowlevelSync_unheard
  | lowlevelBind portal name params => exact lowlevelBind_unheard ..
  | lowlevelExecute portal maxRows handler => exact void_keeps (lowlevelExecute_unheard ..)
  | lowlevelClosePortal portal => exact lowlevelClosePortal_unheard portal
  | execPortal bindCut syncCut statement params f => exact execPortal_unheard ..
  | execPortalNamed tx statement params => exact void_keeps (execPortalNamed_unheard ..)
  | execNamed portal maxRows handler => exact void_keeps (execNamed_unheard ..)
  | closeNamed portal => exact closeNamed_unheard lowlevelSync_unheard portal
  | close => exact close_unheard
  | _ => cases hop

/-- Every operation talks over its connection, however it ends. -/
theorem run_talks (op : Operation) : Keeps Talks (op.run : Act Error (Conn P) Unit) := by
  cases hop : op.drives with
  | true => exact run_driven hop
  | false => exact unheard_talks (run_unheard hop)

end Operation

/-! ### What operations keep -/

/-- A relation that every exchange of an operation keeps, dropped on the way or not. -/
class KeptByOperations (R : Conn P → Conn P → Prop) : Prop extends KeptAside R where
  withCut : ∀ {α : Type} {x : Act Error (Conn P) α} (cut : Option Cut), Keeps R x →
    Keeps R (withCut cut x)
  queryInner : ∀ sql handler, Keeps R (queryInner sql handler)
  prepareInner : ∀ idx sql oids, Keeps R (prepareInner idx sql oids)
  prepareBatchInner : ∀ queries idx, Keeps R (prepareBatchInner queries idx)
  execInner : ∀ statement params handler, Keeps R (execInner statement params handler)
  execBatchInner : ∀ statement paramsList size, Keeps R (execBatchInner statement paramsList size)
  closeStatementInner : ∀ name, Keeps R (closeStatementInner name)
  createNamedPortal : ∀ name statement params, Keeps R (createNamedPortal name statement params)
  execPortalInner : ∀ bindCut syncCut statement params f,
    Keeps R (execPortalInner bindCut syncCut statement params f)
  lowlevelFlush : Keeps R lowlevelFlush
  lowlevelSyncInner : Keeps R lowlevelSyncInner
  lowlevelBindInner : ∀ portal name params, Keeps R (lowlevelBindInner portal name params)
  lowlevelExecuteInner : ∀ portal maxRows handler,
    Keeps R (lowlevelExecuteInner portal maxRows handler)
  lowlevelClosePortalInner : ∀ portal, Keeps R (lowlevelClosePortalInner portal)
  close : Keeps R close

namespace Operation

variable {R : Conn P → Conn P → Prop} [KeptByOperations R]

theorem queryDrop_keeps (sql : String) :
    Keeps R (queryDrop sql : Act Error (Conn P) (List Callback)) :=
  guarded_keeps (KeptByOperations.queryInner sql _)

theorem endTransaction_keeps (result : Except Error Unit) :
    Keeps R (endTransaction result : Act Error (Conn P) Unit) := by
  refine keeps_get.bind fun c => ?_
  split
  · cases result with
    | ok a => exact (queryDrop_keeps _).bind fun _ => keeps_pure _
    | error e => exact (queryDrop_keeps _).attempt.bind fun _ => keeps_fail _
  · exact keeps_ofExcept _

/-- Every operation keeps it, however it ends. -/
theorem run_keeps (op : Operation) : Keeps R (op.run : Act Error (Conn P) Unit) := by
  cases op with
  | query sql handler => exact void_keeps (guarded_keeps (KeptByOperations.queryInner _ _))
  | ping => exact (queryDrop_keeps "").bind fun _ => keeps_pure _
  | prepareTyped sql oids =>
    exact void_keeps (ensureUsable_keeps.bind fun _ => (countNames_keeps _).bind fun _ =>
      keeps_get.bind fun c => marked_keeps (KeptByOperations.prepareInner _ sql oids))
  | prepareBatch queries =>
    refine void_keeps (ensureUsable_keeps.bind fun _ => ?_)
    cases queries with
    | nil => exact keeps_pure _
    | cons query queries =>
      exact keeps_get.bind fun c => (countNames_keeps _).bind fun _ =>
        marked_keeps (KeptByOperations.prepareBatchInner _ _)
  | exec statement params handler =>
    exact void_keeps (guarded_keeps (KeptByOperations.execInner _ _ _))
  | execBatch statement paramsList chunkSize =>
    exact guarded_keeps (KeptByOperations.execBatchInner _ _ _)
  | closeStatement stmt => exact guarded_keeps (KeptByOperations.closeStatementInner _)
  | lowlevelFlush => exact KeptByOperations.lowlevelFlush
  | lowlevelSync => exact guarded_keeps KeptByOperations.lowlevelSyncInner
  | lowlevelBind portal name params =>
    exact guarded_keeps (KeptByOperations.lowlevelBindInner _ _ _)
  | lowlevelExecute portal maxRows handler =>
    exact void_keeps (guarded_keeps (KeptByOperations.lowlevelExecuteInner _ _ _))
  | lowlevelClosePortal portal =>
    exact guarded_keeps (KeptByOperations.lowlevelClosePortalInner _)
  | execPortal bindCut syncCut statement params f =>
    exact guarded_keeps (KeptByOperations.execPortalInner _ _ _ _ _)
  | beginTransaction =>
    refine void_keeps (keeps_get.bind fun c => ?_)
    split
    · exact keeps_fail _
    · exact (queryDrop_keeps _).bind fun _ => keeps_get.bind fun _ => keeps_pure _
  | finishTransaction result => exact endTransaction_keeps result
  | commit tx =>
    exact (checkTransaction_keeps tx).bind fun _ => (queryDrop_keeps _).bind fun _ => keeps_pure _
  | rollback tx =>
    exact (checkTransaction_keeps tx).bind fun _ => (queryDrop_keeps _).bind fun _ => keeps_pure _
  | execPortalNamed tx statement params =>
    exact void_keeps ((checkTransaction_keeps tx).bind fun _ => nextPortalName_keeps.bind
      fun _ => (marked_keeps (KeptByOperations.createNamedPortal _ _ _)).bind fun _ =>
        keeps_pure _)
  | execNamed portal maxRows handler =>
    exact void_keeps ((guarded_keeps (KeptByOperations.lowlevelExecuteInner _ _ _)).bind fun _ =>
      keeps_pure _)
  | closeNamed portal =>
    exact (guarded_keeps (KeptByOperations.lowlevelClosePortalInner _)).bind fun _ =>
      guarded_keeps KeptByOperations.lowlevelSyncInner
  | close => exact KeptByOperations.close

end Operation

instance : KeptByOperations (Tidies (P := P)) where
  withCut cut h := withCut_tidies h cut
  queryInner := queryInner_tidies
  prepareInner := prepareInner_tidies
  prepareBatchInner := prepareBatchInner_tidies
  execInner := execInner_tidies
  execBatchInner := execBatchInner_tidies
  closeStatementInner := closeStatementInner_tidies
  createNamedPortal := createNamedPortal_tidies
  execPortalInner := execPortalInner_tidies
  lowlevelFlush := lowlevelFlush_tidies
  lowlevelSyncInner := lowlevelSyncInner_tidies
  lowlevelBindInner := lowlevelBindInner_tidies
  lowlevelExecuteInner := lowlevelExecuteInner_tidies
  lowlevelClosePortalInner := lowlevelClosePortalInner_tidies
  close := close_tidies

/-! ### Broken connections -/

/-- The connection is still broken, and nothing was sent. -/
def Sealed (c c' : Conn P) : Prop :=
  c.isBroken = true → c'.isBroken = true ∧ c'.stream.log = c.stream.log

instance : Std.Refl (Sealed (P := P)) := ⟨fun _ hb => ⟨hb, rfl⟩⟩

instance : IsTrans (Conn P) Sealed where
  trans _ _ _ h h' hb := by
    obtain ⟨hb', hlog⟩ := h hb
    obtain ⟨hb'', hlog'⟩ := h' hb'
    exact ⟨hb'', hlog'.trans hlog⟩

/-- On a broken connection the call returns an error and sends nothing. -/
def Refuses (x : Act Error (Conn P) α) : Prop :=
  ∀ c, c.isBroken = true → (∃ e, (x c).1 = .err e) ∧ Sealed c (x c).2

namespace Refuses

variable {x : Act Error (Conn P) α} {f : α → Act Error (Conn P) β}

theorem bind (hx : Refuses x) (f : α → Act Error (Conn P) β) : Refuses (x >>= f) := by
  intro c hb
  obtain ⟨⟨e, he⟩, hsealed⟩ := hx c hb
  rw [Act.bind_run]
  generalize x c = r at he hsealed
  obtain ⟨o, c'⟩ := r
  cases he
  exact ⟨⟨e, rfl⟩, hsealed⟩

theorem ensureUsable (f : Unit → Act Error (Conn P) α) :
    Refuses (ZeroPostgres.Conn.ensureUsable >>= f) := by
  refine bind (fun c hb => ?_) f
  have hrun : (ZeroPostgres.Conn.ensureUsable c : Outcome Error Unit × Conn P) =
      (.err .connectionBroken, c) := by
    unfold ZeroPostgres.Conn.ensureUsable
    rw [hb]
    rfl
  rw [hrun]
  exact ⟨⟨_, rfl⟩, Std.Refl.refl c⟩

theorem markBroken (hx : Refuses x) : Refuses (ZeroPostgres.Conn.markBroken x) := by
  intro c hb
  obtain ⟨⟨e, he⟩, hsealed⟩ := hx c hb
  unfold ZeroPostgres.Conn.markBroken
  generalize x c = r at he hsealed
  obtain ⟨o, c'⟩ := r
  cases he
  refine ⟨⟨e, rfl⟩, fun _ => ?_⟩
  obtain ⟨hb', hlog⟩ := hsealed hb
  dsimp only
  split
  · exact ⟨rfl, hlog⟩
  · exact ⟨hb', hlog⟩

theorem guarded (x : Act Error (Conn P) α) : Refuses (ZeroPostgres.Conn.guarded x) :=
  ensureUsable _

/-- A refused call after one that sends nothing. -/
theorem after (hx : Keeps Sealed x) (hhalt : ∀ c, (x c).1 ≠ .halt) (hf : ∀ a, Refuses (f a)) :
    Refuses (x >>= f) := by
  intro c hb
  have hsealed := hx.rel c
  have hhalt := hhalt c
  rw [Act.bind_run]
  generalize x c = r at hsealed hhalt
  obtain ⟨a | e | _, c'⟩ := r
  · obtain ⟨herr, hsealed'⟩ := hf a c' (hsealed hb).1
    exact ⟨herr, IsTrans.trans _ _ _ hsealed hsealed'⟩
  · exact ⟨⟨e, rfl⟩, hsealed⟩
  · exact absurd rfl hhalt

theorem sealed (hx : Refuses x) : Keeps Sealed x := ⟨fun c hb => (hx c hb).2 hb⟩

end Refuses

theorem modify_sealed {f : Conn P → Conn P} (hs : ∀ c, (f c).stream = c.stream)
    (hb : ∀ c, c.isBroken = true → (f c).isBroken = true) :
    Keeps Sealed (Act.modify f : Act Error (Conn P) Unit) :=
  keeps_modify fun c h => ⟨hb c h, by rw [hs]⟩

namespace Operation

theorem void_refuses {x : Act Error (Conn P) α} (h : Refuses x) : Refuses (void x) := h.bind _

theorem checked_refuses (tx : Transaction) {f : Unit → Act Error (Conn P) α}
    (hf : ∀ u, Refuses (f u)) : Refuses (checkTransaction tx >>= f) := by
  have hrun (c : Conn P) : checkTransaction tx c = (.ok (), c) ∨
      ∃ e, checkTransaction tx c = (.err e, c) := by
    unfold checkTransaction
    rw [Act.bind_run]
    dsimp only [Act.get_run]
    split
    · exact .inr ⟨_, rfl⟩
    · exact .inl rfl
  refine .after (keeps_of_snd_eq fun c => ?_) (fun c => ?_) hf
  · rcases hrun c with h | ⟨e, h⟩ <;> rw [h]
  · rcases hrun c with h | ⟨e, h⟩ <;> rw [h] <;> simp

/-- On a broken connection every call is refused. -/
theorem run_refuses {op : Operation} (hop : op.isCall = true) :
    Refuses (op.run : Act Error (Conn P) Unit) := by
  cases op with
  | query sql handler => exact void_refuses (.guarded _)
  | ping => exact (Refuses.guarded _).bind _
  | prepareTyped sql oids => exact void_refuses (.ensureUsable _)
  | prepareBatch queries => exact void_refuses (.ensureUsable _)
  | exec statement params handler => exact void_refuses (.guarded _)
  | execBatch statement paramsList chunkSize => exact .guarded _
  | closeStatement stmt => exact .guarded _
  | lowlevelFlush => exact .ensureUsable _
  | lowlevelSync => exact .guarded _
  | lowlevelBind portal name params => exact .guarded _
  | lowlevelExecute portal maxRows handler => exact void_refuses (.guarded _)
  | lowlevelClosePortal portal => exact .guarded _
  | execPortal bindCut syncCut statement params f => exact .guarded _
  | beginTransaction =>
    refine void_refuses (.after keeps_get (fun c => by simp) fun c => ?_)
    split
    · exact fun c hb => ⟨⟨_, rfl⟩, Std.Refl.refl c⟩
    · exact (Refuses.guarded _).bind _
  | finishTransaction result => cases hop
  | commit tx => exact checked_refuses tx fun _ => (Refuses.guarded _).bind _
  | rollback tx => exact checked_refuses tx fun _ => (Refuses.guarded _).bind _
  | execPortalNamed tx statement params =>
    have hname : Keeps Sealed (nextPortalName : Act Error (Conn P) String) :=
      (modify_sealed (f := fun c => { c with nameCounter := c.nameCounter + 1 }) (fun _ => rfl)
        fun _ => id).bind fun _ => keeps_get.bind fun _ => keeps_pure _
    refine void_refuses (checked_refuses tx fun _ => .after hname ?_ fun name => ?_)
    · exact fun c => by simp [nextPortalName, Act.bind_run]
    · exact (Refuses.markBroken (.ensureUsable _)).bind _
  | execNamed portal maxRows handler => exact void_refuses ((Refuses.guarded _).bind _)
  | closeNamed portal => exact (Refuses.guarded _).bind _
  | close => exact .ensureUsable _

/-- Whatever is done with a broken connection, it stays broken and sends nothing. -/
theorem run_sealed (op : Operation) : Keeps Sealed (op.run : Act Error (Conn P) Unit) := by
  cases hop : op.isCall with
  | true => exact (run_refuses hop).sealed
  | false =>
    cases op with
    | finishTransaction result =>
      refine keeps_get.bind fun c => ?_
      split
      · cases result with
        | ok a => exact ((Refuses.guarded _).bind _).sealed
        | error e => exact (Refuses.guarded _).sealed.attempt.bind fun _ => keeps_fail _
      · exact keeps_ofExcept _
    | _ => cases hop

end Operation

/-! ### Runs -/

/-- A call of an operation, whose future is dropped at `cut` when there is one. -/
structure Call where
  operation : Operation
  cut : Option Cut

/-- What the call does. -/
def Call.run (call : Call) : Act Error (Conn P) Unit := withCut call.cut call.operation.run

/-- The connection after some calls. A call that would wait forever is dropped where it waits. -/
def after (c : Conn P) (calls : List Call) : Conn P := calls.foldl (fun c call => (call.run c).2) c

theorem withCut_sealed {x : Act Error (Conn P) α} (h : Keeps Sealed x) (cut : Option Cut) :
    Keeps Sealed (withCut cut x) :=
  ⟨fun c hb => h.rel { c with stream := { c.stream with cut } } hb⟩

theorem after_keeps {R : Conn P → Conn P → Prop} [Std.Refl R] [IsTrans (Conn P) R]
    (hrun : ∀ call : Call, Keeps R call.run) (c : Conn P) (calls : List Call) :
    R c (after c calls) := by
  induction calls generalizing c with
  | nil => exact Std.Refl.refl c
  | cons call calls ih => exact IsTrans.trans _ _ _ ((hrun call).rel c) (ih (call.run c).2)

theorem Call.run_keeps {R : Conn P → Conn P → Prop} [KeptByOperations R] (call : Call) :
    Keeps R call.run := KeptByOperations.withCut call.cut call.operation.run_keeps

theorem after_tidy {c : Conn P} (ht : Tidy c) (calls : List Call) : Tidy (after c calls) :=
  after_keeps (R := Tidies) Call.run_keeps c calls ht

theorem after_sealed (c : Conn P) (calls : List Call) : Sealed c (after c calls) :=
  after_keeps (fun call => withCut_sealed call.operation.run_sealed call.cut) c calls

/-- A broken connection refuses every call. -/
theorem call_refused {c : Conn P} (hb : c.isBroken = true) {call : Call}
    (hcall : call.operation.isCall = true) : ∃ e, (call.run c).1 = .err e :=
  (Operation.run_refuses hcall { c with stream := { c.stream with cut := call.cut } } hb).1

/-- After any calls on a connection that the startup exchange has left aligned, dropped at any await
point or not, nothing waits on it while it is not broken, and the server owes nothing; once it is
broken it stays so through all further calls, which send nothing and are refused. -/
theorem after_disciplined {c₀ : Conn P} (ha : c₀.Aligned) (calls more : List Call) :
    let c := after c₀ calls
    (c.isBroken = false → c.unread = [] ∧ (c.session.mode = .ready ∨ c.session.mode = .closed)) ∧
      (c.isBroken = true → (after c more).isBroken = true ∧
        (after c more).stream.log = c.stream.log ∧
        ∀ call : Call, call.operation.isCall = true →
          ∃ e, (call.run (after c more)).1 = .err e) := by
  intro c
  have hfirst : Tidy c₀ := fun _ => ⟨ha.1, .inl ha.2⟩
  refine ⟨fun hb => after_tidy hfirst calls (ready_of_not_broken hb), fun hb => ?_⟩
  obtain ⟨hb', hlog⟩ := after_sealed c more hb
  exact ⟨hb', hlog, fun call hcall => call_refused hb' hcall⟩

/-- A connection to the server that rejects FAIL, after the startup exchange. -/
def connected : Conn SyncedRequest.rejectingFail := .fresh Reference.start ⟨false, false⟩

/-- A query, and one that is dropped when its request is written and two messages are read. -/
def interrupted : List Call :=
  [⟨.query "SELECT" DropHandler, none⟩, ⟨.exec (.sql "SELECT") .none DropHandler, some ⟨4, 0⟩⟩]

theorem after_disciplined_interrupted :
    ((after connected (interrupted.take 1)).isBroken = false ∧
      (after connected (interrupted.take 1)).unread = []) ∧
    (after connected interrupted).unread ≠ [] ∧
    (after (after connected interrupted) [⟨.ping, none⟩]).isBroken = true ∧
    (after (after connected interrupted) [⟨.ping, none⟩]).stream.log =
      (after connected interrupted).stream.log ∧
    ∃ e, ((⟨.ping, none⟩ : Call).run (after (after connected interrupted) [⟨.ping, none⟩])).1 =
      .err e := by
  have aligned : connected.Aligned := by decide +kernel
  have whole : (after connected (interrupted.take 1)).isBroken = false := by decide +kernel
  have cut : (after connected interrupted).isBroken = true := by decide +kernel
  have hwhole := (after_disciplined aligned (interrupted.take 1) []).1 whole
  obtain ⟨hbroken, hlog, hrefused⟩ := (after_disciplined aligned interrupted [⟨.ping, none⟩]).2 cut
  exact ⟨⟨whole, hwhole.1⟩, by decide +kernel, hbroken, hlog, hrefused ⟨.ping, none⟩ rfl⟩

end Tokio

end ZeroPostgres
