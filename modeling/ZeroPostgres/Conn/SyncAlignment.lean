import ZeroPostgres.Conn.Calls
import ZeroPostgres.Conn.Sync
import ZeroPostgres.Conn.Transaction
import ZeroPostgres.Lib.Threads

/-!
# Alignment of the blocking client

A run is any sequence of high-level operations on a blocking connection, each begun when the one
before it has returned. `Orderly` says of an operation that it does not return early:
`run_synchronized` is the invariant of the runs all of whose operations are orderly, and
`failingBatch_misaligned` shows where a `prepare_batch` leads that is not.
-/

namespace ZeroPostgres

open Act

namespace Sync

open ZeroPostgres.Conn

variable {P : Peer} {α β : Type}

/-- The call has not returned, or it leaves the connection aligned or marked broken. -/
def Secured (o : Outcome Error α) (c : Conn P) : Prop := o = .halt ∨ c.Aligned ∨ c.broken = true

theorem Secured.settled {o : Outcome Error α} {c : Conn P} (h : Secured o c) : Settled o c :=
  h.imp_right fun h => h.imp_right .inl

/-- A call that returned is secured whatever it returned. -/
theorem Secured.returned {o : Outcome Error α} {c : Conn P} (h : Secured o c)
    (ho : o ≠ .halt) : c.Aligned ∨ c.broken = true := h.resolve_left ho

/-- A public operation marks the errors that break the connection. -/
theorem guarded_secured {x : Act Error (Conn P) α} {c : Conn P} (h : Act.Meets x c Settled) :
    Act.Meets (guarded x) c Secured := by
  refine .of_run_eq (y := markBroken x) ?_ (markBroken_settled h)
  rw [guarded_eq, if_neg (by simp [Driver.refuses])]

/-- Sequencing of operations. -/
theorem secured_bind {x : Act Error (Conn P) α} {f : α → Act Error (Conn P) β} {c : Conn P}
    (hx : Act.Meets x c Secured)
    (hf : ∀ a c', x c = (.ok a, c') → c'.Aligned → Act.Meets (f a) c' Secured)
    (htalks : ∀ a, Keeps Talks (f a)) : Act.Meets (x >>= f) c Secured := by
  have hx := hx.at
  unfold Act.Meets
  rw [Act.bind_run]
  rcases hrun : x c with ⟨a | e | _, c'⟩
  · rw [hrun] at hx
    rcases hx.returned (by simp) with ha | hb
    · exact (hf a c' hrun ha).at
    · exact .inr (.inr (((htalks a).rel c').broken hb))
  · rw [hrun] at hx
    exact .inr (hx.returned (by simp))
  · exact .inl rfl

/-- What a call returns makes no difference to its being secured. -/
theorem secured_pure {x : Act Error (Conn P) α} {g : α → β} {c : Conn P}
    (hx : Act.Meets x c Secured) : Act.Meets (x >>= fun a => pure (g a)) c Secured :=
  secured_bind hx (fun _ _ _ ha => .inr (.inl ha)) fun _ => keeps_pure _

/-! ### Sync -/

theorem lowlevelSyncRound_mute (pending : Option Error) (m : RawMessage) :
    Keeps Mute (lowlevelSyncRound pending m : Act Error (Conn P) (Flow (Option Error) Unit)) := by
  unfold lowlevelSyncRound
  split
  · exact keeps_pure _
  · split
    · refine (keeps_lift _).bind fun _ => (setStatus_mute _).bind fun _ => ?_
      cases pending with
      | some e => exact keeps_fail _
      | none => exact keeps_pure _
    · exact (keeps_lift _).bind fun _ => keeps_pure _
    · exact keeps_pure _

/-- `lowlevel_sync` passes over everything that comes before ReadyForQuery. -/
theorem lowlevelSyncRound_runs : Runs MsgType.isReady (fun _ _ => True)
    (lowlevelSyncRound : Option Error → RawMessage →
      Act Error (Conn P) (Flow (Option Error) Unit)) := by
  intro pending m ms c _
  unfold lowlevelSyncRound
  split
  · trivial
  · split
    · next ht =>
      have hm : m.type.isReady = true := by rw [ht]; rfl
      refine Act.meets_bind.mpr (Act.meets_lift.mpr ?_)
      cases hp : ReadyForQuery.parse m.payload with
      | ok status =>
        refine Act.meets_bind.mpr (Act.meets_modify.mpr ?_)
        cases pending with
        | some e => exact .inr hm
        | none => exact hm
      | err e => exact .inr hm
      | halt => trivial
    · refine Act.meets_bind.mpr (Act.meets_lift.mpr ?_)
      cases hp : ErrorResponse.parse m.payload with
      | ok e => trivial
      | err e => exact .inl (ErrorResponse.parse_breaks _ e hp)
      | halt => trivial
    · trivial

theorem lowlevelSync_unheard : Keeps Unheard (lowlevelSync : Act Error (Conn P) Unit) :=
  guarded_unheard <| (mute_unheard (setWriteBuffer_mute _)).bind fun _ => send_unheard.bind fun _ =>
    readMessages_unheard lowlevelSyncRound_mute none

/-- A Sync resynchronizes a connection on which no ReadyForQuery waits. -/
theorem lowlevelSync_secured (hP : P.NoCopy) {c : Conn P} (hc : c.Regular)
    (hlacks : Lacks MsgType.isReady c.unread) : Act.Meets lowlevelSync c Secured := by
  refine guarded_secured (Act.meets_bind.mpr (Act.meets_modify.mpr ?_))
  refine send_settled lowlevelSyncRound_runs (fun b m => mute_still (lowlevelSyncRound_mute b m))
    (fun _ => isAsync_of_isReady) trivial ?_
  intro before z tail hcore hz
  have hfeed : P.feed c.stream.peer [.sync] = P.respond c.stream.peer .sync := by
    rw [P.feed_cons, P.feed_nil, List.append_nil]
  have hcore : c.unread ++ core (P.respond c.stream.peer .sync).1 = before ++ z :: tail := by
    rw [← hfeed]
    exact hcore
  change tail = [] ∧ (P.session (P.feed c.stream.peer [.sync]).2).mode = .ready
  rw [hfeed]
  rcases respond_boundary .sync hc.mode (hP _ _ hc.mode) with
    hno | ⟨-, -, hmode, body, z', hlast, hno⟩
  · have h := Lacks.append_iff.mpr ⟨hlacks, hno⟩ z (by rw [hcore]; simp)
    rw [hz] at h
    cases h
  · rw [hlast, ← List.append_assoc] at hcore
    exact ⟨(Lacks.append_iff.mpr ⟨hlacks, hno⟩).last_eq hcore hz, hmode⟩

/-! ### Unnamed portals -/

/-- From `c` to `c'` some messages went out, none of them a Query or a Sync, and some came in. -/
def Quiet (c c' : Conn P) : Prop :=
  ∃ sent read, Talked sent read c c' ∧ ∀ f ∈ sent, f.asksReady = false

theorem Quiet.of_reads {c c' : Conn P} (h : Reads c c') : Quiet c c' := by
  obtain ⟨read, h⟩ := h
  exact ⟨[], read, h, by simp⟩

instance : Std.Refl (Quiet (P := P)) := ⟨fun c => .of_reads (Std.Refl.refl c)⟩

instance : IsTrans (Conn P) Quiet where
  trans := by
    rintro a b c ⟨sent, read, h, hs⟩ ⟨sent', read', h', hs'⟩
    refine ⟨_, _, h.trans h', fun f hf => ?_⟩
    rcases List.mem_append.mp hf with hf | hf
    · exact hs f hf
    · exact hs' f hf

/-- Where nothing asks for a ReadyForQuery, none comes to wait. -/
theorem Quiet.lacks (hP : P.NoCopy) {c c' : Conn P} (h : Quiet c c') (hc : c.Regular)
    (hlacks : Lacks MsgType.isReady c.unread) : Lacks MsgType.isReady c'.unread := by
  obtain ⟨sent, read, htalked, hs⟩ := h
  have hall : Lacks MsgType.isReady (core (c.stream.inbound ++ (P.feed c.stream.peer sent).1)) := by
    rw [core_append, Lacks.append_iff]
    exact ⟨hlacks, feed_lacks_ready hP hc.mode hs⟩
  rw [htalked.inbound, core_append, Lacks.append_iff] at hall
  exact hall.2

theorem quiet_of_still {x : Act Error (Conn P) α} (h : Keeps Still x) : Keeps Quiet x :=
  ⟨fun c => .of_reads ⟨[], .of_eq (h.rel c).1 (h.rel c).2⟩⟩

/-- A dropped call is as quiet as one that is not. -/
theorem withCut_quiet {x : Act Error (Conn P) α} (h : Keeps Quiet x) (cut : Option Cut) :
    Keeps Quiet (withCut cut x) := by
  refine ⟨fun c => ?_⟩
  obtain ⟨sent, read, hx, hs⟩ := h.rel { c with stream := { c.stream with cut } }
  exact ⟨sent, read, ⟨hx.peer, hx.log, hx.inbound, hx.received, hx.broken, fun _ => rfl⟩, hs⟩

/-- A fetch asks for no ReadyForQuery. -/
theorem lowlevelExecute_quiet (portal : String) (maxRows : Nat) (handler : Handler) :
    Keeps Quiet (lowlevelExecute portal maxRows handler :
      Act Error (Conn P) (Bool × List Callback)) := by
  refine (quiet_of_still ensureUsable_still).bind fun _ =>
    markBroken_keeps (fun c c' h => .of_reads ⟨[], .of_eq h.1.1 h.1.2⟩) ⟨fun c => ?_⟩
  let c₁ : Conn P := { c with bufferSet := { c.bufferSet with
    writeBuffer := [.describePortal portal, .execute portal maxRows, .flush] } }
  have hsend : Quiet c₁ (send c₁ : Outcome Error Unit × Conn P).2 := by
    obtain ⟨k, read, h⟩ := (send_talked c₁).at
    refine ⟨_, read, h, fun f hf => ?_⟩
    have hmem : f ∈ [Frontend.describePortal portal, .execute portal maxRows, .flush] :=
      List.mem_of_mem_take hf
    simp only [List.mem_cons, List.not_mem_nil, or_false] at hmem
    rcases hmem with rfl | rfl | rfl <;> rfl
  have hloop : Keeps Quiet (readMessages (lowlevelExecuteRound handler) ⟨[], []⟩ :
      Act Error (Conn P) (Bool × List Callback)) :=
    ⟨fun c => .of_reads ((readMessages_reads (lowlevelExecuteRound_still handler) _).rel c)⟩
  have hrest : Quiet c₁ ((send >>= fun _ => readMessages (lowlevelExecuteRound handler) ⟨[], []⟩ :
      Act Error (Conn P) (Bool × List Callback)) c₁).2 := by
    rw [Act.bind_run]
    generalize (send c₁ : Outcome Error Unit × Conn P) = r at hsend ⊢
    rcases r with ⟨_ | _ | _, c₂⟩
    · exact IsTrans.trans _ _ _ hsend (hloop.rel c₂)
    · exact hsend
    · exact hsend
  exact IsTrans.trans c c₁ _ (.of_reads ⟨[], .of_eq rfl id⟩) hrest

/-- The closure of an unnamed portal. -/
theorem runPortal_quiet (f : PortalProg) :
    Keeps Quiet (runPortal (lowlevelExecute "") f : Act Error (Conn P) Unit) :=
  runPortal_keeps (fun cut _ _ => withCut_quiet (lowlevelExecute_quiet _ _ _) cut) f

/-! ### Operations -/

/-- The high-level operations of a blocking connection. The forms of `query`, `prepare` and `exec`
differ in the handler or in what they return only. A transaction is `begin`, then what its closure
does, then `finish` with whether the closure succeeded. -/
inductive Operation where
  | query (sql : String) (handler : Handler)
  | ping
  | prepareTyped (sql : String) (paramOids : List Oid)
  | prepareBatch (queries : List String)
  | exec (statement : StatementRef) (params : Params) (handler : Handler)
  | execBatch (statement : StatementRef) (paramsList : List Params) (chunkSize : Nat)
  | closeStatement (stmt : PreparedStatement)
  | execPortal (statement : StatementRef) (params : Params) (f : PortalProg)
  | beginTransaction
  | finishTransaction (result : Except Error Unit)
  | commit (tx : Transaction)
  | rollback (tx : Transaction)
  | execPortalNamed (tx : Transaction) (statement : StatementRef) (params : Params)
  | execNamed (portal : NamedPortal) (maxRows : Nat) (handler : Handler)
  | closeNamed (portal : NamedPortal)

/-- A call without its value. -/
def void (x : Act Error (Conn P) α) : Act Error (Conn P) Unit := do
  let _ ← x
  return ()

namespace Operation

/-- What the operation does. -/
def run : Operation → Act Error (Conn P) Unit
  | .query sql handler => void (ZeroPostgres.Conn.query sql handler)
  | .ping => ZeroPostgres.Conn.ping
  | .prepareTyped sql oids => void (ZeroPostgres.Conn.prepareTyped sql oids)
  | .prepareBatch queries => void (ZeroPostgres.Conn.prepareBatch queries)
  | .exec statement params handler => void (ZeroPostgres.Conn.exec statement params handler)
  | .execBatch statement paramsList chunkSize => execBatchChunked statement paramsList chunkSize
  | .closeStatement stmt => ZeroPostgres.Conn.closeStatement stmt
  | .execPortal statement params f => Sync.execPortal statement params f
  | .beginTransaction => void ZeroPostgres.Conn.beginTransaction
  | .finishTransaction result => endTransaction result
  | .commit tx => ZeroPostgres.Conn.commit tx
  | .rollback tx => ZeroPostgres.Conn.rollback tx
  | .execPortalNamed tx statement params =>
    void (ZeroPostgres.Conn.execPortalNamed tx statement params)
  | .execNamed portal maxRows handler => void (ZeroPostgres.Conn.execNamed portal maxRows handler)
  | .closeNamed portal => ZeroPostgres.Conn.closeNamed lowlevelSync portal

/-- A bind of the statement, if it can be written, is accepted by the server or rejected with an
error that ends the session. -/
def BindSound (portalName : String) (statement : StatementRef) (params : Params) (c : Conn P) :
    Prop :=
  (startBind c.bufferSet portalName statement params).1.isOk = true →
    Sound c (startBind c.bufferSet portalName statement params).2.writeBuffer

instance (portalName : String) (statement : StatementRef) (params : Params) (c : Conn P) :
    Decidable (BindSound portalName statement params c) := inferInstanceAs (Decidable (_ → _))

/-- The operation does not return early with an error that leaves the connection in use: no
handler refuses a call with such an error, and the server answers neither the statements of a
`prepare_batch` nor the requests of a portal that are flushed with one. -/
def Orderly (c : Conn P) : Operation → Prop
  | .query sql handler => Bearable handler c [.query sql]
  | .exec statement params handler =>
    (startExec handler c.bufferSet statement params).1.isOk = true →
      Bearable handler c (startExec handler c.bufferSet statement params).2.writeBuffer
  | .prepareBatch queries => queries ≠ [] →
    Sound c (BatchPrepareStateMachine.startAt c.bufferSet queries (c.nameCounter + 1)).2.writeBuffer
  | .execPortal statement params _ => BindSound "" statement params c
  | .execPortalNamed tx statement params => tx.connectionId = c.connectionId →
    BindSound ("_zero_p_" ++ toString (c.nameCounter + 1)) statement params c
  | .execNamed portal maxRows handler => CanFetch handler ⟨[], []⟩
    (c.reply [.describePortal portal.name, .execute portal.name maxRows, .flush])
  | .closeNamed portal => Sound c [.closePortal portal.name, .flush]
  | _ => True

instance (c : Conn P) : ∀ op, Decidable (Orderly c op)
  | .query .. => inferInstanceAs (Decidable (Bearable _ _ _))
  | .exec .. => inferInstanceAs (Decidable (_ → Bearable _ _ _))
  | .prepareBatch _ => inferInstanceAs (Decidable (_ → Sound _ _))
  | .execPortal .. => inferInstanceAs (Decidable (BindSound _ _ _ _))
  | .execPortalNamed .. => inferInstanceAs (Decidable (_ → BindSound _ _ _ _))
  | .execNamed .. => inferInstanceAs (Decidable (CanFetch _ _ _))
  | .closeNamed _ => inferInstanceAs (Decidable (Sound _ _))
  | .ping | .prepareTyped .. | .execBatch .. | .closeStatement _ | .beginTransaction
  | .finishTransaction _ | .commit _ | .rollback _ => .isTrue trivial

/-- The operation drives a query machine, and nothing else. -/
def drives : Operation → Bool
  | .query .. | .ping | .prepareTyped .. | .exec .. | .closeStatement _ | .beginTransaction
  | .finishTransaction _ | .commit _ | .rollback _ => true
  | .prepareBatch _ | .execBatch .. | .execPortal .. | .execPortalNamed .. | .execNamed ..
  | .closeNamed _ => false

theorem void_keeps {R : Conn P → Conn P → Prop} [Std.Refl R] [IsTrans (Conn P) R]
    {x : Act Error (Conn P) α} (h : Keeps R x) : Keeps R (void x) := h.bind fun _ => keeps_pure _

/-- What `exec_portal` does behind the bind. -/
theorem fetchAndSync_unheard (f : PortalProg) :
    Keeps Unheard (Act.attempt (runPortal (lowlevelExecute "") f) >>= fun result => do
      let syncResult ← Act.attempt lowlevelSync
      Act.ofExcept (portalResult result syncResult) : Act Error (Conn P) Unit) :=
  (runPortal_keeps (fun cut _ _ => withCut_unheard (lowlevelExecute_unheard _ _ _) cut)
    f).attempt.bind fun _ => lowlevelSync_unheard.attempt.bind fun _ => keeps_ofExcept _

theorem execPortal_unheard (statement : StatementRef) (params : Params) (f : PortalProg) :
    Keeps Unheard (Sync.execPortal statement params f : Act Error (Conn P) Unit) :=
  guarded_unheard ((writePortalBind_unheard _ _ _).bind fun _ => (driveBind_unheard _).bind
    fun _ => fetchAndSync_unheard f)

theorem run_driven {R : Conn P → Conn P → Prop} [KeptByDrive R] {op : Operation}
    (hop : op.drives = true) : Keeps R (op.run : Act Error (Conn P) Unit) := by
  cases op with
  | query sql handler => exact void_keeps (query_keeps sql handler)
  | ping => exact ping_keeps
  | prepareTyped sql oids => exact void_keeps (prepareTyped_keeps sql oids)
  | exec statement params handler => exact void_keeps (exec_keeps statement params handler)
  | closeStatement stmt => exact closeStatement_keeps stmt
  | beginTransaction => exact void_keeps beginTransaction_keeps
  | finishTransaction result => exact endTransaction_keeps result
  | commit tx => exact commit_keeps tx
  | rollback tx => exact rollback_keeps tx
  | _ => cases hop

theorem run_unheard {op : Operation} (hop : op.drives = false) :
    Keeps Unheard (op.run : Act Error (Conn P) Unit) := by
  cases op with
  | prepareBatch queries => exact void_keeps (prepareBatch_unheard queries)
  | execBatch statement paramsList chunkSize => exact execBatchChunked_unheard ..
  | execPortal statement params f => exact execPortal_unheard statement params f
  | execPortalNamed tx statement params => exact void_keeps (execPortalNamed_unheard ..)
  | execNamed portal maxRows handler => exact void_keeps (execNamed_unheard ..)
  | closeNamed portal => exact closeNamed_unheard lowlevelSync_unheard portal
  | _ => cases hop

/-- Every operation talks over its connection, however it ends. -/
theorem run_talks (op : Operation) : Keeps Talks (op.run : Act Error (Conn P) Unit) := by
  cases hop : op.drives with
  | true => exact run_driven hop
  | false => exact unheard_talks (run_unheard hop)

/-! ### Which operations are secured -/

section Secured

variable (hP : P.NoCopy) {c : Conn P} (hc : c.Regular) (ha : c.Aligned)
include hP hc ha

theorem query_secured {sql : String} {handler : Handler}
    (hbear : Bearable handler c [.query sql]) :
    Act.Meets (ZeroPostgres.Conn.query sql handler) c Secured :=
  guarded_secured (query_settled hP hbear hc ha.1)

theorem queryDrop_secured (sql : String) : Act.Meets (queryDrop sql) c Secured :=
  query_secured hP hc ha (DropHandler_total.willing _ _).bears

theorem execPortalInner_settled {statement : StatementRef} {params : Params} {f : PortalProg}
    (hsound : BindSound "" statement params c) :
    Act.Meets (execPortalInner statement params f) c Settled := by
  unfold BindSound at hsound
  refine Act.meets_bind.mpr (writePortalBind_meets (fun e b _ => .aligned ha) fun m b₀ hstart => ?_)
  rw [hstart] at hsound
  let c₁ : Conn P := { c with bufferSet := b₀ }
  have hc₁ : c₁.Regular := ⟨hc.asyncs, hc.mode⟩
  refine settled_bind (c := c₁) (driveBind_settled hP hstart (hsound rfl) hc ha.1) ?_
    fun _ => unheard_talks (fetchAndSync_unheard f)
  intro _ c₂ hbind ha₂
  have hc₂ : c₂.Regular := (Talks.of_run (unheard_talks (driveBind_unheard m)) hbind).regular hP hc₁
  -- whatever the closure does, no ReadyForQuery waits when the Sync goes out
  have hquiet := (runPortal_quiet f).rel c₂
  rw [Act.meets_bind, Act.meets_attempt]
  unfold Act.Meets
  generalize runPortal (lowlevelExecute "") f c₂ = r at hquiet
  obtain ⟨o, c₃⟩ := r
  have synced (result : Except Error Unit) : Act.Meets (do
      let syncResult ← Act.attempt lowlevelSync
      Act.ofExcept (portalResult result syncResult)) c₃ Settled := by
    have hlacks : Lacks MsgType.isReady c₃.unread := by
      refine hquiet.lacks hP hc₂ ?_
      rw [ha₂.1]
      exact .nil
    have hc₃ : c₃.Regular := by
      obtain ⟨sent, read, h, -⟩ := hquiet
      exact Talks.regular hP ⟨sent, read, h⟩ hc₂
    have hsync := (lowlevelSync_secured hP hc₃ hlacks).at
    rw [Act.meets_bind, Act.meets_attempt]
    unfold Act.Meets
    generalize (lowlevelSync c₃ : Outcome Error Unit × Conn P) = r at hsync
    obtain ⟨o, c₄⟩ := r
    have settled (h : o ≠ .halt) (r : Except Error Unit) :
        Act.Meets (Act.ofExcept r) c₄ Settled := by
      cases r <;> exact (hsync.returned h).elim .aligned .broken
    cases o with
    | ok u => exact settled (by simp) (portalResult result (.ok u))
    | err e => exact settled (by simp) (portalResult result (.error e))
    | halt => exact .halt
  cases o with
  | ok u => exact synced (.ok u)
  | err e => exact synced (.error e)
  | halt => exact .halt

omit hP hc in
/-- A check that leaves the connection alone, before an operation. -/
private theorem checked_secured {α β : Type} {x : Act Error (Conn P) α}
    {f : α → Act Error (Conn P) β} (hx : ∀ c : Conn P, (x c).2 = c)
    (hf : ∀ a, x c = (.ok a, c) → Act.Meets (f a) c Secured) :
    Act.Meets (x >>= f) c Secured := by
  have hsame := hx c
  unfold Act.Meets
  rw [Act.bind_run]
  rcases hrun : x c with ⟨a | e | _, c'⟩
  · rw [hrun] at hsame
    cases hsame
    exact (hf a hrun).at
  · rw [hrun] at hsame
    cases hsame
    exact .inr (.inl ha)
  · exact .inl rfl

omit hP hc ha in
theorem checkTransaction_same (tx : Transaction) (c : Conn P) :
    (checkTransaction tx c : Outcome Error Unit × Conn P).2 = c := by
  unfold checkTransaction
  rw [Act.bind_run]
  dsimp only [Act.get_run]
  split <;> rfl

omit hP hc ha in
theorem checkTransaction_ok {tx : Transaction} {c : Conn P} {u : Unit}
    (h : checkTransaction tx c = (.ok u, c)) : tx.connectionId = c.connectionId := by
  unfold checkTransaction at h
  rw [Act.bind_run] at h
  dsimp only [Act.get_run] at h
  split at h
  · cases h
  · next heq => exact not_not.mp heq

omit hP hc ha in
theorem ensureUsable_same (c : Conn P) :
    (ensureUsable c : Outcome Error Unit × Conn P).2 = c := by
  unfold ensureUsable
  split <;> rfl

theorem prepareTyped_secured (sql : String) (paramOids : List Oid) :
    Act.Meets (ZeroPostgres.Conn.prepareTyped sql paramOids) c Secured := by
  refine checked_secured ha ensureUsable_same fun _ _ => ?_
  let c₁ : Conn P := { c with nameCounter := c.nameCounter + 1 }
  have hc₁ : c₁.Regular := ⟨hc.asyncs, hc.mode⟩
  refine Act.meets_bind.mpr (Act.meets_modify.mpr (Act.meets_bind.mpr (Act.meets_get.mpr ?_)))
  exact markBroken_settled (prepareInner_settled (c := c₁) hP _ _ _ hc₁ ha.1)

theorem prepareBatch_secured {queries : List String} (hsound : queries ≠ [] →
      Sound c
        (BatchPrepareStateMachine.startAt c.bufferSet queries (c.nameCounter + 1)).2.writeBuffer) :
    Act.Meets (ZeroPostgres.Conn.prepareBatch queries) c Secured := by
  refine checked_secured ha ensureUsable_same fun _ _ => ?_
  cases queries with
  | nil => exact .inr (.inl ha)
  | cons query queries =>
    let c₁ : Conn P := { c with nameCounter := c.nameCounter + (query :: queries).length }
    have hc₁ : c₁.Regular := ⟨hc.asyncs, hc.mode⟩
    refine Act.meets_bind.mpr (Act.meets_get.mpr (Act.meets_bind.mpr (Act.meets_modify.mpr ?_)))
    exact markBroken_settled (prepareBatchInner_settled (c := c₁) hP (hsound (by simp)) hc₁ ha.1)

theorem beginTransaction_secured :
    Act.Meets ZeroPostgres.Conn.beginTransaction c Secured := by
  refine Act.meets_bind.mpr (Act.meets_get.mpr ?_)
  dsimp only
  split
  · exact .inr (.inl ha)
  · exact secured_bind (queryDrop_secured hP hc ha "BEGIN") (fun _ _ _ ha => .inr (.inl ha))
      fun _ => keeps_get.bind fun _ => keeps_pure _

theorem endTransaction_secured (result : Except Error Unit) :
    Act.Meets (endTransaction result) c Secured := by
  refine Act.meets_bind.mpr (Act.meets_get.mpr ?_)
  dsimp only
  split
  · cases result with
    | ok u => exact secured_pure (queryDrop_secured hP hc ha "COMMIT")
    | error e =>
      -- an error of the ROLLBACK is dropped, but it has marked the connection
      have hdrop := (queryDrop_secured hP hc ha "ROLLBACK").at
      refine Act.meets_bind.mpr (Act.meets_attempt.mpr ?_)
      unfold Act.Meets
      generalize (queryDrop "ROLLBACK" c : Outcome Error (List Callback) × Conn P) = r at hdrop
      obtain ⟨o, c'⟩ := r
      cases o with
      | ok calls => exact .inr (hdrop.returned (by simp))
      | err e => exact .inr (hdrop.returned (by simp))
      | halt => exact .inl rfl
  · cases result <;> exact .inr (.inl ha)

theorem execPortalNamed_secured {tx : Transaction} {statement : StatementRef} {params : Params}
    (hsound : tx.connectionId = c.connectionId →
      BindSound ("_zero_p_" ++ toString (c.nameCounter + 1)) statement params c) :
    Act.Meets (ZeroPostgres.Conn.execPortalNamed tx statement params) c Secured := by
  refine checked_secured ha (checkTransaction_same tx) fun u hcheck => ?_
  have hsound := hsound (checkTransaction_ok hcheck)
  let c₁ : Conn P := { c with nameCounter := c.nameCounter + 1 }
  have hc₁ : c₁.Regular := ⟨hc.asyncs, hc.mode⟩
  change Act.Meets (markBroken (createNamedPortal ("_zero_p_" ++ toString (c.nameCounter + 1))
    statement params) >>= fun _ => pure _) c₁ Secured
  refine secured_pure (markBroken_settled ?_)
  refine Act.meets_bind.mpr ?_
  change Act.Meets (writePortalBind _ statement params >>= fun m => driveBind m) c₁ Settled
  refine Act.meets_bind.mpr (writePortalBind_meets (fun e b _ => .aligned ha) fun m b₀ hstart => ?_)
  have hsound : Sound c b₀.writeBuffer := by
    have hstart' : startBind c.bufferSet _ statement params = (.ok m, b₀) := hstart
    unfold BindSound at hsound
    rw [hstart'] at hsound
    exact hsound rfl
  exact driveBind_settled (c := c₁) hP hstart hsound hc₁ ha.1

theorem closeNamed_secured {portal : NamedPortal}
    (hsound : Sound c [.closePortal portal.name, .flush]) :
    Act.Meets (ZeroPostgres.Conn.closeNamed lowlevelSync portal) c Secured := by
  refine secured_bind (guarded_secured (lowlevelClosePortalInner_settled hP hsound hc ha.1)) ?_
    fun _ => unheard_talks lowlevelSync_unheard
  intro u c' hclose ha'
  have htalks := Talks.of_run (unheard_talks (lowlevelClosePortal_unheard portal.name)) hclose
  have hc' := htalks.regular hP hc
  refine lowlevelSync_secured hP hc' ?_
  rw [ha'.1]
  exact .nil

/-- An orderly operation on an aligned connection leaves it aligned or marks it broken. -/
theorem run_secured {op : Operation} (hop : Orderly c op) : Act.Meets op.run c Secured := by
  cases op with
  | query sql handler => exact secured_pure (query_secured hP hc ha hop)
  | ping => exact secured_pure (queryDrop_secured hP hc ha "")
  | prepareTyped sql oids => exact secured_pure (prepareTyped_secured hP hc ha sql oids)
  | prepareBatch queries => exact secured_pure (prepareBatch_secured hP hc ha hop)
  | exec statement params handler =>
    refine secured_pure (guarded_secured (execInner_settled hP (fun m b hstart => ?_) hc ha))
    have hop : _ → Bearable _ _ _ := hop
    rw [hstart] at hop
    exact hop rfl
  | execBatch statement paramsList chunkSize =>
    exact guarded_secured (execBatchInner_settled hP _ _ _ hc ha)
  | closeStatement stmt => exact guarded_secured (closeStatementInner_settled hP _ hc ha.1)
  | execPortal statement params f => exact guarded_secured (execPortalInner_settled hP hc ha hop)
  | beginTransaction => exact secured_pure (beginTransaction_secured hP hc ha)
  | finishTransaction result => exact endTransaction_secured hP hc ha result
  | commit tx =>
    exact checked_secured ha (checkTransaction_same tx) fun _ _ =>
      secured_pure (queryDrop_secured hP hc ha "COMMIT")
  | rollback tx =>
    exact checked_secured ha (checkTransaction_same tx) fun _ _ =>
      secured_pure (queryDrop_secured hP hc ha "ROLLBACK")
  | execPortalNamed tx statement params =>
    exact secured_pure (execPortalNamed_secured hP hc ha hop)
  | execNamed portal maxRows handler =>
    have hsettled := lowlevelExecuteInner_settled hP hop hc ha.1
    exact secured_pure (secured_pure (guarded_secured hsettled))
  | closeNamed portal => exact closeNamed_secured hP hc ha hop

end Secured

/-! ### Runs -/

/-- An operation that returns. -/
def step (c : Conn P) (op : Operation) : Option (Conn P) :=
  if (op.run c).1.returned then some (op.run c).2 else none

theorem step_some {c c' : Conn P} {op : Operation} (h : step c op = some c') :
    (op.run c).1 ≠ .halt ∧ c' = (op.run c).2 := by
  unfold step at h
  split at h
  · next hr =>
    cases h
    refine ⟨fun ho => ?_, rfl⟩
    rw [ho] at hr
    cases hr
  · cases h

/-- What an orderly operation preserves. -/
theorem step_aligned (hP : P.NoCopy) {c c' : Conn P} {op : Operation}
    (hc : c.Regular ∧ (c.isBroken = true ∨ c.Aligned)) (hop : Orderly c op)
    (h : step c op = some c') : c'.Regular ∧ (c'.isBroken = true ∨ c'.Aligned) := by
  obtain ⟨hreturned, rfl⟩ := step_some h
  have htalks := (run_talks op).rel c
  refine ⟨htalks.regular hP hc.1, ?_⟩
  rcases hc.2 with hb | ha
  · exact .inl (htalks.broken hb)
  · exact ((run_secured hP hc.1 ha hop).at.returned hreturned).symm

/-- In a run of orderly operations, after each of them the connection is marked broken, or the
server owes nothing and is not skipping messages; then the next operation, whatever it is, reads
what the server answers to its own messages. -/
theorem run_synchronized (hP : P.NoCopy) {c c' : Conn P} {ops : List Operation} (hc : c.Regular)
    (ha : c.Aligned) (hok : Always step Orderly c ops) (hrun : runSteps step c ops = some c') :
    c'.isBroken = true ∨ c'.Aligned ∧ ∀ op : Operation, ∃ sent read,
      Talked sent read c' (op.run c').2 ∧
        core (c'.reply sent) = core read ++ (op.run c').2.unread := by
  have hinv := runSteps_inv (fun _ _ _ hs hop h => step_aligned hP hs hop h) ⟨hc, .inr ha⟩ hok hrun
  refine hinv.2.imp_right fun ha => ⟨ha, fun op => ?_⟩
  obtain ⟨sent, read, h⟩ := (run_talks op).rel c'
  exact ⟨sent, read, h, h.answers_own ha.1⟩

/-- A connection to the server that rejects FAIL, after the startup exchange. -/
def connected : Conn SyncedRequest.rejectingFail := .fresh Reference.start {}

/-- A transaction whose statement fails, and rows from a named portal and from an unnamed one. -/
def portals : List Operation :=
  [.beginTransaction, .exec (.sql "FAIL") .none DropHandler,
    .finishTransaction (.error (.decode "row")), .prepareTyped "SELECT" [], .beginTransaction,
    .execPortalNamed ⟨0⟩ (.sql "SELECT") .none, .execNamed ⟨"_zero_p_2", false⟩ 0 DropHandler,
    .closeNamed ⟨"_zero_p_2", true⟩, .finishTransaction (.ok ()),
    .execPortal (.sql "SELECT") .none (.exec none 1 DropHandler fun _ => .ret (.ok ()))]

theorem rejectingFail_noCopy : SyncedRequest.rejectingFail.NoCopy := Reference.rejecting_noCopy _ _

theorem connected_regular : connected.Regular :=
  ⟨by simp [connected, Conn.fresh], by decide +kernel⟩

theorem portals_run : (runSteps step connected portals).isSome = true := by decide +kernel

theorem run_synchronized_portals :
    ((runSteps step connected portals).get portals_run).isBroken = true ∨
      ((runSteps step connected portals).get portals_run).Aligned ∧ ∀ op : Operation, ∃ sent read,
        Talked sent read ((runSteps step connected portals).get portals_run)
          (op.run ((runSteps step connected portals).get portals_run)).2 ∧
        core (((runSteps step connected portals).get portals_run).reply sent) = core read ++
          (op.run ((runSteps step connected portals).get portals_run)).2.unread :=
  run_synchronized rejectingFail_noCopy connected_regular (by decide +kernel)
    (by decide +kernel) (Option.some_get portals_run).symm

/-- `prepare_batch` of a statement that the server rejects. -/
def failingBatch : List Operation := [.prepareBatch ["SELECT", "FAIL"]]

theorem failingBatch_run : (runSteps step connected failingBatch).isSome = true := by
  decide +kernel

/-- After it the connection is in use, with a ReadyForQuery left to be read, and this is all that
`ping` reads: its own reply waits for the operation behind it. -/
theorem failingBatch_misaligned : ∃ c, runSteps step connected failingBatch = some c ∧
    c.isBroken = false ∧ ¬ c.Aligned ∧ c.unread.map (·.type) = [.readyForQuery] ∧
    (Operation.ping.run c).1 = .ok () ∧
    (Operation.ping.run c).2.stream.received.drop c.stream.received.length = c.unread ∧
    (Operation.ping.run c).2.unread.map (·.type) = [.commandComplete, .readyForQuery] :=
  ⟨_, (Option.some_get failingBatch_run).symm, by decide +kernel⟩

end Operation

end Sync

end ZeroPostgres
