import ZeroPostgres.Conn.Talk
import ZeroPostgres.Pipeline.Sync
import ZeroPostgres.Pipeline.Tokio

/-!
# What pipelines keep

Relations between a pipeline before and after its calls. `KeptByExchange` lists the steps that the
calls are made of; what these keep, the calls keep. `Follows` is the first of these relations:
whatever a pipeline does, its peer ends where some messages sent to it lead. So a session that was
closed stays closed, and a server that starts no COPY is never found in one.
-/

namespace ZeroPostgres

open Act

variable {P : Peer} {K : Type} {α β : Type}

/-! ### Connections -/

namespace Conn

theorem unheard_follows {x : Act Error (Conn P K) α} (h : Keeps Unheard x) : Keeps Follows x :=
  ⟨fun c => (h.rel c).1.follows⟩

theorem receive_follows (m : RawMessage) :
    Keeps Follows (receive m : Act Error (Conn P K) Unit) :=
  Keeps.bind ⟨fun c => (awaitPoint_reads.rel c).talks.follows⟩ fun _ =>
    keeps_modify fun _ => .of_eq rfl rfl

theorem starve_follows : Keeps Follows (starve : Act Error (Conn P K) α) :=
  ⟨fun c => (starve_reads.rel c).talks.follows⟩

/-- A change that leaves the stream and the handler alone. -/
theorem modify_unheard {f : Conn P K → Conn P K} (hs : ∀ c, (f c).stream = c.stream)
    (hb : ∀ c, c.broken = true → (f c).broken = true) (hh : ∀ c, SameHandler c (f c)) :
    Keeps Unheard (Act.modify f : Act Error (Conn P K) Unit) :=
  mute_unheard (modify_mute hs hb hh)

end Conn

/-! ### What both kinds of pipeline share -/

namespace Pipeline

/-- A relation that reading replies keeps. -/
class KeptByReading [PipelineDriver K] (R : Pipeline P K → Pipeline P K → Prop) : Prop
    extends Std.Refl R, IsTrans (Pipeline P K) R where
  receive : ∀ m, Keeps R (onConn (Conn.receive m))
  starve : ∀ {α : Type}, Keeps R (onConn (Conn.starve : Act Error (Conn P K) α))
  onServerError : ∀ e p, R p (PipelineDriver.onServerError e p)
  saveColumns : ∀ payload p, R p (PipelineDriver.saveColumns payload p)

/-- A relation that also sending and the queue of expectations keep. -/
class KeptByExchange [PipelineDriver K] (R : Pipeline P K → Pipeline P K → Prop) : Prop
    extends KeptByReading R where
  onConn : ∀ {α : Type} {x : Act Error (Conn P K) α}, Keeps Conn.Unheard x → Keeps R (onConn x)
  expectations : ∀ p expectations, R p { p with expectations }
  aborted : ∀ p aborted, R p { p with aborted }

/-- A relation that also counting the operations keeps. -/
class KeptByCalls [PipelineDriver K] (R : Pipeline P K → Pipeline P K → Prop) : Prop
    extends KeptByExchange R where
  counters : ∀ p queueSeq claimSeq, R p { p with queueSeq, claimSeq }

variable [PipelineDriver K] {R : Pipeline P K → Pipeline P K → Prop}

section Reading

variable [KeptByReading R]

theorem readMessages_keeps {body : β → RawMessage → Act Error (Pipeline P K) (Flow β α)}
    (h : ∀ b m, Keeps R (body b m)) (b : β) : Keeps R (readMessages body b) :=
  ⟨fun p => (readLoop_keeps _ _ _ KeptByReading.receive KeptByReading.starve h
    p.conn.stream.inbound b).rel p⟩

theorem nextRound_keeps {k : β → RawMessage → Act Error (Pipeline P K) (Flow β α)}
    (h : ∀ b m, Keeps R (k b m)) (b : β) (m : RawMessage) : Keeps R (nextRound k b m) := by
  unfold nextRound
  split
  · exact keeps_pure _
  · split
    · exact (keeps_lift _).bind fun _ =>
        Keeps.bind (keeps_modify (KeptByReading.onServerError _)) fun _ => keeps_fail _
    · exact h b m

theorem readNextMessage_keeps :
    Keeps R (readNextMessage : Act Error (Pipeline P K) RawMessage) :=
  readMessages_keeps (nextRound_keeps fun _ _ => keeps_pure _) ()

theorem callHandler_keeps (handler : Handler) (calls : List Callback) (c : Callback) :
    Keeps R (callHandler handler calls c : Act Error (Pipeline P K) (List Callback)) :=
  (keeps_ofExcept _).bind fun _ => keeps_pure _

theorem claimRows_keeps (handler : Handler) (columns : Except Error Bytes) :
    Keeps R (claimRows handler columns : Act Error (Pipeline P K) (List Callback)) := by
  refine readMessages_keeps (nextRound_keeps fun calls m => ?_) []
  unfold rowRound
  split
  · exact (keeps_ofExcept _).bind fun _ => (keeps_lift _).bind fun _ => (keeps_lift _).bind fun _ =>
      (callHandler_keeps ..).bind fun _ => keeps_pure _
  · exact (keeps_lift _).bind fun _ => (callHandler_keeps ..).bind fun _ => keeps_pure _
  · exact (keeps_lift _).bind fun _ => keeps_pure _
  · exact keeps_fail _

theorem expectBindComplete_keeps :
    Keeps R (expectBindComplete : Act Error (Pipeline P K) Unit) := by
  refine readNextMessage_keeps.bind fun m => ?_
  split
  · exact keeps_lift _
  · exact keeps_fail _

theorem claimParseBindExecInner_keeps (handler : Handler) :
    Keeps R (claimParseBindExecInner handler : Act Error (Pipeline P K) (List Callback)) := by
  refine readNextMessage_keeps.bind fun m => ?_
  split
  · refine (keeps_lift _).bind fun _ => expectBindComplete_keeps.bind fun _ =>
      readNextMessage_keeps.bind fun m => ?_
    split
    · exact Keeps.bind (keeps_modify (KeptByReading.saveColumns _)) fun _ => claimRows_keeps ..
    · exact (keeps_lift _).bind fun _ => claimRows_keeps ..
    · exact keeps_fail _
  · exact keeps_fail _

theorem claimBindExecInner_keeps (handler : Handler) (stmt : Option PreparedStatement) :
    Keeps R (claimBindExecInner handler stmt : Act Error (Pipeline P K) (List Callback)) :=
  expectBindComplete_keeps.bind fun _ => claimRows_keeps ..

theorem claimExpectation_keeps (e : Option Expectation) (ticket : Ticket) (handler : Handler) :
    Keeps R (claimExpectation e ticket handler : Act Error (Pipeline P K) (List Callback)) := by
  unfold claimExpectation
  split
  · exact claimParseBindExecInner_keeps handler
  · exact claimBindExecInner_keeps handler ticket.stmt
  · exact keeps_fail _
  · exact keeps_fail _

end Reading

section Exchange

variable [KeptByExchange R]

theorem setWriteBuffer_keeps (fs : List Frontend) :
    Keeps R (onConn (Conn.setWriteBuffer fs) : Act Error (Pipeline P K) Unit) :=
  KeptByExchange.onConn (Conn.modify_unheard (fun _ => rfl) (fun _ => id) fun _ => rfl)

theorem appendWrite_keeps (fs : List Frontend) :
    Keeps R (appendWrite fs : Act Error (Pipeline P K) Unit) :=
  KeptByExchange.onConn (Conn.modify_unheard (fun _ => rfl) (fun _ => id) fun _ => rfl)

theorem send_keeps : Keeps R (onConn Conn.send : Act Error (Pipeline P K) Unit) :=
  KeptByExchange.onConn Conn.send_unheard

theorem setStatus_keeps (status : TransactionStatus) :
    Keeps R (onConn (Conn.setStatus status) : Act Error (Pipeline P K) Unit) :=
  KeptByExchange.onConn (Conn.modify_unheard (fun _ => rfl) (fun _ => id) fun _ => rfl)

theorem pushExpectation_keeps (e : Expectation) :
    Keeps R (pushExpectation e : Act Error (Pipeline P K) Unit) :=
  keeps_modify fun p => KeptByExchange.expectations p _

theorem popExpectation_keeps :
    Keeps R (popExpectation : Act Error (Pipeline P K) (Option Expectation)) :=
  ⟨fun p => KeptByExchange.expectations p _⟩

theorem setAborted_keeps (aborted : Bool) :
    Keeps R (setAborted aborted : Act Error (Pipeline P K) Unit) :=
  keeps_modify fun p => KeptByExchange.aborted p _

theorem checkSequence_keeps (seq : Nat) :
    Keeps R (checkSequence seq : Act Error (Pipeline P K) Unit) :=
  keeps_of_snd_eq fun p => by unfold checkSequence; split <;> rfl

theorem consumeSyncs_keeps {consume : Act Error (Pipeline P K) Unit} (h : Keeps R consume)
    (q : List Expectation) : Keeps R (consumeSyncs consume q) := by
  induction q with
  | nil => exact keeps_pure _
  | cons e q ih =>
    cases e with
    | sync =>
      exact Keeps.bind (keeps_modify fun p => KeptByExchange.expectations p _) fun _ =>
        h.bind fun _ => (setAborted_keeps false).bind fun _ => ih
    | _ => exact keeps_pure _

end Exchange

section Calls

variable [KeptByCalls R]

theorem nextClaim_keeps : Keeps R (Act.modify fun p => { p with claimSeq := p.claimSeq + 1 } :
    Act Error (Pipeline P K) Unit) :=
  keeps_modify fun p => KeptByCalls.counters p p.queueSeq _

/-- What cleanup leaves of the counters. -/
theorem reset (p : Pipeline P K) : R p { p with queueSeq := 0, claimSeq := 0, aborted := false } :=
  IsTrans.trans _ _ _ (KeptByCalls.counters p 0 0)
    (KeptByExchange.aborted { p with queueSeq := 0, claimSeq := 0 } false)

theorem queueExec_keeps (statement : StatementRef) (params : Params) :
    Keeps R (queueExec statement params : Act Error (Pipeline P K) Ticket) := by
  refine keeps_get.bind fun p =>
    Keeps.bind (keeps_modify fun p => KeptByCalls.counters p _ p.claimSeq) fun _ => ?_
  cases statement with
  | sql text =>
    refine Keeps.bind ?_ fun _ => keeps_pure _
    exact keeps_get.bind fun p => (setWriteBuffer_keeps _).bind fun _ =>
      (keeps_ofExcept _).bind fun _ => (appendWrite_keeps _).bind fun _ =>
      pushExpectation_keeps _
  | prepared stmt =>
    refine Keeps.bind ?_ fun _ => keeps_pure _
    exact keeps_get.bind fun p => (setWriteBuffer_keeps _).bind fun _ =>
      (keeps_ofExcept _).bind fun _ => (appendWrite_keeps _).bind fun _ =>
      pushExpectation_keeps _

end Calls

end Pipeline

/-! ### Asynchronous pipelines -/

namespace Tokio.Pipeline

open ZeroPostgres.Pipeline

variable {R : Pipeline P → Pipeline P → Prop} [KeptByExchange R]

theorem setScopePending_keeps (pending : Bool) :
    Keeps R (onConn (setScopePending pending) : Act Error (Pipeline P) Unit) :=
  KeptByExchange.onConn (Conn.modify_unheard (fun _ => rfl) (fun _ => id) fun _ => rfl)

theorem finishExchange_keeps :
    Keeps R (onConn Conn.finishExchange : Act Error (Pipeline P) Unit) :=
  KeptByExchange.onConn (Conn.modify_unheard (fun _ => rfl) (fun _ => id) fun _ => rfl)

theorem beginExchange_keeps : Keeps R (onConn Conn.beginExchange : Act Error (Pipeline P) Unit) :=
  KeptByExchange.onConn (Conn.mute_unheard Conn.beginExchange_mute)

theorem ensureExchangeReady_keeps :
    Keeps R (onConn Conn.ensureExchangeReady : Act Error (Pipeline P) Unit) :=
  KeptByExchange.onConn (Conn.mute_unheard Conn.ensureExchangeReady_mute)

theorem flush_keeps : Keeps R (flush : Act Error (Pipeline P) Unit) := by
  refine ensureExchangeReady_keeps.bind fun _ => beginExchange_keeps.bind fun _ =>
    keeps_get.bind fun p => ?_
  split
  · exact finishExchange_keeps
  · exact (setScopePending_keeps _).bind fun _ => (appendWrite_keeps _).bind fun _ =>
      send_keeps.bind fun _ => (setWriteBuffer_keeps _).bind fun _ => finishExchange_keeps

/-- Marking a failure keeps what setting the mark keeps. -/
theorem marking_keeps {x : Act Error (Pipeline P) α} (h : Keeps R x) : Keeps R (marking x) := by
  refine ⟨fun p => ?_⟩
  have hp := h.rel p
  unfold marking
  generalize x p = r at hp ⊢
  rcases r with ⟨_ | e | _, p'⟩
  · exact hp
  · dsimp only
    split
    · exact IsTrans.trans _ _ _ hp ((KeptByExchange.onConn (Conn.modify_unheard
        (f := fun c => { c with broken := true }) (fun _ => rfl) (fun _ _ => rfl)
        fun _ => rfl)).rel p')
    · exact hp
  · exact hp

theorem sync_keeps : Keeps R (sync : Act Error (Pipeline P) Unit) :=
  ensureExchangeReady_keeps.bind fun _ => marking_keeps <|
    beginExchange_keeps.bind fun _ => (setScopePending_keeps _).bind fun _ =>
      (appendWrite_keeps _).bind fun _ => (pushExpectation_keeps _).bind fun _ =>
      send_keeps.bind fun _ => (setWriteBuffer_keeps _).bind fun _ => finishExchange_keeps

theorem consumeReadyForQuery_keeps :
    Keeps R (consumeReadyForQuery : Act Error (Pipeline P) Unit) := by
  refine readMessages_keeps (fun _ m => ?_) ()
  unfold readyRound
  split
  · exact keeps_pure _
  · split
    · refine (keeps_lift _).bind fun e => ?_
      split
      · refine Keeps.bind (KeptByExchange.onConn ?_) fun _ => keeps_fail _
        exact Conn.modify_unheard (fun _ => rfl) (fun _ _ => rfl) fun _ => rfl
      · exact keeps_fail _
    · exact (keeps_lift _).bind fun _ => (setStatus_keeps _).bind fun _ =>
        keeps_get.bind fun _ => (setScopePending_keeps _).bind fun _ => keeps_pure _
    · exact keeps_pure _

theorem finishClaim_keeps : Keeps R (finishClaim : Act Error (Pipeline P) Unit) :=
  Keeps.bind ⟨fun p => (consumeSyncs_keeps consumeReadyForQuery_keeps p.expectations).rel p⟩
    fun _ => finishExchange_keeps

theorem drainLoop_keeps (q : List Expectation) :
    Keeps R (drainLoop q : Act Error (Pipeline P) Bool) := by
  have hdrain (e : Expectation) :
      Keeps R (drainExpectation e : Act Error (Pipeline P) Unit) := by
    unfold drainExpectation
    split
    · exact consumeReadyForQuery_keeps
    · refine readMessages_keeps (nextRound_keeps fun _ m => ?_) ()
      unfold drainRound
      split
      · exact (keeps_lift _).bind fun _ => keeps_pure _
      · exact (keeps_lift _).bind fun _ => keeps_pure _
      all_goals first | exact keeps_pure _ | exact keeps_fail _
  induction q with
  | nil => exact keeps_pure _
  | cons e q ih =>
    refine Keeps.bind (keeps_modify fun p => KeptByExchange.expectations p q) fun _ =>
      keeps_get.bind fun p => ?_
    split
    · exact ih
    · refine (hdrain e).attempt.bind fun r => keeps_get.bind fun p => ?_
      split
      · exact keeps_pure _
      · split
        · exact (setAborted_keeps false).bind fun _ => ih
        · exact ih

theorem drain_keeps
    (hreset : ∀ p : Pipeline P, R p { p with queueSeq := 0, claimSeq := 0, aborted := false }) :
    Keeps R (drain : Act Error (Pipeline P) Unit) := by
  refine beginExchange_keeps.bind fun _ => keeps_get.bind fun p =>
    (drainLoop_keeps _).bind fun done => ?_
  split
  · exact Keeps.bind (keeps_modify hreset) fun _ => finishExchange_keeps
  · exact keeps_pure _

theorem cleanup_keeps
    (hreset : ∀ p : Pipeline P, R p { p with queueSeq := 0, claimSeq := 0, aborted := false }) :
    Keeps R (cleanup : Act Error (Pipeline P) Unit) := by
  refine keeps_get.bind fun p => ?_
  split
  · exact keeps_pure _
  · split
    · exact setWriteBuffer_keeps []
    · split
      · refine sync_keeps.attempt.bind fun r => ?_
        split
        · exact drain_keeps hreset
        · exact keeps_pure _
      · exact drain_keeps hreset

section Calls

omit [KeptByExchange R]

variable [KeptByCalls R]

theorem claimFront_keeps (ticket : Ticket) (handler : Handler) :
    Keeps R (claimFront ticket handler : Act Error (Pipeline P) (List Callback)) := by
  refine beginExchange_keeps.bind fun _ => keeps_get.bind fun p => ?_
  split
  · exact nextClaim_keeps.bind fun _ => popExpectation_keeps.bind fun _ =>
      finishClaim_keeps.bind fun _ => keeps_fail _
  · refine popExpectation_keeps.bind fun e =>
      (claimExpectation_keeps e ticket handler).attempt.bind fun r => keeps_get.bind fun p => ?_
    split
    · exact keeps_ofExcept _
    · exact nextClaim_keeps.bind fun _ => finishClaim_keeps.bind fun _ => keeps_ofExcept _

theorem claimWithHandler_keeps (ticket : Ticket) (handler : Handler) :
    Keeps R (claimWithHandler ticket handler : Act Error (Pipeline P) (List Callback)) := by
  refine ensureExchangeReady_keeps.bind fun _ => (checkSequence_keeps _).bind fun _ =>
    keeps_get.bind fun p => ?_
  split
  · exact sync_keeps.bind fun _ => claimFront_keeps ticket handler
  · exact claimFront_keeps ticket handler

theorem call_keeps (c : PipelineCall) :
    Keeps R (call c : Act Error (Pipeline P) CallResult) := by
  cases c with
  | exec statement params =>
    exact (ensureExchangeReady_keeps.bind fun _ => queueExec_keeps statement params).bind
      fun _ => keeps_pure _
  | flush cut => exact flush_keeps.bind fun _ => keeps_pure _
  | sync cut => exact sync_keeps.bind fun _ => keeps_pure _
  | claim cut ticket handler =>
    exact (claimWithHandler_keeps ticket handler).bind fun _ => keeps_pure _

end Calls

end Tokio.Pipeline

/-! ### Blocking pipelines -/

namespace Sync.Pipeline

open ZeroPostgres.Pipeline

variable {R : Pipeline P → Pipeline P → Prop} [KeptByExchange R]

theorem flush_keeps : Keeps R (flush : Act Error (Pipeline P) Unit) := by
  refine keeps_get.bind fun p => ?_
  split
  · exact keeps_pure _
  · exact (appendWrite_keeps _).bind fun _ => send_keeps.bind fun _ => setWriteBuffer_keeps _

@[inherit_doc Tokio.Pipeline.marking_keeps]
theorem marking_keeps {x : Act Error (Pipeline P) α} (h : Keeps R x) : Keeps R (marking x) := by
  refine ⟨fun p => ?_⟩
  have hp := h.rel p
  unfold marking
  generalize x p = r at hp ⊢
  rcases r with ⟨_ | e | _, p'⟩
  · exact hp
  · dsimp only
    split
    · exact IsTrans.trans _ _ _ hp ((KeptByExchange.onConn (Conn.modify_unheard
        (f := fun c => { c with broken := true }) (fun _ => rfl) (fun _ _ => rfl)
        fun _ => rfl)).rel p')
    · exact hp
  · exact hp

theorem sync_keeps : Keeps R (sync : Act Error (Pipeline P) Unit) :=
  marking_keeps <| (appendWrite_keeps _).bind fun _ => (pushExpectation_keeps _).bind fun _ =>
    send_keeps.bind fun _ => setWriteBuffer_keeps _

theorem consumeReadyForQuery_keeps :
    Keeps R (consumeReadyForQuery : Act Error (Pipeline P) Unit) := by
  refine readMessages_keeps (fun _ m => ?_) ()
  unfold readyRound
  split
  · exact keeps_pure _
  · split
    · exact (keeps_lift _).bind fun _ => keeps_fail _
    · exact (keeps_lift _).bind fun _ => (setStatus_keeps _).bind fun _ => keeps_pure _
    · exact keeps_pure _

theorem consumePendingSyncs_keeps :
    Keeps R (consumePendingSyncs : Act Error (Pipeline P) Unit) :=
  ⟨fun p => (consumeSyncs_keeps consumeReadyForQuery_keeps p.expectations).rel p⟩

theorem drainAborted_keeps (q : List Expectation) :
    Keeps R (drainAborted q : Act Error (Pipeline P) Unit) := by
  induction q with
  | nil => exact keeps_pure _
  | cons e q ih =>
    refine Keeps.bind (keeps_modify fun p => KeptByExchange.expectations p q) fun _ => ?_
    split
    · exact consumeReadyForQuery_keeps.attempt.bind fun _ => ih
    · exact ih

theorem drainAll_keeps (q : List Expectation) :
    Keeps R (drainAll q : Act Error (Pipeline P) Unit) := by
  have hdrain (e : Expectation) :
      Keeps R (drainExpectation e : Act Error (Pipeline P) Unit) := by
    refine (Keeps.attempt ?_).bind fun _ => keeps_pure _
    cases e with
    | parseBindExecute => exact (claimParseBindExecInner_keeps _).bind fun _ => keeps_pure _
    | bindExecute => exact (claimBindExecInner_keeps _ _).bind fun _ => keeps_pure _
    | sync => exact consumeReadyForQuery_keeps
  induction q with
  | nil => exact keeps_pure _
  | cons e q ih =>
    exact Keeps.bind (keeps_modify fun p => KeptByExchange.expectations p q) fun _ =>
      (hdrain e).bind fun _ => ih

theorem cleanup_keeps
    (hreset : ∀ p : Pipeline P, R p { p with queueSeq := 0, claimSeq := 0, aborted := false }) :
    Keeps R (cleanup : Act Error (Pipeline P) Unit) := by
  refine keeps_get.bind fun p => ?_
  split
  · exact keeps_pure _
  · have hdrain : Keeps R (do
        let p ← Act.get
        if p.aborted then drainAborted p.expectations else drainAll p.expectations
        Act.modify fun p => { p with queueSeq := 0, claimSeq := 0, aborted := false } :
          Act Error (Pipeline P) Unit) := by
      refine keeps_get.bind fun p => ?_
      split
      · exact (drainAborted_keeps _).bind fun _ => keeps_modify hreset
      · exact (drainAll_keeps _).bind fun _ => keeps_modify hreset
    split
    · exact sync_keeps.attempt.bind fun _ => hdrain
    · exact hdrain

section Calls

omit [KeptByExchange R]

variable [KeptByCalls R]

theorem claimFront_keeps (ticket : Ticket) (handler : Handler) :
    Keeps R (claimFront ticket handler : Act Error (Pipeline P) (List Callback)) := by
  refine keeps_get.bind fun p => ?_
  split
  · exact nextClaim_keeps.bind fun _ => popExpectation_keeps.bind fun _ =>
      consumePendingSyncs_keeps.bind fun _ => keeps_fail _
  · have rest (result : Except Error (List Callback)) : Keeps R (do
        Act.modify fun p => { p with claimSeq := p.claimSeq + 1 }
        consumePendingSyncs
        Act.ofExcept result : Act Error (Pipeline P) (List Callback)) :=
      nextClaim_keeps.bind fun _ => consumePendingSyncs_keeps.bind fun _ => keeps_ofExcept _
    refine popExpectation_keeps.bind fun e =>
      (claimExpectation_keeps e ticket handler).attempt.bind fun result => ?_
    cases result with
    | ok calls => exact rest (.ok calls)
    | error e =>
      refine Keeps.bind (keeps_modify fun p => ?_) fun _ => rest (.error e)
      let mark (c : Conn P) : Conn P := { c with broken := c.broken || e.isConnectionBroken }
      have hmark : Keeps Conn.Unheard (Act.modify mark : Act Error (Conn P) Unit) :=
        Conn.modify_unheard (fun _ => rfl) (fun _ h => by simp [mark, h]) fun _ => rfl
      exact IsTrans.trans _ _ _ ((KeptByExchange.onConn (R := R) hmark).rel p)
        (KeptByExchange.aborted { p with conn := mark p.conn } true)

theorem claimWithHandler_keeps (ticket : Ticket) (handler : Handler) :
    Keeps R (claimWithHandler ticket handler : Act Error (Pipeline P) (List Callback)) := by
  refine (checkSequence_keeps _).bind fun _ => keeps_get.bind fun p => ?_
  split
  · exact sync_keeps.bind fun _ => claimFront_keeps ticket handler
  · exact claimFront_keeps ticket handler

theorem call_keeps (c : PipelineCall) :
    Keeps R (call c : Act Error (Pipeline P) CallResult) := by
  cases c with
  | exec statement params => exact (queueExec_keeps statement params).bind fun _ => keeps_pure _
  | flush cut => exact flush_keeps.bind fun _ => keeps_pure _
  | sync cut => exact sync_keeps.bind fun _ => keeps_pure _
  | claim cut ticket handler =>
    exact (claimWithHandler_keeps ticket handler).bind fun _ => keeps_pure _

end Calls

end Sync.Pipeline

/-! ### The peer follows what is sent -/

/-- The relation on pipelines. -/
def Pipeline.Follows (p p' : Pipeline P K) : Prop := p.conn.Follows p'.conn

/-- What reacting to an error and keeping columns leave alone. -/
class Pipeline.StreamPreserving (K : Type) [PipelineDriver K] : Prop where
  onServerError_stream : ∀ {P : Peer} (e : Error) (p : Pipeline P K),
    (PipelineDriver.onServerError e p).conn.stream = p.conn.stream
  saveColumns_stream : ∀ {P : Peer} (payload : Bytes) (p : Pipeline P K),
    (PipelineDriver.saveColumns payload p).conn.stream = p.conn.stream

instance : Pipeline.StreamPreserving TokioFlags where
  onServerError_stream e p := by
    simp only [PipelineDriver.onServerError]
    split <;> rfl
  saveColumns_stream _ _ := rfl

instance : Pipeline.StreamPreserving SyncFlags where
  onServerError_stream _ _ := rfl
  saveColumns_stream _ _ := rfl

namespace Pipeline

theorem onConn_follows {x : Act Error (Conn P K) α} (h : Keeps Conn.Follows x) :
    Keeps Follows (onConn x) := ⟨fun p => h.rel p.conn⟩

/-- A change of the pipeline that leaves the stream alone. -/
theorem follows_of_stream_eq {p p' : Pipeline P K} (h : p'.conn.stream = p.conn.stream) :
    Follows p p' :=
  .of_eq (by rw [h]) (by rw [h])

instance [PipelineDriver K] [StreamPreserving K] :
    KeptByCalls (Follows (P := P) (K := K)) where
  refl _ := .of_eq rfl rfl
  trans _ _ _ h h' := IsTrans.trans (r := Conn.Follows) _ _ _ h h'
  receive m := onConn_follows (Conn.receive_follows m)
  starve := onConn_follows Conn.starve_follows
  onServerError e p := follows_of_stream_eq (StreamPreserving.onServerError_stream e p)
  saveColumns payload p := follows_of_stream_eq (StreamPreserving.saveColumns_stream payload p)
  onConn h := onConn_follows (Conn.unheard_follows h)
  expectations _ _ := follows_of_stream_eq rfl
  aborted _ _ := follows_of_stream_eq rfl
  counters _ _ _ := follows_of_stream_eq rfl

end Pipeline

namespace Tokio.Pipeline

open ZeroPostgres.Pipeline

theorem sync_follows : Keeps Follows (sync : Act Error (Pipeline P) Unit) := sync_keeps

theorem claimFront_follows (ticket : Ticket) (handler : Handler) :
    Keeps Follows (claimFront ticket handler : Act Error (Pipeline P) (List Callback)) :=
  claimFront_keeps ticket handler

theorem call_follows (c : PipelineCall) :
    Keeps Follows (call c : Act Error (Pipeline P) CallResult) := call_keeps c

theorem drain_follows : Keeps Follows (drain : Act Error (Pipeline P) Unit) := drain_keeps reset

theorem cleanup_follows : Keeps Follows (cleanup : Act Error (Pipeline P) Unit) :=
  cleanup_keeps reset

/-- A call keeps what its computation keeps. -/
theorem dropping_follows {x : Act Error (Pipeline P) α} (h : Keeps Follows x) (cut : Option Cut)
    (p : Pipeline P) : Follows p (dropping cut x p).2 :=
  h.rel (setCut cut p)

end Tokio.Pipeline

end ZeroPostgres
