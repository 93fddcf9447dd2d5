import ZeroPostgres.Conn.Cancellation
import ZeroPostgres.Startup.Session

/-!
# The transaction status of an asynchronous connection

Every loop that reads a ReadyForQuery stores the status in it by itself, on its way out.
`Recording` is what one round of a loop does about it and `Settles` what the whole loop does: the
exchange stays in progress, or the status is that of the last ReadyForQuery read. So `Records` is
kept by every operation, however it ends: a connection that is ready for the next exchange has the
status that the last ReadyForQuery reports.
-/

namespace ZeroPostgres

open Act

/-- `status` is what the last ReadyForQuery among some messages reports, `before` when there is
none. -/
def Reported (before : TransactionStatus) (read : List RawMessage) (status : TransactionStatus) :
    Prop :=
  match (read.filter fun m => m.type.isReady).getLast? with
  | none => status = before
  | some m => ReadyForQuery.parse m.payload = .ok status

section Reported

variable {before status status' : TransactionStatus} {read read' : List RawMessage}
  {m : RawMessage}

theorem reported_nil : Reported before [] before := rfl

theorem reported_of_not_ready (h : m.type.isReady = false) : Reported before [m] before := by
  simp [Reported, h]

theorem reported_of_ready (h : m.type.isReady = true)
    (hparse : ReadyForQuery.parse m.payload = .ok status) : Reported before [m] status := by
  simpa [Reported, h] using hparse

theorem Reported.trans (h : Reported before read status) (h' : Reported status read' status') :
    Reported before (read ++ read') status' := by
  unfold Reported at h h' ⊢
  rw [List.filter_append, List.getLast?_append]
  cases hlast : (read'.filter fun m => m.type.isReady).getLast? with
  | none =>
    rw [hlast] at h'
    cases h'
    exact h
  | some m =>
    rw [hlast] at h'
    exact h'

/-- The last ReadyForQuery among some messages reports `status`. -/
def LastReports (ms : List RawMessage) (status : TransactionStatus) : Prop :=
  ∃ m, (ms.filter fun m => m.type.isReady).getLast? = some m ∧
    ReadyForQuery.parse m.payload = .ok status

theorem Reported.last (h : Reported before read status)
    (hready : ∃ m ∈ read, m.type.isReady = true) : LastReports read status := by
  obtain ⟨m, hm, hready⟩ := hready
  have hne : (read.filter fun m => m.type.isReady) ≠ [] :=
    List.ne_nil_of_mem (List.mem_filter.mpr ⟨hm, hready⟩)
  unfold Reported at h
  rw [List.getLast?_eq_some_getLast hne] at h
  exact ⟨_, List.getLast?_eq_some_getLast hne, h⟩

end Reported

/-! ### The first ReadyForQuery -/

namespace Startup

open ConnectionStateMachine

variable {env : StartupEnv} {options : Opts} {buffers : StartupBuffers} {feeds : List Feed}
  {s : Startup}

/-- A transition that looks at a ReadyForQuery stores its status and finishes; any other leaves
both as they were. -/
theorem transition_reports {m m' : ConnectionStateMachine} {msg : RawMessage} {action : Action}
    {written : Option StartupMessage} (h : Transition env m msg action m' written) :
    (m.state.looks = true ∧ msg.type.isReady = true ∧
      ReadyForQuery.parse msg.payload = .ok m'.transactionStatus) ∨
    m'.transactionStatus = m.transactionStatus ∧
      (m.state.looks = true → msg.type.isReady = false) ∧
      (m'.state = .finished → m.state = .finished) := by
  have blind (hno : m.state.looks = false) (hlooks : m.state.looks = true) :
      msg.type.isReady = false := Bool.noConfusion (hno.symm.trans hlooks)
  have plain {t : MsgType} (ht : msg.type = t) (hno : t.isReady = false) :
      msg.type.isReady = false := (congrArg _ ht).trans hno
  cases h with
  | requestSsl hs | handshake hs => exact .inr ⟨rfl, blind (by rw [hs]; rfl), fun h => by cases h⟩
  | «begin» hbegin =>
    refine .inr ⟨rfl, blind ?_, fun h => by cases h⟩
    cases hbegin with
    | plain hs | refused hs | secured hs => rw [hs]; rfl
  | read hs =>
    refine .inr ⟨rfl, blind (ConnectionState.looks_of_afterWrite hs), fun h => ?_⟩
    cases hm : m.state <;> rw [hm] at hs <;> cases hs <;> cases h
  | async _ hasync _ =>
    refine .inr ⟨rfl, fun _ => ?_, id⟩
    cases ht : msg.type <;> first | rfl | simp [RawMessage.toAsync?, ht] at hasync
  | trusted _ hauth | sasl _ hauth | saslContinue _ hauth | saslFinal _ hauth =>
    exact .inr ⟨rfl, fun _ => plain hauth.1 rfl, fun h => by cases h⟩
  | password _ hasks =>
    refine .inr ⟨rfl, fun _ => ?_, fun h => by cases h⟩
    cases hasks with
    | cleartext hauth | md5 hauth => exact plain hauth.1 rfl
  | key hs ht | parameter hs ht => exact .inr ⟨rfl, fun _ => plain ht rfl, id⟩
  | ready hs ht hparse => exact .inl ⟨by rw [hs]; rfl, by rw [ht]; rfl, hparse⟩

/-- The machine has the status of the last ReadyForQuery given to it, and has been given one when it
has finished. -/
def KnowsStatus (s : Startup) : Prop :=
  Reported .idle (messages (s.taken.map Taken.fed)) s.machine.transactionStatus ∧
    (s.machine.state = .finished → ∃ m ∈ messages (s.taken.map Taken.fed), m.type.isReady = true)

theorem turned_knows {s' : Startup} {fed : Feed} {action : Action}
    {written : Option StartupMessage} (hfits : s.Fits) (hs : s.KnowsStatus)
    (h : Turned env s fed s' action written) : s'.KnowsStatus := by
  obtain ⟨hreported, hfinished⟩ := hs
  obtain ⟨hmessage, hopen⟩ := served hfits h.serves
  have hstatus : (s.give fed).1.transactionStatus = s.machine.transactionStatus := by
    cases fed <;> rfl
  have hfed : messages (s'.taken.map Taken.fed) =
      messages (s.taken.map Taken.fed) ++ messages [fed] := by
    rw [h.taken]
    simp [messages]
  have htransition := transition_reports h.transition
  rw [give_state, hstatus, ← hmessage] at htransition
  unfold KnowsStatus
  rw [hfed]
  rcases htransition with ⟨hgiven, hready, hparse⟩ | ⟨hsame, hno, hend⟩
  · cases fed with
    | nothing | byte => cases hgiven
    | message msg =>
      refine ⟨hreported.trans (reported_of_ready hready hparse), fun _ => ⟨msg, ?_, hready⟩⟩
      exact List.mem_append_right _ List.mem_cons_self
  · rw [hsame]
    refine ⟨?_, fun h => absurd (hend h) hopen⟩
    cases fed with
    | nothing | byte => exact hreported.trans reported_nil
    | message msg => exact hreported.trans (reported_of_not_ready (hno rfl))

theorem run_reports (hrun : runSteps (turn env) (.new options buffers) feeds = some s)
    (hfinished : s.machine.state = .finished) :
    Reported .idle (messages feeds) s.machine.transactionStatus ∧
      ∃ m ∈ messages feeds, m.type.isReady = true := by
  have hnew : (new options buffers).KnowsStatus := ⟨rfl, fun h => by cases h⟩
  have hreports := (run_inv (fun _ _ _ _ _ hfits hs h => turned_knows hfits hs h) hnew hrun).2
  have hfed := run_fed hrun
  rw [KnowsStatus, hfed] at hreports
  exact ⟨hreports.1, hreports.2 hfinished⟩

end Startup

namespace Tokio

open ZeroPostgres.Conn

variable {P : Peer} {S α β : Type}

/-- The transaction status of `c'` is what the messages read since `c` report. -/
def Tracks (c c' : Conn P) : Prop :=
  ∃ read, c'.stream.received = c.stream.received ++ read ∧
    Reported c.transactionStatus read c'.transactionStatus

theorem Tracks.of_eq {c c' : Conn P} (hr : c'.stream.received = c.stream.received)
    (hs : c'.transactionStatus = c.transactionStatus) : Tracks c c' :=
  ⟨[], by rw [hr, List.append_nil], hs⟩

theorem Tracks.trans {c c' c'' : Conn P} (h : Tracks c c') (h' : Tracks c' c'') :
    Tracks c c'' := by
  obtain ⟨read, hr, hs⟩ := h
  obtain ⟨read', hr', hs'⟩ := h'
  exact ⟨read ++ read', by rw [hr', hr, List.append_assoc], hs.trans hs'⟩

/-- One message more has been read. -/
theorem Tracks.read {c c' c'' : Conn P} (h : Tracks c c') {m : RawMessage}
    (hr : c''.stream.received = c'.stream.received ++ [m])
    (hs : Reported c'.transactionStatus [m] c''.transactionStatus) : Tracks c c'' :=
  h.trans ⟨[m], hr, hs⟩

/-- A connection that is ready for an exchange was so before, and its transaction status is what the
messages read in between report. -/
def Records (c c' : Conn P) : Prop :=
  c'.exchangeReady = true → c.exchangeReady = true ∧ Tracks c c'

instance : KeptAside (Records (P := P)) where
  refl _ h := ⟨h, .of_eq rfl rfl⟩
  trans _ _ _ h h' hready := by
    obtain ⟨hready', htracks'⟩ := h' hready
    obtain ⟨hready'', htracks⟩ := h hready'
    exact ⟨hready'', htracks.trans htracks'⟩
  quiet h hready := ⟨h.ready hready, .of_eq (by rw [h.stream]) h.transactionStatus⟩

/-- The connection with the status that the value of a loop stands for. -/
def settled (record : α → TransactionStatus → TransactionStatus) (o : Outcome Error α)
    (c : Conn P) : Conn P :=
  match o with
  | .ok a => { c with transactionStatus := record a c.transactionStatus }
  | _ => c

/-- An exchange that began at `c` is still in progress, or the transaction status is settled. -/
def Settles (record : α → TransactionStatus → TransactionStatus) (c : Conn P)
    (o : Outcome Error α) (c' : Conn P) : Prop :=
  Busy c' ∨ Tracks c (settled record o c')

/-- What a round does about the transaction status. The loop goes on with the exchange in progress,
and where it ends the exchange it has recorded what its last message reports, or gives it back. -/
def Recording (Inv : β → Prop) (record : α → TransactionStatus → TransactionStatus)
    (body : β → RawMessage → Act Error (Conn P) (Flow β α)) : Prop :=
  ∀ b m c, Inv b → Busy c → c.bufferSet.loaded = m → Act.Meets (body b m) c fun o c' =>
    match o with
    | .ok (.next b') => Inv b' ∧ Busy c' ∧ Reported c.transactionStatus [m] c'.transactionStatus
    | .ok (.stop a) =>
      Busy c' ∨ Reported c.transactionStatus [m] (record a c'.transactionStatus)
    | _ => Busy c' ∨ Reported c.transactionStatus [m] c'.transactionStatus

/-- A loop settles the status of the messages it reads, dropped on the way or not. -/
theorem readMessages_settles {Inv : β → Prop} {record : α → TransactionStatus → TransactionStatus}
    {body : β → RawMessage → Act Error (Conn P) (Flow β α)} (hrec : Recording Inv record body)
    (hstill : ∀ b m, Keeps Still (body b m)) {b : β} {c : Conn P} (hb : Inv b) (hbusy : Busy c) :
    Act.Meets (readMessages body b) c (Settles record c) := by
  refine readLoop_meets receive starve body (I := fun _ b s => Inv b ∧ Busy s ∧ Tracks c s)
    (Q := Settles record c) ?_ ?_ _ b c ⟨hb, hbusy, .of_eq rfl rfl⟩
  · intro b s ⟨_, hbusy, _⟩
    refine Act.meets_bind.mpr (awaitPoint_meets (.inl hbusy) fun cut _ => ?_)
    unfold Act.Meets
    dsimp only
    split <;> exact .inl hbusy
  · intro m ms b s ⟨hb, hbusy, htracks⟩
    simp only [receive, Act.meets_bind, Act.meets_modify]
    refine awaitPoint_meets (.inl hbusy) fun cut _ => ?_
    generalize hs₁ : take { s with stream := { s.stream with cut } } m = s₁
    have hround := (hrec b m s₁ hb (by subst hs₁; exact hbusy) (by subst hs₁; rfl)).at
    have hst := (hstill b m).rel s₁
    have hreceived : s₁.stream.received = s.stream.received ++ [m] := by
      subst hs₁
      rfl
    have hstatus : s₁.transactionStatus = s.transactionStatus := by
      subst hs₁
      rfl
    dsimp only
    unfold Act.Meets
    generalize body b m s₁ = r at hround hst
    obtain ⟨o, s₂⟩ := r
    dsimp only at hround hst ⊢
    have read {status : TransactionStatus} (h : Reported s₁.transactionStatus [m] status) :
        Tracks c { s₂ with transactionStatus := status } := by
      rw [hstatus] at h
      refine htracks.read ?_ h
      show s₂.stream.received = _
      rw [hst.1, hreceived]
    cases o with
    | ok flow =>
      cases flow with
      | next b' => exact ⟨hround.1, hround.2.1, read hround.2.2⟩
      | stop a => exact hround.imp_right read
    | err e => exact hround.imp_right read
    | halt => exact hround.imp_right read

/-! ### Rounds -/

theorem not_ready_of_within {t : MsgType} (h : t.within = true) : t.isReady = false := by
  cases t <;> first | rfl | cases h

/-- The rounds of a machine that ends at ReadyForQuery. -/
theorem machine_recording {step : Step S Action} {Started : S → Prop}
    {status : S → TransactionStatus} {Stop : S → α → Conn P → Prop} {Fail : S → Conn P → Prop}
    {record : α → TransactionStatus → TransactionStatus}
    {body : S → RawMessage → Act Error (Conn P) (Flow S α)} (hend : EndsAtReady step Started)
    (hreports : ReportsStatus step Started status)
    (hround : ∀ m x c, Act.Meets (body m x) c (Rounded step Stop Fail m c))
    (hhalt : ∀ m x c, Act.Meets (body m x) c fun o c' => o = .halt → c'.marks = c.marks)
    (hnext : ∀ m x c, Act.Meets (body m x) c fun o c' =>
      ∀ m', o = .ok (.next m') → c'.transactionStatus = c.transactionStatus)
    (hstop : ∀ m a c, Stop m a c → record a c.transactionStatus = status m)
    (hfail : ∀ m c, Fail m c → c.transactionStatus = status m) :
    Recording Started record body := by
  intro m x c hm hbusy hx
  have hround := (hround m x c).at
  have hhalt := (hhalt m x c).at
  have hnext := (hnext m x c).at
  have hstarted := hend.step_started m c.bufferSet hm
  have hends := hend.step_ends m c.bufferSet hm
  have hparse := hreports m c.bufferSet hm
  have htype : c.bufferSet.typeByte = x.type := by rw [← hx]; rfl
  have hpayload : c.bufferSet.readBuffer = x.payload := by rw [← hx]; rfl
  rw [htype] at hends
  rw [hpayload] at hparse
  -- the machine ends at a ReadyForQuery, whose status it has
  have ended {action : Action} {m' : S} {b' : BufferSet}
      (hrun : step (m, c.bufferSet) = (.ok action, (m', b'))) (haction : action.ends = true) :
      Reported c.transactionStatus [x] (status m') := by
    rw [hrun] at hends hparse
    rcases hends action rfl with ⟨hreads, -⟩ | ⟨-, hready⟩
    · rw [Action.ends_of_reads hreads] at haction
      cases haction
    · exact reported_of_ready (by rw [hready]; rfl) (hparse action rfl haction)
  unfold Act.Meets
  generalize body m x c = r at hround hhalt hnext
  obtain ⟨o, c'⟩ := r
  dsimp only at hround hhalt hnext ⊢
  cases hround with
  | next hrun hreads hmarks =>
    rw [hrun] at hstarted hends
    refine ⟨hstarted, hbusy.of_marks hmarks, ?_⟩
    rw [hnext _ rfl]
    rcases hends _ rfl with ⟨-, hwithin⟩ | ⟨hends, -⟩
    · exact reported_of_not_ready (not_ready_of_within hwithin)
    · rw [Action.ends_of_reads hreads] at hends
      cases hends
  | stop hrun _ hs =>
    refine .inr ?_
    rw [hstop _ _ _ hs]
    exact ended hrun rfl
  | error hrun _ hf =>
    refine .inr ?_
    rw [hfail _ _ hf]
    exact ended hrun rfl
  | failed _ hmarks => exact .inl (hbusy.of_marks hmarks)
  | bug _ hmarks => exact .inl (hbusy.of_marks hmarks)
  | halt => exact .inl (hbusy.of_marks (hhalt rfl))

/-- The rounds of a query machine store its status. -/
theorem driveRound_recording [StateMachine S] [LawfulStateMachine S] [Reports S] :
    Recording HandlerMachine.Started (fun _ status => status)
      (driveRound : S → RawMessage → Act Error (Conn P) (Flow S S)) := by
  refine machine_recording (LawfulStateMachine.endsAtReady S) Reports.reportsStatus
    driveRound_rounded driveRound_halts (fun m x c => ?_) (fun _ _ _ h => h.2) fun _ _ h => h
  refine Act.meets_bind.mpr (stepMachine_cases (fun action m' b _ => ?_)
    (fun _ _ _ _ _ h => by cases h) fun _ _ h => by cases h)
  cases action <;> first | exact fun _ _ => rfl | exact fun _ h => by cases h

theorem prepareBatchRound_recording :
    Recording BatchPrepareStateMachine.Started (fun _ status => status) (prepareBatchRound :
      BatchPrepareStateMachine → RawMessage → Act Error (Conn P) (Flow _ _)) := by
  refine machine_recording BatchPrepareStateMachine.endsAtReady
    BatchPrepareStateMachine.reportsStatus prepareBatchRound_rounded prepareBatchRound_halts
    (fun m x c => ?_) (fun _ _ _ h => h.2) fun _ _ h => h.elim
  refine Act.meets_bind.mpr (stepMachine_cases (fun action m' b _ => ?_)
    (fun _ _ _ _ _ h => by cases h) fun _ _ h => by cases h)
  cases action <;> first | exact fun _ _ => rfl | exact fun _ h => by cases h

/-- The batch machine is given back with its status, which is stored behind the loop. -/
theorem driveBatchRound_recording :
    Recording BatchStateMachine.Started (fun m _ => m.transactionStatus) (driveBatchRound :
      BatchStateMachine → RawMessage → Act Error (Conn P) (Flow _ _)) := by
  refine machine_recording BatchStateMachine.endsAtReady BatchStateMachine.reportsStatus
    driveBatchRound_rounded driveBatchRound_halts (fun m x c => ?_)
    (fun _ _ _ h => congrArg _ h) fun _ _ h => h
  refine Act.meets_bind.mpr (stepMachine_cases (fun action m' b _ => ?_)
    (fun _ _ _ _ _ h => by cases h) fun _ _ h => by cases h)
  cases action <;> first | exact fun _ _ => rfl | exact fun _ h => by cases h

/-- The transaction status stays. -/
def SameStatus (c c' : Conn P) : Prop := c'.transactionStatus = c.transactionStatus

instance : Std.Refl (SameStatus (P := P)) := ⟨fun _ => rfl⟩

instance : IsTrans (Conn P) SameStatus := ⟨fun _ _ _ h h' => h'.trans h⟩

/-- A loop that is completed by a message of its own reads no ReadyForQuery and stores no status. -/
theorem steady_recording {Inv : β → Prop} {body : β → RawMessage → Act Error (Conn P) (Flow β α)}
    (hsteady : Steady Inv MsgType.completes MsgType.within body)
    (hsame : ∀ b m, Keeps SameStatus (body b m)) :
    Recording Inv (fun _ status => status) body := by
  intro b m c hb hbusy hm
  have hround := (hsteady b m c hb hbusy hm).at
  have hstatus : (body b m c).2.transactionStatus = c.transactionStatus := (hsame b m).rel c
  have completed (h : m.type.completes = true) : m.type.isReady = false := by
    cases ht : m.type <;> first | rfl | (rw [ht] at h; cases h)
  unfold Act.Meets
  generalize body b m c = r at hround hstatus
  obtain ⟨o, c'⟩ := r
  dsimp only at hround hstatus ⊢
  rw [hstatus]
  match o, hround with
  | .ok (.next b'), ⟨hb', hbusy', hpass⟩ =>
    exact ⟨hb', hbusy', reported_of_not_ready (not_ready_of_within hpass)⟩
  | .ok (.stop _), hround => exact hround.imp_right fun h => reported_of_not_ready (completed h)
  | .err e, hround => exact hround.imp_right fun h => reported_of_not_ready (completed h)
  | .halt, hround => exact hround.imp_right fun h => reported_of_not_ready (completed h)

theorem stepMachine_status {step : Step S Action} (m : S) :
    Keeps SameStatus (stepMachine step m : Act Error (Conn P) (Action × S)) := ⟨fun _ => rfl⟩

theorem finishExchange_status : Keeps SameStatus (finishExchange : Act Error (Conn P) Unit) :=
  ⟨fun _ => rfl⟩

theorem bindRound_recording : Recording BindStateMachine.Started (fun _ status => status)
    (bindRound : BindStateMachine → RawMessage → Act Error (Conn P) (Flow _ Unit)) := by
  refine steady_recording bindRound_steady fun m x => ?_
  refine (stepMachine_status m).bind fun (action, m') => ?_
  cases action with
  | readMessage => exact keeps_pure _
  | finished => exact finishExchange_status.bind fun _ => keeps_pure _
  | write | writeAndReadMessage => exact keeps_halt
  | _ => exact keeps_fail _

theorem lowlevelBindRound_recording : Recording (fun _ => True) (fun _ status => status)
    (lowlevelBindRound : Unit → RawMessage → Act Error (Conn P) (Flow Unit Unit)) := by
  refine steady_recording lowlevelBindRound_steady fun u m => ?_
  unfold lowlevelBindRound
  split
  · exact keeps_pure _
  · split
    · exact (keeps_lift _).bind fun _ => finishExchange_status.bind fun _ => keeps_pure _
    · exact (keeps_lift _).bind fun _ => keeps_fail _
    · exact keeps_fail _

theorem lowlevelClosePortalRound_recording : Recording (fun _ => True) (fun _ status => status)
    (lowlevelClosePortalRound : Unit → RawMessage → Act Error (Conn P) (Flow Unit Unit)) := by
  refine steady_recording lowlevelClosePortalRound_steady fun u m => ?_
  unfold lowlevelClosePortalRound
  split
  · exact keeps_pure _
  · split
    · exact (keeps_lift _).bind fun _ => finishExchange_status.bind fun _ => keeps_pure _
    · exact (keeps_lift _).bind fun _ => keeps_fail _
    · exact keeps_fail _

theorem lowlevelExecuteRound_recording (handler : Handler) :
    Recording (fun _ => True) (fun _ status => status) (lowlevelExecuteRound handler :
      ExecuteState → RawMessage →
        Act Error (Conn P) (Flow ExecuteState (Bool × List Callback))) := by
  refine steady_recording (lowlevelExecuteRound_steady handler) fun s m => ?_
  have called (cb : Callback) :
      Keeps SameStatus (callHandler handler s.calls cb : Act Error (Conn P) (List Callback)) :=
    (keeps_ofExcept _).bind fun _ => keeps_pure _
  unfold lowlevelExecuteRound
  split
  · exact keeps_pure _
  · split
    · exact (keeps_lift _).bind fun _ => (called _).bind fun _ => keeps_pure _
    · exact (keeps_lift _).bind fun _ => keeps_pure _
    · exact (keeps_lift _).bind fun _ => (keeps_lift _).bind fun _ => (called _).bind fun _ =>
        keeps_pure _
    · exact (keeps_lift _).bind fun _ => (called _).bind fun _ => finishExchange_status.bind
        fun _ => keeps_pure _
    · exact (keeps_lift _).bind fun _ => finishExchange_status.bind fun _ => keeps_pure _
    · exact (keeps_lift _).bind fun _ => keeps_fail _
    · exact keeps_fail _

/-- `lowlevel_sync` stores the status of the ReadyForQuery it waits for. -/
theorem lowlevelSyncRound_recording : Recording (fun _ => True) (fun _ status => status)
    (lowlevelSyncRound : Option Error → RawMessage →
      Act Error (Conn P) (Flow (Option Error) Unit)) := by
  intro pending m c _ hbusy _
  unfold lowlevelSyncRound
  split
  · next ha => exact ⟨trivial, hbusy, reported_of_not_ready (not_ready_of_within
      (within_of_isAsync ha))⟩
  · split
    · next ht =>
      refine Act.meets_bind.mpr (Act.meets_lift.mpr ?_)
      cases hparse : ReadyForQuery.parse m.payload with
      | ok status =>
        have h : Reported c.transactionStatus [m] status :=
          reported_of_ready (by rw [ht]; rfl) hparse
        refine Act.meets_bind.mpr (Act.meets_modify.mpr (Act.meets_bind.mpr
          (Act.meets_modify.mpr ?_)))
        cases pending with
        | some e => exact .inr h
        | none => exact .inr h
      | err e => exact .inl hbusy
      | halt => exact .inl hbusy
    · next ht =>
      refine lift_runs (ErrorResponse.parse_breaks _) (fun error _ => ?_) (fun _ _ => .inl hbusy)
        (.inl hbusy)
      dsimp only
      split
      · exact .inl hbusy
      · exact ⟨trivial, hbusy, reported_of_not_ready (by rw [ht]; rfl)⟩
    · next hready _ => exact ⟨trivial, hbusy, reported_of_not_ready (by
        cases ht : m.type <;> first | rfl | exact absurd ht hready)⟩

/-! ### Exchanges -/

/-- Something goes out or nothing happens: the marks and the transaction status stay, and nothing is
read. -/
def Sends (c c' : Conn P) : Prop :=
  c'.marks = c.marks ∧ c'.stream.received = c.stream.received ∧ SameStatus c c'

theorem Sends.records {c c' : Conn P} (h : Sends c c') : Records c c' := fun hready =>
  ⟨(exchangeReady_of_marks h.1).symm.trans hready, .of_eq h.2.1 h.2.2⟩

instance : Std.Refl (Sends (P := P)) := ⟨fun _ => ⟨rfl, rfl, rfl⟩⟩

instance : IsTrans (Conn P) Sends where
  trans _ _ _ h h' := ⟨h'.1.trans h.1, h'.2.1.trans h.2.1, h'.2.2.trans h.2.2⟩

theorem send_sends : Keeps Sends (send : Act Error (Conn P) Unit) := by
  refine Keeps.bind ⟨fun c => ?_⟩ fun _ => ⟨fun c => ?_⟩
  · unfold writeAll
    split <;> exact ⟨rfl, Stream.sendAll_received .., rfl⟩
  · exact awaitPoint_meets (Q := fun _ c' => Sends c c') (Std.Refl.refl c)
      fun _ _ => ⟨rfl, rfl, rfl⟩

/-- What came before the loop read nothing and left the transaction status alone. -/
theorem settles_of_eq {record : α → TransactionStatus → TransactionStatus}
    {x : Act Error (Conn P) α} {c c₁ : Conn P} (hr : c₁.stream.received = c.stream.received)
    (hs : c₁.transactionStatus = c.transactionStatus) (h : Act.Meets x c₁ (Settles record c₁)) :
    Act.Meets x c₁ (Settles record c) :=
  h.mono fun _ _ h => h.imp_right fun h => (Tracks.of_eq hr hs).trans h

/-- An exchange on a connection that is ready for it begins, or it is refused. -/
theorem beginExchange_settles {record : α → TransactionStatus → TransactionStatus}
    {f : Act Error (Conn P) α} {c : Conn P}
    (hf : Act.Meets f { c with flags := Driver.beginFlags c.flags } (Settles record c)) :
    Act.Meets (beginExchange >>= fun _ => f) c fun o c' => Records c (settled record o c') := by
  refine Act.meets_bind.mpr (beginExchange_meets
    (fun _ => (Std.Refl.refl c : Records c c)) fun hready => ?_)
  refine hf.mono fun o c' h hready' => ⟨hready, ?_⟩
  rcases h with hbusy | htracks
  · have hready' : c'.exchangeReady = true := by cases o <;> exact hready'
    rw [hbusy.not_ready] at hready'
    cases hready'
  · exact htracks

/-- A request goes out, and the loop that reads its reply settles the status. -/
theorem request_settles {Inv : β → Prop} {record : α → TransactionStatus → TransactionStatus}
    {body : β → RawMessage → Act Error (Conn P) (Flow β α)} (hrec : Recording Inv record body)
    (hstill : ∀ b m, Keeps Still (body b m)) {b : β} {c : Conn P} (hb : Inv b) (hbusy : Busy c) :
    Act.Meets (send >>= fun _ => readMessages body b) c (Settles record c) := by
  refine send_busy hbusy (fun _ _ => .inl) fun cut => ?_
  exact settles_of_eq (Stream.sendAll_received ..) rfl (readMessages_settles hrec hstill hb hbusy)

/-- The exchange of a machine, with the status its value stands for. -/
theorem exchangeWith_settles {step : Step S Action} {Inv : S → Prop}
    {record : α → TransactionStatus → TransactionStatus}
    {body : S → RawMessage → Act Error (Conn P) (Flow S α)} (hrec : Recording Inv record body)
    (hstill : ∀ b m, Keeps Still (body b m)) {m : S}
    (hfirst : ∀ b m' b', step (m, b) = (.ok .writeAndReadMessage, (m', b')) → Inv m')
    (c : Conn P) :
    Act.Meets (exchangeWith step body m) c fun o c' => Records c (settled record o c') := by
  refine beginExchange_settles (Act.meets_bind.mpr (stepMachine_cases
    (fun action m' b hstep => ?_) (fun _ _ _ _ => .inl rfl) fun _ => .inl rfl))
  cases action with
  | writeAndReadMessage =>
    exact settles_of_eq rfl rfl (request_settles hrec hstill (hfirst _ _ _ hstep) rfl)
  | _ => exact .inl rfl

/-- The exchange of a machine whose loop stores the status itself. -/
theorem exchangeWith_records {step : Step S Action} {Inv : S → Prop}
    {body : S → RawMessage → Act Error (Conn P) (Flow S α)}
    (hrec : Recording Inv (fun _ status => status) body) (hstill : ∀ b m, Keeps Still (body b m))
    {m : S} (hfirst : ∀ b m' b', step (m, b) = (.ok .writeAndReadMessage, (m', b')) → Inv m') :
    Keeps Records (exchangeWith step body m : Act Error (Conn P) α) := by
  refine ⟨fun c => ?_⟩
  have h := (exchangeWith_settles hrec hstill hfirst c).at
  generalize exchangeWith step body m c = r at h ⊢
  obtain ⟨_ | _ | _, c'⟩ := r <;> exact h

/-- A request that goes out from the write buffer, and the loop that reads its reply. -/
theorem exchange_records {Inv : β → Prop} {body : β → RawMessage → Act Error (Conn P) (Flow β α)}
    (hrec : Recording Inv (fun _ status => status) body) (hstill : ∀ b m, Keeps Still (body b m))
    {b : β} (hb : Inv b) (fs : List Frontend) :
    Keeps Records (do
      setWriteBuffer fs
      beginExchange
      send
      readMessages body b) := by
  refine (setWriteBuffer_keeps fs).bind fun _ => ⟨fun c => ?_⟩
  have h := (beginExchange_settles (c := c)
    (settles_of_eq rfl rfl (request_settles hrec hstill hb rfl))).at
  generalize (beginExchange >>= fun _ => send >>= fun _ => readMessages body b) c = r at h ⊢
  obtain ⟨_ | _ | _, c'⟩ := r <;> exact h

/-! ### Operations -/

/-- The exchange of a query machine. -/
theorem drive_records [StateMachine S] [LawfulStateMachine S] [Reports S] (m : S) :
    Keeps Records (drive m : Act Error (Conn P) S) :=
  exchangeWith_records driveRound_recording driveRound_still fun b m' b' hstep => by
    have h := Reports.step_started m b
    rw [hstep] at h
    exact h

/-- What is built in the buffers of the connection. -/
theorem setBuffers_keeps {R : Conn P → Conn P → Prop} [KeptAside R] (b : BufferSet) :
    Keeps R (Act.modify fun c => { c with bufferSet := b } : Act Error (Conn P) Unit) :=
  modify_keeps fun _ => ⟨rfl, rfl, id⟩

theorem prepareInner_records (idx : Nat) (sql : String) (paramOids : List Oid) :
    Keeps Records (prepareInner idx sql paramOids : Act Error (Conn P) PreparedStatement) := by
  refine keeps_get.bind fun c => (setBuffers_keeps _).bind fun _ => (drive_records _).bind
    fun m => ?_
  cases m.preparedStmt with
  | some stmt => exact keeps_pure _
  | none => exact keeps_fail _

theorem prepareBatchInner_records (queries : List String) (startIdx : Nat) :
    Keeps Records (prepareBatchInner queries startIdx :
      Act Error (Conn P) (List PreparedStatement)) := by
  refine keeps_get.bind fun c => (setBuffers_keeps _).bind fun _ => ?_
  refine exchangeWith_records prepareBatchRound_recording prepareBatchRound_still
    fun b m' b' hstep => ?_
  cases hstep
  simp [BatchPrepareStateMachine.Started]

/-- The chunks of `exec_batch`; the status of each is stored behind its loop. -/
theorem execChunks_records (statement : StatementRef) (oids : List Oid) (name : String)
    (chunks : List (List Params)) :
    Keeps Records (execChunks statement oids name chunks : Act Error (Conn P) Unit) := by
  induction chunks with
  | nil => exact keeps_pure _
  | cons chunk chunks ih =>
    refine (setWriteBuffer_keeps _).bind fun _ => (keeps_ofExcept _).bind fun _ =>
      (setWriteBuffer_keeps _).bind fun _ => ⟨fun c => ?_⟩
    have h : Act.Meets (driveBatch (chunkMachine statement)) c fun o c' =>
        Records c (settled (fun m _ => m.transactionStatus) o c') := by
      refine exchangeWith_settles driveBatchRound_recording driveBatchRound_still
        (fun b m' b' hstep => ?_) c
      rw [SyncedRequest.step_chunk] at hstep
      cases hstep
      cases statement <;> simp [SyncedRequest.chunkStarted, BatchStateMachine.Started]
    have h := h.at
    rw [Act.bind_run]
    generalize driveBatch (chunkMachine statement) c = r at h ⊢
    obtain ⟨m | e | _, c'⟩ := r
    · exact IsTrans.trans _ _ _ h (ih.rel _)
    · exact h
    · exact h

theorem execBatchInner_records (statement : StatementRef) (paramsList : List Params)
    (chunkSize : Nat) :
    Keeps Records (execBatchInner statement paramsList chunkSize : Act Error (Conn P) Unit) := by
  cases paramsList with
  | nil => exact keeps_pure _
  | cons first rest => exact execChunks_records _ _ _ _

/-- What is bound to a portal. -/
theorem portalBind_records (portalName : String) (statement : StatementRef) (params : Params)
    {f : BindStateMachine → Act Error (Conn P) α}
    (hf : ∀ m : BindStateMachine, m.state = .initial → Keeps Records (f m)) :
    Keeps Records (writePortalBind portalName statement params >>= f) := by
  refine ⟨fun c => ?_⟩
  refine (Act.meets_bind.mpr (writePortalBind_meets (fun e b _ => ?_) fun m b hstart => ?_) :
    Act.Meets (writePortalBind portalName statement params >>= f) c fun _ c' => Records c c')
  · exact KeptAside.quiet (R := Records) ⟨rfl, rfl, id⟩
  · exact (hf m (startBind_frames hstart).1).rel { c with bufferSet := b }

theorem driveBind_records {m : BindStateMachine} (hm : m.state = .initial) :
    Keeps Records (driveBind m : Act Error (Conn P) Unit) :=
  exchangeWith_records bindRound_recording bindRound_still fun b m' b' hstep => by
    obtain ⟨m₁, hs, hfirst⟩ := step_bind_first hm b
    rw [hfirst] at hstep
    cases hstep
    exact hs

theorem withCut_records {x : Act Error (Conn P) α} (h : Keeps Records x) (cut : Option Cut) :
    Keeps Records (withCut cut x) :=
  ⟨fun c => h.rel { c with stream := { c.stream with cut } }⟩

theorem lowlevelExecuteInner_records (portal : String) (maxRows : Nat) (handler : Handler) :
    Keeps Records (lowlevelExecuteInner portal maxRows handler :
      Act Error (Conn P) (Bool × List Callback)) :=
  exchange_records (lowlevelExecuteRound_recording handler) (lowlevelExecuteRound_still handler)
    trivial _

theorem lowlevelSyncInner_records : Keeps Records (lowlevelSyncInner : Act Error (Conn P) Unit) :=
  exchange_records lowlevelSyncRound_recording (fun b m => mute_still (lowlevelSyncRound_mute b m))
    trivial _

theorem execPortalInner_records (bindCut syncCut : Option Cut) (statement : StatementRef)
    (params : Params) (f : PortalProg) :
    Keeps Records (execPortalInner bindCut syncCut statement params f :
      Act Error (Conn P) Unit) := by
  refine portalBind_records _ _ _ fun m hm => (setScopePending_keeps _).bind fun _ => ?_
  refine (withCut_records (driveBind_records hm) bindCut).bind fun _ => ?_
  refine (runPortal_keeps (fun cut _ _ =>
    withCut_records (lowlevelExecuteInner_records _ _ _) cut) f).attempt.bind fun result => ?_
  refine (withCut_records lowlevelSyncInner_records syncCut).attempt.bind fun syncResult => ?_
  exact keeps_get.bind fun c => (setScopePending_keeps _).bind fun _ => keeps_ofExcept _

theorem lowlevelFlush_records : Keeps Records (lowlevelFlush : Act Error (Conn P) Unit) := by
  refine ensureUsable_keeps.bind fun _ => (setWriteBuffer_keeps _).bind fun _ => ⟨fun c => ?_⟩
  have h : Act.Meets (beginExchange >>= fun _ => send >>= fun _ => finishExchange) c fun o c' =>
      Records c (settled (fun (_ : Unit) status => status) o c') := beginExchange_settles ?_
  · have h := h.at
    generalize (beginExchange >>= fun _ => send >>= fun _ => finishExchange) c = r at h ⊢
    obtain ⟨_ | _ | _, c'⟩ := r <;> exact h
  · refine Act.meets_bind.mpr ?_
    have hsends := send_sends.rel { c with flags := Driver.beginFlags c.flags }
    unfold Act.Meets
    generalize (send { c with flags := Driver.beginFlags c.flags } : Outcome Error Unit × Conn P) =
      r at hsends
    obtain ⟨_ | _ | _, c'⟩ := r <;> exact .inr (.of_eq hsends.2.1 hsends.2.2)

instance : KeptByOperations (Records (P := P)) where
  withCut cut h := withCut_records h cut
  queryInner sql handler := (drive_records _).bind fun _ => keeps_pure _
  prepareInner := prepareInner_records
  prepareBatchInner := prepareBatchInner_records
  execInner statement params handler := keeps_get.bind fun c => (setBuffers_keeps _).bind fun _ =>
    (keeps_ofExcept _).bind fun m => (drive_records m).bind fun _ => keeps_pure _
  execBatchInner := execBatchInner_records
  closeStatementInner name := keeps_get.bind fun c => (setBuffers_keeps _).bind fun _ =>
    (drive_records _).bind fun _ => keeps_pure _
  createNamedPortal portal statement params := ensureUsable_keeps.bind fun _ =>
    portalBind_records _ _ _ fun _ hm => driveBind_records hm
  execPortalInner := execPortalInner_records
  lowlevelFlush := lowlevelFlush_records
  lowlevelSyncInner := lowlevelSyncInner_records
  lowlevelBindInner portal name params := by
    unfold lowlevelBindInner
    exact (setWriteBuffer_keeps _).bind fun _ => (keeps_ofExcept _).bind fun _ =>
      exchange_records lowlevelBindRound_recording
        (fun u m => mute_still (lowlevelBindRound_mute u m)) trivial _
  lowlevelExecuteInner := lowlevelExecuteInner_records
  lowlevelClosePortalInner portal :=
    exchange_records lowlevelClosePortalRound_recording lowlevelClosePortalRound_still trivial _
  close := ensureUsable_keeps.bind fun _ => (setWriteBuffer_keeps _).bind fun _ =>
    send_sends.mono fun _ _ => Sends.records

end Tokio

end ZeroPostgres
