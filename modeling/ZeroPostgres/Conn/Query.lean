import ZeroPostgres.Conn.Drive
import ZeroPostgres.Server.Boundary
import ZeroPostgres.State.SimpleConformance
import ZeroPostgres.State.Steps

/-!
# Simple queries on a connection

`query_drop` on a connection on which nothing waits. `queryDrop_ok` says what has happened when it
returns without an error: the server has answered this very Query with success, and its whole
reply has been read.
-/

namespace ZeroPostgres.Conn

open Act SimpleQueryStateMachine

variable {P : Peer} {K : Type} [Driver K]

/-- Between `c` and `c'` the server has answered a Query with success, and the reply was read
through its ReadyForQuery. -/
structure Succeeded (sql : String) (c c' : Conn P K) : Prop where
  /-- The Query went out with nothing else, and was answered with success. -/
  answered : ∃ reply ms status z, c'.stream.log = c.stream.log ++ [(.query sql, reply)] ∧
    core reply = ms ++ [z] ∧ QuerySuccess (P.effect sql) c.session.status ms status ∧
    IsReady status z ∧ core c'.stream.received = core c.stream.received ++ core reply ∧
    c'.session = c.session.completed (P.effect sql) status ∧ c'.transactionStatus = status
  ready : c.session.mode = .ready
  unread : c'.unread = []
  marks : c'.marks = ended (begun c.marks)

theorem Succeeded.mode {sql : String} {c c' : Conn P K} (h : Succeeded sql c c') :
    c'.session.mode = .ready := by
  obtain ⟨_, _, _, _, _, _, _, _, _, hs, _⟩ := h.answered
  rw [hs, Session.completed_mode, h.ready]

/-- The simple query machine run on a conformant reply reports the error of the reply. -/
theorem run_verdict {sql : String} {handler : Handler} {ms : List RawMessage}
    {error : Option ServerError} {status : TransactionStatus} {b : BufferSet}
    (hans : SimpleQueryStateMachine.Answer error status (core ms)) (htotal : handler.Total)
    (hwell : ∀ m ∈ ms, m.isAsync = true → m.wellFormed = true) {v : Verdict}
    {r : SimpleQueryStateMachine × BufferSet}
    (hrun : runMachine SimpleQueryStateMachine.step ms
      ({ SimpleQueryStateMachine.new handler sql with state := .waitingResponse }, b) =
        (.ok v, r)) :
    v.error = error ∧ core v.unasked = [] ∧ r.1.transactionStatus = status := by
  obtain ⟨m', b', hcore, hstatus, -⟩ := SimpleQueryStateMachine.run_answer (b := b)
    (m := { SimpleQueryStateMachine.new handler sql with state := .waitingResponse })
    hans rfl rfl (htotal.willing _ _)
  obtain ⟨body, z, tail, -, htail, -, hall⟩ := runMachine_core (b := b)
    (LawfulStateMachine.passesAsync SimpleQueryStateMachine)
    (by simp [HandlerMachine.Started]) hwell rfl rfl hcore
  have heq := hrun.symm.trans hall
  obtain ⟨hv, rfl⟩ := Prod.mk.inj heq
  cases hv
  exact ⟨rfl, htail, hstatus⟩

/-- A simple query that succeeds on a connection on which nothing waits. -/
theorem queryDrop_ok (hP : P.NoCopy) {sql : String} {c c' : Conn P K} {calls : List Callback}
    (hc : c.Regular) (hu : c.unread = []) (h : queryDrop sql c = (.ok calls, c')) :
    Succeeded sql c c' := by
  have h := guarded_ok h
  obtain ⟨m, hdrive⟩ :
      ∃ m, drive (SimpleQueryStateMachine.new DropHandler sql) c = (.ok m, c') := by
    unfold queryInner at h
    rw [Act.bind_run] at h
    generalize drive (SimpleQueryStateMachine.new DropHandler sql) c = r at h ⊢
    rcases r with ⟨m | _ | _, c₁⟩
    · cases h
      exact ⟨m, rfl⟩
    · cases h
    · cases h
  have hspec := (exchangeWith_driven (P := P) (c := c) driveRound_still driveRound_rounded
    (step_new DropHandler sql c.bufferSet)).at
  change _ ∨ _ at hspec
  have hdrive' : exchangeWith StateMachine.step driveRound
    (SimpleQueryStateMachine.new DropHandler sql) c = (.ok m, c') := hdrive
  rw [hdrive'] at hspec
  rcases hspec with hspec | ⟨-, hspec, -⟩ | ⟨-, ⟨read, htalked⟩, hdriven⟩
  · cases hspec
  · cases hspec
  have hfeed : P.feed c.stream.peer [.query sql] = P.respond c.stream.peer (.query sql) := by
    rw [P.feed_cons, P.feed_nil, List.append_nil]
  rw [hfeed] at hdriven
  cases hdriven with
  | @stop v _ m' _ hrun he hin hmarks hstop =>
    obtain ⟨rfl, hstatus⟩ := hstop
    have hcore : core (c.stream.inbound ++ (P.respond c.stream.peer (.query sql)).1) =
        core (P.respond c.stream.peer (.query sql)).1 := by
      rw [core_append, show core c.stream.inbound = [] from hu, List.nil_append]
    have hwell : ∀ m ∈ c.stream.inbound ++ (P.respond c.stream.peer (.query sql)).1,
        m.isAsync = true → m.wellFormed = true := fun m hm =>
      (List.mem_append.mp hm).elim (hc.asyncs m) (P.asyncs _ _ m)
    -- the ReadyForQuery that ended the machine is one of this reply, so the server was ready
    obtain ⟨body, z, hsplit, hz, -⟩ := runMachine_ends
      (LawfulStateMachine.endsAtReady SimpleQueryStateMachine)
      (by simp [HandlerMachine.Started]) hrun
    have hmem : z ∈ core (P.respond c.stream.peer (.query sql)).1 := by
      rw [← hcore, hsplit]
      simp [core, RawMessage.isAsync, hz, MsgType.isAsync]
    rcases respond_boundary (.query sql) hc.mode (hP _ _ hc.mode) with
      hno | ⟨-, hready, hmode, -⟩
    · have hno := hno z hmem
      simp [MsgType.isReady, hz] at hno
    have hready : c.session.mode = .ready := hready.resolve_left (by simp)
    rcases @respond_query_cases P hP _ sql hready with
      hclosed | ⟨ms, status, z, hr, hsucc, hzs, hsession, hans⟩ | ⟨e, status, -, -, -, hans⟩
    · rw [hmode] at hclosed
      cases hclosed
    · rw [← hr, ← hcore] at hans
      obtain ⟨-, htail, hm⟩ := run_verdict hans DropHandler_total hwell hrun
      have hpeer : c'.session = P.session (P.respond c.stream.peer (.query sql)).2 := by
        rw [session, Stream.session, htalked.peer, hfeed]
      refine ⟨⟨_, ms, status, z, ?_, hr, hsucc, hzs, ?_, hpeer.trans hsession, hstatus.trans hm⟩,
        hready, ?_, hmarks⟩
      · rw [htalked.log]
        rfl
      · have hown := htalked.answers_own hu
        rw [hfeed] at hown
        rw [htalked.received, core_append, hown, unread, hin, htail, List.append_nil]
      · rw [unread, hin]
        exact htail
    · rw [← hcore] at hans
      obtain ⟨herr, -, -⟩ := run_verdict hans DropHandler_total hwell hrun
      rw [he] at herr
      cases herr

end ZeroPostgres.Conn
