import ZeroPostgres.Conn.Cancellation
import ZeroPostgres.Conn.Outcome
import ZeroPostgres.Conn.Query
import ZeroPostgres.Conn.SyncAlignment

/-!
# How transactions end

`transaction` sends COMMIT or ROLLBACK after its closure, and returns what the closure returned
unless the COMMIT is answered with an error. A block that has failed on the server answers COMMIT
with success all the same, under the tag ROLLBACK, and nothing looks at the tag or at the status of
the connection. `transaction_commits_iff` says when a transaction that returns a value was
committed.
-/

namespace ZeroPostgres.Conn

open Act

variable {P : Peer} {K : Type}

/-! ### Queries -/

section Queries

open SimpleQueryStateMachine

variable [Driver K]

/-- Between `c` and `c'` the server has answered a Query, with the error given or with none, and the
whole reply was read. -/
structure Queried (sql : String) (error : Option ServerError) (c c' : Conn P K) : Prop where
  log : c'.stream.log = c.stream.log ++ [(.query sql, c.reply [.query sql])]
  errors : errorsIn (c.reply [.query sql]) = error.toList
  ready : c.session.mode = .ready
  session : c'.session = P.session (P.respond c.stream.peer (.query sql)).2
  aligned : c'.Aligned
  status : c'.transactionStatus = c'.session.status
  marks : c'.marks = ended (begun c.marks)

/-- How a query ends: it does not return, it fails with an error that breaks the connection, or its
reply has been read. -/
def QueryEnds (sql : String) (c : Conn P K) (o : Outcome Error (List Callback))
    (c' : Conn P K) : Prop :=
  o = .halt ∨ (∃ e, o = .err e ∧ e.isConnectionBroken = true) ∨
    ∃ error, Queried sql error c c' ∧
      (error = none ∧ (∃ calls, o = .ok calls) ∨ ∃ e, error = some e ∧ o = .err (.server e))

/-- A query without a handler on a connection on which nothing waits. -/
theorem queryInner_ends (hP : P.NoCopy) (sql : String) {c : Conn P K} (hc : c.Regular)
    (hu : c.unread = []) : Act.Meets (queryInner sql DropHandler) c (QueryEnds sql c) := by
  have hspec := (exchangeWith_driven (P := P) (c := c) driveRound_still driveRound_rounded
    (step_new DropHandler sql c.bufferSet)).at
  have hdrive : exchangeWith StateMachine.step driveRound
    (SimpleQueryStateMachine.new DropHandler sql) c =
      drive (SimpleQueryStateMachine.new DropHandler sql) c := rfl
  rw [hdrive] at hspec
  unfold queryInner
  rw [Act.meets_bind]
  unfold Act.Meets
  generalize drive (SimpleQueryStateMachine.new DropHandler sql) c = r at hspec
  obtain ⟨o, c'⟩ := r
  dsimp only at hspec ⊢
  rcases hspec with rfl | ⟨-, rfl, -⟩ | ⟨-, ⟨read, htalked⟩, hdriven⟩
  · exact .inl rfl
  · exact .inr (.inl ⟨_, rfl, rfl⟩)
  have hfeed : P.feed c.stream.peer [.query sql] = P.respond c.stream.peer (.query sql) := by
    rw [P.feed_cons, P.feed_nil, List.append_nil]
  have hreply : c.reply [.query sql] = (P.respond c.stream.peer (.query sql)).1 :=
    congrArg Prod.fst hfeed
  rw [hfeed] at hdriven
  -- a machine that has ended has read this reply, and it reports the error and the status of it
  have ended {v : Verdict} {m' : SimpleQueryStateMachine}
      (hrun : runMachine SimpleQueryStateMachine.step
        (c.stream.inbound ++ (P.respond c.stream.peer (.query sql)).1)
        ({ SimpleQueryStateMachine.new DropHandler sql with state := .waitingResponse },
          { c.bufferSet with writeBuffer := [.query sql] }) = (.ok v, (m', c'.bufferSet)))
      (hin : c'.stream.inbound = v.unasked) (hmarks : c'.marks = Conn.ended (begun c.marks))
      (hstatus : c'.transactionStatus = m'.transactionStatus) :
      Queried sql v.error c c' := by
    have hcore : core (c.stream.inbound ++ (P.respond c.stream.peer (.query sql)).1) =
        core (P.respond c.stream.peer (.query sql)).1 := by
      rw [core_append, show core c.stream.inbound = [] from hu, List.nil_append]
    have hwell : ∀ m ∈ c.stream.inbound ++ (P.respond c.stream.peer (.query sql)).1,
        m.isAsync = true → m.wellFormed = true := fun m hm =>
      (List.mem_append.mp hm).elim (hc.asyncs m) (P.asyncs _ _ m)
    obtain ⟨body, z, hsplit, hz, -⟩ := runMachine_ends
      (LawfulStateMachine.endsAtReady SimpleQueryStateMachine)
      (by simp [HandlerMachine.Started]) hrun
    have hmem : z ∈ core (P.respond c.stream.peer (.query sql)).1 := by
      rw [← hcore, hsplit]
      simp [core, RawMessage.isAsync, hz, MsgType.isAsync]
    rcases respond_boundary (.query sql) hc.mode (hP _ _ hc.mode) with
      hno | ⟨-, hready, hmode, -⟩
    · have hno := hno z hmem
      simp [MsgType.isReady, hz] at hno
    have hready : c.session.mode = .ready := hready.resolve_left (by simp)
    have hpeer : c'.session = P.session (P.respond c.stream.peer (.query sql)).2 := by
      rw [session, Stream.session, htalked.peer]
      exact congrArg (fun r => P.session r.2) hfeed
    -- the reply ends with a status that the server then has
    have answered {error : Option ServerError} {status : TransactionStatus}
        (hans : Answer error status (core (P.respond c.stream.peer (.query sql)).1))
        (hserver : (P.session (P.respond c.stream.peer (.query sql)).2).status = status) :
        Queried sql v.error c c' := by
      rw [← hcore] at hans
      obtain ⟨herr, htail, hm⟩ := run_verdict hans DropHandler_total hwell hrun
      refine ⟨?_, ?_, hready, hpeer, ⟨?_, hpeer ▸ hmode⟩, ?_, hmarks⟩
      · rw [htalked.log, hreply]
        rfl
      · rw [hreply, ← errorsIn_core, ← hcore, hans.ends.2, herr]
      · rw [unread, hin]
        exact htail
      · rw [hstatus, hm, hpeer, hserver]
    rcases @respond_query_cases P hP _ sql hready with
      hclosed | ⟨ms, status, z, hr, -, -, hsession, hans⟩ | ⟨e, status, -, -, hsession, hans⟩
    · rw [hmode] at hclosed
      cases hclosed
    · exact answered (hr ▸ hans) (by rw [hsession, Session.completed_status])
    · exact answered hans (by rw [hsession])
  cases hdriven with
  | @stop v _ m' _ hrun he hin hmarks hstop =>
    obtain ⟨rfl, hstatus⟩ := hstop
    exact .inr (.inr ⟨_, ended hrun hin hmarks hstatus, .inl ⟨he, _, rfl⟩⟩)
  | @error v e m' _ hrun he hin hmarks hfail =>
    exact .inr (.inr ⟨_, ended hrun hin hmarks hfail, .inr ⟨e, he, rfl⟩⟩)
  | @failed e _ _ hrun =>
    refine .inr (.inl ⟨e, rfl, ?_⟩)
    exact LawfulStateMachine.run_breaks (by simp [HandlerMachine.Started])
      (.inl DropHandler_total) e (congrArg Prod.fst hrun)
  | bug he => exact .inr (.inl ⟨_, rfl, he⟩)
  | halt => exact .inl rfl

/-- What a server that goes on answers to a Query, its error no FATAL one. -/
theorem respond_open (hP : P.NoCopy) {st : P.State} {sql : String}
    (hm : (P.session st).mode = .ready)
    (hopen : (P.session (P.respond st (.query sql)).2).mode ≠ .closed) :
    ∃ error status, Answer error status (core (P.respond st (.query sql)).1) ∧
      ∀ e, error = some e → e.isFatal = false := by
  rcases respond_query_cases hP hm with
    h | ⟨ms, status, z, hr, -, -, -, hans⟩ | ⟨e, status, hfatal, -, -, hans⟩
  · exact absurd h hopen
  · exact ⟨none, status, hr ▸ hans, fun _ h => by cases h⟩
  · exact ⟨some e, status, hans, fun _ h => by cases h; exact hfatal⟩

/-- A query on an aligned connection returns what the server answers, if the session goes on. -/
theorem queryDrop_open (hP : P.NoCopy) (sql : String) {c : Conn P K} (hc : c.Regular)
    (ha : c.Aligned) (hcut : c.stream.cut = none) (hready : c.exchangeReady = true)
    (husable : (Driver.refuses K && c.isBroken) = false)
    (hopen : (P.session (P.respond c.stream.peer (.query sql)).2).mode ≠ .closed) :
    Act.Meets (queryDrop sql) c fun o c' => ∃ error, Queried sql error c c' ∧
      (error = none ∧ (∃ calls, o = .ok calls) ∨ ∃ e, error = some e ∧ o = .err (.server e)) := by
  have hfeed : c.reply [.query sql] = (P.respond c.stream.peer (.query sql)).1 := by
    rw [reply, P.feed_cons, P.feed_nil, List.append_nil]
  obtain ⟨error, status, hans, hfatal⟩ := respond_open hP ha.2 hopen
  have hcore : core (c.stream.inbound ++ c.reply [.query sql]) =
      core (P.respond c.stream.peer (.query sql)).1 := by
    rw [core_append, show core c.stream.inbound = [] from ha.1, List.nil_append, hfeed]
  have hwell : ∀ m ∈ c.stream.inbound ++ c.reply [.query sql],
      m.isAsync = true → m.wellFormed = true := fun m hm =>
    (List.mem_append.mp hm).elim (hc.asyncs m) (P.feed_asyncs _ _ m)
  rw [← hcore] at hans
  obtain ⟨m', b', hrun, -, -⟩ := SimpleQueryStateMachine.run_answer
    (b := { c.bufferSet with writeBuffer := [.query sql] })
    (m := { SimpleQueryStateMachine.new DropHandler sql with state := .waitingResponse })
    hans rfl rfl (DropHandler_total.willing _ _)
  obtain ⟨body, z, tail, -, -, -, hall⟩ := runMachine_core
    (LawfulStateMachine.passesAsync SimpleQueryStateMachine)
    (by simp [HandlerMachine.Started]) hwell rfl rfl hrun
  have hdrive := drive_result _ _ c _ hcut hready
    (SimpleQueryStateMachine.step_new DropHandler sql c.bufferSet) (by simp) hall
  have hends := (queryInner_ends hP sql hc ha.1).at
  have hinner : (queryInner sql DropHandler c).1 =
      (drive (SimpleQueryStateMachine.new DropHandler sql) c).1.bind fun m => .ok m.calls := by
    unfold queryInner
    rw [Act.bind_run]
    rcases drive (SimpleQueryStateMachine.new DropHandler sql) c with ⟨_ | _ | _, _⟩ <;> rfl
  rw [hdrive] at hinner
  unfold Act.Meets queryDrop query
  rw [guarded_eq, if_neg (by rw [husable]; simp), markBroken]
  generalize queryInner sql DropHandler c = r at hends hinner
  obtain ⟨o, c'⟩ := r
  dsimp only at hends hinner
  -- what is returned is no breaking error, so the reply has been read
  have hread (ho : o ≠ .halt) (hno : ∀ e, o = .err e → e.isConnectionBroken = false) :
      ∃ error, Queried sql error c c' ∧
        (error = none ∧ (∃ calls, o = .ok calls) ∨ ∃ e, error = some e ∧ o = .err (.server e)) := by
    rcases hends with h | ⟨e, he, hb⟩ | h
    · exact absurd h ho
    · rw [hno e he] at hb
      cases hb
    · exact h
  cases error with
  | none =>
    obtain rfl : o = .ok m'.calls := hinner
    exact hread (by simp) fun _ h => by cases h
  | some e =>
    obtain rfl : o = .err (.server e) := hinner
    have hbreaks : (Error.server e).isConnectionBroken = false := hfatal e rfl
    have h := hread (by simp) fun _ h => by cases h; exact hbreaks
    dsimp only
    rwa [if_neg (by rw [hbreaks]; simp)]

end Queries

/-! ### Clients and closures -/

/-- A client: the operations that a closure can call on a connection of it. A call whose future was
dropped has no result. -/
class Client (K : Type) extends Driver K where
  Op : Type
  perform {P : Peer} : Op → Act Error (Conn P K) (Option (Except Error Unit))
  perform_talks {P : Peer} (op : Op) :
    Keeps Talks (perform op : Act Error (Conn P K) (Option (Except Error Unit)))
  /-- A connection marked broken is broken. -/
  isBroken_marked : ∀ k, toDriver.isBroken true k = true
  /-- A broken connection refuses its operations, or it is broken by its mark alone. -/
  refuses_or_marked : toDriver.refuses = true ∨ ∀ broken k, toDriver.isBroken broken k = broken

/-- A droppable call keeps what the call keeps, dropped or not. -/
theorem droppable_keeps {α : Type} {R : Conn P K → Conn P K → Prop} {cut : Option Cut}
    {x : Act Error (Conn P K) α} (h : Keeps R (withCut cut x)) : Keeps R (droppable cut x) := by
  refine ⟨fun c => ?_⟩
  have h := h.rel c
  unfold droppable
  generalize withCut cut x c = r at h ⊢
  rcases r with ⟨_ | _ | _, c'⟩
  · exact h
  · exact h
  · dsimp only
    split <;> exact h

instance : Client SyncFlags where
  Op := Sync.Operation
  perform op := do
    let r ← Act.attempt op.run
    return some r
  perform_talks op := op.run_talks.attempt.bind fun _ => keeps_pure _
  isBroken_marked _ := rfl
  refuses_or_marked := .inr fun _ _ => rfl

instance : Client TokioFlags where
  Op := Tokio.Call
  perform call := droppable call.cut call.operation.run
  perform_talks call := droppable_keeps (withCut_talks call.operation.run_talks call.cut)
  isBroken_marked k := by simp [Driver.isBroken]
  refuses_or_marked := .inl rfl

/-- What a closure does with its connection: it calls operations, and what it does next may depend
on how they ended. -/
inductive Closure (Op α : Type) where
  | ret (result : Except Error α)
  | call (op : Op) (next : Option (Except Error Unit) → Closure Op α)

variable [Client K] {α : Type}

/-- Run a closure. -/
def Closure.run : Closure (Client.Op K) α → Act Error (Conn P K) α
  | .ret result => Act.ofExcept result
  | .call op next => do
    let r ← Client.perform op
    (next r).run

theorem Closure.run_talks (f : Closure (Client.Op K) α) :
    Keeps Talks (f.run : Act Error (Conn P K) α) := by
  induction f with
  | ret result => exact keeps_ofExcept _
  | call op next ih => exact (Client.perform_talks op).bind ih

/-- `transaction` with a closure that calls the operations of the client. -/
def runTransaction (f : Transaction → Closure (Client.Op K) α) : Act Error (Conn P K) α :=
  transaction fun tx => (f tx).run

/-- What the closure of a transaction on `c` returns, with the connection as it leaves it, where it
is run and returns. -/
def closureEnd (f : Transaction → Closure (Client.Op K) α) (c : Conn P K) :
    Option (Except Error α × Conn P K) :=
  match beginTransaction c with
  | (.ok tx, c₀) =>
    match (f tx).run c₀ with
    | (.ok a, c₁) => some (.ok a, c₁)
    | (.err e, c₁) => some (.error e, c₁)
    | (.halt, _) => none
  | _ => none

section Closes

variable {f : Transaction → Closure (Client.Op K) α} {c c₁ : Conn P K} {result : Except Error α}

/-- The rest of a transaction whose closure has returned. -/
theorem runTransaction_eq (h : closureEnd f c = some (result, c₁)) :
    runTransaction f c = endTransaction result c₁ := by
  unfold closureEnd at h
  unfold runTransaction transaction
  rw [Act.bind_run]
  generalize (beginTransaction c : Outcome Error Transaction × Conn P K) = r at h ⊢
  rcases r with ⟨tx | e | _, c₀⟩
  · dsimp only at h ⊢
    rw [Act.bind_run, Act.attempt_run]
    generalize (f tx).run c₀ = r at h ⊢
    rcases r with ⟨a | e | _, c₂⟩ <;> cases h <;> rfl
  · cases h
  · cases h

theorem closureEnd_talks (h : closureEnd f c = some (result, c₁)) : Talks c c₁ := by
  unfold closureEnd at h
  rcases hbegin : (beginTransaction c : Outcome Error Transaction × Conn P K) with
    ⟨tx | e | _, c₀⟩
  · rw [hbegin] at h
    refine IsTrans.trans _ _ _ (Talks.of_run beginTransaction_talks hbegin) ?_
    have htalks := ((f tx).run_talks).rel c₀
    dsimp only at h
    generalize (f tx).run c₀ = r at h htalks
    rcases r with ⟨a | e | _, c₂⟩ <;> cases h <;> exact htalks
  · rw [hbegin] at h
    cases h
  · rw [hbegin] at h
    cases h

/-- A transaction does not return, or its BEGIN fails, or it ends after its closure. -/
theorem runTransaction_cases (f : Transaction → Closure (Client.Op K) α) (c : Conn P K) :
    (runTransaction f c).1 = .halt ∨
      (∃ e c', beginTransaction c = (.err e, c') ∧ runTransaction f c = (.err e, c')) ∨
      ∃ result c₁, closureEnd f c = some (result, c₁) := by
  unfold runTransaction transaction closureEnd
  rw [Act.bind_run]
  rcases (beginTransaction c : Outcome Error Transaction × Conn P K) with ⟨tx | e | _, c₀⟩
  · dsimp only
    rw [Act.bind_run, Act.attempt_run]
    rcases (f tx).run c₀ with ⟨a | e | _, c₁⟩
    · exact .inr (.inr ⟨_, _, rfl⟩)
    · exact .inr (.inr ⟨_, _, rfl⟩)
    · exact .inl rfl
  · exact .inr (.inl ⟨e, c₀, rfl, rfl⟩)
  · exact .inl rfl

end Closes

/-! ### Commits -/

/-- Since `c` one message went out, a COMMIT, and the server answered it with the tag COMMIT. -/
def Committed (c c' : Conn P K) : Prop :=
  ∃ reply m, c'.stream.log = c.stream.log ++ [(.query "COMMIT", reply)] ∧ m ∈ reply ∧
    IsComplete "COMMIT" m

/-- The server will answer a Query without an error. -/
def Accepts (sql : String) (c : Conn P K) : Prop := errorsIn (c.reply [.query sql]) = []

instance (sql : String) (c : Conn P K) : Decidable (Accepts sql c) :=
  inferInstanceAs (Decidable (_ = _))

/-- A query will not be sent. -/
def Refused (c : Conn P K) : Prop :=
  (Driver.refuses K && c.isBroken) = true ∨ c.exchangeReady = false

instance (c : Conn P K) : Decidable (Refused c) := inferInstanceAs (Decidable (_ ∨ _))

/-- A COMMIT is not taken for one that has committed: it is refused, or the server has a block that
has not failed and accepts it, or nothing waits to be read, and no failed block accepts it. -/
def CommitSafe (c : Conn P K) : Prop :=
  Refused c ∨
    (c.session.mode = .ready ∧ c.session.status ≠ .failed ∧ Accepts "COMMIT" c) ∨
    (c.unread = [] ∧
      ¬ (c.session.mode = .ready ∧ c.session.status = .failed ∧ Accepts "COMMIT" c))

instance (c : Conn P K) : Decidable (CommitSafe c) := inferInstanceAs (Decidable (_ ∨ _ ∨ _))

/-- A failed block answers a COMMIT with the tag ROLLBACK. -/
theorem commit_tag {effect : TxEffect} {status status' : TransactionStatus} {ms : List RawMessage}
    (heffect : effect = .commit) (h : QuerySuccess effect status ms status') :
    ∃ m, ms = [m] ∧ IsComplete (if status = .failed then "ROLLBACK" else "COMMIT") m := by
  cases h with
  | empty | results | other => cases heffect
  | control _ _ hcomplete hm =>
    refine ⟨_, rfl, ?_⟩
    cases hcomplete with
    | commit hne => rwa [if_neg hne]
    | commitFailed => rwa [if_pos rfl]
    | plain | begin | rollback | discard | other => cases heffect

omit [Client K] in
/-- What a server that is ready answers to a COMMIT that it accepts. -/
theorem respond_commit (hP : P.NoCopy) {c : Conn P K} (hm : c.session.mode = .ready)
    (hnone : Accepts "COMMIT" c) :
    (P.session (P.respond c.stream.peer (.query "COMMIT")).2).mode = .ready ∧
      ∃ m z, core (c.reply [.query "COMMIT"]) = [m, z] ∧ z.type = .readyForQuery ∧
        IsComplete (if c.session.status = .failed then "ROLLBACK" else "COMMIT") m := by
  have hreply : c.reply [.query "COMMIT"] = (P.respond c.stream.peer (.query "COMMIT")).1 := by
    rw [reply, P.feed_cons, P.feed_nil, List.append_nil]
  unfold Accepts at hnone
  rw [hreply] at hnone ⊢
  rw [← errorsIn_core] at hnone
  have hm : (P.session c.stream.peer).mode = .ready := hm
  have hcopy := hP c.stream.peer (.query "COMMIT") (by simp [hm])
  have hconf := P.conforms c.stream.peer (.query "COMMIT")
  change _ ∧ ∃ m z, _ ∧ _ ∧
    IsComplete (if (P.session c.stream.peer).status = .failed then "ROLLBACK" else "COMMIT") m
  generalize hs : P.session c.stream.peer = s at *
  generalize P.session (P.respond c.stream.peer (.query "COMMIT")).2 = s' at hconf hcopy ⊢
  generalize core (P.respond c.stream.peer (.query "COMMIT")).1 = r at hconf hnone ⊢
  cases hconf with
  | query _ hsucc hz =>
    obtain ⟨m, rfl, hm'⟩ := commit_tag P.effect_commit hsucc
    exact ⟨by rw [Session.completed_mode, hm], m, _, rfl, hz.1, hm'⟩
  | queryError _ _ he =>
    rw [errorsIn_append, errorsIn_cons_error he] at hnone
    simp at hnone
  | queryFatal _ _ he =>
    rw [errorsIn_append, errorsIn_cons_error he] at hnone
    simp at hnone
  | queryCopy _ _ _ hmode => exact absurd hmode hcopy
  | success _ h => cases h
  | error _ hf => cases hf
  | fatal _ hf => cases hf
  | discard h | discardFatal h | copying h | closed h => cases hm.symm.trans h

/-- A query that returns a value was sent, with nothing else. -/
theorem queryDrop_log {sql : String} {c c' : Conn P K} {calls : List Callback}
    (h : queryDrop sql c = (.ok calls, c')) :
    ¬ Refused c ∧ c'.stream.log = c.stream.log ++ [(.query sql, c.reply [.query sql])] := by
  have husable : ¬ (Driver.refuses K && c.isBroken) = true := by
    intro hr
    unfold queryDrop query at h
    rw [guarded_eq, if_pos hr] at h
    cases h
  have h := guarded_ok h
  unfold queryInner at h
  obtain ⟨m, hdrive⟩ : ∃ m, drive (SimpleQueryStateMachine.new DropHandler sql) c = (.ok m, c') :=
    Act.map_ok h
  have hspec := (exchangeWith_driven (P := P) (c := c) driveRound_still driveRound_rounded
    (SimpleQueryStateMachine.step_new DropHandler sql c.bufferSet)).at
  have hdrive' : exchangeWith StateMachine.step driveRound
    (SimpleQueryStateMachine.new DropHandler sql) c = (.ok m, c') := hdrive
  rw [hdrive'] at hspec
  rcases hspec with hspec | ⟨-, hspec, -⟩ | ⟨hready, ⟨read, htalked⟩, -⟩
  · cases hspec
  · cases hspec
  refine ⟨fun hr => ?_, ?_⟩
  · rcases hr with hr | hr
    · exact husable hr
    · rw [hready] at hr
      cases hr
  · rw [htalked.log, reply, P.feed_cons, P.feed_nil, List.append_nil]
    rfl

/-- A block that has not failed is committed where its COMMIT is accepted. -/
theorem committed_of_accepts (hP : P.NoCopy) {c c' : Conn P K} {calls : List Callback}
    (hm : c.session.mode = .ready) (hopen : c.session.status ≠ .failed)
    (haccepts : Accepts "COMMIT" c) (h : queryDrop "COMMIT" c = (.ok calls, c')) :
    Committed c c' := by
  obtain ⟨-, m, z, hcore, -, htag⟩ := respond_commit hP hm haccepts
  rw [if_neg hopen] at htag
  have hmem : m ∈ core (c.reply [.query "COMMIT"]) := by simp [hcore]
  exact ⟨_, m, (queryDrop_log h).2, List.mem_of_mem_filter hmem, htag⟩

/-- A COMMIT that is safe and returns has committed. -/
theorem queryDrop_commits (hP : P.NoCopy) {c c' : Conn P K} {calls : List Callback}
    (hc : c.Regular) (hsafe : CommitSafe c) (h : queryDrop "COMMIT" c = (.ok calls, c')) :
    Committed c c' := by
  rcases hsafe with hrefused | ⟨hm, hopen, haccepts⟩ | ⟨hu, hsafe⟩
  · exact absurd hrefused (queryDrop_log h).1
  · exact committed_of_accepts hP hm hopen haccepts h
  · have hends := (queryInner_ends hP "COMMIT" hc hu).at
    rw [guarded_ok h] at hends
    rcases hends with hends | ⟨e, hends, -⟩ | ⟨error, hq, ⟨rfl, -⟩ | ⟨e, -, hends⟩⟩
    · cases hends
    · cases hends
    · have haccepts : Accepts "COMMIT" c := hq.errors
      exact committed_of_accepts hP hq.ready (fun hs => hsafe ⟨hq.ready, hs, haccepts⟩) haccepts h
    · cases hends

/-- Where nothing waits to be read, a COMMIT that is never taken for one that has committed is
safe: a failed block that accepts it makes it return. -/
theorem commitSafe_of_commits (hP : P.NoCopy) {c : Conn P K} (hc : c.Regular)
    (hcut : c.stream.cut = none) (hu : Refused c ∨ c.unread = [])
    (h : ∀ calls c', queryDrop "COMMIT" c = (.ok calls, c') → Committed c c') :
    CommitSafe c := by
  by_cases hrefused : Refused c
  · exact .inl hrefused
  have hu : c.unread = [] := hu.resolve_left hrefused
  refine .inr (.inr ⟨hu, fun ⟨hm, hs, haccepts⟩ => ?_⟩)
  obtain ⟨hmode, m, z, hcore, hz, htag⟩ := respond_commit hP hm haccepts
  rw [if_pos hs] at htag
  obtain ⟨husable, hready⟩ := not_or.mp hrefused
  have hret := (queryDrop_open hP "COMMIT" hc ⟨hu, hm⟩ hcut (by simpa using hready)
    (by simpa using husable) (by simp [hmode])).at
  rcases hrun : queryDrop "COMMIT" c with ⟨o, c'⟩
  rw [hrun] at hret
  obtain ⟨error, hq, ⟨-, calls, rfl⟩ | ⟨e, rfl, -⟩⟩ := hret
  · obtain ⟨reply, m', hlog, hmem, hm'⟩ := h calls c' hrun
    have hreply : reply = c.reply [.query "COMMIT"] := by
      have hlogs := hlog.symm.trans hq.log
      simpa using hlogs
    have hmem' : m' ∈ core (c.reply [.query "COMMIT"]) := by
      rw [← hreply]
      refine List.mem_filter.mpr ⟨hmem, ?_⟩
      simp [RawMessage.isAsync, hm'.1, MsgType.isAsync]
    rw [hcore] at hmem'
    simp only [List.mem_cons, List.not_mem_nil, or_false] at hmem'
    rcases hmem' with rfl | rfl
    · have htags := htag.2.symm.trans hm'.2
      simp at htags
    · have htypes := hz.symm.trans hm'.1
      cases htypes
  · have haccepts : errorsIn (c.reply [.query "COMMIT"]) = [] := haccepts
    rw [hq.errors] at haccepts
    cases haccepts

section Transactions

variable {f : Transaction → Closure (Client.Op K) α} {tx : Transaction} {c : Conn P K}

/-- A transaction that returns a value has sent a COMMIT after its closure, and the server has
committed. -/
def TransactionCommits (f : Transaction → Closure (Client.Op K) α) (c : Conn P K) : Prop :=
  ∀ a c', runTransaction f c = (.ok a, c') →
    ∃ c₁, closureEnd f c = some (.ok a, c₁) ∧ Committed c₁ c'

/-- `Transaction::commit` returns where the server has committed only. -/
def CommitCommits (tx : Transaction) (c : Conn P K) : Prop :=
  ∀ c', commit tx c = (.ok (), c') → Committed c c'

/-- When the closure has returned a value the connection still counts itself in a transaction, and a
COMMIT is safe. -/
def ClosureSafe (f : Transaction → Closure (Client.Op K) α) (c : Conn P K) : Prop :=
  ∀ r ∈ closureEnd f c, r.1.isOk = true → r.2.inTransaction = true ∧ CommitSafe r.2

instance (f : Transaction → Closure (Client.Op K) α) (c : Conn P K) :
    Decidable (ClosureSafe f c) := inferInstanceAs (Decidable (∀ r ∈ closureEnd f c, _))

/-- When the closure has returned a value, the COMMIT is refused, or nothing waits to be read. -/
def ClosureReads (f : Transaction → Closure (Client.Op K) α) (c : Conn P K) : Prop :=
  ∀ r ∈ closureEnd f c, r.1.isOk = true → Refused r.2 ∨ r.2.unread = []

instance (f : Transaction → Closure (Client.Op K) α) (c : Conn P K) :
    Decidable (ClosureReads f c) := inferInstanceAs (Decidable (∀ r ∈ closureEnd f c, _))

/-- What follows a closure that has returned a value. -/
theorem endTransaction_ok (a : α) (c₁ : Conn P K) :
    endTransaction (.ok a) c₁ = if c₁.inTransaction = true then
      (queryDrop "COMMIT" >>= fun _ => pure a) c₁ else (.ok a, c₁) := by
  unfold endTransaction
  rw [Act.bind_run, Act.get_run]
  dsimp only
  split <;> rfl

/-- What follows a closure that has returned an error. -/
theorem endTransaction_error (e : Error) (c₁ : Conn P K) :
    (endTransaction (.error e) c₁ : Outcome Error α × Conn P K) =
      if c₁.inTransaction = true then
        (Act.attempt (queryDrop "ROLLBACK") >>= fun _ => Act.fail e) c₁ else (.err e, c₁) := by
  unfold endTransaction
  rw [Act.bind_run, Act.get_run]
  dsimp only
  split <;> rfl

theorem transactionCommits_of_safe (hP : P.NoCopy) (hc : c.Regular) (hsafe : ClosureSafe f c) :
    TransactionCommits f c := by
  intro a c' hrun
  rcases runTransaction_cases f c with h | ⟨e, c'', -, h⟩ | ⟨result, c₁, h⟩
  · rw [hrun] at h
    cases h
  · rw [hrun] at h
    cases h
  have hend := (runTransaction_eq h).symm.trans hrun
  cases result with
  | ok a' =>
    obtain ⟨hin, hsafe⟩ := hsafe _ h rfl
    rw [endTransaction_ok, if_pos hin] at hend
    obtain ⟨calls, c₂, hdrop, hpure⟩ := Act.bind_eq_ok_iff.mp hend
    cases hpure
    exact ⟨c₁, h, queryDrop_commits hP ((closureEnd_talks h).regular hP hc) hsafe hdrop⟩
  | error e =>
    rw [endTransaction_error] at hend
    split at hend
    · obtain ⟨_, _, _, hfail⟩ := Act.bind_eq_ok_iff.mp hend
      cases hfail
    · cases hend

theorem safe_of_transactionCommits (hP : P.NoCopy) (hc : c.Regular) (hcut : c.stream.cut = none)
    (hread : ClosureReads f c) (h : TransactionCommits f c) : ClosureSafe f c := by
  rintro ⟨result, c₁⟩ hclosed hok
  obtain ⟨a, rfl⟩ : ∃ a, result = .ok a := by
    cases result with
    | ok a => exact ⟨a, rfl⟩
    | error e => cases hok
  have htalks := closureEnd_talks hclosed
  have hin : c₁.inTransaction = true := by
    by_contra hno
    have hrun : runTransaction f c = (.ok a, c₁) := by
      rw [runTransaction_eq hclosed, endTransaction_ok, if_neg hno]
    -- nothing was sent, so nothing was committed
    obtain ⟨c₂, hclosed', _, _, hlog, -, -⟩ := h a c₁ hrun
    cases hclosed.symm.trans hclosed'
    simp at hlog
  refine ⟨hin, commitSafe_of_commits hP (htalks.regular hP hc) (htalks.cut hcut)
    (hread _ hclosed hok) fun calls c' hdrop => ?_⟩
  have hrun : runTransaction f c = (.ok a, c') := by
    rw [runTransaction_eq hclosed, endTransaction_ok, if_pos hin, Act.bind_run, hdrop]
    rfl
  obtain ⟨c₂, hclosed', hcommitted⟩ := h a c' hrun
  cases hclosed.symm.trans hclosed'
  exact hcommitted

/-- `commit` with its own connection sends a COMMIT. -/
theorem commit_eq (htx : tx.connectionId = c.connectionId) :
    commit tx c = (queryDrop "COMMIT" >>= fun _ => pure ()) c := by
  unfold commit checkTransaction
  rw [Act.bind_run, Act.bind_run, Act.get_run]
  dsimp only
  rw [if_neg (not_not.mpr htx)]
  rfl

theorem commitCommits_iff (hP : P.NoCopy) (hc : c.Regular) (hcut : c.stream.cut = none) :
    ((tx.connectionId = c.connectionId → CommitSafe c) → CommitCommits tx c) ∧
      (Refused c ∨ c.unread = [] → CommitCommits tx c →
        tx.connectionId = c.connectionId → CommitSafe c) := by
  refine ⟨fun hsafe c' hrun => ?_, fun hread h htx => ?_⟩
  · by_cases htx : tx.connectionId = c.connectionId
    · rw [commit_eq htx] at hrun
      obtain ⟨calls, c₂, hdrop, hpure⟩ := Act.bind_eq_ok_iff.mp hrun
      cases hpure
      exact queryDrop_commits hP hc (hsafe htx) hdrop
    · unfold commit checkTransaction at hrun
      rw [Act.bind_run, Act.bind_run, Act.get_run] at hrun
      dsimp only at hrun
      rw [if_pos htx] at hrun
      cases hrun
  · refine commitSafe_of_commits hP hc hcut hread fun calls c' hdrop => h c' ?_
    rw [commit_eq htx, Act.bind_run, hdrop]
    rfl

/-- Whatever was executed before it on a connection of either client, `commit` returns where the
server has committed only, and so does a transaction, if a COMMIT is safe there; and only then,
where the COMMIT is refused or nothing waits to be read when it goes out. -/
theorem transaction_commits_iff (hP : P.NoCopy) (hc : c.Regular) (hcut : c.stream.cut = none)
    (f : Transaction → Closure (Client.Op K) α) (tx : Transaction) :
    (ClosureSafe f c → TransactionCommits f c) ∧
    (ClosureReads f c → TransactionCommits f c → ClosureSafe f c) ∧
    ((tx.connectionId = c.connectionId → CommitSafe c) → CommitCommits tx c) ∧
    (Refused c ∨ c.unread = [] → CommitCommits tx c →
      tx.connectionId = c.connectionId → CommitSafe c) :=
  ⟨transactionCommits_of_safe hP hc, safe_of_transactionCommits hP hc hcut,
    (commitCommits_iff hP hc hcut).1, (commitCommits_iff hP hc hcut).2⟩

end Transactions

/-- A closure that executes one statement and returns a value whatever comes of it. -/
def swallowing (sql : String) (_ : Transaction) : Closure (Client.Op SyncFlags) Unit :=
  .call (Sync.Operation.exec (.sql sql) .none DropHandler) fun _ => .ret (.ok ())

open Sync.Operation in
theorem transaction_commits_select : TransactionCommits (swallowing "SELECT") connected ∧
    (TransactionCommits (swallowing "FAIL") connected →
      ClosureSafe (swallowing "FAIL") connected) :=
  have h (sql : String) := transaction_commits_iff (c := connected) rejectingFail_noCopy
    connected_regular rfl (swallowing sql) ⟨0⟩
  ⟨(h "SELECT").1 (by decide +kernel), (h "FAIL").2.1 (by decide +kernel)⟩

open Sync.Operation in
/-- The error of the statement is swallowed, and the transaction returns a value; the server has
answered its COMMIT with the tag ROLLBACK. -/
theorem transaction_swallows :
    (runTransaction (swallowing "FAIL") connected).1 = .ok () ∧
    ¬ TransactionCommits (swallowing "FAIL") connected := by
  refine ⟨by decide +kernel, fun h => ?_⟩
  have hsafe : ClosureSafe (swallowing "FAIL") connected :=
    safe_of_transactionCommits rejectingFail_noCopy connected_regular rfl (by decide +kernel) h
  revert hsafe
  decide +kernel

end ZeroPostgres.Conn
