import ZeroPostgres.Server.Session

/-!
# A reference server

A small executable server that conforms to the grammar of `Server/Session.lean`. A script
says how each statement text behaves, which Syncs are answered with an error and where a
notice is sent. It shows that the grammar can be met, and the concrete runs of the
development are runs against it.
-/

namespace ZeroPostgres.Reference

/-- How a statement text behaves. -/
structure Behaviour where
  /-- Number of rows, for a statement that returns rows. -/
  rows : Option Nat
  /-- The statement fails when executed, after sending this many rows. -/
  failsAfter : Option Nat
deriving DecidableEq, Repr

/-- A statement that completes without rows. -/
def Behaviour.command : Behaviour := ⟨none, none⟩

/-- A statement that returns `n` rows. -/
def Behaviour.select (n : Nat) : Behaviour := ⟨some n, none⟩

/-- A statement that fails at once. -/
def Behaviour.fails : Behaviour := ⟨none, some 0⟩

/-- What the server does where the protocol leaves it a choice. -/
structure Script where
  behaviour : String → Behaviour
  /-- The Syncs answered with an error, counted from zero. -/
  syncFails : Nat → Bool
  /-- The messages whose reply begins with a notice. -/
  notices : Frontend → Bool

/-- State of the reference server: its session and the Syncs received so far. -/
structure State where
  session : Session
  syncs : Nat

/-- A session as it is after the startup exchange. -/
def Session.fresh : Session := ⟨.ready, .idle, fun _ => none, fun _ => none⟩

/-! ### Messages -/

/-- ReadyForQuery. -/
def ready (status : TransactionStatus) : RawMessage := ⟨.readyForQuery, [status.toByte]⟩

/-- CommandComplete. -/
def complete (tag : String) : RawMessage := ⟨.commandComplete, cstr tag⟩

/-- ErrorResponse of severity ERROR. -/
def error : RawMessage := ⟨.errorResponse, 86 :: cstr "ERROR" ++ [0]⟩

/-- ErrorResponse of severity FATAL. -/
def fatal : RawMessage := ⟨.errorResponse, 86 :: cstr "FATAL" ++ [0]⟩

/-- NoticeResponse of severity NOTICE. -/
def notice : RawMessage := ⟨.noticeResponse, 86 :: cstr "NOTICE" ++ [0]⟩

/-- RowDescription without columns, or NoData. -/
def columns (returnsRows : Bool) : RawMessage :=
  if returnsRows then ⟨.rowDescription, [0, 0]⟩ else ⟨.noData, []⟩

/-- Data rows without columns. -/
def dataRows (n : Nat) : List RawMessage := List.replicate n ⟨.dataRow, [0, 0]⟩

/-- The error of `error` and of `fatal`. -/
def serverError (severity : String) : ServerError := ⟨[(86, severity)]⟩

/-! ### Replies -/

/-- The transaction effect of a statement text. -/
def effect (sql : String) : TxEffect :=
  if sql = "BEGIN" then .begin
  else if sql = "COMMIT" then .commit
  else if sql = "ROLLBACK" then .rollback
  else if sql = "DISCARD ALL" then .discard
  else .none

/-- Tag and new status of a command that succeeds, if it can. -/
def completion (e : TxEffect) (status : TransactionStatus) :
    Option (String × TransactionStatus) :=
  match e, status with
  | .none, .failed => none
  | .none, status => some ("SELECT", status)
  | .begin, .failed => none
  | .begin, _ => some ("BEGIN", .inTransaction)
  | .commit, .failed => some ("ROLLBACK", .idle)
  | .commit, _ => some ("COMMIT", .idle)
  | .rollback, _ => some ("ROLLBACK", .idle)
  | .discard, .idle => some ("DISCARD ALL", .idle)
  | .discard, _ => none
  | .other, _ => none

/-- The outcome of executing a statement text: its rows and what ends them. -/
def execution (script : Script) (sql : String) (status : TransactionStatus) :
    Nat × Option (String × TransactionStatus) :=
  let b := script.behaviour sql
  match completion (effect sql) status, b.failsAfter with
  | none, _ => (0, none)
  | some _, some n => (if b.rows.isSome then n else 0, none)
  | some done, none => (b.rows.getD 0, some done)

/-- Reply to a message of the extended protocol. -/
def extended (script : Script) (s : Session) : Frontend → List RawMessage × Session
  | .parse name sql _ =>
    let stmt : Statement := ⟨sql, (script.behaviour sql).rows.isSome⟩
    ([⟨.parseComplete, []⟩],
      { s with statements := Function.update s.statements name (some stmt) })
  | .bind portal name _ _ _ =>
    match s.statements name with
    | some stmt =>
      ([⟨.bindComplete, []⟩], { s with portals := Function.update s.portals portal (some stmt) })
    | none => ([error], { s with mode := .skipping, status := s.status.afterError })
  | .describeStatement name =>
    match s.statements name with
    | some stmt => ([⟨.parameterDescription, [0, 0]⟩, columns stmt.returnsRows], s)
    | none => ([error], { s with mode := .skipping, status := s.status.afterError })
  | .describePortal portal =>
    match s.portals portal with
    | some stmt => ([columns stmt.returnsRows], s)
    | none => ([error], { s with mode := .skipping, status := s.status.afterError })
  | .execute portal _ =>
    match s.portals portal with
    | some stmt =>
      let r := execution script stmt.sql s.status
      let rows := dataRows (if stmt.returnsRows then r.1 else 0)
      match r.2 with
      | some done => (rows ++ [complete done.1], s.completed (effect stmt.sql) done.2)
      | none => (rows ++ [error], { s with mode := .skipping, status := s.status.afterError })
    | none => ([error], { s with mode := .skipping, status := s.status.afterError })
  | .closeStatement name =>
    ([⟨.closeComplete, []⟩],
      { s with statements := Function.update s.statements name none })
  | .closePortal portal =>
    ([⟨.closeComplete, []⟩], { s with portals := Function.update s.portals portal none })
  | _ => ([], s)

/-- Reply to a Query. -/
def simple (script : Script) (s : Session) (sql : String) : List RawMessage × Session :=
  let r := execution script sql s.status
  let head := if (script.behaviour sql).rows.isSome ∧ effect sql = .none then
    columns true :: dataRows r.1 else []
  match r.2 with
  | some done => (head ++ [complete done.1, ready done.2], s.completed (effect sql) done.2)
  | none =>
    ((if effect sql = .none then head else []) ++ [error, ready s.status.afterError],
      { s with status := s.status.afterError })

/-- Reply of a server that answers messages. -/
def replyReady (script : Script) (st : State) (f : Frontend) : List RawMessage × State :=
  let s := st.session
  match f with
  | .query sql => let r := simple script s sql; (r.1, { st with session := r.2 })
  | .sync =>
    if script.syncFails st.syncs then
      ([error, ready s.status.afterError],
        ⟨{ s with status := s.status.afterError }, st.syncs + 1⟩)
    else ([ready s.status], { st with syncs := st.syncs + 1 })
  | .flush => ([], st)
  | .terminate => ([], { st with session := { s with mode := .closed } })
  | .bindHead _ _ => ([fatal], { st with session := { s with mode := .closed } })
  | f => let r := extended script s f; (r.1, { st with session := r.2 })

/-- Reply of a server that discards messages until Sync. -/
def replySkipping (st : State) : Frontend → List RawMessage × State
  | .sync => ([ready st.session.status], ⟨{ st.session with mode := .ready }, st.syncs + 1⟩)
  | .terminate => ([], { st with session := { st.session with mode := .closed } })
  | .bindHead _ _ => ([fatal], { st with session := { st.session with mode := .closed } })
  | _ => ([], st)

/-- Reply to a message, notices aside. -/
def reply (script : Script) (st : State) (f : Frontend) : List RawMessage × State :=
  match st.session.mode with
  | .ready => replyReady script st f
  | .skipping => replySkipping st f
  | _ => ([], st)

/-- Reply to a message. -/
def respond (script : Script) (st : State) (f : Frontend) : List RawMessage × State :=
  let r := reply script st f
  (if script.notices f then notice :: r.1 else r.1, r.2)

/-! ### Conformance -/

private theorem isReady (status : TransactionStatus) : IsReady status (ready status) :=
  ⟨rfl, rfl⟩

private theorem isError : IsError (serverError "ERROR") error := by decide

private theorem isFatal : IsError (serverError "FATAL") fatal := by decide

private theorem isColumns (returnsRows : Bool) : IsColumns returnsRows (columns returnsRows) := by
  cases returnsRows <;> decide

private theorem isRows (returnsRows : Bool) (n : Nat) :
    IsRows returnsRows (dataRows (if returnsRows then n else 0)) := by
  refine ⟨fun m hm => ?_, fun h => by simp [h, dataRows]⟩
  rw [List.eq_of_mem_replicate hm]
  decide

private theorem isComplete {e : TxEffect} {status : TransactionStatus}
    {done : String × TransactionStatus} (h : completion e status = some done) :
    IsComplete done.1 (complete done.1) ∧ Completes e status done.1 done.2 := by
  cases e <;> cases status <;> simp only [completion, Option.some.injEq, reduceCtorEq] at h <;>
    subst h <;> refine ⟨by decide, ?_⟩ <;> constructor <;> decide

private theorem execution_some {script : Script} {sql : String} {status : TransactionStatus}
    {done : String × TransactionStatus} (h : (execution script sql status).2 = some done) :
    completion (effect sql) status = some done := by
  simp only [execution] at h
  split at h
  · cases h
  · cases h
  · next hc _ => rw [hc]; exact h

private theorem effect_ne_other (sql : String) : effect sql ≠ .other := by
  unfold effect
  repeat' split
  all_goals decide

private theorem conforms_error {s : Session} {f : Frontend} {rows : List RawMessage}
    (hm : s.mode = .ready) (hf : f.isExtended = true) (hp : Partial s f rows) :
    Conforms effect s f (rows ++ [error])
      { s with mode := .skipping, status := s.status.afterError } :=
  .error hm hf hp isError (by decide) .block

private theorem conforms_extended (script : Script) (s : Session) (f : Frontend)
    (hm : s.mode = .ready) (hf : f.isExtended = true) :
    Conforms effect s f (extended script s f).1 (extended script s f).2 := by
  cases f with
  | parse name sql oids => exact .success hm (.parse _ (by decide))
  | bind portal name formats count values =>
    simp only [extended]
    split
    · next h => exact .success hm (.bind h (by decide))
    · exact conforms_error hm hf .nil
  | describeStatement name =>
    simp only [extended]
    split
    · next h => exact .success hm (.describeStatement h (by decide) (isColumns _))
    · exact conforms_error hm hf .nil
  | describePortal portal =>
    simp only [extended]
    split
    · next h => exact .success hm (.describePortal h (isColumns _))
    · exact conforms_error hm hf .nil
  | execute portal maxRows =>
    simp only [extended]
    split
    · next h =>
      split
      · next hd =>
        have hc := isComplete (execution_some hd)
        exact .success hm (.complete h (isRows _ _) hc.2 hc.1)
      · exact conforms_error hm hf (.execute h (isRows _ _))
    · exact conforms_error hm hf .nil
  | closeStatement name => exact .success hm (.closeStatement (by decide))
  | closePortal portal => exact .success hm (.closePortal (by decide))
  | _ => cases hf

private theorem results_rows (n : Nat) {tag : String} {m : RawMessage} (hm : IsComplete tag m) :
    Results (columns true :: (dataRows n ++ [m])) :=
  .rows (isColumns true) (isRows true n) hm .nil

private theorem conforms_simple (script : Script) (s : Session) (sql : String)
    (hm : s.mode = .ready) :
    Conforms effect s (.query sql) (simple script s sql).1 (simple script s sql).2 := by
  have pair (xs : List RawMessage) (a z : RawMessage) : xs ++ [a, z] = (xs ++ [a]) ++ [z] := by
    simp
  simp only [simple]
  split
  · next done hd =>
    rcases done with ⟨tag, status⟩
    have hc := isComplete (execution_some hd)
    dsimp only at hc ⊢
    rw [pair]
    by_cases he : effect sql = .none
    · have hs : status = s.status ∧ s.status ≠ .failed := by
        have h := hc.2
        rw [he] at h
        generalize s.status = st at h
        cases h with
        | plain h => exact ⟨rfl, h⟩
      rw [hs.1]
      refine .query hm ?_ (isReady _)
      rw [he]
      refine .results hs.2 ?_
      split
      · exact results_rows _ hc.1
      · exact .command hc.1 .nil
    · simp only [he, and_false, if_false, List.nil_append]
      exact .query hm (.control he (effect_ne_other sql) hc.2 hc.1) (isReady _)
  · refine .queryError hm ?_ isError (by decide) .block (isReady _)
    split
    · next he =>
      have hc : IsComplete "SELECT" (complete "SELECT") := by decide
      refine .inr ⟨.inl he, [complete "SELECT"], ?_⟩
      split
      · exact results_rows _ hc
      · exact .command hc .nil
    · exact .inl rfl

private theorem conforms_ready (script : Script) (st : State) (f : Frontend)
    (hm : st.session.mode = .ready) :
    Conforms effect st.session f (replyReady script st f).1 (replyReady script st f).2.session := by
  cases f with
  | query sql => exact conforms_simple script _ sql hm
  | sync =>
    simp only [replyReady]
    split
    · exact .syncError hm isError (by decide) (isReady _)
    · exact .sync hm (isReady _)
  | flush => exact .flush (.inl hm)
  | terminate => exact .terminate (.inl hm)
  | bindHead portal name => exact .malformed (.inl hm) isFatal (by decide)
  | _ => exact conforms_extended script _ _ hm rfl

private theorem conforms_skipping (st : State) (f : Frontend)
    (hm : st.session.mode = .skipping) :
    Conforms effect st.session f (replySkipping st f).1 (replySkipping st f).2.session := by
  cases f with
  | sync => exact .resync hm (isReady _)
  | terminate => exact .terminate (.inr hm)
  | bindHead portal name => exact .malformed (.inr hm) isFatal (by decide)
  | flush => exact .flush (.inr hm)
  | query sql => exact .discard hm (.inr ⟨sql, rfl⟩)
  | _ => exact .discard hm (.inl rfl)

/-- Without its notices, every reply of the reference server conforms. -/
theorem conforms_reply (script : Script) (st : State) (f : Frontend) :
    Conforms effect st.session f (reply script st f).1 (reply script st f).2.session := by
  unfold reply
  split
  · next hm => exact conforms_ready script st f hm
  · next hm => exact conforms_skipping st f hm
  · next h₁ h₂ =>
    cases hm : st.session.mode with
    | ready => exact absurd hm h₁
    | skipping => exact absurd hm h₂
    | copying => exact .copying hm hm
    | closed => exact .closed hm

/-! ### The server as a peer -/

private theorem columns_isAsync (returnsRows : Bool) : (columns returnsRows).isAsync = false := by
  cases returnsRows <;> rfl

private theorem dataRows_isAsync (n : Nat) : ∀ m ∈ dataRows n, m.isAsync = false := by
  intro m hm
  rw [List.eq_of_mem_replicate hm]
  rfl

private theorem extended_isAsync (script : Script) (s : Session) (f : Frontend) :
    ∀ m ∈ (extended script s f).1, m.isAsync = false := by
  have herr : error.isAsync = false := rfl
  cases f with
  | execute portal maxRows =>
    simp only [extended]
    split
    · split <;>
      · intro m hm
        rcases List.mem_append.mp hm with hm | hm
        · exact dataRows_isAsync _ m hm
        · rw [List.mem_singleton.mp hm]
          rfl
    · simpa using herr
  | bind portal name formats count values =>
    simp only [extended]
    split
    · simp [RawMessage.isAsync, MsgType.isAsync]
    · simpa using herr
  | describeStatement name =>
    simp only [extended]
    split
    · intro m hm
      simp only [List.mem_cons, List.not_mem_nil, or_false] at hm
      rcases hm with rfl | rfl
      · rfl
      · exact columns_isAsync _
    · simpa using herr
  | describePortal portal =>
    simp only [extended]
    split
    · simp [columns_isAsync]
    · simpa using herr
  | _ => simp [extended, RawMessage.isAsync, MsgType.isAsync]

private theorem simple_isAsync (script : Script) (s : Session) (sql : String) :
    ∀ m ∈ (simple script s sql).1, m.isAsync = false := by
  have hrows (n : Nat) : ∀ m ∈ columns true :: dataRows n, m.isAsync = false := by
    intro m hm
    rcases List.mem_cons.mp hm with rfl | hm
    · exact columns_isAsync true
    · exact dataRows_isAsync n m hm
  have hpair (a z : RawMessage) (ha : a.isAsync = false) (hz : z.isAsync = false) :
      ∀ m ∈ [a, z], m.isAsync = false := by
    simp [ha, hz]
  have happ {xs ys : List RawMessage} (hx : ∀ m ∈ xs, m.isAsync = false)
      (hy : ∀ m ∈ ys, m.isAsync = false) : ∀ m ∈ xs ++ ys, m.isAsync = false := fun m hm =>
    (List.mem_append.mp hm).elim (hx m) (hy m)
  simp only [simple]
  split
  · refine happ ?_ (hpair _ _ rfl rfl)
    split
    · exact hrows _
    · simp
  · refine happ ?_ (hpair _ _ rfl rfl)
    split
    · split
      · exact hrows _
      · simp
    · simp

private theorem reply_isAsync (script : Script) (st : State) (f : Frontend) :
    ∀ m ∈ (reply script st f).1, m.isAsync = false := by
  unfold reply
  split
  · cases f with
    | query sql => exact simple_isAsync script st.session sql
    | sync =>
      simp only [replyReady]
      split <;> simp [error, ready, RawMessage.isAsync, MsgType.isAsync]
    | flush => simp [replyReady]
    | terminate => simp [replyReady]
    | bindHead portal name => simp [replyReady, fatal, RawMessage.isAsync, MsgType.isAsync]
    | _ => exact extended_isAsync script st.session _
  · cases f <;> simp [replySkipping, fatal, ready, RawMessage.isAsync, MsgType.isAsync]
  · simp

/-- Its notices aside, the reference server sends what `reply` says. -/
theorem core_respond (script : Script) (st : State) (f : Frontend) :
    core (respond script st f).1 = (reply script st f).1 := by
  have h := core_eq_self (reply_isAsync script st f)
  simp only [respond]
  split
  · rw [core_cons_async (by rfl), h]
  · exact h

/-- The reference server as a peer. -/
def peer (script : Script) : Peer where
  State := State
  session := State.session
  effect := effect
  respond := respond script
  effect_empty := by decide
  effect_begin := by decide
  effect_commit := by decide
  effect_rollback := by decide
  effect_discard := by decide
  conforms st f := by
    rw [core_respond]
    exact conforms_reply script st f
  asyncs st f m hm ha := by
    simp only [respond] at hm
    split at hm
    · rcases List.mem_cons.mp hm with rfl | hm
      · decide
      · rw [reply_isAsync script st f m hm] at ha
        cases ha
    · rw [reply_isAsync script st f m hm] at ha
      cases ha

private theorem extended_mode (script : Script) (s : Session) (f : Frontend)
    (h : s.mode ≠ .copying) : (extended script s f).2.mode ≠ .copying := by
  unfold extended
  cases f <;> dsimp only <;> repeat' split
  all_goals first | exact h | simp [h]

/-- The reference server starts no COPY exchange. -/
theorem peer_noCopy (script : Script) : (peer script).NoCopy := by
  intro st f h
  have h : st.session.mode ≠ .copying := h
  change (reply script st f).2.session.mode ≠ .copying
  unfold reply
  split
  · cases f with
    | query sql =>
      simp only [replyReady, simple]
      split <;> simpa using h
    | sync =>
      simp only [replyReady]
      split <;> exact h
    | flush => exact h
    | terminate => simp [replyReady]
    | bindHead portal name => simp [replyReady]
    | _ => exact extended_mode script st.session _ h
  · cases f <;> first | exact h | simp [replySkipping]
  · exact h

/-! ### Statements that cannot be parsed -/

/-- Reply of a server that rejects some statement texts when it is to parse them. -/
def respondRejecting (rejects : String → Bool) (script : Script) (st : State) (f : Frontend) :
    List RawMessage × State :=
  match f with
  | .parse name sql oids =>
    if rejects sql = true ∧ st.session.mode = .ready then
      ([error], { st with
        session := { st.session with mode := .skipping, status := st.session.status.afterError } })
    else respond script st (.parse name sql oids)
  | f => respond script st f

private theorem respondRejecting_cases (rejects : String → Bool) (script : Script) (st : State)
    (f : Frontend) :
    respondRejecting rejects script st f = respond script st f ∨
      (∃ name sql oids, f = .parse name sql oids) ∧ st.session.mode = .ready ∧
        respondRejecting rejects script st f = ([error], { st with
          session :=
            { st.session with mode := .skipping, status := st.session.status.afterError } }) := by
  cases f with
  | parse name sql oids =>
    simp only [respondRejecting]
    split
    · next h => exact .inr ⟨⟨name, sql, oids, rfl⟩, h.2, rfl⟩
    · exact .inl rfl
  | _ => exact .inl rfl

/-- The reference server that rejects some statement texts, as a peer. -/
def rejecting (rejects : String → Bool) (script : Script) : Peer where
  State := State
  session := State.session
  effect := effect
  respond := respondRejecting rejects script
  effect_empty := by decide
  effect_begin := by decide
  effect_commit := by decide
  effect_rollback := by decide
  effect_discard := by decide
  conforms st f := by
    rcases respondRejecting_cases rejects script st f with h | ⟨⟨name, sql, oids, rfl⟩, hm, h⟩
    · rw [h]
      exact (peer script).conforms st f
    · rw [h]
      exact conforms_error hm rfl .nil
  asyncs st f m hm ha := by
    rcases respondRejecting_cases rejects script st f with h | ⟨-, -, h⟩
    · rw [h] at hm
      exact (peer script).asyncs st f m hm ha
    · rw [h, List.mem_singleton] at hm
      subst hm
      cases ha

theorem rejecting_noCopy (rejects : String → Bool) (script : Script) :
    (rejecting rejects script).NoCopy := by
  intro st f hmode
  change (respondRejecting rejects script st f).2.session.mode ≠ .copying
  rcases respondRejecting_cases rejects script st f with h | ⟨-, -, h⟩
  · rw [h]
    exact peer_noCopy script st f hmode
  · rw [h]
    simp

/-- The reference server after the startup exchange. -/
def start : State := ⟨Session.fresh, 0⟩

/-- A server at which statements behave as given and nothing else goes wrong. -/
def scripted (behaviour : String → Behaviour) : Peer :=
  peer ⟨behaviour, fun _ => false, fun _ => false⟩

end ZeroPostgres.Reference
