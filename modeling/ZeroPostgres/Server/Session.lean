import Mathlib.Logic.Function.Basic
import ZeroPostgres.Protocol.Frontend

/-!
# The server's side of the protocol

What a conformant PostgreSQL v3 server may answer to one frontend message, and what that
does to its session. `Conforms` speaks of replies without their asynchronous messages. It
is a grammar, not an implementation: every choice the protocol leaves to the server (the
rows, the tags, where an error falls) is left open.

After an error in the extended protocol the server discards messages until Sync
(`Mode.skipping`); after a FATAL error it closes the session; once it starts a COPY
exchange nothing is said about it any more. Parameter and result values are not modelled.
-/

namespace ZeroPostgres

/-- What the server does with the next message. -/
inductive Mode where
  | ready
  | skipping
  | copying
  | closed
deriving DecidableEq, Repr

/-- A statement the server has parsed. -/
structure Statement where
  sql : String
  returnsRows : Bool
deriving DecidableEq, Repr

/-- Server-side state of one connection. -/
structure Session where
  mode : Mode
  status : TransactionStatus
  statements : String → Option Statement
  portals : String → Option Statement

/-- What executing a query string does to the transaction block. `discard` is DISCARD ALL, which
cannot run inside of one; `other` covers savepoints, `COMMIT AND CHAIN` and strings of several
statements that control transactions. -/
inductive TxEffect where
  | none | begin | commit | rollback | discard | other
deriving DecidableEq, Repr

/-- Status after an error: an open block fails. -/
def TransactionStatus.afterError : TransactionStatus → TransactionStatus
  | .idle => .idle
  | _ => .failed

/-- A command of the given effect succeeds with a tag. A failed block refuses everything
but its end, and answers a COMMIT with the tag ROLLBACK. -/
inductive Completes : TxEffect → TransactionStatus → String → TransactionStatus → Prop where
  | plain {status tag} : status ≠ .failed → Completes .none status tag status
  | begin {status} : status ≠ .failed → Completes .begin status "BEGIN" .inTransaction
  | commit {status} : status ≠ .failed → Completes .commit status "COMMIT" .idle
  | commitFailed : Completes .commit .failed "ROLLBACK" .idle
  | rollback {status} : Completes .rollback status "ROLLBACK" .idle
  | discard : Completes .discard .idle "DISCARD ALL" .idle
  | other {status tag status'} : Completes .other status tag status'

/-- A command of the given effect fails. A failed COMMIT may have ended the block. -/
inductive Fails : TxEffect → TransactionStatus → TransactionStatus → Prop where
  | block {effect status} : Fails effect status status.afterError
  | commit {status} : Fails .commit status .idle
  | other {status status'} : Fails .other status status'

/-- The session after a command of the given effect that succeeds: DISCARD ALL drops the prepared
statements and the portals. -/
def Session.completed (s : Session) (effect : TxEffect) (status : TransactionStatus) : Session :=
  match effect with
  | .discard => { s with status, statements := fun _ => none, portals := fun _ => none }
  | _ => { s with status }

@[simp] theorem Session.completed_mode (s : Session) (effect : TxEffect)
    (status : TransactionStatus) : (s.completed effect status).mode = s.mode := by
  cases effect <;> rfl

@[simp] theorem Session.completed_status (s : Session) (effect : TxEffect)
    (status : TransactionStatus) : (s.completed effect status).status = status := by
  cases effect <;> rfl

/-! ### Single messages -/

/-- A well-formed message of the given type. -/
def Is (t : MsgType) (m : RawMessage) : Prop := m.type = t ∧ m.wellFormed = true

/-- A ReadyForQuery with the given status. -/
def IsReady (status : TransactionStatus) (m : RawMessage) : Prop :=
  m.type = .readyForQuery ∧ m.payload = [status.toByte]

/-- A CommandComplete with the given tag. -/
def IsComplete (tag : String) (m : RawMessage) : Prop :=
  m.type = .commandComplete ∧ CommandComplete.parse m.payload = .ok tag

/-- An ErrorResponse that carries `e`. -/
def IsError (e : ServerError) (m : RawMessage) : Prop :=
  m.type = .errorResponse ∧ ErrorResponse.parse m.payload = .ok e

theorem IsReady.wellFormed {status : TransactionStatus} {m : RawMessage} (h : IsReady status m) :
    m.wellFormed = true := by
  simp [RawMessage.wellFormed, h.1, ReadyForQuery.parse, h.2, Outcome.isOk]

theorem IsComplete.wellFormed {tag : String} {m : RawMessage} (h : IsComplete tag m) :
    m.wellFormed = true := by
  simp [RawMessage.wellFormed, h.1, h.2, Outcome.isOk]

theorem IsError.wellFormed {e : ServerError} {m : RawMessage} (h : IsError e m) :
    m.wellFormed = true := by
  simp [RawMessage.wellFormed, h.1, h.2, Outcome.isOk]

theorem parse_of_wellFormed {α : Type} {o : Parsed α} (h : o.isOk = true) : ∃ a, o = .ok a := by
  cases o with
  | ok a => exact ⟨a, rfl⟩
  | _ => cases h

theorem columns_parse {m : RawMessage} (h : Is .rowDescription m) :
    ∃ cols, RowDescription.parse m.payload = .ok cols :=
  parse_of_wellFormed (by simpa [RawMessage.wellFormed, h.1] using h.2)

theorem row_parse {m : RawMessage} (h : Is .dataRow m) : ∃ row, DataRow.parse m.payload = .ok row :=
  parse_of_wellFormed (by simpa [RawMessage.wellFormed, h.1] using h.2)

/-- Data rows, and none at all when the statement returns no rows. -/
def IsRows (returnsRows : Bool) (rows : List RawMessage) : Prop :=
  (∀ m ∈ rows, Is .dataRow m) ∧ (returnsRows = false → rows = [])

/-- RowDescription or NoData, as the statement returns rows or not. -/
def IsColumns (returnsRows : Bool) (m : RawMessage) : Prop :=
  Is (if returnsRows then .rowDescription else .noData) m

instance (t : MsgType) (m : RawMessage) : Decidable (Is t m) := inferInstanceAs (Decidable (_ ∧ _))

instance (status : TransactionStatus) (m : RawMessage) : Decidable (IsReady status m) :=
  inferInstanceAs (Decidable (_ ∧ _))

instance (tag : String) (m : RawMessage) : Decidable (IsComplete tag m) :=
  inferInstanceAs (Decidable (_ ∧ _))

instance (e : ServerError) (m : RawMessage) : Decidable (IsError e m) :=
  inferInstanceAs (Decidable (_ ∧ _))

instance (returnsRows : Bool) (m : RawMessage) : Decidable (IsColumns returnsRows m) :=
  inferInstanceAs (Decidable (Is _ m))

/-! ### Replies to one message -/

/-- Results of the statements of a query string, each with its tag. -/
inductive Results : List RawMessage → Prop where
  | nil : Results []
  | command {tag m ms} : IsComplete tag m → Results ms → Results (m :: ms)
  | rows {tag cols rows m ms} : Is .rowDescription cols → IsRows true rows →
      IsComplete tag m → Results ms → Results (cols :: (rows ++ m :: ms))

/-- What a Query that succeeds is answered with before ReadyForQuery. -/
inductive QuerySuccess : TxEffect → TransactionStatus → List RawMessage → TransactionStatus →
    Prop where
  | empty {status m} : Is .emptyQueryResponse m → QuerySuccess .none status [m] status
  | results {status ms} : status ≠ .failed → Results ms → QuerySuccess .none status ms status
  | control {effect status tag status' m} : effect ≠ .none → effect ≠ .other →
      Completes effect status tag status' → IsComplete tag m →
      QuerySuccess effect status [m] status'
  | other {status ms status'} : Results ms → QuerySuccess .other status ms status'

/-- What a Query may be answered with before it fails: the beginning of some results, and
nothing when it was a single control command. -/
def QueryPartial (effect : TxEffect) (ms : List RawMessage) : Prop :=
  ms = [] ∨ (effect = .none ∨ effect = .other) ∧ ∃ rest, Results (ms ++ rest)

/-- The reply to an extended-protocol message that succeeds. -/
inductive Success (effect : String → TxEffect) (s : Session) :
    Frontend → List RawMessage → Session → Prop where
  | parse {name sql oids m} (returnsRows : Bool) : Is .parseComplete m →
      Success effect s (.parse name sql oids) [m]
        { s with statements := Function.update s.statements name (some ⟨sql, returnsRows⟩) }
  | bind {portal name formats count values m stmt} : s.statements name = some stmt →
      Is .bindComplete m →
      Success effect s (.bind portal name formats count values) [m]
        { s with portals := Function.update s.portals portal (some stmt) }
  | describeStatement {name stmt p c} : s.statements name = some stmt →
      Is .parameterDescription p → IsColumns stmt.returnsRows c →
      Success effect s (.describeStatement name) [p, c] s
  | describePortal {portal stmt c} : s.portals portal = some stmt →
      IsColumns stmt.returnsRows c → Success effect s (.describePortal portal) [c] s
  | complete {portal maxRows stmt rows tag status m} : s.portals portal = some stmt →
      IsRows stmt.returnsRows rows → Completes (effect stmt.sql) s.status tag status →
      IsComplete tag m →
      Success effect s (.execute portal maxRows) (rows ++ [m])
        (s.completed (effect stmt.sql) status)
  | suspend {portal maxRows stmt rows m} : s.portals portal = some stmt →
      IsRows stmt.returnsRows rows → stmt.returnsRows = true → maxRows ≠ 0 →
      Is .portalSuspended m → Success effect s (.execute portal maxRows) (rows ++ [m]) s
  | emptyQuery {portal maxRows stmt m} : s.portals portal = some stmt →
      stmt.returnsRows = false → Is .emptyQueryResponse m →
      Success effect s (.execute portal maxRows) [m] s
  | closeStatement {name m} : Is .closeComplete m →
      Success effect s (.closeStatement name) [m]
        { s with statements := Function.update s.statements name none }
  | closePortal {portal m} : Is .closeComplete m →
      Success effect s (.closePortal portal) [m]
        { s with portals := Function.update s.portals portal none }

/-- What an extended-protocol message may be answered with before it fails. -/
inductive Partial (s : Session) : Frontend → List RawMessage → Prop where
  | nil {f} : Partial s f []
  | describeStatement {name p} : Is .parameterDescription p →
      Partial s (.describeStatement name) [p]
  | execute {portal maxRows stmt rows} : s.portals portal = some stmt →
      IsRows stmt.returnsRows rows → Partial s (.execute portal maxRows) rows

/-- The transaction effect of a message: that of the query string it executes. -/
def Session.effectOf (effect : String → TxEffect) (s : Session) : Frontend → TxEffect
  | .execute portal _ =>
    match s.portals portal with
    | some stmt => effect stmt.sql
    | none => .none
  | _ => .none

/-- Messages of the extended protocol that an error makes the server discard. -/
def Frontend.isExtended : Frontend → Bool
  | .parse .. | .bind .. | .describeStatement _ | .describePortal _ | .execute ..
  | .closeStatement _ | .closePortal _ => true
  | _ => false

/-- What a conformant server may answer to a message, asynchronous messages aside, and the
session it goes on with. -/
inductive Conforms (effect : String → TxEffect) (s : Session) :
    Frontend → List RawMessage → Session → Prop where
  | query {sql ms status z} : s.mode = .ready → QuerySuccess (effect sql) s.status ms status →
      IsReady status z →
      Conforms effect s (.query sql) (ms ++ [z]) (s.completed (effect sql) status)
  | queryError {sql ms e m status z} : s.mode = .ready → QueryPartial (effect sql) ms →
      IsError e m → e.isFatal = false → Fails (effect sql) s.status status →
      IsReady status z → Conforms effect s (.query sql) (ms ++ [m, z]) { s with status }
  | queryFatal {sql ms e m} : s.mode = .ready → QueryPartial (effect sql) ms →
      IsError e m → e.isFatal = true →
      Conforms effect s (.query sql) (ms ++ [m]) { s with mode := .closed }
  | queryCopy {sql ms m rest s'} : s.mode = .ready → QueryPartial (effect sql) ms →
      m.type.isCopy = true → s'.mode = .copying →
      Conforms effect s (.query sql) (ms ++ m :: rest) s'
  | success {f ms s'} : s.mode = .ready → Success effect s f ms s' → Conforms effect s f ms s'
  | error {f ms e m status} : s.mode = .ready → f.isExtended = true → Partial s f ms →
      IsError e m → e.isFatal = false → Fails (s.effectOf effect f) s.status status →
      Conforms effect s f (ms ++ [m]) { s with mode := .skipping, status }
  | fatal {f ms e m} : s.mode = .ready → f.isExtended = true → Partial s f ms →
      IsError e m → e.isFatal = true →
      Conforms effect s f (ms ++ [m]) { s with mode := .closed }
  | executeCopy {portal maxRows m rest s'} : s.mode = .ready → m.type.isCopy = true →
      s'.mode = .copying → Conforms effect s (.execute portal maxRows) (m :: rest) s'
  | sync {z} : s.mode = .ready → IsReady s.status z → Conforms effect s .sync [z] s
  | syncError {e m z} : s.mode = .ready → IsError e m → e.isFatal = false →
      IsReady s.status.afterError z →
      Conforms effect s .sync [m, z] { s with status := s.status.afterError }
  | syncFatal {e m} : s.mode = .ready → IsError e m → e.isFatal = true →
      Conforms effect s .sync [m] { s with mode := .closed }
  | resync {z} : s.mode = .skipping → IsReady s.status z →
      Conforms effect s .sync [z] { s with mode := .ready }
  | discard {f} : s.mode = .skipping → f.isExtended = true ∨ (∃ sql, f = .query sql) →
      Conforms effect s f [] s
  | discardFatal {f e m} : s.mode = .skipping → IsError e m → e.isFatal = true →
      Conforms effect s f [m] { s with mode := .closed }
  | flush : s.mode = .ready ∨ s.mode = .skipping → Conforms effect s .flush [] s
  | terminate : s.mode = .ready ∨ s.mode = .skipping →
      Conforms effect s .terminate [] { s with mode := .closed }
  | malformed {portal name e m} : s.mode = .ready ∨ s.mode = .skipping → IsError e m →
      e.isFatal = true → Conforms effect s (.bindHead portal name) [m] { s with mode := .closed }
  | copying {f ms s'} : s.mode = .copying → s'.mode = .copying → Conforms effect s f ms s'
  | closed {f} : s.mode = .closed → Conforms effect s f [] s

section Modes

variable {effect : String → TxEffect} {s s' : Session} {f : Frontend} {ms : List RawMessage}

/-- A closed session stays as it is and answers nothing. -/
theorem Conforms.of_closed (h : Conforms effect s f ms s') (hm : s.mode = .closed) :
    ms = [] ∧ s' = s := by
  cases h with
  | closed => exact ⟨rfl, rfl⟩
  | flush h | terminate h | malformed h => rcases h with h | h <;> cases hm.symm.trans h
  | query h | queryError h | queryFatal h | queryCopy h | success h | error h | fatal h
  | executeCopy h | sync h | syncError h | syncFatal h | resync h | discard h | discardFatal h
  | copying h => cases hm.symm.trans h

/-- A COPY exchange goes on. -/
theorem Conforms.of_copying (h : Conforms effect s f ms s') (hm : s.mode = .copying) :
    s'.mode = .copying := by
  cases h with
  | copying _ h => exact h
  | flush h | terminate h | malformed h => rcases h with h | h <;> cases hm.symm.trans h
  | query h | queryError h | queryFatal h | queryCopy h | success h | error h | fatal h
  | executeCopy h | sync h | syncError h | syncFatal h | resync h | discard h | discardFatal h
  | closed h => cases hm.symm.trans h

/-- A server that discards messages drops those of the extended protocol, unless it closes
the session. -/
theorem Conforms.of_skipping (h : Conforms effect s f ms s') (hm : s.mode = .skipping)
    (hf : f.isExtended = true) : s'.mode = .closed ∨ ms = [] ∧ s' = s := by
  cases h with
  | discard => exact .inr ⟨rfl, rfl⟩
  | discardFatal => exact .inl rfl
  | sync | syncError | syncFatal | resync | flush | terminate | malformed => cases hf
  | query h | queryError h | queryFatal h | queryCopy h | success h | error h | fatal h
  | executeCopy h | copying h | closed h => cases hm.symm.trans h

/-- A malformed Bind closes the session, outside COPY. -/
theorem Conforms.of_bindHead {portal name : String}
    (h : Conforms effect s (.bindHead portal name) ms s') (hm : s.mode ≠ .copying) :
    s'.mode = .closed := by
  cases h with
  | malformed | discardFatal => rfl
  | copying h => exact absurd h hm
  | closed h => exact h
  | success _ h => cases h
  | error _ h | fatal _ h => cases h
  | discard _ h => rcases h with h | ⟨_, h⟩ <;> cases h

end Modes

/-- A server as seen from one connection: a deterministic machine that answers each message
in order. Everything it is free to choose is in its state. Its asynchronous messages are
well formed and may stand anywhere. -/
structure Peer where
  State : Type
  session : State → Session
  effect : String → TxEffect
  respond : State → Frontend → List RawMessage × State
  effect_empty : effect "" = .none
  effect_begin : effect "BEGIN" = .begin
  effect_commit : effect "COMMIT" = .commit
  effect_rollback : effect "ROLLBACK" = .rollback
  effect_discard : effect "DISCARD ALL" = .discard
  conforms : ∀ st f,
    Conforms effect (session st) f (core (respond st f).1) (session (respond st f).2)
  asyncs : ∀ st f, ∀ m ∈ (respond st f).1, m.isAsync = true → m.wellFormed = true

namespace Peer

variable (P : Peer)

/-- The peer starts no COPY exchange. -/
def NoCopy : Prop :=
  ∀ st f, (P.session st).mode ≠ .copying → (P.session (P.respond st f).2).mode ≠ .copying

/-- Answer several messages in order. -/
def feed : P.State → List Frontend → List RawMessage × P.State
  | st, [] => ([], st)
  | st, f :: fs =>
    let r := P.respond st f
    let rs := feed r.2 fs
    (r.1 ++ rs.1, rs.2)

@[simp] theorem feed_nil (st : P.State) : P.feed st [] = ([], st) := rfl

theorem feed_cons (st : P.State) (f : Frontend) (fs : List Frontend) :
    P.feed st (f :: fs) =
      ((P.respond st f).1 ++ (P.feed (P.respond st f).2 fs).1,
        (P.feed (P.respond st f).2 fs).2) := rfl

/-- Messages sent in two parts are answered as if sent at once. -/
theorem feed_append (st : P.State) (fs gs : List Frontend) :
    P.feed st (fs ++ gs) =
      ((P.feed st fs).1 ++ (P.feed (P.feed st fs).2 gs).1,
        (P.feed (P.feed st fs).2 gs).2) := by
  induction fs generalizing st with
  | nil => simp
  | cons f fs ih => simp only [List.cons_append, feed_cons, ih, List.append_assoc]

/-- The asynchronous messages of a peer are well formed. -/
theorem feed_asyncs (st : P.State) (fs : List Frontend) :
    ∀ m ∈ (P.feed st fs).1, m.isAsync = true → m.wellFormed = true := by
  induction fs generalizing st with
  | nil => simp
  | cons f fs ih =>
    intro m hm
    rw [feed_cons] at hm
    rcases List.mem_append.mp hm with hm | hm
    · exact P.asyncs st f m hm
    · exact ih _ m hm

/-- The messages sent with their replies. -/
def exchanges : P.State → List Frontend → List (Frontend × List RawMessage)
  | _, [] => []
  | st, f :: fs => (f, (P.respond st f).1) :: exchanges (P.respond st f).2 fs

theorem exchanges_append (st : P.State) (fs gs : List Frontend) :
    P.exchanges st (fs ++ gs) = P.exchanges st fs ++ P.exchanges (P.feed st fs).2 gs := by
  induction fs generalizing st with
  | nil => rfl
  | cons f fs ih => simp only [List.cons_append, exchanges, ih, feed_cons]

end Peer

/-- A server that starts no COPY is in none after some messages. -/
theorem feed_not_copying {P : Peer} (hP : P.NoCopy) {st : P.State} (fs : List Frontend)
    (h : (P.session st).mode ≠ .copying) : (P.session (P.feed st fs).2).mode ≠ .copying := by
  induction fs generalizing st with
  | nil => exact h
  | cons f fs ih =>
    rw [P.feed_cons]
    exact ih (hP _ f h)

end ZeroPostgres
