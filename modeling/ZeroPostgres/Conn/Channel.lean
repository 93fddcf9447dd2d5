import ZeroPostgres.Lib.ReadLoop
import ZeroPostgres.Server.Session
import ZeroPostgres.Handler

/-!
# Connections

The state of a connection and its I/O, shared by the blocking client of `src/src/sync/`
and the asynchronous client of `src/src/tokio/`. Both have the same fields, up to the flags
`K` by which the asynchronous one tracks exchanges; the class `Driver` says what they do.

A stream holds the peer, what the peer has sent and nobody has read (`inbound`), and two
records for the statements of theorems: what was sent with its replies, and what was read.
A read with nothing to read never returns, unless the peer has closed the session. In the
asynchronous client a future may be dropped at any await point: `cut` counts the awaits that
still complete. A write that is cut short may still have sent its first messages; a read
that is cut short leaves its message on the stream, where it counts as unread.
-/

namespace ZeroPostgres

/-- Where a future is dropped: after `awaits` completed await points, having sent `frames`
messages of a write then in progress. -/
structure Cut where
  awaits : Nat
  frames : Nat
deriving DecidableEq, Repr

/-- Both directions of a connection to `P`. -/
structure Stream (P : Peer) where
  peer : P.State
  inbound : List RawMessage
  log : List (Frontend × List RawMessage)
  received : List RawMessage
  cut : Option Cut

namespace Stream

variable {P : Peer}

/-- The session of the peer. -/
def session (s : Stream P) : Session := P.session s.peer

/-- One message reaches the peer, which answers it. -/
def send (s : Stream P) (f : Frontend) : Stream P :=
  let r := P.respond s.peer f
  { s with peer := r.2, inbound := s.inbound ++ r.1, log := s.log ++ [(f, r.1)] }

/-- Messages reach the peer in order. -/
def sendAll (s : Stream P) (fs : List Frontend) : Stream P := fs.foldl send s

@[simp] theorem sendAll_nil (s : Stream P) : s.sendAll [] = s := rfl

theorem sendAll_cons (s : Stream P) (f : Frontend) (fs : List Frontend) :
    s.sendAll (f :: fs) = (s.send f).sendAll fs := rfl

/-- The peer ends where feeding it the messages leads. -/
theorem sendAll_peer (s : Stream P) (fs : List Frontend) :
    (s.sendAll fs).peer = (P.feed s.peer fs).2 := by
  induction fs generalizing s with
  | nil => rfl
  | cons f fs ih => rw [sendAll_cons, ih]; rfl

/-- The replies queue up behind what is still unread. -/
theorem sendAll_inbound (s : Stream P) (fs : List Frontend) :
    (s.sendAll fs).inbound = s.inbound ++ (P.feed s.peer fs).1 := by
  induction fs generalizing s with
  | nil => simp
  | cons f fs ih => rw [sendAll_cons, ih, P.feed_cons]; simp [send]

/-- What was sent is recorded with its replies. -/
theorem sendAll_log (s : Stream P) (fs : List Frontend) :
    (s.sendAll fs).log = s.log ++ P.exchanges s.peer fs := by
  induction fs generalizing s with
  | nil => simp [Peer.exchanges]
  | cons f fs ih => rw [sendAll_cons, ih, Peer.exchanges]; simp [send]

@[simp] theorem sendAll_received (s : Stream P) (fs : List Frontend) :
    (s.sendAll fs).received = s.received := by
  induction fs generalizing s with
  | nil => rfl
  | cons f fs ih => rw [sendAll_cons, ih]; rfl

@[simp] theorem sendAll_cut (s : Stream P) (fs : List Frontend) :
    (s.sendAll fs).cut = s.cut := by
  induction fs generalizing s with
  | nil => rfl
  | cons f fs ih => rw [sendAll_cons, ih]; rfl

/-- Nothing is dropped on a stream where nothing is to be dropped. -/
theorem sendAll_no_cut {s : Stream P} (fs : List Frontend) (h : s.cut = none) :
    { s.sendAll fs with cut := none } = s.sendAll fs := by
  have hcut := (s.sendAll_cut fs).trans h
  generalize s.sendAll fs = s' at hcut ⊢
  cases s'
  cases hcut
  rfl

end Stream

/-- A connection, `src/src/sync/conn.rs:28–37`, `src/src/tokio/conn.rs:27–41`. `broken` is
the field `is_broken`; `asyncMessageHandler` is the installed handler as the list of the
calls made to it. -/
structure Conn (P : Peer) (K : Type) where
  stream : Stream P
  bufferSet : BufferSet
  transactionStatus : TransactionStatus
  broken : Bool
  flags : K
  nameCounter : Nat
  connectionId : UInt32
  asyncMessageHandler : Option (List AsyncMessage)

/-- A connection as it is after the startup exchange. -/
def Conn.fresh {P : Peer} {K : Type} (st : P.State) (flags : K) : Conn P K :=
  { stream := ⟨st, [], [], [], none⟩, bufferSet := .new, transactionStatus := .idle
    broken := false, flags, nameCounter := 0, connectionId := 0, asyncMessageHandler := none }

/-- How a client tracks the exchange in progress. -/
class Driver (K : Type) where
  /-- `is_broken()`, `src/src/sync/conn.rs:216`, `src/src/tokio/conn.rs:236`. -/
  isBroken : Bool → K → Bool
  /-- Whether `ensure_exchange_ready` passes, `src/src/tokio/conn.rs:250`. -/
  exchangeReady : Bool → K → Bool
  /-- Whether a public operation is refused on a broken connection. -/
  refuses : Bool
  /-- `begin_exchange`, `src/src/tokio/conn.rs:259`. -/
  beginFlags : K → K
  /-- `finish_exchange`, `src/src/tokio/conn.rs:268`. -/
  finishFlags : K → K

namespace Conn

variable {P : Peer} {K : Type} {α β : Type}

/-- The session of the peer. -/
def session (c : Conn P K) : Session := c.stream.session

/-- The messages that wait to be read, asynchronous ones aside. -/
def unread (c : Conn P K) : List RawMessage := core c.stream.inbound

/-- `in_transaction`, `src/src/sync/conn.rs:211–213`. -/
def inTransaction (c : Conn P K) : Bool := c.transactionStatus.isInTransaction

/-- `is_broken()`. -/
def isBroken [Driver K] (c : Conn P K) : Bool := Driver.isBroken c.broken c.flags

/-- `ensure_exchange_ready` passes. -/
def exchangeReady [Driver K] (c : Conn P K) : Bool := Driver.exchangeReady c.broken c.flags

/-- `ensure_usable`, `src/src/tokio/conn.rs:240–245`; the blocking client has no such check. -/
def ensureUsable [Driver K] : Act Error (Conn P K) Unit := fun c =>
  if Driver.refuses K && c.isBroken then (.err .connectionBroken, c) else (.ok (), c)

/-- `ensure_exchange_ready`, `src/src/tokio/conn.rs:250–255`. -/
def ensureExchangeReady [Driver K] : Act Error (Conn P K) Unit := fun c =>
  if c.exchangeReady then (.ok (), c) else (.err .connectionBroken, c)

/-- `begin_exchange`, `src/src/tokio/conn.rs:259–263`. -/
def beginExchange [Driver K] : Act Error (Conn P K) Unit := do
  ensureExchangeReady
  Act.modify fun c => { c with flags := Driver.beginFlags c.flags }

/-- `finish_exchange`, `src/src/tokio/conn.rs:268–270`. -/
def finishExchange [Driver K] : Act Error (Conn P K) Unit :=
  Act.modify fun c => { c with flags := Driver.finishFlags c.flags }

/-- The code every public operation ends with: an error of the breaking kind marks the
connection broken, e.g. `src/src/sync/conn.rs:374–379`. -/
def markBroken (x : Act Error (Conn P K) α) : Act Error (Conn P K) α := fun c =>
  match x c with
  | (.err e, c') => (.err e, if e.isConnectionBroken then { c' with broken := true } else c')
  | r => r

/-- The shape of a public operation: refuse a broken connection, run, mark. -/
def guarded [Driver K] (x : Act Error (Conn P K) α) : Act Error (Conn P K) α := do
  ensureUsable
  markBroken x

/-! ### Input and output -/

/-- An await point: a dropped future gives no control back from it. -/
def awaitPoint : Act Error (Conn P K) Unit := fun c =>
  match c.stream.cut with
  | none => (.ok (), c)
  | some ⟨0, _⟩ => (.halt, c)
  | some ⟨n + 1, k⟩ => (.ok (), { c with stream := { c.stream with cut := some ⟨n, k⟩ } })

/-- `write_all` of the write buffer, `src/src/sync/stream.rs:101–109`. -/
def writeAll : Act Error (Conn P K) Unit := fun c =>
  match c.stream.cut with
  | none => (.ok (), { c with stream := c.stream.sendAll c.bufferSet.writeBuffer })
  | some ⟨0, k⟩ =>
    (.halt, { c with stream := c.stream.sendAll (c.bufferSet.writeBuffer.take k) })
  | some ⟨n + 1, k⟩ =>
    (.ok (), { c with stream :=
      { c.stream.sendAll c.bufferSet.writeBuffer with cut := some ⟨n, k⟩ } })

/-- `flush`, `src/src/sync/stream.rs:112–120`: what was written is on its way already. -/
def flushStream : Act Error (Conn P K) Unit := awaitPoint

/-- Take `m` off the stream and into the buffers. -/
def take (c : Conn P K) (m : RawMessage) : Conn P K :=
  { c with
    stream := { c.stream with
      inbound := c.stream.inbound.tail, received := c.stream.received ++ [m] }
    bufferSet := c.bufferSet.load m }

/-- `read_message` with `m` next on the stream, `src/src/sync/stream.rs:73–89`. -/
def receive (m : RawMessage) : Act Error (Conn P K) Unit := do
  awaitPoint
  Act.modify (take · m)

/-- `read_message` with nothing on the stream: the end of a closed session is an error,
and an open one keeps the reader waiting. -/
def starve : Act Error (Conn P K) α := do
  awaitPoint
  fun c => if c.session.mode = .closed then (.err (.io "unexpected end of file"), c)
    else (.halt, c)

/-- Read messages and hand each to `body` until it stops. -/
def readMessages (body : β → RawMessage → Act Error (Conn P K) (Flow β α)) (b : β) :
    Act Error (Conn P K) α := fun c => readLoop receive starve body c.stream.inbound b c

/-- Set the write buffer, as the request builders do after `write_buffer.clear()`. -/
def setWriteBuffer (fs : List Frontend) : Act Error (Conn P K) Unit :=
  Act.modify fun c => { c with bufferSet := { c.bufferSet with writeBuffer := fs } }

/-- Run a call whose future is dropped at `cut`, when there is one. -/
def withCut (cut : Option Cut) (x : Act Error (Conn P K) α) : Act Error (Conn P K) α := fun c =>
  let r := x { c with stream := { c.stream with cut } }
  (r.1, { r.2 with stream := { r.2.stream with cut := none } })

end Conn

end ZeroPostgres
