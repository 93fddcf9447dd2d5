import ZeroPostgres.Conn.Portal
import ZeroPostgres.Server.Replies

/-!
# What goes over a connection

A connection only moves the server by sending, and reads what comes back from the front. Every
operation keeps both, however it ends: `Talks` relates the connection before it to the one after
it. On an aligned connection it follows that an operation reads replies to its own messages only
(`Talks.answers_own`).
-/

namespace ZeroPostgres

open Act

variable {P : Peer} {K : Type} {α β : Type}

/-- The server owes nothing and is ready for the next message. -/
def Conn.Aligned {K : Type} (c : Conn P K) : Prop := c.unread = [] ∧ c.session.mode = .ready

instance {K : Type} (c : Conn P K) : Decidable c.Aligned := inferInstanceAs (Decidable (_ ∧ _))

/-! ### Where the server goes -/

/-- The peer of `s'` is that of `s` after some messages, and these are recorded. -/
def Stream.Follows (s s' : Stream P) : Prop :=
  ∃ fs, s'.peer = (P.feed s.peer fs).2 ∧ s'.log = s.log ++ P.exchanges s.peer fs

/-- Nothing was sent. -/
theorem Stream.Follows.of_eq {s s' : Stream P} (hp : s'.peer = s.peer) (hl : s'.log = s.log) :
    s.Follows s' :=
  ⟨[], hp, by simp [hl, Peer.exchanges]⟩

/-- The log only grows. -/
theorem Stream.Follows.log_grows {s s' : Stream P} (h : s.Follows s') : s.log <+: s'.log := by
  obtain ⟨fs, -, hl⟩ := h
  exact ⟨_, hl.symm⟩

/-- A closed session stays closed. -/
theorem Stream.Follows.closed {s s' : Stream P} (h : s.Follows s') (hc : s.session.mode = .closed) :
    s'.session.mode = .closed := by
  obtain ⟨fs, h, -⟩ := h
  rw [session, h]
  exact (feed_closed fs hc).2

/-- A server that starts no COPY is in none afterwards. -/
theorem Stream.Follows.not_copying {s s' : Stream P} (h : s.Follows s') (hP : P.NoCopy)
    (hc : s.session.mode ≠ .copying) : s'.session.mode ≠ .copying := by
  obtain ⟨fs, h, -⟩ := h
  rw [session, h]
  exact feed_not_copying hP fs hc

/-- The relation on connections. -/
def Conn.Follows (c c' : Conn P K) : Prop := c.stream.Follows c'.stream

instance : Std.Refl (Conn.Follows (P := P) (K := K)) := ⟨fun _ => .of_eq rfl rfl⟩

instance : IsTrans (Conn P K) Conn.Follows where
  trans := by
    rintro a b c ⟨fs, h, hl⟩ ⟨gs, h', hl'⟩
    refine ⟨fs ++ gs, by rw [h', h, P.feed_append], ?_⟩
    rw [hl', hl, h, P.exchanges_append, List.append_assoc]

/-! ### What a connection sends and reads -/

/-- From `c` to `c'` the messages `sent` went out and `read` came in from the front of what
waited, the replies behind it. A broken connection stays broken, and no future is dropped that
was not to be dropped. -/
structure Conn.Talked (sent : List Frontend) (read : List RawMessage) (c c' : Conn P K) : Prop where
  peer : c'.stream.peer = (P.feed c.stream.peer sent).2
  log : c'.stream.log = c.stream.log ++ P.exchanges c.stream.peer sent
  inbound : c.stream.inbound ++ (P.feed c.stream.peer sent).1 = read ++ c'.stream.inbound
  received : c'.stream.received = c.stream.received ++ read
  broken : c.broken = true → c'.broken = true
  cut : c.stream.cut = none → c'.stream.cut = none

/-- From `c` to `c'` some messages went out and some came in. -/
def Conn.Talks (c c' : Conn P K) : Prop := ∃ sent read, Conn.Talked sent read c c'

namespace Conn

variable {sent : List Frontend} {read : List RawMessage} {c c' c'' : Conn P K}

/-- Nothing was sent or read. -/
theorem Talked.of_eq (hs : c'.stream = c.stream) (hb : c.broken = true → c'.broken = true) :
    Talked [] [] c c' := by
  refine ⟨?_, ?_, ?_, ?_, hb, ?_⟩ <;> simp [hs, Peer.exchanges]

theorem Talks.of_eq (hs : c'.stream = c.stream) (hb : c.broken = true → c'.broken = true) :
    Talks c c' := ⟨[], [], .of_eq hs hb⟩

theorem Talked.trans {sent' : List Frontend} {read' : List RawMessage}
    (h : Talked sent read c c') (h' : Talked sent' read' c' c'') :
    Talked (sent ++ sent') (read ++ read') c c'' := by
  constructor
  · rw [h'.peer, h.peer, P.feed_append]
  · rw [h'.log, h.log, h.peer, P.exchanges_append, List.append_assoc]
  · have h₂ := h'.inbound
    rw [h.peer] at h₂
    rw [P.feed_append]
    dsimp only
    rw [← List.append_assoc, h.inbound, List.append_assoc, h₂, List.append_assoc]
  · rw [h'.received, h.received, List.append_assoc]
  · exact fun hb => h'.broken (h.broken hb)
  · exact fun hc => h'.cut (h.cut hc)

instance : Std.Refl (Talks (P := P) (K := K)) := ⟨fun _ => .of_eq rfl id⟩

instance : IsTrans (Conn P K) Talks where
  trans := by
    rintro a b c ⟨_, _, h⟩ ⟨_, _, h'⟩
    exact ⟨_, _, h.trans h'⟩

theorem Talks.follows (h : Talks c c') : Follows c c' := by
  obtain ⟨sent, _, h⟩ := h
  exact ⟨sent, h.peer, h.log⟩

theorem Talks.broken (h : Talks c c') : c.broken = true → c'.broken = true := by
  obtain ⟨_, _, h⟩ := h
  exact h.broken

theorem Talks.cut (h : Talks c c') : c.stream.cut = none → c'.stream.cut = none := by
  obtain ⟨_, _, h⟩ := h
  exact h.cut

/-- Where nothing but messages are read, the peer and the log stay, and what is read comes from
the front. -/
theorem Talked.reads (h : Talked [] read c c') : c'.stream.peer = c.stream.peer ∧
    c'.stream.log = c.stream.log ∧ c.stream.inbound = read ++ c'.stream.inbound := by
  refine ⟨h.peer, ?_, ?_⟩
  · simpa [Peer.exchanges] using h.log
  · simpa using h.inbound

/-- What is read of a connection on which nothing waits is the beginning of the replies to the
messages sent since, asynchronous messages aside. -/
theorem Talked.answers_own (h : Talked sent read c c') (hu : c.unread = []) :
    core (P.feed c.stream.peer sent).1 = core read ++ c'.unread := by
  have hin := congrArg core h.inbound
  rw [core_append, core_append] at hin
  unfold unread at hu ⊢
  rw [hu, List.nil_append] at hin
  exact hin

/-- What waits comes from a server that is not in a COPY exchange: its asynchronous messages are
well formed. -/
structure Regular (c : Conn P K) : Prop where
  asyncs : ∀ m ∈ c.stream.inbound, m.isAsync = true → m.wellFormed = true
  mode : c.session.mode ≠ .copying

instance (c : Conn P K) : Decidable c.Regular :=
  decidable_of_iff ((∀ m ∈ c.stream.inbound, m.isAsync = true → m.wellFormed = true) ∧
    c.session.mode ≠ .copying) ⟨fun h => ⟨h.1, h.2⟩, fun h => ⟨h.1, h.2⟩⟩

theorem Talks.regular (hP : P.NoCopy) (h : Talks c c') (hc : c.Regular) : c'.Regular := by
  refine ⟨?_, h.follows.not_copying hP hc.mode⟩
  obtain ⟨sent, read, h⟩ := h
  intro m hm
  have hmem : m ∈ c.stream.inbound ++ (P.feed c.stream.peer sent).1 := by
    rw [h.inbound]
    exact List.mem_append_right _ hm
  rcases List.mem_append.mp hmem with hm | hm
  · exact hc.asyncs m hm
  · exact P.feed_asyncs _ _ m hm

/-! ### Input and output -/

/-- From `c` to `c'` some messages came in. -/
def Reads (c c' : Conn P K) : Prop := ∃ read, Talked [] read c c'

instance : Std.Refl (Reads (P := P) (K := K)) := ⟨fun _ => ⟨[], .of_eq rfl id⟩⟩

instance : IsTrans (Conn P K) Reads where
  trans := by
    rintro a b c ⟨_, h⟩ ⟨_, h'⟩
    exact ⟨_, h.trans h'⟩

theorem Reads.talks (h : Reads c c') : Talks c c' := by
  obtain ⟨read, h⟩ := h
  exact ⟨[], read, h⟩

/-- A change that leaves the stream alone. -/
def Still (c c' : Conn P K) : Prop := c'.stream = c.stream ∧ (c.broken = true → c'.broken = true)

instance : Std.Refl (Still (P := P) (K := K)) := ⟨fun _ => ⟨rfl, id⟩⟩

instance : IsTrans (Conn P K) Still where
  trans _ _ _ h h' := ⟨h'.1.trans h.1, fun hb => h'.2 (h.2 hb)⟩

theorem Still.talks (h : Still c c') : Talks c c' := .of_eq h.1 h.2

/-- From `c` to `c'` the handler of asynchronous messages was not called. -/
def SameHandler (c c' : Conn P K) : Prop := c'.asyncMessageHandler = c.asyncMessageHandler

instance : Std.Refl (SameHandler (P := P) (K := K)) := ⟨fun _ => rfl⟩

instance : IsTrans (Conn P K) SameHandler := ⟨fun _ _ _ h h' => h'.trans h⟩

/-- A change that leaves the stream and the handler of asynchronous messages alone. -/
def Mute (c c' : Conn P K) : Prop := Still c c' ∧ SameHandler c c'

instance : Std.Refl (Mute (P := P) (K := K)) := ⟨fun _ => ⟨Std.Refl.refl _, rfl⟩⟩

instance : IsTrans (Conn P K) Mute where
  trans _ _ _ h h' := ⟨IsTrans.trans _ _ _ h.1 h'.1, h'.2.trans h.2⟩

/-- From `c` to `c'` some messages went out and some came in, and none was handed to the handler of
asynchronous messages. -/
def Unheard (c c' : Conn P K) : Prop := Talks c c' ∧ SameHandler c c'

instance : Std.Refl (Unheard (P := P) (K := K)) := ⟨fun _ => ⟨Std.Refl.refl _, rfl⟩⟩

instance : IsTrans (Conn P K) Unheard where
  trans _ _ _ h h' := ⟨IsTrans.trans _ _ _ h.1 h'.1, h'.2.trans h.2⟩

theorem Mute.unheard (h : Mute c c') : Unheard c c' := ⟨h.1.talks, h.2⟩

theorem mute_still {x : Act Error (Conn P K) α} (h : Keeps Mute x) : Keeps Still x :=
  h.mono fun _ _ => And.left

theorem mute_unheard {x : Act Error (Conn P K) α} (h : Keeps Mute x) : Keeps Unheard x :=
  h.mono fun _ _ => Mute.unheard

theorem unheard_talks {x : Act Error (Conn P K) α} (h : Keeps Unheard x) : Keeps Talks x :=
  h.mono fun _ _ => And.left

theorem modify_mute {f : Conn P K → Conn P K} (hs : ∀ c, (f c).stream = c.stream)
    (hb : ∀ c, c.broken = true → (f c).broken = true) (hh : ∀ c, SameHandler c (f c)) :
    Keeps Mute (Act.modify f : Act Error (Conn P K) Unit) :=
  keeps_modify fun c => ⟨⟨hs c, hb c⟩, hh c⟩

theorem modify_still {f : Conn P K → Conn P K} (hs : ∀ c, (f c).stream = c.stream)
    (hb : ∀ c, c.broken = true → (f c).broken = true) :
    Keeps Still (Act.modify f : Act Error (Conn P K) Unit) := keeps_modify fun c => ⟨hs c, hb c⟩

theorem awaitPoint_reads : Keeps Reads (awaitPoint : Act Error (Conn P K) Unit) := by
  refine ⟨fun c => ?_⟩
  unfold awaitPoint
  split
  · exact ⟨[], .of_eq rfl id⟩
  · exact ⟨[], .of_eq rfl id⟩
  · next n k hcut =>
    refine ⟨[], rfl, by simp [Peer.exchanges], by simp, by simp, id, fun h => ?_⟩
    rw [hcut] at h
    cases h

/-- What was in the write buffer, or its beginning where the write is cut short, goes out. -/
theorem writeAll_talked (c : Conn P K) :
    Act.Meets writeAll c fun _ c' => ∃ k, Talked (c.bufferSet.writeBuffer.take k) [] c c' := by
  have sent (fs : List Frontend) (s : Stream P) (hs : c.stream.cut = none → s.cut = none)
      (h : { c.stream.sendAll fs with cut := s.cut } = s) :
      Talked fs [] c { c with stream := s } := by
    rw [← h]
    refine ⟨Stream.sendAll_peer .., Stream.sendAll_log .., ?_, ?_, id, hs⟩
    · exact (Stream.sendAll_inbound ..).symm
    · simp
  have whole {s : Stream P} (h : Talked c.bufferSet.writeBuffer [] c { c with stream := s }) :
      ∃ k, Talked (c.bufferSet.writeBuffer.take k) [] c { c with stream := s } :=
    ⟨c.bufferSet.writeBuffer.length, by rwa [List.take_length]⟩
  unfold Act.Meets writeAll
  split
  · next h => exact whole (sent _ _ (by simp) rfl)
  · next k h => exact ⟨k, sent _ _ (by simp [h]) rfl⟩
  · next h => exact whole (sent c.bufferSet.writeBuffer _ (by simp [h]) rfl)

theorem send_talked (c : Conn P K) : Act.Meets send c fun _ c' =>
    ∃ k read, Talked (c.bufferSet.writeBuffer.take k) read c c' := by
  refine Act.meets_bind.mpr ((writeAll_talked c).mono fun o c' h => ?_)
  obtain ⟨k, h⟩ := h
  cases o with
  | ok _ =>
    obtain ⟨read, hread⟩ := awaitPoint_reads.rel c'
    refine ⟨k, read, ?_⟩
    have htalked := h.trans hread
    rw [List.append_nil] at htalked
    exact htalked
  | err e => exact ⟨k, [], h⟩
  | halt => exact ⟨k, [], h⟩

theorem awaitPoint_sameHandler :
    Keeps SameHandler (awaitPoint : Act Error (Conn P K) Unit) := by
  refine ⟨fun c => ?_⟩
  unfold awaitPoint
  split <;> rfl

theorem send_unheard : Keeps Unheard (send : Act Error (Conn P K) Unit) := by
  have hsame : Keeps SameHandler (send : Act Error (Conn P K) Unit) := by
    refine Keeps.bind ⟨fun c => ?_⟩ fun _ => awaitPoint_sameHandler
    unfold writeAll
    split <;> rfl
  exact ⟨fun c => ⟨⟨_, (send_talked c).at.choose_spec⟩, hsame.rel c⟩⟩

theorem starve_sameHandler : Keeps SameHandler (starve : Act Error (Conn P K) α) := by
  refine awaitPoint_sameHandler.bind fun _ => keeps_of_snd_eq fun c => ?_
  by_cases h : c.session.mode = .closed
  · rw [if_pos h]
  · rw [if_neg h]

theorem starve_reads : Keeps Reads (starve : Act Error (Conn P K) α) := by
  refine awaitPoint_reads.bind fun _ => keeps_of_snd_eq fun c => ?_
  by_cases h : c.session.mode = .closed
  · rw [if_pos h]
  · rw [if_neg h]

/-- A message at the front of the stream is read. -/
theorem take_reads {m : RawMessage} {ms : List RawMessage} (h : c.stream.inbound = m :: ms) :
    Talked [] [m] c (c.take m) := by
  refine ⟨rfl, ?_, ?_, rfl, id, id⟩
  · simp [take, Peer.exchanges]
  · simp [take, h]

/-- A loop whose rounds leave the stream alone reads messages. -/
theorem readMessages_reads {body : β → RawMessage → Act Error (Conn P K) (Flow β α)}
    (hbody : ∀ b m, Keeps Still (body b m)) (b : β) : Keeps Reads (readMessages body b) := by
  refine ⟨fun c => ?_⟩
  have htrans {a b c : Conn P K} (h : Reads a b) (h' : Reads b c) : Reads a c :=
    IsTrans.trans a b c h h'
  refine readLoop_meets receive starve body (I := fun ms _ s => s.stream.inbound = ms ∧ Reads c s)
    (Q := fun _ s => Reads c s) ?_ ?_ _ b c ⟨rfl, Std.Refl.refl c⟩
  · intro b s hs
    exact htrans hs.2 (starve_reads.rel s)
  · intro m ms b s hs
    have hawait := awaitPoint_reads.rel s
    simp only [receive, Act.meets_bind, Act.meets_modify]
    unfold Act.Meets
    have hin : (awaitPoint s).2.stream.inbound = m :: ms := by
      unfold awaitPoint
      split <;> exact hs.1
    generalize awaitPoint s = r at hawait hin
    rcases r with ⟨_ | _ | _, s'⟩
    · have htaken : Reads c (s'.take m) := htrans (htrans hs.2 hawait) ⟨_, take_reads hin⟩
      have hstill := (hbody b m).rel (s'.take m)
      dsimp only
      generalize body b m (s'.take m) = r at hstill
      have hafter : Reads c r.2 := htrans htaken ⟨[], .of_eq hstill.1 hstill.2⟩
      rcases r with ⟨⟨b' | a⟩ | e | _, s''⟩
      · dsimp only at hin
        refine ⟨?_, hafter⟩
        rw [hstill.1]
        simp [take, hin]
      · exact hafter
      · exact hafter
      · exact hafter
    · exact htrans hs.2 hawait
    · exact htrans hs.2 hawait

/-! ### Rounds and operations -/

section Operations

variable {S : Type}

theorem setWriteBuffer_mute (fs : List Frontend) :
    Keeps Mute (setWriteBuffer fs : Act Error (Conn P K) Unit) :=
  modify_mute (fun _ => rfl) (fun _ => id) fun _ => rfl

theorem setStatus_mute (status : TransactionStatus) :
    Keeps Mute (setStatus status : Act Error (Conn P K) Unit) :=
  modify_mute (fun _ => rfl) (fun _ => id) fun _ => rfl

theorem setStatus_still (status : TransactionStatus) :
    Keeps Still (setStatus status : Act Error (Conn P K) Unit) := mute_still (setStatus_mute status)

theorem handleAsync_still (msg : AsyncMessage) :
    Keeps Still (handleAsync msg : Act Error (Conn P K) Unit) :=
  modify_still (fun _ => rfl) fun _ => id

theorem stepMachine_mute (step : Step S Action) (m : S) :
    Keeps Mute (stepMachine step m : Act Error (Conn P K) (Action × S)) :=
  ⟨fun _ => ⟨⟨rfl, id⟩, rfl⟩⟩

theorem stepMachine_still (step : Step S Action) (m : S) :
    Keeps Still (stepMachine step m : Act Error (Conn P K) (Action × S)) :=
  mute_still (stepMachine_mute step m)

/-- Marking the connection broken keeps what changes off the stream keep. -/
theorem markBroken_keeps {R : Conn P K → Conn P K → Prop} [IsTrans (Conn P K) R]
    (hmute : ∀ c c', Mute c c' → R c c') {x : Act Error (Conn P K) α} (h : Keeps R x) :
    Keeps R (markBroken x) := by
  refine ⟨fun c => ?_⟩
  have hx := h.rel c
  unfold markBroken
  generalize x c = r at hx ⊢
  rcases r with ⟨_ | e | _, c'⟩
  · exact hx
  · refine IsTrans.trans _ c' _ hx (hmute _ _ ⟨⟨?_, ?_⟩, ?_⟩)
    · dsimp only
      split <;> rfl
    · dsimp only
      split <;> simp
    · dsimp only
      split <;> rfl
  · exact hx

theorem markBroken_talks {x : Act Error (Conn P K) α} (h : Keeps Talks x) :
    Keeps Talks (markBroken x) := markBroken_keeps (fun _ _ h => h.1.talks) h

theorem still_talks {x : Act Error (Conn P K) α} (h : Keeps Still x) : Keeps Talks x :=
  h.mono fun _ _ => Still.talks

theorem readMessages_talks {body : β → RawMessage → Act Error (Conn P K) (Flow β α)}
    (hbody : ∀ b m, Keeps Still (body b m)) (b : β) : Keeps Talks (readMessages body b) :=
  ⟨fun c => ((readMessages_reads hbody b).rel c).talks⟩

theorem receive_sameHandler (m : RawMessage) :
    Keeps SameHandler (receive m : Act Error (Conn P K) Unit) :=
  awaitPoint_sameHandler.bind fun _ => keeps_modify fun _ => rfl

/-- A loop whose rounds hand nothing on. -/
theorem readMessages_unheard {body : β → RawMessage → Act Error (Conn P K) (Flow β α)}
    (hbody : ∀ b m, Keeps Mute (body b m)) (b : β) : Keeps Unheard (readMessages body b) := by
  have htalks : Keeps Talks (readMessages body b) :=
    readMessages_talks (fun b m => mute_still (hbody b m)) b
  have hsame (ms : List RawMessage) : Keeps SameHandler (readLoop receive starve body ms b) :=
    readLoop_keeps _ _ _ receive_sameHandler starve_sameHandler
      (fun b m => (hbody b m).mono fun _ _ => And.right) ms b
  exact ⟨fun c => ⟨htalks.rel c, (hsame c.stream.inbound).rel c⟩⟩

/-- A call whose future may be dropped. -/
theorem withCut_talks {x : Act Error (Conn P K) α} (h : Keeps Talks x) (cut : Option Cut) :
    Keeps Talks (withCut cut x) := by
  refine ⟨fun c => ?_⟩
  obtain ⟨sent, read, hx⟩ := h.rel { c with stream := { c.stream with cut } }
  exact ⟨sent, read, hx.peer, hx.log, hx.inbound, hx.received, hx.broken, fun _ => rfl⟩

@[inherit_doc withCut_talks]
theorem withCut_unheard {x : Act Error (Conn P K) α} (h : Keeps Unheard x) (cut : Option Cut) :
    Keeps Unheard (withCut cut x) :=
  ⟨fun c => ⟨(withCut_talks (unheard_talks h) cut).rel c,
    (h.rel { c with stream := { c.stream with cut } }).2⟩⟩

variable [Driver K]

theorem ensureUsable_mute : Keeps Mute (ensureUsable : Act Error (Conn P K) Unit) :=
  keeps_of_snd_eq fun c => by unfold ensureUsable; split <;> rfl

theorem ensureUsable_still : Keeps Still (ensureUsable : Act Error (Conn P K) Unit) :=
  mute_still ensureUsable_mute

theorem finishExchange_mute : Keeps Mute (finishExchange : Act Error (Conn P K) Unit) :=
  modify_mute (fun _ => rfl) (fun _ => id) fun _ => rfl

theorem finishExchange_still : Keeps Still (finishExchange : Act Error (Conn P K) Unit) :=
  mute_still finishExchange_mute

theorem ensureExchangeReady_mute :
    Keeps Mute (ensureExchangeReady : Act Error (Conn P K) Unit) :=
  keeps_of_snd_eq fun c => by unfold ensureExchangeReady; split <;> rfl

theorem beginExchange_mute : Keeps Mute (beginExchange : Act Error (Conn P K) Unit) :=
  ensureExchangeReady_mute.bind fun _ => modify_mute (fun _ => rfl) (fun _ => id) fun _ => rfl

/-- A public operation that runs on a usable connection only. -/
theorem guarded_talks {x : Act Error (Conn P K) α} (h : Keeps Talks x) :
    Keeps Talks (guarded x) :=
  (still_talks ensureUsable_still).bind fun _ => markBroken_talks h

@[inherit_doc guarded_talks]
theorem guarded_unheard {x : Act Error (Conn P K) α} (h : Keeps Unheard x) :
    Keeps Unheard (guarded x) :=
  (mute_unheard ensureUsable_mute).bind fun _ => markBroken_keeps (fun _ _ => Mute.unheard) h

theorem driveRound_still [StateMachine S] (m : S) (x : RawMessage) :
    Keeps Still (driveRound m x : Act Error (Conn P K) (Flow S S)) := by
  refine (stepMachine_still _ m).bind fun (action, m) => ?_
  cases action with
  | readMessage => exact keeps_pure _
  | handleAsyncMessageAndReadMessage msg => exact (handleAsync_still msg).bind fun _ => keeps_pure _
  | error e =>
    exact (setStatus_still _).bind fun _ => finishExchange_still.bind fun _ => keeps_fail _
  | finished =>
    exact finishExchange_still.bind fun _ => (setStatus_still _).bind fun _ => keeps_pure _
  | writeAndReadByte => exact keeps_fail _
  | tlsHandshake => exact keeps_fail _
  | write => exact keeps_halt
  | writeAndReadMessage => exact keeps_halt

/-- The shape of `drive`, `drive_batch` and the like: the machine writes its request, the request
goes out, and a loop reads. -/
def exchangeWith (step : Step S Action)
    (body : S → RawMessage → Act Error (Conn P K) (Flow S α)) (m : S) :
    Act Error (Conn P K) α := do
  beginExchange
  let (action, m) ← stepMachine step m
  match action with
  | .writeAndReadMessage => do
    send
    readMessages body m
  | _ => Act.halt

theorem exchangeWith_talks {step : Step S Action} {m : S}
    {body : S → RawMessage → Act Error (Conn P K) (Flow S α)}
    (hbody : ∀ m x, Keeps Still (body m x)) : Keeps Talks (exchangeWith step body m) := by
  refine (still_talks (mute_still beginExchange_mute)).bind fun _ =>
    (still_talks (stepMachine_still _ _)).bind fun (action, m) => ?_
  cases action with
  | writeAndReadMessage =>
    exact (unheard_talks send_unheard).bind fun _ => readMessages_talks hbody m
  | _ => exact keeps_halt

theorem exchangeWith_unheard {step : Step S Action} {m : S}
    {body : S → RawMessage → Act Error (Conn P K) (Flow S α)}
    (hbody : ∀ m x, Keeps Mute (body m x)) : Keeps Unheard (exchangeWith step body m) := by
  refine (mute_unheard beginExchange_mute).bind fun _ =>
    (mute_unheard (stepMachine_mute _ _)).bind fun (action, m) => ?_
  cases action with
  | writeAndReadMessage => exact send_unheard.bind fun _ => readMessages_unheard hbody m
  | _ => exact keeps_halt

theorem drive_talks [StateMachine S] (m : S) : Keeps Talks (drive m : Act Error (Conn P K) S) :=
  exchangeWith_talks driveRound_still

omit [Driver K] in
theorem setBuffers_unheard (b : BufferSet) :
    Keeps Unheard (Act.modify fun c => { c with bufferSet := b } : Act Error (Conn P K) Unit) :=
  mute_unheard (modify_mute (fun _ => rfl) (fun _ => id) fun _ => rfl)

omit [Driver K] in
theorem addNames_unheard (n : Nat) : Keeps Unheard
    (Act.modify fun c => { c with nameCounter := c.nameCounter + n } : Act Error (Conn P K) Unit) :=
  mute_unheard (modify_mute (fun _ => rfl) (fun _ => id) fun _ => rfl)

/-- A relation that the exchanges of the query machines keep, and what is aside from exchanges. -/
class KeptByDrive (R : Conn P K → Conn P K → Prop) : Prop
    extends Std.Refl R, IsTrans (Conn P K) R where
  mute : ∀ {c c' : Conn P K}, Mute c c' → R c c'
  simple : ∀ m : SimpleQueryStateMachine, Keeps R (drive m)
  extended : ∀ m : ExtendedQueryStateMachine, Keeps R (drive m)

instance : KeptByDrive (Talks (P := P) (K := K)) where
  mute h := h.1.talks
  simple := drive_talks
  extended := drive_talks

section Driven

variable {R : Conn P K → Conn P K → Prop} [KeptByDrive R]

theorem mute_keeps {x : Act Error (Conn P K) α} (h : Keeps Mute x) : Keeps R x :=
  h.mono fun _ _ => KeptByDrive.mute

theorem guarded_keeps {x : Act Error (Conn P K) α} (h : Keeps R x) : Keeps R (guarded x) :=
  (mute_keeps ensureUsable_mute).bind fun _ => markBroken_keeps (fun _ _ => KeptByDrive.mute) h

theorem setBuffers_keeps (b : BufferSet) :
    Keeps R (Act.modify fun c => { c with bufferSet := b } : Act Error (Conn P K) Unit) :=
  mute_keeps (modify_mute (fun _ => rfl) (fun _ => id) fun _ => rfl)

theorem query_keeps (sql : String) (handler : Handler) :
    Keeps R (query sql handler : Act Error (Conn P K) (List Callback)) :=
  guarded_keeps ((KeptByDrive.simple _).bind fun _ => keeps_pure _)

theorem queryDrop_keeps (sql : String) :
    Keeps R (queryDrop sql : Act Error (Conn P K) (List Callback)) := query_keeps sql _

theorem ping_keeps : Keeps R (ping : Act Error (Conn P K) Unit) :=
  (queryDrop_keeps "").bind fun _ => keeps_pure _

theorem prepareTyped_keeps (sql : String) (paramOids : List Oid) :
    Keeps R (prepareTyped sql paramOids : Act Error (Conn P K) PreparedStatement) := by
  have hname : Keeps Mute (Act.modify fun c => { c with nameCounter := c.nameCounter + 1 } :
      Act Error (Conn P K) Unit) := modify_mute (fun _ => rfl) (fun _ => id) fun _ => rfl
  refine (mute_keeps ensureUsable_mute).bind fun _ => (mute_keeps hname).bind fun _ =>
    keeps_get.bind fun c => markBroken_keeps (fun _ _ => KeptByDrive.mute)
      (keeps_get.bind fun c => ?_)
  refine (setBuffers_keeps _).bind fun _ => (KeptByDrive.extended _).bind fun m => ?_
  cases m.preparedStmt with
  | some stmt => exact keeps_pure _
  | none => exact keeps_fail _

theorem exec_keeps (statement : StatementRef) (params : Params) (handler : Handler) :
    Keeps R (exec statement params handler : Act Error (Conn P K) (List Callback)) :=
  guarded_keeps <| keeps_get.bind fun _ => (setBuffers_keeps _).bind fun _ =>
    (keeps_ofExcept _).bind fun _ => (KeptByDrive.extended _).bind fun _ => keeps_pure _

theorem closeStatement_keeps (stmt : PreparedStatement) :
    Keeps R (closeStatement stmt : Act Error (Conn P K) Unit) :=
  guarded_keeps <| keeps_get.bind fun _ => (setBuffers_keeps _).bind fun _ =>
    (KeptByDrive.extended _).bind fun _ => keeps_pure _

end Driven

theorem queryDrop_talks (sql : String) :
    Keeps Talks (queryDrop sql : Act Error (Conn P K) (List Callback)) := queryDrop_keeps sql

theorem ping_talks : Keeps Talks (ping : Act Error (Conn P K) Unit) := ping_keeps

theorem prepareBatchRound_mute (m : BatchPrepareStateMachine) (x : RawMessage) :
    Keeps Mute (prepareBatchRound m x :
      Act Error (Conn P K) (Flow BatchPrepareStateMachine (List PreparedStatement))) := by
  refine (stepMachine_mute _ m).bind fun (action, m) => ?_
  cases action with
  | readMessage => exact keeps_pure _
  | finished =>
    exact finishExchange_mute.bind fun _ => (setStatus_mute _).bind fun _ => keeps_pure _
  | writeAndReadMessage => exact keeps_halt
  | _ => exact keeps_fail _

theorem prepareBatchRound_still (m : BatchPrepareStateMachine) (x : RawMessage) :
    Keeps Still (prepareBatchRound m x :
      Act Error (Conn P K) (Flow BatchPrepareStateMachine (List PreparedStatement))) :=
  mute_still (prepareBatchRound_mute m x)

theorem prepareBatch_unheard (queries : List String) :
    Keeps Unheard (prepareBatch queries : Act Error (Conn P K) (List PreparedStatement)) := by
  refine (mute_unheard ensureUsable_mute).bind fun _ => ?_
  cases queries with
  | nil => exact keeps_pure _
  | cons query queries =>
    exact keeps_get.bind fun c => (addNames_unheard _).bind fun _ =>
      markBroken_keeps (fun _ _ => Mute.unheard) <| keeps_get.bind fun _ =>
        (setBuffers_unheard _).bind fun _ => exchangeWith_unheard prepareBatchRound_mute

theorem driveBatchRound_mute (m : BatchStateMachine) (x : RawMessage) :
    Keeps Mute (driveBatchRound m x :
      Act Error (Conn P K) (Flow BatchStateMachine BatchStateMachine)) := by
  refine (stepMachine_mute _ m).bind fun (action, m) => ?_
  cases action with
  | readMessage => exact keeps_pure _
  | finished => exact finishExchange_mute.bind fun _ => keeps_pure _
  | error e =>
    exact (setStatus_mute _).bind fun _ => finishExchange_mute.bind fun _ => keeps_fail _
  | writeAndReadMessage => exact keeps_halt
  | _ => exact keeps_fail _

theorem driveBatchRound_still (m : BatchStateMachine) (x : RawMessage) :
    Keeps Still (driveBatchRound m x :
      Act Error (Conn P K) (Flow BatchStateMachine BatchStateMachine)) :=
  mute_still (driveBatchRound_mute m x)

theorem execChunks_unheard (statement : StatementRef) (paramOids : List Oid) (stmtName : String)
    (chunks : List (List Params)) :
    Keeps Unheard (execChunks statement paramOids stmtName chunks : Act Error (Conn P K) Unit) := by
  induction chunks with
  | nil => exact keeps_pure _
  | cons chunk chunks ih =>
    exact (mute_unheard (setWriteBuffer_mute _)).bind fun _ => (keeps_ofExcept _).bind fun _ =>
      (mute_unheard (setWriteBuffer_mute _)).bind fun _ =>
      (exchangeWith_unheard driveBatchRound_mute).bind fun _ =>
      (mute_unheard (setStatus_mute _)).bind fun _ => ih

theorem execBatchChunked_unheard (statement : StatementRef) (paramsList : List Params)
    (chunkSize : Nat) : Keeps Unheard (execBatchChunked statement paramsList chunkSize :
      Act Error (Conn P K) Unit) := by
  refine guarded_unheard ?_
  cases paramsList with
  | nil => exact keeps_pure _
  | cons first rest => exact execChunks_unheard ..

/-! ### Portals -/

theorem bindRound_mute (m : BindStateMachine) (x : RawMessage) :
    Keeps Mute (bindRound m x : Act Error (Conn P K) (Flow BindStateMachine Unit)) := by
  refine (stepMachine_mute _ m).bind fun (action, m) => ?_
  cases action with
  | readMessage => exact keeps_pure _
  | finished => exact finishExchange_mute.bind fun _ => keeps_pure _
  | write => exact keeps_halt
  | writeAndReadMessage => exact keeps_halt
  | _ => exact keeps_fail _

theorem bindRound_still (m : BindStateMachine) (x : RawMessage) :
    Keeps Still (bindRound m x : Act Error (Conn P K) (Flow BindStateMachine Unit)) :=
  mute_still (bindRound_mute m x)

theorem driveBind_unheard (m : BindStateMachine) :
    Keeps Unheard (driveBind m : Act Error (Conn P K) Unit) := exchangeWith_unheard bindRound_mute

omit [Driver K] in
theorem writePortalBind_unheard (portalName : String) (statement : StatementRef)
    (params : Params) : Keeps Unheard (writePortalBind portalName statement params :
      Act Error (Conn P K) BindStateMachine) :=
  keeps_get.bind fun _ => (setBuffers_unheard _).bind fun _ => keeps_ofExcept _

theorem createNamedPortal_unheard (portalName : String) (statement : StatementRef)
    (params : Params) :
    Keeps Unheard (createNamedPortal portalName statement params : Act Error (Conn P K) Unit) :=
  (mute_unheard ensureUsable_mute).bind fun _ => (writePortalBind_unheard _ _ _).bind fun _ =>
    driveBind_unheard _

omit [Driver K] in
theorem callHandler_mute (handler : Handler) (calls : List Callback) (cb : Callback) :
    Keeps Mute (callHandler handler calls cb : Act Error (Conn P K) (List Callback)) :=
  (keeps_ofExcept _).bind fun _ => keeps_pure _

theorem lowlevelExecuteRound_mute (handler : Handler) (s : ExecuteState) (m : RawMessage) :
    Keeps Mute (lowlevelExecuteRound handler s m :
      Act Error (Conn P K) (Flow ExecuteState (Bool × List Callback))) := by
  unfold lowlevelExecuteRound
  split
  · exact keeps_pure _
  · split
    · exact (keeps_lift _).bind fun _ => (callHandler_mute _ _ _).bind fun _ => keeps_pure _
    · exact (keeps_lift _).bind fun _ => keeps_pure _
    · exact (keeps_lift _).bind fun _ => (keeps_lift _).bind fun _ =>
        (callHandler_mute _ _ _).bind fun _ => keeps_pure _
    · exact (keeps_lift _).bind fun _ => (callHandler_mute _ _ _).bind fun _ =>
        finishExchange_mute.bind fun _ => keeps_pure _
    · exact (keeps_lift _).bind fun _ => finishExchange_mute.bind fun _ => keeps_pure _
    · exact (keeps_lift _).bind fun _ => keeps_fail _
    · exact keeps_fail _

theorem lowlevelExecuteRound_still (handler : Handler) (s : ExecuteState) (m : RawMessage) :
    Keeps Still (lowlevelExecuteRound handler s m :
      Act Error (Conn P K) (Flow ExecuteState (Bool × List Callback))) :=
  mute_still (lowlevelExecuteRound_mute handler s m)

/-- A request of its own, written, sent and answered. -/
theorem request_unheard (fs : List Frontend)
    {body : β → RawMessage → Act Error (Conn P K) (Flow β α)}
    (hbody : ∀ b m, Keeps Mute (body b m)) (b : β) : Keeps Unheard (do
      setWriteBuffer fs
      beginExchange
      send
      readMessages body b : Act Error (Conn P K) α) :=
  (mute_unheard (setWriteBuffer_mute fs)).bind fun _ => (mute_unheard beginExchange_mute).bind
    fun _ => send_unheard.bind fun _ => readMessages_unheard hbody b

theorem lowlevelFlush_unheard : Keeps Unheard (lowlevelFlush : Act Error (Conn P K) Unit) :=
  (mute_unheard ensureUsable_mute).bind fun _ => (mute_unheard (setWriteBuffer_mute _)).bind
    fun _ => (mute_unheard beginExchange_mute).bind fun _ => send_unheard.bind fun _ =>
      mute_unheard finishExchange_mute

theorem lowlevelBindRound_mute (u : Unit) (m : RawMessage) :
    Keeps Mute (lowlevelBindRound u m : Act Error (Conn P K) (Flow Unit Unit)) := by
  unfold lowlevelBindRound
  split
  · exact keeps_pure _
  · split
    · exact (keeps_lift _).bind fun _ => finishExchange_mute.bind fun _ => keeps_pure _
    · exact (keeps_lift _).bind fun _ => keeps_fail _
    · exact keeps_fail _

theorem lowlevelBind_unheard (portal statementName : String) (params : Params) :
    Keeps Unheard (lowlevelBind portal statementName params : Act Error (Conn P K) Unit) :=
  guarded_unheard ((mute_unheard (setWriteBuffer_mute _)).bind fun _ =>
    (keeps_ofExcept _).bind fun _ => request_unheard _ lowlevelBindRound_mute ())

theorem lowlevelExecuteInner_unheard (portal : String) (maxRows : Nat) (handler : Handler) :
    Keeps Unheard (lowlevelExecuteInner portal maxRows handler :
      Act Error (Conn P K) (Bool × List Callback)) :=
  request_unheard _ (lowlevelExecuteRound_mute handler) _

theorem lowlevelExecute_unheard (portal : String) (maxRows : Nat) (handler : Handler) :
    Keeps Unheard (lowlevelExecute portal maxRows handler :
      Act Error (Conn P K) (Bool × List Callback)) :=
  guarded_unheard (lowlevelExecuteInner_unheard portal maxRows handler)

theorem lowlevelClosePortalRound_mute (u : Unit) (m : RawMessage) :
    Keeps Mute (lowlevelClosePortalRound u m : Act Error (Conn P K) (Flow Unit Unit)) := by
  unfold lowlevelClosePortalRound
  split
  · exact keeps_pure _
  · split
    · exact (keeps_lift _).bind fun _ => finishExchange_mute.bind fun _ => keeps_pure _
    · exact (keeps_lift _).bind fun _ => keeps_fail _
    · exact keeps_fail _

theorem lowlevelClosePortalRound_still (u : Unit) (m : RawMessage) :
    Keeps Still (lowlevelClosePortalRound u m : Act Error (Conn P K) (Flow Unit Unit)) :=
  mute_still (lowlevelClosePortalRound_mute u m)

theorem lowlevelClosePortal_unheard (portal : String) :
    Keeps Unheard (lowlevelClosePortal portal : Act Error (Conn P K) Unit) :=
  guarded_unheard (request_unheard _ lowlevelClosePortalRound_mute ())

omit [Driver K] in
/-- A closure over a portal keeps what its fetches keep, dropped on the way or not. -/
theorem runPortal_keeps {R : Conn P K → Conn P K → Prop} [Std.Refl R] [IsTrans (Conn P K) R]
    {fetch : Nat → Handler → Act Error (Conn P K) (Bool × List Callback)}
    (hfetch : ∀ cut maxRows handler, Keeps R (withCut cut (fetch maxRows handler)))
    (f : PortalProg) : Keeps R (runPortal fetch f) := by
  induction f with
  | ret result => exact keeps_ofExcept _
  | exec cut maxRows handler next ih =>
    refine Keeps.bind ⟨fun c => ?_⟩ ih
    have h := (hfetch cut maxRows handler).rel c
    unfold droppable
    generalize withCut cut (fetch maxRows handler) c = r at h ⊢
    rcases r with ⟨_ | _ | _, c'⟩
    · exact h
    · exact h
    · dsimp only
      split <;> exact h
  | suspend => exact keeps_halt

end Operations

end Conn

end ZeroPostgres
