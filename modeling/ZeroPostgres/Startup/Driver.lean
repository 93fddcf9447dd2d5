import ZeroPostgres.Lib.ReadLoop
import ZeroPostgres.Startup.Secrecy

/-!
# Opening a connection on a stream

The loop of `Conn::new_with_stream`, `src/src/sync/conn.rs:73–127`, with the streams of
`src/src/sync/stream.rs`: it drives the connection machine over TCP, TLS or a Unix socket, and a
TCP stream becomes a TLS stream on the way. The other end is not trusted, it may answer anything.
`drive_meets` is the invariant rule of the loop, `drive_rounds` says that its fuel suffices, and
`establish_require` that what a machine that requires TLS sends is sent under TLS.
-/

namespace ZeroPostgres

/-- What carries a connection, `src/src/sync/stream.rs:9–15`; the address of a TCP peer is a
loopback address or not. -/
inductive Transport where
  | tcp (loopback : Bool)
  | tls (loopback : Bool)
  | unix
deriving DecidableEq, Repr

namespace Transport

/-- `is_tcp_loopback`, `src/src/sync/stream.rs:122–140`. -/
def isTcpLoopback : Transport → Bool
  | tcp loopback | tls loopback => loopback
  | unix => false

/-- The stream is encrypted. -/
def isTls : Transport → Bool
  | tls _ => true
  | _ => false

end Transport

/-- The cargo feature that brings TLS to a client, and whether it is on. -/
structure TlsFeature where
  name : String
  enabled : Bool

/-- The other end of a stream: the byte that answers a request for TLS, the outcome of the
handshake, the messages it sends outside of TLS and under it, and how a read ends when there are no
more, with an error or never. It may refuse any of the writes. -/
structure Remote where
  response : Except Error UInt8
  handshake : Except Error Unit
  plain : List RawMessage
  secured : List RawMessage
  ending : Option Error
  refuses : Nat → Option Error

/-- A stream from the time it is connected; `written` records what was written over what. -/
structure Line where
  remote : Remote
  transport : Transport
  inbound : List RawMessage
  written : List (Transport × StartupMessage)

namespace Line

/-- A stream just connected. -/
def new (transport : Transport) (remote : Remote) : Line :=
  ⟨remote, transport, remote.plain, []⟩

/-- `write_all` and `flush`, `src/src/sync/stream.rs:101–119`. A write that fails may have gone
out. -/
def writeAll (buffer : List StartupMessage) : Act Error Line Unit := fun l =>
  let l' := { l with written := l.written ++ buffer.map fun message => (l.transport, message) }
  match l.remote.refuses l.written.length with
  | some e => (.err e, l')
  | none => (.ok (), l')

/-- `read_u8`, `src/src/sync/stream.rs:57–70`. -/
def readU8 : Act Error Line UInt8 := fun l =>
  match l.remote.response with
  | .ok response => (.ok response, l)
  | .error e => (.err e, l)

/-- `read_message`, `src/src/sync/stream.rs:73–89`. -/
def readMessage : Act Error Line RawMessage := fun l =>
  match l.inbound with
  | msg :: inbound => (.ok msg, { l with inbound })
  | [] =>
    match l.remote.ending with
    | some e => (.err e, l)
    | none => (.halt, l)

/-- `upgrade_to_tls`, `src/src/sync/stream.rs:31–55`. What was received before the handshake and
not read is gone with the reader that held it. -/
def upgradeToTls (feature : TlsFeature) : Act Error Line Unit := fun l =>
  if feature.enabled then
    match l.transport with
    | .tcp loopback =>
      match l.remote.handshake with
      | .ok () => (.ok (), { l with transport := .tls loopback, inbound := l.remote.secured })
      | .error e => (.err e, l)
    | .tls _ => (.err (.invalidUsage "Stream is already TLS"), l)
    | .unix => (.err (.invalidUsage "Cannot upgrade Unix socket to TLS"), l)
  else (.err (.unsupported ("TLS requested but " ++ feature.name ++ " feature not enabled")), l)

/-- An arm of the loop, `src/src/sync/conn.rs:80–121`: what the driver does for an action, and what
the machine then has. -/
def serve (feature : TlsFeature) (buffer : List StartupMessage) : Action → Act Error Line Feed
  | .writeAndReadByte => do
    writeAll buffer
    let response ← readU8
    return .byte response
  | .readMessage | .handleAsyncMessageAndReadMessage _ => do
    let msg ← readMessage
    return .message msg
  | .write => do
    writeAll buffer
    return .nothing
  | .writeAndReadMessage => do
    writeAll buffer
    let msg ← readMessage
    return .message msg
  | .tlsHandshake => do
    upgradeToTls feature
    return .nothing
  | .error _ => Act.fail (.libraryBug "unexpected server error during connection startup")
  | .finished => return .nothing

/-- What serving an action does to a stream. -/
structure Served (feature : TlsFeature) (buffer : List StartupMessage) (action : Action) (l : Line)
    (o : Outcome Error Feed) (l' : Line) : Prop where
  remote : l'.remote = l.remote
  written : l'.written =
    l.written ++ if action.writes then buffer.map fun message => (l.transport, message) else []
  transport : l'.transport = l.transport ∧ l'.inbound <:+ l.inbound ∨
    action = .tlsHandshake ∧ l'.transport.isTls = true ∧ l.transport ≠ .unix ∧
      l'.inbound = l.remote.secured
  returned : ∀ fed, o = .ok fed → action ≠ .finished →
    fed.serves (some action) = true ∧ (action = .tlsHandshake → l'.transport.isTls = true) ∧
      ∀ msg, fed = .message msg → l.inbound = msg :: l'.inbound

variable {feature : TlsFeature} {l : Line}

theorem writeAll_meets (buffer : List StartupMessage) :
    Act.Meets (writeAll buffer) l fun _ l' =>
      l' = { l with written := l.written ++ buffer.map fun message => (l.transport, message) } := by
  unfold Act.Meets writeAll
  cases l.remote.refuses l.written.length <;> rfl

theorem readMessage_meets : Act.Meets readMessage l fun o l' =>
    ∃ inbound, l' = { l with inbound } ∧ inbound <:+ l.inbound ∧
      ∀ msg, o = .ok msg → l.inbound = msg :: inbound := by
  obtain ⟨remote, transport, _ | ⟨msg, inbound⟩, written⟩ := l
  · refine ⟨[], ?_, List.suffix_rfl, ?_⟩
    · cases hend : remote.ending <;> simp [readMessage, hend]
    · intro msg h
      cases hend : remote.ending <;> simp [readMessage, hend] at h
  · refine ⟨inbound, rfl, List.suffix_cons _ _, ?_⟩
    intro msg' h
    cases h
    rfl

theorem upgradeToTls_meets : Act.Meets (upgradeToTls feature) l fun o l' =>
    l' = l ∧ o.isOk = false ∨
      l.transport ≠ .unix ∧
        ∃ loopback, l' = { l with transport := .tls loopback, inbound := l.remote.secured } := by
  unfold Act.Meets upgradeToTls
  split
  · split
    · next loopback htransport =>
      split
      · exact .inr ⟨by simp [htransport], loopback, rfl⟩
      · exact .inl ⟨rfl, rfl⟩
    · exact .inl ⟨rfl, rfl⟩
    · exact .inl ⟨rfl, rfl⟩
  · exact .inl ⟨rfl, rfl⟩

section Serving

variable {buffer : List StartupMessage} {action : Action}
  {written : List (Transport × StartupMessage)}

/-- An arm of the loop ends with a failure. -/
theorem Served.failed {o : Outcome Error Feed} (ho : o.isOk = false)
    (hwritten : written = l.written ++
      if action.writes then buffer.map fun message => (l.transport, message) else []) :
    Served feature buffer action l o { l with written } := by
  refine ⟨rfl, hwritten, .inl ⟨rfl, List.suffix_rfl⟩, ?_⟩
  intro fed h
  rw [h] at ho
  cases ho

/-- An arm of the loop ends and gives the machine no message. -/
theorem Served.ok {fed : Feed} (hserves : action ≠ .finished → fed.serves (some action) = true)
    (hplain : action ≠ .tlsHandshake) (hfed : fed.isMessage = false)
    (hwritten : written = l.written ++
      if action.writes then buffer.map fun message => (l.transport, message) else []) :
    Served feature buffer action l (.ok fed) { l with written } := by
  refine ⟨rfl, hwritten, .inl ⟨rfl, List.suffix_rfl⟩, ?_⟩
  intro fed' h hfinished
  cases h
  refine ⟨hserves hfinished, fun h => absurd h hplain, ?_⟩
  rintro msg rfl
  cases hfed

/-- An arm of the loop ends with a message read for the machine. -/
theorem readMessage_serves (hserves : ∀ msg, (Feed.message msg).serves action = true)
    (hplain : action ≠ .tlsHandshake)
    (hwritten : written = l.written ++
      if action.writes then buffer.map fun message => (l.transport, message) else []) :
    Act.Meets (readMessage >>= fun msg => pure (Feed.message msg)) { l with written }
      (Served feature buffer action l) := by
  rw [Act.meets_bind]
  refine readMessage_meets.mono fun o l' h => ?_
  obtain ⟨inbound, rfl, hsuffix, hmsg⟩ := h
  cases o with
  | ok msg =>
    refine ⟨rfl, hwritten, .inl ⟨rfl, hsuffix⟩, ?_⟩
    intro fed h _
    cases h
    refine ⟨hserves msg, fun h => absurd h hplain, ?_⟩
    intro msg' h
    cases h
    exact hmsg msg rfl
  | err e => exact ⟨rfl, hwritten, .inl ⟨rfl, hsuffix⟩, fun fed h => by cases h⟩
  | halt => exact ⟨rfl, hwritten, .inl ⟨rfl, hsuffix⟩, fun fed h => by cases h⟩

theorem serve_meets (feature : TlsFeature) (buffer : List StartupMessage) (action : Action)
    (l : Line) : Act.Meets (serve feature buffer action) l (Served feature buffer action l) := by
  have hnone (h : action.writes = false) : l.written = l.written ++
      if action.writes then buffer.map fun message => (l.transport, message) else [] := by
    simp [h]
  cases action with
  | writeAndReadByte =>
    unfold serve
    rw [Act.meets_bind]
    refine (writeAll_meets buffer).mono fun o l' h => ?_
    subst h
    cases o with
    | ok _ =>
      dsimp only
      rw [Act.meets_bind]
      unfold Act.Meets readU8
      dsimp only
      cases l.remote.response with
      | ok response => exact .ok (fun _ => rfl) (by simp) rfl rfl
      | error e => exact .failed rfl rfl
    | err e => exact .failed rfl rfl
    | halt => exact .failed rfl rfl
  | readMessage => exact readMessage_serves (fun _ => rfl) (by simp) (hnone rfl)
  | handleAsyncMessageAndReadMessage note =>
    exact readMessage_serves (fun _ => rfl) (by simp) (hnone rfl)
  | write =>
    unfold serve
    rw [Act.meets_bind]
    refine (writeAll_meets buffer).mono fun o l' h => ?_
    subst h
    cases o with
    | ok _ => exact .ok (fun _ => rfl) (by simp) rfl rfl
    | err e => exact .failed rfl rfl
    | halt => exact .failed rfl rfl
  | writeAndReadMessage =>
    unfold serve
    rw [Act.meets_bind]
    refine (writeAll_meets buffer).mono fun o l' h => ?_
    subst h
    cases o with
    | ok _ => exact readMessage_serves (fun _ => rfl) (by simp) rfl
    | err e => exact .failed rfl rfl
    | halt => exact .failed rfl rfl
  | tlsHandshake =>
    unfold serve
    rw [Act.meets_bind]
    refine upgradeToTls_meets.mono fun o l' h => ?_
    rcases h with ⟨rfl, ho⟩ | ⟨hunix, loopback, rfl⟩
    · cases o with
      | ok _ => cases ho
      | err e => exact .failed rfl (hnone rfl)
      | halt => exact .failed rfl (hnone rfl)
    · have htls : (Transport.tls loopback).isTls = true := rfl
      cases o with
      | ok _ =>
        refine ⟨rfl, hnone rfl, .inr ⟨rfl, rfl, hunix, rfl⟩, ?_⟩
        intro fed h _
        cases h
        exact ⟨rfl, fun _ => rfl, fun msg h => by cases h⟩
      | err e => exact ⟨rfl, hnone rfl, .inr ⟨rfl, rfl, hunix, rfl⟩, fun fed h => by cases h⟩
      | halt => exact ⟨rfl, hnone rfl, .inr ⟨rfl, rfl, hunix, rfl⟩, fun fed h => by cases h⟩
  | error e => exact .failed rfl (hnone rfl)
  | finished => exact .ok (fun h => absurd rfl h) (by simp) rfl (hnone rfl)

end Serving

/-- What was written on the stream was written under TLS, but for the request for it. -/
def Private (l : Line) : Prop := ∀ w ∈ l.written, w.1.isTls = true ∨ w.2 = .sslRequest

end Line

/-! ### The loop -/

/-- The machine that opens a connection, and its stream. -/
structure Opening where
  startup : Startup
  line : Line

namespace Opening

open ConnectionStateMachine

/-- `state_machine.step(&mut buffer_set)?`, once the machine has what the last action asked for. -/
def stepMachine (env : StartupEnv) (fed : Feed) : Act Error Opening Action := fun s =>
  match step env (s.startup.give fed) with
  | (.ok action, (machine, buffers)) =>
    (.ok action, { s with startup :=
      ⟨machine, buffers, s.startup.taken ++ [⟨fed, action, buffers.writeBuffer⟩]⟩ })
  | (.err e, _) => (.err e, s)
  | (.halt, _) => (.halt, s)

/-- Do I/O on the stream. -/
def io {α : Type} (x : Act Error Line α) : Act Error Opening α :=
  Act.zoom Opening.line (fun s line => { s with line }) x

/-- A round of the loop, `src/src/sync/conn.rs:78–123`. -/
def round (env : StartupEnv) (feature : TlsFeature) (fed : Feed) :
    Act Error Opening (Flow Feed Unit) := do
  let action ← stepMachine env fed
  if action = .finished then return .stop ()
  else do
    let s ← Act.get
    let fed ← io (Line.serve feature s.startup.buffers.writeBuffer action)
    return .next fed

/-- The loop. -/
def drive (env : StartupEnv) (feature : TlsFeature) : Nat → Feed → Act Error Opening Unit
  | 0, _ => Act.halt
  | fuel + 1, fed => do
    match ← round env feature fed with
    | .next fed => drive env feature fuel fed
    | .stop () => return ()

/-- What a round does: the machine fails, finishes, or takes a turn whose action is served. -/
inductive Rounded (env : StartupEnv) (feature : TlsFeature) (fed : Feed) (s : Opening) :
    Outcome Error (Flow Feed Unit) → Opening → Prop where
  | failed {o} : o.isOk = false → Rounded env feature fed s o s
  | finished {startup written} : Startup.Turned env s.startup fed startup .finished written →
      Rounded env feature fed s (.ok (.stop ())) { s with startup }
  | served {startup action written o line} :
      Startup.Turned env s.startup fed startup action written → action ≠ .finished →
      Line.Served feature startup.buffers.writeBuffer action s.line o line →
      Rounded env feature fed s (o.bind fun fed => .ok (.next fed)) ⟨startup, line⟩

variable {env : StartupEnv} {feature : TlsFeature} {fed : Feed} {s : Opening}

theorem stepMachine_meets (hserves : fed.serves s.startup.last = true) :
    Act.Meets (stepMachine env fed) s fun o s' => o.isOk = false ∧ s' = s ∨
      ∃ action written, o = .ok action ∧ s'.line = s.line ∧
        Startup.Turned env s.startup fed s'.startup action written := by
  unfold Act.Meets stepMachine
  rcases hstep : step env (s.startup.give fed) with ⟨action | e | _, machine, buffers⟩
  · obtain ⟨written, htransition, hbuffers⟩ := step_transition hstep
    exact .inr ⟨action, written, rfl, rfl, htransition, hbuffers, rfl, hserves⟩
  · exact .inl ⟨rfl, rfl⟩
  · exact .inl ⟨rfl, rfl⟩

theorem round_meets (hserves : fed.serves s.startup.last = true) :
    Act.Meets (round env feature fed) s (Rounded env feature fed s) := by
  unfold round
  rw [Act.meets_bind]
  refine (stepMachine_meets hserves).mono fun o s' h => ?_
  rcases h with ⟨ho, rfl⟩ | ⟨action, written, rfl, hline, hturned⟩
  · cases o with
    | ok action => cases ho
    | err e => exact .failed rfl
    | halt => exact .failed rfl
  · obtain ⟨startup, line⟩ := s'
    obtain rfl : line = s.line := hline
    dsimp only at hturned ⊢
    by_cases hfinished : action = .finished
    · subst hfinished
      rw [if_pos rfl]
      exact .finished hturned
    · rw [if_neg hfinished, Act.meets_bind, Act.meets_get]
      dsimp only
      rw [Act.meets_bind]
      have hserved := Line.serve_meets feature startup.buffers.writeBuffer action s.line
      unfold Act.Meets io Act.zoom
      unfold Act.Meets at hserved
      dsimp only
      generalize Line.serve feature startup.buffers.writeBuffer action s.line = r at hserved
      obtain ⟨o, line⟩ := r
      have hround := Rounded.served hturned hfinished hserved
      cases o with
      | ok fed => exact hround
      | err e => exact hround
      | halt => exact hround

/-- Where the loop goes after a round. -/
def After (I : Feed → Opening → Prop) (Q : Outcome Error Unit → Opening → Prop) :
    Outcome Error (Flow Feed Unit) → Opening → Prop
  | .ok (.next fed), s => I fed s
  | .ok (.stop ()), s => Q (.ok ()) s
  | .err e, s => Q (.err e) s
  | .halt, s => Q .halt s

/-- Invariant rule: what each round re-establishes or turns into the postcondition, the loop turns
into the postcondition. -/
theorem drive_meets {I : Feed → Opening → Prop} {Q : Outcome Error Unit → Opening → Prop}
    (hdry : ∀ fed s, I fed s → Q .halt s)
    (hround : ∀ fed s, I fed s → Act.Meets (round env feature fed) s (After I Q)) (fuel : Nat) :
    ∀ fed s, I fed s → Act.Meets (drive env feature fuel fed) s Q := by
  induction fuel with
  | zero => exact hdry
  | succ fuel ih =>
    intro fed s hI
    unfold drive
    rw [Act.meets_bind]
    refine (hround fed s hI).mono fun o s' h => ?_
    cases o with
    | ok flow =>
      cases flow with
      | next fed => exact ih fed s' h
      | stop value => exact h
    | err e => exact h
    | halt => exact h

/-- Rounds that suffice on a stream: a message leads to two at most, and before the first message
there are four. -/
def rounds (l : Line) : Nat := 2 * (l.inbound.length + l.remote.secured.length) + 5

/-- `new_with_stream` until the machine has finished, `src/src/sync/conn.rs:73–123`; the machine and
the buffers are returned as they are then. -/
def establish (env : StartupEnv) (feature : TlsFeature) (options : Opts)
    (buffers : StartupBuffers) : Act Error Line Startup := fun l =>
  let r := drive env feature (rounds l) .nothing ⟨.new options buffers, l⟩
  (r.1.bind fun _ => .ok r.2.startup, r.2.line)

/-! ### The fuel -/

/-- Turns that a machine in this state takes at most before it looks at a message. -/
def weight : ConnectionState → Nat
  | .initial => 4
  | .waitingSslResponse => 3
  | .waitingTlsHandshake => 2
  | .waitingAuthRead | .saslInProgressRead | .waitingAuthResultRead => 1
  | _ => 0

/-- The machine may yet ask for the handshake. -/
def negotiates : ConnectionState → Bool
  | .initial | .waitingSslResponse => true
  | _ => false

/-- A turn that does not look at a message takes the machine nearer to one. -/
theorem weight_transition {m m' : ConnectionStateMachine} {msg : RawMessage} {action : Action}
    {written : Option StartupMessage} (h : Transition env m msg action m' written) :
    weight m'.state + 1 ≤ weight m.state + (if m.state.looks then 2 else 0) ∧
      (negotiates m'.state = true → negotiates m.state = true) ∧
      (action = .tlsHandshake → negotiates m.state = true ∧ negotiates m'.state = false) := by
  cases h with
  | requestSsl hs _ _ => simp [hs, weight, negotiates]
  | begin hbegin =>
    cases hbegin with
    | plain hs _ _ => simp [hs, weight, negotiates, ConnectionState.looks]
    | refused hs _ _ => simp [hs, weight, negotiates, ConnectionState.looks]
    | secured hs => simp [hs, weight, negotiates, ConnectionState.looks]
  | handshake hs _ => simp [hs, weight, negotiates, ConnectionState.looks]
  | read hs =>
    cases hm : m.state <;> rw [hm] at hs <;> cases hs <;>
      simp [weight, negotiates, ConnectionState.looks]
  | async hs _ _ => simp [hs]
  | trusted hs _ => rcases hs with hs | hs <;> simp [hs, weight, negotiates, ConnectionState.looks]
  | _ hs => simp [hs, weight, negotiates, ConnectionState.looks]

/-- The messages that may yet be read. -/
def remaining (s : Opening) : Nat :=
  s.line.inbound.length +
    if negotiates s.startup.machine.state then s.line.remote.secured.length else 0

/-- A bound on the rounds that are left. -/
def cost (fed : Feed) (s : Opening) : Nat :=
  weight s.startup.machine.state + 2 * remaining s + (if fed.isMessage then 2 else 0) + 1

/-- A round costs one. -/
theorem cost_lt {fed' : Feed} {startup : Startup} {action : Action}
    {written : Option StartupMessage} {line : Line} (hfits : s.startup.Fits)
    (hturned : Startup.Turned env s.startup fed startup action written)
    (hfinished : action ≠ .finished)
    (hserved : Line.Served feature startup.buffers.writeBuffer action s.line (.ok fed') line) :
    cost fed' ⟨startup, line⟩ < cost fed s := by
  obtain ⟨hserves', -, hread⟩ := hserved.returned fed' rfl hfinished
  obtain ⟨hlooks, -⟩ := Startup.served hfits hturned.serves
  obtain ⟨hlooks', -⟩ := Startup.served (hturned.fits hfits) (by rw [hturned.last]; exact hserves')
  obtain ⟨hweight, hback, hshake⟩ := weight_transition hturned.transition
  rw [Startup.give_state] at hweight hback hshake
  unfold cost remaining
  rw [hserved.remote, hlooks, hlooks']
  have hzero : startup.machine.state.looks = true →
      weight startup.machine.state = 0 ∧ negotiates startup.machine.state = false := by
    cases startup.machine.state <;> simp [weight, negotiates, ConnectionState.looks]
  rcases hserved.transport with ⟨-, hsuffix⟩ | ⟨rfl, -, -, hin⟩
  · have hle := hsuffix.length_le
    cases hl : startup.machine.state.looks with
    | true =>
      obtain ⟨msg, rfl⟩ : ∃ msg, fed' = .message msg := by
        cases fed' with
        | message msg => exact ⟨msg, rfl⟩
        | nothing => exact absurd (hlooks'.trans hl) (by simp [Feed.isMessage])
        | byte response => exact absurd (hlooks'.trans hl) (by simp [Feed.isMessage])
      rw [hread msg rfl, List.length_cons]
      obtain ⟨hw, hn⟩ := hzero hl
      rw [hw] at hweight ⊢
      simp only [hn, Bool.false_eq_true, if_false, if_true]
      omega
    | false =>
      cases hn : negotiates startup.machine.state with
      | true =>
        simp only [hback hn, Bool.false_eq_true, if_false, if_true]
        omega
      | false =>
        simp only [Bool.false_eq_true, if_false]
        omega
  · obtain ⟨hn, hn'⟩ := hshake rfl
    have hl : startup.machine.state.looks = false := by
      rw [← hlooks']
      cases fed' with
      | nothing => rfl
      | byte response => cases hserves'
      | message msg => cases hserves'
    simp only [hn, hn', hl, hin, Bool.false_eq_true, if_false, if_true]
    omega

/-- What fuel there is beyond the cost makes no difference. -/
theorem drive_congr (env : StartupEnv) (feature : TlsFeature) {fuel fuel' : Nat} {fed : Feed}
    {s : Opening} (hfits : s.startup.Fits) (hserves : fed.serves s.startup.last = true)
    (h : cost fed s ≤ fuel) (h' : cost fed s ≤ fuel') :
    drive env feature fuel fed s = drive env feature fuel' fed s := by
  induction fuel generalizing fuel' fed s with
  | zero => exact absurd h (by simp [cost])
  | succ fuel ih =>
    obtain ⟨fuel', rfl⟩ : ∃ n, fuel' = n + 1 := ⟨fuel' - 1, by unfold cost at h'; omega⟩
    have hround : Act.Meets (round env feature fed) s (Rounded env feature fed s) :=
      round_meets hserves
    unfold Act.Meets at hround
    unfold drive
    rw [Act.bind_run, Act.bind_run]
    generalize round env feature fed s = r at hround ⊢
    obtain ⟨o, s'⟩ := r
    cases hround with
    | @failed o ho =>
      cases o with
      | ok flow => cases ho
      | err e => rfl
      | halt => rfl
    | finished hturned => rfl
    | @served startup action written o line hturned hfinished hserved =>
      cases o with
      | ok fed' =>
        obtain ⟨hserves', -, -⟩ := hserved.returned fed' rfl hfinished
        have hlt := cost_lt hfits hturned hfinished hserved
        exact ih (hturned.fits hfits) (by rw [hturned.last]; exact hserves') (by omega) (by omega)
      | err e => rfl
      | halt => rfl

/-- The rounds that the loop is given suffice. -/
theorem drive_rounds (env : StartupEnv) (feature : TlsFeature) (options : Opts)
    (buffers : StartupBuffers) (l : Line) {fuel : Nat} (h : rounds l ≤ fuel) :
    drive env feature fuel .nothing ⟨.new options buffers, l⟩ =
      drive env feature (rounds l) .nothing ⟨.new options buffers, l⟩ := by
  have hcost : cost .nothing ⟨.new options buffers, l⟩ = rounds l := by
    simp only [cost, rounds, remaining, Startup.new, ConnectionStateMachine.new, weight,
      negotiates, Feed.isMessage, Bool.false_eq_true, if_true, if_false]
    omega
  exact drive_congr env feature rfl rfl (hcost.trans_le h) hcost.le

/-! ### Invariants -/

/-- Invariant rule: what the turns that are served preserve, a turn that finishes or a failure turns
into the postcondition. -/
theorem establish_meets {I : Feed → Opening → Prop} {Q : Outcome Error Startup → Line → Prop}
    {options : Opts} {buffers : StartupBuffers} {l : Line}
    (hnew : I .nothing ⟨.new options buffers, l⟩)
    (hserves : ∀ fed s, I fed s → fed.serves s.startup.last = true)
    (hfailed : ∀ fed s, I fed s → ∀ o, o.isOk = false → Q o s.line)
    (hfinished : ∀ fed s startup written, I fed s →
      Startup.Turned env s.startup fed startup .finished written → Q (.ok startup) s.line)
    (hserved : ∀ fed s startup action written o line, I fed s →
      Startup.Turned env s.startup fed startup action written → action ≠ .finished →
      Line.Served feature startup.buffers.writeBuffer action s.line o line →
      (∀ fed', o = .ok fed' → I fed' ⟨startup, line⟩) ∧
        (o.isOk = false → ∀ o', o'.isOk = false → Q o' line)) :
    Act.Meets (establish env feature options buffers) l Q := by
  have hdrive : Act.Meets (drive env feature (rounds l) .nothing) ⟨.new options buffers, l⟩
      fun o s => Q (o.bind fun _ => .ok s.startup) s.line := by
    refine drive_meets (I := I) (fun fed s h => hfailed fed s h .halt rfl) ?_ (rounds l) .nothing _
      hnew
    intro fed s h
    refine (round_meets (hserves fed s h)).mono fun o s' hround => ?_
    cases hround with
    | failed ho =>
      cases o with
      | ok flow => cases ho
      | err e => exact hfailed fed s h (.err e) rfl
      | halt => exact hfailed fed s h .halt rfl
    | finished hturned => exact hfinished fed s _ _ h hturned
    | @served startup action written o line hturned hne hline =>
      obtain ⟨hnext, hlost⟩ := hserved fed s startup action written o line h hturned hne hline
      cases o with
      | ok fed' => exact hnext fed' rfl
      | err e => exact hlost rfl (.err e) rfl
      | halt => exact hlost rfl .halt rfl
  exact hdrive

/-! ### A machine that requires TLS -/

/-- The invariant of the loop. -/
structure Guarded (fed : Feed) (s : Opening) : Prop where
  serves : fed.serves s.startup.last = true
  mode : s.startup.machine.options.sslMode = .require
  written : s.line.Private
  secured : s.startup.machine.state = .initial ∨
    s.startup.machine.state = .waitingSslResponse ∨ s.line.transport.isTls = true

section Guarded

variable {fed' : Feed} {startup : Startup} {action : Action} {written : Option StartupMessage}
  {o : Outcome Error Feed} {line : Line}

/-- A turn of a machine that requires TLS asks for it, takes it up or is made under it. -/
theorem Guarded.turned (h : Guarded fed s)
    (hturned : Startup.Turned env s.startup fed startup action written) :
    startup.machine.options.sslMode = .require ∧
      (action = .writeAndReadByte ∧ written = some .sslRequest ∧
          startup.machine.state = .waitingSslResponse ∨
        action = .tlsHandshake ∨ s.line.transport.isTls = true) := by
  have hmode : (s.startup.give fed).1.options.sslMode = .require := by
    rw [Startup.give_options]
    exact h.mode
  obtain ⟨hoptions, hcases⟩ := Startup.transition_of_require hturned.transition hmode
  refine ⟨by rw [hoptions]; exact hmode, ?_⟩
  rw [Startup.give_state] at hcases
  rcases hcases with hrequest | ⟨haction, -, -⟩ | ⟨hinitial, hwaiting⟩
  · exact .inl hrequest
  · exact .inr (.inl haction)
  · exact .inr (.inr ((h.secured.resolve_left hinitial).resolve_left hwaiting))

theorem Guarded.line_private (h : Guarded fed s)
    (hturned : Startup.Turned env s.startup fed startup action written)
    (hserved : Line.Served feature startup.buffers.writeBuffer action s.line o line) :
    line.Private := by
  unfold Line.Private
  rw [hserved.written]
  intro w hw
  rcases List.mem_append.mp hw with hw | hw
  · exact h.written w hw
  rcases (h.turned hturned).2 with ⟨-, rfl, -⟩ | rfl | htls
  · rw [hturned.buffers] at hw
    split at hw
    · obtain rfl := List.mem_singleton.mp hw
      exact .inr rfl
    · cases hw
  · cases hw
  · split at hw
    · obtain ⟨message, -, rfl⟩ := List.mem_map.mp hw
      exact .inl htls
    · cases hw

theorem Guarded.next (h : Guarded fed s)
    (hturned : Startup.Turned env s.startup fed startup action written)
    (hfinished : action ≠ .finished)
    (hserved : Line.Served feature startup.buffers.writeBuffer action s.line (.ok fed') line) :
    Guarded fed' ⟨startup, line⟩ := by
  obtain ⟨hmode, hcases⟩ := h.turned hturned
  obtain ⟨hserves, htls, -⟩ := hserved.returned fed' rfl hfinished
  refine ⟨by rw [hturned.last]; exact hserves, hmode, h.line_private hturned hserved, ?_⟩
  rcases hcases with ⟨-, -, hstate⟩ | rfl | hsecured
  · exact .inr (.inl hstate)
  · exact .inr (.inr (htls rfl))
  · rcases hserved.transport with ⟨htransport, -⟩ | ⟨-, htransport, -⟩
    · exact .inr (.inr (by rw [htransport]; exact hsecured))
    · exact .inr (.inr htransport)

end Guarded

/-- A machine that requires TLS has it when it finishes, and writes under it what it writes but for
the request for it. -/
theorem establish_require {options : Opts} (hmode : options.sslMode = .require)
    (buffers : StartupBuffers) {l : Line} (hl : l.Private) :
    Act.Meets (establish env feature options buffers) l fun o l' =>
      l'.Private ∧ (o.isOk = true → l'.transport.isTls = true) := by
  have hnone {o : Outcome Error Startup} {l' : Line} (ho : o.isOk = false) :
      o.isOk = true → l'.transport.isTls = true := by
    intro h
    rw [ho] at h
    cases h
  refine establish_meets (I := Guarded) ⟨rfl, hmode, hl, .inl rfl⟩ (fun fed s h => h.serves)
    (fun fed s h o ho => ⟨h.written, hnone ho⟩) ?_ ?_
  · intro fed s startup written h hturned
    rcases (h.turned hturned).2 with ⟨haction, -⟩ | haction | htls
    · cases haction
    · cases haction
    · exact ⟨h.written, fun _ => htls⟩
  · intro fed s startup action written o line h hturned hfinished hserved
    refine ⟨?_, fun _ o' ho' => ⟨h.line_private hturned hserved, hnone ho'⟩⟩
    rintro fed' rfl
    exact h.next hturned hfinished hserved

/-- A Unix socket stays one. -/
theorem establish_unix (options : Opts) (buffers : StartupBuffers) {l : Line}
    (hl : l.transport = .unix) :
    Act.Meets (establish env feature options buffers) l fun _ l' => l'.transport = .unix := by
  refine establish_meets
    (I := fun fed s => fed.serves s.startup.last = true ∧ s.line.transport = .unix) ⟨rfl, hl⟩
    (fun fed s h => h.1) (fun fed s h o _ => h.2) (fun fed s startup written h _ => h.2) ?_
  intro fed s startup action written o line h hturned hfinished hserved
  have hline : line.transport = .unix := by
    rcases hserved.transport with ⟨htransport, -⟩ | ⟨-, -, hplain, -⟩
    · exact htransport.trans h.2
    · exact absurd h.2 hplain
  refine ⟨?_, fun _ o' _ => hline⟩
  rintro fed' rfl
  obtain ⟨hserves, -, -⟩ := hserved.returned fed' rfl hfinished
  exact ⟨by rw [hturned.last]; exact hserves, hline⟩

/-! ### A server that keeps to the protocol -/

/-- Behind a ReadyForQuery, which reports no block, a server sends nothing that was not asked for
but asynchronous messages. -/
def AwaitsRequests (ms : List RawMessage) : Prop :=
  ∀ body z late, ms = body ++ z :: late → z.type = .readyForQuery →
    ReadyForQuery.parse z.payload = .ok .idle ∧
      ∀ m ∈ late, m.isAsync = true ∧ m.wellFormed = true

theorem AwaitsRequests.suffix {ms ms' : List RawMessage} (h : AwaitsRequests ms) (hs : ms' <:+ ms) :
    AwaitsRequests ms' := by
  obtain ⟨before, rfl⟩ := hs
  rintro body z late rfl hz
  exact h (before ++ body) z late (List.append_assoc _ _ _).symm hz

/-- The invariant of the loop at such a server. -/
structure Awaiting (fed : Feed) (s : Opening) : Prop where
  serves : fed.serves s.startup.last = true
  fits : s.startup.Fits
  secured : AwaitsRequests s.line.remote.secured
  inbound : AwaitsRequests s.line.inbound
  last : ∀ msg, fed = .message msg → AwaitsRequests (msg :: s.line.inbound)

section Awaiting

variable {startup : Startup} {action : Action} {written : Option StartupMessage}

/-- The machine finishes on the ReadyForQuery. -/
theorem Awaiting.finished (h : Awaiting fed s)
    (hturned : Startup.Turned env s.startup fed startup .finished written) :
    startup.machine.transactionStatus = .idle ∧
      ∀ m ∈ s.line.inbound, m.isAsync = true ∧ m.wellFormed = true := by
  obtain ⟨hlooks, -⟩ := Startup.served h.fits hturned.serves
  have htransition := hturned.transition
  generalize hm : startup.machine = m' at htransition ⊢
  cases htransition with
  | ready hstate htype hparse =>
    rw [Startup.give_state] at hstate
    rw [hstate] at hlooks
    cases fed with
    | nothing => cases hlooks
    | byte response => cases hlooks
    | message msg =>
      obtain ⟨hidle, hlate⟩ := h.last msg rfl [] msg s.line.inbound rfl htype
      exact ⟨Outcome.ok.inj (hparse.symm.trans hidle), hlate⟩

theorem Awaiting.next {fed' : Feed} {line : Line} (h : Awaiting fed s)
    (hturned : Startup.Turned env s.startup fed startup action written)
    (hfinished : action ≠ .finished)
    (hserved : Line.Served feature startup.buffers.writeBuffer action s.line (.ok fed') line) :
    Awaiting fed' ⟨startup, line⟩ := by
  obtain ⟨hserves, -, hread⟩ := hserved.returned fed' rfl hfinished
  have hsecured : AwaitsRequests line.remote.secured := by
    rw [hserved.remote]
    exact h.secured
  refine ⟨by rw [hturned.last]; exact hserves, hturned.fits h.fits, hsecured, ?_, ?_⟩
  · rcases hserved.transport with ⟨-, hsuffix⟩ | ⟨-, -, -, hin⟩
    · exact h.inbound.suffix hsuffix
    · change AwaitsRequests line.inbound
      rw [hin]
      exact h.secured
  · intro msg hmsg
    change AwaitsRequests (msg :: line.inbound)
    rw [← hread msg hmsg]
    exact h.inbound

end Awaiting

/-- On the streams of such a server the machine ends outside of a block, and nothing is left that a
request would have to wait for. -/
theorem establish_awaitsRequests {options : Opts} {buffers : StartupBuffers} {l : Line}
    (hplain : AwaitsRequests l.inbound) (hsecured : AwaitsRequests l.remote.secured) :
    Act.Meets (establish env feature options buffers) l fun o l' => ∀ startup, o = .ok startup →
      startup.machine.transactionStatus = .idle ∧
        ∀ m ∈ l'.inbound, m.isAsync = true ∧ m.wellFormed = true := by
  refine establish_meets (I := Awaiting) ⟨rfl, rfl, hsecured, hplain, fun msg h => by cases h⟩
    (fun fed s h => h.serves) ?_ ?_ ?_
  · rintro fed s - o ho startup rfl
    cases ho
  · intro fed s startup written h hturned startup' heq
    cases heq
    exact h.finished hturned
  · intro fed s startup action written o line h hturned hfinished hserved
    refine ⟨?_, ?_⟩
    · rintro fed' rfl
      exact h.next hturned hfinished hserved
    · rintro - o' ho' startup' rfl
      cases ho'

end Opening

end ZeroPostgres
