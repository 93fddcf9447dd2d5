import ZeroPostgres.Startup.Driver
import ZeroPostgres.Startup.Transcript

/-!
# Streams opened with a conformant server

The loop of `new_with_stream` on a stream on which the other end says what `Startup/Transcript.lean`
allows: it returns the machine with what the server said recorded, and leaves on the stream what the
server sent behind ReadyForQuery. The rounds of the loop are followed with as much fuel as they
take; `drive_rounds` then says that the fuel of `establish` does as well.
-/

namespace ZeroPostgres

/-- What a conformant server says while a connection is opened. -/
structure Transcript (env : StartupEnv) (options : Opts) where
  ssl : List Feed
  auth : List RawMessage
  greeting : List RawMessage
  body : List RawMessage
  params : List (String × String)
  key : Option BackendKeyData
  status : TransactionStatus
  negotiates : Negotiates env options ssl
  authenticates : AuthExchange env options auth
  greets : Greets greeting params key
  body_eq : withoutNotices body = auth ++ greeting
  notices : ∀ msg ∈ body, msg.type = .noticeResponse → msg.wellFormed = true

namespace Line

/-- The transport of a stream and what is read on it once TLS has been negotiated, where it can
be. -/
def offers (feature : TlsFeature) (l : Line) : List Feed → Option (Transport × List RawMessage)
  | [.byte 83] =>
    match l.transport, l.remote.handshake with
    | .tcp loopback, .ok () =>
      if feature.enabled then some (.tls loopback, l.remote.secured) else none
    | _, _ => none
  | _ => some (l.transport, l.inbound)

/-- The other end takes every write. -/
def Willing (l : Line) : Prop := ∀ n, l.remote.refuses n = none

/-- Streams that differ in what was written on them. -/
structure Alike (l l' : Line) : Prop where
  remote : l'.remote = l.remote
  transport : l'.transport = l.transport
  inbound : l'.inbound = l.inbound

theorem Alike.trans {l l' l'' : Line} (h : Alike l l') (h' : Alike l' l'') : Alike l l'' :=
  ⟨h'.remote.trans h.remote, h'.transport.trans h.transport, h'.inbound.trans h.inbound⟩

theorem Alike.willing {l l' : Line} (h : Alike l l') (hl : l.Willing) : l'.Willing := by
  unfold Willing
  rw [h.remote]
  exact hl

theorem Willing.writeAll {l : Line} (h : l.Willing) (buffer : List StartupMessage) :
    ∃ l', Line.writeAll buffer l = (.ok (), l') ∧ l.Alike l' := by
  unfold Line.writeAll
  rw [h]
  exact ⟨_, rfl, rfl, rfl, rfl⟩

/-- The handshake that was agreed on leads to the stream that is offered. -/
theorem upgradeToTls_offers {feature : TlsFeature} {l : Line} {transport : Transport}
    {inbound : List RawMessage} (h : l.offers feature [.byte 83] = some (transport, inbound)) :
    upgradeToTls feature l = (.ok (), { l with transport, inbound }) := by
  unfold upgradeToTls
  cases htransport : l.transport with
  | tcp loopback =>
    cases hhandshake : l.remote.handshake with
    | ok shaken =>
      simp only [offers, htransport, hhandshake] at h
      split at h
      · next hfeature =>
        cases h
        rw [if_pos hfeature]
      · cases h
    | error e => simp [offers, htransport, hhandshake] at h
  | tls loopback => simp [offers, htransport] at h
  | unix => simp [offers, htransport] at h

end Line

/-- The other end of a stream negotiates TLS as in a transcript, and then sends some messages. -/
structure Transcript.SaidOn {env : StartupEnv} {options : Opts} (t : Transcript env options)
    (feature : TlsFeature) (l : Line) (transport : Transport) (inbound : List RawMessage) :
    Prop where
  willing : l.Willing
  response : ∀ response, t.ssl = [.byte response] → l.remote.response = .ok response
  offers : l.offers feature t.ssl = some (transport, inbound)

namespace Opening

open ConnectionStateMachine

variable {env : StartupEnv} {feature : TlsFeature} {fed : Feed} {s s' : Opening}
  {m m₁ m' : ConnectionStateMachine} {action : Action} {written : Option StartupMessage}

/-- The loop about to read a message. -/
def reading (env : StartupEnv) (feature : TlsFeature) (fuel : Nat) : Act Error Opening Unit :=
  io Line.readMessage >>= fun msg => drive env feature fuel (.message msg)

theorem reading_cons {msg : RawMessage} {rest : List RawMessage}
    (h : s.line.inbound = msg :: rest) (fuel : Nat) :
    reading env feature fuel s =
      drive env feature fuel (.message msg) { s with line := { s.line with inbound := rest } } := by
  unfold reading
  rw [Act.bind_run]
  unfold io Act.zoom Line.readMessage
  rw [h]

/-! ### Rounds -/

/-- A transition is a round of the loop that goes on to serve its action. -/
theorem drive_turn (feature : TlsFeature) (hfinished : action ≠ .finished)
    (h : Transition env (s.startup.give fed).1 (s.startup.give fed).2.loaded action m₁ written) :
    ∃ startup, startup.machine = m₁ ∧ ∀ fuel, drive env feature (fuel + 1) fed s =
      (io (Line.serve feature startup.buffers.writeBuffer action) >>= drive env feature fuel)
        { s with startup } := by
  have hstep : step env (s.startup.give fed) = _ := h.step
  let startup : Startup := ⟨m₁, (s.startup.give fed).2.after written, s.startup.taken ++
    [⟨fed, action, ((s.startup.give fed).2.after written).writeBuffer⟩]⟩
  have hmachine : stepMachine env fed s = (.ok action, { s with startup }) := by
    unfold stepMachine
    rw [hstep]
  have hround : round env feature fed s =
      (io (Line.serve feature startup.buffers.writeBuffer action) >>= fun fed => pure (.next fed))
        { s with startup } := by
    unfold round
    rw [Act.bind_run, hmachine]
    dsimp only
    rw [if_neg hfinished]
    rfl
  refine ⟨startup, rfl, fun fuel => ?_⟩
  rw [drive, Act.bind_run, hround, Act.bind_run, Act.bind_run]
  generalize io (Line.serve feature startup.buffers.writeBuffer action) { s with startup } = r
  obtain ⟨_ | _ | _, s'⟩ := r
  · rfl
  · rfl
  · rfl

/-- A round after which the loop reads. -/
theorem drive_reads (feature : TlsFeature) (fed : Feed) (hreads : readsMessage action = true)
    (h : Transition env (s.startup.give fed).1 (s.startup.give fed).2.loaded action m₁ none) :
    ∃ startup, startup.machine = m₁ ∧
      ∀ fuel, drive env feature (fuel + 1) fed s = reading env feature fuel { s with startup } := by
  have hfinished : action ≠ .finished := by
    rintro rfl
    cases hreads
  obtain ⟨startup, hmachine, hdrive⟩ := drive_turn feature hfinished h
  refine ⟨startup, hmachine, fun fuel => ?_⟩
  have hserve : Line.serve feature startup.buffers.writeBuffer action =
      Line.readMessage >>= fun msg => pure (.message msg) := by
    cases action <;> first | rfl | cases hreads
  rw [hdrive, hserve]
  unfold reading
  rw [Act.bind_run, Act.bind_run]
  unfold io Act.zoom
  dsimp only
  rw [Act.bind_run]
  generalize Line.readMessage s.line = r
  obtain ⟨_ | _ | _, l⟩ := r
  · rfl
  · rfl
  · rfl

/-- A round whose action is served without a failure. -/
theorem drive_served {fed' : Feed} {R : Line → Prop} (hfinished : action ≠ .finished)
    (h : Transition env (s.startup.give fed).1 (s.startup.give fed).2.loaded action m₁ written)
    (hserve : ∀ buffer, ∃ l, Line.serve feature buffer action s.line = (.ok fed', l) ∧ R l) :
    ∃ s₁ : Opening, s₁.startup.machine = m₁ ∧ R s₁.line ∧
      ∀ fuel, drive env feature (fuel + 1) fed s = drive env feature fuel fed' s₁ := by
  obtain ⟨startup, hmachine, hdrive⟩ := drive_turn feature hfinished h
  obtain ⟨l, hl, hR⟩ := hserve startup.buffers.writeBuffer
  refine ⟨⟨startup, l⟩, hmachine, hR, fun fuel => ?_⟩
  rw [hdrive, Act.bind_run]
  unfold io Act.zoom
  dsimp only
  rw [hl]

/-- A round that writes. -/
theorem drive_writes (feature : TlsFeature) (fed : Feed) (hwilling : s.line.Willing)
    (h : Transition env (s.startup.give fed).1 (s.startup.give fed).2.loaded .write m₁ written) :
    ∃ s₁ : Opening, s₁.startup.machine = m₁ ∧ s.line.Alike s₁.line ∧
      ∀ fuel, drive env feature (fuel + 1) fed s = drive env feature fuel .nothing s₁ := by
  refine drive_served (by simp) h fun buffer => ?_
  obtain ⟨l, hl, halike⟩ := hwilling.writeAll buffer
  refine ⟨l, ?_, halike⟩
  unfold Line.serve
  dsimp only
  rw [Act.bind_run, hl]
  rfl

/-- A round that asks for TLS and is answered. -/
theorem drive_requests (feature : TlsFeature) {response : UInt8} (hwilling : s.line.Willing)
    (hresponse : s.line.remote.response = .ok response)
    (h : Transition env (s.startup.give fed).1 (s.startup.give fed).2.loaded .writeAndReadByte m₁
      written) :
    ∃ s₁ : Opening, s₁.startup.machine = m₁ ∧ s.line.Alike s₁.line ∧
      ∀ fuel, drive env feature (fuel + 1) fed s = drive env feature fuel (.byte response) s₁ := by
  refine drive_served (by simp) h fun buffer => ?_
  obtain ⟨l, hl, halike⟩ := hwilling.writeAll buffer
  refine ⟨l, ?_, halike⟩
  have hread : Line.readU8 l = (.ok response, l) := by
    unfold Line.readU8
    rw [halike.remote, hresponse]
  unfold Line.serve
  dsimp only
  rw [Act.bind_run, hl]
  dsimp only
  rw [Act.bind_run, hread]
  rfl

/-- A round in which the handshake comes about. -/
theorem drive_shakes (feature : TlsFeature) (fed : Feed) {transport : Transport}
    {inbound : List RawMessage}
    (hoffers : s.line.offers feature [.byte 83] = some (transport, inbound))
    (h : Transition env (s.startup.give fed).1 (s.startup.give fed).2.loaded .tlsHandshake m₁
      written) :
    ∃ s₁ : Opening, s₁.startup.machine = m₁ ∧
      s₁.line = { s.line with transport, inbound } ∧
      ∀ fuel, drive env feature (fuel + 1) fed s = drive env feature fuel .nothing s₁ := by
  refine drive_served (R := fun l => l = { s.line with transport, inbound }) (by simp) h
    fun buffer => ⟨_, ?_, rfl⟩
  unfold Line.serve
  dsimp only
  rw [Act.bind_run, Line.upgradeToTls_offers hoffers]
  rfl

/-! ### What the loop reads -/

/-- The loop reads messages that the machine passes, whatever comes behind them. -/
theorem reading_passes (feature : TlsFeature) {msgs rest : List RawMessage}
    (h : Passes env m msgs m')
    (hm : s.startup.machine = m) (hwilling : s.line.Willing)
    (hinbound : s.line.inbound = msgs ++ rest) :
    ∃ (n : Nat) (s' : Opening), s'.startup.machine = m' ∧
      ({ s.line with inbound := rest } : Line).Alike s'.line ∧
      ∀ fuel, reading env feature (fuel + n) s = reading env feature fuel s' := by
  induction h generalizing s with
  | nil => exact ⟨0, s, hm, ⟨rfl, rfl, hinbound⟩, fun fuel => rfl⟩
  | @reads m m₁ m' msg msgs action htransition hreads _ ih =>
    subst hm
    obtain ⟨startup, hmachine, hdrive⟩ := drive_reads
      (s := { s with line := { s.line with inbound := msgs ++ rest } }) feature (.message msg)
      hreads htransition
    obtain ⟨n, s', hs', halike, hrest⟩ := ih
      (s := ⟨startup, { s.line with inbound := msgs ++ rest }⟩) hmachine hwilling rfl
    refine ⟨n + 1, s', hs', halike, fun fuel => ?_⟩
    exact (reading_cons hinbound _).trans ((hdrive (fuel + n)).trans (hrest fuel))
  | @writes m m₁ m' msg msgs written state htransition hstate _ ih =>
    subst hm
    obtain ⟨s₁, hmachine₁, halike₁, hdrive₁⟩ := drive_writes
      (s := { s with line := { s.line with inbound := msgs ++ rest } }) feature (.message msg)
      hwilling htransition
    obtain ⟨startup, hmachine, hdrive⟩ := drive_reads (s := s₁) feature .nothing rfl
      (.read (hmachine₁ ▸ hstate))
    obtain ⟨n, s', hs', halike, hrest⟩ := ih (s := ⟨startup, s₁.line⟩)
      (hmachine.trans (by rw [← hmachine₁]; rfl)) (halike₁.willing hwilling) halike₁.inbound
    have hthrough : ({ s.line with inbound := rest } : Line).Alike s'.line :=
      ⟨halike.remote.trans halike₁.remote, halike.transport.trans halike₁.transport,
        halike.inbound⟩
    refine ⟨n + 2, s', hs', hthrough, fun fuel => ?_⟩
    calc reading env feature (fuel + (n + 2)) s
        = drive env feature (fuel + n + 1) .nothing s₁ :=
          (reading_cons hinbound _).trans (hdrive₁ (fuel + n + 1))
      _ = reading env feature fuel s' := (hdrive (fuel + n)).trans (hrest fuel)

/-- The ReadyForQuery ends the loop, and what is behind it stays on the stream. -/
theorem reading_ready (env : StartupEnv) (feature : TlsFeature) {status : TransactionStatus}
    {late : List RawMessage} (hstate : s.startup.machine.state = .waitingReady)
    (hinbound : s.line.inbound = readyMessage status :: late) :
    ∃ s' : Opening, s'.startup.machine =
        { s.startup.machine with transactionStatus := status, state := .finished } ∧
      s'.line = { s.line with inbound := late } ∧
      ∀ fuel, reading env feature (fuel + 1) s = (.ok (), s') := by
  have hready : Transition env s.startup.machine (readyMessage status) .finished
      { s.startup.machine with transactionStatus := status, state := .finished } none :=
    .ready hstate rfl (parse_readyMessage status)
  have hstep : step env (s.startup.give (.message (readyMessage status))) = _ := hready.step
  refine ⟨⟨⟨_, (s.startup.give (.message (readyMessage status))).2.after none, s.startup.taken ++
    [⟨.message (readyMessage status), .finished,
      ((s.startup.give (.message (readyMessage status))).2.after none).writeBuffer⟩]⟩,
    { s.line with inbound := late }⟩, rfl, rfl, fun fuel => ?_⟩
  rw [reading_cons hinbound, drive, Act.bind_run]
  unfold round
  rw [Act.bind_run]
  unfold stepMachine
  dsimp only
  rw [hstep]
  rfl

/-- An ErrorResponse ends the loop with the error it carries. -/
theorem reading_error (env : StartupEnv) (feature : TlsFeature) {e : ServerError}
    {err : RawMessage} {late : List RawMessage} (hlooks : s.startup.machine.state.looks = true)
    (herr : IsError e err) (hinbound : s.line.inbound = err :: late) (fuel : Nat) :
    (reading env feature (fuel + 1) s).1 = .err (.server e) := by
  have hstep : (step env (s.startup.give (.message err))).1 = .err (.server e) :=
    Startup.step_error hlooks herr
  rw [reading_cons hinbound, drive, Act.bind_run]
  unfold round
  rw [Act.bind_run]
  unfold stepMachine
  dsimp only
  generalize step env (s.startup.give (.message err)) = r at hstep
  obtain ⟨o, m, b⟩ := r
  cases hstep
  rfl

/-! ### The negotiation -/

/-- A machine that may begin writes its startup message, and the loop goes on to read. -/
theorem drive_begins (feature : TlsFeature) (hwilling : s.line.Willing)
    (hbegin : MayBegin env (s.startup.give fed).1) :
    ∃ s' : Opening,
      s'.startup.machine = { (s.startup.give fed).1 with state := .waitingAuth } ∧
      s.line.Alike s'.line ∧
      ∀ fuel, drive env feature (fuel + 2) fed s = reading env feature fuel s' := by
  obtain ⟨s₁, hmachine₁, halike, hdrive₁⟩ := drive_writes feature fed hwilling (.begin hbegin)
  have hstate : s₁.startup.machine.state.afterWrite = some .waitingAuth := by rw [hmachine₁]; rfl
  obtain ⟨startup, hmachine, hdrive⟩ := drive_reads (s := s₁) feature .nothing rfl
    (.read hstate)
  refine ⟨{ s₁ with startup }, ?_, halike, fun fuel => by rw [hdrive₁, hdrive]⟩
  rw [hmachine]
  change { s₁.startup.machine with state := .waitingAuth } = _
  rw [hmachine₁]

/-- The loop negotiates TLS, sends the startup message and goes on to read what the stream
offers. -/
theorem drive_negotiates {options : Opts} (buffers : StartupBuffers) {ssl : List Feed}
    (hssl : Negotiates env options ssl) {l : Line} (hwilling : l.Willing)
    (hresponse : ∀ response, ssl = [.byte response] → l.remote.response = .ok response)
    {transport : Transport} {inbound : List RawMessage}
    (hoffers : l.offers feature ssl = some (transport, inbound)) :
    ∃ (n : Nat) (s : Opening) (response : UInt8),
      s.startup.machine = Startup.started options response ∧
      ({ l with transport, inbound } : Line).Alike s.line ∧
      ∀ fuel, drive env feature (fuel + n) .nothing ⟨.new options buffers, l⟩ =
        reading env feature fuel s := by
  have hrequest {response : UInt8} (hmode : options.sslMode ≠ .disable)
      (htls : env.clientSupportsTls = true) (h : ssl = [.byte response]) :
      ∃ s₁ : Opening,
        s₁.startup.machine =
          { ConnectionStateMachine.new options with state := .waitingSslResponse } ∧
        l.Alike s₁.line ∧
        ∀ fuel, drive env feature (fuel + 1) .nothing ⟨.new options buffers, l⟩ =
          drive env feature fuel (.byte response) s₁ :=
    drive_requests (s := ⟨.new options buffers, l⟩) feature hwilling (hresponse response h)
      (.requestSsl rfl hmode htls)
  cases hssl with
  | plain hmode htls =>
    cases hoffers
    have hbegin : MayBegin env ((Startup.new options buffers).give .nothing).1 :=
      .plain rfl hmode htls
    obtain ⟨s, hmachine, halike, hdrive⟩ :=
      drive_begins (s := ⟨.new options buffers, l⟩) feature hwilling hbegin
    exact ⟨2, s, 0, hmachine, halike, hdrive⟩
  | accepted hmode htls =>
    obtain ⟨s₁, hmachine₁, halike₁, hdrive₁⟩ := hrequest hmode htls rfl
    have hgive : (s₁.startup.give (.byte 83)).1 = { ConnectionStateMachine.new options with
        state := .waitingSslResponse, sslResponse := 83 } := by
      change { s₁.startup.machine with sslResponse := 83 } = _
      rw [hmachine₁]
    have hoffers₁ : s₁.line.offers feature [.byte 83] = some (transport, inbound) := by
      unfold Line.offers at hoffers ⊢
      rw [halike₁.transport, halike₁.remote]
      exact hoffers
    obtain ⟨s₂, hmachine₂, hline₂, hdrive₂⟩ := drive_shakes feature (.byte 83) hoffers₁
      (.handshake (by rw [hgive]) (by rw [hgive]))
    rw [hgive] at hmachine₂
    have hwilling₂ : s₂.line.Willing := by
      rw [hline₂]
      exact halike₁.willing hwilling
    have hbegin : MayBegin env (s₂.startup.give .nothing).1 :=
      .secured (by rw [Startup.give_state, hmachine₂])
    obtain ⟨s, hmachine, halike, hdrive⟩ := drive_begins feature hwilling₂ hbegin
    refine ⟨4, s, 83, ?_, ?_, fun fuel => ?_⟩
    · rw [hmachine]
      change { s₂.startup.machine with state := .waitingAuth } = _
      rw [hmachine₂]
      rfl
    · rw [hline₂] at halike
      exact ⟨halike.remote.trans halike₁.remote, halike.transport, halike.inbound⟩
    · rw [← hdrive fuel, ← hdrive₂ (fuel + 2), ← hdrive₁ (fuel + 3)]
  | refused hmode htls =>
    obtain ⟨s₁, hmachine₁, halike₁, hdrive₁⟩ := hrequest (by rw [hmode]; decide) htls rfl
    cases hoffers
    have hgive : (s₁.startup.give (.byte 78)).1 = { ConnectionStateMachine.new options with
        state := .waitingSslResponse, sslResponse := 78 } := by
      change { s₁.startup.machine with sslResponse := 78 } = _
      rw [hmachine₁]
    have hplain : options.sslMode ≠ .require := by rw [hmode]; decide
    have hbegin : MayBegin env (s₁.startup.give (.byte 78)).1 :=
      .refused (by rw [hgive]) (by rw [hgive]) (by rw [hgive]; exact hplain)
    obtain ⟨s, hmachine, halike, hdrive⟩ :=
      drive_begins feature (halike₁.willing hwilling) hbegin
    refine ⟨3, s, 78, ?_, halike₁.trans halike, fun fuel => ?_⟩
    · rw [hmachine, hgive]
      rfl
    · rw [← hdrive fuel, ← hdrive₁ (fuel + 2)]

variable {options : Opts} {l : Line} {transport : Transport} {late : List RawMessage}

/-- The loop reads the messages of a transcript as far as they go. -/
theorem drive_said (hcrypto : env.crypto.Lawful) (buffers : StartupBuffers)
    (t : Transcript env options) {msgs : List RawMessage}
    (hstart : msgs <+: t.body) (hsaid : t.SaidOn feature l transport (msgs ++ late)) :
    ∃ (n : Nat) (s : Opening), s.startup.machine.Looks ∧
      (msgs = t.body → s.startup.machine.state = .waitingReady ∧
        s.startup.machine.serverParams = t.params ∧ s.startup.machine.backendKey = t.key) ∧
      s.line.transport = transport ∧ s.line.inbound = late ∧
      ∀ fuel, drive env feature (fuel + n) .nothing ⟨.new options buffers, l⟩ =
        reading env feature fuel s := by
  obtain ⟨n, s₀, response, hmachine₀, halike₀, hdrive₀⟩ :=
    drive_negotiates buffers t.negotiates hsaid.willing hsaid.response hsaid.offers
  obtain ⟨m', hpasses, hstate, hparams, hkey⟩ := Startup.passes_transcript hcrypto response
    t.authenticates t.greets t.body_eq t.notices
  obtain ⟨rest, hrest⟩ := hstart
  rw [← hrest] at hpasses
  obtain ⟨m₁, hpasses₁, hpasses₂⟩ := hpasses.split
  obtain ⟨n', s, hmachine, halike, hdrive⟩ := reading_passes feature hpasses₁ hmachine₀
    (halike₀.willing hsaid.willing) halike₀.inbound
  refine ⟨n' + n, s, ?_, ?_, halike.transport.trans halike₀.transport, halike.inbound,
    fun fuel => ?_⟩
  · rw [hmachine]
    exact hpasses₁.looks (Startup.started_looks options response)
  · intro hall
    obtain rfl : rest = [] := by
      rw [hall] at hrest
      exact List.append_right_eq_self.mp hrest
    cases hpasses₂
    rw [hmachine]
    exact ⟨hstate, hparams, hkey⟩
  · rw [← Nat.add_assoc, hdrive₀, hdrive]

/-- On a transcript the loop returns, with what the server said recorded; the stream is the one that
was negotiated, and what the server sent behind ReadyForQuery is left on it. -/
theorem establish_said (hcrypto : env.crypto.Lawful) (buffers : StartupBuffers)
    (t : Transcript env options)
    (hsaid : t.SaidOn feature l transport (t.body ++ readyMessage t.status :: late)) :
    ∃ startup l', establish env feature options buffers l = (.ok startup, l') ∧
      startup.machine.serverParams = t.params ∧ startup.machine.backendKey = t.key ∧
      startup.machine.transactionStatus = t.status ∧ l'.transport = transport ∧
      l'.inbound = late := by
  obtain ⟨n, s, -, hwhole, htransport, hinbound, hdrive⟩ :=
    drive_said hcrypto buffers t List.prefix_rfl hsaid
  obtain ⟨hstate, hparams, hkey⟩ := hwhole rfl
  obtain ⟨s', hmachine, hline, hready⟩ := reading_ready env feature hstate hinbound
  -- with more fuel than the rounds need, the loop ends in `s'`
  have hall : drive env feature (rounds l + 1 + n) .nothing ⟨.new options buffers, l⟩ =
      (.ok (), s') := by
    rw [hdrive, hready]
  rw [drive_rounds env feature options buffers l (by omega)] at hall
  refine ⟨s'.startup, s'.line, ?_, ?_, ?_, ?_, ?_, ?_⟩
  · unfold establish
    dsimp only
    rw [hall]
    rfl
  · rw [hmachine]
    exact hparams
  · rw [hmachine]
    exact hkey
  · rw [hmachine]
  · rw [hline]
    exact htransport
  · rw [hline]

/-- An ErrorResponse in place of any message of a transcript is what the loop fails with. -/
theorem establish_error (hcrypto : env.crypto.Lawful) (buffers : StartupBuffers)
    (t : Transcript env options) {before after : List RawMessage} {msg err : RawMessage}
    {e : ServerError} (hplace : t.body ++ [readyMessage t.status] = before ++ msg :: after)
    (herr : IsError e err) (hsaid : t.SaidOn feature l transport (before ++ err :: late)) :
    (establish env feature options buffers l).1 = .err (.server e) := by
  have hstart : before <+: t.body := by
    have hlength := congrArg List.length hplace
    simp only [List.length_append, List.length_cons, List.length_nil] at hlength
    have hwhole : before <+: t.body ++ [readyMessage t.status] := ⟨msg :: after, hplace.symm⟩
    exact List.prefix_of_prefix_length_le hwhole (List.prefix_append _ _) (by omega)
  obtain ⟨n, s, hlooks, -, -, hinbound, hdrive⟩ := drive_said hcrypto buffers t hstart hsaid
  have hall : (drive env feature (rounds l + 1 + n) .nothing ⟨.new options buffers, l⟩).1 =
      .err (.server e) := by
    rw [hdrive]
    exact reading_error env feature hlooks.1 herr hinbound (rounds l)
  rw [drive_rounds env feature options buffers l (by omega)] at hall
  unfold establish
  dsimp only
  rw [hall]
  rfl

end Opening

end ZeroPostgres
