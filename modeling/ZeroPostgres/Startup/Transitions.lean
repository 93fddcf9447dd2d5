import ZeroPostgres.State.Connection

/-!
# Steps of the connection machine

`Transition` lists what a step that succeeds can do: what the machine asks for, where it goes and
what it leaves in the write buffer. `step_transition` says it is all, and `Transition.step` that
each is taken.
-/

namespace ZeroPostgres

/-- The message last read into the buffers. -/
def StartupBuffers.loaded (b : StartupBuffers) : RawMessage := ⟨b.typeByte, b.readBuffer⟩

/-- The buffers after a step that writes a message or none. -/
def StartupBuffers.after (b : StartupBuffers) (written : Option StartupMessage) : StartupBuffers :=
  match written with
  | some message => { b with writeBuffer := [message] }
  | none => b

/-- An authentication message that says `auth`. -/
def IsAuth (auth : AuthenticationMessage) (msg : RawMessage) : Prop :=
  msg.type = .authentication ∧ AuthenticationMessage.parse msg.payload = .ok auth

instance (auth : AuthenticationMessage) (msg : RawMessage) : Decidable (IsAuth auth msg) :=
  inferInstanceAs (Decidable (_ ∧ _))

namespace ConnectionState

/-- The state after a write that a message follows. -/
def afterWrite : ConnectionState → Option ConnectionState
  | waitingAuthRead => some waitingAuth
  | saslInProgressRead => some saslInProgress
  | waitingAuthResultRead => some waitingAuthResult
  | _ => none

/-- A step in this state looks at a message. -/
def looks : ConnectionState → Bool
  | waitingAuth | saslInProgress | waitingAuthResult | waitingReady | finished => true
  | _ => false

theorem looks_of_afterWrite {state next : ConnectionState} (h : state.afterWrite = some next) :
    state.looks = false := by
  cases state <;> first | rfl | cases h

end ConnectionState

namespace ConnectionStateMachine

/-- The machine may send its startup message: it need not ask for TLS, was refused it under a mode
that does without, or has it. -/
inductive MayBegin (env : StartupEnv) (m : ConnectionStateMachine) : Prop where
  | plain : m.state = .initial → m.options.sslMode ≠ .require →
      (m.options.sslMode = .prefer → env.clientSupportsTls = false) → MayBegin env m
  | refused : m.state = .waitingSslResponse → m.sslResponse = 78 →
      m.options.sslMode ≠ .require → MayBegin env m
  | secured : m.state = .waitingTlsHandshake → MayBegin env m

/-- A password the machine answers a request with. -/
inductive Asks (env : StartupEnv) (options : Opts) (msg : RawMessage) : String → Prop where
  | cleartext {password} : IsAuth .cleartextPassword msg → options.password = some password →
      Asks env options msg password
  | md5 {salt password} : IsAuth (.md5Password salt) msg → options.password = some password →
      Asks env options msg (md5Password env.crypto options.user password salt.toList)

/-- What a step that succeeds can do after the message `msg`: the action, the machine and the
message it writes, if it writes one. -/
inductive Transition (env : StartupEnv) (m : ConnectionStateMachine) (msg : RawMessage) :
    Action → ConnectionStateMachine → Option StartupMessage → Prop where
  | requestSsl : m.state = .initial → m.options.sslMode ≠ .disable →
      env.clientSupportsTls = true →
      Transition env m msg .writeAndReadByte { m with state := .waitingSslResponse }
        (some .sslRequest)
  | begin : MayBegin env m →
      Transition env m msg .write { m with state := .waitingAuthRead }
        (some (.startup (startupParams m.options)))
  | handshake : m.state = .waitingSslResponse → m.sslResponse = 83 →
      Transition env m msg .tlsHandshake { m with state := .waitingTlsHandshake } none
  | read {state} : m.state.afterWrite = some state →
      Transition env m msg .readMessage { m with state } none
  | async {note} : m.state.looks = true → msg.toAsync? = some note →
      ¬ (m.state = .waitingReady ∧ msg.type = .parameterStatus) →
      Transition env m msg (.handleAsyncMessageAndReadMessage note) m none
  | trusted : m.state = .waitingAuth ∨ m.state = .waitingAuthResult → IsAuth .ok msg →
      Transition env m msg .readMessage { m with state := .waitingReady } none
  | password {text} : m.state = .waitingAuth → Asks env m.options msg text →
      Transition env m msg .write { m with state := .waitingAuthResultRead } (some (.password text))
  | sasl {mechanisms password} : m.state = .waitingAuth → IsAuth (.sasl mechanisms) msg →
      "SCRAM-SHA-256" ∈ mechanisms → m.options.password = some password →
      Transition env m msg .write
        { m with
          scramClient := some (ScramClient.new env.crypto env.nonceBytes password)
          state := .saslInProgressRead }
        (some (.saslInitialResponse "SCRAM-SHA-256"
          (utf8 (ScramClient.new env.crypto env.nonceBytes password).clientFirstMessage)))
  | saslContinue {data scram serverFirst clientFinal scram'} : m.state = .saslInProgress →
      IsAuth (.saslContinue data) msg → m.scramClient = some scram →
      fromUtf8 data = some serverFirst →
      ScramClient.processServerFirst env.crypto serverFirst scram = (.ok clientFinal, scram') →
      Transition env m msg .write
        { m with scramClient := some scram', state := .saslInProgressRead }
        (some (.saslResponse (utf8 clientFinal)))
  | saslFinal {data scram serverFinal} : m.state = .saslInProgress →
      IsAuth (.saslFinal data) msg → m.scramClient = some scram →
      fromUtf8 data = some serverFinal → scram.verifyServerFinal env.crypto serverFinal = .ok () →
      Transition env m msg .readMessage { m with state := .waitingAuthResult } none
  | key {key} : m.state = .waitingReady → msg.type = .backendKeyData →
      BackendKeyData.parse msg.payload = .ok key →
      Transition env m msg .readMessage { m with backendKey := some key } none
  | parameter {param} : m.state = .waitingReady → msg.type = .parameterStatus →
      ParameterStatus.parse msg.payload = .ok param →
      Transition env m msg .readMessage { m with serverParams := m.serverParams ++ [param] } none
  | ready {status} : m.state = .waitingReady → msg.type = .readyForQuery →
      ReadyForQuery.parse msg.payload = .ok status →
      Transition env m msg .finished { m with transactionStatus := status, state := .finished } none

/-- What an outcome and the machine and buffers after it are by `Transition`. -/
def Goes (env : StartupEnv) (m : ConnectionStateMachine) (b : StartupBuffers)
    (o : Outcome Error Action) (s : ConnectionStateMachine × StartupBuffers) : Prop :=
  ∀ action, o = .ok action →
    ∃ written, Transition env m b.loaded action s.1 written ∧ s.2 = b.after written

section Handlers

variable {env : StartupEnv} {m : ConnectionStateMachine} {b : StartupBuffers}

theorem Goes.ok {action : Action} {m' : ConnectionStateMachine} {b' : StartupBuffers}
    {written : Option StartupMessage} (h : Transition env m b.loaded action m' written)
    (hb : b' = b.after written) : Goes env m b (.ok action) (m', b') := by
  intro action' h'
  cases h'
  exact ⟨written, h, hb⟩

theorem Goes.err {e : Error} {s : ConnectionStateMachine × StartupBuffers} :
    Goes env m b (.err e) s := by
  intro action h
  cases h

theorem Goes.halt {s : ConnectionStateMachine × StartupBuffers} : Goes env m b .halt s := by
  intro action h
  cases h

theorem beginSession_goes (h : MayBegin env m) (buffered : List StartupMessage) :
    Act.Meets beginSession (m, { b with writeBuffer := buffered }) (Goes env m b) := by
  simp only [beginSession, write, setState, Act.meets_bind, Act.meets_get, Act.meets_modify,
    Act.meets_pure]
  exact .ok (.begin h) rfl

theorem handleInitial_goes (hs : m.state = .initial) :
    Act.Meets (handleInitial env) (m, b) (Goes env m b) := by
  simp only [handleInitial, write, setState, Act.meets_bind, Act.meets_get, Act.meets_modify]
  have hrequest : m.options.sslMode ≠ .disable → env.clientSupportsTls = true →
      Goes env m b (.ok .writeAndReadByte)
        ({ m with state := .waitingSslResponse }, { b with writeBuffer := [.sslRequest] }) :=
    fun hmode htls => .ok (.requestSsl hs hmode htls) rfl
  split
  · rename_i hmode
    exact beginSession_goes (.plain hs (by simp [hmode]) (by simp [hmode])) []
  · rename_i hmode
    split
    · rename_i htls
      exact hrequest (by simp [hmode]) htls
    · rename_i htls
      exact beginSession_goes (.plain hs (by simp [hmode]) fun _ => by simpa using htls) []
  · rename_i hmode
    split
    · rename_i htls
      exact hrequest (by simp [hmode]) htls
    · exact .err

theorem handleSslResponse_goes (hs : m.state = .waitingSslResponse) :
    Act.Meets handleSslResponse (m, b) (Goes env m b) := by
  simp only [handleSslResponse, setState, Act.meets_bind, Act.meets_get]
  split
  · rename_i hbyte
    exact .ok (.handshake hs hbyte) rfl
  · split
    · rename_i hbyte
      split
      · exact .err
      · rename_i hmode
        exact beginSession_goes (.refused hs hbyte hmode) b.writeBuffer
    · exact .err

theorem readAuthentication_goes {expected : String}
    {f : AuthenticationMessage → StartupStep Action}
    (h : ∀ auth, IsAuth auth b.loaded → Act.Meets (f auth) (m, b) (Goes env m b)) :
    Act.Meets (readAuthentication expected >>= f) (m, b) (Goes env m b) := by
  simp only [readAuthentication, Act.meets_bind, Act.meets_get]
  split
  · rename_i htype
    rw [Act.meets_lift]
    cases hparse : AuthenticationMessage.parse b.readBuffer with
    | ok auth => exact h auth ⟨htype, hparse⟩
    | err e => exact .err
    | halt => exact .halt
  · exact .err

theorem optionsPassword_goes {f : String → StartupStep Action}
    (h : ∀ password, m.options.password = some password →
      Act.Meets (f password) (m, b) (Goes env m b)) :
    Act.Meets (optionsPassword >>= f) (m, b) (Goes env m b) := by
  simp only [optionsPassword, Act.meets_bind, Act.meets_get]
  cases hpassword : m.options.password with
  | none => exact .err
  | some password => exact h password hpassword

theorem handleAuthMessage_goes (hs : m.state = .waitingAuth) :
    Act.Meets (handleAuthMessage env) (m, b) (Goes env m b) := by
  unfold handleAuthMessage
  rw [Act.meets_bind, Act.meets_get]
  show Act.Meets (if _ then _ else _) _ _
  split
  · rw [Act.meets_bind, Act.meets_lift]
    cases NegotiateProtocolVersion.parse b.readBuffer with
    | ok negotiate => exact .err
    | err e => exact .err
    | halt => exact .halt
  · apply readAuthentication_goes
    intro auth hauth
    cases auth with
    | ok => exact .ok (.trusted (.inl hs) hauth) rfl
    | cleartextPassword =>
      apply optionsPassword_goes
      intro password hpassword
      exact .ok (.password hs (.cleartext hauth hpassword)) rfl
    | md5Password salt =>
      apply optionsPassword_goes
      intro password hpassword
      exact .ok (.password hs (.md5 hauth hpassword)) rfl
    | sasl mechanisms =>
      show Act.Meets (if _ then _ else _) _ _
      split
      · rename_i hmechanism
        apply optionsPassword_goes
        intro password hpassword
        exact .ok (.sasl hs hauth (by simpa using hmechanism) hpassword) rfl
      · exact .err
    | kerberosV5 => exact .err
    | gss => exact .err
    | gssContinue data => exact .err
    | sspi => exact .err
    | saslContinue data => exact .err
    | saslFinal data => exact .err

theorem theScramClient_goes {f : ScramClient → StartupStep Action}
    (h : ∀ scram, m.scramClient = some scram → Act.Meets (f scram) (m, b) (Goes env m b)) :
    Act.Meets (theScramClient >>= f) (m, b) (Goes env m b) := by
  simp only [theScramClient, Act.meets_bind, Act.meets_get]
  cases hscram : m.scramClient with
  | none => exact .err
  | some scram => exact h scram hscram

theorem saslText_goes {data : Bytes} {text : String} {f : String → StartupStep Action}
    (h : ∀ s, fromUtf8 data = some s → Act.Meets (f s) (m, b) (Goes env m b)) :
    Act.Meets (saslText data text >>= f) (m, b) (Goes env m b) := by
  simp only [saslText, Act.meets_bind]
  cases htext : fromUtf8 data with
  | none => exact .err
  | some s => exact h s htext

theorem handleSaslMessage_goes (hs : m.state = .saslInProgress) :
    Act.Meets (handleSaslMessage env) (m, b) (Goes env m b) := by
  apply readAuthentication_goes
  intro auth hauth
  cases auth with
  | saslContinue data =>
    apply theScramClient_goes
    intro scram hscram
    apply saslText_goes
    intro serverFirst htext
    rw [Act.meets_bind, Act.meets_modify]
    rcases hprocess : ScramClient.processServerFirst env.crypto serverFirst scram with
      ⟨_ | _ | _, scram'⟩
    · exact .ok (.saslContinue hs hauth hscram htext hprocess) rfl
    · exact .err
    · exact .halt
  | saslFinal data =>
    apply theScramClient_goes
    intro scram hscram
    apply saslText_goes
    intro serverFinal htext
    cases hverify : scram.verifyServerFinal env.crypto serverFinal with
    | ok u => exact .ok (.saslFinal hs hauth hscram htext hverify) rfl
    | err text => exact .err
    | halt => exact .halt
  | _ => exact .err

theorem handleAuthResult_goes (hs : m.state = .waitingAuthResult) :
    Act.Meets handleAuthResult (m, b) (Goes env m b) := by
  apply readAuthentication_goes
  intro auth hauth
  cases auth with
  | ok => exact .ok (.trusted (.inr hs) hauth) rfl
  | _ => exact .err

theorem handleReadyMessage_goes (hs : m.state = .waitingReady) :
    Act.Meets handleReadyMessage (m, b) (Goes env m b) := by
  unfold handleReadyMessage
  rw [Act.meets_bind, Act.meets_get]
  dsimp only
  split
  · rename_i htype
    rw [Act.meets_bind, Act.meets_lift]
    cases hparse : BackendKeyData.parse b.readBuffer with
    | ok key => exact .ok (.key hs htype hparse) rfl
    | err e => exact .err
    | halt => exact .halt
  · rename_i htype
    rw [Act.meets_bind, Act.meets_lift]
    cases hparse : ParameterStatus.parse b.readBuffer with
    | ok param => exact .ok (.parameter hs htype hparse) rfl
    | err e => exact .err
    | halt => exact .halt
  · rename_i htype
    rw [Act.meets_bind, Act.meets_lift]
    cases hparse : ReadyForQuery.parse b.readBuffer with
    | ok status => exact .ok (.ready hs htype hparse) rfl
    | err e => exact .err
    | halt => exact .halt
  · exact .err

theorem handleMessage_goes (hs : m.state.looks = true) :
    Act.Meets (handleMessage env) (m, b) (Goes env m b) := by
  unfold handleMessage
  rw [Act.meets_bind, Act.meets_get]
  show Act.Meets (if _ then _ else _) _ _
  split
  · rename_i hasync
    rw [Act.meets_lift]
    intro action haction
    obtain ⟨note, rfl, hnote⟩ := toAsync_of_handleAsyncMessage haction
    exact ⟨none, .async hs hnote hasync.2, rfl⟩
  · split
    · rw [Act.meets_bind, Act.meets_lift]
      cases ErrorResponse.parse b.readBuffer with
      | ok error => exact .err
      | err e => exact .err
      | halt => exact .halt
    · show Act.Meets (handleState env m.state) _ _
      cases hstate : m.state with
      | waitingAuth => exact handleAuthMessage_goes hstate
      | saslInProgress => exact handleSaslMessage_goes hstate
      | waitingAuthResult => exact handleAuthResult_goes hstate
      | waitingReady => exact handleReadyMessage_goes hstate
      | _ => exact .err

end Handlers

/-- A step that succeeds is one of the listed transitions. -/
theorem step_transition {env : StartupEnv} {m m' : ConnectionStateMachine} {b b' : StartupBuffers}
    {action : Action} (h : step env (m, b) = (.ok action, (m', b'))) :
    ∃ written, Transition env m b.loaded action m' written ∧ b' = b.after written := by
  have hgoes : Act.Meets (step env) (m, b) (Goes env m b) := by
    unfold step
    rw [Act.meets_bind, Act.meets_get]
    cases hstate : m.state with
    | initial => simpa only [hstate] using handleInitial_goes hstate
    | waitingSslResponse => simpa only [hstate] using handleSslResponse_goes hstate
    | waitingTlsHandshake =>
      simp only [hstate]
      exact beginSession_goes (.secured hstate) b.writeBuffer
    | waitingAuthRead =>
      simp only [hstate, setState, Act.meets_bind, Act.meets_modify, Act.meets_pure]
      exact .ok (.read (by rw [hstate]; rfl)) rfl
    | saslInProgressRead =>
      simp only [hstate, setState, Act.meets_bind, Act.meets_modify, Act.meets_pure]
      exact .ok (.read (by rw [hstate]; rfl)) rfl
    | waitingAuthResultRead =>
      simp only [hstate, setState, Act.meets_bind, Act.meets_modify, Act.meets_pure]
      exact .ok (.read (by rw [hstate]; rfl)) rfl
    | _ => simpa only [hstate] using handleMessage_goes (by rw [hstate]; rfl)
  unfold Act.Meets at hgoes
  rw [h] at hgoes
  exact hgoes action rfl

/-! ### Every listed transition is a step -/

section Steps

variable {env : StartupEnv} {m : ConnectionStateMachine} {b : StartupBuffers}

theorem step_of_looks (hs : m.state.looks = true) : step env (m, b) = handleMessage env (m, b) := by
  unfold step
  rw [Act.bind_run, Act.get_run]
  cases hstate : m.state with
  | waitingAuth => simp only [hstate]
  | saslInProgress => simp only [hstate]
  | waitingAuthResult => simp only [hstate]
  | waitingReady => simp only [hstate]
  | finished => simp only [hstate]
  | _ => rw [hstate] at hs; cases hs

theorem step_of_message (hs : m.state.looks = true)
    (hasync : b.typeByte.isAsync = true → m.state = .waitingReady ∧ b.typeByte = .parameterStatus)
    (herror : b.typeByte ≠ .errorResponse) :
    step env (m, b) = handleState env m.state (m, b) := by
  have hif : ¬ (b.typeByte.isAsync = true ∧
      ¬ (m.state = .waitingReady ∧ b.typeByte = .parameterStatus)) :=
    fun h => h.2 (hasync h.1)
  rw [step_of_looks hs, handleMessage, Act.bind_run, Act.get_run]
  simp only [if_neg hif, if_neg herror]

theorem step_of_ready (hs : m.state = .waitingReady)
    (hasync : b.typeByte.isAsync = true → b.typeByte = .parameterStatus)
    (herror : b.typeByte ≠ .errorResponse) : step env (m, b) = handleReadyMessage (m, b) := by
  rw [step_of_message (by rw [hs]; rfl) (fun h => ⟨hs, hasync h⟩) herror]
  simp only [hs, handleState]

/-- An authentication message reaches the handler of the state. -/
theorem step_of_auth {auth : AuthenticationMessage} (hs : m.state.looks = true)
    (hauth : IsAuth auth b.loaded) : step env (m, b) = handleState env m.state (m, b) := by
  have htype : b.typeByte = .authentication := hauth.1
  exact step_of_message hs (by rw [htype]; intro h; cases h) (by rw [htype]; decide)

theorem not_negotiate {auth : AuthenticationMessage} (hauth : IsAuth auth b.loaded) :
    ¬ b.typeByte = .negotiateProtocolVersion := by
  have htype : b.typeByte = .authentication := hauth.1
  rw [htype]
  decide

theorem readAuthentication_run {expected : String} {auth : AuthenticationMessage}
    (hauth : IsAuth auth b.loaded) : readAuthentication expected (m, b) = (.ok auth, (m, b)) := by
  have htype : b.typeByte = .authentication := hauth.1
  have hparse : AuthenticationMessage.parse b.readBuffer = .ok auth := hauth.2
  rw [readAuthentication, Act.bind_run, Act.get_run]
  simp only [if_pos htype, Act.lift_run, hparse]

theorem optionsPassword_run {password : String} (h : m.options.password = some password) :
    optionsPassword (m, b) = (.ok password, (m, b)) := by
  rw [optionsPassword, Act.bind_run, Act.get_run]
  simp only [h]
  rfl

theorem theScramClient_run {scram : ScramClient} (h : m.scramClient = some scram) :
    theScramClient (m, b) = (.ok scram, (m, b)) := by
  rw [theScramClient, Act.bind_run, Act.get_run]
  simp only [h]
  rfl

theorem saslText_run {data : Bytes} {text s : String} (h : fromUtf8 data = some s) :
    saslText data text (m, b) = (.ok s, (m, b)) := by
  unfold saslText
  rw [h]
  rfl

/-- Every listed transition is a step of the machine. -/
theorem Transition.step {action : Action} {m' : ConnectionStateMachine}
    {written : Option StartupMessage} (h : Transition env m b.loaded action m' written) :
    step env (m, b) = (.ok action, (m', b.after written)) := by
  cases h with
  | requestSsl hs hmode htls =>
    rw [ConnectionStateMachine.step, Act.bind_run, Act.get_run]
    simp only [hs, handleInitial, Act.bind_run, Act.modify_run, Act.get_run]
    cases hmode' : m.options.sslMode with
    | disable => exact absurd hmode' hmode
    | prefer =>
      simp only [htls, if_true]
      rfl
    | require =>
      simp only [htls, if_true]
      rfl
  | begin hbegin =>
    rw [ConnectionStateMachine.step, Act.bind_run, Act.get_run]
    cases hbegin with
    | plain hs hmode htls =>
      simp only [hs, handleInitial, Act.bind_run, Act.modify_run, Act.get_run]
      cases hmode' : m.options.sslMode with
      | disable => rfl
      | prefer =>
        simp only [htls hmode']
        rfl
      | require => exact absurd hmode' hmode
    | refused hs hbyte hmode =>
      have hrefused : ¬ m.sslResponse = 83 := by
        rw [hbyte]
        decide
      simp only [hs, handleSslResponse, Act.bind_run, Act.get_run, if_neg hrefused, if_pos hbyte,
        if_neg hmode]
      rfl
    | secured hs =>
      simp only [hs]
      rfl
  | handshake hs hbyte =>
    rw [ConnectionStateMachine.step, Act.bind_run, Act.get_run]
    simp only [hs, handleSslResponse, Act.bind_run, Act.get_run, if_pos hbyte]
    rfl
  | read hs =>
    rw [ConnectionStateMachine.step, Act.bind_run, Act.get_run]
    cases hstate : m.state <;> rw [hstate] at hs <;> cases hs <;> simp only [hstate] <;> rfl
  | async hs hnote hready =>
    have hasync : b.typeByte.isAsync = true := isAsync_of_toAsync hnote
    have hif : b.typeByte.isAsync = true ∧
        ¬ (m.state = .waitingReady ∧ b.typeByte = .parameterStatus) := ⟨hasync, hready⟩
    have hhandle := handleAsyncMessage_of_toAsync hnote
    unfold StartupBuffers.loaded at hhandle
    rw [step_of_looks hs, handleMessage, Act.bind_run, Act.get_run]
    simp only [if_pos hif, Act.lift_run, hhandle]
    rfl
  | trusted hs hauth =>
    rcases hs with hs | hs
    · rw [step_of_auth (by rw [hs]; rfl) hauth, hs]
      simp only [handleState, handleAuthMessage, Act.bind_run, Act.get_run,
        if_neg (not_negotiate hauth), readAuthentication_run hauth]
      rfl
    · rw [step_of_auth (by rw [hs]; rfl) hauth, hs]
      simp only [handleState, handleAuthResult, Act.bind_run, readAuthentication_run hauth]
      rfl
  | password hs hasks =>
    cases hasks with
    | cleartext hauth hpassword =>
      rw [step_of_auth (by rw [hs]; rfl) hauth, hs]
      simp only [handleState, handleAuthMessage, Act.bind_run, Act.get_run,
        if_neg (not_negotiate hauth), readAuthentication_run hauth, optionsPassword_run hpassword]
      rfl
    | md5 hauth hpassword =>
      rw [step_of_auth (by rw [hs]; rfl) hauth, hs]
      simp only [handleState, handleAuthMessage, Act.bind_run, Act.get_run,
        if_neg (not_negotiate hauth), readAuthentication_run hauth, optionsPassword_run hpassword]
      rfl
  | sasl hs hauth hmechanism hpassword =>
    rw [step_of_auth (by rw [hs]; rfl) hauth, hs]
    simp only [handleState, handleAuthMessage, Act.bind_run, Act.get_run,
      if_neg (not_negotiate hauth), readAuthentication_run hauth,
      if_pos (List.contains_iff_mem.mpr hmechanism), optionsPassword_run hpassword]
    rfl
  | saslContinue hs hauth hscram htext hprocess =>
    rw [step_of_auth (by rw [hs]; rfl) hauth, hs]
    simp only [handleState, handleSaslMessage, Act.bind_run, readAuthentication_run hauth,
      theScramClient_run hscram, saslText_run htext, Act.modify_run, hprocess]
    rfl
  | saslFinal hs hauth hscram htext hverify =>
    rw [step_of_auth (by rw [hs]; rfl) hauth, hs]
    simp only [handleState, handleSaslMessage, Act.bind_run, readAuthentication_run hauth,
      theScramClient_run hscram, saslText_run htext, hverify]
    rfl
  | key hs htype hparse =>
    replace htype : b.typeByte = .backendKeyData := htype
    replace hparse : BackendKeyData.parse b.readBuffer = _ := hparse
    rw [step_of_ready hs (by rw [htype]; intro h; cases h) (by rw [htype]; decide)]
    simp only [handleReadyMessage, Act.bind_run, Act.get_run, htype, Act.lift_run, hparse]
    rfl
  | parameter hs htype hparse =>
    replace htype : b.typeByte = .parameterStatus := htype
    replace hparse : ParameterStatus.parse b.readBuffer = _ := hparse
    rw [step_of_ready hs (fun _ => htype) (by rw [htype]; decide)]
    simp only [handleReadyMessage, Act.bind_run, Act.get_run, htype, Act.lift_run, hparse]
    rfl
  | ready hs htype hparse =>
    replace htype : b.typeByte = .readyForQuery := htype
    replace hparse : ReadyForQuery.parse b.readBuffer = _ := hparse
    rw [step_of_ready hs (by rw [htype]; intro h; cases h) (by rw [htype]; decide)]
    simp only [handleReadyMessage, Act.bind_run, Act.get_run, htype, Act.lift_run, hparse]
    rfl

end Steps

end ConnectionStateMachine

end ZeroPostgres
