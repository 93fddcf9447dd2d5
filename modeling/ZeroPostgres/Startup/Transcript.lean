import ZeroPostgres.Startup.MutualAuth
import ZeroPostgres.Server.Session

/-!
# Startup with a conformant server

What a server that supports protocol 3.2 sends while a connection is opened: the answer to the
request for TLS, one of four authentication exchanges, parameters and key data in any order,
ReadyForQuery, and notices anywhere. `Passes` is what the machine makes of such messages; the
exchanges and the parameters pass, and so does everything with notices in between.
-/

namespace ZeroPostgres

/-- An authentication message as a server writes it. -/
def SaysAuth (auth : AuthenticationMessage) (msg : RawMessage) : Prop :=
  auth.Sendable ∧ msg = ⟨.authentication, auth.payload⟩

theorem SaysAuth.isAuth {auth : AuthenticationMessage} {msg : RawMessage} (h : SaysAuth auth msg) :
    IsAuth auth msg := by
  obtain ⟨hsendable, rfl⟩ := h
  exact ⟨rfl, AuthenticationMessage.parse_payload hsendable⟩

/-! ### What a server sends -/

/-- What the driver reads before the startup message goes out: the answer to the request for TLS,
when the client makes one, under a mode that can be satisfied. -/
inductive Negotiates (env : StartupEnv) (options : Opts) : List Feed → Prop where
  | plain : options.sslMode ≠ .require →
      (options.sslMode = .prefer → env.clientSupportsTls = false) → Negotiates env options []
  | accepted : options.sslMode ≠ .disable → env.clientSupportsTls = true →
      Negotiates env options [.byte 83]
  | refused : options.sslMode = .prefer → env.clientSupportsTls = true →
      Negotiates env options [.byte 78]

/-- A SCRAM exchange in which the server accepts the proof: it answers what it reads in the
client's messages. Its verifier was made from the password the client has: `account` is the
password of the role, which SASLprep makes the client's. -/
def ScramExchange (env : StartupEnv) (password : String) (request answer verdict : RawMessage) :
    Prop :=
  ∃ (mechanisms : List String) (saslprep : String → String) (account suffix : String)
    (salt : Bytes) (iterations : UInt32) (first : ScramServer.ClientFirst) (clientFinal : String)
    (final : ScramServer.ClientFinal),
    let scram := ScramClient.new env.crypto env.nonceBytes password
    let verifier := ScramServer.Verifier.ofPassword env.crypto saslprep account salt iterations
    let serverFirst := ScramServer.serverFirst env.crypto verifier first suffix
    saslprep account = password ∧ ',' ∉ suffix.toList ∧ "SCRAM-SHA-256" ∈ mechanisms ∧
    SaysAuth (.sasl mechanisms) request ∧
    ScramServer.readClientFirst scram.clientFirstMessage = some first ∧
    SaysAuth (.saslContinue (utf8 serverFirst)) answer ∧
    (ScramClient.processServerFirst env.crypto serverFirst scram).1 = .ok clientFinal ∧
    ScramServer.readClientFinal env.crypto clientFinal = some final ∧
    ScramServer.accepts env.crypto verifier first suffix final = true ∧
    SaysAuth (.saslFinal (utf8 (ScramServer.serverFinal env.crypto verifier first suffix final)))
      verdict

/-- The authentication exchanges, up to the word that the server is content. -/
inductive AuthExchange (env : StartupEnv) (options : Opts) : List RawMessage → Prop where
  | trust {ok} : SaysAuth .ok ok → AuthExchange env options [ok]
  | cleartext {password request ok} : options.password = some password →
      SaysAuth .cleartextPassword request → SaysAuth .ok ok →
      AuthExchange env options [request, ok]
  | md5 {password salt request ok} : options.password = some password →
      SaysAuth (.md5Password salt) request → SaysAuth .ok ok →
      AuthExchange env options [request, ok]
  | scram {password request answer verdict ok} : options.password = some password →
      ScramExchange env password request answer verdict → SaysAuth .ok ok →
      AuthExchange env options [request, answer, verdict, ok]

theorem AuthExchange.type_eq {env : StartupEnv} {options : Opts} {msgs : List RawMessage}
    (h : AuthExchange env options msgs) : ∀ msg ∈ msgs, msg.type = .authentication := by
  cases h with
  | trust hok =>
    obtain ⟨-, rfl⟩ := hok
    simp
  | cleartext _ hrequest hok =>
    obtain ⟨⟨-, rfl⟩, -, rfl⟩ := And.intro hrequest hok
    simp
  | md5 _ hrequest hok =>
    obtain ⟨⟨-, rfl⟩, -, rfl⟩ := And.intro hrequest hok
    simp
  | scram _ hexchange hok =>
    obtain ⟨_, _, _, _, _, _, _, _, _, -, -, -, ⟨-, rfl⟩, -, ⟨-, rfl⟩, -, -, -, -, rfl⟩ := hexchange
    obtain ⟨-, rfl⟩ := hok
    simp

/-- Parameters in order, and key data among them or not. -/
inductive Greets : List RawMessage → List (String × String) → Option BackendKeyData → Prop where
  | nil : Greets [] [] none
  | parameter {name value msgs params key} : CString name → CString value →
      Greets msgs params key →
      Greets (⟨.parameterStatus, cstr name ++ cstr value⟩ :: msgs) ((name, value) :: params) key
  | key {key msgs params} : 4 ≤ key.secretKey.length → key.secretKey.length ≤ 256 →
      Greets msgs params none → Greets (⟨.backendKeyData, key.payload⟩ :: msgs) params (some key)

/-- The messages other than notices. -/
def withoutNotices (msgs : List RawMessage) : List RawMessage :=
  msgs.filter fun msg => msg.type != .noticeResponse

/-- ReadyForQuery with a status. -/
def readyMessage (status : TransactionStatus) : RawMessage := ⟨.readyForQuery, [status.toByte]⟩

theorem parse_readyMessage (status : TransactionStatus) :
    ReadyForQuery.parse (readyMessage status).payload = .ok status := by
  simp [readyMessage, ReadyForQuery.parse]

/-! ### What the machine makes of messages -/

namespace ConnectionStateMachine

/-- The driver reads a message after this action. -/
def readsMessage : Action → Bool
  | .readMessage | .handleAsyncMessageAndReadMessage _ => true
  | _ => false

/-- A machine that looks at the messages one after the other ends up as another that looks at the
next; after a message it answers it goes on to read. -/
inductive Passes (env : StartupEnv) : ConnectionStateMachine → List RawMessage →
    ConnectionStateMachine → Prop where
  | nil {m} : Passes env m [] m
  | reads {m m₁ m' msg msgs action} : Transition env m msg action m₁ none →
      readsMessage action = true → Passes env m₁ msgs m' → Passes env m (msg :: msgs) m'
  | writes {m m₁ m' msg msgs written state} : Transition env m msg .write m₁ (some written) →
      m₁.state.afterWrite = some state → Passes env { m₁ with state } msgs m' →
      Passes env m (msg :: msgs) m'

variable {env : StartupEnv} {m m₁ m' : ConnectionStateMachine} {msgs msgs' : List RawMessage}

theorem Passes.append (h : Passes env m msgs m₁) (h' : Passes env m₁ msgs' m') :
    Passes env m (msgs ++ msgs') m' := by
  induction h with
  | nil => exact h'
  | reads htransition hreads _ ih => exact .reads htransition hreads (ih h')
  | writes htransition hstate _ ih => exact .writes htransition hstate (ih h')

/-- Messages that pass do so one part after the other. -/
theorem Passes.split (h : Passes env m (msgs ++ msgs') m') :
    ∃ m₁, Passes env m msgs m₁ ∧ Passes env m₁ msgs' m' := by
  induction msgs generalizing m with
  | nil => exact ⟨m, .nil, h⟩
  | cons msg msgs ih =>
    cases h with
    | reads htransition hreads hrest =>
      obtain ⟨m₁, h₁, h₂⟩ := ih hrest
      exact ⟨m₁, .reads htransition hreads h₁, h₂⟩
    | writes htransition hstate hrest =>
      obtain ⟨m₁, h₁, h₂⟩ := ih hrest
      exact ⟨m₁, .writes htransition hstate h₁, h₂⟩

/-- A machine to which a message is to be given. -/
def Looks (m : ConnectionStateMachine) : Prop := m.state.looks = true ∧ m.state ≠ .finished

theorem looks_of_reads {msg : RawMessage} {action : Action} {written : Option StartupMessage}
    (h : Transition env m msg action m₁ written) (hreads : readsMessage action = true)
    (hlooks : m.Looks) : m₁.Looks := by
  have hfits := Startup.fits_transition h hlooks.2
  cases action <;> first | exact Bool.noConfusion hreads | (simpa [Startup.fits, Looks] using hfits)

theorem looks_of_afterWrite {state next : ConnectionState} (h : state.afterWrite = some next) :
    next.looks = true ∧ next ≠ .finished := by
  cases state <;> cases h <;> decide

theorem Passes.looks (h : Passes env m msgs m') (hlooks : m.Looks) : m'.Looks := by
  induction h with
  | nil => exact hlooks
  | reads htransition hreads _ ih => exact ih (looks_of_reads htransition hreads hlooks)
  | writes _ hstate _ ih => exact ih (looks_of_afterWrite hstate)

/-- Notices change nothing, wherever they arrive. -/
theorem Passes.withNotices (hlooks : m.Looks) (h : Passes env m (withoutNotices msgs) m')
    (hnotices : ∀ msg ∈ msgs, msg.type = .noticeResponse → msg.wellFormed = true) :
    Passes env m msgs m' := by
  induction msgs generalizing m with
  | nil => exact h
  | cons msg msgs ih =>
    obtain ⟨hmsg, hrest⟩ := List.forall_mem_cons.mp hnotices
    by_cases htype : msg.type = .noticeResponse
    · have hasync : msg.isAsync = true := by rw [RawMessage.isAsync, htype]; rfl
      obtain ⟨note, hnote⟩ := toAsync_of_wellFormed hasync (hmsg htype)
      have hpass : Passes env m (withoutNotices msgs) m' := by
        simpa [withoutNotices, htype] using h
      exact .reads (.async hlooks.1 hnote (by simp [htype])) rfl (ih hlooks hpass hrest)
    · have hcons : withoutNotices (msg :: msgs) = msg :: withoutNotices msgs := by
        simp [withoutNotices, htype]
      rw [hcons] at h
      cases h with
      | reads htransition hreads hpass =>
        exact .reads htransition hreads (ih (looks_of_reads htransition hreads hlooks) hpass hrest)
      | writes htransition hstate hpass =>
        exact .writes htransition hstate (ih (looks_of_afterWrite hstate) hpass hrest)

/-- A SCRAM exchange passes, and leaves the machine waiting for the verdict on the client. -/
theorem passes_scram (hcrypto : env.crypto.Lawful) {password : String}
    {request answer verdict : RawMessage} (hs : m.state = .waitingAuth)
    (hpassword : m.options.password = some password)
    (h : ScramExchange env password request answer verdict) :
    ∃ scram, Passes env m [request, answer, verdict]
      { m with scramClient := some scram, state := .waitingAuthResult } := by
  obtain ⟨mechanisms, saslprep, account, suffix, salt, iterations, first, clientFinal, final, hprep,
    hsuffix, hmechanism, hrequest, hfirst, hanswer, hclientFinal, hfinal, -, hverdict⟩ := h
  have hverifier : ScramServer.Verifier.ofPassword env.crypto saslprep account salt iterations =
      ScramServer.Verifier.ofPassword env.crypto id password salt iterations := by
    unfold ScramServer.Verifier.ofPassword
    rw [hprep]
    rfl
  have hnonce :
      (ScramClient.new env.crypto env.nonceBytes password).nonce.toList.all scramPrintable = true :=
    hcrypto.encode_printable env.nonceBytes
  have hcomma := not_comma_of_printable hnonce
  have hsame : id (ScramClient.new env.crypto env.nonceBytes password).password =
      (ScramClient.new env.crypto env.nonceBytes password).password := rfl
  have hreads := ScramServer.reads_of_server hcrypto hcomma
    (ScramServer.Verifier.ofPassword env.crypto id password salt iterations) hsuffix
  have hprocess := ScramClient.processServerFirst_of_reads hreads
  have hread :
      first = ScramServer.firstOf (ScramClient.new env.crypto env.nonceBytes password) := by
    rw [ScramServer.readClientFirst_of_client rfl hnonce] at hfirst
    exact (Option.some.inj hfirst).symm
  rw [hverifier, hread] at hanswer hclientFinal hverdict
  rw [hprocess] at hclientFinal
  rw [← Outcome.ok.inj hclientFinal, ScramServer.readClientFinal_of_client hcrypto _ _
    (by simp [hcomma, hsuffix])] at hfinal
  rw [← Option.some.inj hfinal] at hverdict
  have hverify :=
    ScramServer.verifyServerFinal_of_server hcrypto hsame salt iterations suffix
  exact ⟨_, .writes (.sasl hs hrequest.isAuth hmechanism hpassword) rfl
    (.writes (.saslContinue rfl hanswer.isAuth rfl (fromUtf8_utf8 _) hprocess) rfl
      (.reads (.saslFinal rfl hverdict.isAuth rfl (fromUtf8_utf8 _) hverify) rfl .nil))⟩

/-- An authentication exchange passes. -/
theorem passes_auth (hcrypto : env.crypto.Lawful) (hs : m.state = .waitingAuth)
    (h : AuthExchange env m.options msgs) :
    ∃ scram, Passes env m msgs { m with scramClient := scram, state := .waitingReady } := by
  cases h with
  | trust hok =>
    exact ⟨m.scramClient, .reads (.trusted (.inl hs) hok.isAuth) rfl .nil⟩
  | cleartext hpassword hrequest hok =>
    exact ⟨m.scramClient, .writes (.password hs (.cleartext hrequest.isAuth hpassword)) rfl
      (.reads (.trusted (.inr rfl) hok.isAuth) rfl .nil)⟩
  | md5 hpassword hrequest hok =>
    exact ⟨m.scramClient, .writes (.password hs (.md5 hrequest.isAuth hpassword)) rfl
      (.reads (.trusted (.inr rfl) hok.isAuth) rfl .nil)⟩
  | scram hpassword hexchange hok =>
    obtain ⟨scram, hpasses⟩ := passes_scram hcrypto hs hpassword hexchange
    exact ⟨some scram, hpasses.append (.reads (.trusted (.inr rfl) hok.isAuth) rfl .nil)⟩

/-- Parameters and key data pass, and are recorded. -/
theorem passes_greets {params : List (String × String)} {key : Option BackendKeyData}
    (hs : m.state = .waitingReady) (h : Greets msgs params key) :
    Passes env m msgs { m with
      serverParams := m.serverParams ++ params, backendKey := key.or m.backendKey } := by
  induction h generalizing m with
  | nil => simpa using Passes.nil
  | @parameter name value msgs params key hname hvalue _ ih =>
    have hparse := ParameterStatus.parse_cstr hname hvalue
    have hrest := ih (m := { m with serverParams := m.serverParams ++ [(name, value)] }) hs
    refine .reads (.parameter hs rfl hparse) rfl ?_
    simpa using hrest
  | @key key msgs params hmin hmax hgreets ih =>
    have hparse := BackendKeyData.parse_payload hmin hmax
    have hrest := ih (m := { m with backendKey := some key }) hs
    exact .reads (.key hs rfl hparse) rfl hrest

end ConnectionStateMachine

/-! ### Runs on a transcript -/

namespace Startup

open ConnectionStateMachine

/-- What the driver reads from the server. -/
def given (feeds : List Feed) : List Feed := feeds.filter fun fed => fed != .nothing

/-- The driver comes from one point to another while it reads just this. -/
def Leads (env : StartupEnv) (s : Startup) (inputs : List Feed) (s' : Startup) : Prop :=
  ∃ feeds, given feeds = inputs ∧ runSteps (turn env) s feeds = some s'

/-- The driver is about to read a message for the machine. -/
def Awaits (s : Startup) (m : ConnectionStateMachine) : Prop :=
  s.machine = m ∧ ∀ msg, Feed.serves (.message msg) s.last = true

variable {env : StartupEnv} {s s₁ s' : Startup} {m m₁ m' : ConnectionStateMachine}

theorem Leads.trans {xs ys : List Feed} (h : Leads env s xs s₁) (h' : Leads env s₁ ys s') :
    Leads env s (xs ++ ys) s' := by
  obtain ⟨feeds, hgiven, hrun⟩ := h
  obtain ⟨feeds', hgiven', hrun'⟩ := h'
  refine ⟨feeds ++ feeds', by simp [given, ← hgiven, ← hgiven'], ?_⟩
  rw [runSteps_append, hrun]
  exact hrun'

/-- A transition the driver is ready for is a turn. -/
theorem turn_of_transition (env : StartupEnv) {fed : Feed} {action : Action}
    {written : Option StartupMessage} (hserves : fed.serves s.last = true)
    (h : Transition env (s.give fed).1 (s.give fed).2.loaded action m' written) :
    ∃ s', turn env s fed = some s' ∧ s'.machine = m' ∧ s'.last = some action := by
  refine ⟨⟨m', (s.give fed).2.after written,
    s.taken ++ [⟨fed, action, ((s.give fed).2.after written).writeBuffer⟩]⟩, ?_, rfl, ?_⟩
  · have hstep : step env (s.give fed) = _ := h.step
    unfold turn
    rw [if_pos hserves, hstep]
  · simp [Startup.last]

theorem turn_message {msg : RawMessage} {action : Action} {written : Option StartupMessage}
    (h : s.Awaits m) (htransition : Transition env m msg action m₁ written) :
    ∃ s', turn env s (.message msg) = some s' ∧ s'.machine = m₁ ∧ s'.last = some action := by
  obtain ⟨rfl, hserves⟩ := h
  exact turn_of_transition env (hserves msg) htransition

/-- After a write the driver steps the machine, which goes on to read. -/
theorem turn_read (env : StartupEnv) {state : ConnectionState} (hlast : s.last = some .write)
    (hstate : s.machine.state.afterWrite = some state) :
    ∃ s', turn env s .nothing = some s' ∧ s'.Awaits { s.machine with state } := by
  have hserves : Feed.nothing.serves s.last = true := by rw [hlast]; rfl
  have htransition : Transition env s.machine s.buffers.loaded .readMessage
      { s.machine with state } none := .read hstate
  obtain ⟨s', hturn, hmachine, hlast'⟩ := turn_of_transition env hserves htransition
  exact ⟨s', hturn, hmachine, fun msg => by rw [hlast']; rfl⟩

/-- Messages the machine passes are read one after the other. -/
theorem leads_of_passes {msgs : List RawMessage} (h : Passes env m msgs m') (hs : s.Awaits m) :
    ∃ s', Leads env s (msgs.map .message) s' ∧ s'.Awaits m' := by
  induction h generalizing s with
  | nil => exact ⟨s, ⟨[], rfl, rfl⟩, hs⟩
  | @reads m m₁ m' msg msgs action htransition hreads _ ih =>
    obtain ⟨s₁, hturn, hmachine, hlast⟩ := turn_message hs htransition
    have hs₁ : s₁.Awaits m₁ := by
      refine ⟨hmachine, fun msg => ?_⟩
      rw [hlast]
      cases action <;> first | rfl | exact Bool.noConfusion hreads
    obtain ⟨s', hrest, hs'⟩ := ih hs₁
    have hone : Leads env s [.message msg] s₁ := ⟨[.message msg], rfl, by simp [runSteps, hturn]⟩
    exact ⟨s', hone.trans hrest, hs'⟩
  | @writes m m₁ m' msg msgs written state htransition hstate _ ih =>
    obtain ⟨s₁, hturn, hmachine, hlast⟩ := turn_message hs htransition
    obtain ⟨s₂, hturn', hs₂⟩ := turn_read env hlast (hmachine ▸ hstate)
    rw [hmachine] at hs₂
    obtain ⟨s', hrest, hs'⟩ := ih hs₂
    have hone : Leads env s [.message msg] s₂ :=
      ⟨[.message msg, .nothing], rfl, by simp [runSteps, hturn, hturn']⟩
    exact ⟨s', hone.trans hrest, hs'⟩

/-- A machine that may begin writes its startup message, and goes on to read. -/
theorem leads_of_mayBegin {fed : Feed} (hserves : fed.serves s.last = true)
    (hbegin : MayBegin env (s.give fed).1) :
    ∃ s', Leads env s (given [fed]) s' ∧
      s'.Awaits { (s.give fed).1 with state := .waitingAuth } := by
  obtain ⟨s₁, hturn, hmachine, hlast⟩ := turn_of_transition env hserves (.begin hbegin)
  obtain ⟨s₂, hturn', hs₂⟩ := turn_read env hlast (by rw [hmachine]; rfl)
  rw [hmachine] at hs₂
  exact ⟨s₂, ⟨[fed, .nothing], by cases fed <;> rfl, by simp [runSteps, hturn, hturn']⟩, hs₂⟩

/-- The machine once its startup message is out. -/
def started (options : Opts) (response : UInt8) : ConnectionStateMachine :=
  { ConnectionStateMachine.new options with state := .waitingAuth, sslResponse := response }

theorem started_looks (options : Opts) (response : UInt8) : (started options response).Looks :=
  ⟨rfl, by simp [started]⟩

/-- Everything a conformant server sends before ReadyForQuery passes, and is recorded. -/
theorem passes_transcript (hcrypto : env.crypto.Lawful) {options : Opts} (response : UInt8)
    {auth greeting body : List RawMessage} (hauth : AuthExchange env options auth)
    {params : List (String × String)} {key : Option BackendKeyData}
    (hgreets : Greets greeting params key) (hbody : withoutNotices body = auth ++ greeting)
    (hnotices : ∀ msg ∈ body, msg.type = .noticeResponse → msg.wellFormed = true) :
    ∃ m', Passes env (started options response) body m' ∧ m'.state = .waitingReady ∧
      m'.serverParams = params ∧ m'.backendKey = key := by
  obtain ⟨scram, hpasses⟩ := passes_auth (m := started options response) hcrypto rfl hauth
  have hall := hpasses.append (passes_greets rfl hgreets)
  rw [← hbody] at hall
  exact ⟨_, hall.withNotices (started_looks options response) hnotices, rfl, rfl,
    Option.or_none⟩

/-- The driver negotiates TLS and sends the startup message. -/
theorem leads_of_negotiates {options : Opts} (buffers : StartupBuffers) {ssl : List Feed}
    (h : Negotiates env options ssl) :
    ∃ s response, Leads env (.new options buffers) ssl s ∧ s.Awaits (started options response) := by
  have hrequest : options.sslMode ≠ .disable → env.clientSupportsTls = true →
      ∃ s₁, turn env (.new options buffers) .nothing = some s₁ ∧
        s₁.machine = { ConnectionStateMachine.new options with state := .waitingSslResponse } ∧
        s₁.last = some .writeAndReadByte :=
    fun hmode htls => turn_of_transition env rfl (.requestSsl rfl hmode htls)
  cases h with
  | plain hmode htls =>
    have hbegin : MayBegin env ((new options buffers).give .nothing).1 := .plain rfl hmode htls
    obtain ⟨s, hleads, hs⟩ := leads_of_mayBegin rfl hbegin
    exact ⟨s, 0, hleads, hs⟩
  | accepted hmode htls =>
    obtain ⟨s₁, hturn₁, hmachine₁, hlast₁⟩ := hrequest hmode htls
    have hgive : (s₁.give (.byte 83)).1 = { ConnectionStateMachine.new options with
        state := .waitingSslResponse, sslResponse := 83 } := by
      show { s₁.machine with sslResponse := 83 } = _
      rw [hmachine₁]
    have hserves : Feed.serves (.byte 83) s₁.last = true := by rw [hlast₁]; rfl
    obtain ⟨s₂, hturn₂, hmachine₂, hlast₂⟩ := turn_of_transition env hserves
      (.handshake (by rw [hgive]) (by rw [hgive]))
    rw [hgive] at hmachine₂
    have hbegin : MayBegin env (s₂.give .nothing).1 := .secured (by rw [give_state, hmachine₂])
    obtain ⟨s, hleads, hs⟩ := leads_of_mayBegin (by rw [hlast₂]; rfl) hbegin
    have hfirst : Leads env (.new options buffers) [.byte 83] s₂ :=
      ⟨[.nothing, .byte 83], rfl, by simp [runSteps, hturn₁, hturn₂]⟩
    have hgive₂ : (s₂.give .nothing).1 = s₂.machine := rfl
    rw [hgive₂, hmachine₂] at hs
    exact ⟨s, 83, hfirst.trans hleads, hs⟩
  | refused hmode htls =>
    obtain ⟨s₁, hturn₁, hmachine₁, hlast₁⟩ := hrequest (by rw [hmode]; decide) htls
    have hgive : (s₁.give (.byte 78)).1 = { ConnectionStateMachine.new options with
        state := .waitingSslResponse, sslResponse := 78 } := by
      show { s₁.machine with sslResponse := 78 } = _
      rw [hmachine₁]
    have hplain : options.sslMode ≠ .require := by rw [hmode]; decide
    have hbegin : MayBegin env (s₁.give (.byte 78)).1 :=
      .refused (by rw [hgive]) (by rw [hgive]) (by rw [hgive]; exact hplain)
    obtain ⟨s, hleads, hs⟩ := leads_of_mayBegin (by rw [hlast₁]; rfl) hbegin
    have hfirst : Leads env (.new options buffers) [] s₁ :=
      ⟨[.nothing], rfl, by simp [runSteps, hturn₁]⟩
    rw [hgive] at hs
    exact ⟨s, 78, hfirst.trans hleads, hs⟩

/-- What the driver gives next is settled by the action: a message or a byte, or nothing. -/
theorem serves_nothing {action : Option Action} {fed fed' : Feed} (h : fed.serves action = true)
    (h' : fed'.serves action = true) : fed = .nothing ↔ fed' = .nothing := by
  cases action with
  | none =>
    cases fed <;> cases fed' <;> first
      | exact Iff.rfl
      | exact Bool.noConfusion h
      | exact Bool.noConfusion h'
  | some action =>
    cases action <;> cases fed <;> cases fed' <;> first
      | exact Bool.noConfusion h
      | exact Bool.noConfusion h'
      | simp

/-- A machine that has finished takes no further turn. -/
theorem turn_finished {fed : Feed} (h : s.last = some .finished) : turn env s fed = none := by
  unfold turn
  rw [h]
  cases fed <;> rfl

/-- What the driver reads settles the run: two runs that finish, the one on a part of what the
other reads, are the same. -/
theorem finished_unique {feeds feeds' : List Feed} (hrun : runSteps (turn env) s feeds = some s₁)
    (hlast : s₁.last = some .finished) (hrun' : runSteps (turn env) s feeds' = some s')
    (hlast' : s'.last = some .finished) (hgiven : given feeds' <+: given feeds) :
    feeds' = feeds := by
  induction feeds' generalizing s feeds with
  | nil =>
    cases hrun'
    cases feeds with
    | nil => rfl
    | cons fed feeds =>
      rw [runSteps, turn_finished hlast'] at hrun
      cases hrun
  | cons fed' feeds' ih =>
    cases feeds with
    | nil =>
      cases hrun
      rw [runSteps, turn_finished hlast] at hrun'
      cases hrun'
    | cons fed feeds =>
      obtain ⟨t, hturn, hrun⟩ := Option.bind_eq_some_iff.mp hrun
      obtain ⟨t', hturn', hrun'⟩ := Option.bind_eq_some_iff.mp hrun'
      obtain ⟨_, _, hturned⟩ := turn_cases hturn
      obtain ⟨_, _, hturned'⟩ := turn_cases hturn'
      have hnothing := serves_nothing hturned.serves hturned'.serves
      have hsame : fed' = fed ∧ given feeds' <+: given feeds := by
        by_cases hfed : fed = .nothing
        · have hfed' := hnothing.mp hfed
          rw [hfed, hfed'] at hgiven
          exact ⟨hfed'.trans hfed.symm, hgiven⟩
        · have hfed' : fed' ≠ .nothing := fun h => hfed (hnothing.mpr h)
          have hcons : ∀ (fed : Feed) (feeds : List Feed), fed ≠ .nothing →
              given (fed :: feeds) = fed :: given feeds := by
            intro fed feeds hne
            simp [given, hne]
          rw [hcons _ _ hfed, hcons _ _ hfed'] at hgiven
          exact List.cons_prefix_cons.mp hgiven
      obtain ⟨rfl, hprefix⟩ := hsame
      obtain rfl : t' = t := Option.some.inj (hturn'.symm.trans hturn)
      rw [ih hrun hrun' hprefix]

/-- An ErrorResponse in place of the message a machine looks at is returned as it is. -/
theorem step_error {e : ServerError} {err : RawMessage} (hlooks : s.machine.state.looks = true)
    (herr : IsError e err) : (step env (s.give (.message err))).1 = .err (.server e) := by
  obtain ⟨htype, hparse⟩ := herr
  have hgive : s.give (.message err) =
      (s.machine, { s.buffers with typeByte := .errorResponse, readBuffer := err.payload }) := by
    rw [← htype]
    rfl
  rw [hgive, step_of_looks hlooks, handleMessage, Act.bind_run, Act.get_run]
  have hsync : ¬ (MsgType.errorResponse.isAsync = true ∧
      ¬ (s.machine.state = .waitingReady ∧ MsgType.errorResponse = .parameterStatus)) := by
    rintro ⟨hasync, -⟩
    cases hasync
  simp only [if_neg hsync, if_true, Act.bind_run, Act.lift_run, hparse]
  rfl

/-- **Startup with a conformant server.** On every transcript, with notices anywhere before
ReadyForQuery, the machine finishes with ReadyForQuery and not before, and has recorded the
parameters in order, the key data and the status. An ErrorResponse in place of any message is
returned as the error it carries. -/
theorem startup_conforms (env : StartupEnv) (hcrypto : env.crypto.Lawful) (options : Opts)
    (buffers : StartupBuffers) {ssl : List Feed} (hssl : Negotiates env options ssl)
    {auth greeting body : List RawMessage} (hauth : AuthExchange env options auth)
    {params : List (String × String)} {key : Option BackendKeyData}
    (hgreets : Greets greeting params key) (hbody : withoutNotices body = auth ++ greeting)
    (hnotices : ∀ msg ∈ body, msg.type = .noticeResponse → msg.wellFormed = true)
    (status : TransactionStatus) :
    let transcript := ssl ++ (body ++ [readyMessage status]).map .message
    (∃ feeds s, given feeds = transcript ∧
      runSteps (turn env) (.new options buffers) feeds = some s ∧ s.last = some .finished ∧
      s.machine.serverParams = params ∧ s.machine.backendKey = key ∧
      s.machine.transactionStatus = status ∧
      ∀ feeds' s', given feeds' <+: transcript →
        runSteps (turn env) (.new options buffers) feeds' = some s' →
        s'.last = some .finished → feeds' = feeds) ∧
    ∀ before msg after, body ++ [readyMessage status] = before ++ msg :: after →
      ∀ e err, IsError e err →
        ∃ feeds s, given feeds = ssl ++ before.map .message ∧
          runSteps (turn env) (.new options buffers) feeds = some s ∧
          Feed.serves (.message err) s.last = true ∧
          (step env (s.give (.message err))).1 = .err (.server e) := by
  intro transcript
  obtain ⟨s₀, response, hstart, hs₀⟩ := leads_of_negotiates buffers hssl
  obtain ⟨m', hpasses, hstate, hparams, hkey⟩ :=
    passes_transcript hcrypto response hauth hgreets hbody hnotices
  have hreads : ∀ {xs m}, Passes env (started options response) xs m →
      ∃ s, Leads env (.new options buffers) (ssl ++ xs.map .message) s ∧ s.Awaits m := by
    intro xs m hxs
    obtain ⟨s, hleads, hs⟩ := leads_of_passes hxs hs₀
    exact ⟨s, hstart.trans hleads, hs⟩
  refine ⟨?_, ?_⟩
  · obtain ⟨s₁, ⟨feeds, hgiven, hrun⟩, hs₁⟩ := hreads hpasses
    have hready : Transition env m' (readyMessage status) .finished
        { m' with transactionStatus := status, state := .finished } none :=
      .ready hstate rfl (parse_readyMessage status)
    obtain ⟨s, hturn, hmachine, hlast⟩ := turn_message hs₁ hready
    have hall : runSteps (turn env) (.new options buffers)
        (feeds ++ [.message (readyMessage status)]) = some s := by
      rw [runSteps_append, hrun]
      simp [runSteps, hturn]
    have hgivenAll : given (feeds ++ [.message (readyMessage status)]) = transcript := by
      rw [given, List.filter_append, ← given, hgiven]
      simp [transcript]
    refine ⟨_, s, hgivenAll, hall, hlast, by rw [hmachine, hparams], by rw [hmachine, hkey],
      by rw [hmachine], ?_⟩
    intro feeds' s' hprefix hrun' hlast'
    exact finished_unique hall hlast hrun' hlast' (hgivenAll ▸ hprefix)
  · intro before msg after heq e err herr
    have hbefore : ∃ m, Passes env (started options response) before m := by
      have hprefix : before <+: body := by
        have hlength := congrArg List.length heq
        simp only [List.length_append, List.length_cons, List.length_nil] at hlength
        have hwhole : before <+: body ++ [readyMessage status] := ⟨msg :: after, heq.symm⟩
        exact List.prefix_of_prefix_length_le hwhole (List.prefix_append _ _) (by omega)
      obtain ⟨rest, hrest⟩ := hprefix
      rw [← hrest] at hpasses
      obtain ⟨m, hm, -⟩ := hpasses.split
      exact ⟨m, hm⟩
    obtain ⟨m, hm⟩ := hbefore
    obtain ⟨s, ⟨feeds, hgiven, hrun⟩, hs⟩ := hreads hm
    exact ⟨feeds, s, hgiven, hrun, hs.2 err,
      step_error (hs.1 ▸ (hm.looks (started_looks options response)).1) herr⟩

/-- A server with a verifier of the password gets through its exchange with the client, whatever
salt, iteration count and nonce it has. -/
theorem scramExchange_of_verifier (env : StartupEnv) (hcrypto : env.crypto.Lawful)
    (password : String) (salt : Bytes) (iterations : UInt32) {suffix : String}
    (hsuffix : ',' ∉ suffix.toList) : ∃ answer verdict,
    ScramExchange env password
      ⟨.authentication, AuthenticationMessage.payload (.sasl ["SCRAM-SHA-256"])⟩ answer
      verdict := by
  have hnonce :
      (ScramClient.new env.crypto env.nonceBytes password).nonce.toList.all scramPrintable = true :=
    hcrypto.encode_printable env.nonceBytes
  have hcomma := not_comma_of_printable hnonce
  have hsame : id (ScramClient.new env.crypto env.nonceBytes password).password =
      (ScramClient.new env.crypto env.nonceBytes password).password := rfl
  have hreads := ScramServer.reads_of_server hcrypto hcomma
    (ScramServer.Verifier.ofPassword env.crypto id password salt iterations) hsuffix
  have hname : AuthenticationMessage.CMechanism "SCRAM-SHA-256" := by decide +kernel
  exact ⟨_, _, ["SCRAM-SHA-256"], id, password, suffix, salt, iterations, _, _, _, rfl, hsuffix,
    by simp, ⟨by simp [AuthenticationMessage.Sendable, hname], rfl⟩,
    ScramServer.readClientFirst_of_client rfl hnonce, ⟨trivial, rfl⟩,
    congrArg Prod.fst (ScramClient.processServerFirst_of_reads hreads),
    ScramServer.readClientFinal_of_client hcrypto _ _ (by simp [hcomma, hsuffix]) _ _,
    ScramServer.accepts_of_client hcrypto rfl hsame salt iterations suffix, trivial, rfl⟩

/-- A parameter and key data. -/
def sampleGreeting : List RawMessage :=
  [⟨.parameterStatus, cstr "a" ++ cstr "b"⟩,
    ⟨.backendKeyData, BackendKeyData.payload ⟨7, [1, 2, 3, 4]⟩⟩]

theorem sampleGreeting_greets :
    Greets sampleGreeting [("a", "b")] (some ⟨7, [1, 2, 3, 4]⟩) :=
  .parameter (by decide +kernel) (by decide +kernel) (.key (by decide) (by decide) .nil)

/-- A SCRAM exchange after a notice, with a parameter and key data, is one of the transcripts. -/
theorem startup_conforms_scram :
    ∃ auth, AuthExchange pencilEnv pencilOptions auth ∧
      ∃ feeds s, given feeds = ((⟨.noticeResponse, [0]⟩ :: (auth ++ sampleGreeting)) ++
          [readyMessage .idle]).map .message ∧
        runSteps (turn pencilEnv) (.new pencilOptions ⟨.other 0, [], []⟩) feeds = some s ∧
        s.last = some .finished ∧ s.machine.serverParams = [("a", "b")] := by
  have hcrypto : pencilEnv.crypto.Lawful := ScramServer.recorded_lawful _ _ _ _
  have hsuffix : ',' ∉ ScramServer.pencilSuffix.toList := by decide +kernel
  obtain ⟨answer, verdict, hexchange⟩ := scramExchange_of_verifier pencilEnv hcrypto "pencil"
    ScramServer.pencilSalt 4096 hsuffix
  have hauth : AuthExchange pencilEnv pencilOptions _ := .scram rfl hexchange ⟨trivial, rfl⟩
  refine ⟨_, hauth, ?_⟩
  generalize [_, answer, verdict, _] = auth at hauth ⊢
  have hplain : ∀ msg ∈ auth ++ sampleGreeting, msg.type ≠ .noticeResponse := by
    intro msg hmsg
    rcases List.mem_append.mp hmsg with hmsg | hmsg
    · rw [hauth.type_eq msg hmsg]
      decide
    · have hall : ∀ msg ∈ sampleGreeting, msg.type ≠ .noticeResponse := by decide
      exact hall msg hmsg
  have hbody : withoutNotices (⟨.noticeResponse, [0]⟩ :: (auth ++ sampleGreeting)) =
      auth ++ sampleGreeting := by
    rw [withoutNotices, List.filter_cons_of_neg (by decide)]
    apply List.filter_eq_self.mpr
    intro msg hmsg
    simpa using hplain msg hmsg
  have hnotices : ∀ msg ∈ (⟨.noticeResponse, [0]⟩ : RawMessage) :: (auth ++ sampleGreeting),
      msg.type = .noticeResponse → msg.wellFormed = true := by
    intro msg hmsg htype
    rcases List.mem_cons.mp hmsg with rfl | hmsg
    · rfl
    · exact absurd htype (hplain msg hmsg)
  obtain ⟨⟨feeds, s, hgiven, hrun, hlast, hparams, -⟩, -⟩ := startup_conforms pencilEnv hcrypto
    pencilOptions ⟨.other 0, [], []⟩ (.plain (by decide) fun _ => rfl) hauth sampleGreeting_greets
    hbody hnotices .idle
  exact ⟨feeds, s, hgiven, hrun, hlast, hparams⟩

end Startup

end ZeroPostgres
