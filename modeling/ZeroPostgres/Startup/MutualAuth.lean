import ZeroPostgres.Startup.Session
import ZeroPostgres.Startup.ScramServer

/-!
# The server proves that it knows the password

Once a server has asked for SASL authentication the machine finishes only after the server's
signature was verified. `Authenticates` is the invariant: while the exchange is under way the SCRAM
client is the one whose first message went out, or that client after it answered the latest
server-first-message.
-/

namespace ZeroPostgres

/-- The authentication message in what the machine was given. -/
def Feed.auth? : Feed → Option AuthenticationMessage
  | .message msg =>
    if msg.type = .authentication then
      match AuthenticationMessage.parse msg.payload with
      | .ok auth => some auth
      | _ => none
    else none
  | _ => none

theorem Feed.auth?_message {msg : RawMessage} {auth : AuthenticationMessage}
    (h : IsAuth auth msg) : (Feed.message msg).auth? = some auth := by
  obtain ⟨htype, hparse⟩ := h
  simp [Feed.auth?, htype, hparse]

theorem Feed.auth?_of_type {msg : RawMessage} (h : msg.type ≠ .authentication) :
    (Feed.message msg).auth? = none := by
  simp [Feed.auth?, h]

/-- The server has asked for SASL authentication. -/
def Requested (taken : List Taken) : Prop :=
  ∃ t ∈ taken, ∃ mechanisms, t.fed.auth? = some (.sasl mechanisms)

/-- The first message of this SCRAM client went out in answer to the request. -/
def Began (taken : List Taken) (scram : ScramClient) : Prop :=
  ∃ t ∈ taken, (∃ mechanisms, t.fed.auth? = some (.sasl mechanisms)) ∧ t.action = .write ∧
    t.buffered = [.saslInitialResponse "SCRAM-SHA-256" (utf8 scram.clientFirstMessage)]

/-- The latest server-first-message, and the client-final-message that went out in answer to it. -/
def Latest (taken : List Taken) (serverFirst clientFinal : String) : Prop :=
  ∃ before t after data, taken = before ++ t :: after ∧ t.fed.auth? = some (.saslContinue data) ∧
    fromUtf8 data = some serverFirst ∧ t.action = .write ∧
    t.buffered = [.saslResponse (utf8 clientFinal)] ∧
    ∀ t' ∈ after, ∀ data', t'.fed.auth? ≠ some (.saslContinue data')

/-- A server-final-message passed verification: it carries the signature of the message made of
the client's first message, the latest server-first-message and the answer to it, under the key
derived from the password. -/
def Verified (env : StartupEnv) (options : Opts) (taken : List Taken) : Prop :=
  ∃ before t after password data serverFinal serverFirst nonce salt iterations,
    taken = before ++ t :: after ∧ options.password = some password ∧
    t.fed.auth? = some (.saslFinal data) ∧ fromUtf8 data = some serverFinal ∧
    let scram := ScramClient.new env.crypto env.nonceBytes password
    Began before scram ∧ scram.Reads env.crypto serverFirst nonce salt iterations ∧
    Latest before serverFirst
      (scram.clientFinalMessage env.crypto serverFirst nonce salt iterations) ∧
    (scram.answered env.crypto serverFirst nonce salt iterations).verifyServerFinal env.crypto
      serverFinal = .ok () ∧
    ScramClient.signatureOf env.crypto serverFinal =
      some (env.crypto.hmac
        (env.crypto.hmac (env.crypto.pbkdf2 (utf8 password) salt iterations) (utf8 "Server Key"))
        (utf8 (scram.clientFirstMessageBare ++ "," ++ serverFirst ++ "," ++
          scram.clientFinalWithoutProof env.crypto nonce)))

section Append

variable {taken : List Taken} {t : Taken}

theorem requested_append (ht : ∀ mechanisms, t.fed.auth? ≠ some (.sasl mechanisms)) :
    Requested (taken ++ [t]) ↔ Requested taken := by
  constructor
  · rintro ⟨t', ht', mechanisms, hauth⟩
    rcases List.mem_append.mp ht' with ht' | ht'
    · exact ⟨t', ht', mechanisms, hauth⟩
    · rw [List.mem_singleton.mp ht'] at hauth
      exact absurd hauth (ht mechanisms)
  · rintro ⟨t', ht', h⟩
    exact ⟨t', List.mem_append_left _ ht', h⟩

theorem Began.append {scram : ScramClient} (h : Began taken scram) :
    Began (taken ++ [t]) scram := by
  obtain ⟨t', ht', h⟩ := h
  exact ⟨t', List.mem_append_left _ ht', h⟩

theorem Latest.append {serverFirst clientFinal : String} (h : Latest taken serverFirst clientFinal)
    (ht : ∀ data, t.fed.auth? ≠ some (.saslContinue data)) :
    Latest (taken ++ [t]) serverFirst clientFinal := by
  obtain ⟨before, t', after, data, rfl, hauth, htext, haction, hbuffered, hafter⟩ := h
  refine ⟨before, t', after ++ [t], data, by simp, hauth, htext, haction, hbuffered, ?_⟩
  intro t'' ht''
  rcases List.mem_append.mp ht'' with ht'' | ht''
  · exact hafter t'' ht''
  · rw [List.mem_singleton.mp ht'']
    exact ht

theorem Verified.append {env : StartupEnv} {options : Opts} (h : Verified env options taken) :
    Verified env options (taken ++ [t]) := by
  obtain ⟨before, t', after, password, data, serverFinal, serverFirst, nonce, salt, iterations, rfl,
    h⟩ := h
  exact ⟨before, t', after ++ [t], password, data, serverFinal, serverFirst, nonce, salt,
    iterations, by simp, h⟩

end Append

namespace Startup

open ConnectionStateMachine

/-- How far the SCRAM exchange has come. -/
inductive Exchange (env : StartupEnv) (options : Opts) (taken : List Taken) :
    Option ScramClient → Prop where
  | begun {password} : options.password = some password →
      Began taken (.new env.crypto env.nonceBytes password) →
      Exchange env options taken (some (.new env.crypto env.nonceBytes password))
  | answered {password serverFirst nonce salt iterations} : options.password = some password →
      Began taken (.new env.crypto env.nonceBytes password) →
      (ScramClient.new env.crypto env.nonceBytes password).Reads env.crypto serverFirst nonce salt
        iterations →
      Latest taken serverFirst
        ((ScramClient.new env.crypto env.nonceBytes password).clientFinalMessage env.crypto
          serverFirst nonce salt iterations) →
      Exchange env options taken
        (some ((ScramClient.new env.crypto env.nonceBytes password).answered env.crypto
          serverFirst nonce salt iterations))

/-- What holds of the steps so far in a state of the machine. -/
def Authenticates (env : StartupEnv) (options : Opts) (taken : List Taken)
    (scram : Option ScramClient) : ConnectionState → Prop
  | .initial | .waitingSslResponse | .waitingTlsHandshake | .waitingAuthRead | .waitingAuth =>
    ¬ Requested taken
  | .saslInProgressRead | .saslInProgress => Exchange env options taken scram
  | _ => Requested taken → Verified env options taken

variable {env : StartupEnv} {options : Opts} {taken : List Taken} {t : Taken}
  {scram : Option ScramClient}

theorem Exchange.append (h : Exchange env options taken scram)
    (ht : ∀ data, t.fed.auth? ≠ some (.saslContinue data)) :
    Exchange env options (taken ++ [t]) scram := by
  cases h with
  | begun hpassword hbegan => exact .begun hpassword hbegan.append
  | answered hpassword hbegan hreads hlatest =>
    exact .answered hpassword hbegan.append hreads (hlatest.append ht)

/-- A step that is given no SASL request and no server-first-message changes nothing. -/
theorem Authenticates.append {state : ConnectionState}
    (h : Authenticates env options taken scram state)
    (hrequest : ∀ mechanisms, t.fed.auth? ≠ some (.sasl mechanisms))
    (hcontinue : ∀ data, t.fed.auth? ≠ some (.saslContinue data)) :
    Authenticates env options (taken ++ [t]) scram state := by
  cases state with
  | saslInProgressRead | saslInProgress => exact Exchange.append h hcontinue
  | waitingAuthResultRead | waitingAuthResult | waitingReady | finished =>
    intro hrequested
    exact (h ((requested_append hrequest).mp hrequested)).append
  | _ =>
    intro hrequested
    exact h ((requested_append hrequest).mp hrequested)

/-- A client in the exchange that reads a server-first-message answers it as the first client
would. -/
theorem Exchange.answer {client scram' : ScramClient} {serverFirst clientFinal : String}
    {data : Bytes} (h : Exchange env options taken (some client))
    (hauth : t.fed.auth? = some (.saslContinue data)) (htext : fromUtf8 data = some serverFirst)
    (hprocess : ScramClient.processServerFirst env.crypto serverFirst client =
      (.ok clientFinal, scram'))
    (haction : t.action = .write) (hbuffered : t.buffered = [.saslResponse (utf8 clientFinal)]) :
    Exchange env options (taken ++ [t]) (some scram') := by
  obtain ⟨nonce, salt, iterations, hreads, rfl, rfl⟩ := ScramClient.reads_of_ok hprocess
  cases h with
  | begun hpassword hbegan =>
    exact .answered hpassword hbegan.append hreads
      ⟨taken, t, [], data, rfl, hauth, htext, haction, hbuffered, by simp⟩
  | answered hpassword hbegan _ _ =>
    exact .answered hpassword hbegan.append hreads.of_answered
      ⟨taken, t, [], data, rfl, hauth, htext, haction, hbuffered, by simp⟩

/-- A client that accepts a server-final-message has verified the signature it waits for. -/
theorem Exchange.verified {client : ScramClient} {serverFinal : String} {data : Bytes}
    (h : Exchange env options taken (some client))
    (hauth : t.fed.auth? = some (.saslFinal data)) (htext : fromUtf8 data = some serverFinal)
    (hverify : client.verifyServerFinal env.crypto serverFinal = .ok ()) :
    Verified env options (taken ++ [t]) := by
  have hsignature := ScramClient.verifyServerFinal_ok_iff.mp hverify
  obtain ⟨salted, auth, hsalted, hsigned, hsignature⟩ := hsignature
  cases h with
  | begun _ _ => cases hsalted
  | answered hpassword hbegan hreads hlatest =>
    cases hsalted
    cases hsigned
    exact ⟨taken, t, [], _, data, serverFinal, _, _, _, _, rfl, hpassword, hauth, htext, hbegan,
      hreads, hlatest, hverify, hsignature⟩

variable {m m' : ConnectionStateMachine} {msg : RawMessage} {action : Action}
  {written : Option StartupMessage}

/-- A transition without a message keeps what held. -/
theorem Authenticates.quiet (h : Authenticates env options taken m.scramClient m.state)
    (htransition : Transition env m msg action m' written) (hlooks : m.state.looks = false)
    (ht : t.fed.auth? = none) :
    Authenticates env options (taken ++ [t]) m'.scramClient m'.state := by
  have happend := h.append (t := t) (by simp [ht]) (by simp [ht])
  cases htransition with
  | requestSsl hs _ _ =>
    rw [hs] at happend
    exact happend
  | begin hbegin =>
    cases hbegin with
    | plain hs _ _ | refused hs _ _ | secured hs =>
      rw [hs] at happend
      exact happend
  | handshake hs _ =>
    rw [hs] at happend
    exact happend
  | read hs =>
    cases hstate : m.state <;> rw [hstate] at hs happend <;> cases hs <;> exact happend
  | trusted hs _ => rcases hs with hs | hs <;> rw [hs] at hlooks <;> cases hlooks
  | async hs _ _ => rw [hs] at hlooks; cases hlooks
  | _ hs => rw [hs] at hlooks; cases hlooks

theorem auth?_ne {auth auth' : AuthenticationMessage} (h : t.fed = .message msg)
    (hauth : IsAuth auth msg) (hne : auth ≠ auth') : t.fed.auth? ≠ some auth' := by
  rw [h, Feed.auth?_message hauth]
  simpa using hne

theorem Authenticates.message (h : Authenticates env options taken m.scramClient m.state)
    (hoptions : m.options = options)
    (htransition : Transition env m msg action m' written) (hlooks : m.state.looks = true)
    (ht : t.fed = .message msg) (haction : t.action = action)
    (hbuffered : ∀ message, written = some message → t.buffered = [message]) :
    Authenticates env options (taken ++ [t]) m'.scramClient m'.state := by
  have hother : msg.type ≠ .authentication →
      Authenticates env options (taken ++ [t]) m.scramClient m.state := by
    intro htype
    have hnone : t.fed.auth? = none := by rw [ht, Feed.auth?_of_type htype]
    exact h.append (by simp [hnone]) (by simp [hnone])
  have hauth : ∀ {auth}, IsAuth auth msg → (∀ mechanisms, auth ≠ .sasl mechanisms) →
      (∀ data, auth ≠ .saslContinue data) →
      Authenticates env options (taken ++ [t]) m.scramClient m.state :=
    fun hmsg hrequest hcontinue => h.append
      (fun mechanisms => auth?_ne ht hmsg (hrequest mechanisms))
      (fun data => auth?_ne ht hmsg (hcontinue data))
  cases htransition with
  | trusted hs hmsg =>
    have happend := hauth hmsg nofun nofun
    rcases hs with hs | hs
    · rw [hs] at happend
      exact fun hrequested => absurd hrequested happend
    · rw [hs] at happend
      exact happend
  | password hs hasks =>
    have hrequested : ¬ Requested (taken ++ [t]) := by
      cases hasks with
      | cleartext hmsg _ | md5 hmsg _ =>
        have happend := hauth hmsg nofun nofun
        rw [hs] at happend
        exact happend
    exact fun h => absurd h hrequested
  | sasl hs hmsg _ hpassword =>
    have hasked : ∃ mechanisms, t.fed.auth? = some (.sasl mechanisms) :=
      ⟨_, by rw [ht, Feed.auth?_message hmsg]⟩
    exact .begun (hoptions ▸ hpassword) ⟨t, by simp, hasked, haction, hbuffered _ rfl⟩
  | saslContinue hs hmsg hscram htext hprocess =>
    rw [hs, hscram] at h
    exact Exchange.answer h (by rw [ht, Feed.auth?_message hmsg]) htext hprocess haction
      (hbuffered _ rfl)
  | saslFinal hs hmsg hscram htext hverify =>
    rw [hs, hscram] at h
    exact fun _ => Exchange.verified h (by rw [ht, Feed.auth?_message hmsg]) htext hverify
  | async hs hnote _ =>
    apply hother
    intro htype
    have hasync := isAsync_of_toAsync hnote
    rw [htype] at hasync
    cases hasync
  | key hs htype _ => exact hother (by rw [htype]; decide)
  | parameter hs htype _ => exact hother (by rw [htype]; decide)
  | ready hs htype _ =>
    have happend := hother (by rw [htype]; decide)
    rw [hs] at happend
    exact happend
  | requestSsl hs _ _ => rw [hs] at hlooks; cases hlooks
  | begin hbegin => cases hbegin with
    | plain hs _ _ | refused hs _ _ | secured hs => rw [hs] at hlooks; cases hlooks
  | handshake hs _ => rw [hs] at hlooks; cases hlooks
  | read hs => rw [ConnectionState.looks_of_afterWrite hs] at hlooks; cases hlooks

/-- A step leaves the options alone. -/
theorem options_eq (h : Transition env m msg action m' written) : m'.options = m.options := by
  cases h <;> rfl

/-- What holds of a connection being opened. -/
def Authentic (env : StartupEnv) (options : Opts) (s : Startup) : Prop :=
  s.machine.options = options ∧
    Authenticates env options s.taken s.machine.scramClient s.machine.state

theorem Authentic.turn {s s' : Startup} {fed : Feed} (hfits : s.Fits)
    (h : Authentic env options s) (hturned : Turned env s fed s' action written) :
    Authentic env options s' := by
  obtain ⟨hoptions, hstate⟩ := h
  have hlooks := (served hfits hturned.serves).1
  obtain ⟨htransition, hbuffers, htaken, -⟩ := hturned
  refine ⟨(options_eq htransition).trans (by rw [give_options, hoptions]), ?_⟩
  rw [htaken]
  cases fed with
  | message msg =>
    apply hstate.message hoptions htransition hlooks.symm rfl rfl
    rintro message rfl
    rw [hbuffers]
    rfl
  | nothing => exact hstate.quiet htransition hlooks.symm rfl
  | byte response =>
    exact Authenticates.quiet (m := (s.give (.byte response)).1) hstate htransition hlooks.symm rfl

/-- A request among the messages of a run is one of its steps. -/
theorem requested_of_messages {buffers : StartupBuffers} {feeds : List Feed} {s : Startup}
    (hrun : runSteps (Startup.turn env) (.new options buffers) feeds = some s)
    (h : ∃ msg ∈ messages feeds, ∃ mechanisms, IsAuth (.sasl mechanisms) msg) :
    Requested s.taken := by
  obtain ⟨msg, hmsg, mechanisms, hauth⟩ := h
  have hfed : s.taken.map Taken.fed = feeds := run_fed hrun
  have hmem := mem_messages.mp hmsg
  rw [← hfed] at hmem
  obtain ⟨t, ht, hmessage⟩ := List.mem_map.mp hmem
  exact ⟨t, ht, mechanisms, by rw [hmessage, Feed.auth?_message hauth]⟩

/-- **The machine finishes a SASL authentication only with a server that knows the password.** In
every run in which the server asked for SASL authentication, whatever it sent and in whatever
order, a machine that has finished has verified the signature of this run. -/
theorem finished_verified (env : StartupEnv) (options : Opts) (buffers : StartupBuffers)
    (feeds : List Feed) (s : Startup)
    (hrun : runSteps (turn env) (.new options buffers) feeds = some s)
    (hrequested : ∃ msg ∈ messages feeds, ∃ mechanisms, IsAuth (.sasl mechanisms) msg)
    (hfinished : s.last = some .finished) : Verified env options s.taken := by
  have hnew : Authentic env options (.new options buffers) := ⟨rfl, by rintro ⟨t, ht, -⟩; cases ht⟩
  obtain ⟨hfits, -, hinv⟩ := run_inv
    (fun _ _ _ _ _ hfits hinv hturned => hinv.turn hfits hturned) hnew hrun
  unfold Fits at hfits
  rw [hfinished] at hfits
  cases hstate : s.machine.state <;> rw [hstate] at hfits hinv <;>
    first | exact Bool.noConfusion hfits | exact hinv (requested_of_messages hrun hrequested)

/-! ### A recorded run -/

/-- A client without TLS in the recorded exchange. -/
def pencilEnv : StartupEnv := ⟨ScramServer.pencil, ScramServer.pencilNonce, false⟩

/-- A user with the password of the recorded exchange. -/
def pencilOptions : Opts :=
  { Opts.default with user := "u", password := some "pencil", sslMode := .disable }

/-- An authentication message. -/
def authMessage (auth : AuthenticationMessage) : Feed := .message ⟨.authentication, auth.payload⟩

/-- What the driver gives the machine in the recorded exchange, up to ReadyForQuery. -/
def pencilFeeds : List Feed :=
  let verifier :=
    ScramServer.Verifier.ofPassword ScramServer.pencil id "pencil" ScramServer.pencilSalt 4096
  let serverFirst := ScramServer.serverFirst ScramServer.pencil verifier
    ⟨"n,,", "n=,r=AAECAwQFBgcICQoLDA0ODxAREhMUFRYX", "AAECAwQFBgcICQoLDA0ODxAREhMUFRYX"⟩
    ScramServer.pencilSuffix
  [.nothing, .nothing, authMessage (.sasl ["SCRAM-SHA-256"]), .nothing,
    authMessage (.saslContinue (utf8 serverFirst)), .nothing,
    authMessage (.saslFinal (utf8 "v=E7V5fKj1np/NNMzTBGNvBaWaeFIyrd06KQia+A4VqMw=")),
    authMessage .ok, .message ⟨.readyForQuery, [73]⟩]

/-- The machine finishes the recorded exchange, and has verified the recorded signature. -/
theorem finished_verified_pencil :
    ∃ s, runSteps (turn pencilEnv) (.new pencilOptions ⟨.other 0, [], []⟩) pencilFeeds = some s ∧
      s.last = some .finished ∧ Verified pencilEnv pencilOptions s.taken := by
  have hlast : (runSteps (turn pencilEnv) (.new pencilOptions ⟨.other 0, [], []⟩)
      pencilFeeds).bind last = some .finished := by decide +kernel
  obtain ⟨s, hs, hlast⟩ := Option.bind_eq_some_iff.mp hlast
  exact ⟨s, hs, hlast, finished_verified _ _ _ _ s hs
    ⟨_, List.mem_cons_self, ["SCRAM-SHA-256"], by decide +kernel⟩ hlast⟩

end Startup

end ZeroPostgres
