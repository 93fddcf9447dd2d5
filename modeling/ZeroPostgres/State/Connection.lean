import ZeroPostgres.Startup.Scram
import ZeroPostgres.Protocol.Authentication
import ZeroPostgres.State.Action
import ZeroPostgres.Opts

/-!
# Connection state machine

`ConnectionStateMachine`, `src/src/state/connection.rs`: TLS negotiation, the startup message,
authentication, and the parameters up to ReadyForQuery. The messages it writes are none of those
of a session that has begun, so its write buffer is a list of its own.
-/

namespace ZeroPostgres

/-- What the client writes before a session begins, `src/src/protocol/frontend/startup.rs` and
`src/src/protocol/frontend/auth.rs`. -/
inductive StartupMessage where
  | sslRequest
  | startup (params : List (String × String))
  | password (text : String)
  | saslInitialResponse (mechanism : String) (initialResponse : Bytes)
  | saslResponse (response : Bytes)
deriving DecidableEq, Repr

/-- The buffers the machine uses, `src/src/buffer_set.rs:4–13`. -/
structure StartupBuffers where
  typeByte : MsgType
  readBuffer : Bytes
  writeBuffer : List StartupMessage
deriving DecidableEq, Repr

/-- Connection state during startup, `src/src/state/connection.rs:22–34`. -/
inductive ConnectionState where
  | initial
  | waitingSslResponse
  | waitingTlsHandshake
  | waitingAuthRead
  | waitingAuth
  | saslInProgressRead
  | saslInProgress
  | waitingAuthResultRead
  | waitingAuthResult
  | waitingReady
  | finished
deriving DecidableEq, Repr

/-- The derived `Debug` form of a state, as the error text shows it. -/
def ConnectionState.display : ConnectionState → String
  | initial => "Initial"
  | waitingSslResponse => "WaitingSslResponse"
  | waitingTlsHandshake => "WaitingTlsHandshake"
  | waitingAuthRead => "WaitingAuthRead"
  | waitingAuth => "WaitingAuth"
  | saslInProgressRead => "SaslInProgressRead"
  | saslInProgress => "SaslInProgress"
  | waitingAuthResultRead => "WaitingAuthResultRead"
  | waitingAuthResult => "WaitingAuthResult"
  | waitingReady => "WaitingReady"
  | finished => "Finished"

/-- Connection startup state machine, `src/src/state/connection.rs:37–46`. -/
structure ConnectionStateMachine where
  state : ConnectionState
  options : Opts
  backendKey : Option BackendKeyData
  serverParams : List (String × String)
  transactionStatus : TransactionStatus
  scramClient : Option ScramClient
  sslResponse : UInt8
deriving DecidableEq, Repr

/-- What the machine takes from outside: the hash functions, the random bytes of a nonce, and
whether a TLS feature was compiled in. -/
structure StartupEnv where
  crypto : Crypto
  nonceBytes : Bytes
  clientSupportsTls : Bool

namespace ConnectionStateMachine

/-- `new`, `src/src/state/connection.rs:50–60`. -/
def new (options : Opts) : ConnectionStateMachine :=
  { state := .initial, options, backendKey := none, serverParams := [], transactionStatus := .idle
    scramClient := none, sslResponse := 0 }

/-- One step of the machine on the buffers. -/
abbrev StartupStep (α : Type) := Act Error (ConnectionStateMachine × StartupBuffers) α

/-- Set the state of the machine. -/
def setState (state : ConnectionState) : StartupStep Unit :=
  Act.modify fun (m, b) => ({ m with state }, b)

/-- Clear the write buffer and write one message into it. -/
def write (message : StartupMessage) : StartupStep Unit :=
  Act.modify fun (m, b) => (m, { b with writeBuffer := [message] })

/-- `write_startup_message`, `src/src/state/connection.rs:136–153`. -/
def startupParams (options : Opts) : List (String × String) :=
  [("user", options.user), ("client_encoding", "UTF8")]
    ++ (options.database.map fun db => ("database", db)).toList
    ++ (options.applicationName.map fun app => ("application_name", app)).toList
    ++ options.params

/-- Write the startup message and wait for an authentication request. -/
def beginSession : StartupStep Action := do
  let (m, _) ← Act.get
  write (.startup (startupParams m.options))
  setState .waitingAuthRead
  return .write

/-- `handle_initial`, `src/src/state/connection.rs:77–102`. -/
def handleInitial (env : StartupEnv) : StartupStep Action := do
  Act.modify fun (m, b) => (m, { b with writeBuffer := [] })
  let (m, _) ← Act.get
  let requestSsl : StartupStep Action := do
    write .sslRequest
    setState .waitingSslResponse
    return .writeAndReadByte
  match m.options.sslMode with
  | .disable => beginSession
  | .prefer => if env.clientSupportsTls then requestSsl else beginSession
  | .require =>
    if env.clientSupportsTls then requestSsl
    else Act.fail (.unsupported "SSL required but TLS feature not enabled")

/-- `handle_ssl_response`, `src/src/state/connection.rs:104–127`. -/
def handleSslResponse : StartupStep Action := do
  let (m, _) ← Act.get
  if m.sslResponse = 83 then do
    setState .waitingTlsHandshake
    return .tlsHandshake
  else if m.sslResponse = 78 then
    if m.options.sslMode = .require then
      Act.fail (.auth "SSL required but not supported by server")
    else beginSession
  else Act.fail (.libraryBug ("Unexpected SSL response: " ++ toString m.sslResponse))

/-- `handle_tls_handshake_complete`, `src/src/state/connection.rs:129–134`. -/
def handleTlsHandshakeComplete : StartupStep Action := beginSession

/-- The password of the options, or the error without one. -/
def optionsPassword : StartupStep String := do
  let (m, _) ← Act.get
  match m.options.password with
  | some password => return password
  | none => Act.fail (.auth "Password required but not provided")

/-- Send a password and wait for the verdict. -/
def sendPassword (text : String) : StartupStep Action := do
  write (.password text)
  setState .waitingAuthResultRead
  return .write

/-- Read an authentication message, or fail with the given text on any other. -/
def readAuthentication (expected : String) : StartupStep AuthenticationMessage := do
  let (_, b) ← Act.get
  if b.typeByte = .authentication then Act.lift (AuthenticationMessage.parse b.readBuffer)
  else Act.fail (unexpected expected b.typeByte)

/-- The text about a server that does not speak protocol 3.2,
`src/src/state/connection.rs:163–167`. -/
def oldServer (negotiate : NegotiateProtocolVersion) : Error :=
  .libraryBug ("Server does not support protocol 3.2 (requires PostgreSQL 17+). " ++
    "Server supports protocol 3." ++ toString negotiate.newestMinorVersion ++
    ". Unrecognized options: " ++ toString (negotiate.unrecognizedOptions.map String.quote))

/-- `handle_auth_message`, `src/src/state/connection.rs:155–242`. -/
def handleAuthMessage (env : StartupEnv) : StartupStep Action := do
  let (m, b) ← Act.get
  if b.typeByte = .negotiateProtocolVersion then do
    let negotiate ← Act.lift (NegotiateProtocolVersion.parse b.readBuffer)
    Act.fail (oldServer negotiate)
  else do
    match ← readAuthentication "Expected Authentication message, got " with
    | .ok => do
      setState .waitingReady
      return .readMessage
    | .cleartextPassword => do
      let password ← optionsPassword
      sendPassword password
    | .md5Password salt => do
      let password ← optionsPassword
      sendPassword (md5Password env.crypto m.options.user password salt.toList)
    | .sasl mechanisms =>
      if mechanisms.contains "SCRAM-SHA-256" then do
        let password ← optionsPassword
        let scram := ScramClient.new env.crypto env.nonceBytes password
        write (.saslInitialResponse "SCRAM-SHA-256" (utf8 scram.clientFirstMessage))
        Act.modify fun (m, b) => ({ m with scramClient := some scram }, b)
        setState .saslInProgressRead
        return .write
      else Act.fail (.auth ("No supported SASL mechanism. Server offers: " ++
        toString (mechanisms.map String.quote)))
    | auth => Act.fail (.unsupported ("Unsupported authentication method: " ++ auth.display))

/-- The client of a SASL exchange under way. -/
def theScramClient : StartupStep ScramClient := do
  let (m, _) ← Act.get
  match m.scramClient with
  | some scram => return scram
  | none => Act.fail (.libraryBug "SCRAM client not initialized")

/-- Text of a SASL message, or the error with the given text. -/
def saslText (data : Bytes) (text : String) : StartupStep String :=
  match fromUtf8 data with
  | some s => return s
  | none => Act.fail (.auth text)

/-- `handle_sasl_message`, `src/src/state/connection.rs:244–295`. -/
def handleSaslMessage (env : StartupEnv) : StartupStep Action := do
  match ← readAuthentication "Expected Authentication message, got " with
  | .saslContinue data => do
    let scram ← theScramClient
    let serverFirst ← saslText data "Invalid server-first-message: "
    let r := ScramClient.processServerFirst env.crypto serverFirst scram
    Act.modify fun (m, b) => ({ m with scramClient := some r.2 }, b)
    match r.1 with
    | .ok clientFinal => do
      write (.saslResponse (utf8 clientFinal))
      setState .saslInProgressRead
      return .write
    | .err text => Act.fail (.auth text)
    | .halt => Act.halt
  | .saslFinal data => do
    let scram ← theScramClient
    let serverFinal ← saslText data "Invalid server-final-message: "
    match scram.verifyServerFinal env.crypto serverFinal with
    | .ok () => do
      setState .waitingAuthResult
      return .readMessage
    | .err text => Act.fail (.auth text)
    | .halt => Act.halt
  | auth => Act.fail (.libraryBug ("Unexpected SASL message: " ++ auth.display))

/-- `handle_auth_result`, `src/src/state/connection.rs:297–315`. -/
def handleAuthResult : StartupStep Action := do
  match ← readAuthentication "Expected AuthenticationOk, got " with
  | .ok => do
    setState .waitingReady
    return .readMessage
  | auth => Act.fail (.auth ("Unexpected auth result: " ++ auth.display))

/-- `handle_ready_message`, `src/src/state/connection.rs:317–344`. -/
def handleReadyMessage : StartupStep Action := do
  let (_, b) ← Act.get
  match b.typeByte with
  | .backendKeyData => do
    let key ← Act.lift (BackendKeyData.parse b.readBuffer)
    Act.modify fun (m, b) => ({ m with backendKey := some key }, b)
    return .readMessage
  | .parameterStatus => do
    let param ← Act.lift (ParameterStatus.parse b.readBuffer)
    Act.modify fun (m, b) => ({ m with serverParams := m.serverParams ++ [param] }, b)
    return .readMessage
  | .readyForQuery => do
    let status ← Act.lift (ReadyForQuery.parse b.readBuffer)
    Act.modify fun (m, b) => ({ m with transactionStatus := status, state := .finished }, b)
    return .finished
  | t => Act.fail (unexpected "Unexpected message during startup: " t)

/-- The states that look at a message, `src/src/state/connection.rs:421–431`. -/
def handleState (env : StartupEnv) : ConnectionState → StartupStep Action
  | .waitingAuth => handleAuthMessage env
  | .saslInProgress => handleSaslMessage env
  | .waitingAuthResult => handleAuthResult
  | .waitingReady => handleReadyMessage
  | state => Act.fail (.libraryBug ("Unexpected state " ++ state.display))

/-- What a message read in any of these states leads to, `src/src/state/connection.rs:403–431`. -/
def handleMessage (env : StartupEnv) : StartupStep Action := do
  let (m, b) ← Act.get
  if b.typeByte.isAsync ∧ ¬ (m.state = .waitingReady ∧ b.typeByte = .parameterStatus) then
    Act.lift (handleAsyncMessage ⟨b.typeByte, b.readBuffer⟩)
  else if b.typeByte = .errorResponse then do
    let error ← Act.lift (ErrorResponse.parse b.readBuffer)
    Act.fail (.server error)
  else handleState env m.state

/-- `step`, `src/src/state/connection.rs:383–431`. -/
def step (env : StartupEnv) : StartupStep Action := do
  let (m, _) ← Act.get
  match m.state with
  | .initial => handleInitial env
  | .waitingSslResponse => handleSslResponse
  | .waitingTlsHandshake => handleTlsHandshakeComplete
  | .waitingAuthRead => do
    setState .waitingAuth
    return .readMessage
  | .saslInProgressRead => do
    setState .saslInProgress
    return .readMessage
  | .waitingAuthResultRead => do
    setState .waitingAuthResult
    return .readMessage
  | _ => handleMessage env

end ConnectionStateMachine

end ZeroPostgres
