import ZeroPostgres.Conn.Echo
import ZeroPostgres.Startup.Driver

/-!
# Conn::new

`new`, `new_with_stream` and `try_upgrade_to_unix_socket`, `src/src/sync/conn.rs:41–186`,
`src/src/tokio/conn.rs:45–195`, on a platform with Unix sockets: the connection that is opened, over
which transport, and what it learnt from the server on the way. `new_private` is the guarantee of
`SslMode::Require` over all of it, and `new_usable` says that the operations of a connection can
start from what it returns.
-/

namespace ZeroPostgres

/-! ### The path of a socket -/

/-- `str::trim`. -/
def trim (text : String) : String :=
  String.ofList ((text.toList.dropWhile isWhitespace).reverse.dropWhile isWhitespace).reverse

/-- The first directory of a list of them, if it is not blank. -/
def firstDirectory (dirs : String) : Option String :=
  let directory := trim (String.ofList (dirs.toList.takeWhile (· ≠ ',')))
  if directory = "" then none else some directory

/-- `format!("{}/.s.PGSQL.{}", socket_dir, opts.port)`. -/
def socketPath (directory : String) (port : UInt16) : String :=
  directory ++ "/.s.PGSQL." ++ toString port

example : (firstDirectory " /run/postgresql, /tmp").map (socketPath · 5432) =
    some "/run/postgresql/.s.PGSQL.5432" := by decide +kernel

/-- `String::from_text`, `src/src/conversion/string.rs:32–46`. -/
def stringFromText (utf8Error : Bytes → String) (target : Oid) (bs : Bytes) : Parsed String :=
  if target = oid.text ∨ target = oid.varchar ∨ target = oid.bpchar ∨ target = oid.name ∨
      target = oid.numeric then
    match fromUtf8 bs with
    | some s => .ok s
    | none => .err (.decode ("invalid UTF-8: " ++ utf8Error bs))
  else .err (.decode ("cannot decode oid " ++ toString target ++ " as String"))

/-- `FromRow` of `(String,)`. -/
def stringRow (utf8Error : Bytes → String) : FromRow (Fin 1 → String) :=
  let type : FromWireValue String :=
    ⟨FromWireValue.noNull, stringFromText utf8Error, stringFromBinary utf8Error⟩
  { fromRowText := fun cols row => rowResult (tupleFromRow .text (fun _ => type) cols row)
    fromRowBinary := fun cols row => rowResult (tupleFromRow .binary (fun _ => type) cols row) }

/-! ### Opening a connection -/

/-- A connection with what only its startup exchange tells: its transport, the key to cancel its
queries, and the parameters of the server. -/
structure Opened (P : Peer) (K : Type) where
  transport : Transport
  backendKey : Option BackendKeyData
  serverParams : List (String × String)
  conn : Conn P K

/-- The other end of a stream that is connected, the session it serves once it is opened, and what
the client takes for it: its random bytes, and buffers of the pool. -/
structure Endpoint (P : Peer) where
  remote : Remote
  session : P.State
  env : StartupEnv
  buffers : StartupBuffers

/-- What a client finds: the addresses that take a TCP connection, loopback or not, the paths that
take one, its TLS feature, the flags of a connection of its own, and what is printed of bytes that
are no text. -/
structure Surroundings (P : Peer) (K : Type) where
  connectTcp : String → Except Error (Bool × Endpoint P)
  connectUnix : String → Except Error (Endpoint P)
  feature : TlsFeature
  flags : K
  utf8Error : Bytes → String

/-- The server at an endpoint keeps to the protocol, and what it says of its directories decodes. -/
structure Endpoint.Conforms {P : Peer} (utf8Error : Bytes → String) (e : Endpoint P) : Prop where
  plain : Opening.AwaitsRequests e.remote.plain
  secured : Opening.AwaitsRequests e.remote.secured
  mode : (P.session e.session).mode = .ready
  decodes : Bears (FirstRowHandler (stringRow utf8Error).fromRowText).toHandler []
    (callbacksOf [] (P.feed e.session [.query "SHOW unix_socket_directories"]).1)

/-- All the servers that can be reached do. -/
structure Surroundings.Conforms {P : Peer} {K : Type} (w : Surroundings P K) : Prop where
  tcp : ∀ address reached, w.connectTcp address = .ok reached → reached.2.Conforms w.utf8Error
  unix : ∀ path e, w.connectUnix path = .ok e → e.Conforms w.utf8Error

namespace Surroundings

variable {P : Peer} {K : Type} (w : Surroundings P K)

/-- The connection that a machine leaves behind on its stream, `src/src/sync/conn.rs:125–134`. -/
def opened (e : Endpoint P) (s : Startup) (l : Line) : Opened P K where
  transport := l.transport
  backendKey := s.machine.backendKey
  serverParams := s.machine.serverParams
  conn :=
    { stream := ⟨e.session, l.inbound, [], [], none⟩
      bufferSet := { BufferSet.new with
        readBuffer := s.buffers.readBuffer, typeByte := s.buffers.typeByte }
      transactionStatus := s.machine.transactionStatus, broken := false, flags := w.flags
      nameCounter := 0, connectionId := (s.machine.backendKey.map BackendKeyData.pid).getD 0
      asyncMessageHandler := none }

/-- `new_with_stream` but for the upgrade. The state is the streams connected so far, each as it was
left. -/
def openStream (opts : UrlOpts) (transport : Transport) (e : Endpoint P) :
    Act Error (List Line) (Opened P K) := fun lines =>
  let r := Opening.establish e.env w.feature opts.toOpts e.buffers (.new transport e.remote)
  (r.1.bind fun s => .ok (w.opened e s r.2), lines ++ [r.2])

/-- What replaces a connection whose server named its directories, `src/src/sync/conn.rs:162–186`:
a connection over a socket in the first of them. -/
def reopen (opts : UrlOpts) (dirs : Option String) : Act Error (List Line) (Option (Opened P K)) :=
  match dirs.bind firstDirectory with
  | none => return none
  | some directory =>
    match w.connectUnix (socketPath directory opts.port) with
    | .error _ => return none
    | .ok e => do
      match ← Act.attempt (w.openStream { opts with upgradeToUnixSocket := false } .unix e) with
      | .ok conn => return some conn
      | .error _ => return none

section New

variable [Driver K]

/-- `try_upgrade_to_unix_socket`, `src/src/sync/conn.rs:147–186`. -/
def tryUpgradeToUnixSocket (opts : UrlOpts) (o : Opened P K) :
    Act Error (List Line) (Opened P K) := do
  let r := Conn.queryFirst (stringRow w.utf8Error) "SHOW unix_socket_directories" o.conn
  let original := { o with conn := r.2 }
  match r.1 with
  | .ok row => do
    let upgraded ← w.reopen opts (row.map fun dirs => dirs 0)
    return upgraded.getD original
  | .err _ => return original
  | .halt => Act.halt

/-- `new_with_stream`, `src/src/sync/conn.rs:73–144`. -/
def newWithStream (opts : UrlOpts) (transport : Transport) (e : Endpoint P) :
    Act Error (List Line) (Opened P K) := do
  let o ← w.openStream opts transport e
  if opts.upgradeToUnixSocket = true ∧ o.transport.isTcpLoopback = true then
    w.tryUpgradeToUnixSocket opts o
  else return o

/-- Without the option no upgrade is tried: `reopen`, which turns it off, opens the socket as
`new_with_stream` does. -/
theorem newWithStream_eq {opts : UrlOpts} (hoff : opts.upgradeToUnixSocket = false)
    (transport : Transport) (e : Endpoint P) :
    w.newWithStream opts transport e = w.openStream opts transport e := by
  funext lines
  unfold newWithStream
  rw [Act.bind_run]
  generalize w.openStream opts transport e lines = r
  obtain ⟨o | error | _, lines'⟩ := r
  · dsimp only
    rw [hoff, if_neg (by simp)]
    rfl
  · rfl
  · rfl

/-- `new`, `src/src/sync/conn.rs:41–70`. -/
def new (opts : UrlOpts) : Act Error (List Line) (Opened P K) :=
  match opts.socket with
  | some path => do
    let e ← Act.ofExcept (w.connectUnix path)
    w.newWithStream opts .unix e
  | none =>
    if opts.host = "" then Act.fail (.invalidUsage "host is empty")
    else do
      let (loopback, e) ← Act.ofExcept (w.connectTcp (opts.host ++ ":" ++ toString opts.port))
      w.newWithStream opts (.tcp loopback) e

end New

/-- The stream that the options connect. -/
inductive Reaches (w : Surroundings P K) (opts : UrlOpts) : Transport → Endpoint P → Prop where
  | address {loopback e} : opts.socket = none → opts.host ≠ "" →
      w.connectTcp (opts.host ++ ":" ++ toString opts.port) = .ok (loopback, e) →
      Reaches w opts (.tcp loopback) e
  | socket {path e} : opts.socket = some path → w.connectUnix path = .ok e →
      Reaches w opts .unix e

/-! ### Rules -/

section Rules

variable {w} {opts : UrlOpts} {lines : List Line}

/-- Nothing replaces the connection, or what is opened on a socket does. -/
theorem reopen_meets {dirs : Option String}
    {Q : Outcome Error (Option (Opened P K)) → List Line → Prop} (hnone : Q (.ok none) lines)
    (hopen : ∀ path e, w.connectUnix path = .ok e →
      Act.Meets (w.openStream { opts with upgradeToUnixSocket := false } .unix e) lines
        fun o lines' =>
          match o with
          | .ok c => Q (.ok (some c)) lines'
          | .err _ => Q (.ok none) lines'
          | .halt => Q .halt lines') :
    Act.Meets (w.reopen opts dirs) lines Q := by
  unfold reopen
  split
  · exact hnone
  · next directory _ =>
    split
    · exact hnone
    · next e hconnect =>
      rw [Act.meets_bind, Act.meets_attempt]
      refine (hopen _ e hconnect).mono fun o lines' h => ?_
      cases o with
      | ok c => exact h
      | err e => exact h
      | halt => exact h

variable [Driver K]

/-- The query does not return, or the connection is kept as the query left it, or replaced. -/
theorem tryUpgradeToUnixSocket_meets {o : Opened P K}
    {Q : Outcome Error (Opened P K) → List Line → Prop} (hhalt : Q .halt lines)
    (hquery : Act.Meets (Conn.queryFirst (stringRow w.utf8Error) "SHOW unix_socket_directories")
      o.conn fun result conn => result ≠ .halt → Q (.ok { o with conn }) lines ∧
        ∀ dirs, Act.Meets (w.reopen opts dirs) lines fun upgraded lines' =>
          match upgraded with
          | .ok upgraded => Q (.ok (upgraded.getD { o with conn })) lines'
          | .err e => Q (.err e) lines'
          | .halt => Q .halt lines') :
    Act.Meets (w.tryUpgradeToUnixSocket opts o) lines Q := by
  have hquery := hquery.at
  unfold tryUpgradeToUnixSocket
  dsimp only at hquery ⊢
  generalize Conn.queryFirst (stringRow w.utf8Error) _ o.conn = r at hquery ⊢
  obtain ⟨row | error | _, conn⟩ := r
  · dsimp only
    rw [Act.meets_bind]
    refine ((hquery (by simp)).2 _).mono fun upgraded lines' h => ?_
    cases upgraded with
    | ok c => exact h
    | err e => exact h
    | halt => exact h
  · exact (hquery (by simp)).1
  · exact hhalt

/-- No stream is connected, or one is. -/
theorem new_meets {Q : Outcome Error (Opened P K) → List Line → Prop}
    (hfailed : ∀ error, Q (.err error) lines)
    (hreaches : ∀ transport e, w.Reaches opts transport e →
      Act.Meets (w.newWithStream opts transport e) lines Q) :
    Act.Meets (w.new opts) lines Q := by
  unfold new
  cases hsocket : opts.socket with
  | some path =>
    dsimp only
    rw [Act.meets_bind]
    cases hconnect : w.connectUnix path with
    | error e => exact hfailed e
    | ok e =>
      rw [Act.meets_ofExcept_ok]
      exact hreaches _ e (.socket hsocket hconnect)
  | none =>
    dsimp only
    split
    · exact hfailed _
    · next hhost =>
      rw [Act.meets_bind]
      cases hconnect : w.connectTcp (opts.host ++ ":" ++ toString opts.port) with
      | error e => exact hfailed e
      | ok reached =>
        rw [Act.meets_ofExcept_ok]
        exact hreaches _ reached.2 (.address hsocket hhost hconnect)

end Rules

/-! ### A server on a loopback address -/

/-- The column of `SHOW unix_socket_directories`. -/
def directoriesColumn : Column := ⟨"unix_socket_directories", 0, 0, oid.text, -1, -1, .text⟩

theorem parse_directoriesColumn :
    (RowDescription.parse (RowDescription.payload [directoriesColumn])).isOk = true := by
  decide +kernel

theorem parse_directories :
    (DataRow.parse (DataRow.payload [some (utf8Bytes "/run/postgresql, /tmp")])).isOk = true := by
  decide +kernel

/-- A server that names two directories. -/
def directoriesServer : Peer :=
  (Reference.scripted fun _ => .select 1).relabel
    (contents (RowDescription.payload [directoriesColumn])
      (DataRow.payload [some (utf8Bytes "/run/postgresql, /tmp")]))
    (relabels_contents parse_directoriesColumn parse_directories)

/-- It takes up TLS and trusts its clients. -/
def trusting : Endpoint directoriesServer where
  remote :=
    { response := .ok 83, handshake := .ok (), plain := []
      secured := [⟨.authentication, AuthenticationMessage.payload .ok⟩, ⟨.readyForQuery, [73]⟩]
      ending := none, refuses := fun _ => none }
  session := Reference.start
  env := ⟨ScramServer.pencil, ScramServer.pencilNonce, true⟩
  buffers := ⟨.other 0, [], []⟩

/-- On its socket it has no TLS. -/
def overSocket : Endpoint directoriesServer :=
  { trusting with remote :=
      { trusting.remote with response := .ok 78, plain := trusting.remote.secured } }

/-- It listens on an address and on a socket. -/
def listening : Surroundings directoriesServer TokioFlags where
  connectTcp _ := .ok (true, trusting)
  connectUnix path :=
    if path = "/run/postgresql/.s.PGSQL.5432" then .ok overSocket else .error .connectionBroken
  feature := ⟨"tokio-tls", true⟩
  flags := ⟨false, false⟩
  utf8Error _ := ""

/-- Before it waits for a query the server has sent one ReadyForQuery. -/
theorem awaitsRequests_ready {body : List RawMessage} (h : ∀ m ∈ body, m.type ≠ .readyForQuery) :
    Opening.AwaitsRequests (body ++ [⟨.readyForQuery, [73]⟩]) := by
  rintro before z late heq hz
  rcases List.eq_nil_or_concat late with rfl | ⟨late, last, rfl⟩
  · obtain ⟨-, hlast⟩ := List.append_inj' heq rfl
    cases hlast
    exact ⟨rfl, fun m hm => by cases hm⟩
  · rw [List.concat_eq_append, ← List.cons_append, ← List.append_assoc] at heq
    obtain ⟨rfl, -⟩ := List.append_inj' heq rfl
    exact absurd hz (h z (List.mem_append_right _ (List.mem_cons_self ..)))

theorem listening_conforms : listening.Conforms := by
  have htrusted : ∀ m ∈ [(⟨.authentication, AuthenticationMessage.payload .ok⟩ : RawMessage)],
      m.type ≠ .readyForQuery := by decide
  have hsecured : Opening.AwaitsRequests trusting.remote.secured := awaitsRequests_ready htrusted
  have hplain : Opening.AwaitsRequests trusting.remote.plain := by
    intro body z late h
    cases body <;> cases h
  refine ⟨?_, ?_⟩
  · intro address reached h
    cases h
    exact ⟨hplain, hsecured, rfl, by decide +kernel⟩
  · intro path e h
    unfold listening at h
    dsimp only at h
    split at h
    · cases h
      exact ⟨hsecured, hsecured, rfl, by decide +kernel⟩
    · cases h

/-- Options that require TLS and ask for a socket. -/
def requireUrlOpts : UrlOpts :=
  { Startup.requireOptions with
    host := "localhost", port := 5432, socket := none, upgradeToUnixSocket := true }

/-! ### A connection that requires TLS -/

/-- What was written on the streams was written under TLS, but for the requests for it. -/
def AllPrivate (lines : List Line) : Prop := ∀ l ∈ lines, l.Private

/-- What opening a connection that requires TLS comes to. -/
def Guarded (o : Outcome Error (Opened P K)) (lines : List Line) : Prop :=
  AllPrivate lines ∧ ∀ c, o = .ok c → c.transport.isTls = true

theorem forall_ok_of_failed {α : Type} {Q : α → Prop} {o : Outcome Error α} (ho : o.isOk = false) :
    ∀ a, o = .ok a → Q a := by
  rintro a rfl
  cases ho

section Requiring

variable {w} {opts : UrlOpts} {lines : List Line}

theorem guarded_of_failed {o : Outcome Error (Opened P K)} (ho : o.isOk = false)
    (hlines : AllPrivate lines) : Guarded o lines :=
  ⟨hlines, forall_ok_of_failed ho⟩

theorem guarded_ok {c : Opened P K} (hc : c.transport.isTls = true) (hlines : AllPrivate lines) :
    Guarded (.ok c) lines := by
  refine ⟨hlines, ?_⟩
  intro c' h
  cases h
  exact hc

theorem openStream_require (hmode : opts.sslMode = .require) (transport : Transport)
    (e : Endpoint P) (hlines : AllPrivate lines) :
    Act.Meets (w.openStream opts transport e) lines Guarded := by
  have hnew : (Line.new transport e.remote).Private := by
    intro written hwritten
    cases hwritten
  have hopen : Act.Meets (Opening.establish e.env w.feature opts.toOpts e.buffers)
      (.new transport e.remote) fun o l => l.Private ∧ (o.isOk = true → l.transport.isTls = true) :=
    Opening.establish_require hmode e.buffers hnew
  unfold Act.Meets at hopen ⊢
  unfold openStream
  dsimp only
  generalize Opening.establish e.env w.feature opts.toOpts e.buffers _ = r at hopen ⊢
  obtain ⟨o, l⟩ := r
  have hprivate : AllPrivate (lines ++ [l]) := by
    intro l' hl'
    rcases List.mem_append.mp hl' with hl' | hl'
    · exact hlines l' hl'
    · obtain rfl := List.mem_singleton.mp hl'
      exact hopen.1
  cases o with
  | ok s => exact guarded_ok (hopen.2 rfl) hprivate
  | err e => exact guarded_of_failed rfl hprivate
  | halt => exact guarded_of_failed rfl hprivate

/-- A Unix socket does not carry TLS, so that no connection that requires it is opened on one. -/
theorem openStream_unix (hmode : opts.sslMode = .require) (e : Endpoint P)
    (hlines : AllPrivate lines) :
    Act.Meets (w.openStream opts .unix e) lines fun o lines' =>
      AllPrivate lines' ∧ o.isOk = false := by
  have hunix : Act.Meets (Opening.establish e.env w.feature opts.toOpts e.buffers)
      (.new .unix e.remote) fun _ l => l.transport = .unix :=
    Opening.establish_unix opts.toOpts e.buffers rfl
  have hopen := openStream_require (w := w) hmode .unix e hlines
  unfold Act.Meets at hunix hopen ⊢
  unfold openStream at hopen ⊢
  dsimp only at hopen ⊢
  generalize Opening.establish e.env w.feature opts.toOpts e.buffers _ = r at hunix hopen ⊢
  obtain ⟨o, l⟩ := r
  refine ⟨hopen.1, ?_⟩
  cases o with
  | ok s =>
    have htls : l.transport.isTls = true := hopen.2 _ rfl
    rw [hunix] at htls
    cases htls
  | err e => rfl
  | halt => rfl

/-- Nor does one replace a connection that requires TLS. -/
theorem reopen_require (hmode : opts.sslMode = .require) (dirs : Option String)
    (hlines : AllPrivate lines) :
    Act.Meets (w.reopen opts dirs) lines fun o lines' =>
      AllPrivate lines' ∧ ∀ c, o ≠ .ok (some c) := by
  refine reopen_meets ⟨hlines, fun c h => by cases h⟩ fun path e _ => ?_
  refine (openStream_unix hmode e hlines).mono fun o lines' h => ?_
  obtain ⟨hprivate, hfailed⟩ := h
  cases o with
  | ok c => cases hfailed
  | err e => exact ⟨hprivate, fun c h => by cases h⟩
  | halt => exact ⟨hprivate, fun c h => by cases h⟩

variable [Driver K]

theorem tryUpgradeToUnixSocket_require (hmode : opts.sslMode = .require) {o : Opened P K}
    (htls : o.transport.isTls = true) (hlines : AllPrivate lines) :
    Act.Meets (w.tryUpgradeToUnixSocket opts o) lines Guarded := by
  refine tryUpgradeToUnixSocket_meets (guarded_of_failed rfl hlines) fun _ =>
    ⟨guarded_ok htls hlines, fun dirs => ?_⟩
  refine (reopen_require hmode dirs hlines).mono fun upgraded lines' h => ?_
  obtain ⟨hprivate, hnone⟩ := h
  rcases upgraded with (_ | c) | e | _
  · exact guarded_ok htls hprivate
  · exact absurd rfl (hnone c)
  · exact guarded_of_failed rfl hprivate
  · exact guarded_of_failed rfl hprivate

theorem newWithStream_require (hmode : opts.sslMode = .require) (transport : Transport)
    (e : Endpoint P) (hlines : AllPrivate lines) :
    Act.Meets (w.newWithStream opts transport e) lines Guarded := by
  unfold newWithStream
  rw [Act.meets_bind]
  refine (openStream_require hmode transport e hlines).mono fun o lines' h => ?_
  obtain ⟨hprivate, htls⟩ := h
  cases o with
  | ok c =>
    dsimp only
    split
    · exact tryUpgradeToUnixSocket_require hmode (htls c rfl) hprivate
    · exact guarded_ok (htls c rfl) hprivate
  | err e => exact guarded_of_failed rfl hprivate
  | halt => exact guarded_of_failed rfl hprivate

/-- **A connection that requires TLS has it.** Whatever the servers answer, what opening it writes
on any stream is written under TLS but for the request for it, and the connection that is returned
is one over TLS; so none is returned for a socket. -/
theorem new_private (w : Surroundings P K) (opts : UrlOpts) (hmode : opts.sslMode = .require) :
    Act.Meets (w.new opts) [] fun o lines =>
      Guarded o lines ∧ (opts.socket.isSome = true → o.isOk = false) := by
  have hnil : AllPrivate [] := fun l hl => by cases hl
  refine new_meets (fun error => ⟨guarded_of_failed rfl hnil, fun _ => rfl⟩) ?_
  intro transport e hreaches
  cases hreaches with
  | address hsocket _ _ =>
    refine (newWithStream_require hmode _ e hnil).mono fun o lines h => ?_
    exact ⟨h, fun h => by rw [hsocket] at h; cases h⟩
  | socket _ _ =>
    unfold newWithStream
    rw [Act.meets_bind]
    refine (openStream_unix hmode e hnil).mono fun o lines h => ?_
    obtain ⟨hprivate, hfailed⟩ := h
    cases o with
    | ok c => cases hfailed
    | err e => exact ⟨guarded_of_failed rfl hprivate, fun _ => rfl⟩
    | halt => exact ⟨guarded_of_failed rfl hprivate, fun _ => rfl⟩

end Requiring

/-- The server's socket is tried and given up, and the connection over TLS is returned. -/
theorem new_private_listening :
    let r := listening.new requireUrlOpts []
    (r.1.bind fun c => .ok c.transport) = .ok (.tls true) ∧
      r.2.map Line.written =
        [[(.tcp true, .sslRequest),
          (.tls true, .startup [("user", "u"), ("client_encoding", "UTF8")])],
          [(.unix, .sslRequest)]] ∧
      Guarded r.1 r.2 := by
  intro r
  have hguarded : Guarded r.1 r.2 := (new_private listening requireUrlOpts rfl).1
  exact ⟨by decide +kernel, by decide +kernel, hguarded⟩

/-! ### Servers that keep to the protocol -/

section Conforming

/-- An operation can start on the connection, or is refused. -/
structure Usable (c : Conn P K) : Prop where
  regular : c.Regular
  aligned : c.Aligned ∨ c.broken = true

/-- A connection as an exchange with the server at an endpoint leaves it. -/
structure Connected (e : Endpoint P) (c : Conn P K) : Prop where
  regular : c.Regular
  aligned : c.Aligned
  peer : c.stream.peer = e.session
  columns : c.bufferSet.columnBuffer = []
  status : c.transactionStatus = .idle

variable {w} {opts : UrlOpts} {lines : List Line}

theorem openStream_connected {transport : Transport} {e : Endpoint P}
    (he : e.Conforms w.utf8Error) :
    Act.Meets (w.openStream opts transport e) lines fun o _ => ∀ c, o = .ok c →
      Connected e c.conn := by
  have hopen : Act.Meets (Opening.establish e.env w.feature opts.toOpts e.buffers)
      (.new transport e.remote) _ := Opening.establish_awaitsRequests he.plain he.secured
  unfold Act.Meets at hopen ⊢
  unfold openStream
  dsimp only
  generalize Opening.establish e.env w.feature opts.toOpts e.buffers _ = r at hopen ⊢
  obtain ⟨o, l⟩ := r
  intro c hc
  cases o with
  | ok s =>
    cases hc
    obtain ⟨hidle, hlate⟩ := hopen s rfl
    have hmode : (P.session e.session).mode ≠ .copying := by
      rw [he.mode]
      decide
    have hunread : core l.inbound = [] := by
      refine List.filter_eq_nil_iff.mpr fun m hm => ?_
      rw [(hlate m hm).1]
      decide
    exact ⟨⟨fun m hm _ => (hlate m hm).2, hmode⟩, ⟨hunread, he.mode⟩, rfl, rfl, hidle⟩
  | err e => cases hc
  | halt => cases hc

theorem Connected.usable {e : Endpoint P} {c : Conn P K} (h : Connected e c) : Usable c :=
  ⟨h.regular, .inl h.aligned⟩

theorem reopen_usable (hw : w.Conforms) (dirs : Option String) :
    Act.Meets (w.reopen opts dirs) lines fun o _ => ∀ c, o = .ok (some c) → Usable c.conn := by
  refine reopen_meets (fun c h => by cases h) fun path e hconnect => ?_
  refine (openStream_connected (hw.unix path e hconnect)).mono fun o lines' h => ?_
  cases o with
  | ok c =>
    intro c' hc
    cases hc
    exact (h c rfl).usable
  | err e => exact fun c h => by cases h
  | halt => exact fun c h => by cases h

variable [Driver K]

/-- A query that returns leaves the connection usable, whatever it returns. -/
theorem queryFirst_usable (hP : P.NoCopy) {α : Type} {type : FromRow α} {sql : String}
    {c : Conn P K} (hc : c.Regular) (ha : c.Aligned)
    (hbear : Conn.Bearable (FirstRowHandler type.fromRowText).toHandler c [.query sql]) :
    Act.Meets (Conn.queryFirst type sql) c fun o c' => o ≠ .halt → Usable c' := by
  have htalks : Conn.Talks c (Conn.query sql (FirstRowHandler type.fromRowText).toHandler c).2 :=
    (Conn.query_keeps sql _).rel c
  have hsettled : Act.Meets (Conn.query sql (FirstRowHandler type.fromRowText).toHandler) c
      fun o c' => o = .halt ∨ c'.Aligned ∨ c'.broken = true := by
    unfold Conn.query Act.Meets
    rw [Conn.guarded_eq]
    split
    · exact .inr (.inl ha)
    · exact Conn.markBroken_settled (Conn.query_settled hP hbear hc ha.1)
  unfold Act.Meets at hsettled ⊢
  unfold Conn.queryFirst Conn.keeping
  rw [Act.bind_run]
  generalize Conn.query sql (FirstRowHandler type.fromRowText).toHandler c = r at htalks hsettled ⊢
  obtain ⟨o, c'⟩ := r
  have husable (ho : o ≠ .halt) : Usable c' :=
    ⟨htalks.regular hP hc, hsettled.resolve_left ho⟩
  cases o with
  | ok calls =>
    intro _
    dsimp only
    cases (FirstRowHandler type.fromRowText).after calls <;> exact husable (by simp)
  | err e => exact fun _ => husable (by simp)
  | halt => exact fun h => absurd rfl h

theorem tryUpgradeToUnixSocket_usable (hP : P.NoCopy) (hw : w.Conforms) {e : Endpoint P}
    (he : e.Conforms w.utf8Error) {o : Opened P K} (ho : Connected e o.conn) :
    Act.Meets (w.tryUpgradeToUnixSocket opts o) lines fun o' _ => ∀ c, o' = .ok c →
      Usable c.conn := by
  have hbear : Conn.Bearable (FirstRowHandler (stringRow w.utf8Error).fromRowText).toHandler
      o.conn [.query "SHOW unix_socket_directories"] := by
    unfold Conn.Bearable Conn.reply
    rw [ho.columns, ho.peer]
    exact he.decodes
  have hquery := queryFirst_usable hP ho.regular ho.aligned hbear
  refine tryUpgradeToUnixSocket_meets (forall_ok_of_failed rfl) ?_
  refine hquery.mono fun result conn husable hresult => ⟨?_, fun dirs => ?_⟩
  · intro c hc
    cases hc
    exact husable hresult
  · refine (reopen_usable hw dirs).mono fun upgraded lines' h => ?_
    rcases upgraded with (_ | c) | error | _
    · intro c hc
      cases hc
      exact husable hresult
    · intro c' hc
      cases hc
      exact h c rfl
    · exact forall_ok_of_failed rfl
    · exact forall_ok_of_failed rfl

theorem newWithStream_usable (hP : P.NoCopy) (hw : w.Conforms) (transport : Transport)
    {e : Endpoint P} (he : e.Conforms w.utf8Error) :
    Act.Meets (w.newWithStream opts transport e) lines fun o _ => ∀ c, o = .ok c →
      Usable c.conn ∧ (opts.upgradeToUnixSocket = false →
        c.conn.Aligned ∧ c.conn.transactionStatus = .idle) := by
  unfold newWithStream
  rw [Act.meets_bind]
  refine (openStream_connected he).mono fun o lines' h => ?_
  cases o with
  | ok c =>
    dsimp only
    split
    · next hupgrade =>
      refine (tryUpgradeToUnixSocket_usable hP hw he (h c rfl)).mono fun o' lines'' h => ?_
      intro c' hc
      refine ⟨h c' hc, fun hnone => ?_⟩
      rw [hupgrade.1] at hnone
      cases hnone
    · intro c' hc
      cases hc
      exact ⟨(h c rfl).usable, fun _ => ⟨(h c rfl).aligned, (h c rfl).status⟩⟩
  | err e => exact forall_ok_of_failed rfl
  | halt => exact forall_ok_of_failed rfl

/-- **Connections begin aligned.** What opening a connection returns, whichever stream it ends up
on, is a connection on which nothing waits to be read and whose server is ready for a request, or
one marked broken. It is the first, and outside of a block, when no upgrade was asked for. -/
theorem new_usable (hP : P.NoCopy) (hw : w.Conforms) (opts : UrlOpts) :
    Act.Meets (w.new opts) [] fun o _ => ∀ c, o = .ok c →
      Usable c.conn ∧ (opts.upgradeToUnixSocket = false →
        c.conn.Aligned ∧ c.conn.transactionStatus = .idle) := by
  refine new_meets (fun error => forall_ok_of_failed rfl) ?_
  intro transport e hreaches
  cases hreaches with
  | address _ _ hconnect => exact newWithStream_usable hP hw _ (hw.tcp _ _ hconnect)
  | socket _ hconnect => exact newWithStream_usable hP hw _ (hw.unix _ _ hconnect)

end Conforming

/-- Where TLS is only preferred, the connection over the socket replaces the one over TLS. -/
theorem new_usable_listening :
    let r := listening.new { requireUrlOpts with sslMode := .prefer } []
    (r.1.bind fun c => .ok c.transport) = .ok .unix ∧
      ∀ c, r.1 = .ok c → Usable c.conn := by
  intro r
  have husable := new_usable (Peer.relabel_noCopy (Reference.peer_noCopy _) _) listening_conforms
    { requireUrlOpts with sslMode := .prefer }
  exact ⟨by decide +kernel, fun c hc => (husable c hc).1⟩

end Surroundings

end ZeroPostgres
