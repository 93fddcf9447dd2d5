import ZeroPostgres.Conn.Opening
import ZeroPostgres.Startup.Established

/-!
# Conn::new with a conformant server

`new` succeeds where the server at the other end says what it may while a connection is opened, and
returns what the server said. An upgrade that is then tried does not make it fail.
-/

namespace ZeroPostgres.Surroundings

variable {P : Peer} {K : Type} {w : Surroundings P K} {opts : UrlOpts} {lines : List Line}

/-- What a connection was told while it was opened is what the server said. -/
structure Told {env : StartupEnv} {options : Opts} (t : Transcript env options)
    (transport : Transport) (o : Opened P K) : Prop where
  transport : o.transport = transport
  params : o.serverParams = t.params
  key : o.backendKey = t.key
  id : o.conn.connectionId = (t.key.map BackendKeyData.pid).getD 0
  status : o.conn.transactionStatus = t.status

theorem openStream_told {e : Endpoint P} (hcrypto : e.env.crypto.Lawful)
    (t : Transcript e.env opts.toOpts) {transport final : Transport} {late : List RawMessage}
    (hsaid : t.SaidOn w.feature (.new transport e.remote) final
      (t.body ++ readyMessage t.status :: late)) :
    ∃ o lines', w.openStream opts transport e lines = (.ok o, lines') ∧ Told t final o ∧
      o.conn.stream = ⟨e.session, late, [], [], none⟩ := by
  obtain ⟨startup, l', hopen, hparams, hkey, hstatus, htransport, hinbound⟩ :=
    Opening.establish_said hcrypto e.buffers t hsaid
  refine ⟨w.opened e startup l', lines ++ [l'], ?_, ⟨htransport, hparams, hkey, ?_, hstatus⟩, ?_⟩
  · unfold openStream
    rw [hopen]
    rfl
  · unfold opened
    rw [hkey]
  · unfold opened
    rw [hinbound]

/-- Whatever becomes of the upgrade, it is no error. -/
theorem reopen_ne_err (dirs : Option String) :
    Act.Meets (w.reopen opts dirs) lines fun o _ => ∀ error, o ≠ .err error := by
  refine reopen_meets (fun error h => by cases h) fun path e _ => ?_
  unfold Act.Meets
  generalize w.openStream { opts with upgradeToUnixSocket := false } .unix e lines = r
  obtain ⟨c | error | _, lines'⟩ := r
  · exact fun error h => by cases h
  · exact fun error h => by cases h
  · exact fun error h => by cases h

variable [Driver K]

theorem tryUpgradeToUnixSocket_ne_err (o : Opened P K) :
    Act.Meets (w.tryUpgradeToUnixSocket opts o) lines fun o' _ => ∀ error, o' ≠ .err error := by
  have hkept (c : Opened P K) : ∀ error, (.ok c : Outcome Error (Opened P K)) ≠ .err error := by
    simp
  refine tryUpgradeToUnixSocket_meets (by simp) fun _ => ⟨hkept _, fun dirs => ?_⟩
  refine (reopen_ne_err dirs).mono fun upgraded lines' h => ?_
  cases upgraded with
  | ok c => exact hkept _
  | err error => exact absurd rfl (h error)
  | halt => simp

theorem new_of_reaches {transport : Transport} {e : Endpoint P} (h : w.Reaches opts transport e) :
    w.new opts lines = w.newWithStream opts transport e lines := by
  unfold new
  cases h with
  | address hsocket hhost hconnect =>
    rw [hsocket]
    dsimp only
    rw [if_neg hhost, hconnect]
    rfl
  | socket hsocket hconnect =>
    rw [hsocket]
    dsimp only
    rw [hconnect]
    rfl

/-- **Connections are opened.** Where the server says what it may, `new` opens a connection over the
transport that was negotiated, with the parameters, the key and the status that the server sent,
and with nothing on its stream but what came behind ReadyForQuery. It returns this connection, or
what the upgrade that it is asked for makes of it, which is no error. An ErrorResponse in place of
any message is the error it returns. -/
theorem new_connects {transport : Transport} {e : Endpoint P}
    (hreaches : w.Reaches opts transport e) (hcrypto : e.env.crypto.Lawful)
    (t : Transcript e.env opts.toOpts) (final : Transport) (late : List RawMessage) :
    (t.SaidOn w.feature (.new transport e.remote) final
        (t.body ++ readyMessage t.status :: late) →
      ∃ o lines, Told t final o ∧ o.conn.stream = ⟨e.session, late, [], [], none⟩ ∧
        w.new opts [] =
          (if opts.upgradeToUnixSocket = true ∧ final.isTcpLoopback = true then
            w.tryUpgradeToUnixSocket opts o lines
          else (.ok o, lines)) ∧
        ∀ error, (w.new opts []).1 ≠ .err error) ∧
    ∀ before msg after error err,
      t.body ++ [readyMessage t.status] = before ++ msg :: after → IsError error err →
      t.SaidOn w.feature (.new transport e.remote) final (before ++ err :: late) →
      (w.new opts []).1 = .err (.server error) := by
  rw [new_of_reaches hreaches]
  refine ⟨fun hsaid => ?_, ?_⟩
  · obtain ⟨o, lines, hopen, htold, hstream⟩ :=
      openStream_told hcrypto t hsaid
    have hnew : w.newWithStream opts transport e [] =
        (if opts.upgradeToUnixSocket = true ∧ final.isTcpLoopback = true then
          w.tryUpgradeToUnixSocket opts o lines
        else (.ok o, lines)) := by
      rw [newWithStream, Act.bind_run, hopen, ← htold.transport]
      dsimp only
      split
      · rfl
      · rfl
    refine ⟨o, lines, htold, hstream, hnew, fun error => ?_⟩
    rw [hnew]
    split
    · exact tryUpgradeToUnixSocket_ne_err o error
    · simp
  · intro before msg after error err hplace herr hsaid
    have hopen := Opening.establish_error hcrypto e.buffers t hplace herr hsaid
    rw [newWithStream, Act.bind_run]
    unfold openStream
    dsimp only
    rw [hopen]
    rfl

theorem trusting_negotiates :
    Negotiates trusting.env requireUrlOpts.toOpts [.byte 83] :=
  .accepted (by decide) rfl

theorem trusting_authenticates : AuthExchange trusting.env requireUrlOpts.toOpts
    [⟨.authentication, AuthenticationMessage.payload .ok⟩] :=
  .trust ⟨trivial, rfl⟩

theorem trusting_notices :
    ∀ msg ∈ [(⟨.authentication, AuthenticationMessage.payload .ok⟩ : RawMessage)],
      msg.type = .noticeResponse → msg.wellFormed = true := by
  decide

/-- What the server on a loopback address says. -/
def trustingTranscript : Transcript trusting.env requireUrlOpts.toOpts where
  ssl := [.byte 83]
  auth := [⟨.authentication, AuthenticationMessage.payload .ok⟩]
  greeting := []
  body := [⟨.authentication, AuthenticationMessage.payload .ok⟩]
  params := []
  key := none
  status := .idle
  negotiates := trusting_negotiates
  authenticates := trusting_authenticates
  greets := .nil
  body_eq := rfl
  notices := trusting_notices

theorem new_connects_listening :
    ∃ o lines, Told trustingTranscript (.tls true) o ∧
      listening.new requireUrlOpts [] =
        listening.tryUpgradeToUnixSocket requireUrlOpts o lines := by
  have hsaid : trustingTranscript.SaidOn listening.feature (.new (.tcp true) trusting.remote)
      (.tls true) (trustingTranscript.body ++ readyMessage .idle :: []) := by
    refine ⟨fun _ => rfl, ?_, rfl⟩
    intro response h
    cases h
    rfl
  have hreaches : listening.Reaches requireUrlOpts (.tcp true) trusting :=
    .address rfl (by decide) rfl
  obtain ⟨o, lines, htold, -, hnew, -⟩ := (new_connects hreaches
    (ScramServer.recorded_lawful _ _ _ _) trustingTranscript (.tls true) []).1 hsaid
  exact ⟨o, lines, htold, hnew⟩

end ZeroPostgres.Surroundings
