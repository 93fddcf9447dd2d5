import ZeroPostgres.Startup.Session
import ZeroPostgres.Startup.ScramServer

/-!
# Nothing in the clear under SslMode::Require

`Secured` is the invariant: nothing is written but the request for TLS until the machine has asked
for the handshake, and it is past the negotiation only if it has.
-/

namespace ZeroPostgres

/-- The step asks for the TLS handshake, in response to an 'S'. -/
def Taken.Handshakes (t : Taken) : Prop := t.fed = .byte 83 ∧ t.action = .tlsHandshake

instance (t : Taken) : Decidable t.Handshakes := inferInstanceAs (Decidable (_ ∧ _))

/-- What is written before a handshake is the request for TLS and nothing else. -/
def SecretWrites (taken : List Taken) : Prop :=
  ∀ before t after, taken = before ++ t :: after → t.action.writes = true →
    t.buffered = [.sslRequest] ∨ ∃ t' ∈ before, t'.Handshakes

theorem SecretWrites.append {taken : List Taken} {t : Taken} (h : SecretWrites taken)
    (ht : t.action.writes = true → t.buffered = [.sslRequest] ∨ ∃ t' ∈ taken, t'.Handshakes) :
    SecretWrites (taken ++ [t]) := by
  intro before t' after heq hwrites
  rcases List.eq_nil_or_concat after with rfl | ⟨after, last, rfl⟩
  · obtain ⟨rfl, hlast⟩ := List.append_inj' heq rfl
    cases hlast
    exact ht hwrites
  · rw [List.concat_eq_append, ← List.cons_append, ← List.append_assoc] at heq
    obtain ⟨hpre, -⟩ := List.append_inj' heq rfl
    exact h before t' after hpre hwrites

namespace Startup

open ConnectionStateMachine

/-- The invariant of a connection that requires TLS. -/
structure Secured (s : Startup) : Prop where
  mode : s.machine.options.sslMode = .require
  writes : SecretWrites s.taken
  handshaken : s.machine.state ≠ .initial → s.machine.state ≠ .waitingSslResponse →
    ∃ t ∈ s.taken, t.Handshakes

variable {env : StartupEnv} {s s' : Startup} {fed : Feed}

/-- A transition of a machine that requires TLS writes the request for it, asks for the handshake,
or is made past the negotiation, where it does not lead back. -/
theorem transition_of_require {m m' : ConnectionStateMachine} {msg : RawMessage} {action : Action}
    {written : Option StartupMessage} (h : Transition env m msg action m' written)
    (hmode : m.options.sslMode = .require) :
    m'.options = m.options ∧
      (action = .writeAndReadByte ∧ written = some .sslRequest ∧ m'.state = .waitingSslResponse ∨
        action = .tlsHandshake ∧ m.state = .waitingSslResponse ∧ m.sslResponse = 83 ∨
        m.state ≠ .initial ∧ m.state ≠ .waitingSslResponse) := by
  cases h with
  | requestSsl _ _ _ => exact ⟨rfl, .inl ⟨rfl, rfl, rfl⟩⟩
  | begin hbegin =>
    cases hbegin with
    | plain _ hplain _ => exact absurd hmode hplain
    | refused _ _ hplain => exact absurd hmode hplain
    | secured hs => exact ⟨rfl, .inr (.inr (by simp [hs]))⟩
  | handshake hs hbyte => exact ⟨rfl, .inr (.inl ⟨rfl, hs, hbyte⟩)⟩
  | read hs =>
    refine ⟨rfl, .inr (.inr ?_)⟩
    constructor <;> intro hm <;> rw [hm] at hs <;> cases hs
  | async hs _ _ =>
    refine ⟨rfl, .inr (.inr ?_)⟩
    constructor <;> intro hm <;> rw [hm] at hs <;> cases hs
  | trusted hs _ =>
    refine ⟨rfl, .inr (.inr ?_)⟩
    rcases hs with hs | hs <;> simp [hs]
  | _ hs => exact ⟨rfl, .inr (.inr (by simp [hs]))⟩

/-- A machine that waits for the answer to its request is given a byte. -/
theorem byte_of_waiting {action : Option Action}
    (hfits : Startup.fits action .waitingSslResponse = true) (hserves : fed.serves action = true) :
    ∃ response, fed = .byte response := by
  cases action with
  | none => exact Bool.noConfusion hfits
  | some action =>
    cases action <;> cases fed <;> first
      | exact Bool.noConfusion hserves
      | exact Bool.noConfusion hfits
      | exact ⟨_, rfl⟩

theorem Secured.turn {action : Action} {written : Option StartupMessage} (hfits : s.Fits)
    (h : s.Secured) (hturned : Turned env s fed s' action written) : s'.Secured := by
  have hmode : (s.give fed).1.options.sslMode = .require := by
    rw [give_options]
    exact h.mode
  obtain ⟨hoptions, hcases⟩ := transition_of_require hturned.transition hmode
  have hbuffered := hturned.buffers
  have htaken := hturned.taken
  refine ⟨by rw [hoptions]; exact hmode, ?_, ?_⟩
  · rw [htaken]
    apply h.writes.append
    intro hwrites
    rcases hcases with ⟨-, rfl, -⟩ | ⟨rfl, -, -⟩ | ⟨hinitial, hwaiting⟩
    · rw [hbuffered]
      exact .inl rfl
    · cases hwrites
    · rw [give_state] at hinitial hwaiting
      exact .inr (h.handshaken hinitial hwaiting)
  · intro hinitial hwaiting
    rw [htaken]
    rcases hcases with ⟨-, -, hstate⟩ | ⟨rfl, hstate, hbyte⟩ | ⟨hinitial, hwaiting⟩
    · exact absurd hstate hwaiting
    · rw [give_state] at hstate
      obtain ⟨response, rfl⟩ := byte_of_waiting (hstate ▸ hfits) hturned.serves
      have hresponse : response = 83 := hbyte
      refine ⟨_, List.mem_append_right _ (List.mem_singleton_self _), ?_, rfl⟩
      rw [hresponse]
    · rw [give_state] at hinitial hwaiting
      obtain ⟨t, ht, hhandshakes⟩ := h.handshaken hinitial hwaiting
      exact ⟨t, List.mem_append_left _ ht, hhandshakes⟩

/-- An answer other than 'S' ends the negotiation of a machine that requires TLS. -/
theorem step_of_refused (env : StartupEnv) {m : ConnectionStateMachine} (b : StartupBuffers)
    (hs : m.state = .waitingSslResponse) (hbyte : m.sslResponse ≠ 83)
    (hmode : m.options.sslMode = .require) : ∃ e, (step env (m, b)).1 = .err e := by
  rw [step, Act.bind_run, Act.get_run]
  simp only [hs, handleSslResponse, Act.bind_run, Act.get_run, if_neg hbyte, if_pos hmode]
  split <;> exact ⟨_, rfl⟩

/-- **Under SslMode::Require nothing goes out in the clear.** In every run, whatever the server
sends, a write before the handshake is the request for TLS alone; and a response to it other than
'S' makes the machine fail, so that nothing follows. -/
theorem require_secret (env : StartupEnv) (options : Opts) (hmode : options.sslMode = .require)
    (buffers : StartupBuffers) (feeds : List Feed) (s : Startup)
    (hrun : runSteps (turn env) (.new options buffers) feeds = some s) :
    SecretWrites s.taken ∧
      ∀ response ≠ 83, s.last = some .writeAndReadByte →
        (∃ e, (step env (s.give (.byte response))).1 = .err e) ∧
          turn env s (.byte response) = none := by
  have hnew : Secured (.new options buffers) := by
    refine ⟨hmode, ?_, fun hinitial => absurd rfl hinitial⟩
    intro before t after heq
    cases before <;> cases heq
  obtain ⟨hfits, hsecured⟩ := run_inv
    (fun _ _ _ _ _ hfits hsecured hturned => hsecured.turn hfits hturned) hnew hrun
  refine ⟨hsecured.writes, ?_⟩
  intro response hresponse hlast
  have hstate : s.machine.state = .waitingSslResponse := by
    unfold Fits at hfits
    rw [hlast] at hfits
    cases hstate : s.machine.state <;> rw [hstate] at hfits <;>
      first | rfl | exact Bool.noConfusion hfits
  have herr : ∃ e, (step env (s.give (.byte response))).1 = .err e :=
    step_of_refused env s.buffers hstate hresponse hsecured.mode
  refine ⟨herr, ?_⟩
  obtain ⟨e, herr⟩ := herr
  unfold turn
  rw [hlast]
  rcases hstep : step env (s.give (.byte response)) with ⟨o, s'⟩
  rw [hstep] at herr
  cases herr
  rfl

/-- A user that requires TLS. -/
def requireOptions : Opts := { Opts.default with user := "u", sslMode := .require }

/-- A machine that takes an 'S' sends its startup message after the handshake; what the pooled
buffer held before is not written. -/
theorem require_secret_accepted :
    let run := runSteps (turn ⟨ScramServer.pencil, ScramServer.pencilNonce, true⟩)
      (.new requireOptions ⟨.other 0, [], [.password "stale"]⟩) [.nothing, .byte 83, .nothing]
    run.map (fun s => s.taken.map Taken.buffered) = some [[.sslRequest], [.sslRequest],
        [.startup [("user", "u"), ("client_encoding", "UTF8")]]] ∧
      ∃ s, run = some s ∧ SecretWrites s.taken := by
  intro run
  obtain ⟨s, hs⟩ : ∃ s, run = some s := ⟨_, rfl⟩
  exact ⟨rfl, s, hs, (require_secret _ requireOptions rfl _ _ s hs).1⟩

end Startup

end ZeroPostgres
