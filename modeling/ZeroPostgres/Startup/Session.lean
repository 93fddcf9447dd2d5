import ZeroPostgres.Startup.Transitions
import ZeroPostgres.Lib.Threads

/-!
# Runs of the connection machine

The driver's loop, `src/src/sync/conn.rs:77–125`: it steps the machine, does the input and output
the action asks for, and ends at the first error. What it gives the machine between two steps is
free, and so is the order of messages: nothing is assumed of the server.
-/

namespace ZeroPostgres

/-- What the driver gives the machine before a step. -/
inductive Feed where
  | nothing
  | byte (response : UInt8)
  | message (msg : RawMessage)
deriving DecidableEq, Repr

/-- What the driver gives the machine after an action; before the first step it gives nothing. -/
def Feed.serves : Feed → Option Action → Bool
  | .nothing, none | .nothing, some .write | .nothing, some .tlsHandshake => true
  | .byte _, some .writeAndReadByte => true
  | .message _, some .readMessage | .message _, some .writeAndReadMessage => true
  | .message _, some (.handleAsyncMessageAndReadMessage _) => true
  | _, _ => false

/-- The driver gives a message. -/
def Feed.isMessage : Feed → Bool
  | .message _ => true
  | _ => false

/-- The messages among what the driver gave. -/
def messages (feeds : List Feed) : List RawMessage :=
  feeds.filterMap fun
    | .message msg => some msg
    | _ => none

theorem mem_messages {feeds : List Feed} {msg : RawMessage} :
    msg ∈ messages feeds ↔ .message msg ∈ feeds := by
  unfold messages
  rw [List.mem_filterMap]
  constructor
  · rintro ⟨fed, hfed, hmsg⟩
    cases fed <;> cases hmsg
    exact hfed
  · intro h
    exact ⟨_, h, rfl⟩

/-- A step the machine took: what it was given, the action it asked for, and the write buffer the
driver then found. -/
structure Taken where
  fed : Feed
  action : Action
  buffered : List StartupMessage
deriving DecidableEq, Repr

/-- The driver writes the buffer after this action. -/
def Action.writes : Action → Bool
  | .write | .writeAndReadByte | .writeAndReadMessage => true
  | _ => false

/-- A connection being opened: the machine, its buffers and the steps so far. -/
structure Startup where
  machine : ConnectionStateMachine
  buffers : StartupBuffers
  taken : List Taken
deriving DecidableEq, Repr

namespace Startup

open ConnectionStateMachine

/-- `new_with_stream`, `src/src/sync/conn.rs:73–75`: the buffers come from a pool, and may hold
anything. -/
def new (options : Opts) (buffers : StartupBuffers) : Startup :=
  { machine := .new options, buffers, taken := [] }

/-- The action last asked for. -/
def last (s : Startup) : Option Action := s.taken.getLast?.map Taken.action

/-- The machine and the buffers after the driver gave them something. -/
def give (s : Startup) : Feed → ConnectionStateMachine × StartupBuffers
  | .nothing => (s.machine, s.buffers)
  | .byte response => ({ s.machine with sslResponse := response }, s.buffers)
  | .message msg => (s.machine, { s.buffers with typeByte := msg.type, readBuffer := msg.payload })

/-- One round of the driver's loop; an error ends it. -/
def turn (env : StartupEnv) (s : Startup) (fed : Feed) : Option Startup :=
  if fed.serves s.last then
    match step env (s.give fed) with
    | (.ok action, (machine, buffers)) =>
      some { machine, buffers, taken := s.taken ++ [⟨fed, action, buffers.writeBuffer⟩] }
    | _ => none
  else none

/-- The action last asked for is the one a machine in this state asked for. -/
def fits : Option Action → ConnectionState → Bool
  | none, .initial => true
  | some .writeAndReadByte, .waitingSslResponse => true
  | some .tlsHandshake, .waitingTlsHandshake => true
  | some .write, state => state.afterWrite.isSome
  | some .readMessage, state => state.looks && state != .finished
  | some (.handleAsyncMessageAndReadMessage _), state => state.looks && state != .finished
  | some .finished, .finished => true
  | _, _ => false

/-- What a turn did. -/
structure Turned (env : StartupEnv) (s : Startup) (fed : Feed) (s' : Startup) (action : Action)
    (written : Option StartupMessage) : Prop where
  transition : Transition env (s.give fed).1 (s.give fed).2.loaded action s'.machine written
  buffers : s'.buffers = (s.give fed).2.after written
  taken : s'.taken = s.taken ++ [⟨fed, action, s'.buffers.writeBuffer⟩]
  serves : fed.serves s.last = true

variable {env : StartupEnv} {s s' : Startup} {fed : Feed}

theorem turn_cases (h : turn env s fed = some s') :
    ∃ action written, Turned env s fed s' action written := by
  unfold turn at h
  split at h
  · rename_i hserves
    rcases hstep : step env (s.give fed) with ⟨_ | _ | _, machine, buffers⟩
    · rw [hstep] at h
      cases h
      obtain ⟨written, htransition, hbuffers⟩ := step_transition hstep
      exact ⟨_, written, htransition, hbuffers, rfl, hserves⟩
    · rw [hstep] at h
      cases h
    · rw [hstep] at h
      cases h
  · cases h

theorem Turned.last {action : Action} {written : Option StartupMessage}
    (h : Turned env s fed s' action written) : s'.last = some action := by
  simp [Startup.last, h.taken]

theorem give_state (s : Startup) (fed : Feed) : (s.give fed).1.state = s.machine.state := by
  cases fed <;> rfl

theorem give_options (s : Startup) (fed : Feed) : (s.give fed).1.options = s.machine.options := by
  cases fed <;> rfl

/-- The action a transition asks for fits the state it leads to. -/
theorem fits_transition {m m' : ConnectionStateMachine} {msg : RawMessage} {action : Action}
    {written : Option StartupMessage} (h : Transition env m msg action m' written)
    (hfinished : m.state ≠ .finished) : fits (some action) m'.state = true := by
  cases h with
  | read hs => cases hm : m.state <;> rw [hm] at hs <;> cases hs <;> rfl
  | async hs _ _ =>
    simp [fits, hs, hfinished]
  | key hs _ _ => simp [fits, hs, ConnectionState.looks]
  | parameter hs _ _ => simp [fits, hs, ConnectionState.looks]
  | _ => rfl

/-- The action last asked for fits the state of the machine. -/
def Fits (s : Startup) : Prop := fits s.last s.machine.state = true

/-- After an action that fits its state, a machine is given a message when it looks at one, and
nothing at all when it has finished. -/
theorem served {action : Option Action} {state : ConnectionState}
    (hfits : fits action state = true) (hserves : fed.serves action = true) :
    fed.isMessage = state.looks ∧ state ≠ .finished := by
  cases action with
  | none =>
    cases fed <;> first
      | exact Bool.noConfusion hserves
      | cases state <;> first | exact Bool.noConfusion hfits | exact ⟨rfl, by decide⟩
  | some action =>
    cases action <;> cases fed <;> first
      | exact Bool.noConfusion hserves
      | cases state <;> first | exact Bool.noConfusion hfits | exact ⟨rfl, by decide⟩

theorem Turned.fits {action : Action} {written : Option StartupMessage}
    (h : Turned env s fed s' action written) (hfits : s.Fits) : s'.Fits := by
  unfold Fits
  rw [h.last]
  apply fits_transition h.transition
  rw [give_state]
  exact (served hfits h.serves).2

section Runs

variable {options : Opts} {buffers : StartupBuffers} {feeds : List Feed}

/-- What turns preserve, from a connection just begun, holds in every run. -/
theorem run_inv {Inv : Startup → Prop}
    (hturn : ∀ s fed s' action written, s.Fits → Inv s → Turned env s fed s' action written →
      Inv s')
    (hnew : Inv (.new options buffers))
    (hrun : runSteps (turn env) (.new options buffers) feeds = some s) : s.Fits ∧ Inv s := by
  have hstep : ∀ s fed s', s.Fits ∧ Inv s → True → turn env s fed = some s' →
      s'.Fits ∧ Inv s' := by
    intro s fed s' ⟨hfits, hinv⟩ _ h
    obtain ⟨action, written, hturned⟩ := turn_cases h
    exact ⟨hturned.fits hfits, hturn s fed s' action written hfits hinv hturned⟩
  have hfits : (new options buffers).Fits := rfl
  exact runSteps_inv hstep ⟨hfits, hnew⟩ (.of_forall (fun _ _ => trivial) _ feeds) hrun

/-- The steps of a run are in the order of what the machine was given. -/
theorem run_fed {s s' : Startup} (hrun : runSteps (turn env) s feeds = some s') :
    s'.taken.map Taken.fed = s.taken.map Taken.fed ++ feeds := by
  induction feeds generalizing s with
  | nil =>
    cases hrun
    simp
  | cons fed feeds ih =>
    obtain ⟨s₁, hturn, hrun⟩ := Option.bind_eq_some_iff.mp hrun
    obtain ⟨action, written, hturned⟩ := turn_cases hturn
    rw [ih hrun, hturned.taken]
    simp

end Runs

end Startup

end ZeroPostgres
