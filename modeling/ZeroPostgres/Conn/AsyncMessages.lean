import ZeroPostgres.Conn.Drive
import ZeroPostgres.Conn.Transaction
import ZeroPostgres.Lib.Threads
import ZeroPostgres.State.Steps

/-!
# Asynchronous messages

The operations that run `drive` hand each asynchronous message they read to the handler, once and
in the order of arrival, however they end (`Hears`). All others pass over these messages.
-/

namespace ZeroPostgres

open Act

/-- The asynchronous messages among some messages. -/
def asyncsOf (ms : List RawMessage) : List AsyncMessage := ms.filterMap RawMessage.toAsync?

@[simp] theorem asyncsOf_nil : asyncsOf [] = [] := rfl

@[simp] theorem asyncsOf_append (ms ms' : List RawMessage) :
    asyncsOf (ms ++ ms') = asyncsOf ms ++ asyncsOf ms' := List.filterMap_append

namespace Conn

variable {P : Peer} {K α β S : Type}

/-- From `c` to `c'` the messages `read` came in, and the handler was called with `handed`. -/
structure Attends (read : List RawMessage) (handed : List AsyncMessage) (c c' : Conn P K) :
    Prop where
  received : c'.stream.received = c.stream.received ++ read
  calls : c'.asyncMessageHandler = c.asyncMessageHandler.map (· ++ handed)

/-- The asynchronous messages read were handed to the handler, once and in order. -/
def Hears (c c' : Conn P K) : Prop := ∃ read, Attends read (asyncsOf read) c c'

/-- None of the messages read was handed to the handler. -/
def Ignores (c c' : Conn P K) : Prop := ∃ read, Attends read [] c c'

theorem Attends.refl (c : Conn P K) : Attends [] [] c c := ⟨by simp, by simp⟩

theorem Attends.trans {a b c : Conn P K} {read read' : List RawMessage}
    {handed handed' : List AsyncMessage} (h : Attends read handed a b)
    (h' : Attends read' handed' b c) : Attends (read ++ read') (handed ++ handed') a c := by
  refine ⟨by rw [h'.received, h.received, List.append_assoc], ?_⟩
  rw [h'.calls, h.calls, Option.map_map]
  congr 1
  funext calls
  simp

instance : Std.Refl (Hears (P := P) (K := K)) := ⟨fun c => ⟨[], .refl c⟩⟩

instance : IsTrans (Conn P K) Hears where
  trans := by
    rintro a b c ⟨read, h⟩ ⟨read', h'⟩
    refine ⟨read ++ read', ?_⟩
    rw [asyncsOf_append]
    exact h.trans h'

instance : Std.Refl (Ignores (P := P) (K := K)) := ⟨fun c => ⟨[], .refl c⟩⟩

instance : IsTrans (Conn P K) Ignores where
  trans := by
    rintro a b c ⟨read, h⟩ ⟨read', h'⟩
    exact ⟨read ++ read', h.trans h'⟩

theorem Unheard.ignores {c c' : Conn P K} (h : Unheard c c') : Ignores c c' := by
  obtain ⟨⟨sent, read, htalked⟩, hsame⟩ := h
  refine ⟨read, htalked.received, ?_⟩
  rw [hsame]
  simp

theorem Mute.hears {c c' : Conn P K} (h : Mute c c') : Hears c c' :=
  ⟨[], by rw [h.1.1, List.append_nil], by rw [h.2]; simp⟩

theorem mute_hears {x : Act Error (Conn P K) α} (h : Keeps Mute x) : Keeps Hears x :=
  h.mono fun _ _ => Mute.hears

/-! ### Reading -/

theorem awaitPoint_hears : Keeps Hears (awaitPoint : Act Error (Conn P K) Unit) := by
  refine ⟨fun c => ?_⟩
  unfold awaitPoint
  split <;> exact ⟨[], by simp, by simp⟩

theorem send_hears : Keeps Hears (send : Act Error (Conn P K) Unit) := by
  refine Keeps.bind ⟨fun c => ?_⟩ fun _ => awaitPoint_hears
  unfold writeAll
  split <;> exact ⟨[], by simp, by simp⟩

theorem starve_hears : Keeps Hears (starve : Act Error (Conn P K) α) := by
  refine awaitPoint_hears.bind fun _ => keeps_of_snd_eq fun c => ?_
  by_cases h : c.session.mode = .closed
  · rw [if_pos h]
  · rw [if_neg h]

/-- One round of a loop hands `m` on if it is asynchronous, and keeps the loop's invariant. -/
def Hands (I : β → Prop) (m : RawMessage) (c : Conn P K) (o : Outcome Error (Flow β α))
    (c' : Conn P K) : Prop :=
  c'.stream = c.stream ∧
    c'.asyncMessageHandler = c.asyncMessageHandler.map (· ++ asyncsOf [m]) ∧
    ∀ b, o = .ok (.next b) → I b

/-- A loop whose rounds hand on what they read. -/
theorem readMessages_hears {body : β → RawMessage → Act Error (Conn P K) (Flow β α)}
    {I : β → Prop} (hbody : ∀ b m c, I b → c.bufferSet.loaded = m →
      Act.Meets (body b m) c (Hands I m c)) {b : β} (hb : I b) (c : Conn P K) :
    Act.Meets (readMessages body b) c fun _ c' => Hears c c' := by
  have htrans {a b c : Conn P K} (h : Hears a b) (h' : Hears b c) : Hears a c :=
    IsTrans.trans a b c h h'
  refine readLoop_meets receive starve body (I := fun _ b s => I b ∧ Hears c s)
    (Q := fun _ s => Hears c s) ?_ ?_ _ b c ⟨hb, Std.Refl.refl c⟩
  · intro b s hs
    exact htrans hs.2 (starve_hears.rel s)
  · intro m ms b s hs
    have hawait := awaitPoint_hears.rel s
    simp only [receive, Act.meets_bind, Act.meets_modify]
    unfold Act.Meets
    generalize awaitPoint s = r at hawait
    rcases r with ⟨_ | _ | _, s'⟩
    · have hround := (hbody b m (s'.take m) hs.1 rfl).at
      dsimp only
      generalize body b m (s'.take m) = r at hround
      obtain ⟨o, s''⟩ := r
      obtain ⟨hstream, hhandler, hnext⟩ := hround
      -- the round takes the message off the stream and hands it on
      have hone : Hears s' s'' := ⟨[m], by rw [hstream]; rfl, hhandler⟩
      have hafter : Hears c s'' := htrans (htrans hs.2 hawait) hone
      rcases o with ⟨b' | a⟩ | e | _
      · exact ⟨hnext b' rfl, hafter⟩
      · exact hafter
      · exact hafter
      · exact hafter
    · exact htrans hs.2 hawait
    · exact htrans hs.2 hawait

section Drive

variable [Driver K]

variable [StateMachine S] [LawfulStateMachine S] [Reports S]

omit [StateMachine S] [LawfulStateMachine S] [Reports S] [Driver K] in
/-- A message that is not asynchronous leaves the handler as it was. -/
private theorem hands_silent {I : S → Prop} {m : RawMessage} {c c' : Conn P K}
    {o : Outcome Error (Flow S α)} (hm : m.toAsync? = none) (hmute : Mute c c')
    (hnext : ∀ s, o = .ok (.next s) → I s) : Hands I m c o c' := by
  refine ⟨hmute.1.1, ?_, hnext⟩
  rw [hmute.2]
  simp [asyncsOf, hm]

/-- A round of `drive` hands on the asynchronous message it has read. -/
theorem driveRound_hands (s : S) (m : RawMessage) (c : Conn P K) (hs : HandlerMachine.Started s)
    (hm : c.bufferSet.loaded = m) :
    Act.Meets (driveRound s m) c (Hands HandlerMachine.Started m c) := by
  subst hm
  cases hasync : c.bufferSet.loaded.toAsync? with
  | some msg =>
    have hstep := LawfulStateMachine.step_async s c.bufferSet msg hs hasync
    refine Act.meets_bind.mpr (stepMachine_meets hstep ?_)
    refine ⟨rfl, ?_, fun s' hs' => ?_⟩
    · have hone : asyncsOf [c.bufferSet.loaded] = [msg] := by simp [asyncsOf, hasync]
      rw [hone]
      rfl
    · cases hs'
      exact hs
  | none =>
    have hstarted := Reports.step_started s c.bufferSet
    refine Act.meets_bind.mpr ?_
    unfold Act.Meets stepMachine
    rcases hstep : StateMachine.step (s, c.bufferSet) with ⟨action | e | _, s', b⟩
    · rw [hstep] at hstarted
      have next : ∀ s'', (.ok (.next s') : Outcome Error (Flow S S)) = .ok (.next s'') →
          HandlerMachine.Started s'' := by
        intro s'' h
        cases h
        exact hstarted
      cases action with
      | handleAsyncMessageAndReadMessage msg =>
        have h := Reports.step_handsOn s c.bufferSet msg hs (congrArg Prod.fst hstep)
        rw [hasync] at h
        cases h
      | readMessage => exact hands_silent hasync ⟨⟨rfl, id⟩, rfl⟩ next
      | _ => exact hands_silent hasync ⟨⟨rfl, id⟩, rfl⟩ fun s'' h => by cases h
    · exact hands_silent hasync ⟨⟨rfl, id⟩, rfl⟩ fun s'' h => by cases h
    · exact hands_silent hasync ⟨⟨rfl, id⟩, rfl⟩ fun s'' h => by cases h

theorem drive_hears (s : S) : Keeps Hears (drive s : Act Error (Conn P K) S) := by
  refine (mute_hears beginExchange_mute).bind fun _ => ⟨fun c => ?_⟩
  have hstarted := Reports.step_started s c.bufferSet
  have hmute := (stepMachine_mute StateMachine.step s).rel c
  rw [Act.bind_run]
  unfold stepMachine at hmute ⊢
  generalize StateMachine.step (s, c.bufferSet) = r at hstarted hmute ⊢
  obtain ⟨o, s', b⟩ := r
  cases o with
  | ok action =>
    cases action with
    | writeAndReadMessage =>
      refine IsTrans.trans _ _ _ hmute.hears ((send_hears.bind fun _ => ⟨fun c => ?_⟩).rel _)
      exact (readMessages_hears driveRound_hands hstarted c).at
    | _ => exact hmute.hears
  | err e => exact hmute.hears
  | halt => exact hmute.hears

instance : KeptByDrive (Hears (P := P) (K := K)) where
  mute := Mute.hears
  simple := drive_hears
  extended := drive_hears

end Drive

/-! ### Runs -/

section Runs

variable {U : Type} {step : Conn P K → U → Option (Conn P K)} {attends : U → Bool}

/-- What came in between two states of a connection. -/
def readSince (c c' : Conn P K) : List RawMessage :=
  c'.stream.received.drop c.stream.received.length

theorem Attends.readSince_eq {c c' : Conn P K} {read : List RawMessage}
    {handed : List AsyncMessage} (h : Attends read handed c c') : readSince c c' = read := by
  rw [readSince, h.received, List.drop_left]

/-- What the handler was called with is all it was to be called with. -/
theorem Attends.handed_eq {c c' : Conn P K} {read : List RawMessage} {handed : List AsyncMessage}
    (h : Attends read handed c c') (hc : c.asyncMessageHandler.isSome = true) (hh : Hears c c') :
    handed = asyncsOf read := by
  obtain ⟨read', h'⟩ := hh
  obtain ⟨calls, hcalls⟩ := Option.isSome_iff_exists.mp hc
  have hread : read = read' := by rw [← h.readSince_eq, h'.readSince_eq]
  have heq := h.calls.symm.trans h'.calls
  rw [hcalls] at heq
  rw [hread]
  exact List.append_cancel_left (Option.some.inj heq)

/-- Where the handler was not called with all that came in. -/
theorem deaf {c c' : Conn P K} (hcalls : c'.asyncMessageHandler = some [])
    (hread : asyncsOf (readSince c c') ≠ []) : ¬ Hears c c' := by
  rintro ⟨read, h⟩
  rw [h.readSince_eq] at hread
  have hc := h.calls.symm.trans hcalls
  cases hhandler : c.asyncMessageHandler with
  | none => simp [hhandler] at hc
  | some calls => simp [hhandler, hread] at hc

/-- The step hands on what it reads, or no asynchronous message comes in. -/
def Undisturbed (step : Conn P K → U → Option (Conn P K)) (attends : U → Bool) (c : Conn P K)
    (u : U) : Prop :=
  attends u = true ∨ ∀ c' ∈ step c u, asyncsOf (readSince c c') = []

instance (c : Conn P K) (u : U) : Decidable (Undisturbed step attends c u) :=
  match h : step c u with
  | some c' => decidable_of_iff (attends u = true ∨ asyncsOf (readSince c c') = [])
      (by simp [Undisturbed, h])
  | none => .isTrue (by simp [Undisturbed, h])

/-- Each step hands on what it reads, or passes over it. -/
def Attentive (step : Conn P K → U → Option (Conn P K)) (attends : U → Bool) : Prop :=
  ∀ c u c', step c u = some c' →
    (attends u = true → Hears c c') ∧ (attends u = false → Ignores c c')

theorem Attentive.step_attends (h : Attentive step attends) {c c' : Conn P K} {u : U}
    (hstep : step c u = some c') : ∃ read handed, Attends read handed c c' ∧
      (attends u = true → handed = asyncsOf read) ∧ (attends u = false → handed = []) := by
  obtain ⟨hheard, hignored⟩ := h c u c' hstep
  cases hu : attends u with
  | true =>
    obtain ⟨read, hc⟩ := hheard hu
    exact ⟨read, _, hc, fun _ => rfl, fun h => Bool.noConfusion h⟩
  | false =>
    obtain ⟨read, hc⟩ := hignored hu
    exact ⟨read, _, hc, fun h => Bool.noConfusion h, fun _ => rfl⟩

theorem Attentive.run (h : Attentive step attends) {us : List U} {c c' : Conn P K}
    (hrun : runSteps step c us = some c') : ∃ read handed, Attends read handed c c' := by
  induction us generalizing c with
  | nil =>
    cases hrun
    exact ⟨[], [], .refl _⟩
  | cons u us ih =>
    simp only [runSteps, Option.bind_eq_some_iff] at hrun
    obtain ⟨c₁, hstep, hrun⟩ := hrun
    obtain ⟨read, handed, ha, -⟩ := h.step_attends hstep
    obtain ⟨read', handed', ha'⟩ := ih hrun
    exact ⟨_, _, ha.trans ha'⟩

/-- All asynchronous messages that come in along a run are handed to the handler, once and in
order, exactly when none comes in with a step that passes over them. The induction is on the
steps. -/
theorem hears_iff (h : Attentive step attends) {c : Conn P K}
    (hc : c.asyncMessageHandler.isSome = true) (us : List U) :
    (∀ n c', runSteps step c (us.take n) = some c' → Hears c c') ↔
      Always step (Undisturbed step attends) c us := by
  induction us generalizing c with
  | nil =>
    refine iff_of_true (fun n c' hrun => ?_) trivial
    rw [List.take_nil] at hrun
    cases hrun
    exact Std.Refl.refl c
  | cons u us ih =>
    constructor
    · intro hall
      have hone {c₁ : Conn P K} (hstep : step c u = some c₁) : Hears c c₁ :=
        hall 1 c₁ (by simp [runSteps, hstep])
      refine ⟨?_, fun c₁ hstep => ?_⟩
      · refine or_iff_not_imp_left.mpr fun hu c₁ hstep => ?_
        obtain ⟨read, handed, ha, -, hnil⟩ := h.step_attends hstep
        rw [ha.readSince_eq, ← ha.handed_eq hc (hone hstep)]
        exact hnil (by simpa using hu)
      · obtain ⟨read, handed, ha, -⟩ := h.step_attends hstep
        have hhanded := ha.handed_eq hc (hone hstep)
        have hc₁ : c₁.asyncMessageHandler.isSome = true := by rw [ha.calls, Option.isSome_map, hc]
        refine (ih hc₁).mp fun n c' hrun => ?_
        obtain ⟨read', handed', ha'⟩ := h.run hrun
        have hboth := (ha.trans ha').handed_eq hc
          (hall (n + 1) c' (by simp [runSteps, hstep, hrun]))
        rw [asyncsOf_append, hhanded] at hboth
        rw [List.append_cancel_left hboth] at ha'
        exact ⟨read', ha'⟩
    · rintro ⟨hu, hus⟩ n c' hrun
      cases n with
      | zero =>
        cases hrun
        exact Std.Refl.refl c
      | succ n =>
        simp only [List.take_succ_cons, runSteps, Option.bind_eq_some_iff] at hrun
        obtain ⟨c₁, hstep, hrun⟩ := hrun
        obtain ⟨read, handed, ha, hheard, hnil⟩ := h.step_attends hstep
        have hone : handed = asyncsOf read := by
          rcases hu with hu | hu
          · exact hheard hu
          · have hread := hu c₁ hstep
            rw [ha.readSince_eq] at hread
            cases hattends : attends u with
            | true => exact hheard hattends
            | false => rw [hnil hattends, hread]
        have hc₁ : c₁.asyncMessageHandler.isSome = true := by rw [ha.calls, Option.isSome_map, hc]
        rw [hone] at ha
        exact IsTrans.trans _ _ _ ⟨read, ha⟩ ((ih hc₁).mpr (hus c₁ hstep) n c' hrun)

end Runs

end Conn

end ZeroPostgres
