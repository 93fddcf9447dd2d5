import ZeroPostgres.Conn.Calls
import ZeroPostgres.Conn.Tokio
import ZeroPostgres.Conn.Transaction

/-!
# Interrupted exchanges

The future of a call may be dropped at any await point. `exchange_in_progress` is set before the
first byte of an exchange is written and cleared at its end, so a connection that is ready for an
exchange is `Tidy`: nothing waits on it, and the server owes nothing. `exchangeWith_tidy` is the
rule for exchanges with a machine and `request_tidy` the one for loops without; each loop clears the
flag only at a message at which its reply ends.
-/

namespace ZeroPostgres

open Act

/-- Where a message of the given types stands in the reply to some messages, with none but `pass`
messages before it, it ends the reply, and then the server waits for the next message. -/
def Peer.FinishesPast (P : Peer) (ends pass : MsgType → Bool) (st : P.State)
    (fs : List Frontend) : Prop :=
  ∀ body z tail, core (P.feed st fs).1 = body ++ z :: tail → ends z.type = true →
    (∀ m ∈ body, pass m.type = true) →
    tail = [] ∧ (P.session (P.feed st fs).2).mode = .ready

/-- The types of messages that start no COPY. -/
def notCopy (t : MsgType) : Bool := !t.isCopy

theorem notCopy_of_within {t : MsgType} (h : t.within = true) : notCopy t = true := by
  unfold MsgType.within at h
  rw [Bool.and_eq_true] at h
  exact h.1

section

variable {P : Peer} {ends : MsgType → Bool} {st : P.State} {fs : List Frontend}

theorem Peer.Finishes.past (h : P.Finishes ends st fs) (pass : MsgType → Bool) :
    P.FinishesPast ends pass st fs := fun body z tail hcore hz _ => h body z tail hcore hz

/-- Past no COPY the end is not reached where one starts first. -/
theorem CopiesFirst.past (h : CopiesFirst ends (core (P.feed st fs).1))
    (hends : ∀ t, ends t = true → t.isCopy = false) : P.FinishesPast ends notCopy st fs := by
  intro body z tail hcore hz hpass
  obtain ⟨m, hm, hcopy⟩ := h.copy_before hends hcore hz
  have hno := hpass m hm
  rw [notCopy, hcopy] at hno
  cases hno

/-- A request ends with its only Query or Sync. -/
theorem feed_ends_past (f : Frontend) (hc : (P.session st).mode ≠ .copying)
    (hfs : ∀ f ∈ fs, f.asksReady = false) :
    P.FinishesPast MsgType.isReady notCopy st (fs ++ [f]) := by
  rcases feed_ends f hc hfs with h | ⟨-, h⟩
  · exact h.past _
  · exact h.past fun t ht => by cases t <;> first | rfl | cases ht

/-- A request with a Flush behind it is completed by the message that completes its last part. -/
theorem feed_completes_past (fs : List Frontend) (f : Frontend)
    (hc : (P.session st).mode ≠ .copying)
    (hfs : ∀ g ∈ fs, g.isExtended = true ∧ g.describes = true) (hf : f.isExtended = true) :
    P.FinishesPast MsgType.completes notCopy st (fs ++ [f, .flush]) := by
  rcases feed_completes_or hc hfs hf with h | ⟨-, h⟩
  · exact h.past _
  · exact h.past fun t ht => by cases t <;> first | rfl | cases ht

/-- Where nothing is executed there is no COPY to read past. -/
theorem feed_completes_unexecuted (fs : List Frontend) (f : Frontend)
    (hc : (P.session st).mode ≠ .copying)
    (hfs : ∀ g ∈ fs, g.isExtended = true ∧ g.describes = true) (hf : f.isExtended = true)
    (hexec : f.executes = false) (pass : MsgType → Bool) :
    P.FinishesPast MsgType.completes pass st (fs ++ [f, .flush]) := by
  rcases feed_completes_or hc hfs hf with h | ⟨hcopy, -⟩
  · exact h.past pass
  · refine absurd hcopy (feed_executes_nothing hc fun g hg => ?_)
    simp only [List.mem_append, List.mem_cons, List.not_mem_nil, or_false] at hg
    rcases hg with hg | rfl | rfl
    · exact Frontend.executes_of_describes (hfs g hg).2
    · exact hexec
    · rfl

/-- A Sync starts no COPY. -/
theorem feed_sync_past (hc : (P.session st).mode ≠ .copying) (pass : MsgType → Bool) :
    P.FinishesPast MsgType.isReady pass st [.sync] := by
  have hends : P.Finishes MsgType.isReady st ([] ++ [.sync]) ∨ _ := feed_ends .sync hc (by simp)
  rcases hends with h | ⟨hcopy, -⟩
  · exact h.past pass
  · exact absurd hcopy (feed_executes_nothing hc (by simp [Frontend.executes]))

end

namespace Tokio

open ZeroPostgres.Conn

variable {P : Peer} {S α β : Type}

/-- An exchange is in progress. -/
def Busy (c : Conn P) : Prop := c.flags.exchangeInProgress = true

/-- Unless an exchange is in progress or the connection is marked broken, nothing waits to be read,
and the server has nothing to answer. -/
def Tidy (c : Conn P) : Prop :=
  c.exchangeReady = true → c.unread = [] ∧ (c.session.mode = .ready ∨ c.session.mode = .closed)

theorem Busy.not_ready {c : Conn P} (h : Busy c) : c.exchangeReady = false := by
  unfold Busy at h
  simp [Conn.exchangeReady, Driver.exchangeReady, h]

theorem Busy.tidy {c : Conn P} (h : Busy c) : Tidy c := fun hready => by
  rw [h.not_ready] at hready
  cases hready

theorem Busy.of_marks {c c' : Conn P} (h : Busy c) (hm : c'.marks = c.marks) : Busy c' := by
  have hflags : c'.flags = c.flags := congrArg Prod.snd hm
  unfold Busy
  rw [hflags]
  exact h

theorem exchangeReady_of_marks {c c' : Conn P} (hm : c'.marks = c.marks) :
    c'.exchangeReady = c.exchangeReady := by
  have hbroken : c'.broken = c.broken := congrArg Prod.fst hm
  have hflags : c'.flags = c.flags := congrArg Prod.snd hm
  rw [exchangeReady, exchangeReady, hbroken, hflags]

theorem ready_of_not_broken {c : Conn P} (h : c.isBroken = false) : c.exchangeReady = true := by
  have h : (c.broken || c.flags.exchangeInProgress || c.flags.scopePending) = false := h
  change (!(c.broken || c.flags.exchangeInProgress)) = true
  cases hc : c.broken || c.flags.exchangeInProgress with
  | false => rfl
  | true =>
    rw [hc] at h
    cases h

/-- Where a loop is while an exchange is in progress: it clears the flag only where it ends, at a
message at which the reply ends, and goes on past `pass` messages only. -/
def Steady (Inv : β → Prop) (ends pass : MsgType → Bool)
    (body : β → RawMessage → Act Error (Conn P) (Flow β α)) : Prop :=
  ∀ b m c, Inv b → Busy c → c.bufferSet.loaded = m → Act.Meets (body b m) c fun o c' =>
    match o with
    | .ok (.next b') => Inv b' ∧ Busy c' ∧ pass m.type = true
    | _ => Busy c' ∨ ends m.type = true

theorem Steady.mono {Inv : β → Prop} {ends pass pass' : MsgType → Bool}
    {body : β → RawMessage → Act Error (Conn P) (Flow β α)} (h : Steady Inv ends pass body)
    (hpass : ∀ t, pass t = true → pass' t = true) : Steady Inv ends pass' body := by
  intro b m c hb hbusy hm
  refine (h b m c hb hbusy hm).mono fun o c' hround => ?_
  match o, hround with
  | .ok (.next b'), ⟨hb', hbusy', hm⟩ => exact ⟨hb', hbusy', hpass _ hm⟩
  | .ok (.stop _), hround => exact hround
  | .err e, hround => exact hround
  | .halt, hround => exact hround

/-- A loop reads the replies that wait, dropped on the way or not. -/
theorem readMessages_tidy {Inv : β → Prop} {ends pass : MsgType → Bool}
    {body : β → RawMessage → Act Error (Conn P) (Flow β α)} (hsteady : Steady Inv ends pass body)
    (hstill : ∀ b m, Keeps Still (body b m)) (hasync : ∀ t, ends t = true → t.isAsync = false)
    {b : β} {c : Conn P} (hb : Inv b) (hbusy : Busy c)
    (hends : ∀ before z tail, c.unread = before ++ z :: tail → ends z.type = true →
      (∀ m ∈ before, pass m.type = true) → tail = [] ∧ c.session.mode = .ready) :
    Act.Meets (readMessages body b) c fun _ c' => Tidy c' := by
  -- of what waited only `pass` messages have been read
  let Waits (ms : List RawMessage) (s : Conn P) : Prop :=
    s.stream.inbound = ms ∧ s.session = c.session ∧
      ∃ read, c.stream.inbound = read ++ ms ∧ ∀ m ∈ core read, pass m.type = true
  refine readLoop_meets receive starve body (I := fun ms b s => Waits ms s ∧ Inv b ∧ Busy s)
    (Q := fun _ s => Tidy s) ?_ ?_ _ b c ⟨⟨rfl, rfl, [], rfl, by simp⟩, hb, hbusy⟩
  · intro b s ⟨_, _, hbusy⟩
    refine Act.meets_bind.mpr (awaitPoint_meets hbusy.tidy fun cut _ => ?_)
    unfold Act.Meets
    dsimp only
    split <;> exact Busy.tidy hbusy
  · intro m ms b s ⟨⟨hin, hsession, read, hread, hpass⟩, hb, hbusy⟩
    simp only [receive, Act.meets_bind, Act.meets_modify]
    refine awaitPoint_meets hbusy.tidy fun cut _ => ?_
    generalize hs₁ : take { s with stream := { s.stream with cut } } m = s₁
    have hround := (hsteady b m s₁ hb (by subst hs₁; exact hbusy) (by subst hs₁; rfl)).at
    have hst := (hstill b m).rel s₁
    have hin₁ : s₁.stream.inbound = ms := by
      subst hs₁
      simp [take, hin]
    have hsession₁ : s₁.session = c.session := by
      subst hs₁
      exact hsession
    dsimp only
    unfold Act.Meets
    generalize body b m s₁ = r at hround hst
    obtain ⟨o, s₂⟩ := r
    dsimp only at hround hst ⊢
    have hin₂ : s₂.stream.inbound = ms := by rw [hst.1, hin₁]
    have hsession₂ : s₂.session = c.session := by rw [session, hst.1]; exact hsession₁
    have ended (h : Busy s₂ ∨ ends m.type = true) : Tidy s₂ := by
      rcases h with h | hm
      · exact h.tidy
      · have hcore : c.unread = core read ++ m :: core ms := by
          rw [unread, hread, core_append, core_cons_sync (hasync _ hm)]
        obtain ⟨htail, hmode⟩ := hends _ m _ hcore hm hpass
        refine fun _ => ⟨?_, .inl ?_⟩
        · rw [unread, hin₂, htail]
        · rw [hsession₂, hmode]
    cases o with
    | ok flow =>
      cases flow with
      | next b' =>
        obtain ⟨hb', hbusy', hm⟩ := hround
        refine ⟨⟨hin₂, hsession₂, read ++ [m], by simp [hread], ?_⟩, hb', hbusy'⟩
        intro x hx
        rw [core_append] at hx
        rcases List.mem_append.mp hx with hx | hx
        · exact hpass x hx
        · rw [List.mem_singleton.mp (List.mem_of_mem_filter hx)]
          exact hm
      | stop a => exact ended hround
    | err e => exact ended hround
    | halt => exact ended hround

/-! ### Requests -/

/-- Sending leaves the marks of the connection alone. -/
theorem send_marks (c : Conn P) : Act.Meets send c fun _ c' => c'.marks = c.marks := by
  have await (c : Conn P) : Act.Meets awaitPoint c fun _ c' => c'.marks = c.marks :=
    awaitPoint_meets rfl fun _ _ => rfl
  refine Act.meets_bind.mpr ?_
  unfold Act.Meets writeAll
  split
  · exact await _
  · rfl
  · exact await _

/-- What comes after a request is sent, where it is enough that the exchange stays in progress. -/
theorem send_busy {f : Act Error (Conn P) α} {c : Conn P} {Q : Outcome Error α → Conn P → Prop}
    (hbusy : Busy c) (hQ : ∀ o c', Busy c' → Q o c')
    (hf : ∀ cut, Act.Meets f
      { c with stream := { c.stream.sendAll c.bufferSet.writeBuffer with cut } } Q) :
    Act.Meets (send >>= fun _ => f) c Q := by
  have hspec := (send_meets (c := c) (Q := fun o c' => o = .halt ∨ ∃ cut,
    c' = { c with stream := { c.stream.sendAll c.bufferSet.writeBuffer with cut } })
    (fun _ => .inl rfl) fun cut _ => .inr ⟨cut, rfl⟩).at
  have hmarks := (send_marks c).at
  refine Act.meets_bind.mpr ?_
  unfold Act.Meets
  generalize (send c : Outcome Error Unit × Conn P) = r at hspec hmarks
  obtain ⟨o, c'⟩ := r
  cases o with
  | ok u =>
    rcases hspec with h | ⟨cut, rfl⟩
    · cases h
    · exact hf cut
  | err e => exact hQ _ _ (hbusy.of_marks hmarks)
  | halt => exact hQ _ _ (hbusy.of_marks hmarks)

/-- An exchange on a tidy connection begins with nothing waiting, or it is refused. -/
theorem beginExchange_tidy {f : Act Error (Conn P) α} {c : Conn P} (ht : Tidy c)
    (hf : c.unread = [] → c.session.mode = .ready ∨ c.session.mode = .closed →
      Act.Meets f { c with flags := Driver.beginFlags c.flags } fun _ c' => Tidy c') :
    Act.Meets (beginExchange >>= fun _ => f) c fun _ c' => Tidy c' := by
  refine Act.meets_bind.mpr (beginExchange_meets (fun _ => ht) fun hready => ?_)
  obtain ⟨hu, hmode⟩ := ht hready
  exact hf hu hmode

/-- The reply to a request that was just sent is read to its end, or the exchange stays in
progress. -/
theorem request_tidy {Inv : β → Prop} {ends pass : MsgType → Bool}
    {body : β → RawMessage → Act Error (Conn P) (Flow β α)} (hsteady : Steady Inv ends pass body)
    (hstill : ∀ b m, Keeps Still (body b m)) (hasync : ∀ t, ends t = true → t.isAsync = false)
    {b : β} {c : Conn P} (hb : Inv b) (hbusy : Busy c) (hu : c.unread = [])
    (hends : P.FinishesPast ends pass c.stream.peer c.bufferSet.writeBuffer) :
    Act.Meets (send >>= fun _ => readMessages body b) c fun _ c' => Tidy c' := by
  refine send_busy hbusy (fun _ _ => Busy.tidy) fun cut =>
    readMessages_tidy hsteady hstill hasync hb hbusy ?_
  intro before z tail hcore hz hpass
  have hin : core (c.stream.sendAll c.bufferSet.writeBuffer).inbound = before ++ z :: tail := hcore
  rw [Stream.sendAll_inbound, core_append, show core c.stream.inbound = [] from hu,
    List.nil_append] at hin
  obtain ⟨htail, hmode⟩ := hends before z tail hin hz hpass
  refine ⟨htail, ?_⟩
  rw [← hmode, ← Stream.sendAll_peer]
  rfl

/-- The exchange of a machine, dropped on the way or not. -/
theorem exchangeWith_tidy {step : Step S Action} {Inv : S → Prop} {ends pass : MsgType → Bool}
    {body : S → RawMessage → Act Error (Conn P) (Flow S α)} (hsteady : Steady Inv ends pass body)
    (hstill : ∀ b m, Keeps Still (body b m)) (hasync : ∀ t, ends t = true → t.isAsync = false)
    {m m₁ : S} {c : Conn P} {b₁ : BufferSet}
    (hfirst : step (m, c.bufferSet) = (.ok .writeAndReadMessage, (m₁, b₁))) (hm : Inv m₁)
    (hends : c.session.mode ≠ .copying →
      P.FinishesPast ends pass c.stream.peer b₁.writeBuffer) (ht : Tidy c) :
    Act.Meets (exchangeWith step body m) c fun _ c' => Tidy c' := by
  refine beginExchange_tidy ht fun hu hmode => ?_
  refine Act.meets_bind.mpr (stepMachine_meets hfirst ?_)
  refine request_tidy (c := { c with flags := Driver.beginFlags c.flags, bufferSet := b₁ }) hsteady
    hstill hasync hm rfl hu (hends ?_)
  rcases hmode with h | h <;> rw [h] <;> decide

/-! ### Rounds -/

/-- A halted round of a machine leaves the marks of the connection alone. -/
private theorem stepMachine_halts {step : Step S Action}
    {f : Action × S → Act Error (Conn P) β}
    (hf : ∀ r c, Act.Meets (f r) c fun o c' => o = .halt → c'.marks = c.marks) (m : S)
    (c : Conn P) :
    Act.Meets (stepMachine step m >>= f) c fun o c' => o = .halt → c'.marks = c.marks := by
  refine Act.meets_bind.mpr (stepMachine_cases (fun action m' b _ => ?_)
    (fun _ _ _ _ h => by cases h) fun _ _ => rfl)
  exact hf (action, m') { c with bufferSet := b }

/-- The rounds of a machine that reads past `pass` messages and ends where the reply does. -/
theorem machine_steady {step : Step S Action} {Stop : S → α → Conn P → Prop}
    {Fail : S → Conn P → Prop} {Inv : S → Prop} {ends pass : MsgType → Bool}
    {body : S → RawMessage → Act Error (Conn P) (Flow S α)}
    (hround : ∀ m x c, Act.Meets (body m x) c (Rounded step Stop Fail m c))
    (hhalt : ∀ m x c, Act.Meets (body m x) c fun o c' => o = .halt → c'.marks = c.marks)
    (hstep : ∀ m b, Inv m → ∀ action, (step (m, b)).1 = .ok action → Inv (step (m, b)).2.1 ∧
      (action.reads = true → pass b.typeByte = true) ∧
      (action.ends = true → ends b.typeByte = true)) : Steady Inv ends pass body := by
  intro m x c hm hbusy hx
  have hround := (hround m x c).at
  have hhalt := (hhalt m x c).at
  have htype : c.bufferSet.typeByte = x.type := by rw [← hx]; rfl
  have hstep := hstep m c.bufferSet hm
  rw [htype] at hstep
  unfold Act.Meets
  generalize body m x c = r at hround hhalt
  obtain ⟨o, c'⟩ := r
  dsimp only at hround hhalt ⊢
  cases hround with
  | next hrun hreads hmarks =>
    rw [hrun] at hstep
    obtain ⟨hm', hpass, -⟩ := hstep _ rfl
    exact ⟨hm', hbusy.of_marks hmarks, hpass hreads⟩
  | stop hrun _ _ =>
    rw [hrun] at hstep
    exact .inr ((hstep _ rfl).2.2 rfl)
  | error hrun _ _ =>
    rw [hrun] at hstep
    exact .inr ((hstep _ rfl).2.2 rfl)
  | failed _ hmarks => exact .inl (hbusy.of_marks hmarks)
  | bug _ hmarks => exact .inl (hbusy.of_marks hmarks)
  | halt => exact .inl (hbusy.of_marks (hhalt rfl))

private theorem not_reads_of_ends {action : Action} (h : action.ends = true) :
    action.reads = false := by
  cases action <;> first | rfl | cases h

/-- A machine that ends at ReadyForQuery reads past no COPY. -/
theorem synced_steady {step : Step S Action} {Started : S → Prop} {Stop : S → α → Conn P → Prop}
    {Fail : S → Conn P → Prop} {body : S → RawMessage → Act Error (Conn P) (Flow S α)}
    (hend : EndsAtReady step Started)
    (hround : ∀ m x c, Act.Meets (body m x) c (Rounded step Stop Fail m c))
    (hhalt : ∀ m x c, Act.Meets (body m x) c fun o c' => o = .halt → c'.marks = c.marks) :
    Steady Started MsgType.isReady notCopy body := by
  refine machine_steady hround hhalt fun m b hm action haction => ?_
  refine ⟨hend.step_started m b hm, fun hreads => ?_, fun hends => ?_⟩
  · rcases hend.step_ends m b hm action haction with ⟨-, hwithin⟩ | ⟨hends, -⟩
    · exact notCopy_of_within hwithin
    · rw [not_reads_of_ends hends] at hreads
      cases hreads
  · rcases hend.step_ends m b hm action haction with ⟨hreads, -⟩ | ⟨-, hready⟩
    · rw [not_reads_of_ends hends] at hreads
      cases hreads
    · rw [hready]
      rfl

theorem driveRound_halts [StateMachine S] (m : S) (x : RawMessage) (c : Conn P) :
    Act.Meets (driveRound m x) c fun o c' => o = .halt → c'.marks = c.marks := by
  refine stepMachine_halts (fun (action, m) c => ?_) m c
  cases action <;> first | exact fun _ => rfl | exact fun h => by cases h

theorem driveBatchRound_halts (m : BatchStateMachine) (x : RawMessage) (c : Conn P) :
    Act.Meets (driveBatchRound m x) c fun o c' => o = .halt → c'.marks = c.marks := by
  refine stepMachine_halts (fun (action, m) c => ?_) m c
  cases action <;> first | exact fun _ => rfl | exact fun h => by cases h

theorem prepareBatchRound_halts (m : BatchPrepareStateMachine) (x : RawMessage) (c : Conn P) :
    Act.Meets (prepareBatchRound m x) c fun o c' => o = .halt → c'.marks = c.marks := by
  refine stepMachine_halts (fun (action, m) c => ?_) m c
  cases action <;> first | exact fun _ => rfl | exact fun h => by cases h

theorem bindRound_halts (m : BindStateMachine) (x : RawMessage) (c : Conn P) :
    Act.Meets (bindRound m x) c fun o c' => o = .halt → c'.marks = c.marks := by
  refine stepMachine_halts (fun (action, m) c => ?_) m c
  cases action <;> first | exact fun _ => rfl | exact fun h => by cases h

theorem bindRound_steady : Steady BindStateMachine.Started MsgType.completes MsgType.within
    (bindRound : BindStateMachine → RawMessage → Act Error (Conn P) (Flow _ Unit)) := by
  refine machine_steady bindRound_rounded bindRound_halts fun m b hm action haction => ?_
  have h := (BindStateMachine.step_meets hm b).at
  refine ⟨h.1, fun _ => (h.2.2 action haction).1.2, fun hends => ?_⟩
  rw [(h.2.2 action haction).2 hends]
  rfl

/-- A loop that passes over asynchronous messages, completed by one message of its own. -/
theorem lowlevelBindRound_steady : Steady (fun _ => True) MsgType.completes MsgType.within
    (lowlevelBindRound : Unit → RawMessage → Act Error (Conn P) (Flow Unit Unit)) := by
  intro u m c _ hbusy _
  unfold lowlevelBindRound
  split
  · next ha => exact ⟨trivial, hbusy, within_of_isAsync ha⟩
  · split
    · next ht =>
      have hm : m.type.completes = true := by rw [ht]; rfl
      exact lift_runs (.ok _) (fun _ _ => .inr hm) (fun _ _ => .inr hm) (.inr hm)
    · exact lift_runs (ErrorResponse.parse_breaks _) (fun _ _ => .inl hbusy)
        (fun _ _ => .inl hbusy) (.inl hbusy)
    · exact .inl hbusy

theorem lowlevelClosePortalRound_steady :
    Steady (fun _ => True) MsgType.completes MsgType.within
      (lowlevelClosePortalRound : Unit → RawMessage → Act Error (Conn P) (Flow Unit Unit)) := by
  intro u m c _ hbusy _
  unfold lowlevelClosePortalRound
  split
  · next ha => exact ⟨trivial, hbusy, within_of_isAsync ha⟩
  · split
    · next ht =>
      have hm : m.type.completes = true := by rw [ht]; rfl
      exact lift_runs (.ok _) (fun _ _ => .inr hm) (fun _ _ => .inr hm) (.inr hm)
    · exact lift_runs (ErrorResponse.parse_breaks _) (fun _ _ => .inl hbusy)
        (fun _ _ => .inl hbusy) (.inl hbusy)
    · exact .inl hbusy

/-- The loop of a fetch reads past no COPY and no ReadyForQuery. -/
theorem lowlevelExecuteRound_steady (handler : Handler) :
    Steady (fun _ => True) MsgType.completes MsgType.within (lowlevelExecuteRound handler :
      ExecuteState → RawMessage →
        Act Error (Conn P) (Flow ExecuteState (Bool × List Callback))) := by
  intro s m c _ hbusy _
  unfold lowlevelExecuteRound
  split
  · next ha => exact ⟨trivial, hbusy, within_of_isAsync ha⟩
  · split
    · next ht =>
      refine lift_runs (RowDescription.parse_breaks _) (fun cols _ => ?_) (fun _ _ => .inl hbusy)
        (.inl hbusy)
      exact callHandler_runs (fun _ => ⟨trivial, hbusy, by rw [ht]; rfl⟩) fun _ _ => .inl hbusy
    · next ht =>
      exact lift_runs (.ok _) (fun _ _ => ⟨trivial, hbusy, by rw [ht]; rfl⟩)
        (fun _ _ => .inl hbusy) (.inl hbusy)
    · next ht =>
      refine lift_runs (RowDescription.parse_breaks _) (fun cols _ => ?_) (fun _ _ => .inl hbusy)
        (.inl hbusy)
      refine lift_runs (DataRow.parse_breaks _) (fun row _ => ?_) (fun _ _ => .inl hbusy)
        (.inl hbusy)
      exact callHandler_runs (fun _ => ⟨trivial, hbusy, by rw [ht]; rfl⟩) fun _ _ => .inl hbusy
    · next ht =>
      have hm : m.type.completes = true := by rw [ht]; rfl
      refine lift_runs (CommandComplete.parse_breaks _) (fun tag _ => ?_) (fun _ _ => .inr hm)
        (.inr hm)
      exact callHandler_runs (fun _ => .inr hm) fun _ _ => .inr hm
    · next ht =>
      have hm : m.type.completes = true := by rw [ht]; rfl
      exact lift_runs (.ok _) (fun _ _ => .inr hm) (fun _ _ => .inr hm) (.inr hm)
    · exact lift_runs (ErrorResponse.parse_breaks _) (fun _ _ => .inl hbusy)
        (fun _ _ => .inl hbusy) (.inl hbusy)
    · exact .inl hbusy

theorem lowlevelSyncRound_mute (pending : Option Error) (m : RawMessage) :
    Keeps Mute (lowlevelSyncRound pending m : Act Error (Conn P) (Flow (Option Error) Unit)) := by
  unfold lowlevelSyncRound
  split
  · exact keeps_pure _
  · split
    · refine (keeps_lift _).bind fun _ => (setStatus_mute _).bind fun _ =>
        finishExchange_mute.bind fun _ => ?_
      cases pending with
      | some e => exact keeps_fail _
      | none => exact keeps_pure _
    · refine (keeps_lift _).bind fun error => ?_
      split
      · exact (modify_mute (f := fun c => { c with broken := true }) (fun _ => rfl)
          (fun _ _ => rfl) fun _ => rfl).bind fun _ => keeps_fail _
      · exact keeps_pure _
    · exact keeps_pure _

/-- `lowlevel_sync` passes over everything before ReadyForQuery. -/
theorem lowlevelSyncRound_steady : Steady (fun _ => True) MsgType.isReady (fun _ => true)
    (lowlevelSyncRound : Option Error → RawMessage →
      Act Error (Conn P) (Flow (Option Error) Unit)) := by
  intro pending m c _ hbusy _
  unfold lowlevelSyncRound
  split
  · exact ⟨trivial, hbusy, rfl⟩
  · split
    · next ht =>
      have hm : m.type.isReady = true := by rw [ht]; rfl
      refine lift_runs (ReadyForQuery.parse_breaks _) (fun status _ => ?_) (fun _ _ => .inr hm)
        (.inr hm)
      refine Act.meets_bind.mpr (Act.meets_modify.mpr ?_)
      cases pending with
      | some e => exact .inr hm
      | none => exact .inr hm
    · refine lift_runs (ErrorResponse.parse_breaks _) (fun error _ => ?_) (fun _ _ => .inl hbusy)
        (.inl hbusy)
      dsimp only
      split
      · exact .inl hbusy
      · exact ⟨trivial, hbusy, rfl⟩
    · exact ⟨trivial, hbusy, rfl⟩

end Tokio

end ZeroPostgres
