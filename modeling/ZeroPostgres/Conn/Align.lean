import ZeroPostgres.Conn.Drive
import ZeroPostgres.Server.Boundary
import ZeroPostgres.State.Failures
import ZeroPostgres.State.Conformance

/-!
# Calls that settle their replies

A call on an aligned connection settles when it reads its reply to the end, or returns an error
that marks the connection broken. `exchangeWith_settled` is the rule for exchanges with a machine
and `readMessages_settled` the one for loops without; each asks where the reply ends and that the
loop fails before that with breaking errors only.
-/

namespace ZeroPostgres.Conn

open Act

variable {P : Peer} {K S α β : Type}

/-- The call has not returned, or the connection is aligned or marked broken, or it is yet to be
marked for the error that the call returns. -/
def Settled (o : Outcome Error α) (c : Conn P K) : Prop :=
  o = .halt ∨ c.Aligned ∨ c.broken = true ∨ ∃ e, o = .err e ∧ e.isConnectionBroken = true

/-- What the server will answer to messages. -/
def reply (c : Conn P K) (fs : List Frontend) : List RawMessage := (P.feed c.stream.peer fs).1

namespace Settled

variable {o : Outcome Error α} {c : Conn P K}

theorem halt : Settled (.halt : Outcome Error α) c := .inl rfl

theorem aligned (h : c.Aligned) : Settled o c := .inr (.inl h)

theorem broken (h : c.broken = true) : Settled o c := .inr (.inr (.inl h))

theorem err {e : Error} (h : e.isConnectionBroken = true) :
    Settled (.err e : Outcome Error α) c := .inr (.inr (.inr ⟨e, rfl, h⟩))

/-- A call that returns a value has settled on the connection itself. -/
theorem of_ok {a : α} (h : Settled (.ok a) c) : c.Aligned ∨ c.broken = true := by
  rcases h with h | h | h | ⟨e, h, -⟩
  · cases h
  · exact .inl h
  · exact .inr h
  · cases h

end Settled

theorem Talks.of_run {x : Act Error (Conn P K) α} (hx : Keeps Talks x) {o : Outcome Error α}
    {c c' : Conn P K} (hrun : x c = (o, c')) : Talks c c' := by
  have h := hx.rel c
  rwa [hrun] at h

/-- Sequencing: what comes after a settled call settles too, or finds a broken connection. -/
theorem settled_bind {x : Act Error (Conn P K) α} {f : α → Act Error (Conn P K) β} {c : Conn P K}
    (hx : Act.Meets x c Settled)
    (hf : ∀ a c', x c = (.ok a, c') → c'.Aligned → Act.Meets (f a) c' Settled)
    (htalks : ∀ a, Keeps Talks (f a)) : Act.Meets (x >>= f) c Settled := by
  have hx := hx.at
  unfold Act.Meets
  rw [Act.bind_run]
  rcases hrun : x c with ⟨a | e | _, c'⟩
  · rw [hrun] at hx
    rcases hx.of_ok with ha | hb
    · exact (hf a c' hrun ha).at
    · exact .broken (((htalks a).rel c').broken hb)
  · rw [hrun] at hx
    rcases hx with h | h | h | ⟨e', he, hbreaks⟩
    · cases h
    · exact .aligned h
    · exact .broken h
    · cases he
      exact .err hbreaks
  · exact .halt

/-- Marking an error leaves nothing to be marked. -/
theorem markBroken_settled {x : Act Error (Conn P K) α} {c : Conn P K}
    (h : Act.Meets x c Settled) : Act.Meets (markBroken x) c fun o c' =>
      o = .halt ∨ c'.Aligned ∨ c'.broken = true := by
  have hx := h.at
  unfold Act.Meets markBroken
  rcases hrun : x c with ⟨a | e | _, c'⟩
  · rw [hrun] at hx
    exact .inr hx.of_ok
  · rw [hrun] at hx
    refine .inr ?_
    rcases hx with h | h | h | ⟨e', he, hbreaks⟩
    · cases h
    · dsimp only
      split
      · exact .inr rfl
      · exact .inl h
    · dsimp only
      split
      · exact .inr rfl
      · exact .inr h
    · cases he
      dsimp only
      rw [if_pos hbreaks]
      exact .inr rfl
  · exact .inl rfl

/-! ### Exchanges with a machine -/

/-- An exchange with a machine settles when the machine ends where the reply does, and fails with
breaking errors only. -/
theorem exchangeWith_settled [Driver K] {step : Step S Action} {Stop : S → α → Conn P K → Prop}
    {Fail : S → Conn P K → Prop} {body : S → RawMessage → Act Error (Conn P K) (Flow S α)}
    (hstill : ∀ m x, Keeps Still (body m x))
    (hround : ∀ m x c, Act.Meets (body m x) c (Rounded step Stop Fail m c)) {m m₁ : S}
    {c : Conn P K} {b₁ : BufferSet} {ends : MsgType → Bool}
    (hfirst : step (m, c.bufferSet) = (.ok .writeAndReadMessage, (m₁, b₁)))
    (hasync : ∀ t, ends t = true → t.isAsync = false)
    (hlast : ∀ ms v r, runMachine step ms (m₁, b₁) = (.ok v, r) →
      ∃ body z, ms = body ++ z :: v.unasked ∧ ends z.type = true)
    (hbreaks : Breaks (runMachine step (c.stream.inbound ++ c.reply b₁.writeBuffer) (m₁, b₁)).1)
    (hends : P.Finishes ends c.stream.peer b₁.writeBuffer) (hu : c.unread = []) :
    Act.Meets (exchangeWith step body m) c Settled := by
  refine (exchangeWith_driven hstill hround hfirst).mono fun o c' h => ?_
  rcases h with rfl | ⟨-, rfl, -⟩ | ⟨-, ⟨read, htalked⟩, hdriven⟩
  · exact .halt
  · exact .err rfl
  -- a machine that has ended has read the reply, whatever it says
  have ended {v : Verdict} {r : S × BufferSet}
      (hrun : runMachine step (c.stream.inbound ++ c.reply b₁.writeBuffer) (m₁, b₁) = (.ok v, r))
      (hin : c'.stream.inbound = v.unasked) : c'.Aligned := by
    obtain ⟨before, z, hms, hz⟩ := hlast _ v r hrun
    have hza : z.isAsync = false := hasync _ hz
    have hcore : core (P.feed c.stream.peer b₁.writeBuffer).1 =
        core before ++ z :: core v.unasked := by
      have h := congrArg core hms
      rw [core_append, core_append, core_cons_sync hza] at h
      rwa [show core c.stream.inbound = [] from hu, List.nil_append] at h
    obtain ⟨htail, hmode⟩ := hends _ z _ hcore hz
    refine ⟨?_, ?_⟩
    · rw [unread, hin]
      exact htail
    · rw [session, Stream.session, htalked.peer]
      exact hmode
  cases hdriven with
  | stop hrun _ hin => exact .aligned (ended hrun hin)
  | error hrun _ hin => exact .aligned (ended hrun hin)
  | failed hrun => exact .err (hbreaks _ (congrArg Prod.fst hrun))
  | bug he => exact .err he
  | halt => exact .halt

theorem isAsync_of_isReady {t : MsgType} (h : t.isReady = true) : t.isAsync = false := by
  cases t <;> first | rfl | cases h

theorem isAsync_of_completes {t : MsgType} (h : t.completes = true) : t.isAsync = false := by
  cases t <;> first | rfl | cases h

/-- A machine that ends at ReadyForQuery ends where a request does that ends with its only Query
or Sync. -/
theorem synced_settled [Driver K] (hP : P.NoCopy) {step : Step S Action} {Started : S → Prop}
    {Stop : S → α → Conn P K → Prop} {Fail : S → Conn P K → Prop}
    {body : S → RawMessage → Act Error (Conn P K) (Flow S α)}
    (hstill : ∀ m x, Keeps Still (body m x))
    (hround : ∀ m x c, Act.Meets (body m x) c (Rounded step Stop Fail m c)) {m m₁ : S}
    {c : Conn P K} {b₁ : BufferSet} {fs : List Frontend} {f : Frontend}
    (hfirst : step (m, c.bufferSet) = (.ok .writeAndReadMessage, (m₁, b₁)))
    (hend : EndsAtReady step Started) (hs : Started m₁) (hfs : b₁.writeBuffer = fs ++ [f])
    (hask : ∀ g ∈ fs, g.asksReady = false)
    (hbreaks : Breaks (runMachine step (c.stream.inbound ++ c.reply b₁.writeBuffer) (m₁, b₁)).1)
    (hc : c.Regular) (hu : c.unread = []) : Act.Meets (exchangeWith step body m) c Settled := by
  refine exchangeWith_settled hstill hround hfirst (fun _ => isAsync_of_isReady)
    (fun ms v r hrun => ?_) hbreaks ?_ hu
  · obtain ⟨before, z, hms, hz, -⟩ := runMachine_ends hend hs hrun
    exact ⟨before, z, hms, by rw [hz]; rfl⟩
  · rw [hfs]
    exact feed_finishes hP f hc.mode hask

/-! ### Loops -/

/-- What a loop goes through: every round that ends it without a breaking error does so at a
message at which the reply ends. `Can` is kept from round to round. -/
def Runs (ends : MsgType → Bool) (Can : β → List RawMessage → Prop)
    (body : β → RawMessage → Act Error (Conn P K) (Flow β α)) : Prop :=
  ∀ b m ms c, Can b (m :: ms) → Act.Meets (body b m) c fun o _ =>
    match o with
    | .ok (.next b') => Can b' ms
    | .ok (.stop _) => ends m.type = true
    | .err e => e.isConnectionBroken = true ∨ ends m.type = true
    | .halt => True

/-- A loop settles when the messages that wait end where it ends. -/
theorem readMessages_settled {body : β → RawMessage → Act Error (Conn P K) (Flow β α)}
    {ends : MsgType → Bool} {Can : β → List RawMessage → Prop} (hruns : Runs ends Can body)
    (hstill : ∀ b m, Keeps Still (body b m)) (hasync : ∀ t, ends t = true → t.isAsync = false)
    {b : β} {c : Conn P K} (hcan : Can b c.stream.inbound)
    (hends : ∀ before z tail, c.unread = before ++ z :: tail → ends z.type = true →
      tail = [] ∧ c.session.mode = .ready) : Act.Meets (readMessages body b) c Settled := by
  -- of what waited some has been read, and a message that ends the reply leaves nothing behind
  let Waits (ms : List RawMessage) (s : Conn P K) : Prop :=
    s.stream.inbound = ms ∧ s.session = c.session ∧ ∃ read, c.stream.inbound = read ++ ms
  refine readLoop_meets receive starve body (I := fun ms b s => Waits ms s ∧ Can b ms) ?_ ?_ _ b c
    ⟨⟨rfl, rfl, [], rfl⟩, hcan⟩
  · intro b s _
    refine Act.meets_bind.mpr (awaitPoint_meets .halt fun cut _ => ?_)
    unfold Act.Meets
    dsimp only
    split
    · exact .err rfl
    · exact .halt
  · intro m ms b s ⟨⟨hin, hsession, read, hread⟩, hcan⟩
    simp only [receive, Act.meets_bind, Act.meets_modify]
    refine awaitPoint_meets .halt fun cut _ => ?_
    generalize hs₁ : take { s with stream := { s.stream with cut } } m = s₁
    have hround := (hruns b m ms s₁ hcan).at
    have hst := (hstill b m).rel s₁
    have hin₁ : s₁.stream.inbound = ms := by
      subst hs₁
      simp [take, hin]
    have hsession₁ : s₁.session = c.session := by
      subst hs₁
      exact hsession
    dsimp only
    unfold Act.Meets
    generalize body b m s₁ = r at hround hst
    obtain ⟨o, s₂⟩ := r
    dsimp only at hround hst ⊢
    have hin₂ : s₂.stream.inbound = ms := by rw [hst.1, hin₁]
    have hsession₂ : s₂.session = c.session := by rw [session, hst.1]; exact hsession₁
    have ended {α' : Type} {o : Outcome Error α'} (hm : ends m.type = true) : Settled o s₂ := by
      have hcore : c.unread = core read ++ m :: core ms := by
        rw [unread, hread, core_append, core_cons_sync (hasync _ hm)]
      obtain ⟨htail, hmode⟩ := hends _ m _ hcore hm
      refine .aligned ⟨?_, ?_⟩
      · rw [unread, hin₂, htail]
      · rw [hsession₂, hmode]
    match o, hround with
    | .ok (.next b'), hround => exact ⟨⟨hin₂, hsession₂, read ++ [m], by simp [hread]⟩, hround⟩
    | .ok (.stop _), hround => exact ended hround
    | .err e, hround =>
      rcases hround with h | h
      · exact .err h
      · exact ended h
    | .halt, _ => exact .halt

end ZeroPostgres.Conn
