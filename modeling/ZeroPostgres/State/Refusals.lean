import ZeroPostgres.State.Conformance

/-!
# Handlers that refuse a call

A query machine fails with its handler's own error as soon as the handler refuses a call, wherever
asynchronous messages stand. Together with `run_reading` this says for any handler how the reply to
an Execute ends: `run_executed`.
-/

namespace ZeroPostgres

/-- A call returns an error. -/
def Outcome.failed {ε α : Type} : Outcome ε α → Bool
  | .err _ => true
  | _ => false

/-- Of further calls made one after the other, the handler refuses one with the error `e`. -/
def Refuses (handler : Handler) (e : Error) : List Callback → List Callback → Prop
  | _, [] => False
  | acc, c :: cs => handler.accept (acc ++ [c]) = .error e ∨
      handler.accept (acc ++ [c]) = .ok () ∧ Refuses handler e (acc ++ [c]) cs

theorem willing_or_refuses (handler : Handler) (acc cs : List Callback) :
    Willing handler acc cs ∨ ∃ e, Refuses handler e acc cs := by
  induction cs generalizing acc with
  | nil => exact .inl trivial
  | cons c cs ih =>
    cases ha : handler.accept (acc ++ [c]) with
    | error e => exact .inr ⟨e, .inl ha⟩
    | ok u => exact (ih (acc ++ [c])).imp (fun hw => ⟨ha, hw⟩) fun ⟨e, hr⟩ => ⟨e, .inr ⟨ha, hr⟩⟩

theorem Refuses.not_willing {handler : Handler} {e : Error} {acc cs : List Callback}
    (h : Refuses handler e acc cs) : ¬ Willing handler acc cs := by
  induction cs generalizing acc with
  | nil => exact h.elim
  | cons c cs ih =>
    rintro ⟨ha, hw⟩
    rcases h with he | ⟨-, hr⟩
    · rw [ha] at he
      cases he
    · exact ih hr hw

/-! ### The calls of a run -/

/-- The handler, but the last of the calls `cs` is refused with `e`. -/
def Handler.refusing (handler : Handler) (cs : List Callback) (e : Error) : Handler :=
  ⟨fun calls => if calls = cs then .error e else handler.accept calls⟩

/-- A run makes the calls `cs`, one after the other: when the handler refuses the last of them, the
run fails with its error, whatever error it is. -/
def Makes {α : Type} (run : Handler → Outcome Error α) (handler : Handler) (cs : List Callback) :
    Prop :=
  ∀ e, run (handler.refusing cs e) = .err e

theorem refusing_accept (handler : Handler) {cs calls : List Callback} (e : Error) :
    (handler.refusing cs e).accept calls = if calls = cs then .error e else handler.accept calls :=
  rfl

/-- A run that comes to the same end whatever a handler answers makes no such calls. -/
theorem not_makes_of_const {α : Type} {run : Handler → Outcome Error α} {handler : Handler}
    {cs : List Callback} {o : Outcome Error α} (h : ∀ e, run (handler.refusing cs e) = o) :
    ¬ Makes run handler cs := by
  intro hmakes
  have h₁ := (h .connectionBroken).symm.trans (hmakes .connectionBroken)
  have h₂ := (h (.io "")).symm.trans (hmakes (.io ""))
  rw [h₁] at h₂
  cases h₂

/-- How a run ends for any handler, when it is to make the calls `cs`: a call that is refused fails
it, and when none is refused it fails with `error`, or not at all. -/
structure Delivers {α : Type} (run : Handler → Outcome Error α) (cs : List Callback)
    (error : Option Error) : Prop where
  refused : ∀ handler e, Refuses handler e [] cs → run handler = .err e
  accepted : ∀ handler, Willing handler [] cs →
    match error with
    | none => (run handler).failed = false
    | some e => run handler = .err e

theorem willing_refusing {handler : Handler} {calls : List Callback} (e e' : Error)
    {acc cs : List Callback} (h : Willing (handler.refusing calls e) acc cs) :
    Willing (handler.refusing calls e') acc cs := by
  induction cs generalizing acc with
  | nil => trivial
  | cons c cs ih =>
    obtain ⟨ha, hw⟩ := h
    refine ⟨?_, ih hw⟩
    rw [refusing_accept] at ha ⊢
    by_cases hcalls : acc ++ [c] = calls
    · rw [if_pos hcalls] at ha
      cases ha
    · rw [if_neg hcalls] at ha ⊢
      exact ha

private theorem Delivers.makes {α β : Type} {run : Handler → Outcome Error α}
    {run' : Handler → Outcome Error β} {cs : List Callback} {error error' : Option Error}
    (h : Delivers run cs error) (h' : Delivers run' cs error') {handler : Handler}
    {calls : List Callback} (hmakes : Makes run handler calls) : Makes run' handler calls := by
  intro e
  rcases willing_or_refuses (handler.refusing calls e) [] cs with hw | ⟨e', hr⟩
  · -- a handler that is not asked leads to one end, whatever it would have answered
    have hall : ∀ e', Willing (handler.refusing calls e') [] cs :=
      fun e' => willing_refusing e e' hw
    cases error with
    | none =>
      have hfailed := h.accepted _ (hall e)
      rw [hmakes e] at hfailed
      cases hfailed
    | some e₀ =>
      exact absurd hmakes (not_makes_of_const fun e' => h.accepted _ (hall e'))
  · have he : Outcome.err e = Outcome.err e' := (hmakes e).symm.trans (h.refused _ e' hr)
    cases he
    exact h'.refused _ e hr

/-- Runs that deliver the same calls make the same calls. -/
theorem Delivers.makes_iff {α β : Type} {run : Handler → Outcome Error α}
    {run' : Handler → Outcome Error β} {cs : List Callback} {error error' : Option Error}
    (h : Delivers run cs error) (h' : Delivers run' cs error') (handler : Handler)
    (calls : List Callback) : Makes run handler calls ↔ Makes run' handler calls :=
  ⟨h.makes h', h'.makes h⟩

/-- The first of the calls is made. -/
theorem Delivers.makes_head {α : Type} {run : Handler → Outcome Error α} {c : Callback}
    {cs : List Callback} {error : Option Error} (h : Delivers run (c :: cs) error)
    (handler : Handler) : Makes run handler [c] := by
  intro e
  refine h.refused _ e (.inl ?_)
  rw [List.nil_append, refusing_accept, if_pos rfl]

/-- Whether a run fails. -/
theorem Delivers.failed_iff {α : Type} {run : Handler → Outcome Error α} {cs : List Callback}
    {error : Option Error} (h : Delivers run cs error) (handler : Handler) :
    (run handler).failed = true ↔ error ≠ none ∨ ¬ Willing handler [] cs := by
  rcases willing_or_refuses handler [] cs with hw | ⟨e, hr⟩
  · have hrun := h.accepted handler hw
    cases error with
    | none => simp [show (run handler).failed = false from hrun, hw]
    | some e => simp [show run handler = .err e from hrun, Outcome.failed]
  · have hrun := h.refused handler e hr
    have hw : ¬ Willing handler [] cs := hr.not_willing
    simp [hrun, hw, Outcome.failed]

/-! ### Machines -/

/-- A run that fails on the messages of a reply fails when asynchronous messages stand between them
too. -/
theorem runMachine_core_err {S : Type} {step : Step S Action} {Started : S → Prop} {handsOn : Bool}
    (hp : PassesAsync step Started handsOn) {s : S} {b b₀ : BufferSet} {ms : List RawMessage}
    {e : Error} (hs : Started s) (hwell : ∀ m ∈ ms, m.isAsync = true → m.wellFormed = true)
    (hcol : b.columnBuffer = b₀.columnBuffer) (hwrite : b.writeBuffer = b₀.writeBuffer)
    (h : (runMachine step (core ms) (s, b₀)).1 = .err e) :
    (runMachine step ms (s, b)).1 = .err e := by
  induction ms generalizing s b b₀ with
  | nil => exact h
  | cons m ms ih =>
    have hwell' : ∀ m ∈ ms, m.isAsync = true → m.wellFormed = true :=
      fun m hm => hwell m (List.mem_cons_of_mem _ hm)
    -- a message handed on leaves the error of the run behind it
    have handed {msg : AsyncMessage} {r : S × BufferSet} {r' : S × BufferSet}
        (hstep : step r = (.ok (.handleAsyncMessageAndReadMessage msg), r')) {ms : List RawMessage}
        {m : RawMessage} {b : BufferSet} (hr : r = (s, b.load m)) :
        (runMachine step (m :: ms) (s, b)).1 = .err e ↔ (runMachine step ms r').1 = .err e := by
      subst hr
      simp only [runMachine, Act.bind_run, Act.modify_run, hstep]
      rcases runMachine step ms r' with ⟨_ | _ | _, _⟩ <;> simp
    cases hm : m.isAsync with
    | true =>
      rw [core_cons_async hm] at h
      obtain ⟨msg, hmsg⟩ := toAsync_of_wellFormed hm (hwell m List.mem_cons_self hm)
      have hstep := hp.step_async s (b.load m) msg hs hmsg
      have hrest := ih (b := b.load m) hs hwell' (by simpa using hcol) (by simpa using hwrite) h
      cases handsOn with
      | true =>
        rw [handed (by simpa using hstep) rfl]
        exact hrest
      | false =>
        rw [runMachine_read (by simpa using hstep)]
        exact hrest
    | false =>
      rw [core_cons_sync hm] at h
      have hload : b.load m = b₀.load m := by
        simp only [BufferSet.load, hcol, hwrite]
      have hs' := hp.step_started s (b₀.load m) hs
      rcases hstep : step (s, b₀.load m) with ⟨action | e' | _, s₁, b₁⟩
      · rw [hstep] at hs'
        have hstep' : step (s, b.load m) = (.ok action, (s₁, b₁)) := by rw [hload, hstep]
        cases action with
        | readMessage =>
          rw [runMachine_read hstep] at h
          rw [runMachine_read hstep']
          exact ih hs' hwell' rfl rfl h
        | handleAsyncMessageAndReadMessage msg =>
          rw [handed hstep rfl] at h
          rw [handed hstep' rfl]
          exact ih hs' hwell' rfl rfl h
        | error e' =>
          rw [runMachine_error hstep] at h
          cases h
        | finished =>
          rw [runMachine_finished hstep] at h
          cases h
        | _ =>
          simp only [runMachine, Act.bind_run, Act.modify_run, hstep, Act.halt_run] at h
          cases h
      · have hstep' : step (s, b.load m) = (.err e', (s₁, b₁)) := by rw [hload, hstep]
        rw [runMachine_fails hstep] at h
        rw [runMachine_fails hstep']
        exact h
      · simp only [runMachine, Act.bind_run, Act.modify_run, hstep] at h
        cases h

namespace ExtendedQueryStateMachine

variable {m : ExtendedQueryStateMachine} {b : BufferSet} {x : RawMessage}

/-- A call that the handler refuses fails the step with the handler's error. -/
theorem step_refused {c : Callback} {e : Error} (hs : m.state = .processingRows)
    (hc : callbackOf b.columnBuffer x = some c)
    (he : m.handler.accept (m.calls ++ [c]) = .error e) : (step (m, b.load x)).1 = .err e := by
  unfold callbackOf at hc
  split at hc
  · next ht =>
    split at hc
    · next hcols =>
      cases hc
      rw [step_plain (by simp [hs]) (by rw [ht]; rfl) (by simp [ht]), hs]
      simp [handleState, handleRows, Act.bind_run, ht, startResult, hcols, callHandler,
        Handler.call, he]
    · cases hc
  · next ht =>
    split at hc
    · next hcols hrow =>
      cases hc
      rw [step_plain (by simp [hs]) (by rw [ht]; rfl) (by simp [ht]), hs]
      simp [handleState, handleRows, Act.bind_run, ht, hcols, hrow, callHandler, Handler.call, he]
    · cases hc
  · next ht =>
    split at hc
    · next htag =>
      cases hc
      rw [step_plain (by simp [hs]) (by rw [ht]; rfl) (by simp [ht]), hs]
      simp [handleState, handleRows, Act.bind_run, ht, htag, callHandler, Handler.call, he]
    · cases hc
  · cases hc

/-- So does a run that comes to it. -/
theorem run_refused_head {c : Callback} {e : Error} {ms : List RawMessage}
    (hs : m.state = .processingRows) (hc : callbackOf b.columnBuffer x = some c)
    (he : m.handler.accept (m.calls ++ [c]) = .error e) :
    (runMachine step (x :: ms) (m, b)).1 = .err e := by
  have hstep := step_refused hs hc he
  rcases hrun : step (m, b.load x) with ⟨o, r⟩
  rw [hrun] at hstep
  dsimp only at hstep
  subst hstep
  rw [runMachine_fails hrun]

/-- The machine on the reply to an Execute whose handler refuses a call. The induction is on the
reply. -/
theorem run_refused {stage : Stage} {fate : Fate} {r : List RawMessage} {e : Error}
    (h : Reading stage fate r) : ∀ (m : ExtendedQueryStateMachine) (b : BufferSet), At stage m b →
      Refuses m.handler e m.calls (callbacksOf b.columnBuffer r) →
      ∀ rest, (runMachine step (r ++ rest) (m, b)).1 = .err e := by
  induction h with
  | @error stage se x hx _ =>
    intro m b _ hr
    simp [callbacksOf, callbackOf, hx.1, Refuses] at hr
  | @parse fate x ms hx _ ih =>
    intro m b hat hr rest
    rw [List.cons_append, runMachine_read (step_parse hat hx)]
    refine ih _ _ hat.parsed ?_ rest
    simpa [callbacksOf, callbackOf, columnsAfter, hx.1] using hr
  | @bindDescribed fate x ms hx _ ih =>
    intro m b hat hr rest
    rw [List.cons_append, runMachine_read (step_bind hat hx)]
    refine ih _ _ hat.bound ?_ rest
    simpa [callbacksOf, callbackOf, columnsAfter, hx.1] using hr
  | bindCached _ _ _ _ =>
    intro m b hat
    exact absurd rfl hat.bind
  | @columns fate x ms hx _ ih =>
    intro m b hat hr rest
    obtain ⟨cols, hcols⟩ := columns_parse hx
    have hc : callbackOf b.columnBuffer x = some (.resultStart cols) := by
      simp [callbackOf, hx.1, hcols]
    have hcol : columnsAfter b.columnBuffer x = x.payload := by simp [columnsAfter, hx.1]
    rw [callbacksOf, hc, hcol] at hr
    rcases hr with he | ⟨ha, hr⟩
    · exact run_refused_head hat.state hc he
    · rw [List.cons_append, runMachine_read (step_columns hat hx.1 hcols ha)]
      exact ih _ _ (hat.described _ hcols) hr rest
  | @noData fate x ms hx _ ih =>
    intro m b hat hr rest
    rw [List.cons_append, runMachine_read (step_noData hat hx)]
    refine ih _ _ hat.undescribed ?_ rest
    simpa [callbacksOf, callbackOf, columnsAfter, hx.1] using hr
  | @row columns rows ending x ms hx _ ih =>
    intro m b hat hr rest
    obtain ⟨cols, hcols⟩ := hat.rows columns rfl
    obtain ⟨row, hrow⟩ := row_parse hx
    have hc : callbackOf b.columnBuffer x = some (.row cols row) := by
      simp [callbackOf, hx.1, hcols, hrow]
    have hcol : columnsAfter b.columnBuffer x = b.columnBuffer := by simp [columnsAfter, hx.1]
    rw [callbacksOf, hc, hcol] at hr
    rcases hr with he | ⟨ha, hr⟩
    · exact run_refused_head hat.state hc he
    · rw [List.cons_append, runMachine_read (step_row hat hx.1 hcols hrow ha)]
      exact ih _ _ (hat.delivered _) hr rest
  | @complete columns returnsRows tag x hx =>
    intro m b hat hr rest
    have hc : callbackOf b.columnBuffer x = some (.resultEnd tag) := by
      simp [callbackOf, hx.1, hx.2]
    rw [callbacksOf, hc] at hr
    rcases hr with he | ⟨-, hr⟩
    · exact run_refused_head hat.state hc he
    · exact hr.elim
  | @empty columns x hx =>
    intro m b _ hr
    simp [callbacksOf, callbackOf, hx.1, Refuses] at hr

/-- How the reply to an Execute and its Sync ends, asynchronous messages anywhere in it: with the
handler's error when the handler refuses a call, and otherwise with the error of the reply. -/
theorem run_executed {stage : Stage} {fate : Fate} {sync : Option ServerError}
    {status : TransactionStatus} {ms r₁ r₂ : List RawMessage} (hread : Reading stage fate r₁)
    (hsync : SyncReply fate.error?.isSome sync status r₂) (hcore : core ms = r₁ ++ r₂)
    (hwell : ∀ x ∈ ms, x.isAsync = true → x.wellFormed = true) (hat : At stage m b) :
    (Willing m.handler m.calls (callbacksOf b.columnBuffer r₁) →
      ∃ v r, runMachine step ms (m, b) = (.ok v, r) ∧ v.error = fate.error?.or sync) ∧
    ∀ e, Refuses m.handler e m.calls (callbacksOf b.columnBuffer r₁) →
      (runMachine step ms (m, b)).1 = .err e := by
  have hpass := LawfulStateMachine.passesAsync ExtendedQueryStateMachine
  have hstarted : HandlerMachine.Started m := hat.ne_initial
  constructor
  · intro hw
    obtain ⟨b', hrun⟩ := run_reading hread m b hat hw
    obtain ⟨b₁, hrun'⟩ := run_sync (m := m.answered (callbacksOf b.columnBuffer r₁) fate.error?)
      (b := b') hsync rfl
    rw [← hrun, ← hcore] at hrun'
    obtain ⟨body, z, tail, -, -, -, hall⟩ := runMachine_core hpass hstarted hwell rfl rfl hrun'
    exact ⟨_, _, hall, rfl⟩
  · intro e hr
    refine runMachine_core_err hpass hstarted hwell rfl rfl ?_
    rw [hcore]
    exact run_refused hread m b hat hr r₂

end ExtendedQueryStateMachine

end ZeroPostgres
