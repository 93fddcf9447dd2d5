import ZeroPostgres.Conn.Cancellation
import ZeroPostgres.Server.Statements

/-!
# Names of prepared statements

A connection numbers the statements it prepares and names them by their numbers. `Asked` says which
named statements an operation asks for: none, for all of them but `prepare` and `prepare_batch`
(`Unnamed`). What the numbers are, and what that comes to on the server, is in `Conn/Handles.lean`.
-/

namespace ZeroPostgres

open Act

/-- The name of the statement with number `idx`. -/
def statementName (idx : Nat) : String := PreparedStatement.wireName ⟨idx, [], none⟩

theorem statementName_injective {i j : Nat} (h : statementName i = statementName j) : i = j := by
  have hdigits : ("_zero_s_" ++ Nat.repr i).toList = ("_zero_s_" ++ Nat.repr j).toList :=
    congrArg String.toList h
  rw [String.toList_append, String.toList_append, List.append_cancel_left_eq, Nat.toList_repr,
    Nat.toList_repr] at hdigits
  have hvalue := congrArg (Nat.ofDigitChars 10 · 0) hdigits
  simpa only [Nat.ofDigitChars_ten_toDigits] using hvalue

theorem statementName_ne (idx : Nat) : statementName idx ≠ "" := by
  intro h
  have hlist : ("_zero_s_" ++ Nat.repr idx).toList = [] := congrArg String.toList h
  simp at hlist

namespace Conn

variable {P : Peer} {K : Type} {α β : Type}

/-- The statements that were asked for over the connection under a name. -/
def named (c : Conn P K) : List (String × String) := namedIn (c.stream.log.map Prod.fst)

/-! ### What asks for none -/

/-- Nothing is sent and no number is used. -/
def Nameless (c c' : Conn P K) : Prop :=
  c'.stream.log = c.stream.log ∧ c'.nameCounter = c.nameCounter

instance : Std.Refl (Nameless (P := P) (K := K)) := ⟨fun _ => ⟨rfl, rfl⟩⟩

instance : IsTrans (Conn P K) Nameless where
  trans _ _ _ h h' := ⟨h'.1.trans h.1, h'.2.trans h.2⟩

/-- No statement is asked for under a name. Numbers may be used. -/
def Unnamed (c c' : Conn P K) : Prop := c'.named = c.named ∧ c.nameCounter ≤ c'.nameCounter

instance : Std.Refl (Unnamed (P := P) (K := K)) := ⟨fun _ => ⟨rfl, Nat.le_refl _⟩⟩

theorem Unnamed.trans {c c' c'' : Conn P K} (h : Unnamed c c') (h' : Unnamed c' c'') :
    Unnamed c c'' := ⟨h'.1.trans h.1, Nat.le_trans h.2 h'.2⟩

instance : IsTrans (Conn P K) Unnamed := ⟨fun _ _ _ => Unnamed.trans⟩

theorem Nameless.named_eq {c c' : Conn P K} (h : Nameless c c') : c'.named = c.named := by
  rw [named, h.1, named]

theorem Nameless.unnamed {c c' : Conn P K} (h : Nameless c c') : Unnamed c c' :=
  ⟨h.named_eq, Nat.le_of_eq h.2.symm⟩

theorem nameless_unnamed {x : Act Error (Conn P K) α} (h : Keeps Nameless x) : Keeps Unnamed x :=
  h.mono fun _ _ => Nameless.unnamed

/-- From `c` to `c'` the statements `es` are asked for, or the first of them where the outcome is
no value. -/
structure Asked (es : List (String × String)) (c : Conn P K) (o : Outcome Error α)
    (c' : Conn P K) : Prop where
  counter : c'.nameCounter = c.nameCounter
  named : ∃ asked, asked <+: es ∧ c'.named = c.named ++ asked ∧ (o.isOk = true → asked = es)

theorem Asked.unnamed {c c' : Conn P K} {o : Outcome Error α} (h : Asked [] c o c') :
    Unnamed c c' := by
  obtain ⟨asked, hasked, hnamed, -⟩ := h.named
  rw [List.prefix_nil.mp hasked, List.append_nil] at hnamed
  exact ⟨hnamed, Nat.le_of_eq h.counter.symm⟩

/-- The operation fails before it asks for a statement. -/
theorem Nameless.asked {es : List (String × String)} {c c' : Conn P K} {o : Outcome Error α}
    (h : Nameless c c') (ho : o.isOk = false) : Asked es c o c' := by
  refine ⟨h.2, [], List.nil_prefix, by rw [h.named_eq, List.append_nil], fun hok => ?_⟩
  rw [ho] at hok
  cases hok

/-- Statements are asked for after nothing else has happened. -/
theorem Asked.after {es : List (String × String)} {c c₁ c' : Conn P K} {o : Outcome Error α}
    (h : Nameless c c₁) (h' : Asked es c₁ o c') : Asked es c o c' := by
  obtain ⟨asked, hasked, hnamed, hall⟩ := h'.named
  exact ⟨h'.counter.trans h.2, asked, hasked, by rw [hnamed, h.named_eq], hall⟩

/-- Nothing else happens after statements were asked for. The outcome is no better than that of the
request. -/
theorem Asked.before {es : List (String × String)} {c c₁ c' : Conn P K} {o : Outcome Error α}
    {o' : Outcome Error β} (h : Asked es c o c₁) (h' : Nameless c₁ c')
    (ho : o'.isOk = true → o.isOk = true) : Asked es c o' c' := by
  obtain ⟨asked, hasked, hnamed, hall⟩ := h.named
  exact ⟨h'.2.trans h.counter, asked, hasked, by rw [h'.named_eq, hnamed],
    fun hok => hall (ho hok)⟩

/-- A request, and what is done with its value. -/
theorem asked_bind {es : List (String × String)} {x : Act Error (Conn P K) α}
    {f : α → Act Error (Conn P K) β} {c : Conn P K} (hx : Act.Meets x c (Asked es c))
    (hf : ∀ a, Keeps Nameless (f a)) : Act.Meets (x >>= f) c (Asked es c) := by
  refine Act.meets_bind.mpr (hx.mono fun o c₁ h => ?_)
  cases o with
  | ok a => exact h.before ((hf a).rel c₁) fun _ => rfl
  | err e => exact h.before (Std.Refl.refl c₁) id
  | halt => exact h.before (Std.Refl.refl c₁) id

/-! ### Input and output -/

theorem awaitPoint_nameless : Keeps Nameless (awaitPoint : Act Error (Conn P K) Unit) := by
  refine ⟨fun c => ?_⟩
  unfold awaitPoint
  split <;> exact ⟨rfl, rfl⟩

theorem receive_nameless (m : RawMessage) :
    Keeps Nameless (receive m : Act Error (Conn P K) Unit) :=
  awaitPoint_nameless.bind fun _ => keeps_modify fun _ => ⟨rfl, rfl⟩

theorem starve_nameless : Keeps Nameless (starve : Act Error (Conn P K) α) := by
  refine awaitPoint_nameless.bind fun _ => keeps_of_snd_eq fun c => ?_
  split <;> rfl

theorem readMessages_nameless {body : β → RawMessage → Act Error (Conn P K) (Flow β α)}
    (hbody : ∀ b m, Keeps Nameless (body b m)) (b : β) : Keeps Nameless (readMessages body b) :=
  ⟨fun c => (readLoop_keeps receive starve body receive_nameless starve_nameless hbody
    c.stream.inbound b).rel c⟩

/-- A write asks for what is in the write buffer, or for the first of it. -/
theorem writeAll_asked (c : Conn P K) :
    Act.Meets writeAll c (Asked (namedIn c.bufferSet.writeBuffer) c) := by
  have hwhole (s : Stream P) (cut : Option Cut)
      (hs : s = { c.stream.sendAll c.bufferSet.writeBuffer with cut }) :
      Asked (namedIn c.bufferSet.writeBuffer) c (.ok ()) { c with stream := s } := by
    subst hs
    refine ⟨rfl, _, List.prefix_rfl, ?_, fun _ => rfl⟩
    rw [named, named, Stream.sendAll_log, List.map_append, exchanges_messages, namedIn_append]
  unfold Act.Meets writeAll
  split
  · next hcut => exact hwhole _ none (Stream.sendAll_no_cut _ hcut).symm
  · next k _ =>
    refine ⟨rfl, namedIn (c.bufferSet.writeBuffer.take k), ?_, ?_, nofun⟩
    · exact List.IsPrefix.filterMap _ (List.take_prefix _ _)
    · dsimp only
      rw [named, named, Stream.sendAll_log, List.map_append, exchanges_messages, namedIn_append]
  · next cut k _ => exact hwhole _ (some ⟨cut, k⟩) rfl

theorem send_asked (c : Conn P K) :
    Act.Meets send c (Asked (namedIn c.bufferSet.writeBuffer) c) :=
  asked_bind (writeAll_asked c) fun _ => awaitPoint_nameless

/-! ### Rounds -/

section Rounds

variable {S : Type}

theorem stepMachine_nameless (step : Step S Action) (m : S) :
    Keeps Nameless (stepMachine step m : Act Error (Conn P K) (Action × S)) :=
  ⟨fun _ => ⟨rfl, rfl⟩⟩

theorem setStatus_nameless (status : TransactionStatus) :
    Keeps Nameless (setStatus status : Act Error (Conn P K) Unit) :=
  keeps_modify fun _ => ⟨rfl, rfl⟩

theorem setWriteBuffer_nameless (fs : List Frontend) :
    Keeps Nameless (setWriteBuffer fs : Act Error (Conn P K) Unit) :=
  keeps_modify fun _ => ⟨rfl, rfl⟩

theorem callHandler_nameless (handler : Handler) (calls : List Callback) (cb : Callback) :
    Keeps Nameless (callHandler handler calls cb : Act Error (Conn P K) (List Callback)) :=
  (keeps_ofExcept _).bind fun _ => keeps_pure _

/-- Marking the connection broken keeps what the call keeps. -/
theorem markBroken_nameless {R : Conn P K → Conn P K → Prop} [IsTrans (Conn P K) R]
    (hR : ∀ c c', Nameless c c' → R c c') {x : Act Error (Conn P K) α} (h : Keeps R x) :
    Keeps R (markBroken x) := by
  refine ⟨fun c => ?_⟩
  have hx := h.rel c
  unfold markBroken
  generalize x c = r at hx ⊢
  obtain ⟨_ | e | _, c'⟩ := r
  · exact hx
  · refine IsTrans.trans _ c' _ hx (hR _ _ ?_)
    dsimp only
    split <;> exact ⟨rfl, rfl⟩
  · exact hx

/-- A request is marked by its error and asks for the same. -/
theorem markBroken_asked {es : List (String × String)} {x : Act Error (Conn P K) α} {c : Conn P K}
    (hx : Act.Meets x c (Asked es c)) : Act.Meets (markBroken x) c (Asked es c) := by
  have hasked := hx.at
  unfold Act.Meets markBroken
  generalize x c = r at hasked
  obtain ⟨a | e | _, c'⟩ := r
  · exact hasked
  · refine hasked.before ?_ id
    dsimp only
    split <;> exact ⟨rfl, rfl⟩
  · exact hasked

variable [Driver K]

theorem ensureUsable_nameless : Keeps Nameless (ensureUsable : Act Error (Conn P K) Unit) :=
  keeps_of_snd_eq fun c => by unfold ensureUsable; split <;> rfl

theorem finishExchange_nameless : Keeps Nameless (finishExchange : Act Error (Conn P K) Unit) :=
  keeps_modify fun _ => ⟨rfl, rfl⟩

theorem driveRound_nameless [StateMachine S] (m : S) (x : RawMessage) :
    Keeps Nameless (driveRound m x : Act Error (Conn P K) (Flow S S)) := by
  refine (stepMachine_nameless _ m).bind fun (action, m) => ?_
  cases action with
  | readMessage => exact keeps_pure _
  | handleAsyncMessageAndReadMessage msg =>
    exact (keeps_modify fun _ => ⟨rfl, rfl⟩).bind fun _ => keeps_pure _
  | error e =>
    exact (setStatus_nameless _).bind fun _ => finishExchange_nameless.bind fun _ => keeps_fail _
  | finished =>
    exact finishExchange_nameless.bind fun _ => (setStatus_nameless _).bind fun _ => keeps_pure _
  | writeAndReadByte | tlsHandshake => exact keeps_fail _
  | write | writeAndReadMessage => exact keeps_halt

theorem prepareBatchRound_nameless (m : BatchPrepareStateMachine) (x : RawMessage) :
    Keeps Nameless (prepareBatchRound m x :
      Act Error (Conn P K) (Flow BatchPrepareStateMachine (List PreparedStatement))) := by
  refine (stepMachine_nameless _ m).bind fun (action, m) => ?_
  cases action with
  | readMessage => exact keeps_pure _
  | finished =>
    exact finishExchange_nameless.bind fun _ => (setStatus_nameless _).bind fun _ => keeps_pure _
  | writeAndReadMessage => exact keeps_halt
  | _ => exact keeps_fail _

theorem driveBatchRound_nameless (m : BatchStateMachine) (x : RawMessage) :
    Keeps Nameless (driveBatchRound m x :
      Act Error (Conn P K) (Flow BatchStateMachine BatchStateMachine)) := by
  refine (stepMachine_nameless _ m).bind fun (action, m) => ?_
  cases action with
  | readMessage => exact keeps_pure _
  | finished => exact finishExchange_nameless.bind fun _ => keeps_pure _
  | error e =>
    exact (setStatus_nameless _).bind fun _ => finishExchange_nameless.bind fun _ => keeps_fail _
  | writeAndReadMessage => exact keeps_halt
  | _ => exact keeps_fail _

theorem bindRound_nameless (m : BindStateMachine) (x : RawMessage) :
    Keeps Nameless (bindRound m x : Act Error (Conn P K) (Flow BindStateMachine Unit)) := by
  refine (stepMachine_nameless _ m).bind fun (action, m) => ?_
  cases action with
  | readMessage => exact keeps_pure _
  | finished => exact finishExchange_nameless.bind fun _ => keeps_pure _
  | write | writeAndReadMessage => exact keeps_halt
  | _ => exact keeps_fail _

theorem lowlevelBindRound_nameless (u : Unit) (m : RawMessage) :
    Keeps Nameless (lowlevelBindRound u m : Act Error (Conn P K) (Flow Unit Unit)) := by
  unfold lowlevelBindRound
  split
  · exact keeps_pure _
  · split
    · exact (keeps_lift _).bind fun _ => finishExchange_nameless.bind fun _ => keeps_pure _
    · exact (keeps_lift _).bind fun _ => keeps_fail _
    · exact keeps_fail _

theorem lowlevelExecuteRound_nameless (handler : Handler) (s : ExecuteState) (m : RawMessage) :
    Keeps Nameless (lowlevelExecuteRound handler s m :
      Act Error (Conn P K) (Flow ExecuteState (Bool × List Callback))) := by
  unfold lowlevelExecuteRound
  split
  · exact keeps_pure _
  · split
    · exact (keeps_lift _).bind fun _ => (callHandler_nameless _ _ _).bind fun _ => keeps_pure _
    · exact (keeps_lift _).bind fun _ => keeps_pure _
    · exact (keeps_lift _).bind fun _ => (keeps_lift _).bind fun _ =>
        (callHandler_nameless _ _ _).bind fun _ => keeps_pure _
    · exact (keeps_lift _).bind fun _ => (callHandler_nameless _ _ _).bind fun _ =>
        finishExchange_nameless.bind fun _ => keeps_pure _
    · exact (keeps_lift _).bind fun _ => finishExchange_nameless.bind fun _ => keeps_pure _
    · exact (keeps_lift _).bind fun _ => keeps_fail _
    · exact keeps_fail _

theorem lowlevelClosePortalRound_nameless (u : Unit) (m : RawMessage) :
    Keeps Nameless (lowlevelClosePortalRound u m : Act Error (Conn P K) (Flow Unit Unit)) := by
  unfold lowlevelClosePortalRound
  split
  · exact keeps_pure _
  · split
    · exact (keeps_lift _).bind fun _ => finishExchange_nameless.bind fun _ => keeps_pure _
    · exact (keeps_lift _).bind fun _ => keeps_fail _
    · exact keeps_fail _

end Rounds

/-! ### Exchanges -/

section Exchanges

variable {S : Type} [Driver K]

/-- The exchange of a machine asks for what its first step has in the write buffer. -/
theorem exchangeWith_asked {step : Step S Action}
    {body : S → RawMessage → Act Error (Conn P K) (Flow S α)}
    (hbody : ∀ m x, Keeps Nameless (body m x)) {m m₁ : S} {c : Conn P K} {b₁ : BufferSet}
    (hfirst : step (m, c.bufferSet) = (.ok .writeAndReadMessage, (m₁, b₁))) :
    Act.Meets (exchangeWith step body m) c (Asked (namedIn b₁.writeBuffer) c) := by
  refine Act.meets_bind.mpr (beginExchange_meets (fun _ => ?_) fun _ => ?_)
  · exact (Std.Refl.refl c : Nameless c c).asked rfl
  · refine Act.meets_bind.mpr (stepMachine_meets hfirst ?_)
    let c₁ : Conn P K := { c with bufferSet := b₁, flags := Driver.beginFlags c.flags }
    have hsent : Act.Meets (send >>= fun _ => readMessages body m₁) c₁
        (Asked (namedIn b₁.writeBuffer) c₁) :=
      asked_bind (send_asked c₁) fun _ => readMessages_nameless hbody m₁
    have hstart : Nameless c c₁ := ⟨rfl, rfl⟩
    exact hsent.mono fun _ _ h => h.after hstart

/-- A request of its own, written and sent, and what follows. -/
theorem request_asked (fs : List Frontend) {x : Act Error (Conn P K) α} (hx : Keeps Nameless x)
    (c : Conn P K) :
    Act.Meets (do
      setWriteBuffer fs
      beginExchange
      send
      x) c (Asked (namedIn fs) c) := by
  refine Act.meets_bind.mpr (Act.meets_modify.mpr (Act.meets_bind.mpr
    (beginExchange_meets (fun _ => ?_) fun _ => ?_)))
  · have hwritten : Nameless c { c with bufferSet := { c.bufferSet with writeBuffer := fs } } :=
      ⟨rfl, rfl⟩
    exact hwritten.asked rfl
  · let c₁ : Conn P K := { c with
      bufferSet := { c.bufferSet with writeBuffer := fs }
      flags := Driver.beginFlags c.flags }
    have hsent : Act.Meets (send >>= fun _ => x) c₁ (Asked (namedIn fs) c₁) :=
      asked_bind (send_asked c₁) fun _ => hx
    have hstart : Nameless c c₁ := ⟨rfl, rfl⟩
    exact hsent.mono fun _ _ h => h.after hstart

/-- One that asks for no statement. -/
theorem request_unnamed (fs : List Frontend) {x : Act Error (Conn P K) α}
    (hx : Keeps Nameless x) (hfs : namedIn fs = []) :
    Keeps Unnamed (do
      setWriteBuffer fs
      beginExchange
      send
      x : Act Error (Conn P K) α) := by
  refine ⟨fun c => ?_⟩
  have hasked := (request_asked fs hx c).at
  rw [hfs] at hasked
  exact hasked.unnamed

theorem guarded_unnamed {x : Act Error (Conn P K) α} (h : Keeps Unnamed x) :
    Keeps Unnamed (guarded x) :=
  (nameless_unnamed ensureUsable_nameless).bind fun _ =>
    markBroken_nameless (fun _ _ => Nameless.unnamed) h

end Exchanges

/-! ### Requests -/

theorem namedIn_writeBind (buf : List Frontend) (portal statement : String) (params : Params)
    (oids : List Oid) : namedIn (writeBind buf portal statement params oids).2 = namedIn buf := by
  unfold writeBind
  cases params.encode oids with
  | ok values => exact (namedIn_append _ _).trans (List.append_nil _)
  | error e => exact (namedIn_append _ _).trans (List.append_nil _)

theorem namedIn_writeChunk (buf : List Frontend) (name : String) (oids : List Oid)
    (paramSets : List Params) : namedIn (writeChunk buf name oids paramSets).2 = namedIn buf := by
  induction paramSets generalizing buf with
  | nil => rfl
  | cons params paramSets ih =>
    have hbind := namedIn_writeBind buf "" name params oids
    unfold writeChunk
    generalize writeBind buf "" name params oids = written at hbind
    obtain ⟨e | u, buf'⟩ := written
    · exact hbind
    · exact (ih _).trans ((namedIn_append _ _).trans (by rw [hbind]; exact List.append_nil _))

/-- The statements a request asks for under a name. -/
def requestNamed : ExtendedQueryStateMachine.Request → List (String × String)
  | .prepare idx sql _ => [(statementName idx, sql)]
  | _ => []

theorem request_named {request : ExtendedQueryStateMachine.Request} {handler : Handler}
    {b b₀ : BufferSet} {m₀ : ExtendedQueryStateMachine}
    (hstart : request.start handler b = (.ok m₀, b₀)) :
    namedIn b₀.writeBuffer = requestNamed request := by
  cases request with
  | prepare idx sql oids =>
    cases hstart
    exact namedIn_cons_some _ (Frontend.named?_parse (statementName_ne idx))
  | execute name oids params =>
    have hbind := namedIn_writeBind [] "" name params oids
    simp only [ExtendedQueryStateMachine.Request.start, ExtendedQueryStateMachine.execute] at hstart
    generalize writeBind [] "" name params oids = written at hbind hstart
    obtain ⟨e | u, buf⟩ := written
    · cases hstart
    · cases hstart
      exact (namedIn_append _ _).trans (by rw [hbind]; rfl)
  | executeSql sql params =>
    have hbind := namedIn_writeBind [.parse "" sql params.naturalOids] "" "" params
      params.naturalOids
    simp only [ExtendedQueryStateMachine.Request.start, ExtendedQueryStateMachine.executeSql]
      at hstart
    generalize writeBind [.parse "" sql params.naturalOids] "" "" params params.naturalOids =
      written at hbind hstart
    obtain ⟨e | u, buf⟩ := written
    · cases hstart
    · cases hstart
      exact (namedIn_append _ _).trans (by rw [hbind]; rfl)
  | closeStatement name =>
    cases hstart
    rfl

theorem startBind_named {b b₀ : BufferSet} {portalName : String} {statement : StatementRef}
    {params : Params} {m₀ : BindStateMachine}
    (hstart : startBind b portalName statement params = (.ok m₀, b₀)) :
    namedIn b₀.writeBuffer = [] := by
  cases statement with
  | sql text =>
    have hbind := namedIn_writeBind [.parse "" text params.naturalOids] portalName "" params
      params.naturalOids
    simp only [startBind, BindStateMachine.bindSql] at hstart
    generalize writeBind [.parse "" text params.naturalOids] portalName "" params
      params.naturalOids = written at hbind hstart
    obtain ⟨e | u, buf⟩ := written
    · cases hstart
    · cases hstart
      exact (namedIn_append _ _).trans (by rw [hbind]; rfl)
  | prepared stmt =>
    have hbind := namedIn_writeBind [] portalName stmt.wireName params stmt.paramOids
    simp only [startBind, BindStateMachine.bindPrepared] at hstart
    generalize writeBind [] portalName stmt.wireName params stmt.paramOids = written at hbind hstart
    obtain ⟨e | u, buf⟩ := written
    · cases hstart
    · cases hstart
      exact (namedIn_append _ _).trans (by rw [hbind]; rfl)

/-- Queries with their numbers, from `idx` on, as the statements they are asked for. -/
def numbered (numbers : List (String × Nat)) : List (String × String) :=
  numbers.map fun entry => (statementName entry.2, entry.1)

theorem numberStatements_named (idx : Nat) (queries : List String) :
    namedIn (BatchPrepareStateMachine.numberStatements idx queries).1 =
      numbered (queries.zipIdx idx) := by
  induction queries generalizing idx with
  | nil => rfl
  | cons query queries ih =>
    have hparse : (Frontend.parse (statementName idx) query []).named? =
        some (statementName idx, query) := Frontend.named?_parse (statementName_ne idx)
    exact (namedIn_cons_some _ hparse).trans (congrArg _ (ih (idx + 1)))

/-! ### Operations that ask for none -/

section Unnamed

/-- Sequencing at a state. -/
theorem unnamed_bind {x : Act Error (Conn P K) α} {f : α → Act Error (Conn P K) β} {c c₀ : Conn P K}
    (hx : Act.Meets x c fun _ c' => Unnamed c₀ c') (hf : ∀ a, Keeps Unnamed (f a)) :
    Act.Meets (x >>= f) c fun _ c' => Unnamed c₀ c' := by
  refine Act.meets_bind.mpr (hx.mono fun o c₁ h => ?_)
  cases o with
  | ok a => exact h.trans ((hf a).rel c₁)
  | err e => exact h
  | halt => exact h

/-- Messages that ask for no statement under a name, sent and not answered. -/
theorem send_unnamed (fs : List Frontend) (hfs : namedIn fs = []) :
    Keeps Unnamed (do
      setWriteBuffer fs
      send : Act Error (Conn P K) Unit) := by
  refine ⟨fun c => ?_⟩
  have hsent := (send_asked { c with bufferSet := { c.bufferSet with writeBuffer := fs } }).at
  dsimp only at hsent
  rw [hfs] at hsent
  have hwritten : Nameless c { c with bufferSet := { c.bufferSet with writeBuffer := fs } } :=
    ⟨rfl, rfl⟩
  exact hwritten.unnamed.trans hsent.unnamed

variable [Driver K]

/-- The exchange of a machine whose request asks for no statement under a name, once the request is
written. -/
theorem exchangeWith_unnamed {S : Type} {step : Step S Action}
    {body : S → RawMessage → Act Error (Conn P K) (Flow S α)}
    (hbody : ∀ m x, Keeps Nameless (body m x)) {m m₁ : S} {c c₀ : Conn P K} {b₁ : BufferSet}
    (hfirst : step (m, c.bufferSet) = (.ok .writeAndReadMessage, (m₁, b₁)))
    (hnamed : namedIn b₁.writeBuffer = []) (hstart : Nameless c₀ c) :
    Act.Meets (exchangeWith step body m) c fun _ c' => Unnamed c₀ c' := by
  refine (exchangeWith_asked hbody hfirst).mono fun o c' h => ?_
  rw [hnamed] at h
  exact (h.after hstart).unnamed

theorem queryInner_unnamed (sql : String) (handler : Handler) :
    Keeps Unnamed (queryInner sql handler : Act Error (Conn P K) (List Callback)) := by
  refine Keeps.bind ⟨fun c => ?_⟩ fun _ => keeps_pure _
  exact exchangeWith_unnamed driveRound_nameless
    (SimpleQueryStateMachine.step_new handler sql c.bufferSet) rfl (Std.Refl.refl c)

/-- The exchange of a request that prepares nothing. -/
theorem driveRequest_unnamed {request : ExtendedQueryStateMachine.Request} {handler : Handler}
    {b : BufferSet} {m₀ : ExtendedQueryStateMachine} {c c₀ : Conn P K}
    (hstart : request.start handler b = (.ok m₀, c.bufferSet)) (hnamed : requestNamed request = [])
    (hc : Nameless c₀ c) : Act.Meets (drive m₀) c fun _ c' => Unnamed c₀ c' := by
  obtain ⟨m₁, hfirst, -⟩ := ExtendedQueryStateMachine.step_request hstart
  exact exchangeWith_unnamed driveRound_nameless hfirst ((request_named hstart).trans hnamed) hc

theorem execInner_unnamed (statement : StatementRef) (params : Params) (handler : Handler) :
    Keeps Unnamed (execInner statement params handler : Act Error (Conn P K) (List Callback)) := by
  refine ⟨fun c => Act.Meets.at (Q := fun _ c' => Unnamed c c') ?_⟩
  refine Act.meets_bind.mpr (Act.meets_get.mpr ?_)
  dsimp only
  rcases hstart : startExec handler c.bufferSet statement params with ⟨e | m, b⟩
  · have hwritten : Nameless c { c with bufferSet := b } := ⟨rfl, rfl⟩
    exact hwritten.unnamed
  · refine Act.meets_bind.mpr (Act.meets_modify.mpr (Act.meets_bind.mpr ?_))
    rw [startExec_eq] at hstart
    have hnamed : requestNamed (execRequest params statement) = [] := by cases statement <;> rfl
    exact unnamed_bind (driveRequest_unnamed hstart hnamed ⟨rfl, rfl⟩) fun _ => keeps_pure _

theorem closeStatementInner_unnamed (name : String) :
    Keeps Unnamed (closeStatementInner name : Act Error (Conn P K) Unit) := by
  refine ⟨fun c => Act.Meets.at (Q := fun _ c' => Unnamed c c') ?_⟩
  refine Act.meets_bind.mpr (Act.meets_get.mpr (Act.meets_bind.mpr (Act.meets_modify.mpr ?_)))
  have hstart : (ExtendedQueryStateMachine.Request.closeStatement name).start DropHandler
      c.bufferSet = (.ok _, _) := rfl
  exact unnamed_bind (driveRequest_unnamed hstart rfl ⟨rfl, rfl⟩) fun _ => keeps_pure _

theorem execChunks_unnamed (statement : StatementRef) (oids : List Oid) (name : String)
    (chunks : List (List Params)) :
    Keeps Unnamed (execChunks statement oids name chunks : Act Error (Conn P K) Unit) := by
  induction chunks with
  | nil => exact keeps_pure _
  | cons chunk chunks ih =>
    refine ⟨fun c => Act.Meets.at (Q := fun _ c' => Unnamed c c') ?_⟩
    refine Act.meets_bind.mpr (Act.meets_modify.mpr ?_)
    have hhead : namedIn (chunkHead statement oids) = [] := by cases statement <;> rfl
    have hnamed := (namedIn_writeChunk (chunkHead statement oids) name oids chunk).trans hhead
    generalize writeChunk (chunkHead statement oids) name oids chunk = written at hnamed ⊢
    obtain ⟨e | u, buf⟩ := written
    · have hwritten : Nameless c { c with bufferSet := { c.bufferSet with writeBuffer := buf } } :=
        ⟨rfl, rfl⟩
      exact hwritten.unnamed
    · refine Act.meets_bind.mpr (Act.meets_ofExcept_ok.mpr (Act.meets_bind.mpr ?_))
      refine Act.meets_modify.mpr (unnamed_bind ?_ fun m =>
        (nameless_unnamed (setStatus_nameless _)).bind fun _ => ih)
      refine exchangeWith_unnamed driveBatchRound_nameless (SyncedRequest.step_chunk statement _)
        ?_ ⟨rfl, rfl⟩
      exact (namedIn_append _ _).trans (by rw [hnamed]; rfl)

theorem execBatchInner_unnamed (statement : StatementRef) (paramsList : List Params)
    (chunkSize : Nat) :
    Keeps Unnamed (execBatchInner statement paramsList chunkSize : Act Error (Conn P K) Unit) := by
  cases paramsList with
  | nil => exact keeps_pure _
  | cons first rest => exact execChunks_unnamed _ _ _ _

theorem driveBind_unnamed {portalName : String} {statement : StatementRef} {params : Params}
    {m₀ : BindStateMachine} {b : BufferSet} {c c₀ : Conn P K}
    (hstart : startBind b portalName statement params = (.ok m₀, c.bufferSet))
    (hc : Nameless c₀ c) : Act.Meets (driveBind m₀) c fun _ c' => Unnamed c₀ c' := by
  obtain ⟨hinitial, -⟩ := startBind_frames hstart
  obtain ⟨m₁, -, hfirst⟩ := step_bind_first hinitial c.bufferSet
  exact exchangeWith_unnamed bindRound_nameless hfirst (startBind_named hstart) hc

theorem createNamedPortal_unnamed (portalName : String) (statement : StatementRef)
    (params : Params) :
    Keeps Unnamed (createNamedPortal portalName statement params : Act Error (Conn P K) Unit) := by
  refine (nameless_unnamed ensureUsable_nameless).bind fun _ =>
    ⟨fun c => Act.Meets.at (Q := fun _ c' => Unnamed c c') ?_⟩
  refine Act.meets_bind.mpr (writePortalBind_meets (fun e b _ => ?_) fun m b hstart => ?_)
  · have hwritten : Nameless c { c with bufferSet := b } := ⟨rfl, rfl⟩
    exact hwritten.unnamed
  · exact driveBind_unnamed hstart ⟨rfl, rfl⟩

theorem lowlevelBindInner_unnamed (portal statementName : String) (params : Params) :
    Keeps Unnamed (lowlevelBindInner portal statementName params :
      Act Error (Conn P K) Unit) := by
  have hnamed := namedIn_writeBind [] portal statementName params params.naturalOids
  unfold lowlevelBindInner
  generalize writeBind [] portal statementName params params.naturalOids = written at hnamed ⊢
  refine (nameless_unnamed (setWriteBuffer_nameless _)).bind fun _ => (keeps_ofExcept _).bind
    fun _ => request_unnamed _ (readMessages_nameless lowlevelBindRound_nameless ()) ?_
  exact (namedIn_append _ _).trans (by rw [hnamed]; rfl)

theorem lowlevelExecuteInner_unnamed (portal : String) (maxRows : Nat) (handler : Handler) :
    Keeps Unnamed (lowlevelExecuteInner portal maxRows handler :
      Act Error (Conn P K) (Bool × List Callback)) :=
  request_unnamed _ (readMessages_nameless (lowlevelExecuteRound_nameless handler) _) rfl

theorem lowlevelClosePortalInner_unnamed (portal : String) :
    Keeps Unnamed (lowlevelClosePortalInner portal : Act Error (Conn P K) Unit) :=
  request_unnamed _ (readMessages_nameless lowlevelClosePortalRound_nameless ()) rfl

theorem lowlevelFlush_unnamed : Keeps Unnamed (lowlevelFlush : Act Error (Conn P K) Unit) :=
  (nameless_unnamed ensureUsable_nameless).bind fun _ =>
    request_unnamed _ finishExchange_nameless rfl

end Unnamed

end Conn

end ZeroPostgres
