import Mathlib.Data.List.Nodup
import ZeroPostgres.Conn.Names

/-!
# Handles of prepared statements

A connection never uses a number twice for the statements it prepares (`Numbers`), so a handle means
the same statement for as long as it is kept: `handles_hold`, over any run of the asynchronous
client.
-/

namespace ZeroPostgres

open Act

namespace ExtendedQueryStateMachine

/-! ### The machine keeps the number of its statement -/

/-- The statement of the machine has the same number. -/
def SameNumber (r r' : ExtendedQueryStateMachine × BufferSet) : Prop :=
  r'.1.preparedStmt.map PreparedStatement.idx = r.1.preparedStmt.map PreparedStatement.idx

instance : Std.Refl SameNumber := ⟨fun _ => rfl⟩

instance : IsTrans (ExtendedQueryStateMachine × BufferSet) SameNumber where
  trans _ _ _ h h' := h'.trans h

theorem setState_sameNumber (state : ExtendedState) : Keeps SameNumber (setState state) :=
  keeps_modify fun _ => rfl

theorem callHandler_sameNumber (c : Callback) : Keeps SameNumber (callHandler c) := by
  refine ⟨fun r => ?_⟩
  obtain ⟨m, b⟩ := r
  unfold callHandler
  dsimp only
  generalize m.handler.call m.calls c = o
  obtain ⟨_ | _, calls⟩ := o <;> rfl

theorem updateStmt_sameNumber {f : PreparedStatement → PreparedStatement}
    (hf : ∀ stmt, (f stmt).idx = stmt.idx) : Keeps SameNumber (updateStmt f) := by
  refine keeps_modify fun r => ?_
  have hidx : PreparedStatement.idx ∘ f = PreparedStatement.idx := funext hf
  rw [SameNumber, Option.map_map, hidx]

theorem readReady_sameNumber (payload : Bytes) : Keeps SameNumber (readReady payload) :=
  (keeps_lift _).bind fun _ => keeps_modify fun _ => rfl

theorem startResult_sameNumber (payload : Bytes) : Keeps SameNumber (startResult payload) :=
  Keeps.bind (keeps_modify fun _ => rfl) fun _ => (keeps_lift _).bind fun _ =>
    callHandler_sameNumber _

theorem handleParse_sameNumber : Keeps SameNumber handleParse := by
  refine keeps_get.bind fun r => ?_
  dsimp only
  split
  · refine (keeps_lift _).bind fun _ => ?_
    split
    · exact (setState_sameNumber _).bind fun _ => keeps_pure _
    · exact (setState_sameNumber _).bind fun _ => keeps_pure _
    · exact keeps_fail _
  · exact keeps_fail _

theorem handleDescribe_sameNumber : Keeps SameNumber handleDescribe := by
  refine keeps_get.bind fun r => ?_
  dsimp only
  split
  · refine (keeps_lift _).bind fun _ => Keeps.bind (updateStmt_sameNumber fun _ => rfl) fun _ => ?_
    exact (setState_sameNumber _).bind fun _ => keeps_pure _
  · exact keeps_fail _

theorem handleRowDesc_sameNumber : Keeps SameNumber handleRowDesc := by
  refine keeps_get.bind fun r => ?_
  dsimp only
  split
  · exact Keeps.bind (updateStmt_sameNumber fun _ => rfl) fun _ =>
      (setState_sameNumber _).bind fun _ => keeps_pure _
  · exact (keeps_lift _).bind fun _ => (setState_sameNumber _).bind fun _ => keeps_pure _
  · exact keeps_fail _

theorem handleBind_sameNumber : Keeps SameNumber handleBind := by
  refine keeps_get.bind fun r => ?_
  dsimp only
  split
  · exact (keeps_lift _).bind fun _ => (setState_sameNumber _).bind fun _ => keeps_pure _
  · exact (startResult_sameNumber _).bind fun _ => (setState_sameNumber _).bind fun _ =>
      keeps_pure _
  · exact keeps_fail _

theorem handleRows_sameNumber : Keeps SameNumber handleRows := by
  refine keeps_get.bind fun r => ?_
  dsimp only
  split
  · exact (startResult_sameNumber _).bind fun _ => keeps_pure _
  · exact (keeps_lift _).bind fun _ => keeps_pure _
  · exact (keeps_lift _).bind fun _ => (keeps_lift _).bind fun _ =>
      (callHandler_sameNumber _).bind fun _ => keeps_pure _
  · exact (keeps_lift _).bind fun _ => (callHandler_sameNumber _).bind fun _ =>
      (setState_sameNumber _).bind fun _ => keeps_pure _
  · exact (keeps_lift _).bind fun _ => (setState_sameNumber _).bind fun _ => keeps_pure _
  · exact (keeps_lift _).bind fun _ => (setState_sameNumber _).bind fun _ => keeps_pure _
  · exact (readReady_sameNumber _).bind fun _ => keeps_pure _
  · exact keeps_fail _

theorem handleReady_sameNumber : Keeps SameNumber handleReady := by
  refine keeps_get.bind fun r => ?_
  dsimp only
  split
  · refine (readReady_sameNumber _).bind fun _ => Keeps.bind ?_ fun error => ?_
    · exact keeps_get.bind fun _ => Keeps.bind (keeps_modify fun _ => rfl) fun _ => keeps_pure _
    · cases error with
      | some e => exact keeps_pure _
      | none => exact keeps_pure _
  · exact (keeps_lift _).bind fun _ => keeps_pure _
  · exact keeps_fail _

/-- No step changes the number of the statement. -/
theorem step_sameNumber : Keeps SameNumber step := by
  refine keeps_get.bind fun r => ?_
  dsimp only
  split
  · exact (setState_sameNumber _).bind fun _ => keeps_pure _
  · next state _ =>
    split
    · exact keeps_lift _
    · split
      · exact (keeps_lift _).bind fun _ => Keeps.bind (keeps_modify fun _ => rfl) fun _ =>
          keeps_pure _
      · cases r.1.state with
        | waitingParse => exact handleParse_sameNumber
        | waitingDescribe => exact handleDescribe_sameNumber
        | waitingRowDesc => exact handleRowDesc_sameNumber
        | waitingBind => exact handleBind_sameNumber
        | processingRows => exact handleRows_sameNumber
        | waitingReady => exact handleReady_sameNumber
        | initial | finished => exact keeps_fail _

end ExtendedQueryStateMachine

namespace BatchPrepareStateMachine

/-- The statements of the machine have the same numbers. -/
def SameNumbers (r r' : BatchPrepareStateMachine × BufferSet) : Prop :=
  r'.1.statements.map PreparedStatement.idx = r.1.statements.map PreparedStatement.idx

instance : Std.Refl SameNumbers := ⟨fun _ => rfl⟩

instance : IsTrans (BatchPrepareStateMachine × BufferSet) SameNumbers where
  trans _ _ _ h h' := h'.trans h

theorem updateCurrent_sameNumbers {f : PreparedStatement → PreparedStatement}
    (hf : ∀ stmt, (f stmt).idx = stmt.idx) : Keeps SameNumbers (updateCurrent f) := by
  refine keeps_modify fun r => ?_
  rw [SameNumbers]
  apply List.ext_getElem?
  intro i
  rw [List.getElem?_map, List.getElem?_map, List.getElem?_modify]
  cases r.1.statements[i]? with
  | none => rfl
  | some stmt =>
    by_cases h : r.1.currentStmt = i
    · simp [h, hf]
    · simp [h]

theorem handleProcessing_sameNumbers : Keeps SameNumbers handleProcessing := by
  refine keeps_get.bind fun r => ?_
  dsimp only
  split
  · exact (keeps_lift _).bind fun _ => keeps_pure _
  · exact (keeps_lift _).bind fun _ => Keeps.bind (updateCurrent_sameNumbers fun _ => rfl)
      fun _ => keeps_pure _
  · exact Keeps.bind (updateCurrent_sameNumbers fun _ => rfl) fun _ =>
      Keeps.bind (keeps_modify fun _ => rfl) fun _ => keeps_pure _
  · exact (keeps_lift _).bind fun _ => Keeps.bind (keeps_modify fun _ => rfl) fun _ => keeps_pure _
  · exact (keeps_lift _).bind fun _ => Keeps.bind (keeps_modify fun _ => rfl) fun _ => keeps_pure _
  · exact keeps_fail _

@[inherit_doc ExtendedQueryStateMachine.step_sameNumber]
theorem step_sameNumbers : Keeps SameNumbers step := by
  refine keeps_get.bind fun r => ?_
  dsimp only
  split
  · exact Keeps.bind (keeps_modify fun _ => rfl) fun _ => keeps_pure _
  · split
    · exact keeps_pure _
    · split
      · exact (keeps_lift _).bind fun _ => keeps_fail _
      · split
        · exact handleProcessing_sameNumbers
        · exact keeps_fail _

end BatchPrepareStateMachine

/-- A run on messages keeps what reading a message and every step keep. The induction is on the
messages. -/
theorem runMachine_keeps {S : Type} {step : Step S Action}
    {R : S × BufferSet → S × BufferSet → Prop} [Std.Refl R] [IsTrans (S × BufferSet) R]
    (hload : ∀ r m, R r (r.1, r.2.load m)) (hstep : Keeps R step) (ms : List RawMessage) :
    Keeps R (runMachine step ms) := by
  induction ms with
  | nil => exact keeps_halt
  | cons m ms ih =>
    refine Keeps.bind (keeps_modify fun r => hload r m) fun _ => hstep.bind fun action => ?_
    cases action with
    | readMessage => exact ih
    | handleAsyncMessageAndReadMessage msg => exact ih.bind fun _ => keeps_pure _
    | error e => exact keeps_pure _
    | finished => exact keeps_pure _
    | writeAndReadByte | tlsHandshake | write | writeAndReadMessage => exact keeps_halt

namespace Conn

variable {P : Peer} {K : Type} {α : Type}

/-! ### Numbers -/

/-- From `c` to `c'` the named statements that are asked for have numbers that were not used before,
each above the last. -/
def Numbers (c c' : Conn P K) : Prop :=
  ∃ numbers : List (String × Nat), c'.named = c.named ++ numbered numbers ∧
    (numbers.map Prod.snd).Pairwise (· < ·) ∧
    (∀ entry ∈ numbers, c.nameCounter < entry.2 ∧ entry.2 ≤ c'.nameCounter) ∧
    c.nameCounter ≤ c'.nameCounter

theorem Unnamed.numbers {c c' : Conn P K} (h : Unnamed c c') : Numbers c c' :=
  ⟨[], by rw [h.1]; exact (List.append_nil _).symm, .nil, by simp, h.2⟩

instance : Std.Refl (Numbers (P := P) (K := K)) :=
  ⟨fun c => Unnamed.numbers (Std.Refl.refl (r := Unnamed) c)⟩

/-- Later numbers are above the earlier ones. -/
theorem Numbers.trans {c c' c'' : Conn P K} (h : Numbers c c') (h' : Numbers c' c'') :
    Numbers c c'' := by
  obtain ⟨ns, hnamed, hsorted, hbound, hle⟩ := h
  obtain ⟨ns', hnamed', hsorted', hbound', hle'⟩ := h'
  refine ⟨ns ++ ns', ?_, ?_, ?_, Nat.le_trans hle hle'⟩
  · rw [hnamed', hnamed, numbered, numbered, numbered, List.map_append, List.append_assoc]
  · rw [List.map_append, List.pairwise_append]
    refine ⟨hsorted, hsorted', fun i hi j hj => ?_⟩
    obtain ⟨a, ha, rfl⟩ := List.mem_map.mp hi
    obtain ⟨b, hb, rfl⟩ := List.mem_map.mp hj
    exact Nat.lt_of_le_of_lt (hbound a ha).2 (hbound' b hb).1
  · intro entry hentry
    rcases List.mem_append.mp hentry with hmem | hmem
    · exact ⟨(hbound entry hmem).1, Nat.le_trans (hbound entry hmem).2 hle'⟩
    · exact ⟨Nat.lt_of_le_of_lt hle (hbound' entry hmem).1, (hbound' entry hmem).2⟩

instance : IsTrans (Conn P K) Numbers := ⟨fun _ _ _ => Numbers.trans⟩

/-- Names of different numbers differ, so no name is asked for twice. -/
theorem Numbers.nodup {c c' : Conn P K} (h : Numbers c c') (hc : c.named = []) :
    (c'.named.map Prod.fst).Nodup := by
  obtain ⟨ns, hnamed, hsorted, -, -⟩ := h
  have hnames : c'.named.map Prod.fst = (ns.map Prod.snd).map statementName := by
    rw [hnamed, hc, List.nil_append, numbered, List.map_map, List.map_map]
    rfl
  rw [hnames]
  exact (hsorted.imp fun h => Nat.ne_of_lt h).map _ fun _ _ h heq => h (statementName_injective heq)

/-- The named statements `queries` are asked for with the next numbers, or the first of them where
the outcome is no value. A refused call asks for none. -/
def Prepares (queries : List String) (c : Conn P K) (o : Outcome Error α) (c' : Conn P K) : Prop :=
  (o.isOk = false ∧ c' = c) ∨ Asked (numbered (queries.zipIdx (c.nameCounter + 1)))
    { c with nameCounter := c.nameCounter + queries.length } o c'

theorem Prepares.numbers {queries : List String} {c c' : Conn P K} {o : Outcome Error α}
    (h : Prepares queries c o c') : Numbers c c' := by
  rcases h with ⟨-, rfl⟩ | h
  · exact Std.Refl.refl _
  · obtain ⟨asked, ⟨rest, hrest⟩, hnamed, -⟩ := h.named
    have hcounter := h.counter
    dsimp only at hcounter
    -- what was asked for is the beginning of the numbered queries
    let ns := (queries.zipIdx (c.nameCounter + 1)).take asked.length
    have hasked : asked = numbered ns := by
      have htake := congrArg (List.take asked.length) hrest
      rw [List.take_left, numbered, ← List.map_take] at htake
      exact htake
    refine ⟨ns, by rw [hnamed, hasked]; rfl, ?_, fun entry hentry => ?_, by omega⟩
    · rw [List.map_take, List.zipIdx_map_snd]
      exact List.Pairwise.sublist (List.take_sublist _ _) List.pairwise_lt_range'
    · obtain ⟨query, number⟩ := entry
      obtain ⟨hlow, hhigh, -⟩ := List.mem_zipIdx (List.mem_of_mem_take hentry)
      dsimp only
      omega

/-- A call that returns a value has asked for all of its statements. -/
theorem Prepares.named {queries : List String} {c c' : Conn P K} {o : Outcome Error α}
    (h : Prepares queries c o c') (ho : o.isOk = true) {i : Nat} {sql : String}
    (hi : queries[i]? = some sql) : (statementName (c.nameCounter + 1 + i), sql) ∈ c'.named := by
  rcases h with ⟨hno, -⟩ | h
  · rw [ho] at hno
    cases hno
  · obtain ⟨asked, -, hnamed, hall⟩ := h.named
    rw [hnamed, hall ho]
    refine List.mem_append_right _ (List.mem_map.mpr ⟨(sql, c.nameCounter + 1 + i), ?_, rfl⟩)
    apply List.mem_of_getElem? (i := i)
    rw [List.getElem?_zipIdx, hi]
    rfl

/-! ### Preparing -/

section Prepare

variable [Driver K]

/-- An exchange that returns a value has run the machine to its end, and the machine has kept what
its steps keep. -/
theorem exchangeWith_kept {S : Type} {step : Step S Action} {Stop : S → α → Conn P K → Prop}
    {Fail : S → Conn P K → Prop} {body : S → RawMessage → Act Error (Conn P K) (Flow S α)}
    (hstill : ∀ m x, Keeps Still (body m x))
    (hround : ∀ m x c, Act.Meets (body m x) c (Rounded step Stop Fail m c))
    {R : S × BufferSet → S × BufferSet → Prop} [Std.Refl R] [IsTrans (S × BufferSet) R]
    (hload : ∀ r m, R r (r.1, r.2.load m)) (hstep : Keeps R step) {m m₁ : S} {c c' : Conn P K}
    {b₁ : BufferSet} {a : α}
    (hfirst : step (m, c.bufferSet) = (.ok .writeAndReadMessage, (m₁, b₁)))
    (h : exchangeWith step body m c = (.ok a, c')) :
    ∃ m', Stop m' a c' ∧ R (m₁, b₁) (m', c'.bufferSet) := by
  have hdriven := (exchangeWith_driven (c := c) hstill hround hfirst).at
  rw [h] at hdriven
  rcases hdriven with hhalt | ⟨-, herr, -⟩ | ⟨-, -, hdriven⟩
  · cases hhalt
  · cases herr
  · cases hdriven with
    | @stop v _ m' _ hrun _ _ _ hstop =>
      have hkept := (runMachine_keeps hload hstep
        (c.stream.inbound ++ (P.feed c.stream.peer b₁.writeBuffer).1)).rel (m₁, b₁)
      rw [hrun] at hkept
      exact ⟨m', hstop, hkept⟩

/-- A statement that is prepared is asked for under the name of its number. -/
theorem prepareInner_asked (idx : Nat) (sql : String) (paramOids : List Oid) (c : Conn P K) :
    Act.Meets (prepareInner idx sql paramOids) c (Asked [(statementName idx, sql)] c) := by
  let request : ExtendedQueryStateMachine.Request := .prepare idx sql paramOids
  let b := (ExtendedQueryStateMachine.prepare DropHandler c.bufferSet idx sql paramOids).2
  have hstart : request.start DropHandler c.bufferSet = (.ok _, b) := rfl
  obtain ⟨m₁, hfirst, -⟩ := ExtendedQueryStateMachine.step_request hstart
  have hexchange := exchangeWith_asked (P := P) (K := K) (c := { c with bufferSet := b })
    driveRound_nameless hfirst
  rw [request_named hstart] at hexchange
  refine Act.meets_bind.mpr (Act.meets_get.mpr (Act.meets_bind.mpr (Act.meets_modify.mpr ?_)))
  have hwritten : Nameless c { c with bufferSet := b } := ⟨rfl, rfl⟩
  refine Act.Meets.mono (asked_bind hexchange fun m => ?_) fun _ _ h => h.after hwritten
  cases m.preparedStmt with
  | some stmt => exact keeps_pure _
  | none => exact keeps_fail _

/-- The handle has the number the statement was asked for with. -/
theorem prepareInner_idx {idx : Nat} {sql : String} {paramOids : List Oid} {c c' : Conn P K}
    {stmt : PreparedStatement} (h : prepareInner idx sql paramOids c = (.ok stmt, c')) :
    stmt.idx = idx := by
  let b := (ExtendedQueryStateMachine.prepare DropHandler c.bufferSet idx sql paramOids).2
  let m₀ := (ExtendedQueryStateMachine.prepare DropHandler c.bufferSet idx sql paramOids).1
  have hfirst : StateMachine.step (m₀, b) =
      (.ok .writeAndReadMessage, ({ m₀ with state := .waitingParse }, b)) := rfl
  change (exchangeWith StateMachine.step driveRound m₀ >>= _) { c with bufferSet := b } = _ at h
  obtain ⟨m, c₁, hexchange, hvalue⟩ := Act.bind_eq_ok_iff.mp h
  obtain ⟨m', ⟨rfl, -⟩, hkept⟩ := exchangeWith_kept driveRound_still driveRound_rounded
    (fun _ _ => rfl) ExtendedQueryStateMachine.step_sameNumber hfirst hexchange
  change m.preparedStmt.map PreparedStatement.idx = some idx at hkept
  cases hstmt : m.preparedStmt with
  | none =>
    rw [hstmt] at hvalue
    cases hvalue
  | some stmt' =>
    rw [hstmt] at hkept hvalue
    cases hvalue
    exact Option.some.inj hkept

/-- The statements of a batch are asked for under the names of their numbers. -/
theorem prepareBatchInner_asked (queries : List String) (startIdx : Nat) (c : Conn P K) :
    Act.Meets (prepareBatchInner queries startIdx) c
      (Asked (numbered (queries.zipIdx startIdx)) c) := by
  let b₀ := (BatchPrepareStateMachine.startAt c.bufferSet queries startIdx).2
  let m₀ := (BatchPrepareStateMachine.startAt c.bufferSet queries startIdx).1
  have hfirst : BatchPrepareStateMachine.step (m₀, b₀) =
      (.ok .writeAndReadMessage, ({ m₀ with state := .processing }, b₀)) := rfl
  have hnamed : namedIn b₀.writeBuffer = numbered (queries.zipIdx startIdx) :=
    (namedIn_append _ _).trans ((List.append_nil _).trans (numberStatements_named startIdx queries))
  have hexchange := exchangeWith_asked (P := P) (K := K) (c := { c with bufferSet := b₀ })
    prepareBatchRound_nameless hfirst
  rw [hnamed] at hexchange
  have hwritten : Nameless c { c with bufferSet := b₀ } := ⟨rfl, rfl⟩
  refine Act.meets_bind.mpr (Act.meets_get.mpr (Act.meets_bind.mpr (Act.meets_modify.mpr ?_)))
  exact hexchange.mono fun _ _ h => h.after hwritten

theorem numberStatements_idx (idx : Nat) (queries : List String) :
    (BatchPrepareStateMachine.numberStatements idx queries).2.map PreparedStatement.idx =
      List.range' idx queries.length := by
  induction queries generalizing idx with
  | nil => rfl
  | cons query queries ih => exact congrArg (List.cons idx) (ih (idx + 1))

/-- The handles of a batch have the numbers their statements were asked for with. -/
theorem prepareBatchInner_idx {queries : List String} {startIdx : Nat} {c c' : Conn P K}
    {stmts : List PreparedStatement}
    (h : prepareBatchInner queries startIdx c = (.ok stmts, c')) :
    stmts.map PreparedStatement.idx = List.range' startIdx queries.length := by
  let b₀ := (BatchPrepareStateMachine.startAt c.bufferSet queries startIdx).2
  let m₀ := (BatchPrepareStateMachine.startAt c.bufferSet queries startIdx).1
  have hfirst : BatchPrepareStateMachine.step (m₀, b₀) =
      (.ok .writeAndReadMessage, ({ m₀ with state := .processing }, b₀)) := rfl
  have hrun : prepareBatchInner queries startIdx c =
      exchangeWith BatchPrepareStateMachine.step prepareBatchRound m₀ { c with bufferSet := b₀ } :=
    rfl
  rw [hrun] at h
  obtain ⟨m', ⟨rfl, -⟩, hkept⟩ := exchangeWith_kept prepareBatchRound_still
    prepareBatchRound_rounded (fun _ _ => rfl) BatchPrepareStateMachine.step_sameNumbers hfirst h
  exact hkept.trans (numberStatements_idx startIdx queries)

/-- A usable connection goes on, any other one refuses. -/
theorem ensureUsable_prepares {queries : List String} {f : Unit → Act Error (Conn P K) α}
    {c : Conn P K} (hf : Act.Meets (f ()) c (Prepares queries c)) :
    Act.Meets (ensureUsable >>= f) c (Prepares queries c) := by
  refine Act.meets_bind.mpr ?_
  unfold Act.Meets ensureUsable
  split
  · exact .inl ⟨rfl, rfl⟩
  · exact hf

theorem prepareTyped_prepares (sql : String) (paramOids : List Oid) (c : Conn P K) :
    Act.Meets (prepareTyped sql paramOids) c (Prepares [sql] c) := by
  refine ensureUsable_prepares (Act.meets_bind.mpr (Act.meets_modify.mpr ?_))
  refine Act.meets_bind.mpr (Act.meets_get.mpr ?_)
  exact Act.Meets.mono (markBroken_asked (prepareInner_asked _ sql paramOids _)) fun _ _ => .inr

theorem prepareBatch_prepares (queries : List String) (c : Conn P K) :
    Act.Meets (prepareBatch queries) c (Prepares queries c) := by
  refine ensureUsable_prepares ?_
  cases queries with
  | nil => exact .inr ⟨rfl, [], List.nil_prefix, (List.append_nil _).symm, fun _ => rfl⟩
  | cons query queries =>
    refine Act.meets_bind.mpr (Act.meets_get.mpr (Act.meets_bind.mpr (Act.meets_modify.mpr ?_)))
    exact Act.Meets.mono (markBroken_asked (prepareBatchInner_asked _ _ _)) fun _ _ => .inr

omit [Driver K] in
theorem markBroken_value {x : Act Error (Conn P K) α} {c c' : Conn P K} {a : α}
    (h : markBroken x c = (.ok a, c')) : x c = (.ok a, c') := by
  unfold markBroken at h
  generalize x c = r at h ⊢
  obtain ⟨_ | _ | _, c₁⟩ := r
  · exact h
  · cases h
  · cases h

theorem ensureUsable_value {f : Unit → Act Error (Conn P K) α} {c c' : Conn P K} {a : α}
    (h : (ensureUsable >>= f) c = (.ok a, c')) : f () c = (.ok a, c') := by
  obtain ⟨u, c₁, husable, hvalue⟩ := Act.bind_eq_ok_iff.mp h
  unfold ensureUsable at husable
  split at husable
  · cases husable
  · cases husable
    exact hvalue

theorem prepareTyped_idx {sql : String} {paramOids : List Oid} {c c' : Conn P K}
    {stmt : PreparedStatement} (h : prepareTyped sql paramOids c = (.ok stmt, c')) :
    stmt.idx = c.nameCounter + 1 :=
  prepareInner_idx (markBroken_value (ensureUsable_value h))

theorem prepareBatch_idx {queries : List String} {c c' : Conn P K}
    {stmts : List PreparedStatement} (h : prepareBatch queries c = (.ok stmts, c')) :
    stmts.map PreparedStatement.idx = List.range' (c.nameCounter + 1) queries.length := by
  have hvalue := ensureUsable_value h
  cases queries with
  | nil =>
    cases hvalue
    rfl
  | cons query queries => exact prepareBatchInner_idx (markBroken_value hvalue)

end Prepare

end Conn

namespace Tokio

open ZeroPostgres.Conn

variable {P : Peer} {α : Type}

/-! ### Operations -/

theorem lowlevelSyncRound_nameless (pending : Option Error) (m : RawMessage) :
    Keeps Nameless (lowlevelSyncRound pending m :
      Act Error (Conn P) (Flow (Option Error) Unit)) := by
  unfold lowlevelSyncRound
  split
  · exact keeps_pure _
  · split
    · refine (keeps_lift _).bind fun _ => (setStatus_nameless _).bind fun _ =>
        finishExchange_nameless.bind fun _ => ?_
      cases pending with
      | some e => exact keeps_fail _
      | none => exact keeps_pure _
    · refine (keeps_lift _).bind fun _ => ?_
      split
      · exact Keeps.bind (keeps_modify fun _ => ⟨rfl, rfl⟩) fun _ => keeps_fail _
      · exact keeps_pure _
    · exact keeps_pure _

theorem lowlevelSyncInner_unnamed : Keeps Unnamed (lowlevelSyncInner : Act Error (Conn P) Unit) :=
  request_unnamed _ (readMessages_nameless lowlevelSyncRound_nameless none) rfl

theorem withCut_unnamed {x : Act Error (Conn P) α} {c c₀ : Conn P} {cut : Option Cut}
    (h : Act.Meets x { c with stream := { c.stream with cut } } fun _ c' => Unnamed c₀ c') :
    Act.Meets (withCut cut x) c fun _ c' => Unnamed c₀ c' := h

theorem execPortalInner_unnamed (bindCut syncCut : Option Cut) (statement : StatementRef)
    (params : Params) (f : PortalProg) :
    Keeps Unnamed (execPortalInner bindCut syncCut statement params f :
      Act Error (Conn P) Unit) := by
  have hcut {β : Type} {x : Act Error (Conn P) β} (h : Keeps Unnamed x) (cut : Option Cut) :
      Keeps Unnamed (withCut cut x) := ⟨fun c => withCut_unnamed (h.rel _)⟩
  refine ⟨fun c => Act.Meets.at (Q := fun _ c' => Unnamed c c') ?_⟩
  refine Act.meets_bind.mpr (writePortalBind_meets (fun e b _ => ?_) fun m b hstart => ?_)
  · have hwritten : Nameless c { c with bufferSet := b } := ⟨rfl, rfl⟩
    exact hwritten.unnamed
  · refine Act.meets_bind.mpr (Act.meets_modify.mpr ?_)
    refine unnamed_bind (withCut_unnamed (driveBind_unnamed hstart ⟨rfl, rfl⟩)) fun _ => ?_
    refine (runPortal_keeps (fun cut _ _ => hcut (lowlevelExecuteInner_unnamed _ _ _) cut)
      f).attempt.bind fun result => ?_
    refine (hcut lowlevelSyncInner_unnamed syncCut).attempt.bind fun syncResult => ?_
    exact keeps_get.bind fun c => Keeps.bind (keeps_modify fun _ => ⟨rfl, Nat.le_refl _⟩) fun _ =>
      keeps_ofExcept _

namespace Operation

/-- The operation prepares statements. -/
def prepares : Operation → Bool
  | .prepareTyped .. | .prepareBatch _ => true
  | _ => false

theorem queryDrop_unnamed (sql : String) :
    Keeps Unnamed (queryDrop sql : Act Error (Conn P) (List Callback)) :=
  guarded_unnamed (queryInner_unnamed sql _)

theorem checkTransaction_unnamed (tx : Transaction) :
    Keeps Unnamed (checkTransaction tx : Act Error (Conn P) Unit) := by
  refine keeps_get.bind fun c => ?_
  split
  · exact keeps_fail _
  · exact keeps_pure _

/-- The other operations ask for no statement under a name, however they end. -/
theorem run_unnamed {op : Operation} (hop : op.prepares = false) :
    Keeps Unnamed (op.run : Act Error (Conn P) Unit) := by
  cases op with
  | query sql handler => exact void_keeps (guarded_unnamed (queryInner_unnamed _ _))
  | ping => exact (queryDrop_unnamed "").bind fun _ => keeps_pure _
  | prepareTyped sql oids => cases hop
  | prepareBatch queries => cases hop
  | exec statement params handler => exact void_keeps (guarded_unnamed (execInner_unnamed _ _ _))
  | execBatch statement paramsList chunkSize =>
    exact guarded_unnamed (execBatchInner_unnamed _ _ _)
  | closeStatement stmt => exact guarded_unnamed (closeStatementInner_unnamed _)
  | lowlevelFlush => exact lowlevelFlush_unnamed
  | lowlevelSync => exact guarded_unnamed lowlevelSyncInner_unnamed
  | lowlevelBind portal name params => exact guarded_unnamed (lowlevelBindInner_unnamed _ _ _)
  | lowlevelExecute portal maxRows handler =>
    exact void_keeps (guarded_unnamed (lowlevelExecuteInner_unnamed _ _ _))
  | lowlevelClosePortal portal => exact guarded_unnamed (lowlevelClosePortalInner_unnamed _)
  | execPortal bindCut syncCut statement params f =>
    exact guarded_unnamed (execPortalInner_unnamed _ _ _ _ _)
  | beginTransaction =>
    refine void_keeps (keeps_get.bind fun c => ?_)
    split
    · exact keeps_fail _
    · exact (queryDrop_unnamed _).bind fun _ => keeps_get.bind fun _ => keeps_pure _
  | finishTransaction result =>
    refine keeps_get.bind fun c => ?_
    split
    · cases result with
      | ok a => exact (queryDrop_unnamed _).bind fun _ => keeps_pure _
      | error e => exact (queryDrop_unnamed _).attempt.bind fun _ => keeps_fail _
    · exact keeps_ofExcept _
  | commit tx =>
    exact (checkTransaction_unnamed tx).bind fun _ => (queryDrop_unnamed _).bind fun _ =>
      keeps_pure _
  | rollback tx =>
    exact (checkTransaction_unnamed tx).bind fun _ => (queryDrop_unnamed _).bind fun _ =>
      keeps_pure _
  | execPortalNamed tx statement params =>
    refine void_keeps ((checkTransaction_unnamed tx).bind fun _ => Keeps.bind ?_ fun name => ?_)
    · exact Keeps.bind (keeps_modify fun c => ⟨rfl, Nat.le_succ _⟩) fun _ =>
        keeps_get.bind fun _ => keeps_pure _
    · exact (markBroken_nameless (fun _ _ => Nameless.unnamed)
        (createNamedPortal_unnamed _ _ _)).bind fun _ => keeps_pure _
  | execNamed portal maxRows handler =>
    exact void_keeps ((guarded_unnamed (lowlevelExecuteInner_unnamed _ _ _)).bind fun _ =>
      keeps_pure _)
  | closeNamed portal =>
    exact (guarded_unnamed (lowlevelClosePortalInner_unnamed _)).bind fun _ =>
      guarded_unnamed lowlevelSyncInner_unnamed
  | close =>
    exact (nameless_unnamed ensureUsable_nameless).bind fun _ => send_unnamed _ rfl

/-- The statements an operation asks for have new numbers. -/
theorem run_numbers (op : Operation) : Keeps Numbers (op.run : Act Error (Conn P) Unit) := by
  cases hop : op.prepares with
  | false => exact (run_unnamed hop).mono fun _ _ => Unnamed.numbers
  | true =>
    cases op with
    | prepareTyped sql oids =>
      exact void_keeps ⟨fun c => (prepareTyped_prepares sql oids c).at.numbers⟩
    | prepareBatch queries =>
      exact void_keeps ⟨fun c => (prepareBatch_prepares queries c).at.numbers⟩
    | _ => cases hop

end Operation

/-- So have those of any run. -/
theorem after_numbers (c : Conn P) (calls : List Call) : Numbers c (after c calls) :=
  after_keeps (fun call => ⟨fun c => (call.operation.run_numbers).rel
    { c with stream := { c.stream with cut := call.cut } }⟩) c calls

/-! ### Handles -/

/-- The call returns a handle of a statement prepared from `sql`. -/
inductive Issues (c : Conn P) : Call → PreparedStatement → String → Prop where
  | prepareTyped {sql oids cut stmt} :
      (withCut cut (ZeroPostgres.Conn.prepareTyped sql oids) c).1 = .ok stmt →
      Issues c ⟨.prepareTyped sql oids, cut⟩ stmt sql
  | prepareBatch {queries cut} {stmts : List PreparedStatement} {i : Nat} {stmt sql} :
      (withCut cut (ZeroPostgres.Conn.prepareBatch queries) c).1 = .ok stmts →
      stmts[i]? = some stmt → queries[i]? = some sql →
      Issues c ⟨.prepareBatch queries, cut⟩ stmt sql

theorem void_snd (x : Act Error (Conn P) α) (c : Conn P) :
    (void x c).2 = (x c).2 := by
  unfold void
  rw [Act.bind_run]
  generalize x c = r
  obtain ⟨_ | _ | _, c'⟩ := r <;> rfl

/-- A handle names a statement that was asked for with its query. -/
theorem Issues.named {c : Conn P} {call : Call} {stmt : PreparedStatement} {sql : String}
    (h : Issues c call stmt sql) : (stmt.wireName, sql) ∈ (call.run c).2.named := by
  cases h with
  | @prepareTyped _ oids cut _ hok =>
    let c₁ : Conn P := { c with stream := { c.stream with cut } }
    have hprep := (prepareTyped_prepares sql oids c₁).at
    have hvoid := void_snd (ZeroPostgres.Conn.prepareTyped sql oids) c₁
    change (stmt.wireName, sql) ∈ (void _ c₁).2.named
    change (ZeroPostgres.Conn.prepareTyped sql oids c₁).1 = .ok stmt at hok
    rw [hvoid]
    have hname : stmt.wireName = statementName (c.nameCounter + 1 + 0) :=
      congrArg statementName (prepareTyped_idx (c := c₁) (Prod.ext hok rfl))
    rw [hname]
    exact hprep.named (by rw [hok]; rfl) rfl
  | @prepareBatch queries cut stmts i _ _ hok hstmt hsql =>
    let c₁ : Conn P := { c with stream := { c.stream with cut } }
    have hprep := (prepareBatch_prepares queries c₁).at
    have hvoid := void_snd (ZeroPostgres.Conn.prepareBatch queries) c₁
    change (stmt.wireName, sql) ∈ (void _ c₁).2.named
    change (ZeroPostgres.Conn.prepareBatch queries c₁).1 = .ok stmts at hok
    rw [hvoid]
    have hidx := congrArg (·[i]?) (prepareBatch_idx (c := c₁) (Prod.ext hok rfl))
    obtain ⟨hi, -⟩ := List.getElem?_eq_some_iff.mp hsql
    simp only [List.getElem?_map, hstmt, Option.map_some, List.getElem?_range' hi, Nat.one_mul,
      Option.some.injEq] at hidx
    have hname : stmt.wireName = statementName (c.nameCounter + 1 + i) :=
      congrArg statementName hidx
    rw [hname]
    exact hprep.named (by rw [hok]; rfl) hsql

/-- The server is where the messages sent lead it. -/
theorem after_session (st : P.State) (flags : TokioFlags) (calls : List Call) :
    let c : Conn P := after (.fresh st flags) calls
    c.session = P.session (P.feed st (c.stream.log.map Prod.fst)).2 := by
  intro c
  have htalks : Talks (.fresh st flags) c :=
    after_keeps (fun call => withCut_talks call.operation.run_talks call.cut) _ calls
  obtain ⟨sent, hpeer, hlog⟩ := htalks.follows
  have hsent : c.stream.log.map Prod.fst = sent := by
    rw [hlog, List.map_append, exchanges_messages]
    rfl
  rw [hsent, Conn.session, Stream.session, hpeer]
  rfl

/-- Over any calls on a fresh connection to a server that knows no named statement, each dropped at
any await point or not: every Parse that names its statement has a name the server does not know at
that moment, and whatever the server keeps, at any moment, under the name of a handle that one of
the calls returned, is the query the handle was prepared from. -/
theorem handles_hold (hP : P.NoCopy) {st : P.State} {flags : TokioFlags}
    (hmode : (P.session st).mode ≠ .copying)
    (hnone : ∀ name, name ≠ "" → (P.session st).statements name = none) (calls : List Call) :
    let c : Conn P := after (.fresh st flags) calls
    c.session = P.session (P.feed st (c.stream.log.map Prod.fst)).2 ∧
    (∀ fs name sql oids gs, c.stream.log.map Prod.fst = fs ++ .parse name sql oids :: gs →
      name ≠ "" → (P.session (P.feed st fs).2).statements name = none) ∧
    ∀ before call rest stmt sql, calls = before ++ call :: rest →
      Issues (after (.fresh st flags) before) call stmt sql →
      ∀ fs, fs <+: c.stream.log.map Prod.fst → ∀ kept,
        (P.session (P.feed st fs).2).statements stmt.wireName = some kept → kept.sql = sql := by
  intro c
  have hnodup : (c.named.map Prod.fst).Nodup := (after_numbers (.fresh st flags) calls).nodup rfl
  -- what the server keeps at some moment was asked for before that moment
  have hkept (fs : List Frontend) {name : String} (hname : name ≠ "") {kept : Statement}
      (h : (P.session (P.feed st fs).2).statements name = some kept) :
      (name, kept.sql) ∈ namedIn fs := by
    rcases feed_statements hP fs hmode hname h with hfirst | hmem
    · rw [hnone name hname] at hfirst
      cases hfirst
    · exact hmem
  refine ⟨after_session st flags calls, ?_, ?_⟩
  · intro fs name sql oids gs hlog hname
    cases hs : (P.session (P.feed st fs).2).statements name with
    | none => rfl
    | some kept =>
      have hnamed : c.named = namedIn fs ++ (name, sql) :: namedIn gs := by
        rw [Conn.named, hlog, namedIn_append, namedIn_cons_some gs (Frontend.named?_parse hname)]
      rw [hnamed, List.map_append, List.nodup_append] at hnodup
      exact absurd rfl (hnodup.2.2 name (List.mem_map.mpr ⟨_, hkept fs hname hs, rfl⟩) name
        List.mem_cons_self)
  · rintro before call rest stmt sql rfl hissues fs ⟨gs, hlog⟩ kept hs
    have hc : c = after (call.run (after (.fresh st flags) before)).2 rest := by
      simp only [c, after, List.foldl_append, List.foldl_cons]
    have hhandle : (stmt.wireName, sql) ∈ c.named := by
      obtain ⟨ns, hnamed, -⟩ := after_numbers (call.run (after (.fresh st flags) before)).2 rest
      rw [hc, hnamed]
      exact List.mem_append_left _ hissues.named
    have hserver : (stmt.wireName, kept.sql) ∈ c.named := by
      rw [Conn.named, ← hlog, namedIn_append]
      exact List.mem_append_left _ (hkept fs (statementName_ne stmt.idx) hs)
    exact (Prod.mk.inj (List.inj_on_of_nodup_map hnodup hserver hhandle rfl)).2

/-- A statement is prepared, another is rejected, and two are prepared together; the last call is
dropped when its Parse is written. -/
def preparing : List Call :=
  [⟨.prepareTyped "SELECT" [], none⟩, ⟨.prepareTyped "FAIL" [], none⟩,
    ⟨.prepareBatch ["BEGIN", "SELECT"], none⟩, ⟨.prepareTyped "COMMIT" [], some ⟨0, 1⟩⟩]

theorem handles_hold_preparing :
    (after connected preparing).session.statements "_zero_s_4" = some ⟨"SELECT", false⟩ ∧
    (after connected preparing).session.statements "_zero_s_5" = some ⟨"COMMIT", false⟩ ∧
    ∀ kept, (after connected preparing).session.statements "_zero_s_4" = some kept →
      kept.sql = "SELECT" := by
  have hissued : (withCut none (ZeroPostgres.Conn.prepareBatch ["BEGIN", "SELECT"])
      (after connected (preparing.take 2))).1 = .ok [⟨3, [], none⟩, ⟨4, [], none⟩] := by
    decide +kernel
  have hissues : Issues (after connected (preparing.take 2))
      ⟨.prepareBatch ["BEGIN", "SELECT"], none⟩ ⟨4, [], none⟩ "SELECT" :=
    .prepareBatch (i := 1) hissued rfl rfl
  have hname : PreparedStatement.wireName ⟨4, [], none⟩ = "_zero_s_4" := by decide +kernel
  have hholds := @handles_hold SyncedRequest.rejectingFail
    (Reference.rejecting_noCopy _ _) Reference.start ⟨false, false⟩ (by decide) (fun _ _ => rfl)
    preparing
  rw [show Conn.fresh Reference.start ⟨false, false⟩ = connected from rfl] at hholds
  obtain ⟨hsession, -, hholds⟩ := hholds
  refine ⟨by decide +kernel, by decide +kernel, fun kept hkept => ?_⟩
  rw [hsession, ← hname] at hkept
  exact hholds (preparing.take 2) ⟨.prepareBatch ["BEGIN", "SELECT"], none⟩
    [⟨.prepareTyped "COMMIT" [], some ⟨0, 1⟩⟩] ⟨4, [], none⟩ "SELECT" rfl hissues _
    List.prefix_rfl kept hkept

end Tokio

end ZeroPostgres
