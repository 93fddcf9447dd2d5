import ZeroPostgres.State.BatchRuns

/-!
# Statements of a batch

`BatchPrepareStateMachine` fills in its statements by a running index that moves on at
RowDescription and NoData. The index counts the replies that have been read, so the i-th
statement is filled in from the i-th reply (`exchange_statements`), and the replies are those
that a conformant server gives (`feed_describing`).
-/

namespace ZeroPostgres.BatchPrepareStateMachine

/-! ### Replies without an error -/

/-- What a server says of a statement: the types of its parameters, and the payload of its
RowDescription when it returns rows. -/
structure Description where
  paramOids : List Oid
  rowDescPayload : Option Bytes
deriving DecidableEq, Repr

/-- The statement with index `idx` once it is described. -/
def Description.statement (d : Description) (idx : Nat) : PreparedStatement :=
  ⟨idx, d.paramOids, d.rowDescPayload⟩

/-- The reply to the Parse and the Describe of a statement. -/
inductive Describes : Description → List RawMessage → Prop where
  | rows {p o c oids} : Is .parseComplete p → o.type = .parameterDescription →
      ParameterDescription.parse o.payload = .ok oids → Is .rowDescription c →
      Describes ⟨oids, some c.payload⟩ [p, o, c]
  | noData {p o c oids} : Is .parseComplete p → o.type = .parameterDescription →
      ParameterDescription.parse o.payload = .ok oids → Is .noData c →
      Describes ⟨oids, none⟩ [p, o, c]

/-- The replies to the statements of a batch. -/
inductive Described : List Description → List RawMessage → Prop where
  | nil : Described [] []
  | cons {d ds r rs} : Describes d r → Described ds rs → Described (d :: ds) (r ++ rs)

/-! ### The request -/

/-- The Parse and the Describe of each statement. -/
def requests (stmts : List PreparedStatement) (queries : List String) : List Frontend :=
  (List.zipWith (fun (stmt : PreparedStatement) query =>
    [.parse stmt.wireName query [], .describeStatement stmt.wireName]) stmts queries).flatten

/-- The indices go on from one statement to the next. -/
private theorem statements_cons (idx : Nat) (d : Description) (ds : List Description) :
    (d :: ds).mapIdx (fun i d => d.statement (idx + i)) =
      d.statement idx :: ds.mapIdx fun i d => d.statement (idx + 1 + i) := by
  rw [List.mapIdx_cons]
  congr 2
  funext i d
  congr 1
  omega

theorem numberStatements_requests {idx : Nat} {queries : List String} {ds : List Description}
    (h : ds.length = queries.length) :
    (numberStatements idx queries).1 =
      requests (ds.mapIdx fun i d => d.statement (idx + i)) queries := by
  induction queries generalizing idx ds with
  | nil =>
    rw [List.length_nil, List.length_eq_zero_iff] at h
    rw [h]
    rfl
  | cons query queries ih =>
    cases ds with
    | nil => cases h
    | cons d ds =>
      rw [statements_cons, numberStatements, ih (Nat.succ.inj h)]
      rfl

theorem numberStatements_isExtended (idx : Nat) (queries : List String) :
    ∀ f ∈ (numberStatements idx queries).1, f.isExtended = true := by
  induction queries generalizing idx with
  | nil => simp [numberStatements]
  | cons query queries ih =>
    intro f hf
    simp only [numberStatements, List.mem_cons] at hf
    rcases hf with rfl | rfl | hf
    · rfl
    · rfl
    · exact ih (idx + 1) f hf

/-! ### Runs -/

variable {m : BatchPrepareStateMachine} {b : BufferSet} {status : TransactionStatus}
  {done todo : List PreparedStatement}

/-- The machine with the statements it has filled in and those it has not. The running index
counts the former. -/
structure Filled (done todo : List PreparedStatement) (m : BatchPrepareStateMachine) : Prop where
  processing : m.state = .processing
  statements : m.statements = done ++ todo
  current : m.currentStmt = done.length

/-- Changing the current statement changes the first that is not filled in. -/
theorem Filled.modify {stmt : PreparedStatement} (h : Filled done (stmt :: todo) m)
    (f : PreparedStatement → PreparedStatement) :
    m.statements.modify m.currentStmt f = done ++ f stmt :: todo := by
  have hmodify (done : List PreparedStatement) :
      (done ++ stmt :: todo).modify done.length f = done ++ f stmt :: todo := by
    induction done with
    | nil => rfl
    | cons stmt' done ih => rw [List.cons_append, List.length_cons, List.modify_succ_cons, ih]; rfl
  rw [h.statements, h.current, hmodify]

/-- The machine reads the reply to a statement and has the statement filled in. -/
theorem run_describes {d : Description} {r : List RawMessage} (hr : Describes d r) {idx : Nat}
    (h : Filled done (⟨idx, [], none⟩ :: todo) m) (b : BufferSet) :
    ∃ m' b', Filled (done ++ [d.statement idx]) todo m' ∧
      ∀ rest, runMachine step (r ++ rest) (m, b) = runMachine step rest (m', b') := by
  have hlength (stmt : PreparedStatement) : (done ++ [stmt]).length = done.length + 1 := by simp
  have hparsed {p : RawMessage} (hp : Is .parseComplete p) :
      step (m, b.load p) = (.ok .readMessage, (m, b.load p)) := by
    rw [step_started (by simp [Started, h.processing])]
    simp [hp.1, MsgType.isAsync, h.processing, handleProcessing, Act.bind_run]
  have hparameters {p o : RawMessage} {oids : List Oid} (ht : o.type = .parameterDescription)
      (ho : ParameterDescription.parse o.payload = .ok oids) :
      ∃ m₁, Filled done (⟨idx, oids, none⟩ :: todo) m₁ ∧
        step (m, (b.load p).load o) = (.ok .readMessage, (m₁, (b.load p).load o)) := by
    refine ⟨{ m with statements := done ++ ⟨idx, oids, none⟩ :: todo },
      ⟨h.processing, rfl, h.current⟩, ?_⟩
    rw [step_started (by simp [Started, h.processing])]
    simp [ht, ho, MsgType.isAsync, h.processing, handleProcessing, Act.bind_run, updateCurrent,
      h.modify]
  cases hr with
  | @rows p o c oids hp ht ho hc =>
    obtain ⟨m₁, h₁, hstep⟩ := hparameters (p := p) ht ho
    refine ⟨{ m₁ with
        statements := done ++ ⟨idx, oids, some c.payload⟩ :: todo
        currentStmt := m₁.currentStmt + 1 }, ((b.load p).load o).load c,
      ⟨h₁.processing, by simp [Description.statement], by rw [hlength, ← h₁.current]⟩,
      fun rest => ?_⟩
    have hcolumns : step (m₁, ((b.load p).load o).load c) = (.ok .readMessage, ({ m₁ with
        statements := done ++ ⟨idx, oids, some c.payload⟩ :: todo
        currentStmt := m₁.currentStmt + 1 }, ((b.load p).load o).load c)) := by
      rw [step_started (by simp [Started, h₁.processing])]
      simp [hc.1, MsgType.isAsync, h₁.processing, handleProcessing, Act.bind_run, updateCurrent,
        nextStatement, h₁.modify]
    calc runMachine step ([p, o, c] ++ rest) (m, b)
        = runMachine step ([o, c] ++ rest) (m, b.load p) := runMachine_read (hparsed hp)
      _ = runMachine step ([c] ++ rest) (m₁, (b.load p).load o) := runMachine_read hstep
      _ = _ := runMachine_read hcolumns
  | @noData p o c oids hp ht ho hc =>
    obtain ⟨m₁, h₁, hstep⟩ := hparameters (p := p) ht ho
    refine ⟨{ m₁ with currentStmt := m₁.currentStmt + 1 }, ((b.load p).load o).load c,
      ⟨h₁.processing, by simp [Description.statement, h₁.statements], by
        rw [hlength, ← h₁.current]⟩, fun rest => ?_⟩
    have hnone : step (m₁, ((b.load p).load o).load c) = (.ok .readMessage,
        ({ m₁ with currentStmt := m₁.currentStmt + 1 }, ((b.load p).load o).load c)) := by
      rw [step_started (by simp [Started, h₁.processing])]
      simp [hc.1, MsgType.isAsync, h₁.processing, handleProcessing, Act.bind_run, nextStatement]
    calc runMachine step ([p, o, c] ++ rest) (m, b)
        = runMachine step ([o, c] ++ rest) (m, b.load p) := runMachine_read (hparsed hp)
      _ = runMachine step ([c] ++ rest) (m₁, (b.load p).load o) := runMachine_read hstep
      _ = _ := runMachine_read hnone

/-- By induction on the statements: the reply to each goes to the first that is not filled in. -/
theorem run_described {queries : List String} {ds : List Description} {idx : Nat}
    {r : List RawMessage} (hlen : ds.length = queries.length) (hr : Described ds r)
    (h : Filled done (numberStatements idx queries).2 m) (b : BufferSet) :
    ∃ m' b', m'.state = .processing ∧
      m'.statements = done ++ ds.mapIdx (fun i d => d.statement (idx + i)) ∧
      ∀ rest, runMachine step (r ++ rest) (m, b) = runMachine step rest (m', b') := by
  induction queries generalizing ds idx r done m b with
  | nil =>
    rw [List.length_nil, List.length_eq_zero_iff] at hlen
    subst hlen
    cases hr
    exact ⟨m, b, h.processing, h.statements, fun rest => rfl⟩
  | cons query queries ih =>
    cases hr with
    | nil => cases hlen
    | cons hd hr =>
      obtain ⟨m₁, b₁, h₁, hrun⟩ := run_describes hd h b
      obtain ⟨m', b', hstate, hstatements, hrun'⟩ := ih (Nat.succ.inj hlen) hr h₁ b₁
      refine ⟨m', b', hstate, ?_, fun rest => ?_⟩
      · rw [hstatements, statements_cons, List.append_assoc]
        rfl
      · rw [List.append_assoc, hrun, hrun']

/-- The exchange of a batch ends at ReadyForQuery with every statement filled in. -/
theorem exchange_described {queries : List String} {ds : List Description}
    {ms r : List RawMessage} {z : RawMessage} (hlen : ds.length = queries.length)
    (hr : Described ds r) (hz : IsReady status z) (hms : core ms = r ++ [z])
    (hasync : ∀ m ∈ ms, m.isAsync = true → m.wellFormed = true) (b : BufferSet) (startIdx : Nat) :
    ∃ m' b' tail, exchange step ms (startAt b queries startIdx) = (.ok ⟨none, [], tail⟩, (m', b')) ∧
      core tail = [] ∧ m'.statements = ds.mapIdx fun i d => d.statement (startIdx + i) := by
  have hfirst : step (startAt b queries startIdx) = (.ok .writeAndReadMessage,
      ({ (startAt b queries startIdx).1 with state := .processing },
        (startAt b queries startIdx).2)) :=
    rfl
  have hstart : Filled [] (numberStatements startIdx queries).2
      { (startAt b queries startIdx).1 with state := .processing } := ⟨rfl, rfl, rfl⟩
  obtain ⟨m, b₁, hstate, hstatements, hrun⟩ := run_described hlen hr hstart
    (startAt b queries startIdx).2
  have hall := (hrun [z]).trans (run_ready hstate hz)
  rw [← hms] at hall
  obtain ⟨body, z', tail, -, htail, -, hskip⟩ :=
    runMachine_core passesAsync (by simp [Started]) hasync rfl rfl hall
  refine ⟨{ m with transactionStatus := status, state := .finished }, b₁.load z, tail, ?_, htail,
    hstatements⟩
  simp only [exchange, Act.bind_run, hfirst]
  exact hskip

/-! ### Conformant servers -/

theorem Describes.of_preparing {r : List RawMessage} (h : Preparing none r) :
    ∃ d, Describes d r := by
  cases h with
  | @done p o c returnsRows hp ho hc =>
    obtain ⟨oids, hoids⟩ := parse_of_wellFormed (o := ParameterDescription.parse o.payload) (by
      simpa [RawMessage.wellFormed, ho.1] using ho.2)
    cases returnsRows with
    | true => exact ⟨_, .rows hp ho.1 hoids hc⟩
    | false => exact ⟨_, .noData hp ho.1 hoids hc⟩

/-- A conformant server describes each statement in its turn, when none of them fails. -/
theorem feed_described {P : Peer} {st : P.State} (hm : (P.session st).mode = .ready)
    (queries : List String) (idx : Nat) :
    P.AnswersWith st (numberStatements idx queries).1 fun error r =>
      errorsIn r = error.toList ∧
        (error = none → ∃ ds, ds.length = queries.length ∧ Described ds r) := by
  induction queries generalizing st idx with
  | nil => exact .inr ⟨none, ⟨rfl, fun _ => ⟨[], rfl, .nil⟩⟩, hm⟩
  | cons query queries ih =>
    have hframes : (numberStatements idx (query :: queries)).1 =
        [.parse (PreparedStatement.wireName ⟨idx, [], none⟩) query [],
          .describeStatement (PreparedStatement.wireName ⟨idx, [], none⟩)] ++
          (numberStatements (idx + 1) queries).1 := rfl
    have hone : P.AnswersWith st [.parse (PreparedStatement.wireName ⟨idx, [], none⟩) query [],
        .describeStatement (PreparedStatement.wireName ⟨idx, [], none⟩)] Preparing :=
      feed_prepare hm
    unfold Peer.AnswersWith Peer.Answers at hone ih ⊢
    rw [hframes, P.feed_append, core_append]
    rcases hone with hc | ⟨error, hprep, hmode⟩
    · exact .inl (feed_closed _ hc).2
    · cases error with
      | none =>
        refine (ih hmode (idx + 1)).imp_right ?_
        rintro ⟨error, ⟨herrs, hds⟩, hmode'⟩
        refine ⟨error, ⟨?_, fun hnone => ?_⟩, hmode'⟩
        · rw [errorsIn_append, hprep.consists.errors, herrs]
          rfl
        · obtain ⟨ds, hlen, hr⟩ := hds hnone
          obtain ⟨d, hd⟩ := Describes.of_preparing hprep
          exact ⟨d :: ds, congrArg _ hlen, .cons hd hr⟩
      | some e =>
        have hext : ∀ f ∈ (numberStatements (idx + 1) queries).1, f.isExtended = true :=
          numberStatements_isExtended _ _
        refine (feed_skipping hmode hext).imp_right ?_
        rintro ⟨hnil, hmode'⟩
        rw [hnil, List.append_nil]
        exact ⟨some e, ⟨hprep.consists.errors, by simp⟩, hmode'⟩

/-- The statements of a batch that a conformant server answers without an error. -/
theorem feed_statements {P : Peer} {st : P.State} (hready : (P.session st).mode = .ready)
    (b : BufferSet) (queries : List String) (startIdx : Nat)
    (hopen : (P.session (P.feed st (startAt b queries startIdx).2.writeBuffer).2).mode ≠ .closed)
    (herrs : errorsIn (P.feed st (startAt b queries startIdx).2.writeBuffer).1 = []) :
    ∃ (ds : List Description) (m' : BatchPrepareStateMachine) (b' : BufferSet)
        (tail : List RawMessage), ds.length = queries.length ∧
      exchange step (P.feed st (startAt b queries startIdx).2.writeBuffer).1
          (startAt b queries startIdx) =
        (.ok ⟨none, [], tail⟩, (m', b')) ∧
      m'.statements = ds.mapIdx fun i d => d.statement (startIdx + i) := by
  have hsynced := feed_synced (feed_described hready queries startIdx)
  have hasync := P.feed_asyncs st (startAt b queries startIdx).2.writeBuffer
  have hbuf : (startAt b queries startIdx).2.writeBuffer =
      (numberStatements startIdx queries).1 ++ [.sync] := rfl
  unfold Peer.Answers at hsynced
  rw [← hbuf] at hsynced
  generalize P.feed st (startAt b queries startIdx).2.writeBuffer = fed at *
  obtain ⟨-, error, sync, status, r₁, r₂, hcore, ⟨herrs₁, hds⟩, hsync⟩ :=
    hsynced.resolve_left hopen
  have hall : error.toList ++ sync.toList = [] := by
    rw [← herrs₁, ← hsync.errorsIn_eq, ← errorsIn_append, ← hcore, errorsIn_core, herrs]
  obtain rfl : error = none := by cases error <;> simp at hall ⊢
  obtain rfl : sync = none := by cases sync <;> simp at hall ⊢
  obtain ⟨ds, hlen, hr⟩ := hds rfl
  cases hsync with
  | ready hz =>
    obtain ⟨m', b', tail, hrun, -, hstatements⟩ :=
      exchange_described hlen hr hz hcore hasync b startIdx
    exact ⟨ds, m', b', tail, hlen, hrun, hstatements⟩

/-! ### Attribution -/

/-- A batch whose indices are all below `2^64` and whose statements are all described returns one
statement for each query, with the index under which its Parse was sent and with what the reply in
its place says. -/
theorem statements_attributed (b : BufferSet) {queries : List String} {startIdx : UInt64}
    {status : TransactionStatus} {ds : List Description} {ms r : List RawMessage} {z : RawMessage}
    (hidx : startIdx.toNat + queries.length ≤ 2 ^ 64) (hlen : ds.length = queries.length)
    (hr : Described ds r) (hz : IsReady status z) (hms : core ms = r ++ [z])
    (hasync : ∀ m ∈ ms, m.isAsync = true → m.wellFormed = true) :
    ∃ (m₀ m' : BatchPrepareStateMachine) (b₀ b' : BufferSet) (tail : List RawMessage),
      new b queries startIdx = .ok (m₀, b₀) ∧
      exchange step ms (m₀, b₀) = (.ok ⟨none, [], tail⟩, (m', b')) ∧
      core tail = [] ∧ m'.statements.length = queries.length ∧
      b₀.writeBuffer = requests m'.statements queries ++ [.sync] ∧
      ∀ (i : Nat) (d : Description), ds[i]? = some d →
        m'.statements[i]? = some ⟨startIdx.toNat + i, d.paramOids, d.rowDescPayload⟩ := by
  obtain ⟨m', b', tail, hrun, htail, hstatements⟩ :=
    exchange_described hlen hr hz hms hasync b startIdx.toNat
  refine ⟨_, m', _, b', tail, new_eq b hidx, hrun, htail, ?_, ?_, fun i d hd => ?_⟩
  · rw [hstatements, List.length_mapIdx, hlen]
  · rw [hstatements, ← numberStatements_requests hlen]
  · rw [hstatements, List.getElem?_mapIdx, hd]
    rfl

/-- The reply to a statement with a parameter and rows and to one with neither, with a notice in
front of it, between its messages and behind it. -/
def twoDescriptions : List Description := [⟨[23], some [0, 0]⟩, ⟨[], none⟩]

def twoReplies : List RawMessage :=
  [⟨.parseComplete, []⟩, ⟨.parameterDescription, [0, 1, 0, 0, 0, 23]⟩, ⟨.rowDescription, [0, 0]⟩,
    ⟨.parseComplete, []⟩, ⟨.parameterDescription, [0, 0]⟩, ⟨.noData, []⟩]

def notice : RawMessage := ⟨.noticeResponse, [0]⟩

def ready : RawMessage := ⟨.readyForQuery, [73]⟩

def noticedReply : List RawMessage :=
  notice :: twoReplies.take 2 ++ notice :: twoReplies.drop 2 ++ [ready, notice]

theorem twoReplies_described : Described twoDescriptions twoReplies := by
  have hrows : Describes ⟨[23], some [0, 0]⟩ (twoReplies.take 3) :=
    .rows (by decide) rfl (by decide) (c := ⟨.rowDescription, [0, 0]⟩) (by decide)
  have hnone : Describes ⟨[], none⟩ (twoReplies.drop 3) :=
    .noData (by decide) rfl (by decide) (by decide)
  exact .cons hrows (.cons hnone .nil)

theorem statements_attributed_two :
    ∃ (m₀ m' : BatchPrepareStateMachine) (b₀ b' : BufferSet) (tail : List RawMessage),
      new .new ["SELECT $1", "BEGIN"] 7 = .ok (m₀, b₀) ∧
      exchange step noticedReply (m₀, b₀) = (.ok ⟨none, [], tail⟩, (m', b')) ∧
      core tail = [] ∧ m'.statements.length = ["SELECT $1", "BEGIN"].length ∧
      b₀.writeBuffer = requests m'.statements ["SELECT $1", "BEGIN"] ++ [.sync] ∧
      ∀ (i : Nat) (d : Description), twoDescriptions[i]? = some d →
        m'.statements[i]? = some ⟨UInt64.toNat 7 + i, d.paramOids, d.rowDescPayload⟩ :=
  statements_attributed .new (by decide) rfl twoReplies_described
    (by decide : IsReady .idle ready) (by decide) (by decide)

/-- With the largest start index the second of two statements has no index, and the server's
replies find no machine. -/
theorem statements_overflow :
    Described twoDescriptions twoReplies ∧ IsReady .idle ready ∧
      core noticedReply = twoReplies ++ [ready] ∧
      (∀ m ∈ noticedReply, m.isAsync = true → m.wellFormed = true) ∧
      ¬∃ (m₀ m' : BatchPrepareStateMachine) (b₀ b' : BufferSet) (tail : List RawMessage),
        new .new ["SELECT $1", "BEGIN"] 18446744073709551615 = .ok (m₀, b₀) ∧
        exchange step noticedReply (m₀, b₀) = (.ok ⟨none, [], tail⟩, (m', b')) := by
  refine ⟨twoReplies_described, by decide, by decide, by decide, ?_⟩
  rintro ⟨m₀, m', b₀, b', tail, hnew, -⟩
  rw [new_halt .new (by decide)] at hnew
  cases hnew

end ZeroPostgres.BatchPrepareStateMachine
