import ZeroPostgres.Conn.Commit

/-!
# What transactions leave behind

`transaction` ends a block that is still open with a COMMIT or a ROLLBACK. Where the closure has
left messages unread, that query reads them first, and may take a ReadyForQuery among them for its
own. `transaction_clear_iff` says what has to hold when the closure returns for the transaction to
leave its connection marked broken, or the server outside any block and owing nothing.
-/

namespace ZeroPostgres

namespace Conn

open Act

variable {P : Peer} {K α : Type}

/-! ### The query that ends a block -/

/-- The server has answered a query. -/
def sessionAfter (sql : String) (c : Conn P K) : Session :=
  P.session (P.respond c.stream.peer (.query sql)).2

theorem reply_query (sql : String) (c : Conn P K) :
    c.reply [.query sql] = (P.respond c.stream.peer (.query sql)).1 := by
  rw [reply, P.feed_cons, P.feed_nil, List.append_nil]

/-- The server ends a block with the query: if it reads messages after the reply, it is in none. -/
def ClosesBlock (sql : String) (c : Conn P K) : Prop :=
  (sessionAfter sql c).mode = .ready → (sessionAfter sql c).status = .idle

instance (sql : String) (c : Conn P K) : Decidable (ClosesBlock sql c) :=
  inferInstanceAs (Decidable (_ → _))

/-- A server that reads messages after a Query did so before. -/
theorem ready_of_sessionAfter (hP : P.NoCopy) {sql : String} {c : Conn P K} (hc : c.Regular)
    (hopen : (sessionAfter sql c).mode = .ready) : c.session.mode = .ready := by
  have hcopy := hP c.stream.peer (.query sql) hc.mode
  have hconf := P.conforms c.stream.peer (.query sql)
  have hm : (P.session c.stream.peer).mode ≠ .copying := hc.mode
  show (P.session c.stream.peer).mode = .ready
  unfold sessionAfter at hopen
  generalize P.session (P.respond c.stream.peer (.query sql)).2 = s' at *
  generalize core (P.respond c.stream.peer (.query sql)).1 = r at hconf
  cases hconf with
  | query h | queryError h | queryFatal h | queryCopy h | success h | error h | fatal h => exact h
  | discard => exact hopen
  | discardFatal => cases hopen
  | copying h => exact absurd h hm
  | closed => exact hopen

section Queries

variable [Driver K]

/-- Marked broken, or the server is in no transaction block, owes nothing and reads messages. -/
def Clear (c : Conn P K) : Prop := c.isBroken = true ∨ c.Aligned ∧ c.session.status = .idle

instance (c : Conn P K) : Decidable (Clear c) := inferInstanceAs (Decidable (_ ∨ _))

/-- A connection in use takes an exchange, and it is in use when the exchange is through. -/
structure Recovers (K : Type) [Driver K] : Prop where
  ready : ∀ (broken : Bool) (k : K), Driver.isBroken broken k = false →
    Driver.exchangeReady broken k = true
  through : ∀ marks : Bool × K, Driver.isBroken marks.1 marks.2 = false →
    Driver.isBroken (ended (begun marks)).1 (ended (begun marks)).2 = false

/-- A broken connection is clear. -/
theorem clear_of_broken {K : Type} [Client K] {c : Conn P K} (h : c.broken = true) : Clear c := by
  refine .inl ?_
  rw [isBroken, h]
  exact Client.isBroken_marked _

/-- A query on a connection on which nothing waits leaves it clear, if it returns, where the server
ends its block with it. -/
theorem queryDrop_clear_iff {K : Type} [Client K] (hK : Recovers K) (hP : P.NoCopy) (sql : String)
    {c : Conn P K} (hc : c.Regular) (hcut : c.stream.cut = none) (hb : c.isBroken = false)
    (hu : c.unread = []) (hret : (queryDrop sql c).1 ≠ .halt) :
    Clear (queryDrop sql c).2 ↔ ClosesBlock sql c := by
  have husable : (Driver.refuses K && c.isBroken) = false := by rw [hb, Bool.and_false]
  by_cases hopen : (sessionAfter sql c).mode = .ready
  · -- the session goes on, and the reply has been read
    have hready := ready_of_sessionAfter hP hc hopen
    have hnot : (sessionAfter sql c).mode ≠ .closed := by simp [hopen]
    obtain ⟨error, hqueried, -⟩ := (queryDrop_open hP sql hc ⟨hu, hready⟩ hcut
      (hK.ready c.broken c.flags hb) husable hnot).at
    have hb' : (queryDrop sql c).2.isBroken = false := by
      have hthrough := hK.through c.marks hb
      rw [← hqueried.marks] at hthrough
      exact hthrough
    have hsession : (queryDrop sql c).2.session = sessionAfter sql c := hqueried.session
    simp [Clear, ClosesBlock, hb', hqueried.aligned, hsession, hopen]
  · refine iff_of_true ?_ fun h => absurd h hopen
    have hends := (queryInner_ends hP sql hc hu).at
    unfold queryDrop query at hret ⊢
    rw [guarded_eq, if_neg (by simp [husable]), markBroken] at hret ⊢
    generalize queryInner sql DropHandler c = q at hends hret ⊢
    obtain ⟨o, c'⟩ := q
    rcases hends with rfl | ⟨e, rfl, hbreaks⟩ | ⟨error, hqueried, -⟩
    · exact absurd rfl hret
    · dsimp only
      rw [if_pos hbreaks]
      exact clear_of_broken rfl
    · have hmode := hqueried.aligned.2
      rw [hqueried.session] at hmode
      exact absurd hmode hopen

end Queries

/-! ### Transactions -/

/-- What a closure given to `transaction` returns, and the connection as it leaves it. -/
def closureReturns [Driver K] (f : Transaction → Act Error (Conn P K) α) (c : Conn P K) :
    Option (Except Error α × Conn P K) :=
  match beginTransaction c with
  | (.ok tx, c₀) =>
    match f tx c₀ with
    | (.ok a, c₁) => some (.ok a, c₁)
    | (.err e, c₁) => some (.error e, c₁)
    | (.halt, _) => none
  | _ => none

/-- The query that ends the block after a closure. -/
def closing : Except Error α → String
  | .ok _ => "COMMIT"
  | .error _ => "ROLLBACK"

/-- When a closure has returned, the connection is broken, or nothing waits on it: the client takes
itself to be in a block, and the server ends it with the query that follows, or the client takes
itself to be in none, and so does the server. -/
def Resolved [Driver K] (result : Except Error α) (c : Conn P K) : Prop :=
  c.isBroken = true ∨ c.unread = [] ∧ if c.inTransaction then ClosesBlock (closing result) c
    else c.session.mode = .ready ∧ c.transactionStatus = c.session.status

instance [Driver K] (result : Except Error α) (c : Conn P K) : Decidable (Resolved result c) :=
  inferInstanceAs (Decidable (_ ∨ _ ∧ ite _ _ _))

/-- A transaction that is not nested, with a closure that leaves the connection resolved. -/
def ResolvesBlock [Driver K] (f : Transaction → Act Error (Conn P K) α) (c : Conn P K) : Prop :=
  c.isBroken = true ∨ c.inTransaction = false ∧ ∀ r ∈ closureReturns f c, Resolved r.1 r.2

instance [Driver K] (f : Transaction → Act Error (Conn P K) α) (c : Conn P K) :
    Decidable (ResolvesBlock f c) :=
  inferInstanceAs (Decidable (_ ∨ _ ∧ ∀ r ∈ closureReturns f c, Resolved r.1 r.2))

/-- If a query follows the closure on a connection in use, nothing waits to be read by it. -/
def NothingWaits [Driver K] (c : Conn P K) : Prop :=
  c.isBroken = true ∨ c.inTransaction = false ∨ c.unread = []

instance [Driver K] (c : Conn P K) : Decidable (NothingWaits c) :=
  inferInstanceAs (Decidable (_ ∨ _))

/-- The closure leaves nothing to the query that ends the block. -/
def LeavesNothing [Driver K] (f : Transaction → Act Error (Conn P K) α) (c : Conn P K) : Prop :=
  ∀ r ∈ closureReturns f c, NothingWaits r.2

instance [Driver K] (f : Transaction → Act Error (Conn P K) α) (c : Conn P K) :
    Decidable (LeavesNothing f c) :=
  inferInstanceAs (Decidable (∀ r ∈ closureReturns f c, NothingWaits r.2))

/-- A connection between two operations, with the status of its server. -/
structure InOrder (c : Conn P K) : Prop where
  regular : c.Regular
  aligned : c.Aligned
  cut : c.stream.cut = none
  status : c.transactionStatus = c.session.status

/-- A resolved connection leaves nothing to a query that follows. -/
theorem Resolved.nothingWaits [Driver K] {result : Except Error α} {c : Conn P K}
    (h : Resolved result c) : NothingWaits c :=
  h.imp_right fun h => .inr h.1

section Clears

variable [Client K]

/-- A broken connection stays broken through a query. -/
theorem queryDrop_broken (sql : String) {c : Conn P K} (hb : c.isBroken = true) :
    (queryDrop sql c).2.isBroken = true := by
  rcases Client.refuses_or_marked (K := K) with hrefuses | hmarked
  · unfold queryDrop query
    rw [guarded_eq, if_pos (by rw [hrefuses, hb]; rfl)]
    exact hb
  · have hbroken : c.broken = true := (hmarked c.broken c.flags).symm.trans hb
    have htalks := ((queryDrop_talks sql).rel c).broken hbroken
    rw [isBroken, htalks]
    exact Client.isBroken_marked _

omit [Client K] in
/-- The status of a client that is in no block. -/
theorem inTransaction_eq_false {c : Conn P K} :
    c.inTransaction = false ↔ c.transactionStatus = .idle := by
  unfold inTransaction
  cases c.transactionStatus <;> decide

/-- What follows a closure leaves the connection clear where the closure has left it resolved. -/
theorem endTransaction_clear_iff (hK : Recovers K) (hP : P.NoCopy) (result : Except Error α)
    {c : Conn P K} (hc : c.Regular) (hcut : c.stream.cut = none) (hreads : NothingWaits c)
    (hret : (endTransaction result c).1 ≠ .halt) :
    Clear (endTransaction result c).2 ↔ Resolved result c := by
  have hquery : c.inTransaction = true → (queryDrop (closing result) c).1 ≠ .halt ∧
      (endTransaction result c).2 = (queryDrop (closing result) c).2 := by
    intro hin
    cases result with
    | ok a =>
      rw [endTransaction_ok, if_pos hin, Act.bind_run] at hret ⊢
      simp only [closing]
      generalize (queryDrop "COMMIT" c : Outcome Error (List Callback) × Conn P K) = q at hret ⊢
      rcases q with ⟨_ | _ | _, c'⟩
      · exact ⟨by simp, rfl⟩
      · exact ⟨by simp, rfl⟩
      · exact absurd rfl hret
    | error e =>
      rw [endTransaction_error, if_pos hin, Act.bind_run, Act.attempt_run] at hret ⊢
      simp only [closing]
      generalize (queryDrop "ROLLBACK" c : Outcome Error (List Callback) × Conn P K) = q at hret ⊢
      rcases q with ⟨_ | _ | _, c'⟩
      · exact ⟨by simp, rfl⟩
      · exact ⟨by simp, rfl⟩
      · exact absurd rfl hret
  cases hin : c.inTransaction with
  | false =>
    have hsame : (endTransaction result c).2 = c := by
      cases result with
      | ok a => rw [endTransaction_ok, hin, if_neg (by simp)]
      | error e => rw [endTransaction_error, hin, if_neg (by simp)]
    have hidle : c.transactionStatus = .idle := inTransaction_eq_false.mp hin
    rw [hsame, Resolved, hin, if_neg (by simp), hidle, ← and_assoc]
    exact or_congr_right (and_congr_right' eq_comm)
  | true =>
    obtain ⟨hreturns, hstate⟩ := hquery hin
    rw [hstate, Resolved, hin, if_pos rfl]
    cases hb : c.isBroken with
    | true => exact iff_of_true (.inl (queryDrop_broken _ hb)) (.inl rfl)
    | false =>
      have hu : c.unread = [] := by simpa [NothingWaits, hb, hin] using hreads
      rw [queryDrop_clear_iff hK hP _ hc hcut hb hu hreturns]
      simp [hu]

variable {f : Transaction → Act Error (Conn P K) α} {c : Conn P K}

omit [Client K] in
theorem idle_of_status (hc : InOrder c) (hin : c.inTransaction = false) :
    c.session.status = .idle := by
  rw [← hc.status]
  exact inTransaction_eq_false.mp hin

/-- A server in no block that refuses a BEGIN is in none. -/
theorem Queried.begin_idle (hP : P.NoCopy) {e : ServerError} {c' : Conn P K}
    (h : Queried "BEGIN" (some e) c c') (hidle : c.session.status = .idle) :
    c'.session.status = .idle := by
  rw [h.session]
  have hidle : (P.session c.stream.peer).status = .idle := hidle
  rcases @SimpleQueryStateMachine.respond_query_cases P hP _ "BEGIN" h.ready with
    hclosed | ⟨ms, status, z, hr, -, -, -, hans⟩ | ⟨e', status, -, hfails, hsession, -⟩
  · have hmode := h.aligned.2
    rw [h.session, hclosed] at hmode
    cases hmode
  · have herrors := h.errors
    rw [reply_query, ← errorsIn_core, hr, hans.ends.2] at herrors
    cases herrors
  · rw [hsession]
    rw [P.effect_begin, hidle] at hfails
    cases hfails
    rfl

/-- A BEGIN that fails leaves the connection clear. -/
theorem queryDrop_refused (hP : P.NoCopy) (hc : InOrder c) (hin : c.inTransaction = false)
    {e : Error} {c' : Conn P K} (h : queryDrop "BEGIN" c = (.err e, c')) : Clear c' := by
  cases hb : c.isBroken with
  | true =>
    have hbroken := queryDrop_broken "BEGIN" hb
    rw [h] at hbroken
    exact .inl hbroken
  | false =>
    have hends := (queryInner_ends hP "BEGIN" hc.regular hc.aligned.1).at
    unfold queryDrop query at h
    rw [guarded_eq, if_neg (by rw [hb, Bool.and_false]; simp), markBroken] at h
    generalize queryInner "BEGIN" DropHandler c = q at hends h
    obtain ⟨o, c₁⟩ := q
    rcases hends with rfl | ⟨e₁, rfl, hbreaks⟩ | ⟨error, hqueried, hends⟩
    · cases h
    · dsimp only at h
      rw [if_pos hbreaks] at h
      cases h
      exact clear_of_broken rfl
    rcases hends with ⟨-, calls, rfl⟩ | ⟨e₁, rfl, rfl⟩
    · cases h
    cases hfatal : e₁.isFatal with
    | true =>
      dsimp only at h
      rw [if_pos (show (Error.server e₁).isConnectionBroken = true from hfatal)] at h
      cases h
      exact clear_of_broken rfl
    | false =>
      dsimp only at h
      rw [if_neg (by simp [hfatal])] at h
      cases h
      exact .inr ⟨hqueried.aligned, hqueried.begin_idle hP (idle_of_status hc hin)⟩

/-- A transaction whose BEGIN does not return a block: nothing has changed, or the server has
refused the block and is in none. -/
theorem beginTransaction_clear_iff (hP : P.NoCopy) (hc : InOrder c) {e : Error}
    {c' : Conn P K} (h : beginTransaction c = (.err e, c')) :
    Clear c' ↔ c.isBroken = true ∨ c.inTransaction = false := by
  unfold beginTransaction at h
  rw [Act.bind_run, Act.get_run] at h
  dsimp only at h
  cases hin : c.inTransaction with
  | true =>
    rw [hin, if_pos rfl] at h
    cases h
    have hstatus : c.session.status ≠ .idle := by
      intro hidle
      rw [inTransaction, hc.status, hidle] at hin
      cases hin
    simp [Clear, hstatus]
  | false =>
    rw [hin, if_neg (by simp)] at h
    refine iff_of_true ?_ (.inr rfl)
    have hdrop : queryDrop "BEGIN" c = (.err e, c') := by
      rw [Act.bind_run] at h
      generalize (queryDrop "BEGIN" c : Outcome Error (List Callback) × Conn P K) = q at h ⊢
      rcases q with ⟨_ | _ | _, c''⟩
      · cases h
      · cases h
        rfl
      · cases h
    exact queryDrop_refused hP hc hin hdrop

omit [Client K] in
/-- A block that begins is not nested. -/
theorem beginTransaction_ok [Driver K] {tx : Transaction} {c' : Conn P K}
    (h : beginTransaction c = (.ok tx, c')) :
    c.inTransaction = false ∧ ∃ calls, queryDrop "BEGIN" c = (.ok calls, c') := by
  unfold beginTransaction at h
  rw [Act.bind_run, Act.get_run] at h
  dsimp only at h
  cases hin : c.inTransaction with
  | true =>
    rw [hin, if_pos rfl] at h
    cases h
  | false =>
    rw [hin, if_neg (by simp)] at h
    obtain ⟨calls, c₁, hdrop, hrest⟩ := Act.bind_eq_ok_iff.mp h
    cases hrest
    exact ⟨rfl, calls, hdrop⟩

/-- A transaction that returns, with a closure that leaves nothing to the query behind it. -/
theorem transaction_clear (hK : Recovers K) (hP : P.NoCopy) (hf : ∀ tx, Keeps Talks (f tx))
    (hc : InOrder c) (hret : (transaction f c).1 ≠ .halt)
    (hreads : c.isBroken = true ∨ LeavesNothing f c) :
    Clear (transaction f c).2 ↔ ResolvesBlock f c := by
  unfold LeavesNothing at hreads
  unfold ResolvesBlock
  unfold closureReturns at hreads ⊢
  unfold transaction at hret ⊢
  rw [Act.bind_run] at hret ⊢
  rcases hbegin : (beginTransaction c : Outcome Error Transaction × Conn P K) with
    ⟨tx | e | _, c₀⟩
  · have htalks : Talks c c₀ := Talks.of_run beginTransaction_talks hbegin
    have hf := (hf tx).rel c₀
    rw [hbegin] at hret hreads
    dsimp only at hret hreads ⊢
    rw [Act.bind_run, Act.attempt_run] at hret ⊢
    obtain ⟨hin, calls, hdrop⟩ := beginTransaction_ok hbegin
    -- a client that does not refuse a broken connection does not repair it either
    have hbroken {c' : Conn P K} (htalks' : Talks c₀ c') (hb : c.isBroken = true) :
        c'.isBroken = true := by
      rcases Client.refuses_or_marked (K := K) with hrefuses | hmarked
      · refine absurd (.inl ?_) (queryDrop_log hdrop).1
        rw [hrefuses, hb]
        rfl
      · have hbroken : c.broken = true := (hmarked c.broken c.flags).symm.trans hb
        rw [isBroken, htalks'.broken (htalks.broken hbroken)]
        exact Client.isBroken_marked _
    have ended (result : Except Error α) {c₁ : Conn P K} (htalks' : Talks c₀ c₁)
        (hret : (endTransaction result c₁).1 ≠ .halt)
        (hreads : c.isBroken = true ∨ ∀ r ∈ some (result, c₁), NothingWaits r.2) :
        Clear (endTransaction result c₁).2 ↔ c.isBroken = true ∨ c.inTransaction = false ∧
          ∀ r ∈ some (result, c₁), Resolved r.1 r.2 := by
      have hall := IsTrans.trans _ _ _ htalks htalks'
      have hreads : NothingWaits c₁ := by
        rcases hreads with hb | hreads
        · exact .inl (hbroken htalks' hb)
        · exact hreads _ rfl
      rw [endTransaction_clear_iff hK hP result (hall.regular hP hc.regular) (hall.cut hc.cut)
        hreads hret]
      cases hb : c.isBroken with
      | true => exact iff_of_true (.inl (hbroken htalks' hb)) (.inl rfl)
      | false => simp [hin]
    generalize f tx c₀ = q at hf hret hreads ⊢
    rcases q with ⟨a | e | _, c₁⟩
    · exact ended (.ok a) hf hret hreads
    · exact ended (.error e) hf hret hreads
    · exact absurd rfl hret
  · dsimp only
    rw [beginTransaction_clear_iff hP hc hbegin]
    simp
  · rw [hbegin] at hret
    exact absurd rfl hret

/-- A closure that resolves its block leaves the connection clear, and where it leaves nothing to
the query behind it, no other does. -/
theorem transaction_clears (hK : Recovers K) (hP : P.NoCopy) (hf : ∀ tx, Keeps Talks (f tx))
    (hc : InOrder c) (hret : (transaction f c).1 ≠ .halt) :
    (ResolvesBlock f c → Clear (transaction f c).2) ∧
      (LeavesNothing f c → Clear (transaction f c).2 → ResolvesBlock f c) := by
  refine ⟨fun h => ?_, fun hreads => (transaction_clear hK hP hf hc hret (.inr hreads)).mp⟩
  have hreads : c.isBroken = true ∨ LeavesNothing f c :=
    h.imp_right fun h r hr => (h.2 r hr).nothingWaits
  exact (transaction_clear hK hP hf hc hret hreads).mpr h

end Clears

end Conn

open Act Conn

theorem Sync.recovers : Recovers SyncFlags := ⟨fun _ _ _ => rfl, fun _ => id⟩

theorem Tokio.recovers : Recovers TokioFlags := by
  refine ⟨fun broken k h => ?_, fun ⟨broken, k⟩ h => ?_⟩
  · have h : (broken || k.exchangeInProgress || k.scopePending) = false := h
    simp only [Bool.or_eq_false_iff] at h
    simp [Driver.exchangeReady, h.1]
  · have h : (broken || k.exchangeInProgress || k.scopePending) = false := h
    simp only [Bool.or_eq_false_iff] at h
    simp [Driver.isBroken, ended, begun, Driver.beginFlags, Driver.finishFlags, h.1.1, h.2]

/-- A transaction that returns leaves its connection marked broken, or the server outside any block
and owing nothing, where it is not nested and its closure resolves the block; and, where nothing
waits to be read by the query that ends the block, nowhere else. -/
theorem transaction_clear_iff {P : Peer} {α : Type} (hP : P.NoCopy) :
    (∀ (f : Transaction → Act Error (Sync.Conn P) α) (c : Sync.Conn P),
      (∀ tx, Keeps Talks (f tx)) → InOrder c → (transaction f c).1 ≠ .halt →
        (ResolvesBlock f c → Clear (transaction f c).2) ∧
        (LeavesNothing f c → Clear (transaction f c).2 → ResolvesBlock f c)) ∧
    (∀ (f : Transaction → Act Error (Tokio.Conn P) α) (c : Tokio.Conn P),
      (∀ tx, Keeps Talks (f tx)) → InOrder c → (transaction f c).1 ≠ .halt →
        (ResolvesBlock f c → Clear (transaction f c).2) ∧
        (LeavesNothing f c → Clear (transaction f c).2 → ResolvesBlock f c)) :=
  ⟨fun _ _ hf hc hret => transaction_clears Sync.recovers hP hf hc hret,
    fun _ _ hf hc hret => transaction_clears Tokio.recovers hP hf hc hret⟩

/-- A server on which every statement returns one row. -/
def oneRow : Peer := Reference.peer ⟨fun _ => .select 1, fun _ => false, fun _ => false⟩

/-- A handler that refuses every row. -/
def refusesRows : Handler where
  accept calls :=
    match calls.getLast? with
    | some (.row ..) => .error (.decode "row")
    | _ => .ok ()

/-- A closure that executes one statement and returns its error, with a handler of its own. -/
def executing (handler : Handler) (_ : Transaction) : Closure (Client.Op SyncFlags) Unit :=
  .call (Sync.Operation.exec (.sql "SELECT") .none handler) fun
    | some (.error e) => .ret (.error e)
    | _ => .ret (.ok ())

/-- A fresh connection to that server. -/
def oneRowConnection : Sync.Conn oneRow := .fresh Reference.start {}

theorem oneRowConnection_inOrder : InOrder oneRowConnection :=
  ⟨⟨by simp [oneRowConnection, Conn.fresh], by decide +kernel⟩, by decide +kernel, rfl, rfl⟩

theorem transaction_clear_select :
    Clear (runTransaction (executing DropHandler) oneRowConnection).2 ∧
      ResolvesBlock (fun tx => (executing DropHandler tx).run) oneRowConnection := by
  have hresolves : ResolvesBlock (fun tx => (executing DropHandler tx).run) oneRowConnection := by
    decide +kernel
  have hleaves : LeavesNothing (fun tx => (executing DropHandler tx).run) oneRowConnection := by
    decide +kernel
  have h := (transaction_clear_iff (Reference.peer_noCopy _)).1
    (fun tx => (executing DropHandler tx).run) oneRowConnection
    (fun tx => (executing DropHandler tx).run_talks) oneRowConnection_inOrder (by decide +kernel)
  exact ⟨h.1 hresolves, h.2 hleaves (h.1 hresolves)⟩

/-- The handler fails on the row, the transaction rolls back, and the ROLLBACK takes the rest of
the statement's reply for its own. The connection is in use, with the reply to the ROLLBACK
unread. -/
theorem transaction_leaves_reply :
    (runTransaction (executing refusesRows) oneRowConnection).1 = .err (.decode "row") ∧
    (runTransaction (executing refusesRows) oneRowConnection).2.unread.map (·.type) =
      [.commandComplete, .readyForQuery] ∧
    ¬ Clear (runTransaction (executing refusesRows) oneRowConnection).2 := by
  refine ⟨by decide +kernel, by decide +kernel, ?_⟩
  decide +kernel

end ZeroPostgres
