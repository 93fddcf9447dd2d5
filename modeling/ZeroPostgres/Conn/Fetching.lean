import ZeroPostgres.Conn.Calls
import ZeroPostgres.Conn.Sync
import ZeroPostgres.Conn.Tokio
import ZeroPostgres.Conn.Transaction
import ZeroPostgres.Server.Cursor

/-!
# Fetching from a portal

The loop of `lowlevel_execute` reads the answer to one fetch. It is apart from the query machines,
and has no case for EmptyQueryResponse. `portal_fetches_exact` says of a run of fetches that what
the calls return and hand to their handlers is the result of the portal, chunk by chunk, exactly
when no fetch is answered with EmptyQueryResponse and no limit is too large for the server.
-/

namespace ZeroPostgres

variable {P : Peer} {K : Type} {α β : Type}

/-! ### Reading one answer -/

namespace Conn

/-- The same connection, with messages taken off it. -/
structure Taken (c c' : Conn P K) : Prop where
  peer : c'.stream.peer = c.stream.peer
  cut : c'.stream.cut = none
  marks : c'.marks = c.marks

theorem Taken.trans {c c' c'' : Conn P K} (h : Taken c c') (h' : Taken c' c'') : Taken c c'' :=
  ⟨h'.peer.trans h.peer, h'.cut, h'.marks.trans h.marks⟩

/-- A loop that passes over asynchronous messages hands the next other message to its body. The
induction is on the messages that wait. -/
theorem readMessages_unread {body : β → RawMessage → Act Error (Conn P K) (Flow β α)}
    (hskip : ∀ b m, m.isAsync = true → body b m = pure (.next b)) {c : Conn P K}
    (hcut : c.stream.cut = none) {m : RawMessage} {ms : List RawMessage}
    (h : c.unread = m :: ms) (b : β) :
    ∃ c' : Conn P K, Taken c c' ∧ c'.unread = ms ∧ readMessages body b c =
      (body b m >>= resume receive starve body c'.stream.inbound) c' := by
  obtain ⟨l, hl⟩ : ∃ l, c.stream.inbound = l := ⟨_, rfl⟩
  induction l generalizing c with
  | nil =>
    simp only [unread, hl, core_nil] at h
    cases h
  | cons x l ih =>
    have hreceive : receive x c = (.ok (), c.take x) := by
      simp [receive, awaitPoint, hcut, Act.bind_run]
    have htaken : Taken c (c.take x) := ⟨rfl, hcut, rfl⟩
    have hin : (c.take x).stream.inbound = l := by simp [take, hl]
    have hrun : readMessages body b c =
        (body b x >>= resume receive starve body l) (c.take x) := by
      rw [readMessages, hl, readLoop_cons, Act.bind_run, hreceive]
    rw [unread, hl] at h
    cases hx : x.isAsync with
    | true =>
      rw [core_cons_async hx] at h
      obtain ⟨c', htaken', hunread, hrest⟩ := ih (c := c.take x) hcut (by rw [unread, hin, h]) hin
      refine ⟨c', htaken.trans htaken', hunread, ?_⟩
      rw [hrun, hskip b x hx, ← hrest, readMessages, hin]
      rfl
    | false =>
      rw [core_cons_sync hx] at h
      obtain ⟨rfl, htail⟩ := List.cons.inj h
      exact ⟨c.take x, htaken, by rw [unread, hin, htail], by rw [hrun, hin]⟩

/-- A message after which the loop goes on. -/
theorem readMessages_next {body : β → RawMessage → Act Error (Conn P K) (Flow β α)}
    (hskip : ∀ b m, m.isAsync = true → body b m = pure (.next b)) {c : Conn P K}
    (hcut : c.stream.cut = none) {m : RawMessage} {ms : List RawMessage}
    (h : c.unread = m :: ms) {b b' : β} (hround : body b m = pure (.next b')) :
    ∃ c' : Conn P K, Taken c c' ∧ c'.unread = ms ∧
      readMessages body b c = readMessages body b' c' := by
  obtain ⟨c', htaken, hunread, hrun⟩ := readMessages_unread hskip hcut h b
  refine ⟨c', htaken, hunread, ?_⟩
  rw [hrun, hround]
  rfl

/-- A call that the handler accepts. -/
theorem callHandler_accepted {handler : Handler} {calls : List Callback} {call : Callback}
    (h : handler.accept (calls ++ [call]) = .ok ()) :
    (callHandler handler calls call : Act Error (Conn P K) _) = pure (calls ++ [call]) := by
  unfold callHandler
  simp only [Handler.call, h]
  rfl

variable [Driver K]

theorem lowlevelExecuteRound_skips (handler : Handler) (s : ExecuteState) (m : RawMessage)
    (hm : m.isAsync = true) :
    (lowlevelExecuteRound handler s m : Act Error (Conn P K) _) = pure (.next s) := if_pos hm

/-- The calls that begin a result. -/
def startCalls : Option (List FieldDescription) → List Callback
  | some cols => [.resultStart cols]
  | none => []

/-- The calls of some rows. -/
def rowCalls (columns : Option (List FieldDescription)) (rows : List DataRow) : List Callback :=
  match columns with
  | some cols => rows.map (.row cols)
  | none => []

/-- The calls that end a result. -/
def endCalls : FetchEnd → List Callback
  | .complete tag => [.resultEnd tag]
  | _ => []

/-- The calls that a chunk makes. -/
def callsOf (k : Chunk) : List Callback :=
  startCalls k.columns ++ rowCalls k.columns k.rows ++ endCalls k.ending

/-- The description of the portal comes first. -/
theorem round_header {handler : Handler} {columns : Option (List FieldDescription)}
    {m : RawMessage} (hm : Describes columns m) (hw : Willing handler [] (startCalls columns)) :
    ∃ buffer, (∀ cols ∈ columns, RowDescription.parse buffer = .ok cols) ∧
      (lowlevelExecuteRound handler ⟨[], []⟩ m : Act Error (Conn P K) _) =
        pure (.next ⟨buffer, startCalls columns⟩) := by
  cases columns with
  | some cols =>
    obtain ⟨htype, hparse⟩ := hm
    refine ⟨m.payload, by simpa using hparse, ?_⟩
    have haccept : handler.accept ([] ++ [.resultStart cols]) = .ok () := hw.1
    unfold lowlevelExecuteRound
    rw [if_neg (by simp [RawMessage.isAsync, htype, MsgType.isAsync])]
    simp only [htype, hparse]
    funext c
    rw [Act.bind_run, Act.lift_run]
    dsimp only
    rw [callHandler_accepted haccept]
    rfl
  | none =>
    have htype : m.type = .noData := hm.1
    refine ⟨[], by simp, ?_⟩
    unfold lowlevelExecuteRound
    rw [if_neg (by simp [RawMessage.isAsync, htype, MsgType.isAsync])]
    simp only [htype]
    rfl

/-- A row is read with the columns that were announced. -/
theorem round_row {handler : Handler} {buffer : Bytes} {calls : List Callback}
    {cols : List FieldDescription} {row : DataRow} {m : RawMessage}
    (hcols : RowDescription.parse buffer = .ok cols) (hm : IsRow m row)
    (haccept : handler.accept (calls ++ [.row cols row]) = .ok ()) :
    (lowlevelExecuteRound handler ⟨buffer, calls⟩ m : Act Error (Conn P K) _) =
      pure (.next ⟨buffer, calls ++ [.row cols row]⟩) := by
  obtain ⟨htype, hparse⟩ := hm
  unfold lowlevelExecuteRound
  rw [if_neg (by simp [RawMessage.isAsync, htype, MsgType.isAsync])]
  simp only [htype, hparse, hcols]
  funext c
  rw [Act.bind_run, Act.lift_run]
  dsimp only
  rw [Act.bind_run, Act.lift_run]
  dsimp only
  rw [callHandler_accepted haccept]
  rfl

/-- The loop hands the rows to the handler in order. The induction is on them. -/
theorem readMessages_rows {handler : Handler} {buffer : Bytes} {cols : List FieldDescription}
    (hcols : RowDescription.parse buffer = .ok cols) {rows : List DataRow}
    {ms rest : List RawMessage} (hrows : List.Forall₂ IsRow ms rows) {calls : List Callback}
    (hw : Willing handler calls (rows.map (.row cols))) {c : Conn P K}
    (hcut : c.stream.cut = none) (h : c.unread = ms ++ rest) :
    ∃ c' : Conn P K, Taken c c' ∧ c'.unread = rest ∧
      readMessages (lowlevelExecuteRound handler) ⟨buffer, calls⟩ c =
        readMessages (lowlevelExecuteRound handler) ⟨buffer, calls ++ rows.map (.row cols)⟩ c' := by
  induction hrows generalizing calls c with
  | nil => exact ⟨c, ⟨rfl, hcut, rfl⟩, h, by rw [List.map_nil, List.append_nil]⟩
  | @cons m row ms rows hm _ ih =>
    obtain ⟨haccept, hw⟩ := hw
    obtain ⟨c₁, htaken, hunread, hrun⟩ := readMessages_next (lowlevelExecuteRound_skips handler)
      hcut h (round_row hcols hm haccept)
    obtain ⟨c', htaken', hunread', hrun'⟩ := ih hw htaken.cut hunread
    refine ⟨c', htaken.trans htaken', hunread', ?_⟩
    rw [hrun, hrun', List.map_cons, List.append_assoc, List.singleton_append]

/-- What a fetch comes to: the end of its answer decides. -/
def fetched (k : Chunk) (last : RawMessage) : Outcome Error (Bool × List Callback) :=
  match k.ending with
  | .suspended => .ok (true, callsOf k)
  | .complete _ => .ok (false, callsOf k)
  | .empty => .err (unexpected "Unexpected message in execute: " last.type)
  | .error e => .err (.server e)

/-- The last message of the answer ends the loop. -/
theorem round_last {handler : Handler} (buffer : Bytes) {calls : List Callback} {k : Chunk}
    {m : RawMessage} (hm : k.ending.IsSent m)
    (hcalls : calls = startCalls k.columns ++ rowCalls k.columns k.rows)
    (hw : Willing handler calls (endCalls k.ending)) (ms : List RawMessage) (c : Conn P K) :
    ∃ c' : Conn P K, c'.stream = c.stream ∧
      ((fetched k m).isOk = true → c'.marks = ended c.marks) ∧
      (lowlevelExecuteRound handler ⟨buffer, calls⟩ m >>=
        resume receive starve (lowlevelExecuteRound handler) ms) c = (fetched k m, c') := by
  have hround : (lowlevelExecuteRound handler ⟨buffer, calls⟩ m : Act Error (Conn P K) _) = _ :=
    if_neg (by
      obtain ⟨columns, rows, ending⟩ := k
      cases ending <;> simp [RawMessage.isAsync, hm.1, MsgType.isAsync])
  rw [hround]
  obtain ⟨columns, rows, ending⟩ := k
  obtain rfl : calls = startCalls columns ++ rowCalls columns rows := hcalls
  cases ending with
  | suspended =>
    have htype : m.type = .portalSuspended := hm.1
    refine ⟨{ c with flags := Driver.finishFlags c.flags }, rfl, fun _ => rfl, ?_⟩
    simp only [htype, fetched, callsOf, endCalls, List.append_nil]
    rfl
  | complete tag =>
    obtain ⟨htype, hparse⟩ := hm
    refine ⟨{ c with flags := Driver.finishFlags c.flags }, rfl, fun _ => rfl, ?_⟩
    simp only [htype, hparse, fetched, callsOf, endCalls]
    rw [Act.bind_run, Act.bind_run, Act.lift_run]
    dsimp only
    rw [callHandler_accepted hw.1]
    rfl
  | empty =>
    have htype : m.type = .emptyQueryResponse := hm.1
    refine ⟨c, rfl, fun h => Bool.noConfusion h, ?_⟩
    simp only [htype, fetched]
    rfl
  | error e =>
    obtain ⟨htype, hparse⟩ := hm
    refine ⟨c, rfl, fun h => Bool.noConfusion h, ?_⟩
    simp only [htype, hparse, fetched]
    rfl

/-- The loop on the answer to one fetch. -/
theorem readMessages_answer {handler : Handler} {k : Chunk} {header last : RawMessage}
    {rows : List RawMessage} (hk : k.Carried header rows last)
    (hnil : k.columns = none → k.rows = [])
    (hw : Willing handler [] (callsOf k)) {c : Conn P K} (hcut : c.stream.cut = none)
    (h : c.unread = header :: (rows ++ [last])) :
    ∃ c' : Conn P K, c'.stream.peer = c.stream.peer ∧ c'.stream.cut = none ∧ c'.unread = [] ∧
      ((fetched k last).isOk = true → c'.marks = ended c.marks) ∧
      readMessages (lowlevelExecuteRound handler) ⟨[], []⟩ c = (fetched k last, c') := by
  rw [callsOf, willing_append, willing_append] at hw
  obtain ⟨⟨hstart, hrows⟩, hend⟩ := hw
  obtain ⟨buffer, hbuffer, hround⟩ := round_header (P := P) (K := K) hk.header hstart
  obtain ⟨c₁, htaken₁, hunread₁, hrun₁⟩ := readMessages_next (lowlevelExecuteRound_skips handler)
    hcut h hround
  -- portals without columns have no rows
  obtain ⟨c₂, htaken₂, hunread₂, hrun₂⟩ : ∃ c₂ : Conn P K, Taken c₁ c₂ ∧ c₂.unread = [last] ∧
      readMessages (lowlevelExecuteRound handler) ⟨buffer, startCalls k.columns⟩ c₁ =
        readMessages (lowlevelExecuteRound handler)
          ⟨buffer, startCalls k.columns ++ rowCalls k.columns k.rows⟩ c₂ := by
    have hcarried := hk.rows
    cases hcolumns : k.columns with
    | some cols =>
      rw [hcolumns] at hrows
      exact readMessages_rows (hbuffer cols hcolumns) hcarried hrows htaken₁.cut hunread₁
    | none =>
      rw [hnil hcolumns] at hcarried
      cases hcarried
      exact ⟨c₁, ⟨rfl, htaken₁.cut, rfl⟩, hunread₁, rfl⟩
  obtain ⟨c₃, htaken₃, hunread₃, hrun₃⟩ := readMessages_unread (lowlevelExecuteRound_skips handler)
    htaken₂.cut hunread₂ ⟨buffer, startCalls k.columns ++ rowCalls k.columns k.rows⟩
  obtain ⟨c', hstream, hmarks, hlast⟩ := round_last buffer hk.last rfl hend
    c₃.stream.inbound c₃
  have htaken := (htaken₁.trans htaken₂).trans htaken₃
  refine ⟨c', ?_, ?_, ?_, fun hok => ?_, ?_⟩
  · rw [hstream]
    exact htaken.peer
  · rw [hstream]
    exact htaken.cut
  · rw [unread, hstream]
    exact hunread₃
  · rw [hmarks hok, htaken.marks]
  · rw [hrun₁, hrun₂, hrun₃, hlast]

/-- A fetch that the server answers with a chunk. -/
theorem lowlevelExecuteInner_answer {portal : String} {maxRows : Nat} {handler : Handler}
    {k : Chunk} {header last : RawMessage} {rows : List RawMessage}
    (hk : k.Carried header rows last) (hnil : k.columns = none → k.rows = [])
    (hw : Willing handler [] (callsOf k)) {c : Conn P K} (hcut : c.stream.cut = none)
    (hready : c.exchangeReady = true) (hunread : c.unread = [])
    (hcore : core (P.feed c.stream.peer (fetchRequest portal maxRows)).1 =
      header :: (rows ++ [last])) :
    ∃ c' : Conn P K, c'.stream.peer = (P.feed c.stream.peer (fetchRequest portal maxRows)).2 ∧
      c'.stream.cut = none ∧ c'.unread = [] ∧
      ((fetched k last).isOk = true → c'.marks = ended (begun c.marks)) ∧
      lowlevelExecuteInner portal maxRows handler c = (fetched k last, c') := by
  let c₁ : Conn P K := { c with
    flags := Driver.beginFlags c.flags
    bufferSet := { c.bufferSet with writeBuffer := fetchRequest portal maxRows }
    stream := c.stream.sendAll (fetchRequest portal maxRows) }
  have hrun : lowlevelExecuteInner portal maxRows handler c =
      readMessages (lowlevelExecuteRound handler) ⟨[], []⟩ c₁ := by
    have hready' : Driver.exchangeReady c.broken c.flags = true := hready
    simp [lowlevelExecuteInner, setWriteBuffer, beginExchange, ensureExchangeReady, exchangeReady,
      hready', send, writeAll, flushStream, awaitPoint, hcut, Act.bind_run, c₁, fetchRequest]
  have hunread₁ : c₁.unread = header :: (rows ++ [last]) := by
    have hin : c₁.stream.inbound = _ :=
      Stream.sendAll_inbound c.stream (fetchRequest portal maxRows)
    rw [unread, hin, core_append, hcore, show core c.stream.inbound = [] from hunread,
      List.nil_append]
  obtain ⟨c', hpeer, hcut', hunread', hmarks, hread⟩ := readMessages_answer hk hnil hw
    (c := c₁) ((Stream.sendAll_cut ..).trans hcut) hunread₁
  refine ⟨c', ?_, hcut', hunread', hmarks, hrun.trans hread⟩
  rw [hpeer]
  exact Stream.sendAll_peer ..

/-! ### Runs of fetches -/

/-- A way to fetch from a portal: it runs `lowlevel_execute_inner`, and may mark the connection
broken when that fails. -/
def FetchesFrom (portal : String)
    (fetch : Nat → Handler → Act Error (Conn P K) (Bool × List Callback)) : Prop :=
  ∀ maxRows handler c, (Driver.refuses K && c.isBroken) = false →
    (fetch maxRows handler c).1 = (lowlevelExecuteInner portal maxRows handler c).1 ∧
    ((lowlevelExecuteInner portal maxRows handler c).1.isOk = true →
      (fetch maxRows handler c).2 = (lowlevelExecuteInner portal maxRows handler c).2)

theorem lowlevelExecuteInner_fetches (portal : String) :
    FetchesFrom portal (lowlevelExecuteInner portal : _ → _ → Act Error (Conn P K) _) :=
  fun _ _ _ _ => ⟨rfl, fun _ => rfl⟩

theorem lowlevelExecute_fetches (portal : String) :
    FetchesFrom portal (lowlevelExecute portal : _ → _ → Act Error (Conn P K) _) := by
  intro maxRows handler c husable
  rw [lowlevelExecute, guarded_eq, husable, if_neg Bool.false_ne_true, markBroken]
  generalize lowlevelExecuteInner portal maxRows handler c = r
  rcases r with ⟨_ | _ | _, c'⟩
  · exact ⟨rfl, fun _ => rfl⟩
  · exact ⟨rfl, fun h => Bool.noConfusion h⟩
  · exact ⟨rfl, fun _ => rfl⟩

/-- The fetches of a program that stops at the first error. -/
def fetchAll (fetch : Nat → Handler → Act Error (Conn P K) (Bool × List Callback)) :
    List (Nat × Handler) → Conn P K → List (Outcome Error (Bool × List Callback))
  | [], _ => []
  | (maxRows, handler) :: fs, c =>
    match fetch maxRows handler c with
    | (.ok r, c') => .ok r :: fetchAll fetch fs c'
    | (o, _) => [o]

end Conn

/-- The rows among some calls. -/
def rowsIn (calls : List Callback) : List DataRow :=
  calls.filterMap fun
    | .row _ row => some row
    | _ => none

/-- The rows that a fetch delivered. -/
def delivered : Outcome Error (Bool × List Callback) → List DataRow
  | .ok (_, calls) => rowsIn calls
  | _ => []

/-- What fetches return, chunk by chunk: the rows of the chunk, no more than the limit, and whether
the server suspended the portal; or its error, behind which nothing is fetched. -/
inductive FetchedExactly :
    List (Nat × Handler) → List Chunk → List (Outcome Error (Bool × List Callback)) → Prop where
  | nil : FetchedExactly [] [] []
  | fetched {maxRows handler k calls fs ks os} : k.ending.isError = false → rowsIn calls = k.rows →
      (maxRows ≠ 0 → k.rows.length ≤ maxRows) → FetchedExactly fs ks os →
      FetchedExactly ((maxRows, handler) :: fs) (k :: ks)
        (.ok (decide (k.ending = .suspended), calls) :: os)
  | failed {f fs k e} : k.ending = .error e →
      FetchedExactly (f :: fs) [k] [.err (.server e)]

/-- The result of a portal is fetched exactly: chunk by chunk, and over all fetches in order, each
row once, up to those that are left; none are once a fetch has said that there are no more. -/
structure FetchesExactly (cursor : Cursor) (fs : List (Nat × Handler)) (ks : List Chunk)
    (os : List (Outcome Error (Bool × List Callback))) : Prop where
  each : FetchedExactly fs ks os
  inOrder : ∃ rest, cursor.left = os.flatMap delivered ++ rest ∧
    ((∃ calls, .ok (false, calls) ∈ os) → rest = [])

/-- No fetch is answered with EmptyQueryResponse, and none gets more rows than a limit that is
negative on the wire. -/
def Fetchable (fs : List (Nat × Handler)) (ks : List Chunk) : Prop :=
  (∀ k ∈ ks, k.ending ≠ .empty) ∧
  ∀ p ∈ fs.zip ks, 2 ^ 31 ≤ p.1.1 → p.2.ending.isError = false → p.2.rows.length ≤ p.1.1

/-- A limit that the server sees bounds the chunk. -/
theorem Cursor.Answers.within {cursor cursor' : Cursor} {maxRows : Nat} {k : Chunk}
    (h : cursor.Answers maxRows k cursor') (he : k.ending.isError = false) (hpos : maxRows ≠ 0)
    (hlarge : 2 ^ 31 ≤ maxRows → k.rows.length ≤ maxRows) : k.rows.length ≤ maxRows := by
  by_cases hlimit : 2 ^ 31 ≤ maxRows
  · exact hlarge hlimit
  · have hsome : rowLimit maxRows = some maxRows := by
      unfold rowLimit
      rw [if_neg (by omega)]
    cases h with
    | suspended hn hle =>
      rw [hsome] at hn
      cases hn
      exact hle
    | complete hle => exact hle maxRows hsome
    | command | empty => exact Nat.zero_le _
    | rowsError | error => cases he

/-- What is delivered chunk by chunk is the result in order. The induction is on the run. -/
theorem FetchedExactly.inOrder {portal : String} {st : P.State} {cursor cursor' : Cursor}
    {fs : List (Nat × Handler)} {ks : List Chunk} {os : List (Outcome Error (Bool × List Callback))}
    (h : FetchedExactly fs ks os)
    (hserves : P.Fetched portal st cursor (fs.map Prod.fst) ks cursor') :
    ∃ rest, cursor.left = os.flatMap delivered ++ rest ∧
      ((∃ calls, .ok (false, calls) ∈ os) → rest = []) := by
  induction h generalizing st cursor with
  | nil => exact ⟨cursor.left, rfl, fun ⟨_, h⟩ => absurd h List.not_mem_nil⟩
  | @fetched maxRows handler k calls fs ks os he hrows _ _ ih =>
    cases hserves with
    | failed _ _ hfails => rw [he] at hfails; cases hfails
    | @next _ _ cursor₁ _ _ _ _ _ _ _ _ ha _ _ _ hrest =>
      obtain ⟨rest, hleft, hcomplete⟩ := ih hrest
      refine ⟨rest, ?_, fun ⟨calls', hmem⟩ => ?_⟩
      · rw [ha.left_eq, hleft, List.flatMap_cons, List.append_assoc]
        simp [delivered, hrows]
      · rcases List.mem_cons.mp hmem with heq | hmem
        · have hs : k.ending ≠ .suspended := by
            intro hs
            simp [hs] at heq
          have hnil := ha.left_nil hs he
          rw [hleft] at hnil
          exact (List.append_eq_nil_iff.mp hnil).2
        · exact hcomplete ⟨calls', hmem⟩
  | failed =>
    refine ⟨cursor.left, rfl, fun ⟨_, h⟩ => ?_⟩
    cases List.mem_singleton.mp h

namespace Conn

theorem rowsIn_callsOf {k : Chunk} (hnil : k.columns = none → k.rows = []) :
    rowsIn (callsOf k) = k.rows := by
  obtain ⟨columns, rows, ending⟩ := k
  cases columns with
  | none =>
    obtain rfl : rows = [] := hnil rfl
    cases ending <;> rfl
  | some cols =>
    have hrows : rowsIn (rows.map (.row cols)) = rows := by
      simp [rowsIn, List.filterMap_map]
    simp only [callsOf, rowsIn, List.filterMap_append] at hrows ⊢
    rw [show rowCalls (some cols) rows = rows.map (.row cols) from rfl, hrows]
    cases ending <;> simp [startCalls, endCalls]

/-- A client takes the next call when an exchange is through. -/
def Reusable (K : Type) [Driver K] : Prop :=
  ∀ marks : Bool × K, (Driver.refuses K && Driver.isBroken marks.1 marks.2) = false →
    Driver.exchangeReady marks.1 marks.2 = true →
    (Driver.refuses K && Driver.isBroken (ended (begun marks)).1 (ended (begun marks)).2) = false ∧
      Driver.exchangeReady (ended (begun marks)).1 (ended (begun marks)).2 = true

/-- A connection on which fetches can begin. -/
structure Fetches [Driver K] (c : Conn P K) : Prop where
  usable : (Driver.refuses K && c.isBroken) = false
  ready : c.exchangeReady = true
  cut : c.stream.cut = none
  unread : c.unread = []

variable [Driver K]

/-- What a fetch returns and where it leaves the connection. -/
theorem fetch_answer {portal : String}
    {fetch : Nat → Handler → Act Error (Conn P K) (Bool × List Callback)}
    (hK : Reusable K) (hfetch : FetchesFrom portal fetch) {maxRows : Nat} {handler : Handler}
    {cursor cursor' : Cursor} {k : Chunk} {header last : RawMessage} {rows : List RawMessage}
    (ha : cursor.Answers maxRows k cursor') (hk : k.Carried header rows last)
    (hw : Willing handler [] (callsOf k)) {c : Conn P K} (hc : c.Fetches)
    (hcore : core (P.feed c.stream.peer (fetchRequest portal maxRows)).1 =
      header :: (rows ++ [last])) :
    ∃ c' : Conn P K, fetch maxRows handler c = (fetched k last, c') ∧
      ((fetched k last).isOk = true → c'.Fetches ∧
        c'.stream.peer = (P.feed c.stream.peer (fetchRequest portal maxRows)).2) := by
  obtain ⟨c', hpeer, hcut, hunread, hmarks, hrun⟩ :=
    lowlevelExecuteInner_answer hk ha.rows_nil hw hc.cut hc.ready hc.unread hcore
  obtain ⟨hfst, hsnd⟩ := hfetch maxRows handler c hc.usable
  rw [hrun] at hfst hsnd
  refine ⟨(fetch maxRows handler c).2, Prod.ext hfst rfl, fun hok => ?_⟩
  obtain ⟨husable, hready⟩ := hK c.marks hc.usable hc.ready
  rw [← hmarks hok] at husable hready
  rw [hsnd hok]
  exact ⟨⟨husable, hready, hcut, hunread⟩, hpeer⟩

omit [Driver K] in
theorem fetched_ok {k : Chunk} (last : RawMessage) (he : k.ending.isError = false)
    (hempty : k.ending ≠ .empty) :
    fetched k last = .ok (decide (k.ending = .suspended), callsOf k) := by
  obtain ⟨columns, rows, ending⟩ := k
  cases ending with
  | suspended | complete => rfl
  | empty => exact absurd rfl hempty
  | error => cases he

omit [Driver K] in
theorem fetchable_cons {maxRows : Nat} {handler : Handler} {fs : List (Nat × Handler)} {k : Chunk}
    {ks : List Chunk} : Fetchable ((maxRows, handler) :: fs) (k :: ks) ↔ k.ending ≠ .empty ∧
      (2 ^ 31 ≤ maxRows → k.ending.isError = false → k.rows.length ≤ maxRows) ∧
      Fetchable fs ks := by
  unfold Fetchable
  rw [List.forall_mem_cons, List.zip_cons_cons, List.forall_mem_cons]
  exact ⟨fun ⟨⟨h₁, h₂⟩, h₃, h₄⟩ => ⟨h₁, h₃, h₂, h₄⟩, fun ⟨h₁, h₃, h₂, h₄⟩ => ⟨⟨h₁, h₂⟩, h₃, h₄⟩⟩

/-- A run of fetches returns what it should, unless one is answered with EmptyQueryResponse or gets
too many rows. The induction is on the run. -/
theorem fetchAll_exact_iff {portal : String}
    {fetch : Nat → Handler → Act Error (Conn P K) (Bool × List Callback)}
    (hK : Reusable K) (hfetch : FetchesFrom portal fetch) {cursor cursor' : Cursor}
    {fs : List (Nat × Handler)} {ks : List Chunk} {c : Conn P K} (hc : c.Fetches)
    (hserves : P.Fetched portal c.stream.peer cursor (fs.map Prod.fst) ks cursor')
    (haccept : ∀ p ∈ fs.zip ks, Willing p.1.2 [] (callsOf p.2)) :
    FetchedExactly fs ks (fetchAll fetch fs c) ↔ Fetchable fs ks := by
  generalize hlimits : fs.map Prod.fst = limits at hserves
  generalize hst : c.stream.peer = st at hserves
  induction hserves generalizing fs c with
  | nil =>
    rw [List.map_eq_nil_iff] at hlimits
    subst hlimits
    exact ⟨fun _ => ⟨by simp, by simp⟩, fun _ => .nil⟩
  | @next st cursor cursor₁ _ maxRows k limits ks header rows last ha hk he hcore _ ih =>
    obtain ⟨⟨_, handler⟩, fs, rfl, rfl, rfl⟩ := List.map_eq_cons_iff.mp hlimits
    subst hst
    obtain ⟨c', hrun, hnext⟩ :=
      fetch_answer hK hfetch ha hk (haccept _ List.mem_cons_self) hc hcore
    by_cases hempty : k.ending = .empty
    · have hfetched : fetched k last =
          .err (unexpected "Unexpected message in execute: " last.type) := by
        simp only [fetched, hempty]
      rw [fetchAll, hrun, hfetched]
      refine ⟨fun h => ?_, fun h => absurd hempty (h.1 k List.mem_cons_self)⟩
      cases h
    · have hfetched : fetched k last = .ok (decide (k.ending = .suspended), callsOf k) :=
        fetched_ok last he hempty
      obtain ⟨hc', hpeer⟩ := hnext (by rw [hfetched]; rfl)
      have hrest := ih hc' (fun p hp => haccept p (List.mem_cons_of_mem _ hp)) rfl hpeer
      rw [fetchAll, hrun, hfetched, fetchable_cons]
      dsimp only
      refine ⟨fun h => ?_, fun ⟨_, hlarge, h⟩ => ?_⟩
      · cases h with
        | fetched _ _ hlen h =>
          exact ⟨hempty, fun hlarge _ => hlen (by omega), hrest.mp h⟩
      · exact .fetched he (rowsIn_callsOf ha.rows_nil)
          (fun hpos => ha.within he hpos fun hl => hlarge hl he) (hrest.mpr h)
  | @failed st cursor cursor₁ maxRows k limits header rows last ha hk he hcore =>
    obtain ⟨⟨_, handler⟩, fs, rfl, rfl, rfl⟩ := List.map_eq_cons_iff.mp hlimits
    subst hst
    obtain ⟨c', hrun, -⟩ := fetch_answer hK hfetch ha hk (haccept _ List.mem_cons_self) hc hcore
    obtain ⟨e, hend⟩ : ∃ e, k.ending = .error e := by
      cases hend : k.ending with
      | error e => exact ⟨e, rfl⟩
      | suspended | complete | empty => rw [hend] at he; cases he
    have hfetched : fetched k last = .err (.server e) := by simp only [fetched, hend]
    rw [fetchAll, hrun, hfetched, fetchable_cons]
    refine ⟨fun _ => ⟨by simp [hend], fun _ h => ?_, by simp [Fetchable]⟩, fun _ => .failed hend⟩
    rw [he] at h
    cases h

end Conn

/-! ### Both clients -/

/-- The handles that fetch from a portal. -/
inductive Fetcher where
  | lowlevel (portal : String)
  | unnamed
  | named (portal : NamedPortal)

/-- The portal of a handle; `exec_portal` opens the unnamed one. -/
def Fetcher.portal : Fetcher → String
  | .lowlevel portal => portal
  | .unnamed => ""
  | .named portal => portal.name

/-- One fetch, with the client's own `UnnamedPortal::exec`. A named portal keeps in `complete` what
the others return. -/
def Fetcher.exec [Driver K]
    (execUnnamed : Nat → Handler → Act Error (Conn P K) (Bool × List Callback)) :
    Fetcher → Nat → Handler → Act Error (Conn P K) (Bool × List Callback)
  | .lowlevel portal, maxRows, handler => Conn.lowlevelExecute portal maxRows handler
  | .unnamed, maxRows, handler => execUnnamed maxRows handler
  | .named portal, maxRows, handler => do
    let (portal, calls) ← Conn.execNamed portal maxRows handler
    return (!portal.complete, calls)

/-- `UnnamedPortal::exec`, `src/src/sync/unnamed_portal.rs:21–23`. -/
def Sync.execUnnamed (maxRows : Nat) (handler : Handler) :
    Act Error (Sync.Conn P) (Bool × List Callback) := Conn.lowlevelExecute "" maxRows handler

/-- `UnnamedPortal::exec`, `src/src/tokio/unnamed_portal.rs:21–29`: a failure does not mark the
connection here. -/
def Tokio.execUnnamed (maxRows : Nat) (handler : Handler) :
    Act Error (Tokio.Conn P) (Bool × List Callback) := Conn.lowlevelExecuteInner "" maxRows handler

theorem Fetcher.fetches [Driver K]
    {execUnnamed : Nat → Handler → Act Error (Conn P K) (Bool × List Callback)}
    (h : Conn.FetchesFrom "" execUnnamed) (fetcher : Fetcher) :
    Conn.FetchesFrom fetcher.portal (fetcher.exec execUnnamed) := by
  cases fetcher with
  | lowlevel portal => exact Conn.lowlevelExecute_fetches portal
  | unnamed => exact h
  | named portal =>
    have hexec (maxRows : Nat) (handler : Handler) :
        (Fetcher.named portal).exec execUnnamed maxRows handler =
          Conn.lowlevelExecute portal.name maxRows handler := by
      funext c
      simp only [exec, Conn.execNamed, Act.bind_run]
      rcases Conn.lowlevelExecute portal.name maxRows handler c with ⟨⟨more, calls⟩ | _ | _, c'⟩
      · simp
      · rfl
      · rfl
    intro maxRows handler c husable
    rw [hexec]
    exact Conn.lowlevelExecute_fetches portal.name maxRows handler c husable

theorem Sync.reusable : Conn.Reusable SyncFlags := fun _ _ _ => ⟨rfl, rfl⟩

theorem Tokio.reusable : Conn.Reusable TokioFlags := by
  rintro ⟨broken, inProgress, pending⟩ husable -
  have husable : (broken || inProgress || pending) = false := husable
  simp only [Bool.or_eq_false_iff] at husable
  obtain ⟨⟨rfl, rfl⟩, rfl⟩ := husable
  exact ⟨rfl, rfl⟩

/-- The successive fetches from a portal return its result exactly when none of them is answered
with EmptyQueryResponse and none gets more rows than a limit that is negative on the wire. -/
theorem portal_fetches_exact (fetcher : Fetcher) {cursor cursor' : Cursor}
    {fs : List (Nat × Handler)} {ks : List Chunk}
    (haccept : ∀ p ∈ fs.zip ks, Willing p.1.2 [] (Conn.callsOf p.2)) :
    (∀ c : Sync.Conn P, c.Fetches →
      P.Fetched fetcher.portal c.stream.peer cursor (fs.map Prod.fst) ks cursor' →
      (FetchesExactly cursor fs ks (Conn.fetchAll (fetcher.exec Sync.execUnnamed) fs c) ↔
        Fetchable fs ks)) ∧
    (∀ c : Tokio.Conn P, c.Fetches →
      P.Fetched fetcher.portal c.stream.peer cursor (fs.map Prod.fst) ks cursor' →
      (FetchesExactly cursor fs ks (Conn.fetchAll (fetcher.exec Tokio.execUnnamed) fs c) ↔
        Fetchable fs ks)) := by
  have exact_iff {st : P.State} {os : List (Outcome Error (Bool × List Callback))}
      (hserves : P.Fetched fetcher.portal st cursor (fs.map Prod.fst) ks cursor')
      (h : FetchedExactly fs ks os ↔ Fetchable fs ks) :
      FetchesExactly cursor fs ks os ↔ Fetchable fs ks :=
    ⟨fun he => h.mp he.each, fun hf => ⟨h.mpr hf, (h.mpr hf).inOrder hserves⟩⟩
  refine ⟨fun c hc hserves => exact_iff hserves ?_, fun c hc hserves => exact_iff hserves ?_⟩
  · exact Conn.fetchAll_exact_iff Sync.reusable
      (fetcher.fetches (Conn.lowlevelExecute_fetches "")) hc hserves haccept
  · exact Conn.fetchAll_exact_iff Tokio.reusable
      (fetcher.fetches (Conn.lowlevelExecuteInner_fetches "")) hc hserves haccept

/-- A connection to a server with three rows in each portal, all bound to one statement. -/
def bound (K : Type) (flags : K) (stmt : Statement) : Conn (Reference.cursors 3) K :=
  .fresh (({ Reference.start with
    session := { Reference.Session.fresh with portals := fun _ => some stmt } } :
      Reference.State), 0) flags

/-- Some rows of that server, as the handler gets them. -/
def numberedChunk (rows : List Nat) (ending : FetchEnd) : Chunk :=
  ⟨some [], rows.map fun n => ⟨1, [0, 0, 0, 1, UInt8.ofNat n]⟩, ending⟩

/-- Two fetches of two rows each from a portal with three. -/
theorem portal_fetches_exact_numbered :
    FetchesExactly (.rows (numberedChunk [0, 1, 2] .suspended).rows)
      [(2, DropHandler), (2, DropHandler)]
      [numberedChunk [0, 1] .suspended, numberedChunk [2] (.complete "SELECT")]
      (Conn.fetchAll (Fetcher.unnamed.exec Sync.execUnnamed) [(2, DropHandler), (2, DropHandler)]
        (bound SyncFlags {} ⟨"SELECT", true⟩)) := by
  have hcarried₁ : (numberedChunk [0, 1] .suspended).Carried (Reference.columns true)
      ([0, 1].map Reference.numberedRow) ⟨.portalSuspended, []⟩ :=
    ⟨⟨rfl, rfl⟩, .cons ⟨rfl, rfl⟩ (.cons ⟨rfl, rfl⟩ .nil), ⟨rfl, rfl⟩⟩
  have hcarried₂ : (numberedChunk [2] (.complete "SELECT")).Carried (Reference.columns true)
      ([2].map Reference.numberedRow) (Reference.complete "SELECT") :=
    ⟨⟨rfl, rfl⟩, .cons ⟨rfl, rfl⟩ .nil, show IsComplete "SELECT" _ by decide⟩
  have hanswers₁ : (Cursor.rows ((numberedChunk [0, 1] .suspended).rows ++
      (numberedChunk [2] .suspended).rows)).Answers 2 (numberedChunk [0, 1] .suspended)
      (.rows (numberedChunk [2] .suspended).rows) := .suspended rfl (Nat.le_refl 2)
  have hanswers₂ : (Cursor.rows (numberedChunk [2] .suspended).rows).Answers 2
      (numberedChunk [2] (.complete "SELECT")) (.rows []) :=
    .complete (by decide)
  have hserves : (Reference.cursors 3).Fetched Fetcher.unnamed.portal
      (bound SyncFlags {} ⟨"SELECT", true⟩).stream.peer
      (.rows (numberedChunk [0, 1, 2] .suspended).rows) [2, 2]
      [numberedChunk [0, 1] .suspended, numberedChunk [2] (.complete "SELECT")] (.rows []) :=
    .next hanswers₁ hcarried₁ rfl (by decide +kernel)
      (.next hanswers₂ hcarried₂ rfl (by decide +kernel) .nil)
  have haccept : ∀ p ∈ [(2, DropHandler), (2, DropHandler)].zip
      [numberedChunk [0, 1] .suspended, numberedChunk [2] (.complete "SELECT")],
      Willing p.1.2 [] (Conn.callsOf p.2) := by
    intro p hp
    rcases List.mem_pair.mp hp with rfl | rfl
    · exact DropHandler_total.willing _ _
    · exact DropHandler_total.willing _ _
  exact ((portal_fetches_exact .unnamed haccept).1 _ ⟨rfl, rfl, rfl, rfl⟩ hserves).mpr
    ⟨by decide, by decide⟩

/-- The portal of an empty query: the server's answer is refused as a bug of the library. -/
theorem empty_portal_refused :
    (bound SyncFlags {} ⟨"", false⟩).Fetches ∧
    (Reference.cursors 3).Fetched "" (bound SyncFlags {} ⟨"", false⟩).stream.peer .empty [0]
      [⟨none, [], .empty⟩] .empty ∧
    Conn.fetchAll (Fetcher.unnamed.exec Sync.execUnnamed) [(0, DropHandler)]
      (bound SyncFlags {} ⟨"", false⟩) =
        [.err (.libraryBug "Unexpected message in execute: 'I'")] ∧
    ¬ FetchesExactly .empty [(0, DropHandler)] [⟨none, [], .empty⟩]
      (Conn.fetchAll (Fetcher.unnamed.exec Sync.execUnnamed) [(0, DropHandler)]
        (bound SyncFlags {} ⟨"", false⟩)) := by
  have hcarried : (⟨none, [], .empty⟩ : Chunk).Carried (Reference.columns false) []
      ⟨.emptyQueryResponse, []⟩ := ⟨⟨rfl, rfl⟩, .nil, ⟨rfl, rfl⟩⟩
  have hrun : Conn.fetchAll (Fetcher.unnamed.exec Sync.execUnnamed) [(0, DropHandler)]
      (bound SyncFlags {} ⟨"", false⟩) =
        [.err (.libraryBug "Unexpected message in execute: 'I'")] := by decide +kernel
  refine ⟨⟨rfl, rfl, rfl, rfl⟩, .next .empty hcarried rfl (by decide +kernel) .nil, hrun,
    fun h => ?_⟩
  have heach := h.each
  rw [hrun] at heach
  cases heach

end ZeroPostgres
