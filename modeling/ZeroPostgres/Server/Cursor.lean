import ZeroPostgres.Server.Reference

/-!
# Portals of a server

A session says which statement a portal is bound to, and nothing of how much of its result has been
fetched. A `Cursor` is what is left of that result, and `Cursor.Answers` is what a server may answer
to one fetch from it. Along a run of fetches the chunks make up the result in order
(`Peer.Fetched.rows_eq`).
-/

namespace ZeroPostgres

/-- What is left of the result of a portal: rows, a command that returns no rows, nothing of such a
command any more, or the result of an empty query. -/
inductive Cursor where
  | rows (left : List DataRow)
  | command
  | done
  | empty
deriving DecidableEq, Repr

/-- The rows that are left. -/
def Cursor.left : Cursor → List DataRow
  | .rows left => left
  | _ => []

/-- How the answer to a fetch ends. -/
inductive FetchEnd where
  | suspended
  | complete (tag : String)
  | empty
  | error (e : ServerError)
deriving DecidableEq, Repr

/-- The fetch fails. -/
def FetchEnd.isError : FetchEnd → Bool
  | .error _ => true
  | _ => false

/-- The answer to one fetch: the columns, if the portal returns rows, the rows and the end. -/
structure Chunk where
  columns : Option (List FieldDescription)
  rows : List DataRow
  ending : FetchEnd
deriving DecidableEq, Repr

/-- The row limit of an Execute as the server reads it. `max_rows as i32` is negative from 2³¹ on,
and a limit that is not positive is none. `src/src/protocol/frontend/extended.rs:84–97`. -/
def rowLimit (maxRows : Nat) : Option Nat :=
  if maxRows = 0 ∨ 2 ^ 31 ≤ maxRows then none else some maxRows

/-- What a server may answer to a fetch, and what is left then. The portal is suspended at the
latest when the limit is reached, and never without a limit. A command is not run again. -/
inductive Cursor.Answers : Cursor → Nat → Chunk → Cursor → Prop where
  | suspended {maxRows n cols rows left} : rowLimit maxRows = some n → rows.length ≤ n →
      Answers (.rows (rows ++ left)) maxRows ⟨some cols, rows, .suspended⟩ (.rows left)
  | complete {maxRows cols rows tag} : (∀ n, rowLimit maxRows = some n → rows.length ≤ n) →
      Answers (.rows rows) maxRows ⟨some cols, rows, .complete tag⟩ (.rows [])
  | command {maxRows tag} : Answers .command maxRows ⟨none, [], .complete tag⟩ .done
  | empty {maxRows} : Answers .empty maxRows ⟨none, [], .empty⟩ .empty
  | rowsError {maxRows cols rows left e} :
      Answers (.rows (rows ++ left)) maxRows ⟨some cols, rows, .error e⟩ (.rows left)
  | error {cursor maxRows e} : (∀ left, cursor ≠ .rows left) →
      Answers cursor maxRows ⟨none, [], .error e⟩ cursor

/-- A DataRow message that holds the row. -/
def IsRow (m : RawMessage) (row : DataRow) : Prop :=
  m.type = .dataRow ∧ DataRow.parse m.payload = .ok row

/-- The message that describes a portal with these columns, or with none. -/
def Describes : Option (List FieldDescription) → RawMessage → Prop
  | some cols, m => m.type = .rowDescription ∧ RowDescription.parse m.payload = .ok cols
  | none, m => Is .noData m

/-- The message that ends the answer. -/
def FetchEnd.IsSent : FetchEnd → RawMessage → Prop
  | .suspended, m => Is .portalSuspended m
  | .complete tag, m => IsComplete tag m
  | .empty, m => Is .emptyQueryResponse m
  | .error e, m => IsError e m

/-- The messages of a chunk. -/
structure Chunk.Carried (k : Chunk) (header : RawMessage) (rows : List RawMessage)
    (last : RawMessage) : Prop where
  header : Describes k.columns header
  rows : List.Forall₂ IsRow rows k.rows
  last : k.ending.IsSent last

/-- Chunks without columns have no rows. -/
theorem Cursor.Answers.rows_nil {cursor cursor' : Cursor} {maxRows : Nat} {k : Chunk}
    (h : cursor.Answers maxRows k cursor') (hk : k.columns = none) : k.rows = [] := by
  cases h with
  | suspended | complete | rowsError => cases hk
  | command | empty | error => rfl

/-- A chunk is taken off the front of what is left. -/
theorem Cursor.Answers.left_eq {cursor cursor' : Cursor} {maxRows : Nat} {k : Chunk}
    (h : cursor.Answers maxRows k cursor') : cursor.left = k.rows ++ cursor'.left := by
  cases h with
  | suspended | rowsError => rfl
  | complete => exact (List.append_nil _).symm
  | command | empty => rfl
  | error hc =>
    cases cursor with
    | rows left => exact absurd rfl (hc left)
    | command | done | empty => rfl

/-- Nothing is left when the portal was not suspended and nothing failed. -/
theorem Cursor.Answers.left_nil {cursor cursor' : Cursor} {maxRows : Nat} {k : Chunk}
    (h : cursor.Answers maxRows k cursor') (hs : k.ending ≠ .suspended)
    (he : k.ending.isError = false) : cursor'.left = [] := by
  cases h with
  | suspended => exact absurd rfl hs
  | complete | command | empty => rfl
  | rowsError | error => cases he

/-! ### Runs of fetches -/

/-- The messages of a fetch, `src/src/sync/conn.rs:1079–1082`. -/
def fetchRequest (portal : String) (maxRows : Nat) : List Frontend :=
  [.describePortal portal, .execute portal maxRows, .flush]

/-- The server answers fetches from a portal one after the other, up to the first that fails. In
each answer asynchronous messages may stand anywhere. -/
inductive Peer.Fetched (P : Peer) (portal : String) :
    P.State → Cursor → List Nat → List Chunk → Cursor → Prop where
  | nil {st cursor} : P.Fetched portal st cursor [] [] cursor
  | next {st cursor cursor' cursor'' maxRows k limits ks header rows last} :
      cursor.Answers maxRows k cursor' → k.Carried header rows last → k.ending.isError = false →
      core (P.feed st (fetchRequest portal maxRows)).1 = header :: (rows ++ [last]) →
      P.Fetched portal (P.feed st (fetchRequest portal maxRows)).2 cursor' limits ks cursor'' →
      P.Fetched portal st cursor (maxRows :: limits) (k :: ks) cursor''
  | failed {st cursor cursor' maxRows k limits header rows last} :
      cursor.Answers maxRows k cursor' → k.Carried header rows last → k.ending.isError = true →
      core (P.feed st (fetchRequest portal maxRows)).1 = header :: (rows ++ [last]) →
      P.Fetched portal st cursor (maxRows :: limits) [k] cursor'

/-- The chunks hold the rows of the result in order, each once, up to those that are left. -/
theorem Peer.Fetched.rows_eq {P : Peer} {portal : String} {st : P.State} {cursor cursor' : Cursor}
    {limits : List Nat} {ks : List Chunk} (h : P.Fetched portal st cursor limits ks cursor') :
    cursor.left = ks.flatMap Chunk.rows ++ cursor'.left := by
  induction h with
  | nil => rfl
  | next ha _ _ _ _ ih => rw [ha.left_eq, ih, List.flatMap_cons, List.append_assoc]
  | failed ha => rw [ha.left_eq, List.flatMap_cons, List.flatMap_nil, List.append_nil]

/-! ### A server with cursors -/

/-- The server that answers some messages otherwise, where it may, with a state of its own. -/
def Peer.overriding (P : Peer) {σ : Type}
    (answer : P.State → σ → Frontend → Option (List RawMessage × σ))
    (hconforms : ∀ st x f r, answer st x f = some r →
      Conforms P.effect (P.session st) f r.1 (P.session st))
    (hasyncs : ∀ st x f r, answer st x f = some r → ∀ m ∈ r.1, m.isAsync = false) : Peer where
  State := P.State × σ
  session st := P.session st.1
  effect := P.effect
  respond st f :=
    match answer st.1 st.2 f with
    | some r => (r.1, (st.1, r.2))
    | none => ((P.respond st.1 f).1, ((P.respond st.1 f).2, st.2))
  effect_empty := P.effect_empty
  effect_begin := P.effect_begin
  effect_commit := P.effect_commit
  effect_rollback := P.effect_rollback
  effect_discard := P.effect_discard
  conforms st f := by
    cases h : answer st.1 st.2 f with
    | some r =>
      have hcore : core r.1 = r.1 :=
        List.filter_eq_self.mpr fun m hm => by simp [hasyncs _ _ _ _ h m hm]
      rw [hcore]
      exact hconforms _ _ _ _ h
    | none => exact P.conforms st.1 f
  asyncs st f m hm ha := by
    cases h : answer st.1 st.2 f with
    | some r =>
      rw [h] at hm
      rw [hasyncs _ _ _ _ h m hm] at ha
      cases ha
    | none =>
      rw [h] at hm
      exact P.asyncs st.1 f m hm ha

namespace Reference

/-- A row of one column, which holds its number. -/
def numberedRow (n : Nat) : RawMessage := ⟨.dataRow, [0, 1, 0, 0, 0, 1, UInt8.ofNat n]⟩

/-- What is sent of `total` rows for one Execute, behind the first `next` of them. -/
def fetchReply (total next maxRows : Nat) : List RawMessage × Nat :=
  match rowLimit maxRows with
  | some n =>
    if next + n ≤ total then
      ((List.range' next n).map numberedRow ++ [⟨.portalSuspended, []⟩], next + n)
    else ((List.range' next (total - next)).map numberedRow ++ [complete "SELECT"], total)
  | none => ((List.range' next (total - next)).map numberedRow ++ [complete "SELECT"], total)

/-- Executing a portal with rows sends its next ones, and an empty query has its own answer. -/
def cursorAnswer (total : Nat) (st : State) (next : Nat) :
    Frontend → Option (List RawMessage × Nat)
  | .execute portal maxRows =>
    match st.session.portals portal with
    | some stmt =>
      if st.session.mode = .ready ∧ st.session.status ≠ .failed ∧ effect stmt.sql = .none then
        if stmt.returnsRows then some (fetchReply total next maxRows)
        else if stmt.sql = "" then some ([⟨.emptyQueryResponse, []⟩], next)
        else none
      else none
    | none => none
  | _ => none

theorem numberedRows_isRows (ns : List Nat) : IsRows true (ns.map numberedRow) := by
  refine ⟨fun m hm => ?_, fun h => by cases h⟩
  obtain ⟨n, -, rfl⟩ := List.mem_map.mp hm
  exact ⟨rfl, rfl⟩

/-- A server may send the next rows of a portal. -/
theorem fetchReply_success {s : Session} {portal : String} {stmt : Statement}
    (hportal : s.portals portal = some stmt) (hrows : stmt.returnsRows = true)
    (hstatus : s.status ≠ .failed) (heffect : effect stmt.sql = .none) (total next maxRows : Nat) :
    Success effect s (.execute portal maxRows) (fetchReply total next maxRows).1 s := by
  have hisRows (ns : List Nat) : IsRows stmt.returnsRows (ns.map numberedRow) := by
    rw [hrows]
    exact numberedRows_isRows ns
  have complete (ns : List Nat) : Success effect s (.execute portal maxRows)
      (ns.map numberedRow ++ [Reference.complete "SELECT"]) s := by
    have h : Success effect s (.execute portal maxRows)
        (ns.map numberedRow ++ [Reference.complete "SELECT"])
        (s.completed (effect stmt.sql) s.status) :=
      .complete hportal (hisRows ns) (by rw [heffect]; exact .plain hstatus)
        (show IsComplete "SELECT" _ by decide)
    rw [heffect] at h
    exact h
  unfold fetchReply
  split
  · next n hn =>
    have hpos : maxRows ≠ 0 := by
      rintro rfl
      cases hn
    split
    · exact .suspend hportal (hisRows _) hrows hpos ⟨rfl, rfl⟩
    · exact complete _
  · exact complete _

theorem fetchReply_isAsync (total next maxRows : Nat) :
    ∀ m ∈ (fetchReply total next maxRows).1, m.isAsync = false := by
  have hrows (ns : List Nat) (z : RawMessage) (hz : z.isAsync = false) :
      ∀ m ∈ ns.map numberedRow ++ [z], m.isAsync = false := by
    intro m hm
    rcases List.mem_append.mp hm with hm | hm
    · obtain ⟨n, -, rfl⟩ := List.mem_map.mp hm
      rfl
    · rw [List.mem_singleton.mp hm]
      exact hz
  unfold fetchReply
  split
  · split
    · exact hrows _ _ rfl
    · exact hrows _ _ rfl
  · exact hrows _ _ rfl

/-- What the server with cursors answers otherwise, it may. -/
theorem cursorAnswer_success {total next : Nat} {st : State} {f : Frontend}
    {r : List RawMessage × Nat} (h : cursorAnswer total st next f = some r) :
    st.session.mode = .ready ∧ Success effect st.session f r.1 st.session ∧
      ∀ m ∈ r.1, m.isAsync = false := by
  unfold cursorAnswer at h
  split at h
  · split at h
    · next stmt hportal =>
      split at h
      · next hopen =>
        obtain ⟨hready, hstatus, heffect⟩ := hopen
        refine ⟨hready, ?_⟩
        split at h
        · next hrows =>
          cases h
          exact ⟨fetchReply_success hportal hrows hstatus heffect .., fetchReply_isAsync _ _ _⟩
        · next hrows =>
          split at h
          · cases h
            exact ⟨.emptyQuery hportal (by simpa using hrows) ⟨rfl, rfl⟩,
              by simp [RawMessage.isAsync, MsgType.isAsync]⟩
          · cases h
      · cases h
    · cases h
  · cases h

/-- The server whose portals have `total` rows each, sent as they are fetched. -/
def cursors (total : Nat) : Peer :=
  (scripted fun sql => if sql = "" then .command else .select 0).overriding (cursorAnswer total)
    (fun _ _ _ _ h => .success (cursorAnswer_success h).1 (cursorAnswer_success h).2.1)
    (fun _ _ _ _ h => (cursorAnswer_success h).2.2)

end Reference

end ZeroPostgres
