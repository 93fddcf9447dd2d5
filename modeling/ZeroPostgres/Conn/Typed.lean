import ZeroPostgres.ConnectionUrl
import ZeroPostgres.Pipeline.Delivery
import ZeroPostgres.State.SimpleRefusals

/-!
# Typed results

The methods of a connection that bring a handler of their own, `src/src/sync/conn.rs:387–443` and
`:615–755` and their twins in `src/src/tokio/conn.rs`: they collect the rows of a result, keep the
first, call a closure for each, or count the rows affected. `query_exact` and `exec_exact` say what
each of them returns, in terms of the reply of the server alone.
-/

namespace ZeroPostgres

/-! ### Handlers with a state -/

/-- A handler with a state of its own, `SimpleHandler` and `ExtendedHandler`,
`src/src/handler.rs:18–60`: what a call makes of the state. -/
structure StatefulHandler (S : Type) where
  initial : S
  call : S → Callback → Except Error S

namespace StatefulHandler

variable {S : Type} (h : StatefulHandler S)

/-- The state after some calls, or the error of the first that is refused. -/
def after (calls : List Callback) : Except Error S := calls.foldlM h.call h.initial

/-- What the client sees of the handler. -/
def toHandler : Handler := ⟨fun calls => (h.after calls).map fun _ => ()⟩

variable {h} {acc cs : List Callback} {s : S}

theorem accept_concat (hs : h.after acc = .ok s) (c : Callback) :
    h.toHandler.accept (acc ++ [c]) = (h.call s c).map fun _ => () := by
  have hfold : h.after (acc ++ [c]) = h.call s c := by
    unfold after at hs ⊢
    rw [List.foldlM_append, hs]
    exact bind_pure (h.call s c)
  exact congrArg (Except.map fun _ => ()) hfold

theorem after_concat {s' : S} {c : Callback} (hs : h.after acc = .ok s)
    (hc : h.call s c = .ok s') : h.after (acc ++ [c]) = .ok s' := by
  unfold after at hs ⊢
  rw [List.foldlM_append, hs]
  exact (bind_pure (h.call s c)).trans hc

/-- A handler whose fold over further calls succeeds accepts them. -/
theorem willing_of_fold {s' : S} (hs : h.after acc = .ok s) (hcs : cs.foldlM h.call s = .ok s') :
    Willing h.toHandler acc cs := by
  induction cs generalizing acc s with
  | nil => trivial
  | cons c cs ih =>
    rw [List.foldlM_cons] at hcs
    cases hc : h.call s c with
    | error e =>
      rw [hc] at hcs
      cases hcs
    | ok s₁ =>
      rw [hc] at hcs
      refine ⟨?_, ih (after_concat hs hc) hcs⟩
      rw [accept_concat hs, hc]
      rfl

/-- One whose fold fails refuses one of them with the error of the fold. -/
theorem refuses_of_fold {e : Error} (hs : h.after acc = .ok s)
    (hcs : cs.foldlM h.call s = .error e) : Refuses h.toHandler e acc cs := by
  induction cs generalizing acc s with
  | nil => cases hcs
  | cons c cs ih =>
    rw [List.foldlM_cons] at hcs
    cases hc : h.call s c with
    | error e' =>
      rw [hc] at hcs
      cases hcs
      left
      rw [accept_concat hs, hc]
      rfl
    | ok s₁ =>
      rw [hc] at hcs
      refine .inr ⟨?_, ih (after_concat hs hc) hcs⟩
      rw [accept_concat hs, hc]
      rfl

end StatefulHandler

/-- `FromRow`, `src/src/conversion/row.rs:8–14`, of a type whose conversions return. -/
structure FromRow (α : Type) where
  fromRowText : List FieldDescription → DataRow → Except Error α
  fromRowBinary : List FieldDescription → DataRow → Except Error α

section Handlers

variable {α σ : Type} (fromRow : List FieldDescription → DataRow → Except Error α)

/-- A handler that only looks at rows. -/
def rowHandler (initial : σ) (row : σ → List FieldDescription → DataRow → Except Error σ) :
    StatefulHandler σ where
  initial := initial
  call s
    | .row cols data => row s cols data
    | .resultStart _ | .resultEnd _ => .ok s

/-- `CollectHandler`, `src/src/handler.rs:111–157`. -/
def CollectHandler : StatefulHandler (List α) :=
  rowHandler [] fun rows cols data => do return rows ++ [← fromRow cols data]

/-- A row behind the first is not decoded. -/
def keepFirst : Option α → List FieldDescription → DataRow → Except Error (Option α)
  | some first, _, _ => .ok (some first)
  | none, cols, data => some <$> fromRow cols data

/-- `FirstRowHandler`, `src/src/handler.rs:159–200`. -/
def FirstRowHandler : StatefulHandler (Option α) := rowHandler none (keepFirst fromRow)

/-- `ForEachHandler` and `ForEachRefHandler`, `src/src/handler.rs:202–269`, with what the closure
keeps between its calls. -/
def ForEachHandler (f : σ → α → Except Error σ) (initial : σ) : StatefulHandler σ :=
  rowHandler initial fun s cols data => do f s (← fromRow cols data)

/-- `char::is_whitespace`. -/
def isWhitespace (c : Char) : Bool :=
  (0x9 ≤ c.toNat && c.toNat ≤ 0xD) || c.toNat == 0x20 || c.toNat == 0x85 || c.toNat == 0xA0 ||
    c.toNat == 0x1680 || (0x2000 ≤ c.toNat && c.toNat ≤ 0x200A) || c.toNat == 0x2028 ||
    c.toNat == 0x2029 || c.toNat == 0x202F || c.toNat == 0x205F || c.toNat == 0x3000

/-- `split_whitespace`. -/
def splitWhitespace (text : String) : List String :=
  ((text.toList.splitOnP isWhitespace).filter (· ≠ [])).map String.ofList

/-- `CommandComplete::rows_affected`, `src/src/protocol/backend/query.rs:234–248`. -/
def rowsAffected (tag : String) : Option Nat :=
  match splitWhitespace tag with
  | [] => none
  | command :: words =>
    if command ∈ ["SELECT", "UPDATE", "DELETE", "COPY", "MOVE", "FETCH"] then
      words.head?.bind parseUsize
    else if command = "INSERT" then (words.drop 1).head?.bind parseUsize
    else none

/-- `DropHandler`, `src/src/handler.rs:60–98`, with the count it keeps. -/
def affectedHandler : StatefulHandler (Option Nat) where
  initial := none
  call affected
    | .resultEnd tag => .ok (rowsAffected tag)
    | .resultStart _ | .row _ _ => .ok affected

example : rowsAffected "INSERT 0 42" = some 42 := by decide +kernel

end Handlers

/-! ### What a handler makes of a reply -/

/-- The rows among some calls, each with the columns it is read with. -/
def describedRows (calls : List Callback) : List (List FieldDescription × DataRow) :=
  calls.filterMap fun
    | .row cols data => some (cols, data)
    | .resultStart _ | .resultEnd _ => none

/-- The tags among some calls. -/
def endTags (calls : List Callback) : List String :=
  calls.filterMap fun
    | .resultEnd tag => some tag
    | .resultStart _ | .row _ _ => none

section Folds

variable {α σ : Type} {fromRow : List FieldDescription → DataRow → Except Error α}

/-- A handler that only looks at rows folds over them. -/
theorem rowHandler_after (initial : σ)
    (row : σ → List FieldDescription → DataRow → Except Error σ) (calls : List Callback) :
    (rowHandler initial row).after calls =
      (describedRows calls).foldlM (fun s r => row s r.1 r.2) initial := by
  suffices h : ∀ s, calls.foldlM (rowHandler initial row).call s =
      (describedRows calls).foldlM (fun s r => row s r.1 r.2) s from h initial
  induction calls with
  | nil => exact fun s => rfl
  | cons c calls ih =>
    intro s
    rw [List.foldlM_cons]
    cases c with
    | row cols data =>
      have hrows : describedRows (.row cols data :: calls) = (cols, data) :: describedRows calls :=
        rfl
      rw [hrows, List.foldlM_cons]
      exact congrArg (row s cols data >>= ·) (funext ih)
    | resultStart cols => exact ih s
    | resultEnd tag => exact ih s

theorem collect_after (calls : List Callback) :
    (CollectHandler fromRow).after calls =
      (describedRows calls).mapM fun r => fromRow r.1 r.2 := by
  rw [CollectHandler, rowHandler_after]
  generalize describedRows calls = rows
  suffices h : ∀ acc : List α, rows.foldlM
      (fun acc r => do return acc ++ [← fromRow r.1 r.2]) acc =
        (acc ++ ·) <$> rows.mapM fun r => fromRow r.1 r.2 by
    rw [h []]
    cases rows.mapM fun r => fromRow r.1 r.2 <;> rfl
  induction rows with
  | nil =>
    intro acc
    rw [List.mapM_nil]
    exact congrArg Except.ok (List.append_nil acc).symm
  | cons r rows ih =>
    intro acc
    rw [List.foldlM_cons, List.mapM_cons]
    cases fromRow r.1 r.2 with
    | error e => rfl
    | ok a =>
      have hrest := ih (acc ++ [a])
      refine hrest.trans ?_
      cases rows.mapM fun r => fromRow r.1 r.2 with
      | error e => rfl
      | ok as => exact congrArg Except.ok (List.append_assoc acc [a] as)

theorem keepFirst_fold (a : α) (rows : List (List FieldDescription × DataRow)) :
    rows.foldlM (fun first r => keepFirst fromRow first r.1 r.2) (some a) = .ok (some a) := by
  induction rows with
  | nil => rfl
  | cons r rows ih => exact ih

theorem first_after (calls : List Callback) :
    (FirstRowHandler fromRow).after calls =
      (describedRows calls).head?.mapM fun r => fromRow r.1 r.2 := by
  rw [FirstRowHandler, rowHandler_after]
  cases describedRows calls with
  | nil => rfl
  | cons r rows =>
    rw [List.foldlM_cons, List.head?_cons]
    change (some <$> fromRow r.1 r.2 >>= _) = some <$> fromRow r.1 r.2
    cases fromRow r.1 r.2 with
    | error e => rfl
    | ok a => exact keepFirst_fold a rows

theorem affected_after (calls : List Callback) :
    affectedHandler.after calls = .ok ((endTags calls).getLast?.bind rowsAffected) := by
  suffices h : ∀ s, calls.foldlM affectedHandler.call s =
      .ok ((endTags calls).getLast?.elim s rowsAffected) by
    refine (h none).trans (congrArg Except.ok ?_)
    cases (endTags calls).getLast? <;> rfl
  induction calls with
  | nil => exact fun s => rfl
  | cons c calls ih =>
    intro s
    rw [List.foldlM_cons]
    cases c with
    | row cols data => exact ih s
    | resultStart cols => exact ih s
    | resultEnd tag =>
      refine (ih (rowsAffected tag)).trans (congrArg Except.ok ?_)
      have htags : endTags (.resultEnd tag :: calls) = tag :: endTags calls := rfl
      rw [htags, List.getLast?_cons]
      cases (endTags calls).getLast? <;> rfl

end Folds

/-- What a method returns: the error of its handler, the error of the reply, or what the handler
keeps. -/
def resultOf {S : Type} (error : Option ServerError) : Except Error S → Outcome Error S
  | .error e => .err e
  | .ok s =>
    match error with
    | some e => .err (.server e)
    | none => .ok s

namespace Conn

open Act

variable {P : Peer} {K : Type} {α σ S : Type}

/-- Run a statement with a handler and take what it keeps. -/
def keeping (h : StatefulHandler S) (x : Handler → Act Error (Conn P K) (List Callback)) :
    Act Error (Conn P K) S := do
  let calls ← x h.toHandler
  Act.ofExcept (h.after calls)

/-- What a statement returns whatever the handler: its error when it refuses one of `calls`, and
otherwise `error`, or all of `calls`. -/
structure Returns (x : Handler → Outcome Error (List Callback)) (calls : List Callback)
    (error : Option ServerError) : Prop where
  refused : ∀ handler e, Refuses handler e [] calls → x handler = .err e
  accepted : ∀ handler, Willing handler [] calls → x handler = resultOf error (.ok calls)

theorem keeping_result {x : Handler → Act Error (Conn P K) (List Callback)} {c : Conn P K}
    {calls : List Callback} {error : Option ServerError}
    (hx : Returns (fun handler => (x handler c).1) calls error) (h : StatefulHandler S) :
    (keeping h x c).1 = resultOf error (h.after calls) := by
  have hinitial : h.after [] = .ok h.initial := rfl
  have hfold : calls.foldlM h.call h.initial = h.after calls := rfl
  unfold keeping
  rw [Act.bind_run]
  cases hafter : h.after calls with
  | error e =>
    have hrun := hx.refused h.toHandler e
      (StatefulHandler.refuses_of_fold hinitial (hfold.trans hafter))
    generalize x h.toHandler c = r at hrun
    obtain ⟨o, c'⟩ := r
    cases hrun
    rfl
  | ok s =>
    have hrun := hx.accepted h.toHandler
      (StatefulHandler.willing_of_fold hinitial (hfold.trans hafter))
    generalize x h.toHandler c = r at hrun
    obtain ⟨o, c'⟩ := r
    cases error with
    | some e =>
      cases hrun
      rfl
    | none =>
      cases hrun
      change (Act.ofExcept (h.after calls) c').1 = _
      rw [hafter]
      rfl

/-- What the four kinds of handlers keep. -/
theorem Returns.exact {x : Handler → Act Error (Conn P K) (List Callback)} {c : Conn P K}
    {calls : List Callback} {error : Option ServerError}
    (hx : Returns (fun handler => (x handler c).1) calls error)
    (fromRow : List FieldDescription → DataRow → Except Error α) (f : σ → α → Except Error σ)
    (s : σ) :
    (keeping (CollectHandler fromRow) x c).1 =
      resultOf error ((describedRows calls).mapM fun r => fromRow r.1 r.2) ∧
    (keeping (FirstRowHandler fromRow) x c).1 =
      resultOf error ((describedRows calls).head?.mapM fun r => fromRow r.1 r.2) ∧
    (keeping (ForEachHandler fromRow f s) x c).1 =
      resultOf error ((describedRows calls).foldlM (fun s r => fromRow r.1 r.2 >>= f s) s) ∧
    (keeping affectedHandler x c).1 =
      resultOf error (.ok ((endTags calls).getLast?.bind rowsAffected)) := by
  refine ⟨?_, ?_, ?_, ?_⟩
  · rw [← collect_after]
    exact keeping_result hx _
  · rw [← first_after]
    exact keeping_result hx _
  · refine (keeping_result hx _).trans (congrArg (resultOf error) ?_)
    exact rowHandler_after _ _ _
  · rw [← affected_after]
    exact keeping_result hx _

/-- The messages that a connection on which nothing waits reads are those of the reply. -/
theorem core_reading {c : Conn P K} (ha : c.Aligned) (reply : List RawMessage) :
    core (c.stream.inbound ++ reply) = core reply := by
  rw [core_append, show core c.stream.inbound = [] from ha.1, List.nil_append]

/-! ### The methods -/

variable [Driver K]

/-- `query_drop` with the count it returns, `src/src/sync/conn.rs:388–392`. -/
def queryAffected (sql : String) : Act Error (Conn P K) (Option Nat) :=
  keeping affectedHandler (query sql)

/-- `query_collect`, `src/src/sync/conn.rs:404–411`. -/
def queryCollect (type : FromRow α) (sql : String) : Act Error (Conn P K) (List α) :=
  keeping (CollectHandler type.fromRowText) (query sql)

/-- `query_first`, `src/src/sync/conn.rs:414–421`. -/
def queryFirst (type : FromRow α) (sql : String) : Act Error (Conn P K) (Option α) :=
  keeping (FirstRowHandler type.fromRowText) (query sql)

/-- `query_foreach`, `src/src/sync/conn.rs:435–443`. -/
def queryForeach (type : FromRow α) (f : σ → α → Except Error σ) (s : σ) (sql : String) :
    Act Error (Conn P K) σ :=
  keeping (ForEachHandler type.fromRowText f s) (query sql)

/-- `exec_drop` with the count it returns, `src/src/sync/conn.rs:618–626`. -/
def execAffected (statement : StatementRef) (params : Params) : Act Error (Conn P K) (Option Nat) :=
  keeping affectedHandler (exec statement params)

/-- `exec_collect`, `src/src/sync/conn.rs:641–653`. -/
def execCollect (type : FromRow α) (statement : StatementRef) (params : Params) :
    Act Error (Conn P K) (List α) :=
  keeping (CollectHandler type.fromRowBinary) (exec statement params)

/-- `exec_first`, `src/src/sync/conn.rs:668–676`. -/
def execFirst (type : FromRow α) (statement : StatementRef) (params : Params) :
    Act Error (Conn P K) (Option α) :=
  keeping (FirstRowHandler type.fromRowBinary) (exec statement params)

/-- `exec_foreach`, `src/src/sync/conn.rs:693–707`, and `exec_foreach_ref`,
`src/src/sync/conn.rs:741–755`, whose rows are decoded in place. -/
def execForeach (type : FromRow α) (f : σ → α → Except Error σ) (s : σ)
    (statement : StatementRef) (params : Params) : Act Error (Conn P K) σ :=
  keeping (ForEachHandler type.fromRowBinary f s) (exec statement params)

/-! ### Replies -/

variable {c : Conn P K}

/-- An operation that is not refused returns what it comes to. -/
theorem guarded_result {x : Act Error (Conn P K) S}
    (husable : (Driver.refuses K && c.isBroken) = false) : (guarded x c).1 = (x c).1 := by
  rw [guarded_eq, if_neg (by rw [husable]; simp)]
  unfold markBroken
  rcases x c with ⟨_ | _ | _, _⟩ <;> rfl

/-- What `query` returns. -/
theorem query_returns (hP : P.NoCopy) (hc : c.Regular) (ha : c.Aligned)
    (hcut : c.stream.cut = none) (hready : c.exchangeReady = true)
    (husable : (Driver.refuses K && c.isBroken) = false) {sql : String}
    (hopen : (P.session (P.respond c.stream.peer (.query sql)).2).mode ≠ .closed) :
    Returns (fun handler => (query sql handler c).1) (callbacksOf [] (c.reply [.query sql]))
      (errorsIn (c.reply [.query sql])).head? := by
  have hreply : c.reply [.query sql] = (P.respond c.stream.peer (.query sql)).1 := by
    rw [reply, P.feed_cons, P.feed_nil, List.append_nil]
  obtain ⟨error, status, hans⟩ :=
    (SimpleQueryStateMachine.respond_query hP ha.2).resolve_left hopen
  rw [← hreply] at hans
  have herror : (errorsIn (c.reply [.query sql])).head? = error := by
    rw [← errorsIn_core, hans.ends.2]
    cases error <;> rfl
  have hcalls (b : BufferSet) : callbacksOf b.columnBuffer (core (c.reply [.query sql])) =
      callbacksOf [] (c.reply [.query sql]) := by
    rw [SimpleQueryStateMachine.callbacksOf_answer hans b.columnBuffer [], callbacksOf_core]
  have hwell : ∀ x ∈ c.stream.inbound ++ c.reply [.query sql],
      x.isAsync = true → x.wellFormed = true := by
    intro x hx
    rcases List.mem_append.mp hx with hx | hx
    · exact hc.asyncs x hx
    · exact P.feed_asyncs _ _ x hx
  have hrun (handler : Handler) := SimpleQueryStateMachine.run_queried
    (m := { SimpleQueryStateMachine.new handler sql with state := .waitingResponse })
    (b := { c.bufferSet with writeBuffer := [.query sql] })
    (by rw [core_reading ha]; exact hans) hwell rfl rfl
  -- the machine's end is that of the call
  have hquery (handler : Handler) {o : Outcome Error Verdict}
      {r : SimpleQueryStateMachine × BufferSet} (ho : o ≠ .halt)
      (h : runMachine StateMachine.step (c.stream.inbound ++ c.reply [.query sql])
        ({ SimpleQueryStateMachine.new handler sql with state := .waitingResponse },
          { c.bufferSet with writeBuffer := [.query sql] }) = (o, r)) :
      (query sql handler c).1 =
        (o.bind fun v => concluded v r.1).bind fun m => .ok m.calls := by
    have hdrive := drive_result (SimpleQueryStateMachine.new handler sql) _ c _ hcut hready
      (SimpleQueryStateMachine.step_new handler sql c.bufferSet) ho h
    rw [query, guarded_result husable, ← hdrive]
    unfold queryInner
    rw [Act.bind_run]
    rcases drive (SimpleQueryStateMachine.new handler sql) c with ⟨_ | _ | _, _⟩ <;> rfl
  rw [herror]
  constructor
  · intro handler e hr
    rw [← hcalls { c.bufferSet with writeBuffer := [.query sql] }, ← core_reading ha] at hr
    have herr := (hrun handler).2 e hr
    generalize hrun' : runMachine SimpleQueryStateMachine.step _ _ = r at herr
    obtain ⟨o, r⟩ := r
    dsimp only at herr
    subst herr
    exact hquery handler (by simp) hrun'
  · intro handler hw
    rw [← hcalls { c.bufferSet with writeBuffer := [.query sql] }, ← core_reading ha] at hw
    obtain ⟨v, r, hrun', hv, hmade⟩ := (hrun handler).1 hw
    have hres := hquery handler (by simp) hrun'
    rw [core_reading ha, hcalls] at hmade
    rw [hres, ← hv]
    cases hverdict : v.error with
    | none =>
      simp only [Outcome.bind, concluded, hverdict, resultOf]
      exact congrArg Outcome.ok hmade
    | some e => simp [Outcome.bind, concluded, hverdict, resultOf]

/-- What `exec` returns when the parameters encode. -/
theorem exec_returns (hP : P.NoCopy) (hc : c.Regular) (ha : c.Aligned)
    (hcut : c.stream.cut = none) (hready : c.exchangeReady = true)
    (husable : (Driver.refuses K && c.isBroken) = false) {statement : StatementRef}
    {params : Params} {values : Bytes}
    (hencode : params.encode (statement.targetOids params) = .ok values)
    (hopen : (P.session (P.feed c.stream.peer (execFrames statement params values)).2).mode ≠
      .closed) :
    Returns (fun handler => (exec statement params handler c).1)
      (callbacksOf [] (c.reply (execFrames statement params values)))
      (errorsIn (c.reply (execFrames statement params values))).head? := by
  obtain ⟨fate, sync, status, r₁, r₂, hcore, hread, hsync⟩ := exec_reading hP ha hopen
  generalize hreply : c.reply (execFrames statement params values) = reply at hcore ⊢
  have hall : core (c.stream.inbound ++ reply) = r₁ ++ r₂ := by rw [core_reading ha, hcore]
  have hwell : ∀ x ∈ c.stream.inbound ++ reply, x.isAsync = true → x.wellFormed = true := by
    intro x hx
    rcases List.mem_append.mp hx with hx | hx
    · exact hc.asyncs x hx
    · rw [← hreply] at hx
      exact P.feed_asyncs _ _ x hx
  -- the reply to the Sync makes no calls
  have hsilent (columns : Bytes) : callbacksOf columns r₂ = [] := by
    generalize fate.error?.isSome = failed at hsync
    cases hsync with
    | ready hz => simp [callbacksOf, callbackOf, hz.1]
    | error hm _ hz => simp [callbacksOf, callbackOf, hm.1, hz.1]
  have hcalls (b : BufferSet) : callbacksOf b.columnBuffer r₁ = callbacksOf [] reply := by
    rw [ExtendedQueryStateMachine.callbacksOf_reading hread
      (by cases statement <;> simp [execStage]) (by cases statement <;> simp [execStage])
      b.columnBuffer [], ← callbacksOf_core [] reply, hcore, callbacksOf_append hsilent]
  have herror : (errorsIn reply).head? = fate.error?.or sync := by
    rw [← errorsIn_core, hcore, errorsIn_append, hread.errorsIn_eq, hsync.errorsIn_eq]
    cases fate.error? <;> cases sync <;> rfl
  rw [herror]
  constructor
  · intro handler e hr
    obtain ⟨m, hat, hhandler, hnil, hexec⟩ := exec_result hcut hready husable hencode handler
    rw [hreply] at hexec
    rw [← hhandler, ← hnil, ← hcalls { c.bufferSet with
      writeBuffer := execFrames statement params values }] at hr
    have herr := (ExtendedQueryStateMachine.run_executed hread hsync hall hwell hat).2 e hr
    generalize hrun : runMachine ExtendedQueryStateMachine.step _ _ = r at herr
    obtain ⟨o, r⟩ := r
    dsimp only at herr
    subst herr
    exact hexec _ r (by simp) hrun
  · intro handler hw
    obtain ⟨m, hat, hhandler, hnil, hexec⟩ := exec_result hcut hready husable hencode handler
    rw [hreply] at hexec
    rw [← hhandler, ← hnil, ← hcalls { c.bufferSet with
      writeBuffer := execFrames statement params values }] at hw
    obtain ⟨v, r, hrun, hv, hmade⟩ :=
      ExtendedQueryStateMachine.run_answered hread hsync hall hwell hat hw
    have hres := hexec _ r (by simp) hrun
    rw [hnil, List.nil_append, hcalls] at hmade
    rw [hres, ← hv]
    cases hverdict : v.error with
    | none =>
      simp only [Outcome.bind, concluded, hverdict, resultOf]
      exact congrArg Outcome.ok hmade
    | some e => simp [Outcome.bind, concluded, hverdict, resultOf]

/-- What the methods of the simple protocol return: the rows of all results of the reply, decoded in
order; the first of them; what a closure makes of one after the other; the count in the last tag.
The first row that is not decoded decides, and behind the handler the error of the reply does. -/
theorem query_exact (hP : P.NoCopy) (hc : c.Regular) (ha : c.Aligned)
    (hcut : c.stream.cut = none) (hready : c.exchangeReady = true)
    (husable : (Driver.refuses K && c.isBroken) = false) {sql : String}
    (hopen : (P.session (P.respond c.stream.peer (.query sql)).2).mode ≠ .closed)
    (type : FromRow α) (f : σ → α → Except Error σ) (s : σ) :
    let calls := callbacksOf [] (c.reply [.query sql])
    let error := (errorsIn (c.reply [.query sql])).head?
    let decode := fun r : List FieldDescription × DataRow => type.fromRowText r.1 r.2
    (queryCollect type sql c).1 = resultOf error ((describedRows calls).mapM decode) ∧
    (queryFirst type sql c).1 = resultOf error ((describedRows calls).head?.mapM decode) ∧
    (queryForeach type f s sql c).1 =
      resultOf error ((describedRows calls).foldlM (fun s r => decode r >>= f s) s) ∧
    (queryAffected sql c).1 =
      resultOf error (.ok ((endTags calls).getLast?.bind rowsAffected)) := by
  exact (query_returns hP hc ha hcut hready husable hopen).exact type.fromRowText f s

/-- The same of the extended protocol, whose rows are binary. -/
theorem exec_exact (hP : P.NoCopy) (hc : c.Regular) (ha : c.Aligned)
    (hcut : c.stream.cut = none) (hready : c.exchangeReady = true)
    (husable : (Driver.refuses K && c.isBroken) = false) {statement : StatementRef}
    {params : Params} {values : Bytes}
    (hencode : params.encode (statement.targetOids params) = .ok values)
    (hopen : (P.session (P.feed c.stream.peer (execFrames statement params values)).2).mode ≠
      .closed)
    (type : FromRow α) (f : σ → α → Except Error σ) (s : σ) :
    let calls := callbacksOf [] (c.reply (execFrames statement params values))
    let error := (errorsIn (c.reply (execFrames statement params values))).head?
    let decode := fun r : List FieldDescription × DataRow => type.fromRowBinary r.1 r.2
    (execCollect type statement params c).1 = resultOf error ((describedRows calls).mapM decode) ∧
    (execFirst type statement params c).1 =
      resultOf error ((describedRows calls).head?.mapM decode) ∧
    (execForeach type f s statement params c).1 =
      resultOf error ((describedRows calls).foldlM (fun s r => decode r >>= f s) s) ∧
    (execAffected statement params c).1 =
      resultOf error (.ok ((endTags calls).getLast?.bind rowsAffected)) := by
  exact (exec_returns hP hc ha hcut hready husable hencode hopen).exact type.fromRowBinary f s

/-- A row read as the number of its columns; a binary row without columns is refused. -/
def countColumns : FromRow Nat where
  fromRowText _ row := .ok row.numColumns
  fromRowBinary _ row :=
    if row.numColumns = 0 then .error (.decode "no columns") else .ok row.numColumns

/-- A server that answers every statement with two rows, after the startup exchange. -/
def rowsServed : Tokio.Conn (Reference.scripted fun _ => .select 2) :=
  .fresh Reference.start ⟨false, false⟩

theorem query_exact_rowsServed :
    (queryCollect countColumns "SELECT" rowsServed).1 = .ok [0, 0] ∧
    (queryFirst countColumns "SELECT" rowsServed).1 = .ok (some 0) ∧
    (queryForeach countColumns (fun n k => .ok (n + k + 1)) 0 "SELECT" rowsServed).1 = .ok 2 ∧
    (queryAffected "SELECT" rowsServed).1 = .ok none :=
  query_exact (c := rowsServed) (Reference.peer_noCopy _) (by decide +kernel) (by decide +kernel)
    rfl (by decide +kernel) (by decide +kernel) (by decide +kernel) countColumns
    (fun n k => .ok (n + k + 1)) 0

theorem exec_exact_rowsServed :
    (execCollect countColumns (.sql "SELECT") .none rowsServed).1 = .err (.decode "no columns") ∧
    (execFirst countColumns (.sql "SELECT") .none rowsServed).1 = .err (.decode "no columns") ∧
    (execForeach countColumns (fun n k => .ok (n + k)) 0 (.sql "SELECT") .none rowsServed).1 =
      .err (.decode "no columns") ∧
    (execAffected (.sql "SELECT") .none rowsServed).1 = .ok none :=
  exec_exact (c := rowsServed) (Reference.peer_noCopy _) (by decide +kernel) (by decide +kernel)
    rfl (by decide +kernel) (by decide +kernel)
    (rfl : Params.encode .none (StatementRef.targetOids (.sql "SELECT") .none) = .ok [])
    (by decide +kernel) countColumns (fun n k => .ok (n + k)) 0

end Conn

end ZeroPostgres
