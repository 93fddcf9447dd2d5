import ZeroPostgres.Conn.Cancellation
import ZeroPostgres.Pool.Returned
import ZeroPostgres.Lib.Threads
import ZeroPostgres.Opts

/-!
# The pool of the single-threaded client

`src/src/compio/pool.rs`. Tasks change places at await points only, so what lies between two of
them is one step: a `get` pops and finds what it pings next, and `check_in` looks at the length of
the stack and pushes. The connections are those of `src/src/compio/conn.rs`, whose code is that of
the asynchronous client but for buffers that are moved into a write.

`run_exclusive` speaks of any connections, `run_hygienic` of those whose holders make the calls of
`Conn/Cancellation.lean` and drop them where they like.
-/

namespace ZeroPostgres

namespace Compio

/-- Where a task is in `get`, with a `PooledConn`, or in a detached `check_in`. -/
inductive PoolTask (C : Type) where
  /-- A `get` that was not polled yet. -/
  | starting
  /-- With a connection taken from the stack. -/
  | pinging (conn : C)
  /-- In `Conn::new`. -/
  | connecting
  /-- With a `PooledConn`. -/
  | holding (conn : C)
  /-- A spawned `check_in`. -/
  | checkingIn (conn : C)
deriving DecidableEq, Repr

/-- What a task does next, with what comes of it where the pool has no say in it. `cancel` drops a
future at the await point where it waits. -/
inductive PoolAct (C Op : Type) where
  | poll
  | ping
  | connect (result : Outcome Error C)
  | use (op : Op)
  | drop
  | checkIn
  | cancel

/-- `struct Pool`, `src/src/compio/pool.rs:13–17`: the stack, its top last, and its bound. -/
structure PoolShared (C : Type) where
  conns : List C
  maxIdle : Nat
deriving DecidableEq, Repr

/-- A pool and its tasks. -/
abbrev Pool (C : Type) := Threads (PoolShared C) (PoolTask C)

namespace Pool

variable {C Op : Type} (api : ConnApi C Op)

/-- `new`, `src/src/compio/pool.rs:20–27`. -/
def new (opts : Opts) : Pool C := ⟨⟨[], opts.poolMaxIdleConn⟩, []⟩

/-- The head of the loop of `get`, `src/src/compio/pool.rs:30–41`: `pop`, and what is awaited
next. -/
def pop (p : PoolShared C) : PoolShared C × PoolTask C :=
  match p.conns.getLast? with
  | some c => ({ p with conns := p.conns.dropLast }, .pinging c)
  | none => (p, .connecting)

/-- The end of `check_in`, `src/src/compio/pool.rs:55–58`: a connection that does not fit is
closed. -/
def push (p : PoolShared C) (conn : C) : PoolShared C :=
  if p.conns.length < p.maxIdle then { p with conns := p.conns ++ [conn] } else p

/-- One step of a task in `get` (`src/src/compio/pool.rs:29–46`), of the holder of a connection, of
a drop (`src/src/compio/pool.rs:79–89`) or of `check_in` (`src/src/compio/pool.rs:48–59`). A
future that ends early drops what it has: its connection is closed. -/
def own : PoolAct C Op → PoolShared C → PoolTask C → Option (PoolShared C × List (PoolTask C))
  | .poll, p, .starting => some ((pop p).1, [(pop p).2])
  | .cancel, p, .starting => some (p, [])
  | .ping, p, .pinging c =>
    match api.ping c with
    | (.ok (), c) => some (p, [.holding c])
    | (.err _, _) => some ((pop p).1, [(pop p).2])
    | (.halt, _) => some (p, [])
  | .cancel, p, .pinging _ => some (p, [])
  | .connect result, p, .connecting =>
    match result with
    | .ok c => some (p, [.holding c])
    | _ => some (p, [])
  | .cancel, p, .connecting => some (p, [])
  | .use op, p, .holding c => some (p, [.holding (api.use op c)])
  | .drop, p, .holding c => some (p, [.checkingIn c])
  | .checkIn, p, .checkingIn c =>
    if api.isBroken c then some (p, [])
    else match api.discardAll c with
      | (.ok (), c) => some (push p c, [])
      | _ => some (p, [])
  | .cancel, p, .checkingIn _ => some (p, [])
  | _, _, _ => none

/-- One turn. -/
def step : Pool C → Turn (PoolAct C Op) → Option (Pool C) := Threads.step .starting (own api)

/-! ### Whose a connection is -/

/-- The connection of a task. -/
def conn? : PoolTask C → Option C
  | .pinging c | .holding c | .checkingIn c => some c
  | .starting | .connecting => none

/-- The connections of a pool: idle on the stack, or with a task. -/
def conns (p : Pool C) : List C := p.shared.conns ++ p.tasks.filterMap conn?

section Exclusive

variable {Id : Type} (ident : C → Id)

/-- Nothing that the pool or a holder does with a connection makes it another one. -/
structure Identifies (api : ConnApi C Op) : Prop where
  ping : ∀ c, ident (api.ping c).2 = ident c
  discardAll : ∀ c, ident (api.discardAll c).2 = ident c
  use : ∀ op c, ident (api.use op c) = ident c

/-- A connection that is opened is none of those the pool has. -/
def Fresh (p : Pool C) : Turn (PoolAct C Op) → Prop
  | .act _ (.connect (.ok c)) => ident c ∉ (conns p).map ident
  | _ => True

/-- What a `get` pops was on the stack. -/
theorem pop_conns (p : PoolShared C) :
    (pop p).1.conns ++ (conn? (pop p).2).toList = p.conns ∧ (pop p).1.maxIdle = p.maxIdle := by
  unfold pop
  cases h : p.conns.getLast? with
  | none => exact ⟨List.append_nil _, rfl⟩
  | some c =>
    obtain ⟨cs, hcs⟩ := List.getLast?_eq_some_iff.mp h
    refine ⟨?_, rfl⟩
    dsimp only
    rw [hcs, List.dropLast_concat]
    rfl

theorem push_conns (p : PoolShared C) (c : C) : (push p c).conns <+: p.conns ++ [c] := by
  unfold push
  split
  · exact List.prefix_rfl
  · exact List.prefix_append _ _

/-- A step drops connections, or it opens one. -/
theorem own_conns {ident : C → Id} (hident : Identifies ident api) {act : PoolAct C Op}
    {p p' : PoolShared C} {t : PoolTask C} {ts : List (PoolTask C)}
    (h : own api act p t = some (p', ts)) :
    ((p'.conns ++ ts.filterMap conn?).map ident).Sublist ((p.conns ++ (conn? t).toList).map ident) ∨
      ∃ c, act = .connect (.ok c) ∧ t = .connecting ∧ p' = p ∧ ts = [.holding c] := by
  have popped (c : List C) : (((pop p).1.conns ++ [(pop p).2].filterMap conn?).map ident).Sublist
      ((p.conns ++ c).map ident) := by
    have hpop := (pop_conns p).1
    have htask : [(pop p).2].filterMap conn? = (conn? (pop p).2).toList := by
      cases (pop p).2 <;> rfl
    rw [htask, hpop, List.map_append]
    exact List.sublist_append_left _ _
  have dropped {c : List C} :
      ((p.conns ++ ([] : List (PoolTask C)).filterMap conn?).map ident).Sublist
        ((p.conns ++ c).map ident) := by
    rw [List.filterMap_nil, List.append_nil, List.map_append]
    exact List.sublist_append_left _ _
  have same {c c' : C} (hc : ident c' = ident c) :
      ((p.conns ++ [c']).map ident).Sublist ((p.conns ++ [c]).map ident) := by
    rw [List.map_append, List.map_append, List.map_singleton, List.map_singleton, hc]
  cases act <;> cases t <;> simp only [own, reduceCtorEq] at h
  case poll.starting =>
    cases h
    exact .inl (popped [])
  case ping.pinging c =>
    have hc := hident.ping c
    split at h
    · next c' hping =>
      cases h
      rw [hping] at hc
      exact .inl (same hc)
    · cases h
      exact .inl (popped [c])
    · cases h
      exact .inl dropped
  case connect.connecting result =>
    split at h
    · cases h
      exact .inr ⟨_, rfl, rfl, rfl, rfl⟩
    · cases h
      exact .inl dropped
  case use.holding op c =>
    cases h
    exact .inl (same (hident.use op c))
  case drop.holding c =>
    cases h
    exact .inl (same rfl)
  case checkIn.checkingIn c =>
    have hc := hident.discardAll c
    split at h
    · cases h
      exact .inl dropped
    · split at h
      · next c' hdiscard =>
        cases h
        rw [hdiscard] at hc
        rw [List.filterMap_nil, List.append_nil]
        exact .inl (((push_conns p c').sublist.map ident).trans (same hc))
      · cases h
        exact .inl dropped
  all_goals
    cases h
    exact .inl dropped

/-- The stack is within its bound after every step. -/
theorem own_bounded {act : PoolAct C Op} {p p' : PoolShared C} {t : PoolTask C}
    {ts : List (PoolTask C)} (hp : p.conns.length ≤ p.maxIdle)
    (h : own api act p t = some (p', ts)) :
    p'.conns.length ≤ p'.maxIdle ∧ p'.maxIdle = p.maxIdle := by
  have popped : (pop p).1.conns.length ≤ (pop p).1.maxIdle ∧ (pop p).1.maxIdle = p.maxIdle := by
    obtain ⟨hconns, hmax⟩ := pop_conns p
    have hlength := congrArg List.length hconns
    rw [List.length_append] at hlength
    omega
  cases act <;> cases t <;> simp only [own, reduceCtorEq] at h
  case poll.starting =>
    cases h
    exact popped
  case ping.pinging c =>
    split at h
    · cases h
      exact ⟨hp, rfl⟩
    · cases h
      exact popped
    · cases h
      exact ⟨hp, rfl⟩
  case connect.connecting result =>
    split at h
    · cases h
      exact ⟨hp, rfl⟩
    · cases h
      exact ⟨hp, rfl⟩
  case checkIn.checkingIn c =>
    split at h
    · cases h
      exact ⟨hp, rfl⟩
    · split at h
      · cases h
        unfold push
        split
        · next hroom =>
          refine ⟨?_, rfl⟩
          rw [List.length_append]
          exact hroom
        · exact ⟨hp, rfl⟩
      · cases h
        exact ⟨hp, rfl⟩
  all_goals
    cases h
    exact ⟨hp, rfl⟩

/-- One turn duplicates no connection. -/
theorem step_exclusive {ident : C → Id} (hident : Identifies ident api) {p p' : Pool C}
    {e : Turn (PoolAct C Op)} (hp : ((conns p).map ident).Nodup) (hok : Fresh ident p e)
    (h : step api p e = some p') : ((conns p').map ident).Nodup := by
  -- the tasks that take no step can be set apart
  have hperm (a x t y : List C) : ((a ++ (x ++ t ++ y)).map ident).Perm
      ((a ++ t).map ident ++ (x ++ y).map ident) := by
    have hswap : (a ++ (x ++ t ++ y)).Perm (a ++ (t ++ x ++ y)) :=
      (List.perm_append_comm.append_right y).append_left a
    rw [← List.map_append, ← List.append_assoc (a ++ t), List.append_assoc a t x]
    rw [← List.append_assoc a (t ++ x) y] at hswap
    exact hswap.map _
  rcases Threads.step_cases h with ⟨-, rfl⟩ |
    ⟨i, act, xs, t, ys, sh, ts, rfl, ht, htasks, hown, rfl⟩
  · have hnone : [(PoolTask.starting : PoolTask C)].filterMap conn? = [] := rfl
    unfold conns at hp ⊢
    rw [List.filterMap_append, hnone, List.append_nil]
    exact hp
  · have hbefore : conns p = p.shared.conns ++
        (xs.filterMap conn? ++ (conn? t).toList ++ ys.filterMap conn?) := by
      unfold conns
      rw [htasks, List.filterMap_append, List.filterMap_cons]
      cases conn? t <;> simp
    have hafter : conns (⟨sh, xs ++ ts ++ ys⟩ : Pool C) = sh.conns ++
        (xs.filterMap conn? ++ ts.filterMap conn? ++ ys.filterMap conn?) := by
      unfold conns
      rw [List.filterMap_append, List.filterMap_append]
    rw [hafter, (hperm _ _ _ _).nodup_iff]
    rcases own_conns api hident hown with hsub | ⟨c, rfl, rfl, rfl, rfl⟩
    · rw [hbefore, (hperm _ _ _ _).nodup_iff] at hp
      exact hp.sublist (hsub.append_right _)
    · have hnew : ident c ∉ (conns p).map ident := hok
      have hall : ((p.shared.conns ++ [PoolTask.holding c].filterMap conn?).map ident ++
          (xs.filterMap conn? ++ ys.filterMap conn?).map ident).Perm
            (ident c :: (conns p).map ident) := by
        rw [hbefore, ← List.map_append, ← List.map_cons]
        refine List.Perm.map _ ?_
        simp only [List.filterMap_cons, List.filterMap_nil, conn?, Option.toList_none,
          List.append_nil, List.append_assoc, List.singleton_append]
        exact List.perm_middle
      rw [hall.nodup_iff, List.nodup_cons]
      exact ⟨hnew, hp⟩

/-- In any interleaving of tasks, no connection is in two places: two tasks, two places on the
stack, or one of each. The stack never holds more than `pool_max_idle_conn`. -/
theorem run_exclusive {ident : C → Id} (hident : Identifies ident api) {opts : Opts}
    {es : List (Turn (PoolAct C Op))} {p : Pool C}
    (hrun : runSteps (step api) (new opts) es = some p)
    (hok : Always (step api) (Fresh ident) (new opts) es) :
    ((conns p).map ident).Nodup ∧ p.shared.conns.length ≤ opts.poolMaxIdleConn := by
  let Inv (p : Pool C) : Prop := ((conns p).map ident).Nodup ∧
    p.shared.conns.length ≤ p.shared.maxIdle ∧ p.shared.maxIdle = opts.poolMaxIdleConn
  have hnew : Inv (new opts) := ⟨List.nodup_nil, Nat.zero_le _, rfl⟩
  have hstep (p : Pool C) (e : Turn (PoolAct C Op)) (p' : Pool C) (hp : Inv p)
      (hok : Fresh ident p e) (h : step api p e = some p') : Inv p' := by
    obtain ⟨hnodup, hbound, hmax⟩ := hp
    refine ⟨step_exclusive api hident hnodup hok h, ?_⟩
    rcases Threads.step_cases h with ⟨-, rfl⟩ | ⟨i, act, xs, t, ys, sh, ts, -, -, -, hown, rfl⟩
    · exact ⟨hbound, hmax⟩
    · obtain ⟨hbound', hmax'⟩ := own_bounded api hbound hown
      exact ⟨hbound', hmax'.trans hmax⟩
  obtain ⟨hnodup, hbound, hmax⟩ : Inv p := runSteps_inv hstep hnew hok hrun
  exact ⟨hnodup, hmax ▸ hbound⟩

end Exclusive

/-! ### What holders find on a connection -/

section Hygiene

open ZeroPostgres.Conn (AtRest Talked Clean Discarded clean_of_ping)
open ZeroPostgres.Tokio (Call Tidy Tidies Sealed)

variable {P : Peer}

/-- A connection to `P`, `src/src/compio/conn.rs`. -/
abbrev Conn (P : Peer) := ZeroPostgres.Tokio.Conn P

/-- The connections of a pool whose holders make any calls, each of them dropped or not. -/
def called : ConnApi (Conn P) Call := ZeroPostgres.Conn.api fun call c => (call.run c).2

/-- A new connection is one to a conformant server that has read the whole startup exchange. -/
def Relied (_ : Pool (Conn P)) : Turn (PoolAct (Conn P) Call) → Prop
  | .act _ (.connect (.ok c)) => c.Regular ∧ c.Aligned
  | _ => True

variable (opts : Opts)

/-- `c` is a connection as a holder dropped it in the run. -/
abbrev Dropped : List (Turn (PoolAct (Conn P) Call)) → Conn P → Prop :=
  DroppedIn (step called) (new opts) .drop .holding

/-- A holder's connection. -/
def Held (c : Conn P) : Prop := c.Regular ∧ Tidy c

/-- The connections of the pool. -/
def view : PoolView (PoolShared (Conn P)) (PoolTask (Conn P)) (PoolAct (Conn P) Call) (Conn P)
    Call where
  conns := PoolShared.conns
  place
    | .pinging c => .rested c
    | .holding c => .held c
    | .checkingIn c => .returned c
    | .starting | .connecting => .none
  event
    | .connect (.ok c) => .opened c
    | .use call => .used call
    | .drop => .dropped
    | .checkIn => .resetting
    | _ => .other
  drop := .drop
  holding := .holding
  eq_drop {a} h := by
    cases a with
    | drop => rfl
    | connect result => cases result <;> cases h
    | _ => cases h
  eq_holding {t c} h := by
    cases t with
    | holding c' =>
      cases h
      rfl
    | _ => cases h

/-- Every step of a task moves connections; here `check_in` puts into the stack itself. -/
theorem own_follows : (view (P := P)).Follows (fun call c => (call.run c).2) (own called) := by
  intro act p t p' ts h
  -- most steps leave the stack alone, and most end a task or leave it one connection
  have stack {e : PoolEvent (Conn P) Call} {place : Place (Conn P)} :
      ∀ c ∈ p.conns, Moves called p.conns e place (.rested c) := fun c hc => .queued hc
  have one {e : PoolEvent (Conn P) Call} {place : Place (Conn P)} {t : PoolTask (Conn P)}
      (h : Moves called p.conns e place (view.place t)) :
      ∀ t' ∈ [t], Moves called p.conns e place (view.place t') := by
    simpa using h
  have popped {e : PoolEvent (Conn P) Call} {place : Place (Conn P)} :
      (∀ c ∈ (pop p).1.conns, Moves called p.conns e place (.rested c)) ∧
        ∀ t' ∈ [(pop p).2], Moves called p.conns e place (view.place t') := by
    unfold pop
    cases hlast : p.conns.getLast? with
    | none => exact ⟨stack, one .away⟩
    | some c =>
      exact ⟨fun c' hc' => .queued ((List.dropLast_sublist _).subset hc'),
        one (.queued (List.mem_of_getLast? hlast))⟩
  cases act <;> cases t <;> simp only [own, reduceCtorEq] at h
  case poll.starting =>
    cases h
    exact popped
  case ping.pinging c =>
    split at h
    · next c' hping =>
      cases h
      exact ⟨stack, one (.pinged hping)⟩
    · cases h
      exact popped
    · cases h
      exact ⟨stack, by simp⟩
  case connect.connecting result =>
    split at h
    · cases h
      exact ⟨stack, one .opened⟩
    · cases h
      exact ⟨stack, by simp⟩
  case use.holding call c =>
    cases h
    exact ⟨stack, one .used⟩
  case drop.holding c =>
    cases h
    exact ⟨stack, one .dropped⟩
  case checkIn.checkingIn c =>
    split at h
    · cases h
      exact ⟨stack, by simp⟩
    · next hb =>
      split at h
      · next c' hdisc =>
        cases h
        refine ⟨fun c'' hc'' => ?_, by simp⟩
        rcases List.mem_append.mp ((push_conns p c').subset hc'') with hc'' | hc''
        · exact .queued hc''
        · rw [List.mem_singleton.mp hc'']
          exact .reset (eq_false_of_ne_true hb) hdisc
      · cases h
        exact ⟨stack, by simp⟩
  all_goals
    cases h
    exact ⟨stack, by simp⟩

variable {opts} {es : List (Turn (PoolAct (Conn P) Call))}

variable (hP : P.NoCopy)
include hP

/-- Whatever call a holder makes, and wherever it drops it. -/
theorem held_of_run {c : Conn P} (hc : Held c) (call : Call) : Held (call.run c).2 := by
  have htalks := (ZeroPostgres.Conn.withCut_talks call.operation.run_talks call.cut).rel c
  exact ⟨htalks.regular hP hc.1, (Call.run_keeps (R := Tidies) call).rel c hc.2⟩

/-- Calls that are dropped leave the connection tidy or unusable. -/
theorem honoured : (view (P := P)).Honoured (fun call c => (call.run c).2) Held Relied where
  regular h := h.1
  clean hr hclean := ⟨hr, fun _ => ⟨hclean.unread, .inl hclean.mode⟩⟩
  opened {p i a c} hok hevent := by
    cases a with
    | connect result =>
      cases result with
      | ok c' =>
        cases hevent
        exact ⟨hok.1, fun _ => ⟨hok.2.1, .inl hok.2.2⟩⟩
      | _ => cases hevent
    | _ => cases hevent
  used {p i a call t c} _ _ _ _ hc := held_of_run hP hc call
  unread _ _ _ _ hc hb := (hc.2 (ZeroPostgres.Tokio.ready_of_not_broken hb)).1

/-- In any interleaving of tasks whose holders make any calls and drop any of them at any await
point: a connection on the stack is there because DISCARD ALL, sent when its last holder had dropped
it, was answered with success and read through its ReadyForQuery, and a `get` that takes it off the
stack returns it clean. Everything a holder reads on a connection that is not broken answers its own
call, and a broken connection refuses every call and sends nothing. -/
theorem run_hygienic {p : Pool (Conn P)} (hok : Always (step called) Relied (new opts) es)
    (hrun : runSteps (step called) (new opts) es = some p) :
    (∀ c ∈ p.shared.conns, ∃ c₀, Dropped opts es c₀ ∧ Discarded c₀ c) ∧
    (∀ (i : Nat) (c c' : Conn P), p.tasks[i]? = some (.pinging c) →
      ZeroPostgres.Conn.ping c = (.ok (), c') → Clean c') ∧
    ∀ (i : Nat) (c : Conn P), p.tasks[i]? = some (.holding c) → ∀ call : Call,
      (c.isBroken = false → ∃ sent read, Talked sent read c (call.run c).2 ∧
        core (P.feed c.stream.peer sent).1 = core read ++ (call.run c).2.unread) ∧
      (c.isBroken = true → (call.run c).2.isBroken = true ∧
        (call.run c).2.stream.log = c.stream.log ∧
        (call.operation.isCall = true → ∃ e, (call.run c).1 = .err e)) := by
  have hinv := PoolView.run_kept hP (honoured hP) own_follows rfl rfl rfl hok hrun
  refine ⟨fun c hc => (hinv.1 c hc).2, fun i c c' ht hping => ?_, fun i c ht call => ⟨?_, ?_⟩⟩
  · obtain ⟨hr, c₀, -, hdisc⟩ : AtRest (Dropped opts es) c := hinv.2 _ (List.mem_of_getElem? ht)
    exact clean_of_ping hP hr hdisc.clean hping
  · intro hb
    obtain ⟨-, htidy⟩ : Held c := hinv.2 _ (List.mem_of_getElem? ht)
    have hu := (htidy (ZeroPostgres.Tokio.ready_of_not_broken hb)).1
    obtain ⟨sent, read, htalked⟩ :=
      (ZeroPostgres.Conn.withCut_talks call.operation.run_talks call.cut).rel c
    exact ⟨sent, read, htalked, htalked.answers_own hu⟩
  · intro hb
    have hsealed : Sealed c (call.run c).2 :=
      (ZeroPostgres.Tokio.withCut_sealed call.operation.run_sealed call.cut).rel c
    obtain ⟨hb', hlog⟩ := hsealed hb
    exact ⟨hb', hlog, fun hcall => ZeroPostgres.Tokio.call_refused hb hcall⟩

end Hygiene

/-! ### Three holders -/

/-- Connections with a tag that nothing looks at. -/
def tagged (api : ConnApi C Op) : ConnApi (C × Nat) Op where
  isBroken c := api.isBroken c.1
  ping c := ((api.ping c.1).1, (api.ping c.1).2, c.2)
  discardAll c := ((api.discardAll c.1).1, (api.discardAll c.1).2, c.2)
  use op c := (api.use op c.1, c.2)

theorem tagged_identifies : Identifies Prod.snd (tagged api) :=
  ⟨fun _ => rfl, fun _ => rfl, fun _ _ => rfl⟩

section Holders

open ZeroPostgres.Conn (Talked Clean Discarded)
open ZeroPostgres.Tokio (Call connected)

instance (p : Pool (Conn SyncedRequest.rejectingFail)) :
    ∀ e : Turn (PoolAct (Conn SyncedRequest.rejectingFail) Call), Decidable (Relied p e)
  | .act _ (.connect (.ok c)) => inferInstanceAs (Decidable (c.Regular ∧ c.Aligned))
  | .spawn | .act _ .poll | .act _ .ping | .act _ (.connect (.err _)) | .act _ (.connect .halt)
  | .act _ (.use _) | .act _ .drop | .act _ .checkIn | .act _ .cancel => .isTrue trivial

instance (p : Pool (Conn SyncedRequest.rejectingFail × Nat)) :
    ∀ e : Turn (PoolAct (Conn SyncedRequest.rejectingFail × Nat) Call),
      Decidable (Fresh Prod.snd p e)
  | .act _ (.connect (.ok c)) => inferInstanceAs (Decidable (c.2 ∉ (conns p).map Prod.snd))
  | .spawn | .act _ .poll | .act _ .ping | .act _ (.connect (.err _)) | .act _ (.connect .halt)
  | .act _ (.use _) | .act _ .drop | .act _ .checkIn | .act _ .cancel => .isTrue trivial

/-- A `get` that opens a connection, one call on it, its drop and `check_in`. -/
def useOnce {C : Type} (c : C) (call : Call) : List (Turn (PoolAct C Call)) :=
  [.spawn, .act 0 .poll, .act 0 (.connect (.ok c)), .act 0 (.use call), .act 0 .drop,
    .act 0 .checkIn]

/-- One holder leaves a transaction open, one drops its query while the reply is on its way, and
one behaves. The next `get` has what the third one returned. -/
def threeHolders {C : Type} (opened : Nat → C) : List (Turn (PoolAct C Call)) :=
  useOnce (opened 0) ⟨.query "BEGIN" DropHandler, none⟩ ++
    useOnce (opened 1) ⟨.query "SELECT" DropHandler, some ⟨2, 0⟩⟩ ++
    useOnce (opened 2) ⟨.query "SELECT" DropHandler, none⟩ ++ [.spawn, .act 0 .poll]

theorem threeHolders_run : (runSteps (step called) (new Opts.default)
    (threeHolders fun _ => connected)).isSome = true := by decide +kernel

/-- The pool at the end. -/
def served : Pool (Conn SyncedRequest.rejectingFail) :=
  (runSteps (step called) (new Opts.default) (threeHolders fun _ => connected)).get threeHolders_run

theorem served_run : runSteps (step called) (new Opts.default) (threeHolders fun _ => connected) =
    some served := by
  unfold served
  exact (Option.some_get threeHolders_run).symm

theorem run_hygienic_threeHolders :
    (∀ c ∈ served.shared.conns,
      ∃ c₀, Dropped Opts.default (threeHolders fun _ => connected) c₀ ∧ Discarded c₀ c) ∧
    (∀ (i : Nat) (c c' : Conn SyncedRequest.rejectingFail),
      served.tasks[i]? = some (.pinging c) →
        ZeroPostgres.Conn.ping c = (.ok (), c') → Clean c') ∧
    ∀ (i : Nat) (c : Conn SyncedRequest.rejectingFail), served.tasks[i]? = some (.holding c) →
      ∀ call : Call,
      (c.isBroken = false → ∃ sent read, Talked sent read c (call.run c).2 ∧
        core (SyncedRequest.rejectingFail.feed c.stream.peer sent).1 =
          core read ++ (call.run c).2.unread) ∧
      (c.isBroken = true → (call.run c).2.isBroken = true ∧
        (call.run c).2.stream.log = c.stream.log ∧
        (call.operation.isCall = true → ∃ e, (call.run c).1 = .err e)) :=
  run_hygienic (P := SyncedRequest.rejectingFail) (Reference.rejecting_noCopy _ _)
    (by decide +kernel) served_run

/-- The same pool over connections that are told apart by the order in which they were opened. -/
theorem threeTagged_run : (runSteps (step (tagged called)) (new Opts.default)
    (threeHolders fun n => (connected, n))).isSome = true := by decide +kernel

theorem run_exclusive_threeHolders :
    ((conns ((runSteps (step (tagged called)) (new Opts.default)
      (threeHolders fun n => (connected, n))).get threeTagged_run)).map Prod.snd).Nodup ∧
    ((runSteps (step (tagged called)) (new Opts.default)
      (threeHolders fun n => (connected, n))).get threeTagged_run).shared.conns.length ≤
        Opts.default.poolMaxIdleConn :=
  run_exclusive (tagged called) (tagged_identifies called) (Option.some_get threeTagged_run).symm
    (by decide +kernel)

end Holders

end Pool

end Compio

end ZeroPostgres
