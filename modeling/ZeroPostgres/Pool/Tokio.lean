import ZeroPostgres.Conn.Tokio
import ZeroPostgres.Lib.Threads
import ZeroPostgres.Opts
import ZeroPostgres.Pool.Api
import ZeroPostgres.Server.Reference

/-!
# The asynchronous pool

`src/src/tokio/pool.rs`. A permit is a value of the `get` that took it and then of its
`PooledConn`, so it comes back however either of them ends. The drop of a `PooledConn` spawns
`check_in` as a task of its own and gives the permit back without waiting for it: connections
outlive their permits. `run_bounded` says when there are nevertheless no more connections than
permits.
-/

namespace ZeroPostgres

namespace Tokio

/-- Where a task is in `get`, with a `PooledConn`, in the drop of one, or in `check_in`. -/
inductive PoolTask (C : Type) where
  /-- Before `acquire_owned`. -/
  | acquiring
  /-- At the head of the loop of `get`, with a permit. -/
  | popping
  /-- With a permit and a connection taken from the queue. -/
  | pinging (conn : C)
  /-- In `Conn::new`, with a permit. -/
  | connecting
  /-- With a `PooledConn`. -/
  | holding (conn : C)
  /-- In the drop of a `PooledConn` whose `check_in` is spawned, with its permit. -/
  | dropping
  /-- A spawned `check_in`. -/
  | checkingIn (conn : C)
  /-- In `check_in`, after DISCARD ALL. -/
  | pushing (conn : C)
deriving DecidableEq, Repr

/-- What a task does next, with what comes of it where the pool has no say in it. `cancel` drops
a future at the await point where it waits. -/
inductive PoolAct (C Op : Type) where
  | acquire
  | pop
  | ping
  | connect (result : Outcome Error C)
  | use (op : Op)
  | drop
  | release
  | checkIn
  | push
  | cancel

/-- `struct Pool`, `src/src/tokio/pool.rs:15–19`: the permits of the semaphore, if there is one,
and the queue with its capacity. -/
structure PoolShared (C : Type) where
  permits : Option Nat
  conns : List C
  capacity : Nat
deriving DecidableEq, Repr

/-- A pool and its tasks. -/
abbrev Pool (C : Type) := Threads (PoolShared C) (PoolTask C)

namespace Pool

variable {C Op : Type} (api : ConnApi C Op)

/-- `new`, `src/src/tokio/pool.rs:22–31`. -/
def new (opts : Opts) : Pool C := ⟨⟨opts.poolMaxConcurrency, [], opts.poolMaxIdleConn⟩, []⟩

/-- `acquire_owned`: it waits for a permit. -/
def acquire (p : PoolShared C) : Option (PoolShared C) :=
  match p.permits with
  | none => some p
  | some 0 => none
  | some (count + 1) => some { p with permits := some count }

/-- The drop of a permit. -/
def release (p : PoolShared C) : PoolShared C := { p with permits := p.permits.map (· + 1) }

/-- `push` of the queue: a connection that does not fit is closed. -/
def push (p : PoolShared C) (conn : C) : PoolShared C :=
  if p.conns.length < p.capacity then { p with conns := p.conns ++ [conn] } else p

theorem acquire_conns {p q : PoolShared C} (h : acquire p = some q) : q.conns = p.conns := by
  unfold acquire at h
  split at h
  · cases h; rfl
  · cases h
  · cases h; rfl

/-- `push` adds the connection or nothing. -/
theorem push_conns (p : PoolShared C) (conn : C) : (push p conn).conns ⊆ p.conns ++ [conn] := by
  unfold push
  split
  · exact List.Subset.refl _
  · exact List.subset_append_left _ _

/-- One step of a task in `get` (`src/src/tokio/pool.rs:32–62`), of the holder of a connection,
of a drop (`src/src/tokio/pool.rs:94–103`) or of `check_in` (`src/src/tokio/pool.rs:64–72`). A
future that ends early drops what it has: its connection is closed, its permit comes back. -/
def own : PoolAct C Op → PoolShared C → PoolTask C → Option (PoolShared C × List (PoolTask C))
  | .acquire, p, .acquiring => (acquire p).map fun p => (p, [.popping])
  | .cancel, p, .acquiring => some (p, [])
  | .pop, p, .popping =>
    match p.conns with
    | c :: conns => some ({ p with conns }, [.pinging c])
    | [] => some (p, [.connecting])
  | .ping, p, .pinging c =>
    match api.ping c with
    | (.ok (), c) => some (p, [.holding c])
    | (.err _, _) => some (p, [.popping])
    | (.halt, _) => some (release p, [])
  | .cancel, p, .pinging _ => some (release p, [])
  | .connect result, p, .connecting =>
    match result with
    | .ok c => some (p, [.holding c])
    | _ => some (release p, [])
  | .cancel, p, .connecting => some (release p, [])
  | .use op, p, .holding c => some (p, [.holding (api.use op c)])
  | .drop, p, .holding c => some (p, [.dropping, .checkingIn c])
  | .release, p, .dropping => some (release p, [])
  | .checkIn, p, .checkingIn c =>
    if api.isBroken c then some (p, [])
    else match api.discardAll c with
      | (.ok (), c) => some (p, [.pushing c])
      | _ => some (p, [])
  | .cancel, p, .checkingIn _ => some (p, [])
  | .push, p, .pushing c => some (push p c, [])
  | _, _, _ => none

/-- One turn. -/
def step : Pool C → Turn (PoolAct C Op) → Option (Pool C) := Threads.step .acquiring (own api)

/-! ### Permits and connections -/

/-- The task has a permit. -/
def hasPermit : PoolTask C → Nat
  | .popping | .pinging _ | .connecting | .holding _ | .dropping => 1
  | _ => 0

/-- The task has a permit and neither a connection nor one that is being opened. -/
def isSpare : PoolTask C → Nat
  | .popping | .dropping => 1
  | _ => 0

/-- The task resets a connection that was returned. -/
def isReset : PoolTask C → Nat
  | .checkingIn _ | .pushing _ => 1
  | _ => 0

/-- The task has an open connection: checked out, taken from the queue by a `get`, or being
reset. -/
def isOpen : PoolTask C → Nat
  | .pinging _ | .holding _ | .checkingIn _ | .pushing _ => 1
  | _ => 0

/-- The task opens a connection. -/
def isConnecting : PoolTask C → Nat
  | .connecting => 1
  | _ => 0

/-- The connections of the pool that are open: with a task, or idle in the queue. -/
def openConns (p : Pool C) : Nat := p.shared.conns.length + p.total isOpen

/-- A `get` that finds the queue empty finds fewer connections being reset than there are permits
that no connection belongs to, its own among them. -/
def OpensWithin (p : Pool C) : Turn (PoolAct C Op) → Prop
  | .act _ .pop => p.shared.conns = [] →
      ∀ count ∈ p.shared.permits, p.total isReset < count + p.total isSpare
  | _ => True

instance (p : Pool C) : ∀ e : Turn (PoolAct C Op), Decidable (OpensWithin p e)
  | .act _ .pop => inferInstanceAs (Decidable (p.shared.conns = [] →
      ∀ count ∈ p.shared.permits, p.total isReset < count + p.total isSpare))
  | .spawn | .act _ .acquire | .act _ .ping | .act _ (.connect _) | .act _ (.use _)
  | .act _ .drop | .act _ .release | .act _ .checkIn | .act _ .push | .act _ .cancel =>
    .isTrue trivial

/-- A permit or a connection being reset is a spare permit, an open connection or one that is
being opened. -/
theorem total_split (p : Pool C) : p.total hasPermit + p.total isReset =
    p.total isSpare + p.total isOpen + p.total isConnecting := by
  rw [← Threads.total_add, ← Threads.total_add, ← Threads.total_add]
  congr 1
  funext t
  cases t <;> rfl

/-- Every step moves its permit between the semaphore and the task. -/
theorem own_permits {act : PoolAct C Op} {p p' : PoolShared C} {t : PoolTask C}
    {ts : List (PoolTask C)} (h : own api act p t = some (p', ts)) :
    ∀ count ∈ p.permits, ∃ count' ∈ p'.permits,
      count' + (ts.map hasPermit).sum = count + hasPermit t := by
  intro count hc
  -- the steps that leave the semaphore alone, and those that give the permit back
  have same (hp : p'.permits = p.permits) (hts : (ts.map hasPermit).sum = hasPermit t) :
      ∃ count' ∈ p'.permits, count' + (ts.map hasPermit).sum = count + hasPermit t :=
    ⟨count, hp ▸ hc, by rw [hts]⟩
  have back (hp : p' = release p) (hts : ts = []) (ht : hasPermit t = 1) :
      ∃ count' ∈ p'.permits, count' + (ts.map hasPermit).sum = count + hasPermit t := by
    subst hp hts
    refine ⟨count + 1, ?_, by simp [ht]⟩
    rw [Option.mem_def] at hc
    simp [release, hc]
  cases act <;> cases t <;> simp only [own, reduceCtorEq] at h
  case acquire.acquiring =>
    obtain ⟨q, hq, hr⟩ := Option.map_eq_some_iff.mp h
    cases hr
    rw [Option.mem_def] at hc
    simp only [acquire, hc] at hq
    cases count with
    | zero => cases hq
    | succ count =>
      cases hq
      exact ⟨count, rfl, rfl⟩
  case pop.popping =>
    split at h
    · cases h
      exact same rfl rfl
    · cases h
      exact same rfl rfl
  case ping.pinging c =>
    split at h
    · cases h
      exact same rfl rfl
    · cases h
      exact same rfl rfl
    · cases h
      exact back rfl rfl rfl
  case connect.connecting result =>
    split at h
    · cases h
      exact same rfl rfl
    · cases h
      exact back rfl rfl rfl
  case checkIn.checkingIn c =>
    split at h
    · cases h
      exact same rfl rfl
    · split at h
      · cases h
        exact same rfl rfl
      · cases h
        exact same rfl rfl
  case push.pushing c =>
    cases h
    refine same ?_ rfl
    unfold push
    split <;> rfl
  case release.dropping =>
    cases h
    exact back rfl rfl rfl
  case cancel.pinging =>
    cases h
    exact back rfl rfl rfl
  case cancel.connecting =>
    cases h
    exact back rfl rfl rfl
  all_goals
    cases h
    exact same rfl rfl

/-- The connections a step leaves open or opens: no more than before, except that a `get` which
finds the queue empty opens one. -/
theorem own_conns {act : PoolAct C Op} {p p' : PoolShared C} {t : PoolTask C}
    {ts : List (PoolTask C)} (h : own api act p t = some (p', ts)) :
    p'.conns.length + (ts.map fun t => isOpen t + isConnecting t).sum ≤
        p.conns.length + (isOpen t + isConnecting t) ∨
      (∃ u, act = .pop ∧ t = .popping ∧ p.conns = [] ∧ p' = p ∧ ts = [u] ∧
        isOpen u + isConnecting u = 1) := by
  have fewer (hp : p'.conns = p.conns)
      (hts : (ts.map fun t => isOpen t + isConnecting t).sum ≤ isOpen t + isConnecting t) :
      p'.conns.length + (ts.map fun t => isOpen t + isConnecting t).sum ≤
        p.conns.length + (isOpen t + isConnecting t) := by
    rw [hp]
    omega
  cases act <;> cases t <;> simp only [own, reduceCtorEq] at h
  case acquire.acquiring =>
    obtain ⟨q, hq, hr⟩ := Option.map_eq_some_iff.mp h
    cases hr
    exact .inl (fewer (acquire_conns hq) (by simp [isOpen, isConnecting]))
  case pop.popping =>
    split at h
    · next c conns hconns =>
      cases h
      refine .inl ?_
      simp [hconns, isOpen, isConnecting]
    · next hnil =>
      cases h
      exact .inr ⟨_, rfl, rfl, hnil, rfl, rfl, rfl⟩
  case ping.pinging c =>
    split at h
    · cases h
      exact .inl (fewer rfl (by simp [isOpen, isConnecting]))
    · cases h
      exact .inl (fewer rfl (by simp [isOpen, isConnecting]))
    · cases h
      exact .inl (fewer rfl (by simp))
  case connect.connecting result =>
    split at h
    · cases h
      exact .inl (fewer rfl (by simp [isOpen, isConnecting]))
    · cases h
      exact .inl (fewer rfl (by simp))
  case checkIn.checkingIn c =>
    split at h
    · cases h
      exact .inl (fewer rfl (by simp))
    · split at h
      · cases h
        exact .inl (fewer rfl (by simp [isOpen, isConnecting]))
      · cases h
        exact .inl (fewer rfl (by simp))
  case push.pushing c =>
    cases h
    refine .inl ?_
    unfold push
    split <;> simp [isOpen, isConnecting]
  all_goals
    cases h
    exact .inl (fewer rfl (by simp [isOpen, isConnecting]))

/-- The permits are all there, and there are no more connections open or being opened. -/
structure Bounded (n : Nat) (p : Pool C) : Prop where
  permits : ∃ count ∈ p.shared.permits, count + p.total hasPermit = n
  conns : p.shared.conns.length + p.total (fun t => isOpen t + isConnecting t) ≤ n

theorem Bounded.openConns_le {n : Nat} {p : Pool C} (h : Bounded n p) : openConns p ≤ n := by
  have := h.conns
  rw [Threads.total_add] at this
  unfold openConns
  omega

/-- One turn keeps the bound unless it opens a connection beyond it. -/
theorem step_bounded {n : Nat} {p p' : Pool C} {e : Turn (PoolAct C Op)} (hp : Bounded n p)
    (hok : OpensWithin p e) (h : step api p e = some p') : Bounded n p' := by
  obtain ⟨count, hcount, hsum⟩ := hp.permits
  have hconns := hp.conns
  constructor
  · rcases Threads.step_total (f := hasPermit) rfl h with ⟨hshared, htotal, -⟩ |
      ⟨i, act, t, ts, rfl, ht, hown, htotal⟩
    · exact ⟨count, hshared ▸ hcount, by omega⟩
    · obtain ⟨count', hcount', heq⟩ := own_permits api hown count hcount
      exact ⟨count', hcount', by omega⟩
  · rcases Threads.step_total (f := fun t => isOpen t + isConnecting t) rfl h with
      ⟨hshared, htotal, -⟩ | ⟨i, act, t, ts, rfl, ht, hown, htotal⟩
    · rw [hshared, htotal]
      exact hconns
    · rcases own_conns api hown with hle | ⟨u, rfl, rfl, hnil, hsame, rfl, hu⟩
      · omega
      · -- the queue is empty: what is open is reset or has a permit that is not spare
        have hspare := hok hnil count hcount
        have hsplit := total_split p
        have hadd := Threads.total_add isOpen isConnecting p
        have hzero :
            isOpen (.popping : PoolTask C) + isConnecting (.popping : PoolTask C) = 0 := rfl
        simp only [List.map_cons, List.map_nil, List.sum_cons, List.sum_nil, hu, hzero] at htotal
        rw [hsame, hnil, List.length_nil]
        omega

/-- There are never more connections open than `pool_max_concurrency`, in any run in which a
`get` that finds the queue empty always finds a permit to which no connection belongs for each
connection being reset. -/
theorem run_bounded {opts : Opts} {n : Nat} (hmax : opts.poolMaxConcurrency = some n)
    {es : List (Turn (PoolAct C Op))} {p : Pool C}
    (hrun : runSteps (step api) (new opts) es = some p)
    (hok : Always (step api) OpensWithin (new opts) es) : openConns p ≤ n := by
  have hnew : Bounded n (new opts : Pool C) :=
    ⟨⟨n, by simp [new, hmax], by simp [new, Threads.total]⟩, by simp [new, Threads.total]⟩
  have hinv : Bounded n p :=
    runSteps_inv (fun s e s' hs hok h => step_bounded api hs hok h) hnew hok hrun
  exact hinv.openConns_le

/-! ### One connection too many -/

/-- A pool of one permit, over connections to the reference server. -/
def onePermit : Opts := { Opts.default with poolMaxConcurrency := some 1 }

def referenceApi : ConnApi (Conn (Reference.scripted fun _ => .command)) Unit :=
  Conn.api fun _ c => c

/-- A `get` that opens a connection, and its drop. -/
def getAndDrop : List (Turn (PoolAct (Conn (Reference.scripted fun _ => .command)) Unit)) :=
  [.spawn, .act 0 .acquire, .act 0 .pop,
    .act 0 (.connect (.ok (.fresh Reference.start ⟨false, false⟩))), .act 0 .drop, .act 0 .release]

/-- The connection is reset and pushed, and the next `get` takes it from the queue. -/
def reuse : List (Turn (PoolAct (Conn (Reference.scripted fun _ => .command)) Unit)) :=
  getAndDrop ++ [.act 0 .checkIn, .act 0 .push, .spawn, .act 0 .acquire, .act 0 .pop, .act 0 .ping]

theorem reuse_runs : (runSteps (step referenceApi) (new onePermit) reuse).isSome = true := by
  decide +kernel

theorem run_bounded_reuse :
    openConns ((runSteps (step referenceApi) (new onePermit) reuse).get reuse_runs) ≤ 1 :=
  run_bounded referenceApi (rfl : onePermit.poolMaxConcurrency = some 1)
    (Option.some_get reuse_runs).symm
    (by decide +kernel)

/-- The next `get` comes while the connection is being reset: the permit is back already, the
queue is empty, and it opens a second one. -/
def overtake : List (Turn (PoolAct (Conn (Reference.scripted fun _ => .command)) Unit)) :=
  getAndDrop ++ [.spawn, .act 1 .acquire, .act 1 .pop,
    .act 1 (.connect (.ok (.fresh Reference.start ⟨false, false⟩)))]

theorem run_exceeds :
    ∃ p, runSteps (step referenceApi) (new onePermit) overtake = some p ∧
      p.tasks.map isOpen = [1, 1] ∧ openConns p = 2 ∧
      ¬ openConns p ≤ 1 := by
  refine ⟨_, rfl, rfl, rfl, by decide +kernel⟩

end Pool

end Tokio

end ZeroPostgres
