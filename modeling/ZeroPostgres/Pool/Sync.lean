import ZeroPostgres.Conn.Sync
import ZeroPostgres.Lib.Threads
import ZeroPostgres.Opts
import ZeroPostgres.Pool.Api
import ZeroPostgres.Server.Reference

/-!
# The blocking pool

`src/src/sync/pool.rs`. Any number of threads call `get` and drop what they got; a turn is one
step of one of them, between two of which the others may take theirs. `ConnApi` is what the pool
uses of a connection. A call that halts has panicked: its thread goes on unwinding.

A `get` takes its permit before anything else, and only the drop of a `PooledConn` gives one
back. `run_conserves` shows where the permits are for as long as no `get` fails.
-/

namespace ZeroPostgres

namespace Sync

/-- Where a thread is in `get`, with a `PooledConn`, or in the drop of one. -/
inductive PoolTask (C : Type) where
  /-- Before `acquire`. -/
  | acquiring
  /-- At the head of the loop of `get`. -/
  | popping
  /-- With a connection taken from the queue. -/
  | pinging (conn : C)
  /-- In `Conn::new`. -/
  | connecting
  /-- With a `PooledConn`. -/
  | holding (conn : C)
  /-- In `check_in`. -/
  | checkingIn (conn : C)
  /-- In `check_in`, after DISCARD ALL. -/
  | pushing (conn : C)
  /-- Before `release`. -/
  | releasing
deriving DecidableEq, Repr

/-- What a thread does next, with what comes of it where the pool has no say in it. -/
inductive PoolAct (C Op : Type) where
  | acquire
  | pop
  | ping
  | connect (result : Outcome Error C)
  | use (op : Op)
  | drop
  | checkIn
  | push
  | release

/-- `struct Pool`, `src/src/sync/pool.rs:13–17`: the count of the semaphore, if there is one,
and the queue with its capacity. -/
structure PoolShared (C : Type) where
  permits : Option Int
  conns : List C
  capacity : Nat
deriving DecidableEq, Repr

/-- A pool and its threads. -/
abbrev Pool (C : Type) := Threads (PoolShared C) (PoolTask C)

/-- `n as isize`. -/
def asIsize (n : Nat) : Int := (n : Int).bmod (2 ^ 64)

namespace Pool

variable {C Op : Type} (api : ConnApi C Op)

/-- `new`, `src/src/sync/pool.rs:20–29`. -/
def new (opts : Opts) : Pool C :=
  ⟨⟨opts.poolMaxConcurrency.map asIsize, [], opts.poolMaxIdleConn⟩, []⟩

/-- `acquire`: it waits for a positive count. -/
def acquire (p : PoolShared C) : Option (PoolShared C) :=
  match p.permits with
  | none => some p
  | some count => if 0 < count then some { p with permits := some (count - 1) } else none

/-- `release`. -/
def release (p : PoolShared C) : PoolShared C := { p with permits := p.permits.map (· + 1) }

/-- `push` of the queue: a connection that does not fit is closed. -/
def push (p : PoolShared C) (conn : C) : PoolShared C :=
  if p.conns.length < p.capacity then { p with conns := p.conns ++ [conn] } else p

theorem acquire_conns {p q : PoolShared C} (h : acquire p = some q) : q.conns = p.conns := by
  unfold acquire at h
  split at h
  · cases h; rfl
  · split at h
    · cases h; rfl
    · cases h

/-- `push` adds the connection or nothing. -/
theorem push_conns (p : PoolShared C) (conn : C) : (push p conn).conns ⊆ p.conns ++ [conn] := by
  unfold push
  split
  · exact List.Subset.refl _
  · exact List.subset_append_left _ _

/-- One step of a thread in `get` (`src/src/sync/pool.rs:31–50`), of the holder of a connection,
or of a drop (`src/src/sync/pool.rs:52–60`, `81–90`). -/
def own : PoolAct C Op → PoolShared C → PoolTask C → Option (PoolShared C × List (PoolTask C))
  | .acquire, p, .acquiring => (acquire p).map fun p => (p, [.popping])
  | .pop, p, .popping =>
    match p.conns with
    | c :: conns => some ({ p with conns }, [.pinging c])
    | [] => some (p, [.connecting])
  | .ping, p, .pinging c =>
    match api.ping c with
    | (.ok (), c) => some (p, [.holding c])
    | (.err _, _) => some (p, [.popping])
    | (.halt, _) => some (p, [])
  | .connect result, p, .connecting =>
    match result with
    | .ok c => some (p, [.holding c])
    | _ => some (p, [])
  | .use op, p, .holding c => some (p, [.holding (api.use op c)])
  | .drop, p, .holding c => some (p, [.checkingIn c])
  | .checkIn, p, .checkingIn c =>
    if api.isBroken c then some (p, [.releasing])
    else match api.discardAll c with
      | (.ok (), c) => some (p, [.pushing c])
      | (.err _, _) => some (p, [.releasing])
      | (.halt, _) => some (p, [])
  | .push, p, .pushing c => some (push p c, [.releasing])
  | .release, p, .releasing => some (release p, [])
  | _, _, _ => none

/-- One turn. -/
def step : Pool C → Turn (PoolAct C Op) → Option (Pool C) := Threads.step .acquiring (own api)

/-! ### Where the permits are -/

/-- A `PooledConn` that is not dropped yet, or whose drop is not over. -/
def isPooledConn : PoolTask C → Nat
  | .holding _ | .checkingIn _ | .pushing _ | .releasing => 1
  | _ => 0

/-- A `get` that has its permit. -/
def getHoldsPermit : PoolTask C → Nat
  | .popping | .pinging _ | .connecting => 1
  | _ => 0

/-- The step ends its thread without giving back the permit: `Conn::new` fails in a `get`, or a
call panics. -/
def loses : PoolAct C Op → PoolTask C → Bool
  | .connect result, .connecting => !result.isOk
  | .ping, .pinging c => !(api.ping c).1.returned
  | .checkIn, .checkingIn c => !api.isBroken c && !(api.discardAll c).1.returned
  | _, _ => false

/-- No step of a run loses a permit. -/
def LosesNone : Pool C → List (Turn (PoolAct C Op)) → Prop :=
  Always (step api) (Threads.TurnMeets fun act _ t => loses api act t = false)

instance (p : Pool C) (es : List (Turn (PoolAct C Op))) : Decidable (LosesNone api p es) :=
  inferInstanceAs (Decidable (Always _ _ _ _))

/-- Permits that are available, that live handles have and that calls of `get` have add up to
`n`. -/
def Conserves (n : Int) (p : Pool C) : Prop :=
  ∀ count ∈ p.shared.permits,
    count + p.total isPooledConn + p.total getHoldsPermit = n

/-- What `push` leaves of the semaphore. -/
@[simp] theorem push_permits (p : PoolShared C) (conn : C) : (push p conn).permits = p.permits := by
  unfold push
  split <;> rfl

/-- A permit that a thread has, in either way. -/
def hasPermit (t : PoolTask C) : Nat := isPooledConn t + getHoldsPermit t

/-- A step that loses no permit moves it between the semaphore and the thread. -/
theorem own_permits {act : PoolAct C Op} {p p' : PoolShared C} {t : PoolTask C}
    {ts : List (PoolTask C)} (h : own api act p t = some (p', ts))
    (hloses : loses api act t = false) :
    ∀ count' ∈ p'.permits, ∃ count ∈ p.permits,
      count' + (ts.map hasPermit).sum = count + hasPermit t := by
  -- the steps that leave the semaphore alone
  have same (hp : p'.permits = p.permits) (hts : (ts.map hasPermit).sum = hasPermit t) :
      ∀ count' ∈ p'.permits, ∃ count ∈ p.permits,
        count' + (ts.map hasPermit).sum = count + hasPermit t :=
    fun count hc => ⟨count, hp ▸ hc, by rw [hts]⟩
  cases act <;> cases t <;> simp only [own, reduceCtorEq] at h
  case acquire.acquiring =>
    obtain ⟨q, hq, hr⟩ := Option.map_eq_some_iff.mp h
    cases hr
    cases hp : p.permits with
    | none =>
      simp only [acquire, hp, Option.some.injEq] at hq
      intro count' hc
      rw [← hq, hp] at hc
      cases hc
    | some count =>
      simp only [acquire, hp] at hq
      split at hq
      · cases hq
        intro count' hc
        cases hc
        refine ⟨count, rfl, ?_⟩
        simp [hasPermit, isPooledConn, getHoldsPermit]
      · cases hq
  case pop.popping =>
    split at h
    · cases h
      exact same rfl rfl
    · cases h
      exact same rfl rfl
  case ping.pinging c =>
    split at h
    · cases h
      exact same rfl rfl
    · cases h
      exact same rfl rfl
    · next hping =>
      simp [loses, hping, Outcome.returned] at hloses
  case connect.connecting result =>
    split at h
    · cases h
      exact same rfl rfl
    · next hne =>
      cases result with
      | ok c => exact absurd rfl (hne c)
      | err e => simp [loses, Outcome.isOk] at hloses
      | halt => simp [loses, Outcome.isOk] at hloses
  case use.holding =>
    cases h
    exact same rfl rfl
  case drop.holding =>
    cases h
    exact same rfl rfl
  case checkIn.checkingIn c =>
    split at h
    · cases h
      exact same rfl rfl
    · next hbroken =>
      split at h
      · cases h
        exact same rfl rfl
      · cases h
        exact same rfl rfl
      · next hdiscard => simp [loses, hbroken, hdiscard, Outcome.returned] at hloses
  case push.pushing =>
    cases h
    exact same (push_permits _ _) rfl
  case release.releasing =>
    cases h
    intro count' hc
    obtain ⟨count, hp, rfl⟩ := Option.map_eq_some_iff.mp hc
    refine ⟨count, hp, ?_⟩
    simp [hasPermit, isPooledConn, getHoldsPermit]

/-- One turn conserves the permits unless it loses one. -/
theorem step_conserves {n : Int} {p p' : Pool C} {e : Turn (PoolAct C Op)} (hp : Conserves n p)
    (hloses : Threads.TurnMeets (fun act _ t => loses api act t = false) p e)
    (h : step api p e = some p') : Conserves n p' := by
  intro count' hc
  have hsum (q : Pool C) (count : Int) : count + q.total isPooledConn + q.total getHoldsPermit =
      count + q.total hasPermit := by
    have := Threads.total_add isPooledConn getHoldsPermit q
    unfold hasPermit
    omega
  rw [hsum]
  rcases Threads.step_total (f := hasPermit) rfl h with ⟨hshared, htotal, -⟩ |
    ⟨i, act, t, ts, rfl, ht, hown, htotal⟩
  · rw [htotal, ← hsum]
    exact hp count' (hshared ▸ hc)
  · obtain ⟨count, hcount, heq⟩ := own_permits api hown (hloses t ht) count' hc
    have hbefore := hp count hcount
    rw [hsum] at hbefore
    omega

/-- The permits of a pool are conserved by every run that loses none, whatever the threads do in
whatever order, and then a `get` has to wait only for as long as some thread has a permit. -/
theorem run_conserves {opts : Opts} {n : Nat} (hmax : opts.poolMaxConcurrency = some n)
    (hsize : n < 2 ^ 63) {es : List (Turn (PoolAct C Op))} {p : Pool C}
    (hrun : runSteps (step api) (new opts) es = some p) (hloses : LosesNone api (new opts) es) :
    Conserves n p ∧ ∀ count ∈ p.shared.permits, 0 < n →
      p.total isPooledConn = 0 → p.total getHoldsPermit = 0 → 0 < count := by
  have hnew : Conserves n (new opts : Pool C) := by
    intro count hc
    simp only [new, hmax, Option.map_some, Option.mem_some_iff] at hc
    subst hc
    have hcast : asIsize n = n := by
      unfold asIsize
      rw [Int.bmod_eq_of_le] <;> omega
    simp [new, Threads.total, hcast]
  have hinv : Conserves n p :=
    runSteps_inv (fun s e s' hs hok h => step_conserves api hs hok h) hnew hloses hrun
  refine ⟨hinv, ?_⟩
  intro count hc hn hlive hget
  have := hinv count hc
  omega

/-! ### A lost permit -/

/-- A pool of one permit, over connections to the reference server. -/
def onePermit : Opts := { Opts.default with poolMaxConcurrency := some 1 }

def referenceApi : ConnApi (Conn (Reference.scripted fun _ => .command)) Unit :=
  Conn.api fun _ c => c

/-- A `get` that opens a connection, its drop, and a `get` that finds the connection idle. -/
def reuse : List (Turn (PoolAct (Conn (Reference.scripted fun _ => .command)) Unit)) :=
  [.spawn, .act 0 .acquire, .act 0 .pop, .act 0 (.connect (.ok (.fresh Reference.start {}))),
    .act 0 .drop, .act 0 .checkIn, .act 0 .push, .act 0 .release, .spawn, .act 0 .acquire,
    .act 0 .pop, .act 0 .ping]

theorem reuse_runs : (runSteps (step referenceApi) (new onePermit) reuse).isSome = true := by
  decide +kernel

theorem run_conserves_reuse :
    Conserves 1 ((runSteps (step referenceApi) (new onePermit) reuse).get reuse_runs) ∧
      ∀ count ∈
          ((runSteps (step referenceApi) (new onePermit) reuse).get reuse_runs).shared.permits,
        0 < 1 →
        ((runSteps (step referenceApi) (new onePermit) reuse).get reuse_runs).total
            isPooledConn = 0 →
        ((runSteps (step referenceApi) (new onePermit) reuse).get reuse_runs).total
          getHoldsPermit = 0 → 0 < count :=
  run_conserves referenceApi (rfl : onePermit.poolMaxConcurrency = some 1) (by decide)
    (Option.some_get reuse_runs).symm (by decide +kernel)

/-- A `get` whose `Conn::new` fails. -/
def outage : List (Turn (PoolAct (Conn (Reference.scripted fun _ => .command)) Unit)) :=
  [.spawn, .act 0 .acquire, .act 0 .pop, .act 0 (.connect (.err (.io "connection refused")))]

/-- After one failed `get` the only permit is gone, with no thread left to give it back, and the
next `get` waits forever. -/
theorem run_leaks :
    ∃ p, runSteps (step referenceApi) (new onePermit) outage = some p ∧ p.tasks = [] ∧
      p.shared.permits = some 0 ∧ ¬ Conserves 1 p ∧
      ∀ p', step referenceApi p .spawn = some p' →
        step referenceApi p' (.act 0 .acquire) = none := by
  refine ⟨⟨⟨some 0, [], 100⟩, []⟩, rfl, rfl, rfl, ?_, ?_⟩
  · intro h
    have := h 0 rfl
    simp [Threads.total] at this
  · intro p' h
    cases h
    rfl

end Pool

end Sync

end ZeroPostgres
