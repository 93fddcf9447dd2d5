import ZeroPostgres.Pool.Returned
import ZeroPostgres.Pool.Tokio

/-!
# Idle connections of the asynchronous pool

What `check_in` of `src/src/tokio/pool.rs` puts into the queue. Holders do what they like with a
connection, as long as they only talk over it; what is relied on is that a connection which says
that it is not broken has no reply left on its stream. `idle_clean` is the invariant of the queue
over any interleaving of tasks.
-/

namespace ZeroPostgres.Tokio.Pool

open ZeroPostgres.Conn (AtRest Talks Clean Discarded clean_of_ping)

variable {P : Peer} {Op : Type}

variable (use : Op → Conn P → Conn P) (opts : Opts)

/-- `c` is a connection as a holder dropped it in the run. -/
abbrev Dropped : List (Turn (PoolAct (Conn P) Op)) → Conn P → Prop :=
  DroppedIn (step (Conn.api use)) (new opts) .drop .holding

/-- A returned connection that says it is not broken holds no reply of an earlier exchange. -/
def HoldsNoReply : PoolTask (Conn P) → Prop
  | .checkingIn c => c.isBroken = false → c.unread = []
  | _ => True

/-- What is relied on at a turn: a new connection is one to a conformant server, and what
`is_broken` says of a returned connection. -/
def Relied (p : Pool (Conn P)) : Turn (PoolAct (Conn P) Op) → Prop
  | .act _ (.connect (.ok c)) => c.Regular
  | .act i .checkIn => ∀ t ∈ p.tasks[i]?, HoldsNoReply t
  | _ => True

/-- The connections of the pool. -/
def view : PoolView (PoolShared (Conn P)) (PoolTask (Conn P)) (PoolAct (Conn P) Op) (Conn P)
    Op where
  conns := PoolShared.conns
  place
    | .pinging c | .pushing c => .rested c
    | .holding c => .held c
    | .checkingIn c => .returned c
    | .acquiring | .popping | .connecting | .dropping => .none
  event
    | .connect (.ok c) => .opened c
    | .use op => .used op
    | .drop => .dropped
    | .checkIn => .resetting
    | _ => .other
  drop := .drop
  holding := .holding
  eq_drop {a} h := by
    cases a with
    | drop => rfl
    | connect result => cases result <;> cases h
    | _ => cases h
  eq_holding {t c} h := by
    cases t with
    | holding c' =>
      cases h
      rfl
    | _ => cases h

/-- Every step of a task moves connections. -/
theorem own_follows : (view (P := P)).Follows use (own (Conn.api use)) := by
  intro act p t p' ts h
  -- most steps leave the queue alone, and most end a task or leave it one connection
  have queue {e : PoolEvent (Conn P) Op} {place : Place (Conn P)} :
      ∀ c ∈ p.conns, Moves (Conn.api use) p.conns e place (.rested c) := fun c hc => .queued hc
  have one {e : PoolEvent (Conn P) Op} {place : Place (Conn P)} {t : PoolTask (Conn P)}
      (h : Moves (Conn.api use) p.conns e place ((view : PoolView _ _ _ _ Op).place t)) :
      ∀ t' ∈ [t], Moves (Conn.api use) p.conns e place ((view : PoolView _ _ _ _ Op).place t') := by
    simpa using h
  cases act <;> cases t <;> simp only [own, reduceCtorEq] at h
  case acquire.acquiring =>
    obtain ⟨q, hq, hr⟩ := Option.map_eq_some_iff.mp h
    cases hr
    have hconns := acquire_conns hq
    exact ⟨fun c hc => queue c (hconns ▸ hc), one .away⟩
  case pop.popping =>
    split at h
    · next c conns hc =>
      cases h
      have hmem : ∀ c' ∈ c :: conns, c' ∈ p.conns := by simp [hc]
      exact ⟨fun c' hc' => queue c' (hmem c' (List.mem_cons_of_mem c hc')),
        one (.queued (hmem c List.mem_cons_self))⟩
    · cases h
      exact ⟨queue, one .away⟩
  case ping.pinging c =>
    split at h
    · next c' hping =>
      cases h
      exact ⟨queue, one (.pinged hping)⟩
    · cases h
      exact ⟨queue, one .away⟩
    · cases h
      exact ⟨queue, by simp⟩
  case connect.connecting result =>
    split at h
    · cases h
      exact ⟨queue, one .opened⟩
    · cases h
      exact ⟨queue, by simp⟩
  case use.holding op c =>
    cases h
    exact ⟨queue, one .used⟩
  case drop.holding c =>
    cases h
    refine ⟨queue, ?_⟩
    intro t ht
    rcases List.mem_cons.mp ht with rfl | ht
    · exact .away
    · rw [List.mem_singleton.mp ht]
      exact .dropped
  case checkIn.checkingIn c =>
    split at h
    · cases h
      exact ⟨queue, by simp⟩
    · next hb =>
      split at h
      · next c' hdisc =>
        cases h
        exact ⟨queue, one (.reset (eq_false_of_ne_true hb) hdisc)⟩
      · cases h
        exact ⟨queue, by simp⟩
  case push.pushing c =>
    cases h
    refine ⟨fun c' hc' => ?_, by simp⟩
    rcases List.mem_append.mp (push_conns p c hc') with hc' | hc'
    · exact queue c' hc'
    · rw [List.mem_singleton.mp hc']
      exact .stays
  all_goals
    cases h
    exact ⟨queue, by simp⟩

variable {use opts} {es : List (Turn (PoolAct (Conn P) Op))}

section

variable (hP : P.NoCopy) (huse : ∀ op c, Talks c (use op c))
include hP huse

/-- Whatever holders do, their connections are ones to a conformant server. -/
theorem honoured : (view (P := P)).Honoured use ZeroPostgres.Conn.Regular Relied where
  regular h := h
  clean h _ := h
  opened {p i a c} hok hevent := by
    cases a with
    | connect result =>
      cases result with
      | ok c' =>
        cases hevent
        exact hok
      | _ => cases hevent
    | _ => cases hevent
  used {p i a op t c} _ _ _ _ hc := (huse op c).regular hP hc
  unread {p i a t c} hok hevent ht hplace _ hb := by
    cases a with
    | checkIn =>
      cases t with
      | checkingIn c' =>
        cases hplace
        exact hok _ ht hb
      | _ => cases hplace
    | connect result => cases result <;> cases hevent
    | _ => cases hevent

/-- In any interleaving of tasks, whatever the holders do with their connections: a connection in
the queue is there because DISCARD ALL, sent when its last holder had dropped it and nothing was
left to be read, was answered with success and read through its ReadyForQuery. So it is clean, and
so is every connection that `get` hands out from the queue. -/
theorem idle_clean {p : Pool (Conn P)}
    (hok : Always (step (Conn.api use)) Relied (new opts) es)
    (hrun : runSteps (step (Conn.api use)) (new opts) es = some p) :
    (∀ c ∈ p.shared.conns, ∃ c₀, Dropped use opts es c₀ ∧ Discarded c₀ c) ∧
    ∀ (i : Nat) (c : Conn P), p.tasks[i]? = some (.pinging c) →
      (∃ c₀, Dropped use opts es c₀ ∧ Discarded c₀ c) ∧
      ∀ c', Conn.ping c = (.ok (), c') → Clean c' := by
  have hinv := PoolView.run_kept hP (honoured hP huse) (own_follows use) rfl rfl rfl hok hrun
  refine ⟨fun c hc => (hinv.1 c hc).2, fun i c ht => ?_⟩
  obtain ⟨hr, hrest⟩ : AtRest (Dropped use opts es) c := hinv.2 _ (List.mem_of_getElem? ht)
  refine ⟨hrest, fun c' hping => ?_⟩
  obtain ⟨c₀, -, hdisc⟩ := hrest
  exact clean_of_ping hP hr hdisc.clean hping

end

/-! ### Three holders -/

instance : ∀ t : PoolTask (Conn P), Decidable (HoldsNoReply t)
  | .checkingIn c => inferInstanceAs (Decidable (c.isBroken = false → c.unread = []))
  | .acquiring | .popping | .pinging _ | .connecting | .holding _ | .dropping | .pushing _ =>
    .isTrue trivial

instance (p : Pool (Conn P)) : ∀ e : Turn (PoolAct (Conn P) Op), Decidable (Relied p e)
  | .act _ (.connect (.ok c)) => inferInstanceAs (Decidable c.Regular)
  | .act i .checkIn => inferInstanceAs (Decidable (∀ t ∈ p.tasks[i]?, HoldsNoReply t))
  | .spawn | .act _ .acquire | .act _ .pop | .act _ .ping | .act _ (.connect (.err _))
  | .act _ (.connect .halt) | .act _ (.use _) | .act _ .drop | .act _ .release | .act _ .push
  | .act _ .cancel => .isTrue trivial

/-- Queries on a connection to the reference server, each of them perhaps dropped on the way. -/
def runQuery (op : String × Option Cut)
    (c : Conn (Reference.scripted fun _ => .command)) :
    Conn (Reference.scripted fun _ => .command) :=
  (Conn.withCut op.2 (Conn.queryDrop op.1) c).2

theorem runQuery_talks (op : String × Option Cut)
    (c : Conn (Reference.scripted fun _ => .command)) : Talks c (runQuery op c) :=
  (Conn.withCut_talks (Conn.queryDrop_talks op.1) op.2).rel c

/-- A `get` that opens a connection, one query on it, its drop and `check_in`. -/
def useOnce (op : String × Option Cut) :
    List (Turn (PoolAct (Conn (Reference.scripted fun _ => .command)) (String × Option Cut))) :=
  [.spawn, .act 0 .acquire, .act 0 .pop,
    .act 0 (.connect (.ok (.fresh Reference.start ⟨false, false⟩))), .act 0 (.use op), .act 0 .drop,
    .act 0 .release, .act 0 .checkIn]

/-- One holder leaves a transaction open, one drops its query while the reply is on its way, and
one behaves. The next `get` has what the third one returned. -/
def threeHolders :
    List (Turn (PoolAct (Conn (Reference.scripted fun _ => .command)) (String × Option Cut))) :=
  useOnce ("BEGIN", none) ++ useOnce ("SELECT", some ⟨2, 0⟩) ++ useOnce ("SELECT", none) ++
    [.act 0 .push, .spawn, .act 0 .acquire, .act 0 .pop]

theorem threeHolders_runs : (runSteps (step (Conn.api runQuery)) (new Opts.default)
    threeHolders).isSome = true := by decide +kernel

theorem threeHolders_relied : Always (step (Conn.api runQuery)) Relied (new Opts.default)
    threeHolders := by decide +kernel

/-- The pool at the end. -/
def served : Pool (Conn (Reference.scripted fun _ => .command)) :=
  (runSteps (step (Conn.api runQuery)) (new Opts.default) threeHolders).get threeHolders_runs

theorem served_run : runSteps (step (Conn.api runQuery)) (new Opts.default) threeHolders =
    some served := by
  unfold served
  exact (Option.some_get threeHolders_runs).symm

theorem idle_clean_threeHolders :
    (∀ c ∈ served.shared.conns,
      ∃ c₀, Dropped runQuery Opts.default threeHolders c₀ ∧ Discarded c₀ c) ∧
    ∀ (i : Nat) (c : Conn (Reference.scripted fun _ => .command)),
      served.tasks[i]? = some (.pinging c) →
      (∃ c₀, Dropped runQuery Opts.default threeHolders c₀ ∧ Discarded c₀ c) ∧
      ∀ c', Conn.ping c = (.ok (), c') → Clean c' :=
  idle_clean (Reference.peer_noCopy _) runQuery_talks threeHolders_relied served_run

end ZeroPostgres.Tokio.Pool
