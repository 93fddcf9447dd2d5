import ZeroPostgres.Conn.SyncAlignment
import ZeroPostgres.Pool.Returned
import ZeroPostgres.Pool.Sync

/-!
# Isolation between the holders of the blocking pool

Holders run high-level operations on the connections of `src/src/sync/pool.rs`, and what one
leaves unread the next one reads. `run_isolated` says of the histories whose operations leave
nothing unread that everything a holder or the pool reads answers its own request.
-/

namespace ZeroPostgres.Sync.Pool

open ZeroPostgres.Conn (KeptAt Talked Talks Clean Discarded)
open ZeroPostgres.Sync.Operation (Orderly run_talks run_secured)

variable {P : Peer}

/-- The connections of a pool whose holders run high-level operations. -/
def operated : ConnApi (Conn P) Operation := Conn.api fun op c => (op.run c).2

/-- All that the call reads on the connection answers what it sends. -/
def AnswersOwn {α : Type} (c : Conn P) (x : Act Error (Conn P) α) : Prop :=
  ∃ sent read, Talked sent read c (x c).2 ∧ core (c.reply sent) = core read ++ (x c).2.unread

theorem answersOwn_of_unread {α : Type} {c : Conn P} {x : Act Error (Conn P) α}
    (hx : Act.Keeps Talks x) (hu : c.unread = []) : AnswersOwn c x := by
  obtain ⟨sent, read, h⟩ := hx.rel c
  exact ⟨sent, read, h, h.answers_own hu⟩

/-- A call reads what answers others just when something of theirs is left unread. -/
theorem answersOwn_iff {α : Type} {c : Conn P} {x : Act Error (Conn P) α}
    (hx : Act.Keeps Talks x) : AnswersOwn c x ↔ c.unread = [] := by
  refine ⟨fun ⟨sent, read, h, hown⟩ => ?_, answersOwn_of_unread hx⟩
  have hin := congrArg core h.inbound
  rw [core_append, core_append] at hin
  have hreply : core (P.feed c.stream.peer sent).1 =
      core read ++ core (x c).2.stream.inbound := hown
  rw [hreply] at hin
  exact List.self_eq_append_left.mp hin.symm

/-- An operation of a holder returns, and leaves nothing unread behind it: on a usable connection
it is orderly, and on a broken one there is nothing left of the operations before it. -/
def Leaves (c : Conn P) (op : Operation) : Prop :=
  (op.run c).1.returned = true ∧ if c.isBroken then c.unread = [] else Orderly c op

instance (c : Conn P) (op : Operation) : Decidable (Leaves c op) :=
  inferInstanceAs (Decidable (_ ∧ ite _ _ _))

/-- The operation a holder begins leaves nothing unread. -/
def HolderLeaves (op : Operation) : PoolTask (Conn P) → Prop
  | .holding c => Leaves c op
  | _ => True

/-- What is relied on at a turn: a new connection is one to a conformant server that has read the
whole startup exchange, and what holders leave. -/
def Relied (p : Pool (Conn P)) : Turn (PoolAct (Conn P) Operation) → Prop
  | .act _ (.connect (.ok c)) => c.Regular ∧ c.Aligned
  | .act i (.use op) => ∀ t ∈ p.tasks[i]?, HolderLeaves op t
  | _ => True

variable (opts : Opts)

/-- `c` is a connection as a holder dropped it in the run. -/
abbrev Dropped : List (Turn (PoolAct (Conn P) Operation)) → Conn P → Prop :=
  DroppedIn (step operated) (new opts) .drop .holding

/-- A holder's connection. -/
def Held (c : Conn P) : Prop := c.Regular ∧ (c.isBroken = true ∨ c.Aligned)

/-- The connections of the pool. -/
def view : PoolView (PoolShared (Conn P)) (PoolTask (Conn P)) (PoolAct (Conn P) Operation) (Conn P)
    Operation where
  conns := PoolShared.conns
  place
    | .pinging c | .pushing c => .rested c
    | .holding c => .held c
    | .checkingIn c => .returned c
    | .acquiring | .popping | .connecting | .releasing => .none
  event
    | .connect (.ok c) => .opened c
    | .use op => .used op
    | .drop => .dropped
    | .checkIn => .resetting
    | _ => .other
  drop := .drop
  holding := .holding
  eq_drop {a} h := by
    cases a with
    | drop => rfl
    | connect result => cases result <;> cases h
    | _ => cases h
  eq_holding {t c} h := by
    cases t with
    | holding c' =>
      cases h
      rfl
    | _ => cases h

variable {opts} {es : List (Turn (PoolAct (Conn P) Operation))}

/-- Everything that is read on the connection of a thread answers what the thread sends: the
operations of a holder, unless the connection is broken and an earlier one has left something
unread, and the DISCARD ALL and the `ping` of the pool. -/
def Isolated : PoolTask (Conn P) → Prop
  | .holding c => (c.isBroken = true → c.unread = []) → ∀ op : Operation, AnswersOwn c op.run
  | .pinging c => AnswersOwn c Conn.ping
  | .checkingIn c => c.isBroken = false → AnswersOwn c Conn.discardAll
  | _ => True

theorem isolated_of_kept {t : PoolTask (Conn P)}
    (h : KeptAt (Dropped opts es) Held (view.place t)) : Isolated t := by
  cases t with
  | holding c =>
    obtain ⟨-, hc⟩ : Held c := h
    intro hbroken op
    exact answersOwn_of_unread (run_talks op) (hc.elim hbroken And.left)
  | pinging c =>
    obtain ⟨-, c₀, -, hdisc⟩ := h
    exact answersOwn_of_unread Conn.ping_talks hdisc.clean.unread
  | checkingIn c =>
    obtain ⟨⟨-, hc⟩, -⟩ : Held c ∧ Dropped opts es c := h
    intro hb
    exact answersOwn_of_unread Conn.discardAll_talks (hc.resolve_left (by simp [hb])).1
  | _ => trivial

/-- Every step of a thread moves connections. -/
theorem own_follows : (view (P := P)).Follows (fun op c => (op.run c).2) (own operated) := by
  intro act p t p' ts h
  -- most steps leave the queue alone, and most end a thread or leave it one connection
  have queue {e : PoolEvent (Conn P) Operation} {place : Place (Conn P)} :
      ∀ c ∈ p.conns, Moves operated p.conns e place (.rested c) := fun c hc => .queued hc
  have one {e : PoolEvent (Conn P) Operation} {place : Place (Conn P)} {t : PoolTask (Conn P)}
      (h : Moves operated p.conns e place (view.place t)) :
      ∀ t' ∈ [t], Moves operated p.conns e place (view.place t') := by
    simpa using h
  cases act <;> cases t <;> simp only [own, reduceCtorEq] at h
  case acquire.acquiring =>
    obtain ⟨q, hq, hr⟩ := Option.map_eq_some_iff.mp h
    cases hr
    have hconns := acquire_conns hq
    exact ⟨fun c hc => queue c (hconns ▸ hc), one .away⟩
  case pop.popping =>
    split at h
    · next c conns hc =>
      cases h
      have hmem : ∀ c' ∈ c :: conns, c' ∈ p.conns := by simp [hc]
      exact ⟨fun c' hc' => queue c' (hmem c' (List.mem_cons_of_mem c hc')),
        one (.queued (hmem c List.mem_cons_self))⟩
    · cases h
      exact ⟨queue, one .away⟩
  case ping.pinging c =>
    split at h
    · next c' hping =>
      cases h
      exact ⟨queue, one (.pinged hping)⟩
    · cases h
      exact ⟨queue, one .away⟩
    · cases h
      exact ⟨queue, by simp⟩
  case connect.connecting result =>
    split at h
    · cases h
      exact ⟨queue, one .opened⟩
    · cases h
      exact ⟨queue, by simp⟩
  case use.holding op c =>
    cases h
    exact ⟨queue, one .used⟩
  case drop.holding c =>
    cases h
    exact ⟨queue, one .dropped⟩
  case checkIn.checkingIn c =>
    split at h
    · cases h
      exact ⟨queue, one .away⟩
    · next hb =>
      split at h
      · next c' hdisc =>
        cases h
        exact ⟨queue, one (.reset (eq_false_of_ne_true hb) hdisc)⟩
      · cases h
        exact ⟨queue, one .away⟩
      · cases h
        exact ⟨queue, by simp⟩
  case push.pushing c =>
    cases h
    refine ⟨fun c' hc' => ?_, one .away⟩
    rcases List.mem_append.mp (push_conns p c hc') with hc' | hc'
    · exact queue c' hc'
    · rw [List.mem_singleton.mp hc']
      exact .stays
  case release.releasing =>
    cases h
    exact ⟨queue, by simp⟩

section

variable (hP : P.NoCopy)
include hP

/-- An operation that leaves nothing unread. -/
theorem held_of_run {c : Conn P} {op : Operation} (hc : Held c) (hop : Leaves c op) :
    Held (op.run c).2 := by
  have htalks := (run_talks op).rel c
  refine ⟨htalks.regular hP hc.1, ?_⟩
  cases hb : c.isBroken with
  | true => exact .inl (htalks.broken hb)
  | false =>
    have ha : c.Aligned := hc.2.resolve_left (by simp [hb])
    have horderly : Orderly c op := by simpa [hb] using hop.2
    refine ((run_secured hP hc.1 ha horderly).at.returned fun hhalt => ?_).symm
    have hreturned := hop.1
    rw [hhalt] at hreturned
    cases hreturned

/-- What holders leave on their connections. -/
theorem honoured : (view (P := P)).Honoured (fun op c => (op.run c).2) Held Relied where
  regular h := h.1
  clean hr hclean := ⟨hr, .inr ⟨hclean.unread, hclean.mode⟩⟩
  opened {p i a c} hok hevent := by
    cases a with
    | connect result =>
      cases result with
      | ok c' =>
        cases hevent
        exact ⟨hok.1, .inr hok.2⟩
      | _ => cases hevent
    | _ => cases hevent
  used {p i a op t c} hok hevent ht hplace hc := by
    cases a with
    | use op' =>
      cases hevent
      cases t with
      | holding c' =>
        cases hplace
        exact held_of_run hP hc (hok _ ht)
      | _ => cases hplace
    | connect result => cases result <;> cases hevent
    | _ => cases hevent
  unread _ _ _ _ hc hb := (hc.2.resolve_left (by simp [hb])).1

/-- In any interleaving of threads whose operations leave nothing unread: what is read on a
connection answers the operation that reads it, and not an earlier one, of the same holder,
another one or the pool; and a connection in the queue is there because DISCARD ALL, sent when its
last holder had dropped it, was answered with success and read through its ReadyForQuery. -/
theorem run_isolated {p : Pool (Conn P)} (hok : Always (step operated) Relied (new opts) es)
    (hrun : runSteps (step operated) (new opts) es = some p) :
    (∀ t ∈ p.tasks, Isolated t) ∧
      ∀ c ∈ p.shared.conns, ∃ c₀, Dropped opts es c₀ ∧ Discarded c₀ c := by
  have hinv := PoolView.run_kept hP (honoured hP) own_follows rfl rfl rfl hok hrun
  exact ⟨fun t ht => isolated_of_kept (hinv.2 t ht), fun c hc => (hinv.1 c hc).2⟩

end

/-! ### Two holders -/

/-- The connection of the holder at a place. -/
def heldAt (p : Pool (Conn P)) (i : Nat) : Option (Conn P) :=
  match p.tasks[i]? with
  | some (.holding c) => some c
  | _ => none

instance (op : Operation) : ∀ t : PoolTask (Conn P), Decidable (HolderLeaves op t)
  | .holding c => inferInstanceAs (Decidable (Leaves c op))
  | .acquiring | .popping | .pinging _ | .connecting | .checkingIn _ | .pushing _ | .releasing =>
    .isTrue trivial

instance (p : Pool (Conn P)) : ∀ e : Turn (PoolAct (Conn P) Operation), Decidable (Relied p e)
  | .act _ (.connect (.ok c)) => inferInstanceAs (Decidable (c.Regular ∧ c.Aligned))
  | .act i (.use op) => inferInstanceAs (Decidable (∀ t ∈ p.tasks[i]?, HolderLeaves op t))
  | .spawn | .act _ .acquire | .act _ .pop | .act _ .ping | .act _ (.connect (.err _))
  | .act _ (.connect .halt) | .act _ .drop | .act _ .checkIn | .act _ .release | .act _ .push =>
    .isTrue trivial

/-- A `get` that opens a connection, operations on it, its drop, and a `get` that finds it idle. -/
def twoHolders (ops : List Operation) :
    List (Turn (PoolAct (Conn SyncedRequest.rejectingFail) Operation)) :=
  [.spawn, .act 0 .acquire, .act 0 .pop, .act 0 (.connect (.ok Operation.connected))] ++
    ops.map (fun op => .act 0 (.use op)) ++
    [.act 0 .drop, .act 0 .checkIn, .act 0 .push, .act 0 .release, .spawn, .act 0 .acquire,
      .act 0 .pop, .act 0 .ping]

theorem portals_isolated_run :
    (runSteps (step operated) (new Opts.default) (twoHolders Operation.portals)).isSome = true := by
  decide +kernel

theorem run_isolated_portals :
    (∀ t ∈ ((runSteps (step operated) (new Opts.default)
      (twoHolders Operation.portals)).get portals_isolated_run).tasks, Isolated t) ∧
    ∀ c ∈ ((runSteps (step operated) (new Opts.default)
      (twoHolders Operation.portals)).get portals_isolated_run).shared.conns,
      ∃ c₀, Dropped Opts.default (twoHolders Operation.portals) c₀ ∧ Discarded c₀ c :=
  run_isolated Operation.rejectingFail_noCopy (by decide +kernel)
    (Option.some_get portals_isolated_run).symm

theorem failingBatch_run :
    ((runSteps (step operated) (new Opts.default) (twoHolders Operation.failingBatch)).bind
      (heldAt · 0)).isSome = true := by decide +kernel

/-- After a `prepare_batch` that the server rejects the pool takes the ReadyForQuery left behind for
the end of DISCARD ALL and the reply to DISCARD ALL for that to its `ping`. The next holder reads
the reply to the `ping` as the one to its own query. -/
theorem run_mixes : ∃ p c, runSteps (step operated) (new Opts.default)
      (twoHolders Operation.failingBatch) = some p ∧ heldAt p 0 = some c ∧ c.isBroken = false ∧
    ¬ AnswersOwn c (Operation.query "SELECT" DropHandler).run ∧
    c.stream.log.getLast? = some (.query "", c.unread) ∧
    ((Operation.query "SELECT" DropHandler).run c).1 = .ok () ∧
    ((Operation.query "SELECT" DropHandler).run c).2.stream.received.drop
      c.stream.received.length = c.unread := by
  obtain ⟨p, hrun, hheld⟩ := Option.bind_eq_some_iff.mp (Option.some_get failingBatch_run).symm
  refine ⟨p, _, hrun, hheld, by decide +kernel, ?_, by decide +kernel⟩
  rw [answersOwn_iff (Operation.run_talks _)]
  decide +kernel

end ZeroPostgres.Sync.Pool
