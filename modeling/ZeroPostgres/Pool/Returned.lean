import ZeroPostgres.Lib.Threads
import ZeroPostgres.Pool.Reset

/-!
# Connections on their way through a pool

What the pools of the three clients have in common: where a connection is between two holders, and
how the steps of a pool move it on. `run_kept` is about any pool whose steps are such moves: in
every run, a connection at rest is one that a holder dropped and DISCARD ALL reset afterward, and
what is relied on at the turns holds of the connections that are held.
-/

namespace ZeroPostgres

/-- Where the connection of a task is. -/
inductive Place (C : Type) where
  | none
  /-- In the queue, or with the pool as it came from there or goes there. -/
  | rested (conn : C)
  | held (conn : C)
  /-- Dropped by its holder. -/
  | returned (conn : C)

/-- What a step of a pool means to a connection. -/
inductive PoolEvent (C Op : Type) where
  | opened (conn : C)
  | used (op : Op)
  | dropped
  | resetting
  | other

/-- A step takes a task's connection from one place to another, or one of the queue to the task. -/
inductive Moves {C Op : Type} (api : ConnApi C Op) (queue : List C) :
    PoolEvent C Op → Place C → Place C → Prop
  | away {e p} : Moves api queue e p .none
  | queued {e p c} (h : c ∈ queue) : Moves api queue e p (.rested c)
  | stays {e c} : Moves api queue e (.rested c) (.rested c)
  | pinged {e c c'} (h : api.ping c = (.ok (), c')) : Moves api queue e (.rested c) (.held c')
  | opened {p c} : Moves api queue (.opened c) p (.held c)
  | used {op c} : Moves api queue (.used op) (.held c) (.held (api.use op c))
  | dropped {c} : Moves api queue .dropped (.held c) (.returned c)
  | reset {c c'} (hb : api.isBroken c = false) (h : api.discardAll c = (.ok (), c')) :
    Moves api queue .resetting (.returned c) (.rested c')

/-- A pool with shared state `Sh`, tasks `T` and actions `A`, as far as its connections go. -/
structure PoolView (Sh T A C Op : Type) where
  conns : Sh → List C
  place : T → Place C
  event : A → PoolEvent C Op
  drop : A
  holding : C → T
  eq_drop : ∀ {a}, event a = .dropped → a = drop
  eq_holding : ∀ {t c}, place t = .held c → t = holding c

/-- `c` is a connection as a holder dropped it in the run. -/
def DroppedIn {C Sh T A : Type} (step : Threads Sh T → Turn A → Option (Threads Sh T))
    (p₀ : Threads Sh T) (drop : A) (holding : C → T) (es : List (Turn A)) (c : C) : Prop :=
  ∃ es₁ i p, es₁ ++ [.act i drop] <+: es ∧ runSteps step p₀ es₁ = some p ∧
    p.tasks[i]? = some (holding c)

theorem DroppedIn.append {C Sh T A : Type} {step : Threads Sh T → Turn A → Option (Threads Sh T)}
    {p₀ : Threads Sh T} {drop : A} {holding : C → T} {es : List (Turn A)} {c : C}
    (h : DroppedIn step p₀ drop holding es c) (e : Turn A) :
    DroppedIn step p₀ drop holding (es ++ [e]) c := by
  obtain ⟨es₁, i, p, hpre, hrun, htask⟩ := h
  exact ⟨es₁, i, p, hpre.trans (List.prefix_append es [e]), hrun, htask⟩

namespace Conn

variable {P : Peer} {K : Type} [Driver K]

/-- A connection at rest: DISCARD ALL was its last exchange since a holder dropped it. -/
def AtRest (Dropped : Conn P K → Prop) (c : Conn P K) : Prop :=
  c.Regular ∧ ∃ c₀, Dropped c₀ ∧ Discarded c₀ c

/-- What is known of a connection by its place, if `Held` is known of those that are held. -/
def KeptAt (Dropped Held : Conn P K → Prop) : Place (Conn P K) → Prop
  | .none => True
  | .rested c => AtRest Dropped c
  | .held c => Held c
  | .returned c => Held c ∧ Dropped c

variable {Dropped Dropped' Held : Conn P K → Prop}

theorem AtRest.mono {c : Conn P K} (h : AtRest Dropped c)
    (hmono : ∀ c, Dropped c → Dropped' c) : AtRest Dropped' c := by
  obtain ⟨hr, c₀, hdrop, hdisc⟩ := h
  exact ⟨hr, c₀, hmono c₀ hdrop, hdisc⟩

theorem KeptAt.mono {p : Place (Conn P K)} (h : KeptAt Dropped Held p)
    (hmono : ∀ c, Dropped c → Dropped' c) : KeptAt Dropped' Held p := by
  cases p with
  | none => trivial
  | rested c => exact AtRest.mono h hmono
  | held c => exact h
  | returned c => exact ⟨h.1, hmono c h.2⟩

end Conn

namespace PoolView

open Conn

variable {P : Peer} {K Op Sh T A : Type} [Driver K]
  (view : PoolView Sh T A (Conn P K) Op) (use : Op → Conn P K → Conn P K) (start : T)
  (own : A → Sh → T → Option (Sh × List T)) (p₀ : Threads Sh T)

/-- The steps of a task move connections, into the queue and to the tasks that go on. -/
def Follows : Prop :=
  ∀ {a sh t sh' ts}, own a sh t = some (sh', ts) →
    (∀ c ∈ view.conns sh',
      Moves (Conn.api use) (view.conns sh) (view.event a) (view.place t) (.rested c)) ∧
    ∀ t' ∈ ts,
      Moves (Conn.api use) (view.conns sh) (view.event a) (view.place t) (view.place t')

/-- What is relied on makes `Held` hold of the connections that are held, and leaves nothing unread
on one that is returned and says that it is not broken. -/
structure Honoured (Held : Conn P K → Prop) (Relied : Threads Sh T → Turn A → Prop) : Prop where
  regular : ∀ {c}, Held c → c.Regular
  clean : ∀ {c}, c.Regular → Clean c → Held c
  opened : ∀ {p i a c}, Relied p (.act i a) → view.event a = .opened c → Held c
  used : ∀ {p i a op t c}, Relied p (.act i a) → view.event a = .used op →
    p.tasks[i]? = some t → view.place t = .held c → Held c → Held (use op c)
  unread : ∀ {p i a t c}, Relied p (.act i a) → view.event a = .resetting →
    p.tasks[i]? = some t → view.place t = .returned c → Held c → c.isBroken = false → c.unread = []

/-- A connection as a holder dropped it in a run of the pool. -/
abbrev Dropped (es : List (Turn A)) : Conn P K → Prop :=
  DroppedIn (Threads.step start own) p₀ view.drop view.holding es

variable {view use start own p₀} {Held : Conn P K → Prop} {Relied : Threads Sh T → Turn A → Prop}
  {es : List (Turn A)} {e : Turn A} {p p' : Threads Sh T}

variable [LawfulDriver K] (hP : P.NoCopy) (hhonoured : view.Honoured use Held Relied)
include hP hhonoured

/-- What one move keeps. -/
theorem moves_kept {i : Nat} {a : A} {t : T} {place : Place (Conn P K)}
    (hrun : runSteps (Threads.step start own) p₀ es = some p) (ht : p.tasks[i]? = some t)
    (hconns : ∀ c ∈ view.conns p.shared, AtRest (view.Dropped start own p₀ es) c)
    (htask : KeptAt (view.Dropped start own p₀ es) Held (view.place t))
    (hok : Relied p (.act i a))
    (h : Moves (Conn.api use) (view.conns p.shared) (view.event a) (view.place t) place) :
    KeptAt (view.Dropped start own p₀ (es ++ [.act i a])) Held place := by
  have later (c : Conn P K) (hc : view.Dropped start own p₀ es c) :
      view.Dropped start own p₀ (es ++ [.act i a]) c := hc.append (.act i a)
  generalize hevent : view.event a = event at h
  generalize hplace : view.place t = before at h htask
  cases h with
  | away => trivial
  | queued hc => exact (hconns _ hc).mono later
  | stays => exact AtRest.mono htask later
  | @pinged _ c c' hping =>
    obtain ⟨hr, c₀, -, hdisc⟩ := htask
    have htalks := (Conn.ping_talks (P := P) (K := K)).rel c
    have hping : Conn.ping c = (.ok (), c') := hping
    rw [hping] at htalks
    exact hhonoured.clean (htalks.regular hP hr) (clean_of_ping hP hr hdisc.clean hping)
  | opened => exact hhonoured.opened hok hevent
  | used => exact hhonoured.used hok hevent ht hplace htask
  | dropped =>
    cases view.eq_drop hevent
    rw [view.eq_holding hplace] at ht
    exact ⟨htask, es, i, p, List.prefix_rfl, hrun, ht⟩
  | @reset c c' hb hdisc =>
    have hdisc : Conn.discardAll c = (.ok (), c') := hdisc
    have hr := hhonoured.regular htask.1
    have hu := hhonoured.unread hok hevent ht hplace htask.1 hb
    have htalks := (Conn.discardAll_talks (P := P) (K := K)).rel c
    rw [hdisc] at htalks
    exact ⟨htalks.regular hP hr, c, later c htask.2, discarded_of_discardAll hP hr hb hu hdisc⟩

/-- What one turn keeps. -/
theorem step_kept (hfollows : view.Follows use own) (hstart : view.place start = .none)
    (hrun : runSteps (Threads.step start own) p₀ es = some p)
    (hconns : ∀ c ∈ view.conns p.shared, AtRest (view.Dropped start own p₀ es) c)
    (htasks : ∀ t ∈ p.tasks, KeptAt (view.Dropped start own p₀ es) Held (view.place t))
    (hok : Relied p e) (h : Threads.step start own p e = some p') :
    (∀ c ∈ view.conns p'.shared, AtRest (view.Dropped start own p₀ (es ++ [e])) c) ∧
      ∀ t ∈ p'.tasks, KeptAt (view.Dropped start own p₀ (es ++ [e])) Held (view.place t) := by
  have later (c : Conn P K) (hc : view.Dropped start own p₀ es c) :
      view.Dropped start own p₀ (es ++ [e]) c := hc.append e
  refine Threads.step_keeps
    (fun sh => ∀ c ∈ view.conns sh, AtRest (view.Dropped start own p₀ es) c)
    (fun sh => ∀ c ∈ view.conns sh, AtRest (view.Dropped start own p₀ (es ++ [e])) c)
    (by rw [hstart]; trivial) (fun hr c hc => (hr c hc).mono later)
    (fun t ht => ht.mono later) ?_ hconns htasks h
  rintro i a t sh ts rfl ht htask hown
  obtain ⟨hqueue, hgoes⟩ := hfollows hown
  exact ⟨fun c hc => moves_kept hP hhonoured hrun ht hconns htask hok (hqueue c hc),
    fun t' ht' => moves_kept hP hhonoured hrun ht hconns htask hok (hgoes t' ht')⟩

/-- In every run of a pool that begins empty: the connections of the queue are at rest, and of
those of the tasks is known what their place says. -/
theorem run_kept (hfollows : view.Follows use own) (hstart : view.place start = .none)
    (hqueue : view.conns p₀.shared = []) (htasks : p₀.tasks = [])
    (hok : Always (Threads.step start own) Relied p₀ es)
    (hrun : runSteps (Threads.step start own) p₀ es = some p) :
    (∀ c ∈ view.conns p.shared, AtRest (view.Dropped start own p₀ es) c) ∧
      ∀ t ∈ p.tasks, KeptAt (view.Dropped start own p₀ es) Held (view.place t) :=
  runSteps_history (fun es (p : Threads Sh T) =>
      (∀ c ∈ view.conns p.shared, AtRest (view.Dropped start own p₀ es) c) ∧
        ∀ t ∈ p.tasks, KeptAt (view.Dropped start own p₀ es) Held (view.place t))
    ⟨by simp [hqueue], by simp [htasks]⟩
    (fun es s e s' hrun hinv hok h =>
      step_kept hP hhonoured hfollows hstart hrun hinv.1 hinv.2 hok h) hok hrun

end PoolView

end ZeroPostgres
