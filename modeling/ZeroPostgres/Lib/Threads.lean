import Mathlib.Data.List.Basic
import Mathlib.Algebra.BigOperators.Group.List.Basic
import Mathlib.Algebra.GroupWithZero.Nat
import Mathlib.Data.List.Induction

/-!
# Tasks over a shared state

Any number of tasks that take turns. A task's own step reads and changes the shared state and
says which tasks go on in its place: itself, none, or itself and others. `runSteps_inv` is the
invariant rule for runs; `step_keeps` and `step_total` say what one turn keeps of all tasks, given
what the task's own step does.
-/

namespace ZeroPostgres

/-! ### Runs of a labelled step function -/

section Runs

variable {σ E : Type} {step : σ → E → Option σ}

/-- Take steps one after the other. -/
def runSteps (step : σ → E → Option σ) : σ → List E → Option σ
  | s, [] => some s
  | s, e :: es => (step s e).bind fun s' => runSteps step s' es

/-- A run takes its first steps, then the others from where they lead. -/
theorem runSteps_append (s : σ) (es es' : List E) :
    runSteps step s (es ++ es') = (runSteps step s es).bind fun s' => runSteps step s' es' := by
  induction es generalizing s with
  | nil => rfl
  | cons e es ih =>
    simp only [List.cons_append, runSteps, Option.bind_assoc]
    congr 1
    funext s'
    exact ih s'

/-- Every step of a run meets a condition on the state before it. -/
def Always (step : σ → E → Option σ) (Ok : σ → E → Prop) : σ → List E → Prop
  | _, [] => True
  | s, e :: es => Ok s e ∧ ∀ s', step s e = some s' → Always step Ok s' es

instance Always.decidable (step : σ → E → Option σ) (Ok : σ → E → Prop)
    [∀ s e, Decidable (Ok s e)] : ∀ s es, Decidable (Always step Ok s es)
  | _, [] => .isTrue trivial
  | s, e :: es =>
    match h : step s e with
    | some s' =>
      have := Always.decidable step Ok s' es
      decidable_of_iff (Ok s e ∧ Always step Ok s' es) (by simp [Always, h])
    | none => decidable_of_iff (Ok s e) (by simp [Always, h])

/-- What every step that meets the condition preserves holds at the end of the run. -/
theorem runSteps_inv {Inv : σ → Prop} {Ok : σ → E → Prop}
    (hstep : ∀ s e s', Inv s → Ok s e → step s e = some s' → Inv s') {es : List E} {s s' : σ}
    (hs : Inv s) (hok : Always step Ok s es) (hrun : runSteps step s es = some s') : Inv s' := by
  induction es generalizing s with
  | nil =>
    cases hrun
    exact hs
  | cons e es ih =>
    simp only [runSteps, Option.bind_eq_some_iff] at hrun
    obtain ⟨s₁, h₁, hrun⟩ := hrun
    exact ih (hstep s e s₁ hs hok.1 h₁) (hok.2 s₁ h₁) hrun

/-- Along a run whose steps keep an invariant, what the invariant and the condition entail holds of
every step too. -/
theorem Always.imp {Inv : σ → Prop} {Ok Ok' : σ → E → Prop}
    (hstep : ∀ s e s', Inv s → Ok s e → step s e = some s' → Inv s')
    (himp : ∀ s e, Inv s → Ok s e → Ok' s e) {es : List E} {s : σ} (hs : Inv s)
    (hok : Always step Ok s es) : Always step Ok' s es := by
  induction es generalizing s with
  | nil => trivial
  | cons e es ih =>
    exact ⟨himp s e hs hok.1, fun s' hs' => ih (hstep s e s' hs hok.1 hs') (hok.2 s' hs')⟩

/-- Along the beginning of a run and at the step behind it the condition holds too. -/
theorem Always.of_append {Ok : σ → E → Prop} {s : σ} {es : List E} {e : E}
    (h : Always step Ok s (es ++ [e])) :
    Always step Ok s es ∧ ∀ s', runSteps step s es = some s' → Ok s' e := by
  induction es generalizing s with
  | nil =>
    refine ⟨trivial, fun s' hs => ?_⟩
    cases hs
    exact h.1
  | cons e' es ih =>
    refine ⟨⟨h.1, fun s' hs => (ih (h.2 s' hs)).1⟩, fun s' hs => ?_⟩
    simp only [runSteps, Option.bind_eq_some_iff] at hs
    obtain ⟨s₁, h₁, hs⟩ := hs
    exact (ih (h.2 s₁ h₁)).2 s' hs

/-- The invariant rule for invariants that speak of the steps taken so far. -/
theorem runSteps_history (Inv : List E → σ → Prop) {Ok : σ → E → Prop} {s₀ : σ}
    (hstart : Inv [] s₀) (hstep : ∀ es s e s', runSteps step s₀ es = some s → Inv es s → Ok s e →
      step s e = some s' → Inv (es ++ [e]) s') {es : List E} {s : σ}
    (hok : Always step Ok s₀ es) (hrun : runSteps step s₀ es = some s) : Inv es s := by
  induction es using List.reverseRecOn generalizing s with
  | nil =>
    cases hrun
    exact hstart
  | append_singleton es e ih =>
    rw [runSteps_append, Option.bind_eq_some_iff] at hrun
    obtain ⟨s₁, h₁, hrun⟩ := hrun
    simp only [runSteps, Option.bind_eq_some_iff, Option.some.injEq, exists_eq_right] at hrun
    have hboth := hok.of_append
    exact hstep es s₁ e s h₁ (ih hboth.1 h₁) (hboth.2 s₁ h₁) hrun

/-- A condition that holds of every step holds along every run. -/
theorem Always.of_forall {Ok : σ → E → Prop} (h : ∀ s e, Ok s e) (s : σ) (es : List E) :
    Always step Ok s es := by
  induction es generalizing s with
  | nil => trivial
  | cons e es ih => exact ⟨h s e, fun s' _ => ih s'⟩

end Runs

/-! ### Tasks -/

/-- The shared state and the tasks. -/
structure Threads (Sh T : Type) where
  shared : Sh
  tasks : List T
deriving DecidableEq, Repr

/-- A new task begins, or the task at a place takes a step. -/
inductive Turn (L : Type) where
  | spawn
  | act (i : Nat) (l : L)
deriving DecidableEq, Repr

namespace Threads

variable {Sh T L : Type}

/-- One turn, given the first state of a task and the task's own step. -/
def step (start : T) (own : L → Sh → T → Option (Sh × List T)) (s : Threads Sh T) :
    Turn L → Option (Threads Sh T)
  | .spawn => some { s with tasks := s.tasks ++ [start] }
  | .act i l =>
    (s.tasks[i]?).bind fun t => (own l s.shared t).map fun r =>
      ⟨r.1, s.tasks.take i ++ r.2 ++ s.tasks.drop (i + 1)⟩

/-- The turn meets a condition on the step and on the task that takes it. -/
def TurnMeets (Ok : L → Sh → T → Prop) (s : Threads Sh T) : Turn L → Prop
  | .spawn => True
  | .act i l => ∀ t ∈ s.tasks[i]?, Ok l s.shared t

instance (Ok : L → Sh → T → Prop) [∀ l sh t, Decidable (Ok l sh t)] (s : Threads Sh T) :
    ∀ e, Decidable (TurnMeets Ok s e)
  | .spawn => .isTrue trivial
  | .act i l => inferInstanceAs (Decidable (∀ t ∈ s.tasks[i]?, Ok l s.shared t))

variable {start : T} {own : L → Sh → T → Option (Sh × List T)} {s s' : Threads Sh T}

/-- What a turn can do. -/
theorem step_cases {e : Turn L} (h : step start own s e = some s') :
    (e = .spawn ∧ s' = { s with tasks := s.tasks ++ [start] }) ∨
      ∃ i l xs t ys sh ts, e = .act i l ∧ s.tasks[i]? = some t ∧ s.tasks = xs ++ t :: ys ∧
        own l s.shared t = some (sh, ts) ∧ s' = ⟨sh, xs ++ ts ++ ys⟩ := by
  cases e with
  | spawn =>
    cases h
    exact .inl ⟨rfl, rfl⟩
  | act i l =>
    simp only [step, Option.bind_eq_some_iff, Option.map_eq_some_iff] at h
    obtain ⟨t, ht, ⟨sh, ts⟩, hown, rfl⟩ := h
    obtain ⟨hi, hget⟩ := List.getElem?_eq_some_iff.mp ht
    refine .inr ⟨i, l, _, t, _, sh, ts, rfl, ht, ?_, hown, rfl⟩
    rw [← hget, List.getElem_cons_drop hi, List.take_append_drop]

/-- What a turn keeps of the shared state and of every task, given what the task's own step does
and that the others keep what they have. -/
theorem step_keeps (R R' : Sh → Prop) {Q Q' : T → Prop} {e : Turn L} (hspawn : Q' start)
    (hshared : R s.shared → R' s.shared) (hothers : ∀ t, Q t → Q' t)
    (hown : ∀ i l t sh ts, e = .act i l → s.tasks[i]? = some t → Q t →
      own l s.shared t = some (sh, ts) → R' sh ∧ ∀ t' ∈ ts, Q' t')
    (hr : R s.shared) (hq : ∀ t ∈ s.tasks, Q t) (h : step start own s e = some s') :
    R' s'.shared ∧ ∀ t ∈ s'.tasks, Q' t := by
  rcases step_cases h with ⟨-, rfl⟩ | ⟨i, l, xs, t, ys, sh, ts, rfl, ht, htasks, hstep, rfl⟩
  · refine ⟨hshared hr, fun t ht => ?_⟩
    rcases List.mem_append.mp ht with ht | ht
    · exact hothers t (hq t ht)
    · rw [List.mem_singleton.mp ht]
      exact hspawn
  · rw [htasks] at hq
    obtain ⟨hsh, hts⟩ := hown i l t sh ts rfl ht (hq t (by simp)) hstep
    refine ⟨hsh, fun t' ht' => ?_⟩
    simp only [List.mem_append, or_assoc] at ht'
    rcases ht' with ht' | ht' | ht'
    · exact hothers t' (hq t' (by simp [ht']))
    · exact hts t' ht'
    · exact hothers t' (hq t' (by simp [ht']))

/-- What the tasks amount to, under a measure of one task. -/
def total (f : T → Nat) (s : Threads Sh T) : Nat := (s.tasks.map f).sum

theorem total_add (f g : T → Nat) (s : Threads Sh T) :
    s.total (fun t => f t + g t) = s.total f + s.total g := List.sum_map_add

/-- A turn of a task changes a total by what it changes of the task. -/
theorem step_total {f : T → Nat} {e : Turn L} (hstart : f start = 0)
    (h : step start own s e = some s') :
    (s'.shared = s.shared ∧ s'.total f = s.total f ∧ e = .spawn) ∨
      ∃ i l t ts, e = .act i l ∧ s.tasks[i]? = some t ∧ own l s.shared t = some (s'.shared, ts) ∧
        s'.total f + f t = s.total f + (ts.map f).sum := by
  rcases step_cases h with ⟨rfl, rfl⟩ | ⟨i, l, xs, t, ys, sh, ts, rfl, ht, htasks, hstep, rfl⟩
  · refine .inl ⟨rfl, ?_, rfl⟩
    simp [total, hstart]
  · refine .inr ⟨i, l, t, ts, rfl, ht, hstep, ?_⟩
    simp only [total, htasks, List.map_append, List.map_cons, List.sum_append, List.sum_cons]
    omega

end Threads

end ZeroPostgres
