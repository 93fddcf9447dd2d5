import Mathlib.Order.Defs.Unbundled

/-!
# Stateful computations that may fail or never return

`Act ε σ α` runs on a state `σ` and returns a value, returns an error, or never
gives control back. The state reached is kept in all three cases, since a failed
or abandoned computation leaves its effects behind. `Meets` is the weakest
precondition of a computation at a state; its rules compose along the syntax.
-/

namespace ZeroPostgres

/-- How a computation ends: `halt` stands for a computation that never returns. -/
inductive Outcome (ε α : Type) where
  | ok (value : α)
  | err (error : ε)
  | halt
deriving DecidableEq, Repr

namespace Outcome

variable {ε α β : Type}

/-- The outcome of continuing with `f` after a value. -/
def bind (o : Outcome ε α) (f : α → Outcome ε β) : Outcome ε β :=
  match o with
  | ok a => f a
  | err e => err e
  | halt => halt

instance : Monad (Outcome ε) where
  pure := ok
  bind := bind

@[simp] theorem pure_def (a : α) : (pure a : Outcome ε α) = ok a := rfl

@[simp] theorem bind_ok (a : α) (f : α → Outcome ε β) : (ok a : Outcome ε α) >>= f = f a := rfl

@[simp] theorem bind_err (e : ε) (f : α → Outcome ε β) :
    (err e : Outcome ε α) >>= f = err e := rfl

@[simp] theorem bind_halt (f : α → Outcome ε β) : (halt : Outcome ε α) >>= f = halt := rfl

/-- A bind returns a value exactly when both halves do. -/
theorem bind_eq_ok_iff {o : Outcome ε α} {f : α → Outcome ε β} {b : β} :
    o >>= f = ok b ↔ ∃ a, o = ok a ∧ f a = ok b := by
  cases o <;> simp

/-- The outcome carries a value. -/
def isOk : Outcome ε α → Bool
  | ok _ => true
  | _ => false

/-- The computation gave control back, with a value or an error. -/
def returned : Outcome ε α → Bool
  | halt => false
  | _ => true

/-- The result of an outcome that gave control back. -/
def toExcept? : Outcome ε α → Option (Except ε α)
  | ok a => some (.ok a)
  | err e => some (.error e)
  | halt => none

end Outcome

/-- A computation on the state `σ`. -/
def Act (ε σ α : Type) : Type := σ → Outcome ε α × σ

namespace Act

variable {ε σ τ α β : Type}

/-- Continue with `f` after a value; errors and lost control pass through. -/
def bind (x : Act ε σ α) (f : α → Act ε σ β) : Act ε σ β := fun s =>
  match x s with
  | (.ok a, s') => f a s'
  | (.err e, s') => (.err e, s')
  | (.halt, s') => (.halt, s')

instance : Monad (Act ε σ) where
  pure a := fun s => (.ok a, s)
  bind := bind

/-- Return the error `e`. -/
def fail (e : ε) : Act ε σ α := fun s => (.err e, s)

/-- Never return. -/
def halt : Act ε σ α := fun s => (.halt, s)

/-- The current state. -/
def get : Act ε σ σ := fun s => (.ok s, s)

/-- Change the state. -/
def modify (f : σ → σ) : Act ε σ Unit := fun s => (.ok (), f s)

/-- A computation that does not touch the state. -/
def lift (o : Outcome ε α) : Act ε σ α := fun s => (o, s)

/-- Turn an error into a value, so that the code after it still runs. -/
def attempt (x : Act ε σ α) : Act ε σ (Except ε α) := fun s =>
  match x s with
  | (.ok a, s') => (.ok (.ok a), s')
  | (.err e, s') => (.ok (.error e), s')
  | (.halt, s') => (.halt, s')

/-- Return what an attempted computation produced. -/
def ofExcept : Except ε α → Act ε σ α
  | .ok a => fun s => (.ok a, s)
  | .error e => fun s => (.err e, s)

/-- Run a computation on a part of the state. -/
def zoom (look : σ → τ) (put : σ → τ → σ) (x : Act ε τ α) : Act ε σ α := fun s =>
  let r := x (look s)
  (r.1, put s r.2)

/-! ### What a computation does at a state -/

section Run

variable (s : σ)

@[simp] theorem pure_run (a : α) : (pure a : Act ε σ α) s = (.ok a, s) := rfl

@[simp] theorem fail_run (e : ε) : (fail e : Act ε σ α) s = (.err e, s) := rfl

@[simp] theorem halt_run : (halt : Act ε σ α) s = (.halt, s) := rfl

@[simp] theorem get_run : (get : Act ε σ σ) s = (.ok s, s) := rfl

@[simp] theorem modify_run (f : σ → σ) : (modify f : Act ε σ Unit) s = (.ok (), f s) := rfl

@[simp] theorem lift_run (o : Outcome ε α) : (lift o : Act ε σ α) s = (o, s) := rfl

@[simp] theorem ofExcept_ok_run (a : α) :
    (ofExcept (.ok a) : Act ε σ α) s = (.ok a, s) := rfl

@[simp] theorem ofExcept_error_run (e : ε) :
    (ofExcept (.error e) : Act ε σ α) s = (.err e, s) := rfl

/-- A bind runs its first half and hands its value to the second. -/
theorem bind_run (x : Act ε σ α) (f : α → Act ε σ β) :
    (x >>= f) s = match x s with
      | (.ok a, s') => f a s'
      | (.err e, s') => (.err e, s')
      | (.halt, s') => (.halt, s') := rfl

theorem bind_assoc {γ : Type} (x : Act ε σ α) (f : α → Act ε σ β) (g : β → Act ε σ γ) :
    (x >>= f) >>= g = x >>= fun a => f a >>= g := by
  funext s
  simp only [bind_run]
  rcases x s with ⟨_ | _ | _, s'⟩ <;> rfl

/-- An attempt runs its computation and always has a value when control returns. -/
theorem attempt_run (x : Act ε σ α) :
    (attempt x) s = match x s with
      | (.ok a, s') => (.ok (.ok a), s')
      | (.err e, s') => (.ok (.error e), s')
      | (.halt, s') => (.halt, s') := rfl

end Run

/-- A sequence returns a value exactly when both halves do. -/
theorem bind_eq_ok_iff {x : Act ε σ α} {f : α → Act ε σ β} {s s' : σ}
    {b : β} :
    (x >>= f) s = (.ok b, s') ↔ ∃ a t, x s = (.ok a, t) ∧ f a t = (.ok b, s') := by
  rw [bind_run]
  generalize x s = r
  rcases r with ⟨a | e | _, t⟩
  · constructor
    · intro h
      exact ⟨a, t, rfl, h⟩
    · rintro ⟨_, _, heq, h⟩
      cases heq
      exact h
  · simp
  · simp

/-- A computation whose value is passed on changed has returned a value. -/
theorem map_ok {x : Act ε σ α} {g : α → β} {s s' : σ} {b : β}
    (h : (x >>= fun a => pure (g a)) s = (.ok b, s')) : ∃ a, x s = (.ok a, s') := by
  rw [bind_run] at h
  generalize x s = r at h ⊢
  rcases r with ⟨a | _ | _, s₁⟩
  · cases h
    exact ⟨a, rfl⟩
  · cases h
  · cases h

/-! ### Weakest preconditions -/

/-- Run at `s`, the computation ends in an outcome and a state that satisfy `Q`. -/
def Meets (x : Act ε σ α) (s : σ) (Q : Outcome ε α → σ → Prop) : Prop := Q (x s).1 (x s).2

section Rules

variable {s : σ} {x : Act ε σ α} {f : α → Act ε σ β}

@[simp] theorem meets_pure {a : α} {Q : Outcome ε α → σ → Prop} :
    Meets (pure a) s Q ↔ Q (.ok a) s := Iff.rfl

@[simp] theorem meets_fail {e : ε} {Q : Outcome ε α → σ → Prop} :
    Meets (fail e) s Q ↔ Q (.err e) s := Iff.rfl

@[simp] theorem meets_halt {Q : Outcome ε α → σ → Prop} :
    Meets halt s Q ↔ Q .halt s := Iff.rfl

@[simp] theorem meets_get {Q : Outcome ε σ → σ → Prop} :
    Meets get s Q ↔ Q (.ok s) s := Iff.rfl

@[simp] theorem meets_modify {g : σ → σ} {Q : Outcome ε Unit → σ → Prop} :
    Meets (modify g) s Q ↔ Q (.ok ()) (g s) := Iff.rfl

@[simp] theorem meets_lift {o : Outcome ε α} {Q : Outcome ε α → σ → Prop} :
    Meets (lift o) s Q ↔ Q o s := Iff.rfl

@[simp] theorem meets_ofExcept_ok {a : α} {Q : Outcome ε α → σ → Prop} :
    Meets (ofExcept (.ok a)) s Q ↔ Q (.ok a) s := Iff.rfl

@[simp] theorem meets_ofExcept_error {e : ε} {Q : Outcome ε α → σ → Prop} :
    Meets (ofExcept (.error e)) s Q ↔ Q (.err e) s := Iff.rfl

/-- Sequencing: the first half must lead to states where the second half meets `Q`. -/
@[simp] theorem meets_bind {Q : Outcome ε β → σ → Prop} :
    Meets (x >>= f) s Q ↔ Meets x s (fun o s' =>
      match o with
      | .ok a => Meets (f a) s' Q
      | .err e => Q (.err e) s'
      | .halt => Q .halt s') := by
  unfold Meets
  rw [bind_run]
  rcases x s with ⟨_ | _ | _, s'⟩ <;> exact Iff.rfl

/-- An attempt meets `Q` when the outcome, seen as a value, does. -/
@[simp] theorem meets_attempt {Q : Outcome ε (Except ε α) → σ → Prop} :
    Meets (attempt x) s Q ↔ Meets x s (fun o s' =>
      match o with
      | .ok a => Q (.ok (.ok a)) s'
      | .err e => Q (.ok (.error e)) s'
      | .halt => Q .halt s') := by
  unfold Meets
  rw [attempt_run]
  rcases x s with ⟨_ | _ | _, s'⟩ <;> exact Iff.rfl

/-- Consequence: a weaker postcondition is met where a stronger one is. -/
theorem Meets.mono {Q R : Outcome ε α → σ → Prop} (h : Meets x s Q)
    (hQR : ∀ o s', Q o s' → R o s') : Meets x s R :=
  hQR _ _ h

/-- A postcondition speaks of what a computation does at the state, however it is written. -/
theorem Meets.of_run_eq {y : Act ε σ α} {Q : Outcome ε α → σ → Prop} (h : x s = y s)
    (hy : Meets y s Q) : Meets x s Q := by
  unfold Meets
  rw [h]
  exact hy

/-- Two postconditions met separately are met together. -/
theorem Meets.and {Q R : Outcome ε α → σ → Prop} (hQ : Meets x s Q) (hR : Meets x s R) :
    Meets x s (fun o s' => Q o s' ∧ R o s') :=
  ⟨hQ, hR⟩

/-- Read a met postcondition at the outcome and state actually reached. -/
theorem Meets.at {Q : Outcome ε α → σ → Prop} (h : Meets x s Q) : Q (x s).1 (x s).2 := h

end Rules

/-! ### Relations kept from the first state to the last -/

/-- However it ends, the computation leads from a state to one related to it. -/
structure Keeps (R : σ → σ → Prop) (x : Act ε σ α) : Prop where
  rel : ∀ s, R s (x s).2

section Keeps

variable {R : σ → σ → Prop} [Std.Refl R]

theorem keeps_of_snd_eq {x : Act ε σ α} (h : ∀ s, (x s).2 = s) : Keeps R x := ⟨fun s => by
  rw [h]
  exact Std.Refl.refl s⟩

theorem keeps_pure (a : α) : Keeps R (pure a : Act ε σ α) := keeps_of_snd_eq fun _ => rfl

theorem keeps_fail (e : ε) : Keeps R (fail e : Act ε σ α) := keeps_of_snd_eq fun _ => rfl

theorem keeps_halt : Keeps R (halt : Act ε σ α) := keeps_of_snd_eq fun _ => rfl

theorem keeps_get : Keeps R (get : Act ε σ σ) := keeps_of_snd_eq fun _ => rfl

theorem keeps_lift (o : Outcome ε α) : Keeps R (lift o : Act ε σ α) :=
  keeps_of_snd_eq fun _ => rfl

theorem keeps_ofExcept (r : Except ε α) : Keeps R (ofExcept r : Act ε σ α) :=
  keeps_of_snd_eq fun _ => by cases r <;> rfl

omit [Std.Refl R] in
theorem keeps_modify {f : σ → σ} (h : ∀ s, R s (f s)) : Keeps R (modify f : Act ε σ Unit) := ⟨h⟩

omit [Std.Refl R] in
theorem Keeps.mono {R' : σ → σ → Prop} {x : Act ε σ α} (hx : Keeps R x)
    (h : ∀ s s', R s s' → R' s s') : Keeps R' x := ⟨fun s => h s _ (hx.rel s)⟩

omit [Std.Refl R] in
/-- Sequencing keeps a transitive relation. -/
theorem Keeps.bind [IsTrans σ R] {x : Act ε σ α} {f : α → Act ε σ β} (hx : Keeps R x)
    (hf : ∀ a, Keeps R (f a)) : Keeps R (x >>= f) := by
  refine ⟨fun s => ?_⟩
  have h := hx.rel s
  rw [bind_run]
  generalize x s = r at h ⊢
  rcases r with ⟨a | e | _, s'⟩
  · exact IsTrans.trans _ _ _ h ((hf a).rel s')
  · exact h
  · exact h

omit [Std.Refl R] in
theorem Keeps.attempt {x : Act ε σ α} (hx : Keeps R x) : Keeps R (attempt x) := by
  refine ⟨fun s => ?_⟩
  have h := hx.rel s
  rw [attempt_run]
  generalize x s = r at h ⊢
  rcases r with ⟨_ | _ | _, s'⟩ <;> exact h

end Keeps

end Act

end ZeroPostgres
