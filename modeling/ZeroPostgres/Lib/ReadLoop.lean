import ZeroPostgres.Lib.Act

/-!
# Loops that read messages

`readLoop` hands queued messages to a loop body one at a time until the body stops, fails
or the queue runs dry. It recurses on the queue, so it needs no fuel. `readLoop_meets` is
its invariant rule: one premise for a message read, one for the dry queue.
-/

namespace ZeroPostgres

/-- What a loop body decides after one message. -/
inductive Flow (β α : Type) where
  | next (state : β)
  | stop (value : α)
deriving DecidableEq, Repr

section

variable {ε σ M α β : Type}
variable (receive : M → Act ε σ Unit) (starve : Act ε σ α) (body : β → M → Act ε σ (Flow β α))

/-- Receive the queued messages in order and hand each to `body`, until it stops. -/
def readLoop : List M → β → Act ε σ α
  | [], _ => starve
  | m :: ms, b => do
    receive m
    match ← body b m with
    | .next b' => readLoop ms b'
    | .stop a => pure a

@[simp] theorem readLoop_nil (b : β) : readLoop receive starve body [] b = starve := rfl

/-- Go on after a round, with the queue that is left. -/
def resume (ms : List M) : Flow β α → Act ε σ α
  | .next b => readLoop receive starve body ms b
  | .stop a => pure a

/-- A loop on a nonempty queue runs one round and goes on. -/
theorem readLoop_cons (m : M) (ms : List M) (b : β) :
    readLoop receive starve body (m :: ms) b =
      receive m >>= fun _ => body b m >>= resume receive starve body ms := by
  funext s
  simp only [readLoop, Act.bind_run]
  rcases receive m s with ⟨_ | _ | _, s₁⟩
  · dsimp only
    rcases body b m s₁ with ⟨⟨_ | _⟩ | _ | _, s₂⟩ <;> rfl
  · rfl
  · rfl

/-- Where one round of the loop leads, for an invariant `I` of the rounds to come and a
postcondition `Q` of the whole loop. -/
def Round (I : List M → β → σ → Prop) (Q : Outcome ε α → σ → Prop) (ms : List M) :
    Outcome ε (Flow β α) → σ → Prop
  | .ok (.next b'), s => I ms b' s
  | .ok (.stop a), s => Q (.ok a) s
  | .err e, s => Q (.err e) s
  | .halt, s => Q .halt s

/-- Invariant rule: what each round re-establishes or turns into the postcondition, the
loop turns into the postcondition. The induction is on the queue. -/
theorem readLoop_meets {I : List M → β → σ → Prop} {Q : Outcome ε α → σ → Prop}
    (dry : ∀ b s, I [] b s → Act.Meets starve s Q)
    (round : ∀ m ms b s, I (m :: ms) b s →
      Act.Meets (receive m >>= fun _ => body b m) s (Round I Q ms)) :
    ∀ ms b s, I ms b s → Act.Meets (readLoop receive starve body ms b) s Q := by
  intro ms
  induction ms with
  | nil => exact dry
  | cons m ms ih =>
    intro b s hI
    have h := round m ms b s hI
    rw [readLoop_cons]
    simp only [Act.meets_bind] at h ⊢
    refine h.mono fun o s₁ h₁ => ?_
    cases o with
    | ok u =>
      refine Act.Meets.mono h₁ fun o₂ s₂ h₂ => ?_
      cases o₂ with
      | ok flow =>
        cases flow with
        | next b' => exact ih b' s₂ h₂
        | stop a => exact h₂
      | err e => exact h₂
      | halt => exact h₂
    | err e => exact h₁
    | halt => exact h₁

/-- A loop keeps what receiving, starving and every round keep. -/
theorem readLoop_keeps {R : σ → σ → Prop} [Std.Refl R] [IsTrans σ R]
    (hr : ∀ m, Act.Keeps R (receive m)) (hs : Act.Keeps R starve)
    (hb : ∀ b m, Act.Keeps R (body b m)) (ms : List M) (b : β) :
    Act.Keeps R (readLoop receive starve body ms b) := by
  induction ms generalizing b with
  | nil => exact hs
  | cons m ms ih =>
    rw [readLoop_cons]
    refine (hr m).bind fun _ => (hb b m).bind fun flow => ?_
    cases flow with
    | next b' => exact ih b'
    | stop a => exact Act.keeps_pure a

/-- Loops whose bodies agree where an invariant of the loop state holds run alike. -/
theorem readLoop_congr {body' : β → M → Act ε σ (Flow β α)} {I : β → Prop}
    (same : ∀ b m, I b → body b m = body' b m)
    (keeps : ∀ b m s b' s', I b → body b m s = (.ok (.next b'), s') → I b') (ms : List M) :
    ∀ b, I b → readLoop receive starve body ms b = readLoop receive starve body' ms b := by
  induction ms with
  | nil =>
    intro b _
    rfl
  | cons m ms ih =>
    intro b hb
    rw [readLoop_cons, readLoop_cons, ← same b m hb]
    funext s
    simp only [Act.bind_run]
    rcases receive m s with ⟨_ | _ | _, s₁⟩
    · dsimp only
      rcases hround : body b m s₁ with ⟨⟨b' | a⟩ | _ | _, s₂⟩
      · simp only [resume, ih b' (keeps b m s₁ b' s₂ hb hround)]
      · rfl
      · rfl
      · rfl
    · rfl
    · rfl

end

end ZeroPostgres
