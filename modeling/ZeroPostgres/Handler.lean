import ZeroPostgres.Protocol.Backend

/-!
# Handlers

A handler of `src/src/handler.rs` is user code that receives the rows of a result. What
it does with them is its own business; what the client depends on is whether each call
succeeds. A `Handler` decides that from everything it has been called with so far.
-/

namespace ZeroPostgres

/-- One call of a handler method, `src/src/handler.rs:37–87`. -/
inductive Callback where
  | resultStart (cols : List FieldDescription)
  | row (cols : List FieldDescription) (row : DataRow)
  | resultEnd (tag : String)
deriving DecidableEq, Repr

/-- User code called with the parts of a result: the answer to the newest call, which is
the last of the list. -/
structure Handler where
  accept : List Callback → Except Error Unit

/-- `DropHandler`, `src/src/handler.rs:92–125`: it refuses nothing. -/
def DropHandler : Handler := ⟨fun _ => .ok ()⟩

@[simp] theorem DropHandler_accept (calls : List Callback) :
    DropHandler.accept calls = .ok () := rfl

/-- The handler never refuses a call. -/
def Handler.Total (h : Handler) : Prop := ∀ calls, h.accept calls = .ok ()

theorem DropHandler_total : DropHandler.Total := fun _ => rfl

/-- The handler accepts further calls one after the other. -/
def Willing (handler : Handler) : List Callback → List Callback → Prop
  | _, [] => True
  | acc, c :: cs => handler.accept (acc ++ [c]) = .ok () ∧ Willing handler (acc ++ [c]) cs

instance Willing.decidable (handler : Handler) : ∀ acc cs, Decidable (Willing handler acc cs)
  | _, [] => .isTrue trivial
  | acc, c :: cs =>
    match h : handler.accept (acc ++ [c]) with
    | .ok () =>
      have := Willing.decidable handler (acc ++ [c]) cs
      decidable_of_iff (Willing handler (acc ++ [c]) cs) (by simp [Willing, h])
    | .error _ => .isFalse (by simp [Willing, h])

/-- A handler that never refuses a call is willing. -/
theorem Handler.Total.willing {handler : Handler} (h : handler.Total) (acc cs : List Callback) :
    Willing handler acc cs := by
  induction cs generalizing acc with
  | nil => trivial
  | cons c cs ih => exact ⟨h _, ih _⟩

/-- A handler accepts calls in two parts. -/
theorem willing_append {handler : Handler} {acc cs ds : List Callback} :
    Willing handler acc (cs ++ ds) ↔ Willing handler acc cs ∧ Willing handler (acc ++ cs) ds := by
  induction cs generalizing acc with
  | nil => simp [Willing]
  | cons c cs ih => simp [Willing, ih, and_assoc]

/-- Of further calls made one after the other, none is refused with an error that leaves the
connection in use: a refusal, if there is one, breaks it. -/
def Bears (handler : Handler) : List Callback → List Callback → Prop
  | _, [] => True
  | acc, c :: cs =>
    match handler.accept (acc ++ [c]) with
    | .ok () => Bears handler (acc ++ [c]) cs
    | .error e => e.isConnectionBroken = true

instance Bears.decidable (handler : Handler) : ∀ acc cs, Decidable (Bears handler acc cs)
  | _, [] => .isTrue trivial
  | acc, c :: cs =>
    match h : handler.accept (acc ++ [c]) with
    | .ok () =>
      have := Bears.decidable handler (acc ++ [c]) cs
      decidable_of_iff (Bears handler (acc ++ [c]) cs) (by simp [Bears, h])
    | .error e => decidable_of_iff (e.isConnectionBroken = true) (by simp [Bears, h])

/-- A handler that accepts all calls bears them. -/
theorem Willing.bears {handler : Handler} {acc cs : List Callback} (h : Willing handler acc cs) :
    Bears handler acc cs := by
  induction cs generalizing acc with
  | nil => trivial
  | cons c cs ih =>
    unfold Bears
    rw [h.1]
    exact ih h.2

/-! ### The calls of a reply -/

/-- The call that a message of a result makes; its rows are read with the columns announced
last. -/
def callbackOf (columns : Bytes) (m : RawMessage) : Option Callback :=
  match m.type with
  | .rowDescription =>
    match RowDescription.parse m.payload with
    | .ok cols => some (.resultStart cols)
    | _ => none
  | .dataRow =>
    match RowDescription.parse columns, DataRow.parse m.payload with
    | .ok cols, .ok row => some (.row cols row)
    | _, _ => none
  | .commandComplete =>
    match CommandComplete.parse m.payload with
    | .ok tag => some (.resultEnd tag)
    | _ => none
  | _ => none

/-- The columns announced last, after one more message. -/
def columnsAfter (columns : Bytes) (m : RawMessage) : Bytes :=
  if m.type = .rowDescription then m.payload else columns

/-- The calls that the messages of a reply make, in their order. -/
def callbacksOf : Bytes → List RawMessage → List Callback
  | _, [] => []
  | columns, m :: ms => (callbackOf columns m).toList ++ callbacksOf (columnsAfter columns m) ms

end ZeroPostgres
