import ZeroPostgres.Pipeline.Ledger

/-!
# Programs of pipeline calls

What a program of calls is owed, told from the program and the server's log alone: which
tickets it holds, what became of each operation, and what the claim of its ticket has to give
back. Both clients are measured against it.
-/

namespace ZeroPostgres

/-- The tickets a program claims, with the handlers it passes. -/
def claimsOf : List PipelineCall → List (Ticket × Handler)
  | [] => []
  | .claim _ ticket handler :: cs => (ticket, handler) :: claimsOf cs
  | _ :: cs => claimsOf cs

/-- A program claims its tickets in order, each at most once and after the `exec` that gave
it: `held` are the tickets not claimed yet, `next` is the sequence number of the next one. -/
def ClaimsInOrder : List Ticket → Nat → List PipelineCall → Prop
  | _, _, [] => True
  | held, next, .exec statement _ :: cs =>
    ClaimsInOrder (held ++ [⟨next, statement.stmt?⟩]) (next + 1) cs
  | held, next, .claim _ ticket _ :: cs =>
    held.head? = some ticket ∧ ClaimsInOrder held.tail next cs
  | held, next, _ :: cs => ClaimsInOrder held next cs

instance ClaimsInOrder.decidable : ∀ held next cs, Decidable (ClaimsInOrder held next cs)
  | _, _, [] => .isTrue trivial
  | _, _, .exec .. :: cs => ClaimsInOrder.decidable _ _ cs
  | held, next, .claim _ ticket _ :: cs =>
    have := ClaimsInOrder.decidable held.tail next cs
    inferInstanceAs (Decidable (held.head? = some ticket ∧ ClaimsInOrder held.tail next cs))
  | _, _, .flush _ :: cs => ClaimsInOrder.decidable _ _ cs
  | _, _, .sync _ :: cs => ClaimsInOrder.decidable _ _ cs

/-- The server ran the operation and it failed. -/
def Fate.failed : Fate → Bool
  | .ran _ _ ending => ending.failed
  | .skipped => false

/-- An operation a program queued: how it was sent, what became of it, and whether an earlier
operation between the same Syncs failed. -/
structure QueuedOp where
  kind : OpKind
  fate : Fate
  behind : Bool
deriving DecidableEq, Repr

/-- The operations among the entries of a queue, given whether one has failed since the last
Sync. -/
def operations : Bool → List Item → List QueuedOp
  | _, [] => []
  | behind, .op kind fate :: items =>
    ⟨kind, fate, behind⟩ :: operations (behind || fate.failed) items
  | _, .sync _ :: items => operations false items

/-- Whether an operation has failed since the last Sync of the entries. -/
def behindAfter : Bool → List Item → Bool
  | behind, [] => behind
  | behind, .op _ fate :: items => behindAfter (behind || fate.failed) items
  | _, .sync _ :: items => behindAfter false items

theorem operations_append (behind : Bool) (items items' : List Item) :
    operations behind (items ++ items') =
      operations behind items ++ operations (behindAfter behind items) items' := by
  induction items generalizing behind with
  | nil => rfl
  | cons item items ih => cases item <;> simp [operations, behindAfter, ih]

/-- A conformant server skips exactly the operations behind a failed one. -/
theorem Owes.skipped_iff {s t : Bool} {items : List Item} {ms : List RawMessage}
    (h : Owes s items ms t) : ∀ o ∈ operations s items, o.fate = .skipped ↔ o.behind = true := by
  induction h with
  | nil => simp [operations]
  | skipped _ ih => simpa [operations] using ih
  | @op kind fate r items ms t hr _ ih =>
    have hskip : fate.skipping = fate.failed := by
      cases fate with
      | ran => rfl
      | skipped => exact absurd rfl hr.ne_skipped
    rw [hskip] at ih
    simpa [operations, hr.ne_skipped] using ih
  | sync _ _ ih => simpa [operations] using ih
  | syncError _ _ _ _ ih => simpa [operations] using ih

/-- What the claim of an operation's ticket has to give back: that the pipeline is aborted
behind a failed operation, and otherwise the operation's own error or its own result. -/
def QueuedOp.result (o : QueuedOp) (ticket : Ticket) : Option (Except Error (List Callback)) :=
  if o.behind then some (.error Pipeline.pipelineAborted)
  else match o.fate with
    | .ran _ _ (.error e) => some (.error (.server e))
    | .ran columns rows ending =>
      (Pipeline.callsFor (o.kind.source ticket columns) rows ending).map .ok
    | .skipped => none

/-- What the code reports for an operation is what its claim has to give back. -/
theorem QueuedOp.result_eq {o : QueuedOp} (h : o.fate = .skipped ↔ o.behind = true)
    (ticket : Ticket) : o.result ticket = Pipeline.claimResult o.kind ticket o.fate := by
  obtain ⟨kind, fate, behind⟩ := o
  cases fate with
  | skipped =>
    have hb : behind = true := h.mp rfl
    simp [QueuedOp.result, Pipeline.claimResult, hb]
  | ran columns rows ending =>
    have hb : behind = false := by
      cases behind with
      | false => rfl
      | true => cases h.mpr rfl
    cases ending <;> simp [QueuedOp.result, Pipeline.claimResult, hb]

/-- The error that a Sync was answered with. -/
def Item.syncError? : Item → Option ServerError
  | .sync error => error
  | .op .. => none

/-- No Sync was answered with an error. -/
def SyncsSucceed (items : List Item) : Prop := ∀ item ∈ items, item.syncError? = none

instance (items : List Item) : Decidable (SyncsSucceed items) :=
  inferInstanceAs (Decidable (∀ item ∈ items, item.syncError? = none))

theorem SyncsSucceed.not_mem {items : List Item} (h : SyncsSucceed items) (error : ServerError) :
    .sync (some error) ∉ items := fun hm => by cases h _ hm

/-- The replies to the claimed operations can be delivered. -/
def DeliversAll (claims : List (Ticket × Handler)) (ops : List QueuedOp) : Prop :=
  ∀ (k : Nat) (claim : Ticket × Handler) (o : QueuedOp),
    claims[k]? = some claim → ops[k]? = some o → Pipeline.Delivers o.kind claim.1 claim.2 o.fate

instance (claims : List (Ticket × Handler)) (ops : List QueuedOp) :
    Decidable (DeliversAll claims ops) :=
  decidable_of_iff (∀ x ∈ claims.zip ops, Pipeline.Delivers x.2.kind x.1.1 x.1.2 x.2.fate) <| by
    simp only [DeliversAll, List.mem_iff_getElem?, List.getElem?_zip_eq_some]
    exact ⟨fun h k claim o hc ho => h (claim, o) ⟨k, hc, ho⟩,
      fun h x ⟨k, hc, ho⟩ => h k x.1 x.2 hc ho⟩

end ZeroPostgres
