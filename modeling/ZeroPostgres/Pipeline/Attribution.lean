import ZeroPostgres.Pipeline.Blocking
import ZeroPostgres.Pipeline.InOrder

/-!
# Whose result a claim gives back

A program executes operations, puts Syncs and flushes anywhere among them and claims its tickets in
order. `claims_attributed` says of both clients when each claim gives back what became of its own
operation. The claims that find a Sync at the front of the queue are left out:
`claims_misattributed` shows one that gives back what became of an operation before that Sync.
-/

namespace ZeroPostgres

namespace Pipeline

variable {P : Peer} {K : Type} (run : Runner P K) (calls : List PipelineCall) (p : Pipeline P K)

/-- What the server did for the operations and Syncs that a program of calls sent. -/
def servedAlong : List Item :=
  served ((run.after calls p).conn.stream.log.drop p.conn.stream.log.length)

/-- The session stays open, no claim finds a Sync at the front of the queue or half a message in the
write buffer, no Sync is answered with an error, and what is claimed can be delivered. -/
structure Claimable : Prop where
  session : (run.after calls p).conn.session.mode ≠ .closed
  fronts : Always run.step (fun p c => ¬ MeetsSync p c) p calls
  whole : Always run.step (fun p c => ¬ MeetsHalf p c) p calls
  syncs : SyncsSucceed (servedAlong run calls p)
  delivers : DeliversAll (claimsOf calls) (operations false (servedAlong run calls p))

/-- Each claim gives back the result of its own operation, the error of its own, or that the
pipeline is aborted, as the operation ended, failed, or came behind a failed one and no Sync
between them. -/
def ClaimsAttributed : Prop :=
  run.Attributed (operations false (servedAlong run calls p)) calls p

variable {run calls p}

theorem Accounts.attributed {Good : Account P K} (h : Accounts run p.conn.stream.log Good)
    (hp : Tracked Good [] 0 p) (hnew : p.queueSeq = 0) (horder : ClaimsInOrder [] 0 calls)
    (hcuts : ∀ c ∈ calls, c.cut = none) (hok : Claimable run calls p) :
    ClaimsAttributed run calls p := by
  have htold : Foretold Good (servedAlong run calls p) (run.after calls p) :=
    h.foretold (List.prefix_refl _)
  have htracked := h.after_tracked hok.syncs calls hp (by rw [hnew]; exact horder) hcuts hok.fronts
    hok.session htold (by simpa using hok.delivers)
  exact htracked.2 hok.whole

/-- A claim that fails although its operation is owed a result. -/
theorem not_attributed {ops : List QueuedOp} (k : Nat) (ticket : Ticket) (e : Error)
    (hout : (run.outcomes calls p)[k]? = some (ticket, some (.error e)))
    (hres : (ops[k]?.bind fun o => o.result ticket).any (·.isOk) = true) :
    ¬ run.Attributed ops calls p := by
  intro h
  obtain ⟨o, result, ho, hresult, herror⟩ := h k ticket _ hout
  rw [ho, Option.bind_some, hresult] at hres
  cases result with
  | ok calls => cases herror
  | error e => cases hres

end Pipeline

open Pipeline

/-- On a connection on which nothing is left to be read, the claims of a program that claims its
tickets in order are attributed, in either client. -/
theorem claims_attributed {P : Peer} (hP : P.NoCopy) (calls : List PipelineCall)
    (horder : ClaimsInOrder [] 0 calls) (hcuts : ∀ c ∈ calls, c.cut = none) :
    (∀ c : Sync.Conn P, c.Aligned → c.stream.cut = none →
      Claimable Sync.Pipeline.runCall calls (Sync.Pipeline.new c) →
      ClaimsAttributed Sync.Pipeline.runCall calls (Sync.Pipeline.new c)) ∧
    (∀ c : Tokio.Conn P, c.Aligned → c.stream.cut = none → c.isBroken = false →
      Claimable Tokio.Pipeline.runCall calls (Tokio.Pipeline.new c) →
      ClaimsAttributed Tokio.Pipeline.runCall calls (Tokio.Pipeline.new c)) := by
  refine ⟨fun c haligned hcut hok => ?_, fun c haligned hcut hc hok => ?_⟩
  · exact (Sync.Pipeline.accounts hP c.stream.log).attributed
      (Sync.Pipeline.new_tracked haligned hcut) rfl horder hcuts hok
  · have hlog : (Tokio.Pipeline.new c).conn.stream.log = c.stream.log := by
      unfold Tokio.Pipeline.new
      split <;> rfl
    have hnew : (Tokio.Pipeline.new c).queueSeq = 0 := by
      unfold Tokio.Pipeline.new
      split <;> rfl
    have haccounts := Tokio.Pipeline.accounts hP c.stream.log
    have htracked := Tokio.Pipeline.new_tracked hc haligned hcut
    rw [← hlog] at haccounts htracked
    exact haccounts.attributed htracked hnew horder hcuts hok

/-- A server that rejects FAIL. -/
def rejecting : Peer := Reference.scripted fun sql => if sql = "FAIL" then .fails else .command

/-- A connection to it. -/
def idleConnection {K : Type} (flags : K) : Conn rejecting K := .fresh Reference.start flags

/-- A batch with a failing operation and one behind it, and an operation behind its Sync. -/
def twoBatches : List PipelineCall :=
  [.exec (.sql "FIRST") .none, .exec (.sql "FAIL") .none, .flush none, .exec (.sql "NEXT") .none,
    .sync none, .claim none ⟨0, none⟩ DropHandler, .claim none ⟨1, none⟩ DropHandler,
    .claim none ⟨2, none⟩ DropHandler, .exec (.sql "LAST") .none, .flush none,
    .claim none ⟨3, none⟩ DropHandler]

theorem claims_attributed_twoBatches :
    ClaimsAttributed Sync.Pipeline.runCall twoBatches (Sync.Pipeline.new (idleConnection {})) ∧
    ClaimsAttributed Tokio.Pipeline.runCall twoBatches
      (Tokio.Pipeline.new (idleConnection ⟨false, false⟩)) := by
  have h := claims_attributed (P := rejecting) (Reference.peer_noCopy _) twoBatches
    (by decide +kernel) (by decide +kernel)
  exact ⟨h.1 _ (by decide +kernel) rfl
      ⟨by decide +kernel, by decide +kernel, by decide +kernel, by decide +kernel,
        by decide +kernel⟩,
    h.2 _ (by decide +kernel) rfl (by decide +kernel)
      ⟨by decide +kernel, by decide +kernel, by decide +kernel, by decide +kernel,
        by decide +kernel⟩⟩

open Tokio.Pipeline (syncBehindFailure) in
/-- The claim of an operation behind a Sync takes the Sync for an operation that the server skipped:
it says that the pipeline is aborted, although NEXT succeeds. -/
theorem claims_misattributed :
    ClaimsInOrder [] 0 syncBehindFailure ∧ (∀ c ∈ syncBehindFailure, c.cut = none) ∧
    ((idleConnection {} : Sync.Conn rejecting).Aligned ∧
      ¬ ClaimsAttributed Sync.Pipeline.runCall syncBehindFailure
        (Sync.Pipeline.new (idleConnection {}))) ∧
    (idleConnection ⟨false, false⟩ : Tokio.Conn rejecting).Aligned ∧
      ¬ ClaimsAttributed Tokio.Pipeline.runCall syncBehindFailure
        (Tokio.Pipeline.new (idleConnection ⟨false, false⟩)) := by
  refine ⟨by decide +kernel, by decide +kernel, ⟨by decide +kernel, ?_⟩, by decide +kernel, ?_⟩
  · exact not_attributed 1 ⟨1, none⟩ pipelineAborted (by decide +kernel) (by decide +kernel)
  · exact not_attributed 1 ⟨1, none⟩ pipelineAborted (by decide +kernel) (by decide +kernel)

end ZeroPostgres
