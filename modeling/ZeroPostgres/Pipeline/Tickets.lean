import ZeroPostgres.Lib.Numbered
import ZeroPostgres.Lib.Threads
import ZeroPostgres.Pipeline.Exec
import ZeroPostgres.Pipeline.Follows

/-!
# Tickets of many pipelines

A ticket holds a sequence number and a statement; tickets may be copied and outlive the pipeline
that issued them. `check_sequence` compares the number with the counter of whatever pipeline the
ticket is presented to. Here a program runs any number of pipelines and presents any ticket it was
ever given to any of them. The tickets of one pipeline are a numbered queue (`Lib/Numbered.lean`),
so its own tickets are told apart; `Program.identified` says that nothing goes wrong while no
pipeline gets a foreign ticket that has the number it expects.
-/

namespace ZeroPostgres

open Act

variable {P : Peer} {K : Type}

namespace Pipeline

/-- `pending_count`, `src/src/sync/pipeline/mod.rs:554–557`: the subtraction of two `usize` panics
below zero, or wraps around in a release build. -/
def pendingCount (p : Pipeline P K) : Option Nat :=
  if p.claimSeq ≤ p.queueSeq then some (p.queueSeq - p.claimSeq) else none

end Pipeline

/-! ### Programs -/

/-- What a program does with the pipelines of a client. -/
structure PipelineApi (P : Peer) (K : Type) where
  new : Conn P K → Pipeline P K
  /-- One call, with its result if it gives one. -/
  runCall : PipelineCall → Pipeline P K → Option (Except Error CallResult) × Pipeline P K
  cleanup : Option Cut → Pipeline P K → Option Unit × Pipeline P K
  /-- A claim comes to read replies: its checks pass, and what was queued is sent. -/
  admits : Option Cut → Ticket → Pipeline P K → Bool
  /-- Calls are not refused from the start. -/
  ready : Pipeline P K → Bool
  /-- A call without a result is still running, and keeps the pipeline borrowed. -/
  blocks : Bool

/-- A pipeline with the tickets it issued since its last cleanup, each with its serial number, and
how many of them were claimed. It is busy while a call on it is running. -/
structure OpenPipeline (P : Peer) (K : Type) where
  pipeline : Pipeline P K
  issued : List (Nat × Ticket)
  claimed : Nat
  busy : Bool

/-- The tickets that are left to claim, in the order of their issue. -/
def OpenPipeline.pending (d : OpenPipeline P K) : List (Nat × Ticket) := d.issued.drop d.claimed

/-- A program: the pipelines it has created, and every ticket it was given. The serial number of a
ticket is its place among these. -/
structure Program (P : Peer) (K : Type) where
  pipelines : List (OpenPipeline P K)
  tickets : List Ticket

/-- One thing a program does. A new pipeline may be on any connection; a claim presents the ticket
of any serial number. -/
inductive ProgramStep (P : Peer) (K : Type) where
  | new (c : Conn P K)
  | exec (i : Nat) (statement : StatementRef) (params : Params)
  | flush (i : Nat) (cut : Option Cut)
  | sync (i : Nat) (cut : Option Cut)
  | claim (i : Nat) (cut : Option Cut) (serial : Nat) (handler : Handler)
  | cleanup (i : Nat) (cut : Option Cut)

namespace Program

variable (api : PipelineApi P K)

def empty : Program P K := ⟨[], []⟩

/-- The pipeline a program can call, by its place. -/
def usable (s : Program P K) (i : Nat) : Option (OpenPipeline P K) :=
  s.pipelines[i]?.filter fun d => !d.busy

def setPipeline (s : Program P K) (i : Nat) (d : OpenPipeline P K) : Program P K :=
  { s with pipelines := s.pipelines.set i d }

/-- The pipeline after a call that gave the result `r`. -/
def called {α : Type} (d : OpenPipeline P K) (r : Option α × Pipeline P K) : OpenPipeline P K :=
  { d with pipeline := r.2, busy := api.blocks && r.1.isNone }

/-- One step of a program. -/
def step (s : Program P K) : ProgramStep P K → Option (Program P K)
  | .new c => some { s with pipelines := s.pipelines ++ [⟨api.new c, [], 0, false⟩] }
  | .exec i statement params =>
    (s.usable i).map fun d =>
      let r := api.runCall (.exec statement params) d.pipeline
      match r.1 with
      | some (.ok (.ticket t)) =>
        { s.setPipeline i
            { called api d r with issued := d.issued ++ [(s.tickets.length, t)] } with
          tickets := s.tickets ++ [t] }
      | _ => s.setPipeline i (called api d r)
  | .flush i cut =>
    (s.usable i).map fun d => s.setPipeline i (called api d (api.runCall (.flush cut) d.pipeline))
  | .sync i cut =>
    (s.usable i).map fun d => s.setPipeline i (called api d (api.runCall (.sync cut) d.pipeline))
  | .claim i cut serial handler =>
    (s.usable i).bind fun d => s.tickets[serial]?.map fun t =>
      s.setPipeline i { called api d (api.runCall (.claim cut t handler) d.pipeline) with
        claimed := if api.admits cut t d.pipeline then d.claimed + 1 else d.claimed }
  | .cleanup i cut =>
    (s.usable i).map fun d =>
      s.setPipeline i { called api d (api.cleanup cut d.pipeline) with issued := [], claimed := 0 }

/-- A claim presents a ticket that the pipeline has issued since its last cleanup, or one that the
check in front of a claim refuses. -/
def Genuine (s : Program P K) : ProgramStep P K → Prop
  | .claim i _ serial _ => ∀ d ∈ s.usable i, ∀ t ∈ s.tickets[serial]?,
      (serial, t) ∈ d.issued ∨ t.seq ≠ d.pipeline.claimSeq ∨ api.ready d.pipeline = false
  | _ => True

/-- A claim reads replies only for the next ticket of its own pipeline, and with any other ticket it
returns an error and changes nothing. -/
def ClaimChecked (s : Program P K) : ProgramStep P K → Prop
  | .claim i cut serial handler => ∀ d ∈ s.usable i, ∀ t ∈ s.tickets[serial]?,
      (api.admits cut t d.pipeline = true → d.pending.head? = some (serial, t)) ∧
      (d.pending.head? ≠ some (serial, t) →
        ∃ e, api.runCall (.claim cut t handler) d.pipeline = (some (.error e), d.pipeline))
  | _ => True

instance (s : Program P K) : ∀ e, Decidable (Genuine api s e)
  | .claim i _ serial _ => inferInstanceAs (Decidable (∀ d ∈ s.usable i, ∀ t ∈ s.tickets[serial]?,
      (serial, t) ∈ d.issued ∨ t.seq ≠ d.pipeline.claimSeq ∨ api.ready d.pipeline = false))
  | .new _ | .exec .. | .flush .. | .sync .. | .cleanup .. => .isTrue trivial

/-! ### What the clients keep -/

/-- What a call that neither issues nor claims a ticket does to a pipeline. -/
structure Quiet (Between : Pipeline P K → Prop) (p p' : Pipeline P K) : Prop where
  between : Between p'
  claimSeq : p'.claimSeq = p.claimSeq
  queueSeq : p.queueSeq ≤ p'.queueSeq
  ready : api.ready p = false → api.ready p' = false

/-- What the calls of a client do to the counters, where `Between` holds between calls. -/
structure TicketLaws (Between : Pipeline P K → Prop) : Prop where
  new : ∀ c, Between (api.new c) ∧ (api.new c).claimSeq ≤ (api.new c).queueSeq
  exec : ∀ statement params p, Between p →
    let r := api.runCall (.exec statement params) p
    (∃ t : Ticket, r.1 = some (.ok (.ticket t)) ∧ t.seq = p.queueSeq ∧
      r.2.queueSeq = p.queueSeq + 1 ∧ Quiet api Between p r.2) ∨
    (∀ t, r.1 ≠ some (.ok (.ticket t))) ∧ Quiet api Between p r.2
  flush : ∀ cut p, Between p → Quiet api Between p (api.runCall (.flush cut) p).2
  sync : ∀ cut p, Between p → Quiet api Between p (api.runCall (.sync cut) p).2
  /-- The check refuses a ticket. -/
  refused : ∀ cut (t : Ticket) handler p, Between p →
    t.seq ≠ p.claimSeq ∨ api.ready p = false → api.admits cut t p = false ∧
      ∃ e, api.runCall (.claim cut t handler) p = (some (.error e), p)
  /-- The check lets a ticket pass: once the claim reads replies, the counter moves on or the
  pipeline is not called again. -/
  passed : ∀ cut (t : Ticket) handler p, Between p → api.ready p = true → t.seq = p.claimSeq →
    let r := api.runCall (.claim cut t handler) p
    Between r.2 ∧ r.2.queueSeq = p.queueSeq ∧
    (api.admits cut t p = false → r.2.claimSeq = p.claimSeq) ∧
    (api.admits cut t p = true → r.2.claimSeq = p.claimSeq + 1 ∨
      r.2.claimSeq = p.claimSeq ∧ (api.ready r.2 = false ∨ (api.blocks && r.1.isNone) = true))
  cleanup : ∀ cut p, Between p → p.claimSeq ≤ p.queueSeq →
    Between (api.cleanup cut p).2 ∧ (api.cleanup cut p).2.claimSeq ≤ (api.cleanup cut p).2.queueSeq

variable {api} {Between : Pipeline P K → Prop} {d : OpenPipeline P K} {s s' : Program P K}

/-- The pipeline takes no more calls. -/
def Stuck (api : PipelineApi P K) (d : OpenPipeline P K) : Prop :=
  api.ready d.pipeline = false ∨ d.busy = true

/-- The tickets of a pipeline are a numbered queue. -/
structure Kept (api : PipelineApi P K) (Between : Pipeline P K → Prop) (d : OpenPipeline P K) :
    Prop where
  between : Between d.pipeline
  numbered : Numbered (fun x : Nat × Ticket => x.2.seq) d.issued d.claimed d.pipeline.claimSeq
    d.pipeline.queueSeq (Stuck api d)

theorem usable_eq_some {i : Nat} (h : s.usable i = some d) :
    d ∈ s.pipelines ∧ d.busy = false := by
  obtain ⟨hd, hbusy⟩ := Option.filter_eq_some_iff.mp h
  exact ⟨List.mem_of_getElem? hd, by simpa using hbusy⟩

/-- A pipeline that is not busy can be called as long as it is ready. -/
theorem not_stuck (hbusy : d.busy = false) (hready : api.ready d.pipeline = true) :
    ¬ Stuck api d := by
  simp [Stuck, hbusy, hready]

theorem stuck_called {α : Type} {r : Option α × Pipeline P K} (hbusy : d.busy = false)
    (hready : api.ready d.pipeline = false → api.ready r.2 = false) (h : Stuck api d) :
    Stuck api (called api d r) := by
  rcases h with h | h
  · exact .inl (hready h)
  · rw [hbusy] at h
    cases h

theorem Kept.quiet {α : Type} {r : Option α × Pipeline P K} (h : Kept api Between d)
    (hbusy : d.busy = false) (hq : Quiet api Between d.pipeline r.2) :
    Kept api Between (called api d r) := by
  refine ⟨hq.between, ?_⟩
  rw [show (called api d r).pipeline.claimSeq = d.pipeline.claimSeq from hq.claimSeq]
  exact h.numbered.mono hq.queueSeq (stuck_called hbusy hq.ready)

/-- An execution issues the next number, or nothing. -/
theorem Kept.exec (laws : TicketLaws api Between) (h : Kept api Between d) (hbusy : d.busy = false)
    {statement : StatementRef} {params : Params} {t : Ticket} (serial : Nat)
    (ht : (api.runCall (.exec statement params) d.pipeline).1 = some (.ok (.ticket t))) :
    Kept api Between { called api d (api.runCall (.exec statement params) d.pipeline) with
      issued := d.issued ++ [(serial, t)] } := by
  rcases laws.exec statement params d.pipeline h.between with ⟨t', ht', hseq, hqueue, hq⟩ | ⟨hno, -⟩
  · rw [ht] at ht'
    cases ht'
    refine ⟨hq.between, ?_⟩
    have hadd : Numbered (fun x : Nat × Ticket => x.2.seq) (d.issued ++ [(serial, t)]) d.claimed
        d.pipeline.claimSeq (d.pipeline.queueSeq + 1) (Stuck api d) := h.numbered.add hseq
    rw [← hqueue, ← hq.claimSeq] at hadd
    exact hadd.mono (Nat.le_refl _) (stuck_called hbusy hq.ready)
  · exact absurd ht (hno t)

/-- A claim that is checked serves the next ticket, or the pipeline stays as it is. -/
theorem Kept.claim (laws : TicketLaws api Between) (h : Kept api Between d) (hbusy : d.busy = false)
    {t : Ticket} {serial : Nat} (cut : Option Cut) (handler : Handler)
    (hok : (serial, t) ∈ d.issued ∨ t.seq ≠ d.pipeline.claimSeq ∨ api.ready d.pipeline = false) :
    Kept api Between { called api d (api.runCall (.claim cut t handler) d.pipeline) with
        claimed := if api.admits cut t d.pipeline then d.claimed + 1 else d.claimed } ∧
      (api.admits cut t d.pipeline = true → d.pending.head? = some (serial, t)) ∧
      (d.pending.head? ≠ some (serial, t) →
        ∃ e, api.runCall (.claim cut t handler) d.pipeline = (some (.error e), d.pipeline)) := by
  by_cases hrefused : t.seq ≠ d.pipeline.claimSeq ∨ api.ready d.pipeline = false
  · obtain ⟨hadmits, e, hrun⟩ := laws.refused cut t handler d.pipeline h.between hrefused
    refine ⟨?_, fun hadmitted => ?_, fun _ => ⟨e, hrun⟩⟩
    · rw [hadmits, hrun]
      have hq : Quiet api Between d.pipeline d.pipeline := ⟨h.between, rfl, Nat.le_refl _, id⟩
      exact h.quiet (r := (some (Except.error e), d.pipeline)) hbusy hq
    · rw [hadmits] at hadmitted
      cases hadmitted
  · obtain ⟨hseq, hready⟩ := not_or.mp hrefused
    have hseq : t.seq = d.pipeline.claimSeq := not_not.mp hseq
    have hready : api.ready d.pipeline = true := by simpa using hready
    have hfront : d.pending.head? = some (serial, t) :=
      h.numbered.front (hok.resolve_right hrefused) hseq (not_stuck hbusy hready)
    refine ⟨?_, fun _ => hfront, fun hne => absurd hfront hne⟩
    obtain ⟨hbetween, hqueue, hkept, hserved⟩ :=
      laws.passed cut t handler d.pipeline h.between hready hseq
    generalize hr : api.runCall (.claim cut t handler) d.pipeline = r at *
    refine ⟨hbetween, ?_⟩
    cases hadmits : api.admits cut t d.pipeline with
    | false =>
      exact (h.quiet hbusy ⟨hbetween, hkept hadmits, Nat.le_of_eq hqueue.symm, fun hno => by
        rw [hready] at hno
        cases hno⟩).numbered
    | true =>
      rcases hserved hadmits with hclaim | ⟨hclaim, hstuck⟩
      · have hserve := h.numbered.serve hfront hseq
        rw [← hclaim, ← hqueue] at hserve
        exact hserve.mono (Nat.le_refl _) fun hs => absurd hs (not_stuck hbusy hready)
      · have hserve := h.numbered.serve_stuck hfront hstuck
        rw [← hclaim, ← hqueue] at hserve
        exact hserve

/-- A cleanup forgets the tickets. -/
theorem Kept.cleanup (laws : TicketLaws api Between) (h : Kept api Between d) (cut : Option Cut) :
    Kept api Between { called api d (api.cleanup cut d.pipeline) with
      issued := [], claimed := 0 } := by
  obtain ⟨hbetween, hle⟩ := laws.cleanup cut d.pipeline h.between h.numbered.counter_le
  exact ⟨hbetween, .empty hle⟩

/-- Every pipeline of the program keeps its tickets. -/
def Sound (api : PipelineApi P K) (Between : Pipeline P K → Prop) (s : Program P K) : Prop :=
  ∀ d ∈ s.pipelines, Kept api Between d

theorem Sound.setPipeline (h : Sound api Between s) {i : Nat} (hd : Kept api Between d) :
    Sound api Between (s.setPipeline i d) := by
  intro d' hd'
  rcases List.mem_or_eq_of_mem_set hd' with hd' | rfl
  · exact h d' hd'
  · exact hd

/-- A step whose claim is genuine keeps the tickets of every pipeline. -/
theorem step_sound (laws : TicketLaws api Between) (e : ProgramStep P K) (h : Sound api Between s)
    (hok : Genuine api s e) (hstep : step api s e = some s') : Sound api Between s' := by
  cases e with
  | new c =>
    cases hstep
    intro d hd
    rcases List.mem_append.mp hd with hd | hd
    · exact h d hd
    · rw [List.mem_singleton.mp hd]
      obtain ⟨hbetween, hle⟩ := laws.new c
      exact ⟨hbetween, .empty hle⟩
  | exec i statement params =>
    obtain ⟨d, hd, rfl⟩ := Option.map_eq_some_iff.mp hstep
    obtain ⟨hmem, hbusy⟩ := usable_eq_some hd
    have hkept := h d hmem
    dsimp only
    split
    · next t ht => exact h.setPipeline (hkept.exec laws hbusy _ ht)
    · next hno =>
      refine h.setPipeline (hkept.quiet hbusy ?_)
      rcases laws.exec statement params d.pipeline hkept.between with ⟨t, ht, -⟩ | ⟨-, hq⟩
      · exact absurd ht (hno t)
      · exact hq
  | flush i cut =>
    obtain ⟨d, hd, rfl⟩ := Option.map_eq_some_iff.mp hstep
    obtain ⟨hmem, hbusy⟩ := usable_eq_some hd
    exact h.setPipeline ((h d hmem).quiet hbusy (laws.flush cut _ (h d hmem).between))
  | sync i cut =>
    obtain ⟨d, hd, rfl⟩ := Option.map_eq_some_iff.mp hstep
    obtain ⟨hmem, hbusy⟩ := usable_eq_some hd
    exact h.setPipeline ((h d hmem).quiet hbusy (laws.sync cut _ (h d hmem).between))
  | claim i cut serial handler =>
    obtain ⟨d, hd, hstep⟩ := Option.bind_eq_some_iff.mp hstep
    obtain ⟨t, ht, rfl⟩ := Option.map_eq_some_iff.mp hstep
    obtain ⟨hmem, hbusy⟩ := usable_eq_some hd
    exact h.setPipeline ((h d hmem).claim laws hbusy cut handler (hok d hd t ht)).1
  | cleanup i cut =>
    obtain ⟨d, hd, rfl⟩ := Option.map_eq_some_iff.mp hstep
    exact h.setPipeline ((h d (usable_eq_some hd).1).cleanup laws cut)

/-- Genuine claims are checked. -/
theorem claimChecked (laws : TicketLaws api Between) (e : ProgramStep P K)
    (h : Sound api Between s) (hok : Genuine api s e) : ClaimChecked api s e := by
  cases e with
  | claim i cut serial handler =>
    intro d hd t ht
    obtain ⟨hmem, hbusy⟩ := usable_eq_some hd
    exact ((h d hmem).claim laws hbusy cut handler (hok d hd t ht)).2
  | _ => trivial

/-- In a program whose claims are genuine every claim is checked, and no count of pending tickets
underflows. -/
theorem identified (laws : TicketLaws api Between) {steps : List (ProgramStep P K)}
    (hok : Always (step api) (Genuine api) empty steps)
    (hrun : runSteps (step api) empty steps = some s) :
    (∀ d ∈ s.pipelines, d.pipeline.pendingCount ≠ none) ∧
      Always (step api) (ClaimChecked api) empty steps := by
  have hstart : Sound api Between (empty : Program P K) := fun d hd => absurd hd List.not_mem_nil
  have hstep : ∀ s e s', Sound api Between s → Genuine api s e → step api s e = some s' →
      Sound api Between s' := fun _ e _ => step_sound laws e
  refine ⟨fun d hd => ?_, Always.imp hstep (fun s e => claimChecked laws e) hstart hok⟩
  have hle := (runSteps_inv hstep hstart hok hrun d hd).numbered.counter_le
  rw [Pipeline.pendingCount, if_pos hle]
  exact Option.some_ne_none _

end Program

end ZeroPostgres
