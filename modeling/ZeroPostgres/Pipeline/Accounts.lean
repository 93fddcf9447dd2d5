import ZeroPostgres.Lib.Threads
import ZeroPostgres.Pipeline.Program

/-!
# What claims in order give back

What the calls of a client do to the account of a pipeline is stated as laws (`Accounts`): `exec`
queues, `flush` and `sync` send, and a claim consumes the operation at the front of the queue and
the Syncs behind it. `Tracked` ties the tickets a program holds to the queue, and
`Accounts.attributed` says of any client that meets the laws what each claim gives back.
-/

namespace ZeroPostgres.Pipeline

variable {P : Peer} {K : Type}

/-! ### Programs -/

/-- What a call leads to: what it returns, if it comes to an end, and the pipeline behind it. -/
abbrev Runner (P : Peer) (K : Type) :=
  PipelineCall → Pipeline P K → Option (Except Error CallResult) × Pipeline P K

namespace Runner

/-- A call as a step. -/
def step (run : Runner P K) (p : Pipeline P K) (c : PipelineCall) : Option (Pipeline P K) :=
  some (run c p).2

/-- The pipeline after the calls of a program. -/
def after (run : Runner P K) : List PipelineCall → Pipeline P K → Pipeline P K
  | [], p => p
  | c :: cs, p => after run cs (run c p).2

/-- What the claims of a program give back, with their tickets. -/
def outcomes (run : Runner P K) : List PipelineCall → Pipeline P K →
    List (Ticket × Option (Except Error CallResult))
  | [], _ => []
  | .claim cut ticket handler :: cs, p =>
    (ticket, (run (.claim cut ticket handler) p).1) ::
      outcomes run cs (run (.claim cut ticket handler) p).2
  | c :: cs, p => outcomes run cs (run c p).2

/-- Each claim of a program gives back what its operation, the one at the same place in `ops`, has
to give back. -/
def Attributed (run : Runner P K) (ops : List QueuedOp) (calls : List PipelineCall)
    (p : Pipeline P K) : Prop :=
  ∀ (k : Nat) (ticket : Ticket) (outcome : Option (Except Error CallResult)),
    (run.outcomes calls p)[k]? = some (ticket, outcome) →
      ∃ o result, ops[k]? = some o ∧ o.result ticket = some result ∧
        outcome = some (result.map .calls)

end Runner

/-- The call is the claim of the next ticket, and a Sync is at the front of the queue. -/
def MeetsSync (p : Pipeline P K) : PipelineCall → Prop
  | .claim _ ticket _ => ticket.seq = p.claimSeq ∧ p.expectations.head? = some .sync
  | _ => False

instance (p : Pipeline P K) : ∀ c, Decidable (MeetsSync p c)
  | .claim .. => inferInstanceAs (Decidable (_ ∧ _))
  | .exec .. | .flush .. | .sync .. => inferInstanceAs (Decidable False)

/-- The call is a claim, and half a message is in the write buffer. -/
def MeetsHalf (p : Pipeline P K) : PipelineCall → Prop
  | .claim .. => Malformed p.buffers.writeBuffer
  | _ => False

instance (p : Pipeline P K) : ∀ c, Decidable (MeetsHalf p c)
  | .claim .. => inferInstanceAs (Decidable (Malformed _))
  | .exec .. | .flush .. | .sync .. => inferInstanceAs (Decidable False)

/-- Number of operations in a queue. -/
def opCount (q : List Expectation) : Nat := q.countP (· ≠ .sync)

/-- The tickets held and not claimed are those of the operations in the queue, in order, and
`n` were claimed before. -/
structure Tickets (held : List Ticket) (n : Nat) (past : List Item) (p : Pipeline P K) : Prop where
  claimSeq : p.claimSeq = n
  claimed : (operations false past).length = n
  queueSeq : p.queueSeq = n + held.length
  seqs : held.map (·.seq) = List.range' n held.length
  queued : opCount p.expectations = held.length

/-! ### Laws -/

/-- An account of a pipeline: the entries consumed, those sent and not consumed, the operations not
sent, and whether the server discards messages at the end of what was sent. -/
abbrev Account (P : Peer) (K : Type) :=
  List Item → List Item → List OpKind → Bool → Pipeline P K → Prop

section Laws

variable (Good : Account P K) (past : List Item)

/-- What was queued has been sent, or the peer has closed the session. -/
def Posted (p p' : Pipeline P K) : Prop :=
  Closed p' ∨ ¬ Malformed p.buffers.writeBuffer ∧ p'.queueSeq = p.queueSeq ∧
    p'.claimSeq = p.claimSeq ∧ opCount p'.expectations = opCount p.expectations ∧
    ∃ items t, Good past items [] t p'

/-- The claim consumed the operation at the front of the queue and the Syncs behind it, and gave
back what became of the operation. -/
def Consumed (ticket : Ticket) (p p' : Pipeline P K)
    (outcome : Option (Except Error CallResult)) : Prop :=
  ∃ kind fate m items t result,
    Good (past ++ .op kind fate :: List.replicate m (.sync none)) items [] t p' ∧
    p'.queueSeq = p.queueSeq ∧ p'.claimSeq = p.claimSeq + 1 ∧
    opCount p'.expectations + 1 = opCount p.expectations ∧
    claimResult kind ticket fate = some result ∧ outcome = some (result.map .calls)

variable {Good past} in
/-- A claim that consumed what was at the front and reported what became of it. -/
theorem consumed_of_reported {kind : OpKind} {fate : Fate} {m : Nat} {items : List Item} {t : Bool}
    {ticket : Ticket} {p p' : Pipeline P K} {o : Outcome Error (List Callback)}
    (hg : Good (past ++ .op kind fate :: List.replicate m (.sync none)) items [] t p')
    (hqueueSeq : p'.queueSeq = p.queueSeq) (hclaimSeq : p'.claimSeq = p.claimSeq + 1)
    (hqueue : p'.expectations = items.map Item.expectation)
    (hcount : opCount ((.op kind fate :: (List.replicate m (.sync none) ++ items)).map
      Item.expectation) = opCount p.expectations)
    (hrep : Reported (claimResult kind ticket fate) o) :
    Consumed Good past ticket p p' (o.toExcept?.map fun r => r.map .calls) := by
  have hqueued : opCount p'.expectations + 1 = opCount p.expectations := by
    have hop : kind.expectation ≠ .sync := by cases kind <;> decide
    rw [← hcount, hqueue]
    simp [opCount, Item.expectation, hop, List.countP_replicate]
  have consumed {result : Except Error (List Callback)}
      (hres : claimResult kind ticket fate = some result) (ho : o.toExcept? = some result) :
      Consumed Good past ticket p p' (o.toExcept?.map fun r => r.map .calls) :=
    ⟨kind, fate, m, items, t, result, hg, hqueueSeq, hclaimSeq, hqueued, hres, by rw [ho]; rfl⟩
  cases o with
  | ok calls => exact consumed hrep rfl
  | err e => exact consumed hrep rfl
  | halt => exact hrep.elim

/-- The operation at the front of the queue could not be delivered, or a Sync behind it was answered
with an error. -/
def Disturbed (ticket : Ticket) (handler : Handler) (p' : Pipeline P K) : Prop :=
  ∃ kind fate rest t p₁, Good past (.op kind fate :: rest) [] t p₁ ∧ Follows p₁ p' ∧
    ((∃ error, .sync (some error) ∈ rest) ∨ ¬ Delivers kind ticket handler fate)

end Laws

/-- The automatic Sync of a claim leaves the operation at the front of the queue. -/
theorem front_of_synced {p p₁ : Pipeline P K} {items : List Item}
    (hq : p₁.expectations = p.expectations ∨ p₁.expectations = p.expectations ++ [.sync])
    (hqueue : p₁.expectations = items.map Item.expectation) (hne : p.expectations ≠ [])
    (hfront : p.expectations.head? ≠ some .sync) :
    ∃ kind fate rest, items = .op kind fate :: rest ∧
      opCount (items.map Item.expectation) = opCount p.expectations := by
  have hcount : opCount p₁.expectations = opCount p.expectations := by
    rcases hq with hq | hq <;> rw [hq]
    simp [opCount]
  have hhead : p₁.expectations.head? = p.expectations.head? := by
    obtain ⟨e, q, hp⟩ := List.exists_cons_of_ne_nil hne
    rcases hq with hq | hq <;> rw [hq]
    rw [hp]
    rfl
  rw [hqueue] at hcount hhead
  cases items with
  | nil => exact absurd (List.head?_eq_none_iff.mp hhead.symm) hne
  | cons item rest =>
    cases item with
    | sync error => exact absurd hhead.symm hfront
    | op kind fate => exact ⟨kind, fate, rest, rfl, hcount⟩

/-- What the calls of a client do to an account. -/
structure Accounts (run : Runner P K) (start : List (Frontend × List RawMessage))
    (Good : Account P K) : Prop where
  ledger {past items kinds t p} : Good past items kinds t p → Ledger start past items kinds t p
  follows (c : PipelineCall) (p : Pipeline P K) : Follows p (run c p).2
  exec {past items kinds t p} (statement : StatementRef) (params : Params) :
    Good past items kinds t p →
      let p' := (run (.exec statement params) p).2
      p'.queueSeq = p.queueSeq + 1 ∧ p'.claimSeq = p.claimSeq ∧
      (Malformed p.buffers.writeBuffer → Malformed p'.buffers.writeBuffer) ∧
      (Good past items (kinds ++ [statement.kind]) t p' ∨
        Malformed p'.buffers.writeBuffer ∧ Good past items kinds t p')
  flush {past items kinds t p} : Good past items kinds t p →
    Posted Good past p (run (.flush none) p).2
  sync {past items kinds t p} : Good past items kinds t p →
    Posted Good past p (run (.sync none) p).2
  malformed {past items kinds t p} (ticket : Ticket) (handler : Handler) :
    Good past items kinds t p → Malformed p.buffers.writeBuffer →
      Closed (run (.claim none ticket handler) p).2 ∨ (run (.claim none ticket handler) p).2 = p
  claim {past items kinds t p} {ticket : Ticket} (handler : Handler) :
    Good past items kinds t p → ticket.seq = p.claimSeq → p.expectations ≠ [] →
    p.expectations.head? ≠ some .sync → ¬ Malformed p.buffers.writeBuffer →
      let r := run (.claim none ticket handler) p
      Closed r.2 ∨ Disturbed Good past ticket handler r.2 ∨ Consumed Good past ticket p r.2 r.1

/-- Between the calls of a program that claims in order: the pipeline has an account, and either
half a message in its write buffer keeps it from going on, or its tickets are in order. -/
def Tracked (Good : Account P K) (held : List Ticket) (n : Nat) (p : Pipeline P K) : Prop :=
  ∃ past items kinds t, Good past items kinds t p ∧
    (Malformed p.buffers.writeBuffer ∨ Tickets held n past p)

/-- The account of every pipeline up to `p'` is told by the beginning of `served`. -/
def Foretold (Good : Account P K) (served : List Item) (p' : Pipeline P K) : Prop :=
  ∀ past items kinds t p, Good past items kinds t p → Follows p p' → past ++ items <+: served

/-- A queue with a ticket held for one of its operations is not empty. -/
theorem Tickets.ne_nil {held : List Ticket} {n : Nat} {past : List Item} {p : Pipeline P K}
    {ticket : Ticket} (h : Tickets held n past p) (hhead : held.head? = some ticket) :
    p.expectations ≠ [] := by
  intro hnil
  have hq := h.queued
  rw [hnil] at hq
  cases held with
  | nil => cases hhead
  | cons a held => cases hq

/-- The first ticket held is the next to be claimed. -/
theorem Tickets.next {held : List Ticket} {n : Nat} {past : List Item} {p : Pipeline P K}
    {ticket : Ticket} (h : Tickets held n past p) (hhead : held.head? = some ticket) :
    ticket.seq = p.claimSeq := by
  cases held with
  | nil => cases hhead
  | cons a held =>
    cases hhead
    have hseqs := h.seqs
    rw [List.map_cons, List.length_cons, List.range'_succ] at hseqs
    rw [h.claimSeq]
    exact (List.cons.inj hseqs).1

/-- The operation at the front of a queue is found at the number of those before it. -/
theorem operation_at {past : List Item} {kind : OpKind} {fate : Fate}
    {rest served : List Item} {n : Nat} (h : past ++ .op kind fate :: rest <+: served)
    (hn : (operations false past).length = n) :
    (operations false served)[n]? = some ⟨kind, fate, behindAfter false past⟩ := by
  obtain ⟨more, rfl⟩ := h
  rw [List.append_assoc, operations_append, ← hn]
  simp [operations]

private theorem operations_syncs (behind : Bool) (m : Nat) :
    operations behind (List.replicate m (.sync none)) = [] := by
  induction m generalizing behind with
  | zero => rfl
  | succ m ih => simpa [List.replicate_succ, operations] using ih false

/-- An account at some point of a run tells the beginning of what the log says at its end. -/
theorem Ledger.told {start log : List (Frontend × List RawMessage)} {past items : List Item}
    {kinds : List OpKind} {t : Bool} {p : Pipeline P K} (h : Ledger start past items kinds t p)
    (hlog : p.conn.stream.log <+: log) : past ++ items <+: served (log.drop start.length) := by
  obtain ⟨l, ms, hl, hserves, -⟩ := h.history
  obtain ⟨more, rfl⟩ := hlog
  rw [hl, List.append_assoc, List.drop_left, hserves more]
  exact List.prefix_append ..

namespace Accounts

variable {run : Runner P K} {start : List (Frontend × List RawMessage)} {Good : Account P K}
variable {past items : List Item} {kinds : List OpKind} {t : Bool} {p p' : Pipeline P K}
variable {held : List Ticket} {n : Nat} {served : List Item}

theorem foretold (h : Accounts run start Good) {log : List (Frontend × List RawMessage)}
    (hlog : p.conn.stream.log <+: log) :
    Foretold Good (ZeroPostgres.served (log.drop start.length)) p :=
  fun _ _ _ _ _ hg hf => (h.ledger hg).told (hf.log_grows.trans hlog)

theorem after_follows (h : Accounts run start Good) (calls : List PipelineCall)
    (p : Pipeline P K) : Follows p (run.after calls p) := by
  induction calls generalizing p with
  | nil => exact .of_eq rfl rfl
  | cons c cs ih => exact IsTrans.trans (r := Conn.Follows) _ _ _ (h.follows c p) (ih _)

/-! ### One call -/

/-- `exec` gives a ticket for the operation it queues, unless a parameter cannot be encoded. -/
theorem exec_tracked (h : Accounts run start Good) (hp : Tracked Good held n p)
    (statement : StatementRef) (params : Params) :
    Tracked Good (held ++ [⟨p.queueSeq, statement.stmt?⟩]) n (run (.exec statement params) p).2 ∧
      (run (.exec statement params) p).2.queueSeq = p.queueSeq + 1 := by
  obtain ⟨past, items, kinds, t, hg, ht⟩ := hp
  obtain ⟨hqueueSeq, hclaimSeq, hmal, hg'⟩ := h.exec statement params hg
  generalize (run (.exec statement params) p).2 = p' at *
  refine ⟨?_, hqueueSeq⟩
  rcases hg' with hg' | ⟨hm, hg'⟩
  · refine ⟨past, items, _, t, hg', ht.imp hmal fun ht => ⟨?_, ht.claimed, ?_, ?_, ?_⟩⟩
    · rw [hclaimSeq, ht.claimSeq]
    · rw [hqueueSeq, ht.queueSeq]
      simp [Nat.add_assoc]
    · rw [List.map_append, ht.seqs, List.length_append, ht.queueSeq]
      simp [List.range'_concat]
    · have hqueue : p'.expectations = p.expectations ++ [statement.kind.expectation] := by
        rw [(h.ledger hg').queue, (h.ledger hg).queue]
        simp
      have hq := ht.queued
      rw [opCount] at hq
      rw [hqueue, opCount, List.countP_append, List.length_append, hq]
      cases statement <;> rfl
  · exact ⟨past, items, kinds, t, hg', .inl hm⟩

/-- Sending changes neither the tickets nor the operations in the queue. -/
theorem posted_tracked (hpost : Posted Good past p p')
    (ht : Malformed p.buffers.writeBuffer ∨ Tickets held n past p) :
    Closed p' ∨ Tracked Good held n p' ∧ p'.queueSeq = p.queueSeq := by
  refine hpost.imp_right ?_
  rintro ⟨hm, hqueueSeq, hclaimSeq, hcount, items, t, hg⟩
  have ht := ht.resolve_left hm
  exact ⟨⟨past, items, [], t, hg, .inr ⟨hclaimSeq.trans ht.claimSeq, ht.claimed,
    hqueueSeq.trans ht.queueSeq, ht.seqs, hcount.trans ht.queued⟩⟩, hqueueSeq⟩

/-- What a claim that consumed its operation leaves of the tickets, and what it gave back. -/
theorem consumed_tracked (h : Accounts run start Good) {ticket : Ticket}
    {outcome : Option (Except Error CallResult)}
    (hc : Consumed Good past ticket p p' outcome) (ht : Tickets held n past p)
    (hhead : held.head? = some ticket) (htold : Foretold Good served p') :
    Tracked Good held.tail (n + 1) p' ∧ p'.queueSeq = p.queueSeq ∧
      ∃ o result, (operations false served)[n]? = some o ∧ o.result ticket = some result ∧
        outcome = some (result.map .calls) := by
  obtain ⟨kind, fate, m, items, t, result, hg, hqueueSeq, hclaimSeq, hcount, hres, hout⟩ := hc
  cases held with
  | nil => cases hhead
  | cons a held =>
    have hserved := htold _ _ _ _ p' hg (.of_eq rfl rfl)
    rw [List.append_assoc, List.cons_append] at hserved
    refine ⟨⟨_, items, [], t, hg, .inr ⟨?_, ?_, ?_, ?_, ?_⟩⟩, hqueueSeq, _, result,
      operation_at hserved ht.claimed, ?_, hout⟩
    · rw [hclaimSeq, ht.claimSeq]
    · rw [operations_append, List.length_append, ht.claimed]
      simp [operations, operations_syncs]
    · rw [hqueueSeq, ht.queueSeq]
      simp only [List.length_cons, List.tail_cons]
      omega
    · have hseqs := ht.seqs
      rw [List.map_cons, List.length_cons, List.range'_succ] at hseqs
      exact (List.cons.inj hseqs).2
    · have hqueued := ht.queued
      rw [← hcount, List.length_cons] at hqueued
      exact Nat.add_right_cancel hqueued
    · obtain ⟨_, ms, _, _, howes⟩ := (h.ledger hg).history
      have hskip := howes.skipped_iff ⟨kind, fate, behindAfter false past⟩ (by
        rw [List.append_assoc, operations_append]
        simp [operations])
      rw [QueuedOp.result_eq hskip]
      exact hres

/-- A claim in order keeps the tickets in order, and gives back what became of its operation unless
half a message is in the write buffer. -/
theorem claim_tracked (h : Accounts run start Good) {ticket : Ticket} {handler : Handler}
    (hp : Tracked Good held n p) (hhead : held.head? = some ticket)
    (hsync : ¬ MeetsSync p (.claim none ticket handler))
    (htold : Foretold Good served (run (.claim none ticket handler) p).2)
    (hsyncs : SyncsSucceed served)
    (hdeliver : ∀ o, (operations false served)[n]? = some o →
      Delivers o.kind ticket handler o.fate) :
    Closed (run (.claim none ticket handler) p).2 ∨
      Tracked Good held.tail (n + 1) (run (.claim none ticket handler) p).2 ∧
      (run (.claim none ticket handler) p).2.queueSeq = p.queueSeq ∧
      (¬ Malformed p.buffers.writeBuffer → ∃ o result, (operations false served)[n]? = some o ∧
        o.result ticket = some result ∧
        (run (.claim none ticket handler) p).1 = some (result.map .calls)) := by
  obtain ⟨past, items, kinds, t, hg, ht⟩ := hp
  by_cases hm : Malformed p.buffers.writeBuffer
  · refine (h.malformed ticket handler hg hm).imp_right fun hsame => ?_
    rw [hsame]
    exact ⟨⟨past, items, kinds, t, hg, .inl hm⟩, rfl, fun hn => absurd hm hn⟩
  · have ht := ht.resolve_left hm
    have hseq := ht.next hhead
    have hfront : p.expectations.head? ≠ some .sync := fun hq => hsync ⟨hseq, hq⟩
    rcases h.claim handler hg hseq (ht.ne_nil hhead) hfront hm with hclosed | hd | hc
    · exact .inl hclosed
    · obtain ⟨kind, fate, rest, t₁, p₁, hg₁, hfollows, ⟨error, herror⟩ | hd⟩ := hd
      · have hserved := htold _ _ _ _ p₁ hg₁ hfollows
        refine absurd (hserved.subset ?_) (hsyncs.not_mem error)
        exact List.mem_append_right _ (List.mem_cons_of_mem _ herror)
      · have hserved := htold _ _ _ _ p₁ hg₁ hfollows
        exact absurd (hdeliver _ (operation_at hserved ht.claimed)) hd
    · obtain ⟨htracked, hqueue, hout⟩ := h.consumed_tracked hc ht hhead htold
      exact .inr ⟨htracked, hqueue, fun _ => hout⟩

/-! ### Whole programs -/

/-- The run lemma: a program that claims in order keeps its tickets in order, and each claim
gives back what became of its operation. The induction is on the calls. -/
theorem after_tracked (h : Accounts run start Good) (hsyncs : SyncsSucceed served)
    (calls : List PipelineCall) (hp : Tracked Good held n p)
    (horder : ClaimsInOrder held p.queueSeq calls) (hcuts : ∀ c ∈ calls, c.cut = none)
    (hsync : Always run.step (fun p c => ¬ MeetsSync p c) p calls)
    (hopen : ¬ Closed (run.after calls p)) (htold : Foretold Good served (run.after calls p))
    (hdeliver : DeliversAll (claimsOf calls) ((operations false served).drop n)) :
    (∃ held n, Tracked Good held n (run.after calls p)) ∧
    (Always run.step (fun p c => ¬ MeetsHalf p c) p calls →
      run.Attributed ((operations false served).drop n) calls p) := by
  induction calls generalizing held n p with
  | nil => exact ⟨⟨held, n, hp⟩, fun _ k ticket outcome hk => by cases hk⟩
  | cons c cs ih =>
    have hcut : c.cut = none := hcuts c List.mem_cons_self
    have hcuts' : ∀ c ∈ cs, c.cut = none := fun c hc => hcuts c (List.mem_cons_of_mem _ hc)
    have hsync' := hsync.2 _ rfl
    have hfollows : Follows (run c p).2 (run.after cs (run c p).2) := h.after_follows cs _
    have hopen' : ¬ Closed (run c p).2 := fun hc => hopen (hfollows.closed hc)
    -- the calls behind one that claims nothing
    have rest {held : List Ticket} (ht : Tracked Good held n (run c p).2)
        (horder : ClaimsInOrder held (run c p).2.queueSeq cs)
        (hclaims : claimsOf (c :: cs) = claimsOf cs)
        (hout : run.outcomes (c :: cs) p = run.outcomes cs (run c p).2) :
        (∃ held n, Tracked Good held n (run.after cs (run c p).2)) ∧
        (Always run.step (fun p c => ¬ MeetsHalf p c) p (c :: cs) →
          run.Attributed ((operations false served).drop n) (c :: cs) p) := by
      rw [hclaims] at hdeliver
      rw [Runner.Attributed, hout]
      exact (ih ht horder hcuts' hsync' hopen htold hdeliver).imp_right
        fun hout hhalf => hout (hhalf.2 _ rfl)
    cases c with
    | exec statement params =>
      obtain ⟨ht, hq⟩ := h.exec_tracked hp statement params
      exact rest ht (by rw [hq]; exact horder) rfl rfl
    | flush cut =>
      cases hcut
      obtain ⟨past, items, kinds, t, hg, ht⟩ := hp
      obtain ⟨ht, hq⟩ := (posted_tracked (h.flush hg) ht).resolve_left hopen'
      exact rest ht (by rw [hq]; exact horder) rfl rfl
    | sync cut =>
      cases hcut
      obtain ⟨past, items, kinds, t, hg, ht⟩ := hp
      obtain ⟨ht, hq⟩ := (posted_tracked (h.sync hg) ht).resolve_left hopen'
      exact rest ht (by rw [hq]; exact horder) rfl rfl
    | claim cut ticket handler =>
      cases hcut
      have htold' : Foretold Good served (run (.claim none ticket handler) p).2 :=
        fun past items kinds t p₁ hg hf => htold past items kinds t p₁ hg
          (IsTrans.trans (r := Conn.Follows) _ _ _ hf hfollows)
      have hfirst (o : QueuedOp) (ho : (operations false served)[n]? = some o) :
          Delivers o.kind ticket handler o.fate :=
        hdeliver 0 (ticket, handler) o rfl (by simpa using ho)
      obtain ⟨ht, hq, hout⟩ :=
        (h.claim_tracked hp horder.1 hsync.1 htold' hsyncs hfirst).resolve_left hopen'
      have hbehind : DeliversAll (claimsOf cs) ((operations false served).drop (n + 1)) := by
        intro k claim o hk ho
        refine hdeliver (k + 1) claim o hk ?_
        rw [List.getElem?_drop] at ho ⊢
        rw [← ho, Nat.add_right_comm, Nat.add_assoc]
      have htail := ih ht (by rw [hq]; exact horder.2) hcuts' hsync' hopen htold hbehind
      refine ⟨htail.1, fun hhalf k ticket' outcome hk => ?_⟩
      cases k with
      | zero =>
        cases hk
        obtain ⟨o, result, ho, hres⟩ := hout hhalf.1
        exact ⟨o, result, by simpa using ho, hres⟩
      | succ k =>
        obtain ⟨o, result, ho, hres⟩ := htail.2 (hhalf.2 _ rfl) k ticket' outcome hk
        refine ⟨o, result, ?_, hres⟩
        rw [List.getElem?_drop] at ho ⊢
        rw [← ho, Nat.add_right_comm, Nat.add_assoc]

end Accounts

end ZeroPostgres.Pipeline
