import ZeroPostgres.Server.Replies

/-!
# Where a reply ends

ReadyForQuery ends the reply to a Query or a Sync, and nothing else holds one. In the extended
protocol the message that completes a request ends the reply to it. So a client that reads to the
first message of such a type has read the whole reply, and the server waits for the next message
(`Peer.Finishes`).
-/

namespace ZeroPostgres

/-- The type of ReadyForQuery. -/
def MsgType.isReady (t : MsgType) : Bool := t = .readyForQuery

/-- The types of the messages that complete a Bind, an Execute or a Close. -/
def MsgType.completes : MsgType → Bool
  | .bindComplete | .commandComplete | .portalSuspended | .closeComplete => true
  | _ => false

/-- No message of the given types. -/
def Lacks (ends : MsgType → Bool) (ms : List RawMessage) : Prop := ∀ m ∈ ms, ends m.type = false

namespace Lacks

variable {ends : MsgType → Bool} {ms ms' : List RawMessage} {m : RawMessage}

@[simp] theorem nil : Lacks ends [] := by simp [Lacks]

@[simp] theorem append_iff : Lacks ends (ms ++ ms') ↔ Lacks ends ms ∧ Lacks ends ms' := by
  simp only [Lacks, List.mem_append, or_imp, forall_and]

@[simp] theorem cons_iff : Lacks ends (m :: ms) ↔ ends m.type = false ∧ Lacks ends ms := by
  simp [Lacks]

theorem of_is {t : MsgType} (h : ∀ m ∈ ms, Is t m) (ht : ends t = false) : Lacks ends ms :=
  fun m hm => by rw [(h m hm).1]; exact ht

/-- Before the last message there is none of the types that the last one may be of. -/
theorem last_eq {body tail : List RawMessage} {z : RawMessage}
    (h : Lacks ends ms) (hsplit : ms ++ [m] = body ++ z :: tail) (hz : ends z.type = true) :
    tail = [] := by
  rcases List.eq_nil_or_concat tail with rfl | ⟨tail', last, rfl⟩
  · rfl
  · rw [List.concat_eq_append, ← List.cons_append, ← List.append_assoc] at hsplit
    have hpre := (List.append_inj' hsplit rfl).1
    rw [hpre] at h
    have hno := h z (by simp)
    rw [hz] at hno
    cases hno

end Lacks

/-! ### ReadyForQuery -/

theorem Results.lacks_ready {ms : List RawMessage} (h : Results ms) :
    Lacks MsgType.isReady ms := by
  induction h with
  | nil => exact .nil
  | command hm _ ih => exact Lacks.cons_iff.mpr ⟨by rw [hm.1]; rfl, ih⟩
  | rows hc hr hm _ ih =>
    rw [Lacks.cons_iff, Lacks.append_iff, Lacks.cons_iff]
    exact ⟨by rw [hc.1]; rfl, .of_is hr.1 rfl, by rw [hm.1]; rfl, ih⟩

theorem QuerySuccess.lacks_ready {effect : TxEffect} {status status' : TransactionStatus}
    {ms : List RawMessage} (h : QuerySuccess effect status ms status') :
    Lacks MsgType.isReady ms := by
  cases h with
  | empty hm => simp [hm.1, MsgType.isReady]
  | results _ h => exact h.lacks_ready
  | control _ _ _ hm => simp [hm.1, MsgType.isReady]
  | other h => exact h.lacks_ready

theorem QueryPartial.lacks_ready {effect : TxEffect} {ms : List RawMessage}
    (h : QueryPartial effect ms) : Lacks MsgType.isReady ms := by
  rcases h with rfl | ⟨-, rest, h⟩
  · exact .nil
  · exact (Lacks.append_iff.mp h.lacks_ready).1

theorem IsColumns.lacks {ends : MsgType → Bool} {returnsRows : Bool} {m : RawMessage}
    (h : IsColumns returnsRows m) (hr : ends .rowDescription = false)
    (hn : ends .noData = false) : ends m.type = false := by
  unfold IsColumns at h
  rw [h.1]
  split
  · exact hr
  · exact hn

theorem Success.lacks_ready {effect : String → TxEffect} {s s' : Session} {f : Frontend}
    {ms : List RawMessage} (h : Success effect s f ms s') : Lacks MsgType.isReady ms := by
  cases h with
  | parse _ hm => simp [hm.1, MsgType.isReady]
  | bind _ hm => simp [hm.1, MsgType.isReady]
  | describeStatement _ hp hc =>
    exact Lacks.cons_iff.mpr ⟨by rw [hp.1]; rfl, Lacks.cons_iff.mpr ⟨hc.lacks rfl rfl, .nil⟩⟩
  | describePortal _ hc => exact Lacks.cons_iff.mpr ⟨hc.lacks rfl rfl, .nil⟩
  | complete _ hr _ hm => simp [Lacks.of_is hr.1, hm.1, MsgType.isReady]
  | suspend _ hr _ _ hm => simp [Lacks.of_is hr.1, hm.1, MsgType.isReady]
  | emptyQuery _ _ hm => simp [hm.1, MsgType.isReady]
  | closeStatement hm => simp [hm.1, MsgType.isReady]
  | closePortal hm => simp [hm.1, MsgType.isReady]

/-- A reply to an extended-protocol message is completed by its last message, if at all. -/
theorem Success.completes {effect : String → TxEffect} {s s' : Session} {f : Frontend}
    {ms : List RawMessage} (h : Success effect s f ms s') :
    s'.mode = s.mode ∧ ∃ body z, ms = body ++ [z] ∧ Lacks MsgType.completes body := by
  cases h with
  | parse => exact ⟨rfl, [], _, rfl, .nil⟩
  | bind => exact ⟨rfl, [], _, rfl, .nil⟩
  | describeStatement _ hp => exact ⟨rfl, [_], _, rfl, by simp [hp.1, MsgType.completes]⟩
  | describePortal => exact ⟨rfl, [], _, rfl, .nil⟩
  | complete _ hr => exact ⟨by simp, _, _, rfl, .of_is hr.1 rfl⟩
  | suspend _ hr => exact ⟨rfl, _, _, rfl, .of_is hr.1 rfl⟩
  | emptyQuery => exact ⟨rfl, [], _, rfl, .nil⟩
  | closeStatement => exact ⟨rfl, [], _, rfl, .nil⟩
  | closePortal => exact ⟨rfl, [], _, rfl, .nil⟩

/-- The beginning of a reply neither ends it nor is followed by ReadyForQuery. -/
theorem Partial.lacks {ends : MsgType → Bool} {s : Session} {f : Frontend} {ms : List RawMessage}
    (h : Partial s f ms) (hp : ends .parameterDescription = false) (hd : ends .dataRow = false) :
    Lacks ends ms := by
  cases h with
  | nil => exact .nil
  | describeStatement hm => simp [hm.1, hp]
  | execute _ hr => exact .of_is hr.1 hd

/-- The messages that a server answers with a ReadyForQuery. -/
def Frontend.asksReady : Frontend → Bool
  | .query _ | .sync => true
  | _ => false

/-! ### COPY -/

/-- A COPY starts, and before it there is none of the given types. -/
def CopiesFirst (ends : MsgType → Bool) (ms : List RawMessage) : Prop :=
  ∃ before m behind, ms = before ++ m :: behind ∧ m.type.isCopy = true ∧ Lacks ends before

namespace CopiesFirst

variable {ends : MsgType → Bool} {ms ms' : List RawMessage}

theorem append (h : CopiesFirst ends ms) (ms' : List RawMessage) :
    CopiesFirst ends (ms ++ ms') := by
  obtain ⟨before, m, behind, rfl, hm, hno⟩ := h
  exact ⟨before, m, behind ++ ms', by simp, hm, hno⟩

theorem prepend (h : CopiesFirst ends ms) (hno : Lacks ends ms') :
    CopiesFirst ends (ms' ++ ms) := by
  obtain ⟨before, m, behind, rfl, hm, hbefore⟩ := h
  exact ⟨ms' ++ before, m, behind, by simp, hm, Lacks.append_iff.mpr ⟨hno, hbefore⟩⟩

/-- So a message of these types has the start of the COPY before it. -/
theorem copy_before (h : CopiesFirst ends ms) (hends : ∀ t, ends t = true → t.isCopy = false)
    {body tail : List RawMessage} {z : RawMessage} (hsplit : ms = body ++ z :: tail)
    (hz : ends z.type = true) : ∃ m ∈ body, m.type.isCopy = true := by
  obtain ⟨before, m, behind, hms, hm, hno⟩ := h
  rw [hms] at hsplit
  rcases List.append_eq_append_iff.mp hsplit with ⟨between, rfl, hrest⟩ | ⟨between, rfl, hrest⟩
  · cases between with
    | nil =>
      cases hrest
      have hcopy := hends _ hz
      rw [hm] at hcopy
      cases hcopy
    | cons x between =>
      cases hrest
      exact ⟨m, by simp, hm⟩
  · have hmem : z ∈ body ++ between := by
      cases between with
      | nil =>
        cases hrest
        have hcopy := hends _ hz
        rw [hm] at hcopy
        cases hcopy
      | cons x between =>
        cases hrest
        simp
    have hlacks := hno z hmem
    rw [hz] at hlacks
    cases hlacks

end CopiesFirst

section

variable {P : Peer}

/-- A COPY exchange goes on. -/
theorem feed_copying {st : P.State} (fs : List Frontend) (hm : (P.session st).mode = .copying) :
    (P.session (P.feed st fs).2).mode = .copying := by
  induction fs generalizing st with
  | nil => exact hm
  | cons f fs ih => exact ih ((P.conforms st f).of_copying hm)

/-- The message that starts a COPY in a reply stands before any that could end the reply. -/
theorem respond_copying {st : P.State} {f : Frontend} (hc : (P.session st).mode ≠ .copying)
    (hcopy : (P.session (P.respond st f).2).mode = .copying) :
    ((∃ sql, f = .query sql) ∨ ∃ portal maxRows, f = .execute portal maxRows) ∧
      CopiesFirst MsgType.isReady (core (P.respond st f).1) ∧
      (f.isExtended = true → CopiesFirst MsgType.completes (core (P.respond st f).1)) := by
  have h := P.conforms st f
  generalize core (P.respond st f).1 = r at h ⊢
  generalize P.session (P.respond st f).2 = s' at h hcopy
  cases h with
  | queryCopy _ hp hm =>
    exact ⟨.inl ⟨_, rfl⟩, ⟨_, _, _, rfl, hm, hp.lacks_ready⟩, fun hf => by cases hf⟩
  | executeCopy _ hm =>
    exact ⟨.inr ⟨_, _, rfl⟩, ⟨[], _, _, rfl, hm, .nil⟩, fun _ => ⟨[], _, _, rfl, hm, .nil⟩⟩
  | query => exact absurd ((Session.completed_mode ..).symm.trans hcopy) hc
  | queryError | sync | syncError | discard | flush => exact absurd hcopy hc
  | success _ h => exact absurd (h.completes.1.symm.trans hcopy) hc
  | copying h => exact absurd h hc
  | closed h => exact absurd hcopy hc
  | _ => cases hcopy

/-- The messages that execute a statement. -/
def Frontend.executes : Frontend → Bool
  | .query _ | .execute .. => true
  | _ => false

/-- Where nothing is executed no COPY starts. -/
theorem feed_executes_nothing {st : P.State} {fs : List Frontend}
    (hc : (P.session st).mode ≠ .copying) (hfs : ∀ f ∈ fs, f.executes = false) :
    (P.session (P.feed st fs).2).mode ≠ .copying := by
  induction fs generalizing st with
  | nil => exact hc
  | cons f fs ih =>
    refine ih (fun hcopy => ?_) fun g hg => hfs g (List.mem_cons_of_mem _ hg)
    have hf := hfs f List.mem_cons_self
    rcases (respond_copying hc hcopy).1 with ⟨sql, rfl⟩ | ⟨portal, maxRows, rfl⟩ <;> cases hf

/-- The reply to one message holds no ReadyForQuery, or it ends with the only one in it. -/
theorem respond_boundary {st : P.State} (f : Frontend) (hc : (P.session st).mode ≠ .copying)
    (hcopy : (P.session (P.respond st f).2).mode ≠ .copying) :
    Lacks MsgType.isReady (core (P.respond st f).1) ∨
      f.asksReady = true ∧ (f = .sync ∨ (P.session st).mode = .ready) ∧
        (P.session (P.respond st f).2).mode = .ready ∧
        ∃ body z, core (P.respond st f).1 = body ++ [z] ∧ Lacks MsgType.isReady body := by
  have h := P.conforms st f
  generalize core (P.respond st f).1 = r at h ⊢
  generalize P.session (P.respond st f).2 = s' at h hcopy ⊢
  have herr {e : ServerError} {m : RawMessage} (h : IsError e m) : m.type.isReady = false := by
    rw [h.1]
    rfl
  cases h with
  | query hm hs hz => exact .inr ⟨rfl, .inr hm, by simpa using hm, _, _, rfl, hs.lacks_ready⟩
  | @queryError _ ms _ m _ z hm hp he _ _ hz =>
    exact .inr ⟨rfl, .inr hm, hm, ms ++ [m], z, by simp, by simp [hp.lacks_ready, herr he]⟩
  | queryFatal _ hp he => exact .inl (by simp [hp.lacks_ready, herr he])
  | queryCopy _ _ _ hmode => exact absurd hmode hcopy
  | success _ hs => exact .inl hs.lacks_ready
  | error _ _ hp he => exact .inl (by simp [hp.lacks, MsgType.isReady, he.1])
  | fatal _ _ hp he => exact .inl (by simp [hp.lacks, MsgType.isReady, he.1])
  | executeCopy _ _ hmode => exact absurd hmode hcopy
  | sync hm hz => exact .inr ⟨rfl, .inl rfl, hm, [], _, rfl, .nil⟩
  | @syncError _ m z hm he _ hz =>
    exact .inr ⟨rfl, .inl rfl, hm, [m], z, rfl, by simp [herr he]⟩
  | syncFatal _ he => exact .inl (by simp [herr he])
  | resync _ hz => exact .inr ⟨rfl, .inl rfl, rfl, [], _, rfl, .nil⟩
  | discard => exact .inl .nil
  | discardFatal _ he => exact .inl (by simp [herr he])
  | flush => exact .inl .nil
  | terminate => exact .inl .nil
  | malformed _ he => exact .inl (by simp [herr he])
  | copying hcopying => exact absurd hcopying hc
  | closed => exact .inl .nil

/-- Messages that are neither a Query nor a Sync are answered without a ReadyForQuery, unless a
COPY starts. -/
theorem feed_boundary {st : P.State} {fs : List Frontend} (hc : (P.session st).mode ≠ .copying)
    (hfs : ∀ f ∈ fs, f.asksReady = false) :
    (P.session (P.feed st fs).2).mode ≠ .copying ∧ Lacks MsgType.isReady (core (P.feed st fs).1) ∨
      (P.session (P.feed st fs).2).mode = .copying ∧
        CopiesFirst MsgType.isReady (core (P.feed st fs).1) := by
  induction fs generalizing st with
  | nil => exact .inl ⟨hc, .nil⟩
  | cons f fs ih =>
    rw [P.feed_cons, core_append]
    dsimp only
    by_cases hcopy : (P.session (P.respond st f).2).mode = .copying
    · exact .inr ⟨feed_copying fs hcopy, (respond_copying hc hcopy).2.1.append _⟩
    · have hfirst : Lacks MsgType.isReady (core (P.respond st f).1) := by
        rcases respond_boundary f hc hcopy with h | ⟨hask, -⟩
        · exact h
        · rw [hfs f List.mem_cons_self] at hask
          cases hask
      rcases ih hcopy fun g hg => hfs g (List.mem_cons_of_mem _ hg) with ⟨hmode, hno⟩ | ⟨hmode, hno⟩
      · exact .inl ⟨hmode, Lacks.append_iff.mpr ⟨hfirst, hno⟩⟩
      · exact .inr ⟨hmode, hno.prepend hfirst⟩

/-- A server that starts no COPY answers them without a ReadyForQuery. -/
theorem feed_lacks_ready (hP : P.NoCopy) {st : P.State} {fs : List Frontend}
    (hc : (P.session st).mode ≠ .copying) (hfs : ∀ f ∈ fs, f.asksReady = false) :
    Lacks MsgType.isReady (core (P.feed st fs).1) := by
  rcases feed_boundary hc hfs with h | h
  · exact h.2
  · exact absurd h.1 (feed_not_copying hP fs hc)

end

/-! ### Completion in the extended protocol -/

/-- The messages that nothing completes. -/
def Frontend.describes : Frontend → Bool
  | .parse .. | .describeStatement _ | .describePortal _ => true
  | _ => false

theorem Frontend.executes_of_describes {f : Frontend} (h : f.describes = true) :
    f.executes = false := by
  cases f <;> first | rfl | cases h

theorem Success.lacks_completes {effect : String → TxEffect} {s s' : Session} {f : Frontend}
    {ms : List RawMessage} (h : Success effect s f ms s') (hf : f.describes = true) :
    Lacks MsgType.completes ms := by
  cases h with
  | parse _ hm => simp [hm.1, MsgType.completes]
  | describeStatement _ hp hc =>
    exact Lacks.cons_iff.mpr ⟨by rw [hp.1]; rfl, Lacks.cons_iff.mpr ⟨hc.lacks rfl rfl, .nil⟩⟩
  | describePortal _ hc => exact Lacks.cons_iff.mpr ⟨hc.lacks rfl rfl, .nil⟩
  | _ => cases hf

/-! ### Whole replies -/

/-- Where a message of the given types stands in the reply to some messages it ends the reply, and
then the server waits for the next message. -/
def Peer.Finishes (P : Peer) (ends : MsgType → Bool) (st : P.State) (fs : List Frontend) : Prop :=
  ∀ body z tail, core (P.feed st fs).1 = body ++ z :: tail → ends z.type = true →
    tail = [] ∧ (P.session (P.feed st fs).2).mode = .ready

section

variable {P : Peer}

/-- A request ends with its only Query or Sync, unless a COPY starts before. -/
theorem feed_ends {st : P.State} {fs : List Frontend} (f : Frontend)
    (hc : (P.session st).mode ≠ .copying) (hfs : ∀ f ∈ fs, f.asksReady = false) :
    P.Finishes MsgType.isReady st (fs ++ [f]) ∨
      (P.session (P.feed st (fs ++ [f])).2).mode = .copying ∧
        CopiesFirst MsgType.isReady (core (P.feed st (fs ++ [f])).1) := by
  unfold Peer.Finishes
  simp only [P.feed_append, core_append, P.feed_cons, P.feed_nil, List.append_nil]
  rcases feed_boundary hc hfs with ⟨hc', hfirst⟩ | ⟨hmode, hcopies⟩
  · by_cases hcopy : (P.session (P.respond (P.feed st fs).2 f).2).mode = .copying
    · exact .inr ⟨hcopy, (respond_copying hc' hcopy).2.1.prepend hfirst⟩
    · refine .inl fun body z tail hcore hz => ?_
      have hmem : z ∈ core (P.feed st fs).1 ++ core (P.respond (P.feed st fs).2 f).1 := by
        rw [hcore]
        simp
      rcases respond_boundary f hc' hcopy with hno | ⟨-, -, hmode, body', z', hlast, hno⟩
      · have h := Lacks.append_iff.mpr ⟨hfirst, hno⟩ z hmem
        rw [hz] at h
        cases h
      · rw [hlast, ← List.append_assoc] at hcore
        exact ⟨(Lacks.append_iff.mpr ⟨hfirst, hno⟩).last_eq hcore hz, hmode⟩
  · refine .inr ⟨?_, hcopies.append _⟩
    have h := feed_copying [f] hmode
    rwa [P.feed_cons, P.feed_nil] at h

/-- Of a server that starts no COPY a request ends with its only Query or Sync. -/
theorem feed_finishes (hP : P.NoCopy) {st : P.State} {fs : List Frontend} (f : Frontend)
    (hc : (P.session st).mode ≠ .copying) (hfs : ∀ f ∈ fs, f.asksReady = false) :
    P.Finishes MsgType.isReady st (fs ++ [f]) := by
  rcases feed_ends f hc hfs with h | h
  · exact h
  · exact absurd h.1 (feed_not_copying hP _ hc)

/-- The reply to an extended-protocol message is not completed, or by its last message. -/
theorem respond_completes {st : P.State} {f : Frontend} (hc : (P.session st).mode ≠ .copying)
    (hcopy : (P.session (P.respond st f).2).mode ≠ .copying) (hf : f.isExtended = true) :
    (Lacks MsgType.completes (core (P.respond st f).1) ∨
      (P.session (P.respond st f).2).mode = .ready ∧
        ∃ body z, core (P.respond st f).1 = body ++ [z] ∧ Lacks MsgType.completes body) ∧
    (f.describes = true → Lacks MsgType.completes (core (P.respond st f).1)) := by
  have h := P.conforms st f
  generalize core (P.respond st f).1 = r at h ⊢
  generalize P.session (P.respond st f).2 = s' at h hcopy ⊢
  have lacks {r : List RawMessage} {Q : Prop} (h : Lacks MsgType.completes r) :
      (Lacks MsgType.completes r ∨ Q) ∧ (f.describes = true → Lacks MsgType.completes r) :=
    ⟨.inl h, fun _ => h⟩
  cases h with
  | success hm hs =>
    obtain ⟨hmode, hlast⟩ := hs.completes
    exact ⟨.inr ⟨hmode.trans hm, hlast⟩, hs.lacks_completes⟩
  | error _ _ hp he =>
    exact lacks (Lacks.append_iff.mpr ⟨hp.lacks rfl rfl, by simp [MsgType.completes, he.1]⟩)
  | fatal _ _ hp he =>
    exact lacks (Lacks.append_iff.mpr ⟨hp.lacks rfl rfl, by simp [MsgType.completes, he.1]⟩)
  | executeCopy _ _ hmode => exact absurd hmode hcopy
  | discard => exact lacks .nil
  | discardFatal _ he => exact lacks (by simp [MsgType.completes, he.1])
  | copying hcopying => exact absurd hcopying hc
  | closed => exact lacks .nil
  | _ => cases hf

/-- Nothing completes a Flush, and a server that waits for messages does not answer it. -/
theorem respond_flush_completes {st : P.State} (hc : (P.session st).mode ≠ .copying) :
    Lacks MsgType.completes (core (P.respond st .flush).1) ∧
      ((P.session st).mode = .ready → core (P.respond st .flush).1 = [] ∧
        (P.session (P.respond st .flush).2).mode = .ready) := by
  have h := P.conforms st .flush
  generalize core (P.respond st .flush).1 = r at h ⊢
  generalize P.session (P.respond st .flush).2 = s' at h ⊢
  cases h with
  | flush => exact ⟨.nil, fun hm => ⟨rfl, hm⟩⟩
  | success _ h => cases h
  | error _ h => cases h
  | fatal _ h => cases h
  | discard _ h => rcases h with h | ⟨_, h⟩ <;> cases h
  | discardFatal hskip he =>
    exact ⟨by simp [MsgType.completes, he.1], fun hm => by rw [hm] at hskip; cases hskip⟩
  | copying hcopying => exact absurd hcopying hc
  | closed hclosed => exact ⟨.nil, fun hm => by rw [hm] at hclosed; cases hclosed⟩

/-- Messages that nothing completes start no COPY. -/
theorem feed_describing {st : P.State} {fs : List Frontend} (hc : (P.session st).mode ≠ .copying)
    (hfs : ∀ g ∈ fs, g.isExtended = true ∧ g.describes = true) :
    (P.session (P.feed st fs).2).mode ≠ .copying ∧
      Lacks MsgType.completes (core (P.feed st fs).1) := by
  induction fs generalizing st with
  | nil => exact ⟨hc, .nil⟩
  | cons g fs ih =>
    obtain ⟨hext, hdesc⟩ := hfs g List.mem_cons_self
    have hc' : (P.session (P.respond st g).2).mode ≠ .copying := by
      have h : (P.session (P.feed st [g]).2).mode ≠ .copying :=
        feed_executes_nothing hc (by simpa using Frontend.executes_of_describes hdesc)
      rwa [P.feed_cons, P.feed_nil] at h
    obtain ⟨hmode, hrest⟩ := ih hc' fun g hg => hfs g (List.mem_cons_of_mem _ hg)
    rw [P.feed_cons, core_append, Lacks.append_iff]
    exact ⟨hmode, (respond_completes hc hc' hext).2 hdesc, hrest⟩

/-- A request of the extended protocol with a Flush behind it is completed by the message that
completes its last part, unless a COPY starts before. -/
theorem feed_completes_or {st : P.State} {fs : List Frontend} {f : Frontend}
    (hc : (P.session st).mode ≠ .copying)
    (hfs : ∀ g ∈ fs, g.isExtended = true ∧ g.describes = true) (hf : f.isExtended = true) :
    P.Finishes MsgType.completes st (fs ++ [f, .flush]) ∨
      (P.session (P.feed st (fs ++ [f, .flush])).2).mode = .copying ∧
        CopiesFirst MsgType.completes (core (P.feed st (fs ++ [f, .flush])).1) := by
  obtain ⟨hc', hfirst⟩ := feed_describing hc hfs
  unfold Peer.Finishes
  simp only [P.feed_append, core_append, P.feed_cons, P.feed_nil, List.append_nil]
  by_cases hcopy : (P.session (P.respond (P.feed st fs).2 f).2).mode = .copying
  · refine .inr ⟨?_, (((respond_copying hc' hcopy).2.2 hf).append _).prepend hfirst⟩
    have h := feed_copying [.flush] hcopy
    rwa [P.feed_cons, P.feed_nil] at h
  · refine .inl fun body z tail hcore hz => ?_
    obtain ⟨hflush, hready⟩ := respond_flush_completes hcopy
    rcases (respond_completes hc' hcopy hf).1 with hno | ⟨hmode, body', z', hlast, hno⟩
    · have hmem : z ∈ core (P.feed st fs).1 ++ (core (P.respond (P.feed st fs).2 f).1 ++
          core (P.respond (P.respond (P.feed st fs).2 f).2 .flush).1) := by
        rw [hcore]
        simp
      have h := Lacks.append_iff.mpr ⟨hfirst, Lacks.append_iff.mpr ⟨hno, hflush⟩⟩ z hmem
      rw [hz] at h
      cases h
    · obtain ⟨hnil, hready⟩ := hready hmode
      rw [hnil, List.append_nil, hlast, ← List.append_assoc] at hcore
      exact ⟨(Lacks.append_iff.mpr ⟨hfirst, hno⟩).last_eq hcore hz, hready⟩

/-- Of a server that starts no COPY it is completed by that message. -/
theorem feed_completes (hP : P.NoCopy) {st : P.State} {fs : List Frontend} {f : Frontend}
    (hc : (P.session st).mode ≠ .copying)
    (hfs : ∀ g ∈ fs, g.isExtended = true ∧ g.describes = true) (hf : f.isExtended = true) :
    P.Finishes MsgType.completes st (fs ++ [f, .flush]) := by
  rcases feed_completes_or hc hfs hf with h | h
  · exact h
  · exact absurd h.1 (feed_not_copying hP _ hc)

end

end ZeroPostgres
