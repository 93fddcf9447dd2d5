import ZeroPostgres.Server.Replies

/-!
# Replies to whole requests

The requests of the query machines are groups of extended-protocol messages with a Sync behind
them. `feed_synced` adds the Sync to what the server owes for a group: a group that ended in an
error makes the server discard messages up to the Sync, and one that did not may still be
answered with an error at the Sync.
-/

namespace ZeroPostgres

/-! ### Errors in a reply -/

/-- The errors in a reply. -/
def errorsIn (ms : List RawMessage) : List ServerError := ms.filterMap (·.toError?)

/-- The error an operation ended with. -/
def Fate.error? : Fate → Option ServerError
  | .ran _ _ (.error e) => some e
  | _ => none

theorem toError_of_ne {m : RawMessage} (h : m.type ≠ .errorResponse) : m.toError? = none := by
  unfold RawMessage.toError?
  split
  · next ht => exact absurd ht h
  · rfl

@[simp] theorem errorsIn_nil : errorsIn [] = [] := rfl

theorem errorsIn_append (ms ms' : List RawMessage) :
    errorsIn (ms ++ ms') = errorsIn ms ++ errorsIn ms' := List.filterMap_append

theorem errorsIn_cons_ne {m : RawMessage} (h : m.type ≠ .errorResponse) (ms : List RawMessage) :
    errorsIn (m :: ms) = errorsIn ms := by
  simp [errorsIn, toError_of_ne h]

theorem errorsIn_cons_error {m : RawMessage} {e : ServerError} (h : IsError e m)
    (ms : List RawMessage) : errorsIn (m :: ms) = e :: errorsIn ms := by
  simp [errorsIn, toError_of_isError h]

/-- Asynchronous messages carry no errors. -/
theorem errorsIn_core (ms : List RawMessage) : errorsIn (core ms) = errorsIn ms := by
  induction ms with
  | nil => rfl
  | cons m ms ih =>
    cases hm : m.isAsync with
    | true =>
      have hne : m.type ≠ .errorResponse := by
        intro ht
        simp [RawMessage.isAsync, ht, MsgType.isAsync] at hm
      rw [core_cons_async hm, errorsIn_cons_ne hne, ih]
    | false =>
      rw [core_cons_sync hm]
      simp only [errorsIn, List.filterMap_cons] at ih ⊢
      cases m.toError? <;> simp [ih]

/-- The error in the reply to an operation is the one the operation ended with. -/
theorem Reading.errorsIn_eq {stage : Stage} {fate : Fate} {ms : List RawMessage}
    (h : Reading stage fate ms) : errorsIn ms = fate.error?.toList := by
  induction h with
  | error he _ => rw [errorsIn_cons_error he]; rfl
  | parse hm _ ih => rw [errorsIn_cons_ne (by simp [hm.1]), ih]
  | bindDescribed hm _ ih => rw [errorsIn_cons_ne (by simp [hm.1]), ih]
  | bindCached _ hm _ ih => rw [errorsIn_cons_ne (by simp [hm.1]), ih]
  | columns hm _ ih => rw [errorsIn_cons_ne (by simp [hm.1]), ih]
  | noData hm _ ih => rw [errorsIn_cons_ne (by simp [hm.1]), ih]
  | @row _ _ ending _ _ hm _ ih =>
    rw [errorsIn_cons_ne (by simp [hm.1]), ih]
    cases ending <;> rfl
  | complete hm => rw [errorsIn_cons_ne (by simp [hm.1])]; rfl
  | empty hm => rw [errorsIn_cons_ne (by simp [hm.1])]; rfl

/-- The error of an operation that ran says whether the server discards messages after it. -/
theorem Reading.error_isSome {stage : Stage} {fate : Fate} {ms : List RawMessage}
    (h : Reading stage fate ms) : fate.error?.isSome = fate.skipping := by
  cases fate with
  | ran columns rows ending => cases ending <;> rfl
  | skipped => exact absurd rfl h.ne_skipped

/-! ### Groups of one kind of request -/

/-- A reply of well-formed messages of the given types, and of the error, if there is one. -/
structure Consists (types : List MsgType) (error : Option ServerError) (r : List RawMessage) :
    Prop where
  messages : ∀ x ∈ r, x.type ∈ types ∧ x.wellFormed = true ∨ ∃ e, IsError e x
  errors : errorsIn r = error.toList

/-- The messages of the reply to Binds and Executes. -/
def executionTypes : List MsgType :=
  [.bindComplete, .dataRow, .commandComplete, .emptyQueryResponse]

/-- The messages of the reply to Parses and Describes of statements. -/
def preparationTypes : List MsgType :=
  [.parseComplete, .parameterDescription, .rowDescription, .noData]

namespace Consists

variable {types : List MsgType} {error : Option ServerError} {r : List RawMessage}

theorem nil : Consists types none [] := ⟨by simp, rfl⟩

/-- Messages without an error in front. -/
theorem append {r' : List RawMessage} (h : Consists types none r) (h' : Consists types error r') :
    Consists types error (r ++ r') :=
  ⟨fun x hx => (List.mem_append.mp hx).elim (h.messages x) (h'.messages x), by
    rw [errorsIn_append, h.errors, h'.errors]
    rfl⟩

theorem single {x : RawMessage} (hx : x.type ∈ types) (hw : x.wellFormed = true)
    (hne : x.type ≠ .errorResponse) : Consists types none [x] :=
  ⟨fun y hy => by rw [List.mem_singleton.mp hy]; exact .inl ⟨hx, hw⟩, errorsIn_cons_ne hne []⟩

theorem failed {e : ServerError} {x : RawMessage} (hx : IsError e x) :
    Consists types (some e) [x] :=
  ⟨fun y hy => by rw [List.mem_singleton.mp hy]; exact .inr ⟨e, hx⟩, errorsIn_cons_error hx []⟩

/-- A reply without an error holds messages of its types. -/
theorem plain (h : Consists types none r) :
    ∀ x ∈ r, x.type ∈ types ∧ x.wellFormed = true := by
  intro x hx
  rcases h.messages x hx with h' | ⟨e, he⟩
  · exact h'
  · have hmem : e ∈ errorsIn r := List.mem_filterMap.mpr ⟨x, hx, toError_of_isError he⟩
    rw [h.errors] at hmem
    cases hmem

end Consists

/-- The reply to a Bind and an Execute. -/
theorem Reading.consists {stage : Stage} {fate : Fate} {r : List RawMessage}
    (h : Reading stage fate r)
    (hs : stage = .bind false ∨ ∃ returnsRows, stage = .rows none returnsRows) :
    Consists executionTypes fate.error? r := by
  induction h with
  | error he _ => exact .failed he
  | bindCached _ hm _ ih =>
    exact .append (.single (by simp [executionTypes, hm.1]) hm.2 (by simp [hm.1]))
      (ih (.inr ⟨_, rfl⟩))
  | @row _ _ ending _ _ hm _ ih =>
    have hc := ih hs
    cases ending <;>
      exact .append (.single (by simp [executionTypes, hm.1]) hm.2 (by simp [hm.1])) hc
  | complete hm => exact .single (by simp [executionTypes, hm.1]) hm.wellFormed (by simp [hm.1])
  | empty hm => exact .single (by simp [executionTypes, hm.1]) hm.2 (by simp [hm.1])
  | _ => rcases hs with hs | ⟨_, hs⟩ <;> cases hs

/-- What a server owes for Binds and Executes, and whether it discards messages after them. -/
theorem Owes.consists {s t : Bool} {items : List Item} {r : List RawMessage} (h : Owes s items r t)
    (hi : ∀ item ∈ items, item.kind? = some .prepared) :
    ∃ error, Consists executionTypes error r ∧ t = (s || error.isSome) ∧ (s = true → r = []) := by
  induction h with
  | @nil s => exact ⟨none, .nil, by simp, fun _ => rfl⟩
  | skipped _ ih =>
    obtain ⟨error, hc, ht, hnil⟩ := ih fun x hx => hi x (List.mem_cons_of_mem _ hx)
    exact ⟨error, hc, ht, hnil⟩
  | @op kind fate r items ms t hread _ ih =>
    obtain ⟨error, hc, ht, hnil⟩ := ih fun x hx => hi x (List.mem_cons_of_mem _ hx)
    obtain rfl : kind = .prepared := by simpa [Item.kind?] using hi (.op kind fate) (by simp)
    have hr := hread.consists (.inl rfl)
    rw [← hread.error_isSome] at ht hnil
    cases hf : fate.error? with
    | none =>
      rw [hf] at hr ht
      exact ⟨error, hr.append hc, by simpa using ht, by simp⟩
    | some e =>
      rw [hf] at hr ht hnil
      rw [hnil rfl, List.append_nil]
      exact ⟨some e, hr, by simpa using ht, by simp⟩
  | sync => simpa [Item.kind?] using hi (.sync none) (by simp)
  | @syncError _ e => simpa [Item.kind?] using hi (.sync (some e)) (by simp)

/-! ### Preparing and closing a statement -/

/-- The reply to the Parse and the Describe of a statement, with the error it ends in. -/
inductive Preparing : Option ServerError → List RawMessage → Prop where
  | parseError {e m} : IsError e m → e.isFatal = false → Preparing (some e) [m]
  | describeError {e p m} : Is .parseComplete p → IsError e m → e.isFatal = false →
      Preparing (some e) [p, m]
  | columnsError {e p d m} : Is .parseComplete p → Is .parameterDescription d → IsError e m →
      e.isFatal = false → Preparing (some e) [p, d, m]
  | done {p d c} (returnsRows : Bool) : Is .parseComplete p → Is .parameterDescription d →
      IsColumns returnsRows c → Preparing none [p, d, c]

/-- The reply to the Close of a statement or portal, with the error it ends in. -/
inductive Closing : Option ServerError → List RawMessage → Prop where
  | error {e m} : IsError e m → e.isFatal = false → Closing (some e) [m]
  | done {m} : Is .closeComplete m → Closing none [m]

section Feed

variable {P : Peer} {st : P.State}

/-- What a group of messages is answered with, when the error it ends in decides whether the
server discards messages. -/
def Peer.AnswersWith (P : Peer) (st : P.State) (fs : List Frontend)
    (Q : Option ServerError → List RawMessage → Prop) : Prop :=
  P.Answers st fs fun r s => ∃ error, Q error r ∧ s.mode = modeOf error.isSome

/-- The reply to the Parse and the Describe of a statement. -/
theorem feed_prepare {name sql : String} {oids : List Oid} (hm : (P.session st).mode = .ready) :
    P.AnswersWith st [.parse name sql oids, .describeStatement name] Preparing := by
  rcases respond_extended hm (f := .parse name sql oids) rfl (by simp) with h | h | h
  · exact .cons (.inl h)
  · obtain ⟨part, e, m, hpart, he, hfatal, hr, hskip⟩ := h
    cases hpart
    refine .cons (.inr ((feed_skipping hskip (by simp [Frontend.isExtended])).imp_right ?_))
    rintro ⟨hnil, hmode⟩
    rw [hr, hnil]
    exact ⟨some e, .parseError he hfatal, hmode⟩
  · refine .cons (.inr ?_)
    generalize hs : P.session (P.respond st (.parse name sql oids)).2 = s' at h
    generalize core (P.respond st (.parse name sql oids)).1 = r at h ⊢
    cases h with
    | @parse _ _ _ p returnsRows hparse =>
      have hm₁ : (P.session (P.respond st (.parse name sql oids)).2).mode = .ready := by
        rw [hs]
        exact hm
      rcases respond_extended hm₁ (f := .describeStatement name) rfl (by simp) with h | h | h
      · exact .cons (.inl h)
      · obtain ⟨part, e, m, hpart, he, hfatal, hr, hskip⟩ := h
        refine .cons (.inr (.inr ?_))
        rw [P.feed_nil, hr]
        cases hpart with
        | nil => exact ⟨some e, .describeError hparse he hfatal, hskip⟩
        | describeStatement hd => exact ⟨some e, .columnsError hparse hd he hfatal, hskip⟩
      · refine .cons (.inr (.inr ?_))
        rw [P.feed_nil]
        generalize P.session
          (P.respond (P.respond st (.parse name sql oids)).2 (.describeStatement name)).2 = s₂
            at h ⊢
        generalize core
          (P.respond (P.respond st (.parse name sql oids)).2 (.describeStatement name)).1 = r₂
            at h ⊢
        cases h with
        | @describeStatement _ stmt d c _ hd hc =>
          exact ⟨none, .done stmt.returnsRows hparse hd hc, hm₁⟩

/-- The reply to the Close of a statement. -/
theorem feed_closeStatement {name : String} (hm : (P.session st).mode = .ready) :
    P.AnswersWith st [.closeStatement name] Closing := by
  rcases respond_extended hm (f := .closeStatement name) rfl (by simp) with h | h | h
  · exact .cons (.inl h)
  · obtain ⟨part, e, m, hpart, he, hfatal, hr, hskip⟩ := h
    cases hpart
    refine .cons (.inr (.inr ?_))
    rw [P.feed_nil, hr]
    exact ⟨some e, .error he hfatal, hskip⟩
  · refine .cons (.inr (.inr ?_))
    rw [P.feed_nil]
    generalize P.session (P.respond st (.closeStatement name)).2 = s' at h ⊢
    generalize core (P.respond st (.closeStatement name)).1 = r at h ⊢
    cases h with
    | closeStatement hc => exact ⟨none, .done hc, hm⟩

/-- The reply to the Bind, Describe and Execute of a statement. -/
theorem feed_bindExecute (hP : P.NoCopy) {name : String} {formats : List FormatCode} {count : Nat}
    {values : Bytes} (hm : (P.session st).mode = .ready) :
    P.AnswersFrom st [.bind "" name formats count values, .describePortal "", .execute "" 0]
      (.bind true) := by
  rcases respond_bind hm with h | ⟨e, m, he, hfatal, hr, hskip⟩ | ⟨m, stmt, hb, hr, hm₂, hp⟩
  · exact .cons (.inl h)
  · exact answersFrom_error he hfatal hr hskip (by simp [Frontend.isExtended])
  · refine .cons (.inr ((feed_describe hP hm₂ hp).imp_right fun hfed => ?_))
    obtain ⟨fate, hread, hmode⟩ := hfed
    rw [hr]
    exact ⟨fate, .bindDescribed hb hread, hmode⟩

/-- A server answers Binds and Executes up to the first that fails. -/
theorem feed_executions (hP : P.NoCopy) {kinds : List OpKind} {fs : List Frontend}
    (hm : (P.session st).mode = .ready) (hf : QueueFrames kinds fs)
    (hk : ∀ kind ∈ kinds, kind = .prepared) :
    P.AnswersWith st fs (Consists executionTypes) := by
  refine (feed_queue hP (s := false) hm hf).imp_right ?_
  rintro ⟨items, t, hitems, howes, -, hmode⟩
  obtain ⟨error, hc, ht, -⟩ := howes.consists fun item hi => by
    have hmem : item.kind? ∈ kinds.map some := by
      rw [← hitems]
      exact List.mem_map_of_mem hi
    obtain ⟨kind, hkind, heq⟩ := List.mem_map.mp hmem
    rw [← heq, hk kind hkind]
  exact ⟨error, hc, by simpa [ht] using hmode⟩

/-- A statement that is parsed first. -/
theorem feed_parsed {sql : String} {oids : List Oid} {fs : List Frontend}
    {Q : Option ServerError → List RawMessage → Prop} (hm : (P.session st).mode = .ready)
    (hext : ∀ f ∈ fs, f.isExtended = true)
    (h : ∀ st, (P.session st).mode = .ready → P.AnswersWith st fs Q) :
    P.AnswersWith st (.parse "" sql oids :: fs) fun error r =>
      (∃ e x, error = some e ∧ r = [x] ∧ IsError e x) ∨
        ∃ p r', r = p :: r' ∧ Is .parseComplete p ∧ Q error r' := by
  rcases respond_extended hm (f := .parse "" sql oids) rfl (by simp) with hc | hc | hc
  · exact .cons (.inl hc)
  · obtain ⟨part, e, m, hpart, he, -, hr, hskip⟩ := hc
    cases hpart
    refine .cons (.inr ((feed_skipping hskip hext).imp_right ?_))
    rintro ⟨hnil, hmode⟩
    rw [hr, hnil]
    exact ⟨some e, .inl ⟨e, m, rfl, rfl, he⟩, hmode⟩
  · obtain ⟨p, hr, hp, hmode⟩ : ∃ p, core (P.respond st (.parse "" sql oids)).1 = [p] ∧
        Is .parseComplete p ∧ (P.session (P.respond st (.parse "" sql oids)).2).mode = .ready := by
      generalize P.session (P.respond st (.parse "" sql oids)).2 = s' at hc ⊢
      generalize core (P.respond st (.parse "" sql oids)).1 = r at hc ⊢
      cases hc with
      | @parse _ _ _ p _ hp => exact ⟨p, rfl, hp, hm⟩
    refine .cons (.inr ((h _ hmode).imp_right ?_))
    rintro ⟨error, hQ, hmode'⟩
    rw [hr]
    exact ⟨error, .inr ⟨p, _, rfl, hp, hQ⟩, hmode'⟩

theorem Preparing.consists {error : Option ServerError} {r : List RawMessage}
    (h : Preparing error r) : Consists preparationTypes error r := by
  have parsed {p : RawMessage} (hp : Is .parseComplete p) : Consists preparationTypes none [p] :=
    .single (by simp [preparationTypes, hp.1]) hp.2 (by simp [hp.1])
  have described {d : RawMessage} (hd : Is .parameterDescription d) :
      Consists preparationTypes none [d] :=
    .single (by simp [preparationTypes, hd.1]) hd.2 (by simp [hd.1])
  cases h with
  | parseError hx _ => exact .failed hx
  | describeError hp hx _ => exact (parsed hp).append (.failed hx)
  | columnsError hp hd hx _ => exact (parsed hp).append ((described hd).append (.failed hx))
  | @done p d c returnsRows hp hd hc =>
    have hcols : Consists preparationTypes none [c] := by
      cases returnsRows with
      | true => exact .single (by simp [preparationTypes, hc.1]) hc.2 (by simp [hc.1])
      | false => exact .single (by simp [preparationTypes, hc.1]) hc.2 (by simp [hc.1])
    exact (parsed hp).append ((described hd).append hcols)

/-- A server answers preparations up to the first that fails. -/
theorem feed_preparations (frames : List (String × String × List Oid))
    (hm : (P.session st).mode = .ready) :
    P.AnswersWith st (frames.flatMap fun (name, sql, oids) =>
      [.parse name sql oids, .describeStatement name]) (Consists preparationTypes) := by
  induction frames generalizing st with
  | nil => exact .inr ⟨none, .nil, hm⟩
  | cons frame frames ih =>
    obtain ⟨name, sql, oids⟩ := frame
    have hone : P.AnswersWith st [.parse name sql oids, .describeStatement name] Preparing :=
      feed_prepare hm
    rw [List.flatMap_cons]
    unfold Peer.AnswersWith Peer.Answers at hone ih ⊢
    rw [P.feed_append, core_append]
    rcases hone with hc | ⟨error, hprep, hmode⟩
    · exact .inl (feed_closed _ hc).2
    · cases error with
      | none =>
        refine (ih hmode).imp_right fun ⟨error, hc, hmode⟩ => ⟨error, ?_, hmode⟩
        exact hprep.consists.append hc
      | some e =>
        refine (feed_skipping hmode ?_).imp_right fun ⟨hnil, hmode⟩ => ⟨some e, ?_, hmode⟩
        · intro f hf
          obtain ⟨⟨name, sql, oids⟩, -, hf⟩ := List.mem_flatMap.mp hf
          simp only [List.mem_cons, List.not_mem_nil, or_false] at hf
          rcases hf with rfl | rfl <;> rfl
        · rw [hnil, List.append_nil]
          exact hprep.consists

/-! ### Sync -/

/-- What a Sync is answered with, given whether the server discarded messages before it. -/
inductive SyncReply : Bool → Option ServerError → TransactionStatus → List RawMessage → Prop where
  | ready {skipping status z} : IsReady status z → SyncReply skipping none status [z]
  | error {e m status z} : IsError e m → e.isFatal = false → IsReady status z →
      SyncReply false (some e) status [m, z]

/-- The reply to a Sync ends with ReadyForQuery. -/
theorem SyncReply.ends {skipping : Bool} {error : Option ServerError}
    {status : TransactionStatus} {r : List RawMessage} (h : SyncReply skipping error status r) :
    ∃ r₀ z, r = r₀ ++ [z] ∧ IsReady status z := by
  cases h with
  | @ready _ _ z hz => exact ⟨[], z, rfl, hz⟩
  | @error _ m _ z _ _ hz => exact ⟨[m], z, rfl, hz⟩

theorem SyncReply.errorsIn_eq {skipping : Bool} {error : Option ServerError}
    {status : TransactionStatus} {r : List RawMessage} (h : SyncReply skipping error status r) :
    errorsIn r = error.toList := by
  cases h with
  | ready hz => rw [errorsIn_cons_ne (by simp [hz.1])]; rfl
  | error he _ hz => rw [errorsIn_cons_error he, errorsIn_cons_ne (by simp [hz.1])]; rfl

/-- A server that discarded messages answers the Sync without an error. -/
theorem SyncReply.error_of_skipping {skipping : Bool} {error : Option ServerError}
    {status : TransactionStatus} {r : List RawMessage} (h : SyncReply skipping error status r)
    (hs : skipping = true) : error = none := by
  cases h with
  | ready => rfl
  | error => cases hs

/-- A server answers a group of messages and then the Sync behind it. -/
theorem feed_synced {fs : List Frontend} {Q : Option ServerError → List RawMessage → Prop}
    (h : P.AnswersWith st fs Q) :
    P.Answers st (fs ++ [.sync]) fun r s => s.mode = .ready ∧
      ∃ group sync status r₁ r₂, r = r₁ ++ r₂ ∧ Q group r₁ ∧
        SyncReply group.isSome sync status r₂ := by
  unfold Peer.AnswersWith Peer.Answers at *
  rw [P.feed_append, core_append, P.feed_cons, P.feed_nil, List.append_nil]
  rcases h with h | ⟨group, hQ, hmode⟩
  · exact .inl (respond_closed .sync h).2
  · rcases respond_sync hmode with h | ⟨sync, howes, -, hready⟩
    · exact .inl h
    · refine .inr ⟨hready, group, sync, ?_⟩
      dsimp only at howes ⊢
      generalize core (P.respond (P.feed st fs).2 .sync).1 = r₂ at howes ⊢
      generalize hg : group.isSome = s at howes
      cases howes with
      | @sync _ status z _ _ _ hz hrest =>
        obtain ⟨rfl, -⟩ := hrest.of_nil
        exact ⟨status, _, _, rfl, hQ, .ready hz⟩
      | @syncError status e m z _ _ _ he hf hz hrest =>
        obtain ⟨rfl, -⟩ := hrest.of_nil
        exact ⟨status, _, _, rfl, hQ, .error he hf hz⟩

end Feed

end ZeroPostgres
