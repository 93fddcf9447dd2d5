import ZeroPostgres.Pipeline.Blocking

/-!
# Where reading stops

A claim of the blocking client that meets messages it does not expect fails and leaves the others
behind. Whatever the messages are, it does not read past the end of the last reply among them
(`claimExpectation_stops`). What it leaves is passed over by `consume_ready_for_query` on the way to
the next ReadyForQuery, unless there is an error in it (`consumeReadyForQuery_past`).
-/

namespace ZeroPostgres

/-- Within a reply to an operation, a message of this type is not the last. -/
def MsgType.goesOn : MsgType → Bool
  | .parseComplete | .bindComplete | .rowDescription | .noData | .dataRow => true
  | _ => false

/-- Well-formed messages that end with the end of a reply, if there are any. -/
structure Bounded (r : List RawMessage) : Prop where
  wellFormed : ∀ m ∈ r, m.wellFormed = true
  ends : ∀ m ∈ r.getLast?, m.type.goesOn = false

namespace Bounded

variable {r r' : List RawMessage} {m : RawMessage}

theorem nil : Bounded [] := ⟨by simp, by simp⟩

theorem tail (h : Bounded (m :: r)) : Bounded r := by
  refine ⟨fun x hx => h.wellFormed x (List.mem_cons_of_mem m hx), fun x hx => h.ends x ?_⟩
  rw [Option.mem_def] at hx
  simp [List.getLast?_cons, hx]

theorem of_suffix (h : Bounded r) (hs : r' <:+ r) : Bounded r' := by
  obtain ⟨read, rfl⟩ := hs
  induction read with
  | nil => exact h
  | cons m read ih => exact ih h.tail

theorem append (h : Bounded r) (h' : Bounded r') : Bounded (r ++ r') := by
  refine ⟨fun m hm => (List.mem_append.mp hm).elim (h.wellFormed m) (h'.wellFormed m),
    fun m hm => ?_⟩
  rw [Option.mem_def, List.getLast?_append] at hm
  cases hl : r'.getLast? with
  | none =>
    rw [hl] at hm
    exact h.ends m hm
  | some x =>
    rw [hl] at hm
    exact h'.ends m (hl.trans hm)

/-- A message behind which a reply goes on is not the last one. -/
theorem ne_nil (h : Bounded (m :: r)) (hm : m.type.goesOn = true) : r ≠ [] := by
  rintro rfl
  rw [h.ends m rfl] at hm
  cases hm

/-- One message at the end of a reply. -/
theorem single (hw : m.wellFormed = true) (he : m.type.goesOn = false) : Bounded [m] := by
  refine ⟨?_, ?_⟩ <;> simpa

theorem cons (hw : m.wellFormed = true) (hne : r ≠ []) (h : Bounded r) : Bounded (m :: r) := by
  refine ⟨fun x hx => ?_, fun x hx => h.ends x ?_⟩
  · rcases List.mem_cons.mp hx with rfl | hx
    · exact hw
    · exact h.wellFormed x hx
  · obtain ⟨y, ys, rfl⟩ := List.exists_cons_of_ne_nil hne
    rwa [List.getLast?_cons_cons] at hx

end Bounded

/-- A reply ends where a claim stops, at the latest. -/
theorem Reading.bounded {stage : Stage} {fate : Fate} {r : List RawMessage}
    (h : Reading stage fate r) : r ≠ [] ∧ Bounded r := by
  induction h with
  | error he _ => exact ⟨by simp, .single he.wellFormed (by rw [he.1]; rfl)⟩
  | parse hm _ ih => exact ⟨by simp, .cons hm.2 ih.1 ih.2⟩
  | bindDescribed hm _ ih => exact ⟨by simp, .cons hm.2 ih.1 ih.2⟩
  | bindCached _ hm _ ih => exact ⟨by simp, .cons hm.2 ih.1 ih.2⟩
  | columns hm _ ih => exact ⟨by simp, .cons hm.2 ih.1 ih.2⟩
  | noData hm _ ih => exact ⟨by simp, .cons hm.2 ih.1 ih.2⟩
  | row hm _ ih => exact ⟨by simp, .cons hm.2 ih.1 ih.2⟩
  | complete hm => exact ⟨by simp, .single hm.wellFormed (by rw [hm.1]; rfl)⟩
  | empty hm => exact ⟨by simp, .single hm.2 (by rw [hm.1]; rfl)⟩

/-- Neither an error nor a ReadyForQuery is among the messages. -/
def Undisturbing (r : List RawMessage) : Prop :=
  ∀ m ∈ r, m.type ≠ .errorResponse ∧ m.type ≠ .readyForQuery

theorem Undisturbing.nil : Undisturbing [] := by
  intro m hm
  cases hm

theorem Undisturbing.cons {m : RawMessage} {r : List RawMessage} (he : m.type ≠ .errorResponse)
    (hz : m.type ≠ .readyForQuery) (h : Undisturbing r) : Undisturbing (m :: r) :=
  List.forall_mem_cons.mpr ⟨⟨he, hz⟩, h⟩

theorem Undisturbing.append {r r' : List RawMessage} (h : Undisturbing r) (h' : Undisturbing r') :
    Undisturbing (r ++ r') := fun m hm => (List.mem_append.mp hm).elim (h m) (h' m)

theorem Undisturbing.of_suffix {r r' : List RawMessage} (h : Undisturbing r) (hs : r' <:+ r) :
    Undisturbing r' := fun m hm => h m (hs.subset hm)

/-- The reply to an operation that does not fail disturbs nothing. -/
theorem Reading.undisturbing {stage : Stage} {fate : Fate} {r : List RawMessage}
    (h : Reading stage fate r) (hf : fate.failed = false) : Undisturbing r := by
  induction h with
  | error => cases hf
  | row hm _ ih => exact .cons (by simp [hm.1]) (by simp [hm.1]) (ih hf)
  | complete hm => exact .cons (by simp [hm.1]) (by simp [hm.1]) .nil
  | empty hm => exact .cons (by simp [hm.1]) (by simp [hm.1]) .nil
  | parse hm _ ih | bindDescribed hm _ ih | bindCached _ hm _ ih | columns hm _ ih
  | noData hm _ ih => exact .cons (by simp [hm.1]) (by simp [hm.1]) (ih hf)

namespace Sync.Pipeline

open Act ZeroPostgres.Pipeline

variable {P : Peer} {α : Type} {p p₁ p' : Pipeline P} {r rest : List RawMessage} {m : RawMessage}
variable {handler : Handler} {readable : Prop}

/-! ### Claims -/

/-- Nothing but some of the messages `r` was read. If what is known of the columns is `readable`,
the read returned. -/
structure Stopped (readable : Prop) (r rest : List RawMessage) (p : Pipeline P)
    (o : Outcome Error α) (p' : Pipeline P) : Prop where
  reads : Reads p p'
  returns : readable → o ≠ .halt
  stops : ∃ left, left <:+ r ∧ p'.unread = left ++ rest

namespace Stopped

variable {o : Outcome Error α}

/-- One message was read. -/
theorem one (hr : Reads p p₁) (hun : p₁.unread = r ++ rest) (hreturns : readable → o ≠ .halt) :
    Stopped readable (m :: r) rest p o p₁ :=
  ⟨hr, hreturns, r, List.suffix_cons m r, hun⟩

/-- One message was read, and some of those behind it. -/
theorem cons (hr : Reads p p₁) (h : Stopped readable r rest p₁ o p') :
    Stopped readable (m :: r) rest p o p' := by
  obtain ⟨left, hleft, hun⟩ := h.stops
  exact ⟨hr.trans h.reads, h.returns, left, hleft.trans (List.suffix_cons m r), hun⟩

theorem mono {readable' : Prop} (h : Stopped readable r rest p o p')
    (hr : readable' → readable) : Stopped readable' r rest p o p' :=
  ⟨h.reads, fun hr' => h.returns (hr hr'), h.stops⟩

end Stopped

/-- The columns that rows are read with can be parsed, or are refused. -/
def Readable (columns : Except Error Bytes) : Prop :=
  ∀ payload, columns = .ok payload → RowDescription.parse payload ≠ .halt

/-- A round of the row loop changes nothing else, and reads on behind a row only. -/
private theorem rowRound_same {columns : Except Error Bytes} {acc : List Callback}
    (hw : m.wellFormed = true) (p : Pipeline P) :
    ∃ o, rowRound handler columns acc m p = (o, p) ∧ (Readable columns → o ≠ .halt) ∧
      ∀ acc', o = .ok (.next acc') → m.type.goesOn = true := by
  cases ht : m.type <;> simp only [rowRound, ht]
  case dataRow =>
    obtain ⟨row, hrow⟩ := row_parse ⟨ht, hw⟩
    cases columns with
    | error e => exact ⟨.err e, by simp [Act.bind_run], by simp, by simp⟩
    | ok payload =>
      cases hcols : RowDescription.parse payload with
      | ok cols =>
        cases ha : handler.accept (acc ++ [.row cols row]) with
        | ok u =>
          exact ⟨_, by simp [Act.bind_run, hcols, hrow, callHandler, Handler.call, ha]; rfl,
            by simp, fun _ _ => rfl⟩
        | error e =>
          exact ⟨.err e, by simp [Act.bind_run, hcols, hrow, callHandler, Handler.call, ha],
            by simp, by simp⟩
      | err e => exact ⟨.err e, by simp [Act.bind_run, hcols], by simp, by simp⟩
      | halt =>
        exact ⟨.halt, by simp [Act.bind_run, hcols], fun h => absurd hcols (h _ rfl), by simp⟩
  case commandComplete =>
    obtain ⟨tag, htag⟩ := parse_of_wellFormed (o := CommandComplete.parse m.payload) (by
      simpa [RawMessage.wellFormed, ht] using hw)
    cases ha : handler.accept (acc ++ [.resultEnd tag]) with
    | ok u =>
      exact ⟨_, by simp [Act.bind_run, htag, callHandler, Handler.call, ha]; rfl, by simp, by simp⟩
    | error e =>
      exact ⟨.err e, by simp [Act.bind_run, htag, callHandler, Handler.call, ha], by simp, by simp⟩
  case emptyQueryResponse => exact ⟨_, by simp [Act.bind_run]; rfl, by simp, by simp⟩
  all_goals exact ⟨.err _, rfl, by simp, by simp⟩

/-- The row loop. The induction is on the messages it may read. -/
theorem claimRows_stops {columns : Except Error Bytes} (hb : Bounded r) (hne : r ≠ [])
    (hp : p.unread = r ++ rest) (hcut : p.conn.stream.cut = none) (acc : List Callback) :
    Act.Meets (readMessages (nextRound (rowRound handler columns)) acc) p
      (Stopped (Readable columns) r rest p) := by
  induction r generalizing p acc with
  | nil => exact absurd rfl hne
  | cons m r ih =>
    obtain ⟨p₁, hr, hun, hcut₁, hrun⟩ := readMessages_next hp hcut acc
    have hw := hb.wellFormed m List.mem_cons_self
    rw [Act.Meets, hrun, afterMessage, Act.bind_run]
    by_cases he : m.type = .errorResponse
    · obtain ⟨e, hparse⟩ : ∃ e, ErrorResponse.parse m.payload = .ok e :=
        parse_of_wellFormed (by simpa [RawMessage.wellFormed, he] using hw)
      rw [nextRound_error ⟨he, hparse⟩]
      exact .one hr hun (by simp)
    · obtain ⟨o, hround, hreturns, hnext⟩ : ∃ o, rowRound handler columns acc m p₁ = (o, p₁) ∧
          (Readable columns → o ≠ .halt) ∧
            ∀ acc', o = .ok (.next acc') → m.type.goesOn = true := rowRound_same hw p₁
      rw [nextRound_eq (not_async hp) he, hround]
      cases o with
      | ok flow =>
        cases flow with
        | next acc' => exact .cons hr (ih hb.tail (hb.ne_nil (hnext _ rfl)) hun hcut₁ acc')
        | stop calls => exact Stopped.one (o := .ok calls) hr hun (by simp)
      | err e => exact Stopped.one (o := .err e) hr hun (by simp)
      | halt =>
        exact Stopped.one (o := .halt) hr hun fun h => absurd rfl (hreturns h)

/-- A step that begins with `read_next_message`. -/
private theorem next_stops {k : RawMessage → Act Error (Pipeline P) (List Callback)}
    (hb : Bounded (m :: r)) (hp : p.unread = m :: (r ++ rest)) (hcut : p.conn.stream.cut = none)
    (hk : ∀ p₁, Reads p p₁ → p₁.unread = r ++ rest → p₁.conn.stream.cut = none →
      Act.Meets (k m) p₁ (Stopped readable (m :: r) rest p)) :
    Act.Meets (readNextMessage >>= k) p (Stopped readable (m :: r) rest p) := by
  rw [Act.meets_bind]
  refine (readNextMessage_meets hp (hb.wellFormed m List.mem_cons_self)).mono fun o p' ho => ?_
  cases o with
  | ok m' =>
    obtain ⟨rfl, -, hr, hun⟩ := ho
    exact hk p' hr hun (hr.nocut hcut)
  | err e =>
    obtain ⟨se, -, rfl, p₁, hr, hun, rfl⟩ := ho
    exact .one hr hun (by simp)
  | halt => exact absurd hcut ho.2

/-- The rest of the messages is read by a computation that does not read past their end. -/
private theorem next_rest {k : Act Error (Pipeline P) (List Callback)}
    (hr : Reads p p₁) (h : Act.Meets k p₁ (Stopped readable r rest p₁)) :
    Act.Meets k p₁ (Stopped readable (m :: r) rest p) :=
  h.mono fun _ _ ho => .cons hr ho

/-- An unexpected message fails the read. -/
private theorem fail_stops (hr : Reads p p₁) (hun : p₁.unread = r ++ rest) (e : Error) :
    Act.Meets (Act.fail e : Act Error (Pipeline P) (List Callback)) p₁
      (Stopped readable (m :: r) rest p) :=
  .one hr hun (by simp)

theorem claimRowsInner_stops (hb : Bounded r) (hne : r ≠ []) (hp : p.unread = r ++ rest)
    (hcut : p.conn.stream.cut = none) :
    Act.Meets (claimRowsInner handler) p (Stopped True r rest p) := by
  obtain ⟨m, r, rfl⟩ := List.exists_cons_of_ne_nil hne
  refine next_stops hb hp hcut fun p₁ hr hun hcut₁ => ?_
  cases ht : m.type
  case rowDescription =>
    obtain ⟨cols, hcols⟩ := columns_parse ⟨ht, hb.wellFormed m List.mem_cons_self⟩
    have hreads := LawfulPipelineDriver.saveColumns_reads m.payload p₁
    simp only [Act.meets_bind, Act.meets_modify]
    refine next_rest (hr.trans hreads) ((claimRows_stops hb.tail (hb.ne_nil (by rw [ht]; rfl))
      ?_ (hreads.nocut hcut₁) []).mono fun o p' ho => ho.mono fun _ payload hpayload => ?_)
    · rw [unread, Conn.unread, LawfulPipelineDriver.saveColumns_inbound]
      exact hun
    · cases hpayload
      simp [hcols]
  case noData =>
    simp only [NoData.parse_eq, Act.meets_bind, Act.meets_lift]
    exact next_rest hr ((claimRows_stops hb.tail (hb.ne_nil (by rw [ht]; rfl)) hun hcut₁
      []).mono fun o p' ho => ho.mono fun _ payload hpayload => by cases hpayload)
  all_goals exact fail_stops hr hun _

/-- The read of BindComplete, and what is read behind it. -/
private theorem bind_stops {k : Act Error (Pipeline P) (List Callback)} (hb : Bounded r)
    (hne : r ≠ []) (hp : p.unread = r ++ rest) (hcut : p.conn.stream.cut = none)
    (hk : ∀ r p₁, Bounded r → r ≠ [] → p₁.unread = r ++ rest → p₁.conn.stream.cut = none →
      Act.Meets k p₁ (Stopped readable r rest p₁)) :
    Act.Meets (expectBindComplete >>= fun _ => k) p (Stopped readable r rest p) := by
  obtain ⟨m, r, rfl⟩ := List.exists_cons_of_ne_nil hne
  rw [expectBindComplete, Act.bind_assoc]
  refine next_stops hb hp hcut fun p₁ hr hun hcut₁ => ?_
  cases ht : m.type
  case bindComplete =>
    simp only [BindComplete.parse_eq, Act.meets_bind, Act.meets_lift]
    exact next_rest hr (hk r p₁ hb.tail (hb.ne_nil (by rw [ht]; rfl)) hun hcut₁)
  all_goals exact fail_stops hr hun _

/-- A claim of an operation reads no further than to the end of the first reply among the messages
it meets, whatever they are. It returns unless the columns cached in its ticket cannot be parsed. -/
theorem claimExpectation_stops {kind : OpKind} {ticket : Ticket} (hb : Bounded r) (hne : r ≠ [])
    (hp : p.unread = r ++ rest) (hcut : p.conn.stream.cut = none) :
    Act.Meets (claimExpectation (some kind.expectation) ticket handler) p
      (Stopped (∀ payload ∈ ticket.stmt.bind (·.rowDescPayload),
        RowDescription.parse payload ≠ .halt) r rest p) := by
  cases kind with
  | sql =>
    obtain ⟨m, r, rfl⟩ := List.exists_cons_of_ne_nil hne
    refine next_stops hb hp hcut fun p₁ hr hun hcut₁ => ?_
    cases ht : m.type
    case parseComplete =>
      simp only [ParseComplete.parse_eq]
      rw [Act.meets_bind]
      simp only [Act.meets_lift]
      refine next_rest hr (bind_stops hb.tail (hb.ne_nil (by rw [ht]; rfl)) hun hcut₁
        fun r p₂ hb hne hun hcut₂ => ?_)
      exact (claimRowsInner_stops hb hne hun hcut₂).mono fun o p' ho => ho.mono fun _ => trivial
    all_goals exact fail_stops hr hun _
  | prepared =>
    refine bind_stops hb hne hp hcut fun r p₂ hb hne hun hcut₂ => ?_
    refine (claimRows_stops hb hne hun hcut₂ []).mono fun o p' ho => ho.mono fun h payload hp => ?_
    cases hs : ticket.stmt.bind (·.rowDescPayload) with
    | none =>
      rw [hs] at hp
      cases hp
    | some known =>
      rw [hs] at hp h
      cases hp
      exact h _ rfl

/-! ### ReadyForQuery -/

/-- What is neither is passed over on the way to the next ReadyForQuery. -/
theorem consumeReadyForQuery_past {z : RawMessage} (h : Undisturbing r) (hz : Is .readyForQuery z)
    (hp : p.unread = r ++ z :: rest) (hcut : p.conn.stream.cut = none) :
    Reaches consumeReadyForQuery p rest (.ok ()) := by
  induction r generalizing p with
  | nil => exact consumeReadyForQuery_reaches hz hp hcut
  | cons m r ih =>
    have hm := h m List.mem_cons_self
    obtain ⟨p₁, hr, hun, hrun⟩ := consumeReadyForQuery_next hm.1 hm.2 hp hcut
    exact .of_reads hr hrun (ih (fun x hx => h x (List.mem_cons_of_mem m hx)) hun (hr.nocut hcut))

end Sync.Pipeline

end ZeroPostgres
