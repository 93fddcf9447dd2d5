import ZeroPostgres.Server.Session

/-!
# Replies to queued operations

What a server owes for a queue of pipelined operations and Syncs. `Reading` follows one
operation's reply message by message; `Owes` runs through a queue, with the flag that says
whether the server discards messages at that point. `feed_queue` shows that a conformant
server without COPY owes exactly that for what a pipeline sends.
-/

namespace ZeroPostgres

/-- How the reply to an operation ends. -/
inductive Ending where
  | complete (tag : String)
  | empty
  | error (e : ServerError)
deriving DecidableEq, Repr

/-- What became of an operation: the server ran it, sending the RowDescription and the rows
of its reply and what ended them, or it skipped the operation. -/
inductive Fate where
  | ran (columns : Option Bytes) (rows : List Bytes) (ending : Ending)
  | skipped
deriving DecidableEq, Repr

/-- The reply ended in an error. -/
def Ending.failed : Ending → Bool
  | .error _ => true
  | _ => false

/-- The server discards messages after the operation. -/
def Fate.skipping : Fate → Bool
  | .ran _ _ ending => ending.failed
  | .skipped => true

/-- Where a reader stands within the reply to an operation. A statement sent as SQL is
described before its rows. -/
inductive Stage where
  | parse
  | bind (describes : Bool)
  | describe
  | rows (columns : Option Bytes) (returnsRows : Bool)
deriving DecidableEq, Repr

/-- The RowDescription known at a stage. -/
def Stage.columns : Stage → Option Bytes
  | .rows columns _ => columns
  | _ => none

/-- The rest of an operation's reply, read from a stage on. -/
inductive Reading : Stage → Fate → List RawMessage → Prop where
  | error {stage e m} : IsError e m → e.isFatal = false →
      Reading stage (.ran stage.columns [] (.error e)) [m]
  | parse {fate m ms} : Is .parseComplete m → Reading (.bind true) fate ms →
      Reading .parse fate (m :: ms)
  | bindDescribed {fate m ms} : Is .bindComplete m → Reading .describe fate ms →
      Reading (.bind true) fate (m :: ms)
  | bindCached {fate m ms} (returnsRows : Bool) : Is .bindComplete m →
      Reading (.rows none returnsRows) fate ms → Reading (.bind false) fate (m :: ms)
  | columns {fate m ms} : Is .rowDescription m → Reading (.rows (some m.payload) true) fate ms →
      Reading .describe fate (m :: ms)
  | noData {fate m ms} : Is .noData m → Reading (.rows none false) fate ms →
      Reading .describe fate (m :: ms)
  | row {columns rows ending m ms} : Is .dataRow m →
      Reading (.rows columns true) (.ran columns rows ending) ms →
      Reading (.rows columns true) (.ran columns (m.payload :: rows) ending) (m :: ms)
  | complete {columns returnsRows tag m} : IsComplete tag m →
      Reading (.rows columns returnsRows) (.ran columns [] (.complete tag)) [m]
  | empty {columns m} : Is .emptyQueryResponse m →
      Reading (.rows columns false) (.ran columns [] .empty) [m]

/-- A skipped operation has no reply. -/
theorem Reading.ne_skipped {stage : Stage} {fate : Fate} {ms : List RawMessage}
    (h : Reading stage fate ms) : fate ≠ .skipped := by
  induction h <;> simp_all

/-- The columns of an operation are those known when its rows began. -/
theorem Reading.columns_eq {columns c : Option Bytes} {returnsRows : Bool} {rows : List Bytes}
    {ending : Ending} {ms : List RawMessage}
    (h : Reading (.rows columns returnsRows) (.ran c rows ending) ms) : c = columns := by
  cases h <;> rfl

/-- How a reply with the given last message ended. -/
def Ending.ofLast (m : RawMessage) : Ending :=
  match m.toError?, m.type, CommandComplete.parse m.payload with
  | some e, _, _ => .error e
  | none, .commandComplete, .ok tag => .complete tag
  | _, _, _ => .empty

/-- What the reply to an operation says became of it. -/
def Fate.ofReply (ms : List RawMessage) : Fate :=
  match ms.getLast? with
  | none => .skipped
  | some m => .ran ((ms.find? (·.type = .rowDescription)).map (·.payload))
      ((ms.filter (·.type = .dataRow)).map (·.payload)) (.ofLast m)

private theorem ofLast_error {e : ServerError} {m : RawMessage} (h : IsError e m) :
    Ending.ofLast m = .error e := by
  simp [Ending.ofLast, RawMessage.toError?, h.1, h.2]

private theorem last_cons {m : RawMessage} {ms : List RawMessage} {ending : Ending}
    (h : ms.getLast?.map Ending.ofLast = some ending) :
    (m :: ms).getLast?.map Ending.ofLast = some ending := by
  cases hl : ms.getLast? with
  | none => rw [hl] at h; cases h
  | some x => rw [hl] at h; rw [List.getLast?_cons, hl]; exact h

/-- A reader finds the columns, the rows and the ending that the messages hold. -/
private theorem Reading.parts {stage : Stage} {c : Option Bytes} {rows : List Bytes}
    {ending : Ending} {ms : List RawMessage} (h : Reading stage (.ran c rows ending) ms) :
    c = ((ms.find? (·.type = .rowDescription)).map (·.payload)).or stage.columns ∧
      rows = (ms.filter (·.type = .dataRow)).map (·.payload) ∧
      ms.getLast?.map Ending.ofLast = some ending := by
  generalize hf : Fate.ran c rows ending = fate at h
  induction h generalizing rows with
  | error he _ => cases hf; simp [ofLast_error he, he.1]
  | parse hm _ ih =>
    obtain ⟨hc, hrows, hl⟩ := ih hf
    exact ⟨by simpa [hm.1, Stage.columns] using hc, by simpa [hm.1] using hrows, last_cons hl⟩
  | bindDescribed hm _ ih =>
    obtain ⟨hc, hrows, hl⟩ := ih hf
    exact ⟨by simpa [hm.1, Stage.columns] using hc, by simpa [hm.1] using hrows, last_cons hl⟩
  | bindCached _ hm _ ih =>
    obtain ⟨hc, hrows, hl⟩ := ih hf
    exact ⟨by simpa [hm.1, Stage.columns] using hc, by simpa [hm.1] using hrows, last_cons hl⟩
  | columns hm hr ih =>
    obtain ⟨-, hrows, hl⟩ := ih hf
    cases hf
    exact ⟨by simpa [hm.1] using hr.columns_eq, by simpa [hm.1] using hrows, last_cons hl⟩
  | noData hm _ ih =>
    obtain ⟨hc, hrows, hl⟩ := ih hf
    exact ⟨by simpa [hm.1, Stage.columns] using hc, by simpa [hm.1] using hrows, last_cons hl⟩
  | row hm _ ih =>
    cases hf
    obtain ⟨hc, hrows, hl⟩ := ih rfl
    exact ⟨by simpa [hm.1, Stage.columns] using hc, by simpa [hm.1] using hrows, last_cons hl⟩
  | complete hm =>
    cases hf
    simp [Ending.ofLast, RawMessage.toError?, hm.1, hm.2, Stage.columns]
  | empty hm =>
    cases hf
    simp [Ending.ofLast, RawMessage.toError?, hm.1, Stage.columns]

/-! ### What a server owes for a queue -/

/-- A queued operation, by how it was sent. -/
inductive OpKind where
  | sql
  | prepared
deriving DecidableEq, Repr

/-- The stage at which the reply to an operation begins. -/
def OpKind.first : OpKind → Stage
  | .sql => .parse
  | .prepared => .bind false

/-- An entry of a queue with what became of it. -/
inductive Item where
  | op (kind : OpKind) (fate : Fate)
  | sync (error : Option ServerError)
deriving DecidableEq, Repr

/-- The kind of operation an entry is, if it is one. -/
def Item.kind? : Item → Option OpKind
  | .op kind _ => some kind
  | .sync _ => none

/-- The fate a reader of a whole reply finds is the one the reply says. -/
theorem Reading.ofReply {kind : OpKind} {fate : Fate} {ms : List RawMessage}
    (h : Reading kind.first fate ms) : Fate.ofReply ms = fate := by
  cases fate with
  | skipped => exact absurd rfl h.ne_skipped
  | ran c rows ending =>
    obtain ⟨hc, hrows, hl⟩ := h.parts
    cases hlast : ms.getLast? with
    | none => rw [hlast] at hl; cases hl
    | some m =>
      rw [hlast] at hl
      rw [Fate.ofReply, hlast]
      have hcol : kind.first.columns = none := by cases kind <;> rfl
      rw [hcol, Option.or_none] at hc
      rw [hc, hrows, ← Option.some.inj hl]

/-- What became of the operations and Syncs of a log. `kind` and `reply` belong to an
operation whose last message is still to come. -/
def servedFrom (kind : OpKind) (reply : List RawMessage) :
    List (Frontend × List RawMessage) → List Item
  | [] => []
  | (.flush, _) :: es => servedFrom kind reply es
  | (.sync, r) :: es => .sync ((core r).findSome? (·.toError?)) :: servedFrom .prepared [] es
  | (.parse .., r) :: es => servedFrom .sql (reply ++ r) es
  | (.execute .., r) :: es =>
    .op kind (.ofReply (core (reply ++ r))) :: servedFrom .prepared [] es
  | (_, r) :: es => servedFrom kind (reply ++ r) es

/-- What became of the operations and Syncs of a log that begins between operations. -/
def served (log : List (Frontend × List RawMessage)) : List Item := servedFrom .prepared [] log

/-- A part of a log that ends between operations, with what became of its entries. -/
def Serves (log : List (Frontend × List RawMessage)) (items : List Item) : Prop :=
  ∀ log', served (log ++ log') = items ++ served log'

theorem Serves.nil : Serves [] [] := fun _ => rfl

theorem Serves.append {log log' : List (Frontend × List RawMessage)} {items items' : List Item}
    (h : Serves log items) (h' : Serves log' items') : Serves (log ++ log') (items ++ items') := by
  intro l
  rw [List.append_assoc, h, h', List.append_assoc]

theorem Serves.eq {log : List (Frontend × List RawMessage)} {items : List Item}
    (h : Serves log items) : served log = items := by
  have h := h []
  simpa [served, servedFrom] using h

/-- What a server owes for a queue: whether it discards messages before, the queue, the
messages asynchronous ones aside, and whether it discards messages behind it. -/
inductive Owes : Bool → List Item → List RawMessage → Bool → Prop where
  | nil {s} : Owes s [] [] s
  | skipped {kind items ms t} : Owes true items ms t →
      Owes true (.op kind .skipped :: items) ms t
  | op {kind fate r items ms t} : Reading kind.first fate r → Owes fate.skipping items ms t →
      Owes false (.op kind fate :: items) (r ++ ms) t
  | sync {s status z items ms t} : IsReady status z → Owes false items ms t →
      Owes s (.sync none :: items) (z :: ms) t
  | syncError {status e m z items ms t} : IsError e m → e.isFatal = false → IsReady status z →
      Owes false items ms t → Owes false (.sync (some e) :: items) (m :: z :: ms) t

/-- Two queues in a row are owed in a row. -/
theorem Owes.append {s t u : Bool} {items items' : List Item} {ms ms' : List RawMessage}
    (h : Owes s items ms t) (h' : Owes t items' ms' u) :
    Owes s (items ++ items') (ms ++ ms') u := by
  induction h with
  | nil => exact h'
  | skipped _ ih => exact .skipped (ih h')
  | op hr _ ih =>
    rw [List.append_assoc]
    exact .op hr (ih h')
  | sync hz _ ih => exact .sync hz (ih h')
  | syncError he hf hz _ ih => exact .syncError he hf hz (ih h')

/-- What is owed for a queue that begins with a Sync. -/
theorem Owes.sync_inv {s t : Bool} {error : Option ServerError} {items : List Item}
    {ms : List RawMessage} (h : Owes s (.sync error :: items) ms t) :
    (∃ status z rest, error = none ∧ ms = z :: rest ∧ IsReady status z ∧ Owes false items rest t) ∨
    ∃ e m rest, error = some e ∧ ms = m :: rest ∧ IsError e m ∧ e.isFatal = false := by
  cases h with
  | sync hz h => exact .inl ⟨_, _, _, rfl, rfl, hz, h⟩
  | syncError he hf hz h => exact .inr ⟨_, _, _, rfl, rfl, he, hf⟩

/-- What is owed for a queue that begins with an operation. -/
theorem Owes.op_inv {s t : Bool} {kind : OpKind} {fate : Fate} {items : List Item}
    {ms : List RawMessage} (h : Owes s (.op kind fate :: items) ms t) :
    (s = true ∧ fate = .skipped ∧ Owes true items ms t) ∨
    s = false ∧ ∃ c rows ending r rest, fate = .ran c rows ending ∧ ms = r ++ rest ∧
      Reading kind.first fate r ∧ Owes fate.skipping items rest t := by
  cases h with
  | skipped h => exact .inl ⟨rfl, rfl, h⟩
  | op hr h =>
    cases fate with
    | ran c rows ending => exact .inr ⟨rfl, c, rows, ending, _, _, rfl, rfl, hr, h⟩
    | skipped => exact absurd rfl hr.ne_skipped

/-- An empty queue is owed nothing. -/
theorem Owes.of_nil {s t : Bool} {ms : List RawMessage} (h : Owes s [] ms t) :
    ms = [] ∧ t = s := by
  cases h
  exact ⟨rfl, rfl⟩

/-! ### What a server answers to a queue -/

/-- The mode of a session that is not closed, by whether it discards messages. -/
def modeOf (skipping : Bool) : Mode := if skipping then .skipping else .ready

/-- The messages of a queued operation. -/
inductive OpFrames : OpKind → List Frontend → Prop where
  | sql {sql oids formats count values} :
      OpFrames .sql [.parse "" sql oids, .bind "" "" formats count values, .describePortal "",
        .execute "" 0]
  | prepared {name formats count values} :
      OpFrames .prepared [.bind "" name formats count values, .execute "" 0]

theorem OpFrames.isExtended {kind : OpKind} {fs : List Frontend} (h : OpFrames kind fs) :
    ∀ f ∈ fs, f.isExtended = true := by
  cases h <;> simp [Frontend.isExtended]

/-- The messages of several queued operations. -/
inductive QueueFrames : List OpKind → List Frontend → Prop where
  | nil : QueueFrames [] []
  | cons {kind fs kinds gs} : OpFrames kind fs → QueueFrames kinds gs →
      QueueFrames (kind :: kinds) (fs ++ gs)

theorem QueueFrames.isExtended {kinds : List OpKind} {fs : List Frontend}
    (h : QueueFrames kinds fs) : ∀ f ∈ fs, f.isExtended = true := by
  induction h with
  | nil => simp
  | cons ho _ ih => exact fun f hf => (List.mem_append.mp hf).elim (ho.isExtended f) (ih f)

/-- An operation has messages. -/
theorem QueueFrames.of_nil {kinds : List OpKind} (h : QueueFrames kinds []) : kinds = [] := by
  generalize hfs : ([] : List Frontend) = fs at h
  cases h with
  | nil => rfl
  | cons ho _ => cases ho <;> cases hfs

/-- No operations have no messages. -/
theorem QueueFrames.nil_inv {fs : List Frontend} (h : QueueFrames [] fs) : fs = [] := by
  cases h
  rfl

/-- One more operation is queued behind the others. -/
theorem QueueFrames.snoc {kinds : List OpKind} {fs gs : List Frontend} {kind : OpKind}
    (h : QueueFrames kinds fs) (ho : OpFrames kind gs) :
    QueueFrames (kinds ++ [kind]) (fs ++ gs) := by
  induction h with
  | nil => simpa using QueueFrames.cons ho .nil
  | cons hk _ ih =>
    rw [List.append_assoc]
    exact .cons hk ih

private theorem reading_rows {columns : Option Bytes} {returnsRows : Bool} {ending : Ending}
    {rows ms : List RawMessage} (hrows : IsRows returnsRows rows)
    (h : Reading (.rows columns returnsRows) (.ran columns [] ending) ms) :
    Reading (.rows columns returnsRows) (.ran columns (rows.map (·.payload)) ending)
      (rows ++ ms) := by
  induction rows with
  | nil => exact h
  | cons m rows ih =>
    have hr : returnsRows = true := by
      cases returnsRows with
      | true => rfl
      | false => cases hrows.2 rfl
    subst hr
    exact .row (hrows.1 m (by simp))
      (ih ⟨fun x hx => hrows.1 x (List.mem_cons_of_mem m hx), fun h => by cases h⟩)

section Feed

variable {P : Peer}

/-- The log of an operation says what its whole reply says. -/
theorem OpFrames.serves {kind : OpKind} {fs : List Frontend} (h : OpFrames kind fs)
    (st : P.State) :
    Serves (P.exchanges st fs) [.op kind (.ofReply (core (P.feed st fs).1))] := by
  cases h <;> intro log' <;> simp [served, servedFrom, Peer.exchanges, P.feed_cons]

theorem toError_of_isError {e : ServerError} {m : RawMessage} (h : IsError e m) :
    m.toError? = some e := by
  simp [RawMessage.toError?, h.1, h.2]

theorem toError_of_isReady {status : TransactionStatus} {m : RawMessage}
    (h : IsReady status m) : m.toError? = none := by
  simp [RawMessage.toError?, h.1]

/-- The server has closed the session, or `Q` holds of the replies to some messages and of the
session after them. -/
def Peer.Answers (P : Peer) (st : P.State) (fs : List Frontend)
    (Q : List RawMessage → Session → Prop) : Prop :=
  (P.session (P.feed st fs).2).mode = .closed ∨
    Q (core (P.feed st fs).1) (P.session (P.feed st fs).2)

/-- A closed session stays closed and silent. -/
theorem respond_closed {st : P.State} (f : Frontend) (hm : (P.session st).mode = .closed) :
    core (P.respond st f).1 = [] ∧ (P.session (P.respond st f).2).mode = .closed := by
  obtain ⟨hr, hs⟩ := (P.conforms st f).of_closed hm
  exact ⟨hr, by rw [hs, hm]⟩

/-- A closed session stays closed and silent over any messages. -/
theorem feed_closed {st : P.State} (fs : List Frontend) (hm : (P.session st).mode = .closed) :
    core (P.feed st fs).1 = [] ∧ (P.session (P.feed st fs).2).mode = .closed := by
  induction fs generalizing st with
  | nil => exact ⟨rfl, hm⟩
  | cons f fs ih =>
    have h := respond_closed f hm
    have hs := ih h.2
    rw [P.feed_cons, core_append, h.1, hs.1]
    exact ⟨rfl, hs.2⟩

/-- One message answered, and the rest answered from there. -/
theorem Peer.Answers.cons {st : P.State} {f : Frontend} {fs : List Frontend}
    {Q : List RawMessage → Session → Prop}
    (h : (P.session (P.respond st f).2).mode = .closed ∨
      P.Answers (P.respond st f).2 fs fun r s => Q (core (P.respond st f).1 ++ r) s) :
    P.Answers st (f :: fs) Q := by
  unfold Peer.Answers at h ⊢
  rw [P.feed_cons, core_append]
  rcases h with h | h | h
  · exact .inl (feed_closed fs h).2
  · exact .inl h
  · exact .inr h

/-- A server that discards messages is silent over those of the extended protocol. -/
theorem feed_skipping {st : P.State} {fs : List Frontend}
    (hm : (P.session st).mode = .skipping) (hf : ∀ f ∈ fs, f.isExtended = true) :
    P.Answers st fs fun r s => r = [] ∧ s.mode = .skipping := by
  induction fs generalizing st with
  | nil => exact .inr ⟨rfl, hm⟩
  | cons f fs ih =>
    have hext := hf f (by simp)
    have hsplit : (P.session (P.respond st f).2).mode = .closed ∨
        core (P.respond st f).1 = [] ∧ (P.session (P.respond st f).2).mode = .skipping :=
      ((P.conforms st f).of_skipping hm hext).imp_right fun h => ⟨h.1, by rw [h.2, hm]⟩
    refine .cons (hsplit.imp_right fun h => ?_)
    rw [h.1]
    exact ih h.2 fun g hg => hf g (List.mem_cons_of_mem f hg)

/-- An extended-protocol message other than Execute succeeds, or fails after part of its
reply. -/
theorem respond_extended {st : P.State} {f : Frontend} (hm : (P.session st).mode = .ready)
    (hf : f.isExtended = true) (hne : ∀ portal maxRows, f ≠ .execute portal maxRows) :
    (P.session (P.respond st f).2).mode = .closed ∨
      (∃ part e m, Partial (P.session st) f part ∧ IsError e m ∧ e.isFatal = false ∧
        core (P.respond st f).1 = part ++ [m] ∧
        (P.session (P.respond st f).2).mode = .skipping) ∨
      Success P.effect (P.session st) f (core (P.respond st f).1)
        (P.session (P.respond st f).2) := by
  have h := P.conforms st f
  generalize core (P.respond st f).1 = r at h ⊢
  generalize P.session (P.respond st f).2 = s' at h ⊢
  cases h with
  | success _ h => exact .inr (.inr h)
  | error _ _ hpart he hfatal _ => exact .inr (.inl ⟨_, _, _, hpart, he, hfatal, rfl, rfl⟩)
  | fatal => exact .inl rfl
  | executeCopy => exact absurd rfl (hne _ _)
  | discard h | discardFatal h | copying h | closed h => cases hm.symm.trans h
  | _ => cases hf

/-- What the server owes for the rest of an operation whose reply is read from `stage` on. -/
def Peer.AnswersFrom (P : Peer) (st : P.State) (fs : List Frontend) (stage : Stage) : Prop :=
  P.Answers st fs fun r s => ∃ fate, Reading stage fate r ∧ s.mode = modeOf fate.skipping

/-- After an error the rest of the operation is discarded. -/
theorem answersFrom_error {st : P.State} {f : Frontend} {fs : List Frontend} {stage : Stage}
    {e : ServerError} {m : RawMessage} (he : IsError e m) (hfatal : e.isFatal = false)
    (hr : core (P.respond st f).1 = [m])
    (hm : (P.session (P.respond st f).2).mode = .skipping)
    (hf : ∀ g ∈ fs, g.isExtended = true) : P.AnswersFrom st (f :: fs) stage := by
  refine .cons (.inr ((feed_skipping hm hf).imp_right fun h => ?_))
  rw [hr, h.1]
  exact ⟨_, .error he hfatal, h.2⟩

/-- The statement of the unnamed portal after a Bind that succeeds. -/
theorem respond_bind {st : P.State} {name : String} {formats : List FormatCode} {count : Nat}
    {values : Bytes} (hm : (P.session st).mode = .ready) :
    (P.session (P.respond st (.bind "" name formats count values)).2).mode = .closed ∨
      (∃ e m, IsError e m ∧ e.isFatal = false ∧
        core (P.respond st (.bind "" name formats count values)).1 = [m] ∧
        (P.session (P.respond st (.bind "" name formats count values)).2).mode = .skipping) ∨
      ∃ m stmt, Is .bindComplete m ∧
        core (P.respond st (.bind "" name formats count values)).1 = [m] ∧
        (P.session (P.respond st (.bind "" name formats count values)).2).mode = .ready ∧
        (P.session (P.respond st (.bind "" name formats count values)).2).portals "" =
          some stmt := by
  refine (respond_extended hm (f := .bind "" name formats count values) rfl
    (by simp)).imp_right fun h => h.imp ?_ fun h => ?_
  · rintro ⟨part, e, m, hpart, he, hfatal, hr, hskip⟩
    cases hpart
    exact ⟨e, m, he, hfatal, hr, hskip⟩
  · generalize core (P.respond st (.bind "" name formats count values)).1 = r at h ⊢
    generalize P.session (P.respond st (.bind "" name formats count values)).2 = s' at h ⊢
    cases h with
    | @bind _ _ _ _ _ _ stmt _ hb => exact ⟨_, stmt, hb, rfl, hm, by simp⟩

variable (hP : P.NoCopy)
include hP

/-- The reply to the Execute of a portal whose statement is known. -/
theorem feed_execute {st : P.State} {stmt : Statement} (columns : Option Bytes)
    (hm : (P.session st).mode = .ready) (hp : (P.session st).portals "" = some stmt) :
    P.AnswersFrom st [.execute "" 0] (.rows columns stmt.returnsRows) := by
  unfold Peer.AnswersFrom Peer.Answers
  rw [P.feed_cons, P.feed_nil, List.append_nil]
  dsimp only
  have hcopy := hP st (.execute "" 0) (by rw [hm]; decide)
  have h := P.conforms st (.execute "" 0)
  generalize core (P.respond st (.execute "" 0)).1 = r at h ⊢
  generalize P.session (P.respond st (.execute "" 0)).2 = s' at h hcopy ⊢
  generalize hs : P.session st = s at h hm hp
  cases h with
  | success _ hsucc =>
    cases hsucc with
    | complete hstmt hrows _ hc =>
      rw [hp] at hstmt
      cases hstmt
      exact .inr ⟨_, reading_rows hrows (.complete hc), (s.completed_mode _ _).trans hm⟩
    | suspend _ _ _ hmax _ => exact absurd rfl hmax
    | emptyQuery hstmt hret hi =>
      rw [hp] at hstmt
      cases hstmt
      rw [hret]
      exact .inr ⟨_, .empty hi, hm⟩
  | @error _ rows _ _ _ _ _ hpart he hf _ =>
    have hrows : IsRows stmt.returnsRows rows := by
      cases hpart with
      | nil => exact ⟨by simp, fun _ => rfl⟩
      | execute hstmt hrows =>
        rw [hp] at hstmt
        cases hstmt
        exact hrows
    exact .inr ⟨_, reading_rows hrows (.error he hf), rfl⟩
  | fatal => exact .inl rfl
  | executeCopy _ _ hcopying => exact absurd hcopying hcopy
  | discard h | discardFatal h | copying h | closed h => cases hm.symm.trans h

/-- The reply to the Describe and Execute of a portal whose statement is known. -/
theorem feed_describe {st : P.State} {stmt : Statement}
    (hm : (P.session st).mode = .ready) (hp : (P.session st).portals "" = some stmt) :
    P.AnswersFrom st [.describePortal "", .execute "" 0] .describe := by
  rcases respond_extended hm (f := .describePortal "") rfl (by simp) with h | h | h
  · exact .cons (.inl h)
  · obtain ⟨part, e, m, hpart, he, hfatal, hr, hskip⟩ := h
    cases hpart
    exact answersFrom_error he hfatal hr hskip (by simp [Frontend.isExtended])
  · refine .cons (.inr ?_)
    generalize hs : P.session (P.respond st (.describePortal "")).2 = s' at h
    generalize core (P.respond st (.describePortal "")).1 = r at h ⊢
    cases h with
    | @describePortal _ stmt' c hstmt hc =>
      rw [hp] at hstmt
      cases hstmt
      rw [← hs] at hm hp
      cases hret : stmt.returnsRows with
      | true =>
        rw [IsColumns, hret] at hc
        refine (feed_execute hP (some c.payload) hm hp).imp_right fun ⟨fate, hread, hmode⟩ => ?_
        rw [hret] at hread
        exact ⟨fate, .columns hc hread, hmode⟩
      | false =>
        rw [IsColumns, hret] at hc
        refine (feed_execute hP none hm hp).imp_right fun ⟨fate, hread, hmode⟩ => ?_
        rw [hret] at hread
        exact ⟨fate, .noData hc hread, hmode⟩

/-- A conformant server answers a queued operation with a reply that can be read through. -/
theorem feed_op {st : P.State} {kind : OpKind} {fs : List Frontend}
    (hm : (P.session st).mode = .ready) (hf : OpFrames kind fs) :
    P.AnswersFrom st fs kind.first := by
  cases hf with
  | prepared =>
    rcases respond_bind hm with h | ⟨e, m, he, hfatal, hr, hskip⟩ | ⟨m, stmt, hb, hr, hm', hp⟩
    · exact .cons (.inl h)
    · exact answersFrom_error he hfatal hr hskip (by simp [Frontend.isExtended])
    · refine .cons (.inr ((feed_execute hP none hm' hp).imp_right fun ⟨fate, hread, hmode⟩ => ?_))
      rw [hr]
      exact ⟨fate, .bindCached _ hb hread, hmode⟩
  | @sql sql oids formats count values =>
    rcases respond_extended hm (f := .parse "" sql oids) rfl (by simp) with h | h | h
    · exact .cons (.inl h)
    · obtain ⟨part, e, m, hpart, he, hfatal, hr, hskip⟩ := h
      cases hpart
      exact answersFrom_error he hfatal hr hskip (by simp [Frontend.isExtended])
    · refine .cons (.inr ?_)
      generalize hs : P.session (P.respond st (.parse "" sql oids)).2 = s' at h
      generalize core (P.respond st (.parse "" sql oids)).1 = r at h ⊢
      cases h with
      | @parse _ _ _ p _ hparse =>
        have hm₁ : (P.session (P.respond st (.parse "" sql oids)).2).mode = .ready := by
          rw [hs]
          exact hm
        rcases respond_bind hm₁
          with h | ⟨e, m, he, hfatal, hr, hskip⟩ | ⟨m, stmt, hb, hr, hm₂, hp⟩
        · exact .cons (.inl h)
        · have herr : P.AnswersFrom (P.respond st (.parse "" sql oids)).2
              (.bind "" "" formats count values :: [.describePortal "", .execute "" 0])
              (.bind true) :=
            answersFrom_error he hfatal hr hskip (by simp [Frontend.isExtended])
          exact herr.imp_right fun ⟨fate, hread, hmode⟩ => ⟨fate, .parse hparse hread, hmode⟩
        · refine .cons (.inr ((feed_describe hP hm₂ hp).imp_right
            fun ⟨fate, hread, hmode⟩ => ?_))
          rw [hr]
          exact ⟨fate, .parse hparse (.bindDescribed hb hread), hmode⟩

/-- A conformant server owes a queue of operations one reply each, up to the first that
fails. -/
theorem feed_queue {st : P.State} {kinds : List OpKind} {fs : List Frontend} {s : Bool}
    (hm : (P.session st).mode = modeOf s) (hf : QueueFrames kinds fs) :
    P.Answers st fs fun r s' => ∃ items t, items.map Item.kind? = kinds.map some ∧
      Owes s items r t ∧ Serves (P.exchanges st fs) items ∧ s'.mode = modeOf t := by
  induction hf generalizing st s with
  | nil => exact .inr ⟨[], s, rfl, .nil, .nil, hm⟩
  | @cons kind fs kinds gs ho _ ih =>
    have hone : P.Answers st fs fun r s' => ∃ fate, Owes s [.op kind fate] r fate.skipping ∧
        Fate.ofReply r = fate ∧ s'.mode = modeOf fate.skipping := by
      cases s with
      | true =>
        exact (feed_skipping hm ho.isExtended).imp_right fun h =>
          ⟨.skipped, by rw [h.1]; exact .skipped .nil, by rw [h.1]; rfl, h.2⟩
      | false =>
        refine (feed_op hP hm ho).imp_right fun ⟨fate, hread, hmode⟩ =>
          ⟨fate, ?_, hread.ofReply, hmode⟩
        simpa using Owes.op hread .nil
    unfold Peer.Answers at hone ih ⊢
    rw [P.feed_append, core_append, P.exchanges_append]
    rcases hone with hc | ⟨fate, howes, rfl, hmode⟩
    · exact .inl (feed_closed gs hc).2
    · refine (ih hmode).imp_right fun ⟨items, t, hitems, h, hs, hend⟩ =>
        ⟨_, t, ?_, howes.append h, (ho.serves st).append hs, hend⟩
      simp [Item.kind?, hitems]

/-- A server that starts no COPY closes the session at a malformed message. -/
theorem feed_malformed {st : P.State} {fs : List Frontend}
    (hm : (P.session st).mode ≠ .copying) (hf : ∃ portal name, .bindHead portal name ∈ fs) :
    (P.session (P.feed st fs).2).mode = .closed := by
  obtain ⟨portal, name, hf⟩ := hf
  induction fs generalizing st with
  | nil => cases hf
  | cons f fs ih =>
    rw [P.feed_cons]
    rcases List.mem_cons.mp hf with rfl | hf
    · exact (feed_closed fs ((P.conforms st (.bindHead portal name)).of_bindHead hm)).2
    · exact ih (hP st f hm) hf

omit hP in
/-- A conformant server owes one ReadyForQuery for a Sync, with an error before it if it had
none to discard messages after. -/
theorem respond_sync {st : P.State} {s : Bool} (hm : (P.session st).mode = modeOf s) :
    (P.session (P.respond st .sync).2).mode = .closed ∨
      ∃ error, Owes s [.sync error] (core (P.respond st .sync).1) false ∧
        Serves (P.exchanges st [.sync]) [.sync error] ∧
        (P.session (P.respond st .sync).2).mode = .ready := by
  have hs (error : Option ServerError)
      (herr : (core (P.respond st .sync).1).findSome? (·.toError?) = error) :
      Serves (P.exchanges st [.sync]) [.sync error] := by
    intro log'
    simp [served, servedFrom, Peer.exchanges, herr]
  have h := P.conforms st .sync
  generalize core (P.respond st .sync).1 = r at h hs ⊢
  generalize P.session (P.respond st .sync).2 = s' at h ⊢
  cases h with
  | sync _ hz =>
    exact .inr ⟨none, .sync hz .nil, hs _ (by simp [toError_of_isReady hz]), ‹_›⟩
  | syncError hr he hf hz =>
    cases s with
    | true => rw [hr] at hm; cases hm
    | false =>
      exact .inr ⟨_, .syncError he hf hz .nil, hs _ (by simp [toError_of_isError he]), hr⟩
  | syncFatal => exact .inl rfl
  | resync _ hz => exact .inr ⟨none, .sync hz .nil, hs _ (by simp [toError_of_isReady hz]), rfl⟩
  | discardFatal => exact .inl rfl
  | success _ h => cases h
  | discard _ h => rcases h with h | ⟨_, h⟩ <;> cases h
  | closed h => rw [hm] at h; cases s <;> cases h
  | copying h => rw [hm] at h; cases s <;> cases h
  | error _ h => cases h
  | fatal _ h => cases h

omit hP in
/-- The log of a Flush says nothing of operations. -/
theorem serves_flush (st : P.State) : Serves (P.exchanges st [.flush]) [] := fun _ => rfl

omit hP in
/-- A Flush is answered by nothing. -/
theorem respond_flush {st : P.State} {s : Bool} (hm : (P.session st).mode = modeOf s) :
    (P.session (P.respond st .flush).2).mode = .closed ∨
      core (P.respond st .flush).1 = [] ∧ (P.session (P.respond st .flush).2).mode = modeOf s := by
  have h := P.conforms st .flush
  generalize core (P.respond st .flush).1 = r at h ⊢
  generalize P.session (P.respond st .flush).2 = s' at h ⊢
  cases h with
  | flush => exact .inr ⟨rfl, hm⟩
  | discardFatal => exact .inl rfl
  | success _ h => cases h
  | discard _ h => rcases h with h | ⟨_, h⟩ <;> cases h
  | closed h => rw [hm] at h; cases s <;> cases h
  | copying h => rw [hm] at h; cases s <;> cases h
  | error _ h => cases h
  | fatal _ h => cases h

end Feed

end ZeroPostgres
