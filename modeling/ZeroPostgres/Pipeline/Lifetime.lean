import ZeroPostgres.Conn.Cancellation
import ZeroPostgres.Pipeline.Alignment

/-!
# The life of an asynchronous connection

Calls and pipelines on one connection, in any order and number. A call is dropped at any await
point or completes, and a program parts with a pipeline as it likes: it cleans up, drops the handle
or leaks it. `lifetime_disciplined` says that a connection that is not broken is then aligned, and
that a broken one refuses whatever comes next and sends nothing.
-/

namespace ZeroPostgres

variable {P : Peer}

namespace Tokio

open ZeroPostgres.Conn (Talked)

/-! ### What a program does with a connection -/

/-- How a program parts with a pipeline: cleanup, whose future may be dropped, and the drop of the
handle behind it; the drop alone, as when the future of the closure is dropped; or neither, when the
handle is leaked. -/
inductive Parting where
  | cleanup (cut : Option Cut)
  | drop
  | leak

/-- A stretch of work on a connection: a call, or a pipeline from its creation on. The handle of the
low-level API is one from `Pipeline::new`. -/
inductive Stint where
  | operation (call : Call)
  | pipeline (calls : List PipelineCall) (parting : Parting)
  | lowlevelPipeline (calls : List PipelineCall) (parting : Parting)

namespace Pipeline

/-- The connection behind the pipeline. -/
def part : Parting → Pipeline P → Conn P
  | .cleanup cut, p => drop (dropping cut cleanup p).2
  | .drop, p => drop p
  | .leak, p => p.conn

/-- A pipeline from its creation to its end. -/
def live (calls : List PipelineCall) (parting : Parting) (c : Conn P) : Conn P :=
  part parting (afterCalls calls (new c))

end Pipeline

/-- What a stint does to a connection. `pipeline`, `src/src/tokio/conn.rs:1354–1363`, refuses a
broken connection before it makes the handle. -/
def Stint.run : Stint → Conn P → Conn P
  | .operation call, c => (call.run c).2
  | .pipeline calls parting, c => if c.isBroken then c else Pipeline.live calls parting c
  | .lowlevelPipeline calls parting, c => Pipeline.live calls parting c

/-- The connection after some stints. -/
def afterStints (c : Conn P) (stints : List Stint) : Conn P :=
  stints.foldl (fun c stint => stint.run c) c

/-- No claim of the stint pops a Sync that was queued behind a failed operation. -/
def Stint.Orderly (c : Conn P) : Stint → Prop
  | .operation _ => True
  | .pipeline calls _ | .lowlevelPipeline calls _ =>
    Pipeline.EveryCall (fun p call => ¬ Pipeline.PopsSync p call) calls (Pipeline.new c)

instance (c : Conn P) : ∀ stint : Stint, Decidable (stint.Orderly c)
  | .operation _ => inferInstanceAs (Decidable True)
  | .pipeline calls _ | .lowlevelPipeline calls _ => inferInstanceAs
      (Decidable (Pipeline.EveryCall (fun p call => ¬ Pipeline.PopsSync p call) calls
        (Pipeline.new c)))

/-- No claim does in any of the stints. -/
def Orderly : List Stint → Conn P → Prop
  | [], _ => True
  | stint :: stints, c => stint.Orderly c ∧ Orderly stints (stint.run c)

instance Orderly.decidable : ∀ (stints : List Stint) (c : Conn P), Decidable (Orderly stints c)
  | [], _ => .isTrue trivial
  | stint :: stints, c =>
    have := Orderly.decidable stints (stint.run c)
    inferInstanceAs (Decidable (stint.Orderly c ∧ Orderly stints (stint.run c)))

/-! ### A broken connection -/

namespace Pipeline

variable {p : Pipeline P}

/-- A handle on a broken connection is not ready for an exchange. -/
theorem new_not_ready {c : Conn P} (hb : c.isBroken = true) :
    (new c).conn.exchangeReady = false ∧ (new c).conn.broken = true ∧
      (new c).conn.stream = c.stream := by
  simp [new, hb, Conn.exchangeReady, Driver.exchangeReady]

/-- Where no exchange is possible a call changes nothing, wherever it is dropped. -/
theorem runCall_refused (hr : p.conn.exchangeReady = false) (call : PipelineCall) :
    runCall call p = (some (.error .connectionBroken), setCut none p) := by
  have hcut : (setCut call.cut p).conn.exchangeReady = false := hr
  have hrun := call_not_ready hcut call
  unfold runCall dropping
  rw [hrun]
  rfl

/-- Every call on such a handle is refused, and the handle stays as it is. -/
theorem results_not_ready (hr : p.conn.exchangeReady = false) (calls : List PipelineCall) :
    ∀ r ∈ results calls p, r = some (.error .connectionBroken) := by
  induction calls generalizing p with
  | nil => simp [results]
  | cons call calls ih =>
    have hnext : (runCall call p).2.conn.exchangeReady = false := by
      rw [runCall_refused hr]
      exact hr
    intro r hmem
    rcases List.mem_cons.mp hmem with rfl | hmem
    · rw [runCall_refused hr]
    · exact ih hnext r hmem

theorem afterCalls_not_ready (hr : p.conn.exchangeReady = false) (calls : List PipelineCall) :
    (afterCalls calls p).conn.broken = p.conn.broken ∧
      (afterCalls calls p).conn.exchangeReady = false ∧
      (afterCalls calls p).conn.stream.log = p.conn.stream.log := by
  induction calls generalizing p with
  | nil => exact ⟨rfl, hr, rfl⟩
  | cons call calls ih =>
    have hrun := runCall_refused hr call
    have hnext : (runCall call p).2.conn.exchangeReady = false := by
      rw [hrun]
      exact hr
    have hsnd : (runCall call p).2 = setCut none p := congrArg Prod.snd hrun
    obtain ⟨hbroken, hready, hlog⟩ := ih hnext
    refine ⟨hbroken.trans ?_, hready, hlog.trans ?_⟩
    · rw [hsnd]
      rfl
    · rw [hsnd]
      rfl

theorem cleanup_not_ready (hr : p.conn.exchangeReady = false) : (cleanup p).2 = p := by
  simp [cleanup, Act.bind_run, hr]

/-- The drop leaves the stream alone. -/
theorem stream_drop (p : Pipeline P) : (drop p).stream = p.conn.stream := by
  unfold drop
  split <;> rfl

/-- A broken connection comes back broken from a pipeline, which has sent nothing. -/
theorem live_sealed {c : Conn P} (hb : c.isBroken = true) (calls : List PipelineCall)
    (parting : Parting) :
    (live calls parting c).isBroken = true ∧ (live calls parting c).stream.log = c.stream.log := by
  obtain ⟨hr, hbroken, hstream⟩ := new_not_ready hb
  obtain ⟨hbroken', hr', hlog⟩ := afterCalls_not_ready hr calls
  rw [hbroken] at hbroken'
  rw [hstream] at hlog
  unfold live
  generalize afterCalls calls (new c) = p at hbroken' hr' hlog ⊢
  cases parting with
  | cleanup cut =>
    have hsame : (dropping cut cleanup p).2 = setCut none p := by
      have hcut : (setCut cut p).conn.exchangeReady = false := hr'
      change setCut none (cleanup (setCut cut p)).2 = _
      rw [cleanup_not_ready hcut]
      rfl
    refine ⟨?_, ?_⟩
    · rw [part, hsame, drop_isBroken]
      simp [setCut, hbroken']
    · rw [part, hsame, stream_drop]
      exact hlog
  | drop =>
    refine ⟨?_, ?_⟩
    · rw [part, drop_isBroken, hbroken']
      rfl
    · rw [part, stream_drop]
      exact hlog
  | leak =>
    refine ⟨?_, hlog⟩
    simp [part, Conn.isBroken, Driver.isBroken, hbroken']

end Pipeline

theorem Stint.run_sealed {c : Conn P} (hb : c.isBroken = true) (stint : Stint) :
    (stint.run c).isBroken = true ∧ (stint.run c).stream.log = c.stream.log := by
  cases stint with
  | operation call => exact (withCut_sealed call.operation.run_sealed call.cut).rel c hb
  | pipeline calls parting =>
    rw [run, if_pos hb]
    exact ⟨hb, rfl⟩
  | lowlevelPipeline calls parting => exact Pipeline.live_sealed hb calls parting

theorem afterStints_sealed {c : Conn P} (hb : c.isBroken = true) (stints : List Stint) :
    (afterStints c stints).isBroken = true ∧ (afterStints c stints).stream.log = c.stream.log := by
  induction stints generalizing c with
  | nil => exact ⟨hb, rfl⟩
  | cons stint stints ih =>
    obtain ⟨hb', hlog⟩ := stint.run_sealed hb
    obtain ⟨hb'', hlog'⟩ := ih hb'
    exact ⟨hb'', hlog'.trans hlog⟩

/-! ### A connection that is not broken -/

/-- A connection that is not broken is aligned, unless the server has closed the session. -/
def Disciplined (c : Conn P) : Prop :=
  c.isBroken = false → c.session.mode ≠ .closed → c.Aligned

theorem Call.run_closed {c : Conn P} (hc : c.session.mode = .closed) (call : Call) :
    (call.run c).2.session.mode = .closed := by
  obtain ⟨sent, read, htalked⟩ :=
    (ZeroPostgres.Conn.withCut_talks call.operation.run_talks call.cut).rel c
  have hfollows : c.stream.Follows (call.run c).2.stream := ⟨sent, htalked.peer, htalked.log⟩
  exact hfollows.closed hc

theorem Call.run_disciplined {c : Conn P} (h : Disciplined c) (call : Call) :
    Disciplined (call.run c).2 := by
  intro hb' hopen'
  cases hb : c.isBroken with
  | true =>
    have hsealed := (Stint.operation call).run_sealed hb
    exact absurd (hsealed.1.symm.trans hb') (by decide)
  | false =>
    have hopen : c.session.mode ≠ .closed := fun hc => hopen' (call.run_closed hc)
    obtain ⟨hu, hready⟩ := h hb hopen
    have htidy := (Call.run_keeps (R := Tidies) call).rel c fun _ => ⟨hu, .inl hready⟩
    obtain ⟨hu', hmode'⟩ := htidy (ready_of_not_broken hb')
    exact ⟨hu', hmode'.resolve_right hopen'⟩

namespace Pipeline

variable {start : List (Frontend × List RawMessage)} {p : Pipeline P}

/-- Between calls, a pipeline that nothing is expected of has an aligned connection. -/
theorem Sound.disciplined (h : Sound start p) (hopen : p.conn.session.mode ≠ .closed)
    (hbroken : p.conn.isBroken = false) : p.conn.Aligned := by
  simp only [Conn.isBroken, Driver.isBroken, Bool.or_eq_false_iff] at hbroken
  obtain ⟨⟨hunbroken, hidle⟩, hscope⟩ := hbroken
  rcases h with (hclosed | hr) | ⟨past, items, kinds, t, ha, -⟩
  · exact absurd hclosed hopen
  · simp [Conn.exchangeReady, Driver.exchangeReady, hunbroken, hidle] at hr
  · obtain ⟨rfl, haborted⟩ := ha.scope hscope
    obtain ⟨hunread, ht⟩ := ha.owes.of_nil
    refine ⟨hunread, ?_⟩
    rw [ha.mode, ht, haborted]
    rfl

/-- A pipeline comes back from cleanup with an aligned connection or one that says that it is
broken. -/
theorem cleanup_disciplined (hP : P.NoCopy) (h : Sound start p) :
    Act.Meets cleanup p fun _ p' => p'.conn.session.mode ≠ .closed → p'.conn.isBroken = false →
      p'.conn.Aligned := by
  rcases h with (hclosed | hr) | ⟨past, items, kinds, t, ha, hb⟩
  · exact fun hopen => absurd ((cleanup_follows.rel p).closed hclosed) hopen
  · have hsame := cleanup_not_ready hr
    rw [Act.Meets, hsame]
    have hsound : Sound start p := .inl (.inr hr)
    exact hsound.disciplined
  · refine (cleanup_meets hP ha hb).mono fun o p' hpost hopen hbroken => ?_
    simp only [Conn.isBroken, Driver.isBroken, Bool.or_eq_false_iff] at hbroken
    obtain ⟨⟨-, hidle⟩, hscope⟩ := hbroken
    rcases hpost with hclosed | hhalt | hd
    · exact absurd hclosed hopen
    · exact absurd (hidle.symm.trans hhalt.1) (by decide)
    · exact ⟨hd.1.unread, hd.1.mode hscope⟩

theorem disciplined_drop
    (h : p.conn.session.mode ≠ .closed → p.conn.isBroken = false → p.conn.Aligned) :
    Disciplined (drop p) := by
  intro hbroken hopen
  rw [drop_isBroken] at hbroken
  rw [Conn.session, stream_drop] at hopen
  rw [Conn.Aligned, Conn.unread, Conn.session, stream_drop]
  exact h hopen hbroken

theorem live_disciplined (hP : P.NoCopy) {c : Conn P} (h : Disciplined c)
    {calls : List PipelineCall}
    (hcalls : EveryCall (fun p call => ¬ PopsSync p call) calls (new c)) (parting : Parting) :
    Disciplined (live calls parting c) := by
  have hnew : Sound c.stream.log (new c) := by
    by_cases hclosed : c.session.mode = .closed
    · refine .inl (.inl ?_)
      unfold ZeroPostgres.Pipeline.Closed new
      split <;> exact hclosed
    · exact new_sound fun hb => h hb hclosed
  have hs : Sound c.stream.log (afterCalls calls (new c)) := afterCalls_sound hP hnew hcalls
  unfold live
  generalize afterCalls calls (new c) = p at hs
  cases parting with
  | cleanup cut =>
    have hclean := (cleanup_disciplined hP (hs.setCut cut)).at
    exact disciplined_drop (p := setCut none (cleanup (setCut cut p)).2) hclean
  | drop => exact disciplined_drop hs.disciplined
  | leak => exact fun hbroken hopen => hs.disciplined hopen hbroken

end Pipeline

/-! ### Whole lives -/

/-- The step lemma. -/
theorem Stint.run_disciplined (hP : P.NoCopy) {c : Conn P} (h : Disciplined c) {stint : Stint}
    (ho : stint.Orderly c) : Disciplined (stint.run c) := by
  cases stint with
  | operation call => exact call.run_disciplined h
  | pipeline calls parting =>
    rw [run]
    split
    · exact h
    · exact Pipeline.live_disciplined hP h ho parting
  | lowlevelPipeline calls parting => exact Pipeline.live_disciplined hP h ho parting

/-- The run lemma. -/
theorem afterStints_disciplined (hP : P.NoCopy) {c : Conn P} (h : Disciplined c)
    {stints : List Stint} (ho : Orderly stints c) : Disciplined (afterStints c stints) := by
  induction stints generalizing c with
  | nil => exact h
  | cons stint stints ih => exact ih (stint.run_disciplined hP h ho.1) ho.2

/-- After any calls and pipelines, dropped at any await points, cleaned up or leaked, on a
connection that the startup exchange has left aligned: while it is not broken and the server has not
closed the session, it is aligned, and what the next call reads answers that call. Once it is broken
it stays so, whatever comes next: nothing is sent, every call and every call of a pipeline is
refused. -/
theorem lifetime_disciplined (hP : P.NoCopy) {c₀ : Conn P} (ha : c₀.Aligned)
    {stints : List Stint} (ho : Orderly stints c₀) (more : List Stint) :
    let c := afterStints c₀ stints
    let c' := afterStints c more
    (c.isBroken = false → c.session.mode ≠ .closed → c.Aligned ∧
      ∀ call : Call, ∃ sent read, Talked sent read c (call.run c).2 ∧
        core (P.feed c.stream.peer sent).1 = core read ++ (call.run c).2.unread) ∧
    (c.isBroken = true → c'.isBroken = true ∧ c'.stream.log = c.stream.log ∧
      (∀ call : Call, call.operation.isCall = true → ∃ e, (call.run c').1 = .err e) ∧
      ∀ calls, ∀ r ∈ Pipeline.results calls (Pipeline.new c'),
        r = some (.error .connectionBroken)) := by
  intro c c'
  refine ⟨fun hb hopen => ?_, fun hb => ?_⟩
  · have haligned : c.Aligned := afterStints_disciplined hP (fun _ _ => ha) ho hb hopen
    refine ⟨haligned, fun call => ?_⟩
    obtain ⟨sent, read, htalked⟩ :=
      (ZeroPostgres.Conn.withCut_talks call.operation.run_talks call.cut).rel c
    exact ⟨sent, read, htalked, htalked.answers_own haligned.1⟩
  · obtain ⟨hb', hlog⟩ := afterStints_sealed hb more
    refine ⟨hb', hlog, fun call hcall => call_refused hb' hcall, fun calls => ?_⟩
    exact Pipeline.results_not_ready (Pipeline.new_not_ready hb').1 calls

/-- A query, a pipeline that is cleaned up with an operation unclaimed, and one that is leaked with
its reply on the way. -/
def abandoning : List Stint :=
  [.operation ⟨.query "SELECT" DropHandler, none⟩,
    .pipeline [.exec (.sql "SELECT") .none, .exec (.sql "FAIL") .none, .sync none,
      .claim none ⟨0, none⟩ DropHandler] (.cleanup none),
    .pipeline [.exec (.sql "SELECT") .none, .flush none] .leak]

theorem lifetime_disciplined_abandoning :
    (afterStints connected (abandoning.take 2)).isBroken = false ∧
    (afterStints connected (abandoning.take 2)).Aligned ∧
    (afterStints connected abandoning).unread ≠ [] ∧
    (afterStints (afterStints connected abandoning) abandoning).isBroken = true ∧
    (afterStints (afterStints connected abandoning) abandoning).stream.log =
      (afterStints connected abandoning).stream.log := by
  have aligned : connected.Aligned := by decide +kernel
  have whole : (afterStints connected (abandoning.take 2)).isBroken = false := by decide +kernel
  have leaked : (afterStints connected abandoning).isBroken = true := by decide +kernel
  have noCopy : SyncedRequest.rejectingFail.NoCopy := Reference.rejecting_noCopy _ _
  have kept := (lifetime_disciplined noCopy aligned
    (by decide +kernel : Orderly (abandoning.take 2) connected) []).1 whole (by decide +kernel)
  have sealed := (lifetime_disciplined noCopy aligned
    (by decide +kernel : Orderly abandoning connected) abandoning).2 leaked
  exact ⟨whole, kept.1, by decide +kernel, sealed.1, sealed.2.1⟩

end Tokio

end ZeroPostgres
