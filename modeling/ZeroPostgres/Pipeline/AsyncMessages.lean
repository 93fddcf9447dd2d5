import ZeroPostgres.Conn.AsyncMessages
import ZeroPostgres.Conn.SyncAlignment
import ZeroPostgres.Pipeline.TransactionStatus

/-!
# Which asynchronous messages reach the handler

A connection is used for operations and for pipelines. `attends` says which uses hand on the
asynchronous messages they read; the others pass over them: `asyncMessages_delivered` says of the
runs of both clients when none is lost.
-/

namespace ZeroPostgres

open Act

variable {P : Peer} {K : Type} {α : Type}

/-! ### Pipelines -/

namespace Conn

theorem receive_ignores (m : RawMessage) : Keeps Ignores (receive m : Act Error (Conn P K) Unit) :=
  Keeps.bind ⟨fun c => Unheard.ignores ⟨(awaitPoint_reads.rel c).talks,
    awaitPoint_sameHandler.rel c⟩⟩ fun _ => keeps_modify fun _ => ⟨[m], rfl, by simp [take]⟩

theorem starve_ignores : Keeps Ignores (starve : Act Error (Conn P K) α) :=
  ⟨fun c => Unheard.ignores ⟨(starve_reads.rel c).talks, starve_sameHandler.rel c⟩⟩

/-- A change that leaves alone what was read and what the handler was called with. -/
theorem Ignores.of_eq {c c' : Conn P K} (hr : c'.stream.received = c.stream.received)
    (hh : c'.asyncMessageHandler = c.asyncMessageHandler) : Ignores c c' :=
  ⟨[], by rw [hr, List.append_nil], by rw [hh]; simp⟩

theorem withCut_hears {x : Act Error (Conn P K) α} (h : Keeps Hears x) (cut : Option Cut) :
    Keeps Hears (withCut cut x) := by
  refine ⟨fun c => ?_⟩
  obtain ⟨read, ha⟩ := h.rel { c with stream := { c.stream with cut } }
  exact ⟨read, ha.received, ha.calls⟩

end Conn

namespace Pipeline

/-- The relation on pipelines. -/
def Ignores (p p' : Pipeline P K) : Prop := p.conn.Ignores p'.conn

theorem onConn_ignores {x : Act Error (Conn P K) α} (h : Keeps Conn.Ignores x) :
    Keeps Ignores (onConn x) := ⟨fun p => h.rel p.conn⟩

/-- A change of the pipeline that leaves alone what was read and what the handler was called
with. -/
theorem ignores_of_eq {p p' : Pipeline P K}
    (hr : p'.conn.stream.received = p.conn.stream.received)
    (hh : p'.conn.asyncMessageHandler = p.conn.asyncMessageHandler) : Ignores p p' := .of_eq hr hh

/-- What reacting to an error and keeping columns leave alone. -/
class HandlerPreserving (K : Type) [PipelineDriver K] : Prop extends StreamPreserving K where
  onServerError_handler : ∀ {P : Peer} (e : Error) (p : Pipeline P K),
    (PipelineDriver.onServerError e p).conn.asyncMessageHandler = p.conn.asyncMessageHandler
  saveColumns_handler : ∀ {P : Peer} (payload : Bytes) (p : Pipeline P K),
    (PipelineDriver.saveColumns payload p).conn.asyncMessageHandler = p.conn.asyncMessageHandler

instance : HandlerPreserving TokioFlags where
  onServerError_handler e p := by
    simp only [PipelineDriver.onServerError]
    split <;> rfl
  saveColumns_handler _ _ := rfl

instance : HandlerPreserving SyncFlags where
  onServerError_handler _ _ := rfl
  saveColumns_handler _ _ := rfl

instance [PipelineDriver K] [HandlerPreserving K] : KeptByCalls (Ignores (P := P) (K := K)) where
  refl _ := .of_eq rfl rfl
  trans _ _ _ h h' := IsTrans.trans (r := Conn.Ignores) _ _ _ h h'
  receive m := onConn_ignores (Conn.receive_ignores m)
  starve := onConn_ignores Conn.starve_ignores
  onServerError e p := ignores_of_eq (by rw [StreamPreserving.onServerError_stream])
    (HandlerPreserving.onServerError_handler e p)
  saveColumns payload p := ignores_of_eq (by rw [StreamPreserving.saveColumns_stream])
    (HandlerPreserving.saveColumns_handler payload p)
  onConn h := onConn_ignores (h.mono fun _ _ => Conn.Unheard.ignores)
  expectations _ _ := ignores_of_eq rfl rfl
  aborted _ _ := ignores_of_eq rfl rfl
  counters _ _ _ := ignores_of_eq rfl rfl

end Pipeline

/-! ### The asynchronous client -/

namespace Tokio

namespace Pipeline

open ZeroPostgres.Pipeline

/-- Dropped or not. -/
theorem dropping_ignores {x : Act Error (Pipeline P) α} (h : Keeps Ignores x) (cut : Option Cut)
    (p : Pipeline P) : Ignores p (dropping cut x p).2 := by
  obtain ⟨read, ha⟩ := h.rel (setCut cut p)
  exact ⟨read, ha.received, ha.calls⟩

theorem afterCalls_ignores (calls : List PipelineCall) (p : Pipeline P) :
    Ignores p (afterCalls calls p) := by
  induction calls generalizing p with
  | nil => exact Std.Refl.refl p
  | cons c calls ih =>
    exact IsTrans.trans _ _ _ (dropping_ignores (call_keeps c) c.cut p) (ih _)

/-- A pipeline hands no asynchronous message on. -/
theorem run_ignores (calls : List PipelineCall) (cleanupCut : Option Cut) (c : Conn P) :
    Conn.Ignores c (run calls cleanupCut c) := by
  have hnew : Conn.Ignores c (new c).conn := by
    unfold new
    split <;> exact .of_eq rfl rfl
  have hdrop (p : Pipeline P) : Conn.Ignores p.conn (drop p) := by
    unfold drop
    split <;> exact .of_eq rfl rfl
  have hcalls : Conn.Ignores c (afterCalls calls (new c)).conn :=
    IsTrans.trans _ _ _ hnew (afterCalls_ignores calls (new c))
  exact IsTrans.trans _ _ _ (IsTrans.trans _ _ _ hcalls
    (dropping_ignores (cleanup_keeps reset) cleanupCut _)) (hdrop _)

end Pipeline

namespace Use

/-- The use hands on the asynchronous messages it reads: it drives a query machine. -/
def attends : Use → Bool
  | .operation call => call.operation.drives
  | .pipeline .. => false

/-- A use, which ends when its future completes or is dropped. -/
def step (c : Conn P) (use : Use) : Option (Conn P) := some (use.run c)

theorem step_attentive : Conn.Attentive (step (P := P)) attends := by
  intro c use c' hstep
  cases hstep
  cases use with
  | operation call =>
    exact ⟨fun h => (Conn.withCut_hears (Operation.run_driven h) call.cut).rel c,
      fun h => ((Conn.withCut_unheard (Operation.run_unheard h) call.cut).rel c).ignores⟩
  | pipeline calls cleanupCut =>
    exact ⟨fun h => Bool.noConfusion h, fun _ => Pipeline.run_ignores calls cleanupCut c⟩

end Use

end Tokio

/-! ### The blocking client -/

namespace Sync

namespace Pipeline

open ZeroPostgres.Pipeline

theorem runCalls_keeps {R : Pipeline P → Pipeline P → Prop} [KeptByCalls R]
    (calls : List PipelineCall) : Keeps R (runCalls calls) := by
  induction calls with
  | nil => exact keeps_pure _
  | cons c calls ih => exact (call_keeps c).attempt.bind fun _ => ih.bind fun _ => keeps_pure _

end Pipeline

/-- `pipeline`, `src/src/sync/conn.rs:307–315`: the closure makes the calls. -/
def pipeline (calls : List PipelineCall) : Act Error (Conn P) Unit := fun c =>
  let r := (do let _ ← Pipeline.runCalls calls; Pipeline.cleanup) (Pipeline.new c)
  (r.1, r.2.conn)

theorem pipeline_ignores (calls : List PipelineCall) :
    Keeps Conn.Ignores (pipeline calls : Act Error (Conn P) Unit) := by
  have hlife : Keeps ZeroPostgres.Pipeline.Ignores
      (do let _ ← Pipeline.runCalls calls; Pipeline.cleanup : Act Error (Pipeline P) Unit) :=
    (Pipeline.runCalls_keeps calls).bind fun _ =>
      Pipeline.cleanup_keeps ZeroPostgres.Pipeline.reset
  refine ⟨fun c => ?_⟩
  have hnew : Conn.Ignores c (Pipeline.new c).conn := .of_eq rfl rfl
  exact IsTrans.trans _ _ _ hnew (hlife.rel (Pipeline.new c))

/-- What a connection is used for next. -/
inductive Use where
  | operation (op : Operation)
  | lowlevelFlush
  | lowlevelSync
  | lowlevelBind (portal statementName : String) (params : Params)
  | lowlevelExecute (portal : String) (maxRows : Nat) (handler : Handler)
  | lowlevelClosePortal (portal : String)
  | pipeline (calls : List PipelineCall)

namespace Use

/-- What the use does. -/
def run : Use → Act Error (Conn P) Unit
  | .operation op => op.run
  | .lowlevelFlush => ZeroPostgres.Conn.lowlevelFlush
  | .lowlevelSync => Sync.lowlevelSync
  | .lowlevelBind portal statementName params =>
    ZeroPostgres.Conn.lowlevelBind portal statementName params
  | .lowlevelExecute portal maxRows handler =>
    void (ZeroPostgres.Conn.lowlevelExecute portal maxRows handler)
  | .lowlevelClosePortal portal => ZeroPostgres.Conn.lowlevelClosePortal portal
  | .pipeline calls => Sync.pipeline calls

/-- The use hands on the asynchronous messages it reads: it drives a query machine. -/
def attends : Use → Bool
  | .operation op => op.drives
  | _ => false

/-- A use that returns. -/
def step (c : Conn P) (use : Use) : Option (Conn P) :=
  if (use.run c).1.returned then some (use.run c).2 else none

theorem run_ignores {use : Use} (h : use.attends = false) :
    Keeps Conn.Ignores (use.run : Act Error (Conn P) Unit) := by
  have ignores {x : Act Error (Conn P) Unit} (hx : Keeps Conn.Unheard x) : Keeps Conn.Ignores x :=
    hx.mono fun _ _ => Conn.Unheard.ignores
  cases use with
  | operation op => exact ignores (Operation.run_unheard h)
  | lowlevelFlush => exact ignores Conn.lowlevelFlush_unheard
  | lowlevelSync => exact ignores lowlevelSync_unheard
  | lowlevelBind portal name params => exact ignores (Conn.lowlevelBind_unheard ..)
  | lowlevelExecute portal maxRows handler =>
    exact ignores (Operation.void_keeps (Conn.lowlevelExecute_unheard ..))
  | lowlevelClosePortal portal => exact ignores (Conn.lowlevelClosePortal_unheard portal)
  | pipeline calls => exact pipeline_ignores calls

theorem run_hears {use : Use} (h : use.attends = true) :
    Keeps Conn.Hears (use.run : Act Error (Conn P) Unit) := by
  cases use with
  | operation op => exact Operation.run_driven (R := Conn.Hears) h
  | _ => cases h

theorem step_attentive : Conn.Attentive (step (P := P)) attends := by
  intro c use c' hstep
  unfold step at hstep
  split at hstep
  · cases hstep
    exact ⟨fun h => (run_hears h).rel c, fun h => (run_ignores h).rel c⟩
  · cases hstep

end Use

end Sync

/-! ### Both clients -/

/-- With a handler installed, after any use of any run of a client every asynchronous message read
along the run has been handed to the handler, once and in the order of arrival, exactly when no use
that does not drive a query machine has read one. -/
theorem asyncMessages_delivered (P : Peer) :
    (∀ (c : Sync.Conn P) (uses : List Sync.Use), c.asyncMessageHandler.isSome = true →
      ((∀ n c', runSteps Sync.Use.step c (uses.take n) = some c' → c.Hears c') ↔
        Always Sync.Use.step (Conn.Undisturbed Sync.Use.step Sync.Use.attends) c uses)) ∧
    (∀ (c : Tokio.Conn P) (uses : List Tokio.Use), c.asyncMessageHandler.isSome = true →
      ((∀ n c', runSteps Tokio.Use.step c (uses.take n) = some c' → c.Hears c') ↔
        Always Tokio.Use.step (Conn.Undisturbed Tokio.Use.step Tokio.Use.attends) c uses)) :=
  ⟨fun _ uses hc => Conn.hears_iff Sync.Use.step_attentive hc uses,
    fun _ uses hc => Conn.hears_iff Tokio.Use.step_attentive hc uses⟩

/-- A server that sends a notice with each of its replies. -/
def noticing : Peer := Reference.peer ⟨fun _ => .command, fun _ => false, fun _ => true⟩

/-- A connection to it, with a handler installed. -/
def listening (flags : K) : Conn noticing K :=
  { Conn.fresh Reference.start flags with asyncMessageHandler := some [] }

/-- What drives query machines, on a blocking connection. -/
def heardSync : List Sync.Use :=
  [.operation (.prepareTyped "SELECT" []), .operation (.exec (.sql "SELECT") .none DropHandler)]

/-- The same on an asynchronous one. The execution is dropped at its fourth await point. -/
def heardTokio : List Tokio.Use :=
  [.operation ⟨.prepareTyped "SELECT" [], none⟩,
    .operation ⟨.exec (.sql "SELECT") .none DropHandler, some ⟨3, 0⟩⟩]

theorem asyncMessages_delivered_exec :
    (∀ n c', runSteps Sync.Use.step (listening {}) (heardSync.take n) = some c' →
      (listening {}).Hears c') ∧
    (∀ n c', runSteps Tokio.Use.step (listening ⟨false, false⟩) (heardTokio.take n) = some c' →
      (listening ⟨false, false⟩).Hears c') :=
  ⟨((asyncMessages_delivered noticing).1 _ _ rfl).mpr (by decide +kernel),
    ((asyncMessages_delivered noticing).2 _ _ rfl).mpr (by decide +kernel)⟩

/-- Statements are prepared in one batch. -/
def deafSync : List Sync.Use := [.operation (.prepareBatch ["SELECT"])]

/-- A statement is executed in a pipeline. -/
def deafTokio : List Tokio.Use :=
  [.pipeline [.exec (.sql "SELECT") .none, .sync none, .claim none ⟨0, none⟩ DropHandler] none]

theorem deafSync_run : (runSteps Sync.Use.step (listening {}) deafSync).isSome = true := by
  decide +kernel

theorem deafTokio_run :
    (runSteps Tokio.Use.step (listening ⟨false, false⟩) deafTokio).isSome = true := by
  decide +kernel

/-- The notices that come in meanwhile are lost: the handler is not called, and the connection stays
in use. -/
theorem asyncMessages_lost :
    (∃ c, runSteps Sync.Use.step (listening {}) deafSync = some c ∧ c.isBroken = false ∧
      (asyncsOf (Conn.readSince (listening {}) c)).length = 3 ∧
      c.asyncMessageHandler = some [] ∧ ¬ (listening {}).Hears c) ∧
    (∃ c, runSteps Tokio.Use.step (listening ⟨false, false⟩) deafTokio = some c ∧
      c.isBroken = false ∧ (asyncsOf (Conn.readSince (listening ⟨false, false⟩) c)).length = 5 ∧
      c.asyncMessageHandler = some [] ∧ ¬ (listening ⟨false, false⟩).Hears c) :=
  ⟨⟨_, (Option.some_get deafSync_run).symm, by decide +kernel, by decide +kernel,
      by decide +kernel, Conn.deaf (by decide +kernel) (by decide +kernel)⟩,
    ⟨_, (Option.some_get deafTokio_run).symm, by decide +kernel, by decide +kernel,
      by decide +kernel, Conn.deaf (by decide +kernel) (by decide +kernel)⟩⟩

end ZeroPostgres
