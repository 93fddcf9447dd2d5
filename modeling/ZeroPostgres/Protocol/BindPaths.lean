import ZeroPostgres.Protocol.FrontendRoundTrip
import ZeroPostgres.State.Extended

/-!
# Requests with a Bind in them

The requests of `exec`, `exec_batch` and `Pipeline::exec` as bytes. Each is written by `write_bind`
and by functions that cannot fail, so what it comes to is decided by its parameter lists and the
OIDs they are encoded for: `writeBinds_ok_iff` and `writeBinds_err_iff` say how. Nothing on the way
compares the number of parameters with that of the OIDs.
-/

namespace ZeroPostgres

/-! ### What encoding a parameter list comes to -/

namespace ToParams

/-- The parameters that have an OID, with it. -/
def targeted (params : ToParams) (targets : List Oid) : List (ToWireValue × Oid) :=
  params.values.zip targets

/-- A list that looks its OIDs up by index. -/
def indexes : ToParams → Bool
  | tuple _ => true
  | _ => false

/-- Every parameter that has an OID encodes, and those of a tuple all have one. -/
def Written (params : ToParams) (targets : List Oid) : Prop :=
  (∀ p ∈ params.targeted targets, (p.1.encode p.2).isOk = true) ∧
    (params.indexes = true → params.values.length ≤ targets.length)

/-- The first parameter that does not encode fails with an error. -/
def Rejected (params : ToParams) (targets : List Oid) : Prop :=
  ∃ front p back e, params.targeted targets = front ++ p :: back ∧
    (∀ q ∈ front, (q.1.encode q.2).isOk = true) ∧ p.1.encode p.2 = .err e

variable {values : List ToWireValue} {targets : List Oid}

/-- The parameters are encoded in order, up to the first that does not encode. -/
def tried : List (ToWireValue × Oid) → Outcome Error Unit
  | [] => .ok ()
  | p :: ps => (p.1.encode p.2).bind fun _ => tried ps

theorem tried_ok_iff {ps : List (ToWireValue × Oid)} :
    tried ps = .ok () ↔ ∀ p ∈ ps, (p.1.encode p.2).isOk = true := by
  induction ps with
  | nil => simp [tried]
  | cons p ps ih =>
    rw [List.forall_mem_cons, ← ih, tried]
    cases p.1.encode p.2 <;> simp [Outcome.bind, Outcome.isOk]

theorem tried_err_iff {ps : List (ToWireValue × Oid)} :
    (∃ e, tried ps = .err e) ↔ ∃ front p back e, ps = front ++ p :: back ∧
      (∀ q ∈ front, (q.1.encode q.2).isOk = true) ∧ p.1.encode p.2 = .err e := by
  induction ps with
  | nil => simp [tried]
  | cons p ps ih =>
    constructor
    · rintro ⟨e, h⟩
      cases hp : p.1.encode p.2 with
      | ok bs =>
        rw [tried, hp] at h
        obtain ⟨front, q, back, e, rfl, hfront, hq⟩ := ih.mp ⟨e, h⟩
        refine ⟨p :: front, q, back, e, rfl, ?_, hq⟩
        exact List.forall_mem_cons.mpr ⟨by rw [hp]; rfl, hfront⟩
      | err e' => exact ⟨[], p, ps, e', rfl, by simp, hp⟩
      | halt =>
        rw [tried, hp] at h
        cases h
    · rintro ⟨front, q, back, e, heq, hfront, hq⟩
      cases front with
      | nil =>
        obtain ⟨rfl, rfl⟩ := List.cons.inj heq
        exact ⟨e, by rw [tried, hq]; rfl⟩
      | cons p' front =>
        obtain ⟨rfl, rfl⟩ := List.cons.inj heq
        obtain ⟨hp, hrest⟩ := List.forall_mem_cons.mp hfront
        obtain ⟨e', he'⟩ := ih.mpr ⟨front, q, back, e, rfl, hrest, hq⟩
        refine ⟨e', ?_⟩
        rw [tried, he']
        cases hp' : p.1.encode p.2 with
        | ok bs => rfl
        | err _ => rw [hp'] at hp; cases hp
        | halt => rw [hp'] at hp; cases hp

/-- A slice comes to what its parameters with an OID come to. -/
theorem encodeSlice_fst (buf : Bytes) :
    (encodeSlice values targets buf).1 = tried (values.zip targets) := by
  induction values generalizing targets buf with
  | nil => cases targets <;> rfl
  | cons v values ih =>
    cases targets with
    | nil => rfl
    | cons target targets =>
      rw [encodeSlice, Act.bind_run, ToWireValue.append, List.zip_cons_cons, tried]
      cases v.encode target with
      | ok bs => exact ih (buf ++ bs)
      | err e => rfl
      | halt => rfl

/-- A tuple does too, and panics when it runs out of OIDs. -/
theorem encodeTuple_fst (buf : Bytes) :
    (encodeTuple values targets buf).1 = (tried (values.zip targets)).bind fun _ =>
      if values.length ≤ targets.length then .ok () else .halt := by
  induction values generalizing targets buf with
  | nil => simp [encodeTuple, tried, Outcome.bind]
  | cons v values ih =>
    cases targets with
    | nil => rfl
    | cons target targets =>
      rw [encodeTuple, Act.bind_run, ToWireValue.append, List.zip_cons_cons, tried]
      cases v.encode target with
      | ok bs =>
        have hrest : (encodeTuple values targets (buf ++ bs)).1 = _ := ih (buf ++ bs)
        simpa [Outcome.bind] using hrest
      | err e => rfl
      | halt => rfl

/-- A parameter list comes to what its parameters with an OID do, unless it runs out of OIDs. -/
theorem encode_fst (params : ToParams) (buf : Bytes) :
    (params.encode targets buf).1 = (tried (params.targeted targets)).bind fun _ =>
      if params.indexes = true → params.values.length ≤ targets.length then .ok () else .halt := by
  have hslice (values : List ToWireValue) : (encodeSlice values targets buf).1 =
      (tried (values.zip targets)).bind fun _ => .ok () := by
    rw [encodeSlice_fst]
    cases tried (values.zip targets) <;> rfl
  cases params with
  | unit => rfl
  | slice values => simpa [encode, targeted, ToParams.values, indexes] using hslice values
  | tuple values =>
    have htuple : (encodeTuple values targets buf).1 = _ := encodeTuple_fst buf
    simpa [encode, targeted, ToParams.values, indexes] using htuple

theorem encode_ok_iff (params : ToParams) (buf : Bytes) :
    (params.encode targets buf).1 = .ok () ↔ params.Written targets := by
  rw [encode_fst, Written, ← tried_ok_iff]
  cases tried (params.targeted targets) with
  | ok u => simp [Outcome.bind]
  | err e => simp [Outcome.bind]
  | halt => simp [Outcome.bind]

theorem encode_err_iff (params : ToParams) (buf : Bytes) :
    (∃ e, (params.encode targets buf).1 = .err e) ↔ params.Rejected targets := by
  rw [encode_fst, Rejected, ← tried_err_iff]
  cases tried (params.targeted targets) with
  | ok u =>
    simp only [Outcome.bind]
    split <;> simp
  | err e => simp [Outcome.bind]
  | halt => simp [Outcome.bind]

/-- The list as the connections take it. A panic while it is encoded is an error to them. -/
def toParams (params : ToParams) : Params where
  naturalOids := params.naturalOids
  paramCount := params.paramCount
  encode := fun targets =>
    match params.encode targets [] with
    | (.ok (), buf) => .ok buf
    | (.err e, _) => .error e
    | (.halt, _) => .error (.libraryBug "panic")

theorem toParams_encodes_iff (params : ToParams) :
    params.toParams.encodes targets = true ↔ params.Written targets := by
  rw [← encode_ok_iff params [], Params.encodes, toParams]
  dsimp only
  generalize params.encode targets [] = r
  obtain ⟨o, buf⟩ := r
  cases o <;> simp [Except.isOk, Except.toBool]

/-- What such a list writes is what the list does. -/
theorem toParams_encode {params : ToParams} {encoded : List (Option Bytes)} {buf : Bytes}
    (h : params.encode targets [] = (.ok (), buf)) (hencoded : params.Encoded targets encoded) :
    params.toParams.encode targets = .ok (encoded.flatMap valueBytes) := by
  obtain ⟨encoded', hencoded', hbuf⟩ := encode_ok h
  obtain rfl := hencoded.unique hencoded'
  rw [toParams]
  dsimp only
  rw [h, hbuf, List.nil_append]

end ToParams

/-! ### Messages without parameters -/

namespace Wire

open MessageBuilder

/-- A Bind comes to what its parameter list comes to. -/
theorem writeBind_fst (portal statement : String) (params : ToParams) (targetOids : List Oid)
    (buf : Bytes) : ∃ buf', (writeBind portal statement params targetOids buf).1 =
      (params.encode targetOids buf').1 := by
  simp only [writeBind]
  split
  · next hencode => exact ⟨_, (congrArg Prod.fst hencode).symm⟩
  · exact ⟨_, rfl⟩

/-- `write_execute`, `src/src/protocol/frontend/extended.rs:84–97`. -/
def writeExecute (buf : Bytes) (portal : String) (maxRows : Nat) : Bytes :=
  (((new buf 69).writeCstr portal).writeI32 maxRows).finish

/-- `write_describe`, `src/src/protocol/frontend/extended.rs:103–109`. -/
def writeDescribe (buf : Bytes) (describeType : UInt8) (name : String) : Bytes :=
  (((new buf 68).writeU8 describeType).writeCstr name).finish

/-- `write_describe_portal`, `src/src/protocol/frontend/extended.rs:117–119`. -/
def writeDescribePortal (buf : Bytes) (name : String) : Bytes := writeDescribe buf 80 name

/-- `write_sync`, `src/src/protocol/frontend/extended.rs:149–153`. -/
def writeSync (buf : Bytes) : Bytes := (new buf 83).finish

/-- The bytes of an Execute without a limit. -/
def executeFrame (portal : String) : Bytes := frame 69 (cstr portal ++ BigEndian.bytes 4 0)

/-- The bytes of a Describe of a portal. -/
def describePortalFrame (name : String) : Bytes := frame 68 (80 :: cstr name)

/-- The bytes of a Sync. -/
def syncFrame : Bytes := frame 83 []

theorem writeExecute_eq (buf : Bytes) (portal : String) :
    writeExecute buf portal 0 = buf ++ executeFrame portal := by
  rw [writeExecute, writeCstr, writeI32, writeBytes_writeBytes, finish_new, executeFrame]

theorem writeDescribePortal_eq (buf : Bytes) (name : String) :
    writeDescribePortal buf name = buf ++ describePortalFrame name := by
  rw [writeDescribePortal, writeDescribe, writeU8, writeCstr, writeBytes_writeBytes, finish_new]
  rfl

theorem writeSync_eq (buf : Bytes) : writeSync buf = buf ++ syncFrame := by
  have hfinish := finish_new buf 83 []
  rwa [show (new buf 83).writeBytes [] = new buf 83 by simp [writeBytes]] at hfinish

/-! ### Requests -/

/-- `execute`, `src/src/state/extended.rs:133–160`: the request in the write buffer. -/
def execute (statementName : String) (paramOids : List Oid) (params : ToParams) :
    Act Error Bytes Unit := do
  Act.modify fun _ => []
  writeBind "" statementName params paramOids
  Act.modify fun buf => writeSync (writeExecute (writeDescribePortal buf "") "" 0)

/-- `execute_sql`, `src/src/state/extended.rs:169–191`: the request in the write buffer. -/
def executeSql (sql : String) (params : ToParams) : Act Error Bytes Unit := do
  Act.modify fun _ => writeParse [] "" sql params.naturalOids
  writeBind "" "" params params.naturalOids
  Act.modify fun buf => writeSync (writeExecute (writeDescribePortal buf "") "" 0)

/-- The request of `exec_inner`, `src/src/sync/conn.rs`. -/
def exec : StatementRef → ToParams → Act Error Bytes Unit
  | .sql text, params => executeSql text params
  | .prepared stmt, params => execute stmt.wireName stmt.paramOids params

/-- Bind and Execute for each parameter set of a chunk. -/
def writeChunk (stmtName : String) (paramOids : List Oid) : List ToParams → Act Error Bytes Unit
  | [] => pure ()
  | params :: rest => do
    writeBind "" stmtName params paramOids
    Act.modify fun buf => writeExecute buf "" 0
    writeChunk stmtName paramOids rest

/-- The request of a chunk of `exec_batch_inner`, `src/src/sync/conn.rs:834–860`; `first` is the
first parameter set of the batch. -/
def execBatch (first : ToParams) : StatementRef → List ToParams → Act Error Bytes Unit
  | .sql text, chunk => do
    Act.modify fun _ => writeParse [] "" text first.naturalOids
    writeChunk "" first.naturalOids chunk
    Act.modify writeSync
  | .prepared stmt, chunk => do
    Act.modify fun _ => []
    writeChunk stmt.wireName stmt.paramOids chunk
    Act.modify writeSync

/-- What `Pipeline::exec` appends to the write buffer: `exec_sql_inner` and `exec_prepared_inner`,
`src/src/sync/pipeline/mod.rs:198–220`. -/
def pipelineExec : StatementRef → ToParams → Act Error Bytes Unit
  | .sql text, params => do
    Act.modify fun buf => writeParse buf "" text params.naturalOids
    writeBind "" "" params params.naturalOids
    Act.modify fun buf => writeExecute (writeDescribePortal buf "") "" 0
  | .prepared stmt, params => do
    writeBind "" stmt.wireName params stmt.paramOids
    Act.modify fun buf => writeExecute buf "" 0

/-! ### The messages that stand for them -/

/-- The bytes of the messages in a write buffer. -/
def bufferBytes (messages : List Frontend) : Option Bytes :=
  (messages.mapM messageBytes).map List.flatten

theorem bufferBytes_append {front back : List Frontend} {xs ys : Bytes}
    (hfront : bufferBytes front = some xs) (hback : bufferBytes back = some ys) :
    bufferBytes (front ++ back) = some (xs ++ ys) := by
  obtain ⟨xss, hxss, rfl⟩ := Option.map_eq_some_iff.mp hfront
  obtain ⟨yss, hyss, rfl⟩ := Option.map_eq_some_iff.mp hback
  rw [bufferBytes, List.mapM_append, hxss, hyss]
  exact congrArg some List.flatten_append

/-- A Bind that is written is written as a message too, with the same bytes. -/
theorem writeBind_bufferBytes {portal statement : String} {params : ToParams}
    {targetOids : List Oid} {buf buf' : Bytes}
    (h : writeBind portal statement params targetOids buf = (.ok (), buf'))
    {messages : List Frontend} (hbuf : bufferBytes messages = some buf) :
    ∃ messages', ZeroPostgres.writeBind messages portal statement params.toParams targetOids =
        (.ok (), messages') ∧ bufferBytes messages' = some buf' := by
  obtain ⟨encoded, hencoded, -⟩ := writeBind_ok h
  have hwritten : params.Written targetOids := by
    obtain ⟨buf₁, heq⟩ := writeBind_fst portal statement params targetOids buf
    rw [← ToParams.encode_ok_iff params buf₁, ← heq, h]
  have hencode : params.encode targetOids [] = (.ok (), (params.encode targetOids []).2) :=
    Prod.ext ((ToParams.encode_ok_iff params []).mpr hwritten) rfl
  have hvalues : ∀ encoded', params.Encoded targetOids encoded' →
      encoded'.flatMap valueBytes = encoded.flatMap valueBytes := by
    intro encoded' hencoded'
    rw [hencoded'.unique hencoded]
  have hcount : params.toParams.paramCount = params.paramCount := rfl
  obtain ⟨message, bytes, hrun, hbytes, rfl⟩ := writeBind_messageBytes h hcount hvalues
    (ToParams.toParams_encode hencode hencoded) messages
  refine ⟨messages ++ [message], hrun, bufferBytes_append hbuf ?_⟩
  simp [bufferBytes, hbytes]

/-- The messages behind the Bind of `exec`. -/
theorem bufferBytes_described {messages : List Frontend} {buf : Bytes}
    (h : bufferBytes messages = some buf) :
    bufferBytes (messages ++ [.describePortal "", .execute "" 0, .sync]) =
      some (writeSync (writeExecute (writeDescribePortal buf "") "" 0)) := by
  have hbehind : bufferBytes [.describePortal "", .execute "" 0, .sync] =
      some (describePortalFrame "" ++ executeFrame "" ++ syncFrame) := by
    simp [bufferBytes, messageBytes, describePortalFrame, executeFrame, syncFrame]
  rw [writeSync_eq, writeExecute_eq, writeDescribePortal_eq, bufferBytes_append h hbehind]
  simp only [List.append_assoc]

/-- The write buffer of `execute` holds the messages of which the request is made. -/
theorem execute_bufferBytes {statementName : String} {paramOids : List Oid} {params : ToParams}
    {buf request : Bytes} (h : execute statementName paramOids params buf = (.ok (), request))
    (handler : Handler) (b : BufferSet) :
    ∃ m b', ExtendedQueryStateMachine.execute handler b statementName paramOids params.toParams =
        (.ok m, b') ∧ bufferBytes b'.writeBuffer = some request := by
  obtain ⟨_, mid, hbind, hrest⟩ := Act.bind_eq_ok_iff.mp h
  cases hbind
  obtain ⟨_, written, hbind, hrest⟩ := Act.bind_eq_ok_iff.mp hrest
  rw [Act.modify_run, Prod.mk.injEq] at hrest
  obtain ⟨-, rfl⟩ := hrest
  have hempty : bufferBytes [] = some [] := rfl
  obtain ⟨messages, hrun, hbytes⟩ := writeBind_bufferBytes hbind hempty
  rw [ExtendedQueryStateMachine.execute, hrun]
  exact ⟨_, _, rfl, bufferBytes_described hbytes⟩

/-- So does that of `execute_sql`. -/
theorem executeSql_bufferBytes {sql : String} {params : ToParams} {buf request : Bytes}
    (h : executeSql sql params buf = (.ok (), request)) (handler : Handler) (b : BufferSet) :
    ∃ m b', ExtendedQueryStateMachine.executeSql handler b sql params.toParams = (.ok m, b') ∧
      bufferBytes b'.writeBuffer = some request := by
  obtain ⟨_, mid, hparse, hrest⟩ := Act.bind_eq_ok_iff.mp h
  cases hparse
  obtain ⟨_, written, hbind, hrest⟩ := Act.bind_eq_ok_iff.mp hrest
  rw [Act.modify_run, Prod.mk.injEq] at hrest
  obtain ⟨-, rfl⟩ := hrest
  have hparsed : bufferBytes [.parse "" sql params.naturalOids] =
      some (writeParse [] "" sql params.naturalOids) := by
    rw [writeParse_eq]
    simp [bufferBytes, messageBytes]
  obtain ⟨messages, hrun, hbytes⟩ := writeBind_bufferBytes hbind hparsed
  have hmachine : ZeroPostgres.writeBind [.parse "" sql params.toParams.naturalOids] "" ""
      params.toParams params.toParams.naturalOids = (.ok (), messages) := hrun
  simp only [ExtendedQueryStateMachine.executeSql, hmachine]
  exact ⟨_, _, rfl, bufferBytes_described hbytes⟩

/-! ### One shape for all of them -/

/-- A Bind for each parameter list, with the same bytes behind each. -/
def writeBinds (portal statement : String) (behind : Bytes) :
    List (ToParams × List Oid) → Act Error Bytes Unit
  | [] => pure ()
  | b :: rest => do
    writeBind portal statement b.1 b.2
    Act.modify fun buf => buf ++ behind
    writeBinds portal statement behind rest

theorem writeBind_ok_iff (portal statement : String) (params : ToParams) (targetOids : List Oid)
    (buf : Bytes) :
    (writeBind portal statement params targetOids buf).1 = .ok () ↔ params.Written targetOids := by
  obtain ⟨buf', heq⟩ := writeBind_fst portal statement params targetOids buf
  rw [heq, ToParams.encode_ok_iff]

theorem writeBind_err_iff (portal statement : String) (params : ToParams) (targetOids : List Oid)
    (buf : Bytes) :
    (∃ e, (writeBind portal statement params targetOids buf).1 = .err e) ↔
      params.Rejected targetOids := by
  obtain ⟨buf', heq⟩ := writeBind_fst portal statement params targetOids buf
  rw [heq, ToParams.encode_err_iff]

variable {portal statement : String} {behind buf : Bytes}

/-- Binds are written one by one, up to the first that is not. -/
theorem writeBinds_cons_fst (b : ToParams × List Oid) (rest : List (ToParams × List Oid)) :
    (writeBinds portal statement behind (b :: rest) buf).1 =
      (writeBind portal statement b.1 b.2 buf).1.bind fun _ =>
        (writeBinds portal statement behind rest
          ((writeBind portal statement b.1 b.2 buf).2 ++ behind)).1 := by
  rw [writeBinds, Act.bind_run]
  generalize writeBind portal statement b.1 b.2 buf = r
  obtain ⟨o, buf'⟩ := r
  cases o <;> rfl

theorem writeBinds_ok_iff {binds : List (ToParams × List Oid)} :
    (writeBinds portal statement behind binds buf).1 = .ok () ↔
      ∀ b ∈ binds, b.1.Written b.2 := by
  induction binds generalizing buf with
  | nil => simp [writeBinds]
  | cons b rest ih =>
    rw [List.forall_mem_cons, writeBinds_cons_fst, ← writeBind_ok_iff portal statement b.1 b.2 buf]
    cases hb : (writeBind portal statement b.1 b.2 buf).1 with
    | ok u => simpa [Outcome.bind] using ih
    | err e => simp [Outcome.bind]
    | halt => simp [Outcome.bind]

theorem writeBinds_err_iff {binds : List (ToParams × List Oid)} :
    (∃ e, (writeBinds portal statement behind binds buf).1 = .err e) ↔
      ∃ front b back, binds = front ++ b :: back ∧ (∀ x ∈ front, x.1.Written x.2) ∧
        b.1.Rejected b.2 := by
  induction binds generalizing buf with
  | nil => simp [writeBinds]
  | cons b rest ih =>
    have hok := writeBind_ok_iff portal statement b.1 b.2 buf
    have herr := writeBind_err_iff portal statement b.1 b.2 buf
    rw [writeBinds_cons_fst]
    constructor
    · intro h
      cases hb : (writeBind portal statement b.1 b.2 buf).1 with
      | ok u =>
        rw [hb] at h
        obtain ⟨front, c, back, rfl, hfront, hc⟩ := ih.mp h
        exact ⟨b :: front, c, back, rfl, List.forall_mem_cons.mpr ⟨hok.mp hb, hfront⟩, hc⟩
      | err e => exact ⟨[], b, rest, rfl, by simp, herr.mp ⟨e, hb⟩⟩
      | halt =>
        rw [hb] at h
        obtain ⟨e, he⟩ := h
        cases he
    · rintro ⟨front, c, back, heq, hfront, hc⟩
      cases front with
      | nil =>
        obtain ⟨rfl, rfl⟩ := List.cons.inj heq
        obtain ⟨e, he⟩ := herr.mpr hc
        exact ⟨e, by rw [he]; rfl⟩
      | cons b' front =>
        obtain ⟨rfl, rfl⟩ := List.cons.inj heq
        obtain ⟨hb, hrest⟩ := List.forall_mem_cons.mp hfront
        rw [hok.mpr hb]
        exact ih.mpr ⟨front, c, back, rfl, hrest, hc⟩

/-- There is an OID for each parameter, and the counts of them fit in their fields. -/
def CountsFit (b : ToParams × List Oid) : Prop :=
  b.1.values.length = b.2.length ∧ b.2.length ≤ 65535

/-- The values of a Bind whose three counts are the same. -/
def CountsAgree (b : ToParams × List Oid) (encoded : List (Option Bytes)) : Prop :=
  b.1.Encoded b.2 encoded ∧ encoded.length = b.2.length ∧ b.2.length ≤ 65535

/-- The bytes of such Binds, with the same bytes behind each. -/
def countedBinds (portal statement : String) (behind : Bytes) (binds : List (ToParams × List Oid))
    (encoded : List (List (Option Bytes))) : Bytes :=
  (List.zipWith (fun b values => frame 66 (countedBody portal statement b.2 values) ++ behind)
    binds encoded).flatten

theorem writeBind_counted {b : ToParams × List Oid} (hfits : CountsFit b) {buf' : Bytes}
    (h : writeBind portal statement b.1 b.2 buf = (.ok (), buf')) :
    ∃ encoded, CountsAgree b encoded ∧ buf' = buf ++ frame 66 (countedBody portal statement b.2
      encoded) := by
  obtain ⟨encoded, hencoded, rfl⟩ := writeBind_ok h
  obtain ⟨hlen, hle⟩ := hfits
  have hmod : b.2.length = b.1.paramCount % 2 ^ 16 := by
    rw [ToParams.paramCount, hlen]
    omega
  have hlength := hencoded.length_of_mod
  have hbody := (bindBody_eq_iff portal statement (by omega) hlength).mpr hmod
  exact ⟨encoded, ⟨hencoded, hlength hmod, hle⟩, by rw [hbody]⟩

theorem writeBinds_counted {binds : List (ToParams × List Oid)} (hfits : ∀ b ∈ binds, CountsFit b)
    {buf' : Bytes} (h : writeBinds portal statement behind binds buf = (.ok (), buf')) :
    ∃ encoded, List.Forall₂ CountsAgree binds encoded ∧
      buf' = buf ++ countedBinds portal statement behind binds encoded := by
  induction binds generalizing buf with
  | nil =>
    cases h
    exact ⟨[], .nil, by simp [countedBinds]⟩
  | cons b rest ih =>
    obtain ⟨hb, hrest⟩ := List.forall_mem_cons.mp hfits
    obtain ⟨_, mid, hbind, htail⟩ := Act.bind_eq_ok_iff.mp h
    obtain ⟨values, hvalues, rfl⟩ := writeBind_counted hb hbind
    obtain ⟨encoded, hencoded, rfl⟩ := ih hrest htail
    refine ⟨values :: encoded, .cons hvalues hencoded, ?_⟩
    simp only [countedBinds, List.zipWith_cons_cons, List.flatten_cons, List.append_assoc]

end Wire

/-! ### The functions that build Binds -/

/-- A call that builds Binds: `write_bind` itself, `exec`, `exec_batch` for a chunk of its parameter
sets, and `Pipeline::exec`. -/
inductive BindPath where
  | writeBind (portal statement : String) (params : ToParams) (targetOids : List Oid)
  | exec (statement : StatementRef) (params : ToParams)
  | execBatch (first : ToParams) (statement : StatementRef) (chunk : List ToParams)
  | pipelineExec (statement : StatementRef) (params : ToParams)

namespace BindPath

open Wire

/-- The call, on the bytes of the write buffer. -/
def run : BindPath → Act Error Bytes Unit
  | writeBind portal statement params targetOids =>
    Wire.writeBind portal statement params targetOids
  | exec statement params => Wire.exec statement params
  | execBatch first statement chunk => Wire.execBatch first statement chunk
  | pipelineExec statement params => Wire.pipelineExec statement params

/-- The OIDs that the parameters of a statement are encoded for: its own, if it is prepared. -/
def oidsOf (params : ToParams) : StatementRef → List Oid
  | .sql _ => params.naturalOids
  | .prepared stmt => stmt.paramOids

/-- The name of a statement in its Binds. -/
def nameOf : StatementRef → String
  | .sql _ => ""
  | .prepared stmt => stmt.wireName

/-- The parameter lists of a call, each with the OIDs it is encoded for. -/
def binds : BindPath → List (ToParams × List Oid)
  | writeBind _ _ params targetOids => [(params, targetOids)]
  | exec statement params | pipelineExec statement params => [(params, oidsOf params statement)]
  | execBatch first statement chunk => chunk.map fun params => (params, oidsOf first statement)

/-- The portal of the Binds. -/
def portal : BindPath → String
  | writeBind portal .. => portal
  | _ => ""

/-- The statement of the Binds. -/
def statementName : BindPath → String
  | writeBind _ statement .. => statement
  | exec statement _ | execBatch _ statement _ | pipelineExec statement _ => nameOf statement

/-- What is in the write buffer in front of the first Bind. -/
def front : BindPath → Bytes → Bytes
  | writeBind .., buf | pipelineExec (.prepared _) _, buf => buf
  | exec (.prepared _) _, _ | execBatch _ (.prepared _) _, _ => []
  | exec (.sql text) params, _ => writeParse [] "" text params.naturalOids
  | execBatch first (.sql text) _, _ => writeParse [] "" text first.naturalOids
  | pipelineExec (.sql text) params, buf => writeParse buf "" text params.naturalOids

/-- What is written behind each Bind. -/
def behind : BindPath → Bytes
  | writeBind .. => []
  | exec .. => describePortalFrame "" ++ executeFrame "" ++ syncFrame
  | execBatch .. | pipelineExec (.prepared _) _ => executeFrame ""
  | pipelineExec (.sql _) _ => describePortalFrame "" ++ executeFrame ""

/-- What is written at the end. -/
def last : BindPath → Bytes
  | execBatch .. => syncFrame
  | _ => []

/-- One Bind with bytes behind it is a list of one. -/
theorem writeBinds_single (portal statement : String) (behind : Bytes) (params : ToParams)
    (targetOids : List Oid) (buf : Bytes) :
    ((do
      writeBinds portal statement behind [(params, targetOids)]
      Act.modify fun buf => buf ++ []) : Act Error Bytes Unit) buf =
    ((do
      Wire.writeBind portal statement params targetOids
      Act.modify fun buf => buf ++ behind) : Act Error Bytes Unit) buf := by
  simp only [writeBinds, Act.bind_run]
  generalize Wire.writeBind portal statement params targetOids buf = r
  obtain ⟨o, buf'⟩ := r
  cases o with
  | ok u => simp
  | err e => rfl
  | halt => rfl

/-- The loop of a chunk writes a Bind with an Execute behind it for each parameter set. -/
theorem writeChunk_eq (statement : String) (targetOids : List Oid) (chunk : List ToParams) :
    writeChunk statement targetOids chunk = writeBinds "" statement (executeFrame "")
      (chunk.map fun params => (params, targetOids)) := by
  induction chunk with
  | nil => rfl
  | cons params rest ih =>
    simp only [writeChunk, List.map_cons, writeBinds, writeExecute_eq, ih]

/-- Every call is the same loop over its parameter lists. -/
theorem run_eq (path : BindPath) (buf : Bytes) :
    path.run buf = ((do
      writeBinds path.portal path.statementName path.behind path.binds
      Act.modify fun buf => buf ++ path.last) : Act Error Bytes Unit) (path.front buf) := by
  have hdescribe (buf : Bytes) : writeSync (writeExecute (writeDescribePortal buf "") "" 0) =
      buf ++ (describePortalFrame "" ++ executeFrame "" ++ syncFrame) := by
    rw [writeSync_eq, writeExecute_eq, writeDescribePortal_eq]
    simp only [List.append_assoc]
  have hpipeline (buf : Bytes) : writeExecute (writeDescribePortal buf "") "" 0 =
      buf ++ (describePortalFrame "" ++ executeFrame "") := by
    rw [writeExecute_eq, writeDescribePortal_eq, List.append_assoc]
  cases path with
  | writeBind name statement params targetOids =>
    simp only [binds, last, writeBinds_single]
    simp only [run, BindPath.portal, statementName, behind, front, Act.bind_run]
    generalize Wire.writeBind _ _ _ _ buf = r
    obtain ⟨o, buf'⟩ := r
    cases o <;> simp
  | exec statement params =>
    cases statement with
    | sql text =>
      simp only [binds, last, writeBinds_single]
      simp only [run, Wire.exec, executeSql, hdescribe]
      rfl
    | prepared stmt =>
      simp only [binds, last, writeBinds_single]
      simp only [run, Wire.exec, execute, hdescribe]
      rfl
  | execBatch first statement chunk =>
    have hsync : writeSync = fun buf => buf ++ syncFrame := funext writeSync_eq
    cases statement with
    | sql text =>
      simp only [run, Wire.execBatch, writeChunk_eq, hsync]
      rfl
    | prepared stmt =>
      simp only [run, Wire.execBatch, writeChunk_eq, hsync]
      rfl
  | pipelineExec statement params =>
    cases statement with
    | sql text =>
      simp only [binds, last, writeBinds_single]
      simp only [run, Wire.pipelineExec, hpipeline]
      rfl
    | prepared stmt =>
      simp only [binds, last, writeBinds_single]
      simp only [run, Wire.pipelineExec, writeExecute_eq]
      rfl

/-- The outcome of a call is that of its Binds. -/
theorem run_fst (path : BindPath) (buf : Bytes) :
    (path.run buf).1 = (writeBinds path.portal path.statementName path.behind path.binds
      (path.front buf)).1 := by
  rw [run_eq, Act.bind_run]
  generalize writeBinds _ _ _ _ _ = r
  obtain ⟨o, buf'⟩ := r
  cases o <;> rfl

/-- What is asked of a call: it refuses a parameter list that does not have as many OIDs, or has too
many; it does not panic; and the Binds it emits have the same count three times. -/
structure Sound (path : BindPath) (buf : Bytes) : Prop where
  rejects : (∃ b ∈ path.binds, ¬ CountsFit b) → ∃ e, (path.run buf).1 = .err e
  returns : (path.run buf).1 ≠ .halt
  agrees : (path.run buf).1 = .ok () → ∃ encoded, List.Forall₂ CountsAgree path.binds encoded ∧
    (path.run buf).2 = path.front buf ++
      countedBinds path.portal path.statementName path.behind path.binds encoded ++ path.last

/-- A call is sound in two cases. Every parameter list has as many OIDs, no more than the counts can
say, and encodes; or one of them is refused because a parameter that has an OID does not encode,
after lists that do. -/
theorem path_sound_iff (path : BindPath) (buf : Bytes) :
    path.Sound buf ↔
      (∀ b ∈ path.binds, CountsFit b ∧ b.1.Written b.2) ∨
        ∃ front b back, path.binds = front ++ b :: back ∧ (∀ x ∈ front, x.1.Written x.2) ∧
          b.1.Rejected b.2 := by
  constructor
  · intro h
    cases hrun : (path.run buf).1 with
    | ok u =>
      left
      intro b hb
      constructor
      · by_contra hfits
        obtain ⟨e, he⟩ := h.rejects ⟨b, hb, hfits⟩
        rw [hrun] at he
        cases he
      · rw [run_fst] at hrun
        exact writeBinds_ok_iff.mp hrun b hb
    | err e =>
      right
      rw [run_fst] at hrun
      exact writeBinds_err_iff.mp ⟨e, hrun⟩
    | halt => exact absurd hrun h.returns
  · rintro (hall | hrejected)
    · have hrun : (path.run buf).1 = .ok () := by
        rw [run_fst]
        exact writeBinds_ok_iff.mpr fun b hb => (hall b hb).2
      constructor
      · rintro ⟨b, hb, hfits⟩
        exact absurd (hall b hb).1 hfits
      · rw [hrun]
        simp
      · intro _
        have hpair : path.run buf = (.ok (), (path.run buf).2) := Prod.ext hrun rfl
        rw [run_eq] at hpair
        obtain ⟨_, mid, hbinds, hlast⟩ := Act.bind_eq_ok_iff.mp hpair
        obtain ⟨encoded, hencoded, rfl⟩ := writeBinds_counted (fun b hb => (hall b hb).1) hbinds
        refine ⟨encoded, hencoded, ?_⟩
        rw [run_eq]
        exact (congrArg Prod.snd hlast).symm
    · have herr : ∃ e, (path.run buf).1 = .err e := by
        rw [run_fst]
        exact writeBinds_err_iff.mpr hrejected
      obtain ⟨e, he⟩ := herr
      constructor
      · intro _
        exact ⟨e, he⟩
      · rw [he]
        simp
      · intro h
        rw [he] at h
        cases h

/-- A prepared statement with one INT4 parameter, or with two. -/
def int4Statement (count : Nat) : StatementRef := .prepared ⟨0, List.replicate count oid.int4, none⟩

/-- That many numbers as a tuple. -/
def numbers (count : Nat) : ToParams :=
  .tuple (List.replicate count (Value.i32 7 : Value Reference.crates).toWireValue)

/-- Two parameters for a statement that has one: `exec` panics. One for a statement that has two:
`exec` writes a Bind with two format codes behind a count of one. -/
theorem mismatch_not_rejected :
    ((exec (int4Statement 1) (numbers 2)).run []).1 = .halt ∧
      (∃ rest, (exec (int4Statement 2) (numbers 1)).run [] = (.ok (), frame 66
        (bindBody "" "_zero_s_0" 1 [oid.int4, oid.int4] (valueBytes (some [0, 0, 0, 7]))) ++
          rest)) ∧
      ¬ ∀ path buf, Sound path buf := by
  refine ⟨rfl, ⟨_, rfl⟩, fun h => ?_⟩
  exact (h (exec (int4Statement 1) (numbers 2)) []).returns rfl

end BindPath

end ZeroPostgres
