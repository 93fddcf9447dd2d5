import ZeroPostgres.Conn.Chunks
import ZeroPostgres.Protocol.BindPaths

/-!
# Batches and the order of their sets

For raw SQL, `exec_batch` encodes every parameter set for the OIDs that the first one prefers. On a
server that fails none of it a batch so succeeds exactly when every set encodes for the OIDs of the
first (`execBatch_served`), and whether it does is the same for every order of the sets exactly when
each encodes for the OIDs of each (`batch_agrees_iff`). Of the library's values one encodes for the
OID of another of its type unless that is NULL and it is not (`Value.encodes_alike_iff`).
-/

namespace ZeroPostgres

open Conn

/-! ### A batch on a server that fails none of it -/

/-- The chunks of a list all encode, or one is the first that does not. -/
theorem chunks_cases (oids : List Oid) (chunks : List (List Params)) :
    (∀ chunk ∈ chunks, ∀ params ∈ chunk, params.encodes oids = true) ∨
      ∃ done front params back later e,
        chunks = done ++ (front ++ params :: back) :: later ∧
        (∀ chunk ∈ done, ∀ params ∈ chunk, params.encodes oids = true) ∧
        (∀ p ∈ front, p.encodes oids = true) ∧ params.encode oids = .error e := by
  have hsplit (chunk : List Params) : (∀ p ∈ chunk, p.encodes oids = true) ∨
      ∃ front params back e, chunk = front ++ params :: back ∧
        (∀ p ∈ front, p.encodes oids = true) ∧ params.encode oids = .error e := by
    induction chunk with
    | nil => exact .inl (by simp)
    | cons params chunk ih =>
      cases hencode : params.encode oids with
      | error e => exact .inr ⟨[], params, chunk, e, rfl, by simp, hencode⟩
      | ok values =>
        have hparams : params.encodes oids = true := by rw [Params.encodes, hencode]; rfl
        rcases ih with hall | ⟨front, p, back, e, rfl, hfront, hp⟩
        · exact .inl (List.forall_mem_cons.mpr ⟨hparams, hall⟩)
        · exact .inr ⟨params :: front, p, back, e, rfl,
            List.forall_mem_cons.mpr ⟨hparams, hfront⟩, hp⟩
  induction chunks with
  | nil => exact .inl (by simp)
  | cons chunk chunks ih =>
    rcases hsplit chunk with hchunk | ⟨front, params, back, e, rfl, hfront, hparams⟩
    · rcases ih with hall | ⟨done, front, params, back, later, e, rfl, hdone, hrest⟩
      · exact .inl (List.forall_mem_cons.mpr ⟨hchunk, hall⟩)
      · exact .inr ⟨chunk :: done, front, params, back, later, e, rfl,
          List.forall_mem_cons.mpr ⟨hchunk, hdone⟩, hrest⟩
    · exact .inr ⟨[], front, params, back, chunks, e, rfl, by simp, hfront, hparams⟩

theorem Peer.Accepts.left {P : Peer} {requests more : List (List Frontend)} {st : P.State}
    (h : P.Accepts st (requests ++ more)) : P.Accepts st requests := by
  induction requests generalizing st with
  | nil => trivial
  | cons request requests ih => exact ⟨h.1, ih h.2⟩

variable {P : Peer}

/-- The server fails none of the chunks of a batch. -/
def Peer.Serves (P : Peer) (st : P.State) (statement : StatementRef) (paramsList : List Params)
    (chunkSize : Nat) : Prop :=
  P.Accepts st ((batchChunks paramsList chunkSize).map (batchRequest statement paramsList))

theorem mem_batchChunks {paramsList : List Params} {chunkSize : Nat} {p : Params → Prop} :
    (∀ chunk ∈ batchChunks paramsList chunkSize, ∀ params ∈ chunk, p params) ↔
      ∀ params ∈ paramsList, p params := by
  have hflatten : (batchChunks paramsList chunkSize).flatten = paramsList :=
    Chunks.flatten_toChunks (by omega) paramsList
  constructor
  · intro h params hmem
    rw [← hflatten] at hmem
    obtain ⟨chunk, hchunk, hparams⟩ := List.mem_flatten.mp hmem
    exact h chunk hchunk params hparams
  · intro h chunk hchunk params hparams
    apply h
    rw [← hflatten]
    exact List.mem_flatten.mpr ⟨chunk, hchunk, hparams⟩

/-- On such a server a batch succeeds if all of its sets encode, and returns the error of one that
does not otherwise. -/
theorem execBatch_served {c : Sync.Conn P} (hc : c.Idle) {statement : StatementRef}
    {paramsList : List Params} {chunkSize : Nat}
    (hserves : P.Serves c.stream.peer statement paramsList chunkSize) :
    ((∀ params ∈ paramsList, params.encodes (batchOids statement paramsList) = true) ∧
        (execBatchChunked statement paramsList chunkSize c).1 = .ok ()) ∨
      ∃ params ∈ paramsList, ∃ e, params.encode (batchOids statement paramsList) = .error e ∧
        (execBatchChunked statement paramsList chunkSize c).1 = .err e := by
  rcases chunks_cases (batchOids statement paramsList) (batchChunks paramsList chunkSize) with
    hall | ⟨done, front, params, back, later, e, hchunks, hdone, hfront, hencode⟩
  · left
    obtain ⟨c', hrun, -⟩ := execBatchChunked_ends Sync.resumes hc rfl
      (List.append_nil _).symm hall hserves .all
    exact ⟨mem_batchChunks.mp hall, by rw [hrun]⟩
  · right
    rw [Peer.Serves, hchunks, List.map_append] at hserves
    obtain ⟨c', hrun, -⟩ := execBatchChunked_ends Sync.resumes hc rfl hchunks hdone
      hserves.left (.unencodable hfront hencode)
    have hmem : params ∈ paramsList := by
      have hflatten := Chunks.flatten_toChunks (n := max chunkSize 1) (by omega) paramsList
      rw [← hflatten, show paramsList.toChunks (max chunkSize 1) = _ from hchunks]
      simp
    exact ⟨params, hmem, e, hencode, by rw [hrun]⟩

/-! ### Errors of a batch -/

namespace Conn

variable {K : Type} [Driver K] {statement : StatementRef} {oids : List Oid} {name : String}

/-- The error comes out of an exchange: the server's own, or one that breaks the connection. -/
def FromExchange (e : Error) : Prop := e.isConnectionBroken = true ∨ ∃ error, e = .server error

theorem driveBatch_error (statement : StatementRef) (c : Conn P K) :
    Act.Meets (driveBatch (chunkMachine statement)) c fun o _ => ∀ e, o = .err e →
      FromExchange e := by
  have hs : (SyncedRequest.chunkStarted statement).Started := by
    cases statement <;> simp [SyncedRequest.chunkStarted, BatchStateMachine.Started]
  have hdriven := exchangeWith_driven (K := K) driveBatchRound_still driveBatchRound_rounded
    (SyncedRequest.step_chunk statement c.bufferSet)
  refine Act.Meets.mono hdriven ?_
  rintro o c' (rfl | ⟨-, rfl, -⟩ | ⟨-, -, hrun⟩) e he
  · cases he
  · cases he
    exact .inl rfl
  · cases hrun with
    | stop => cases he
    | error =>
      cases he
      exact .inr ⟨_, rfl⟩
    | failed hfailed =>
      cases he
      have hbreaks := BatchStateMachine.run_breaks hs c.bufferSet
        (c.stream.inbound ++ (P.feed c.stream.peer c.bufferSet.writeBuffer).1)
      rw [hfailed] at hbreaks
      exact .inl (hbreaks _ rfl)
    | bug hbreaks =>
      cases he
      exact .inl hbreaks
    | halt => cases he

omit [Driver K] in
theorem writeChunk_error_mem {chunk : List Params} {buf : List Frontend} {e : Error}
    (h : (writeChunk buf name oids chunk).1 = .error e) :
    ∃ params ∈ chunk, params.encode oids = .error e := by
  induction chunk generalizing buf with
  | nil => cases h
  | cons params chunk ih =>
    simp only [writeChunk, writeBind] at h
    cases hencode : params.encode oids with
    | ok values =>
      rw [hencode] at h
      obtain ⟨p, hmem, hp⟩ := ih h
      exact ⟨p, List.mem_cons_of_mem _ hmem, hp⟩
    | error e' =>
      rw [hencode] at h
      cases h
      exact ⟨params, List.mem_cons_self, hencode⟩

/-- A batch fails with an error of an exchange, or since a set does not encode. -/
theorem execChunks_error {chunks : List (List Params)} {c : Conn P K} {e : Error}
    (h : (execChunks statement oids name chunks c).1 = .err e) :
    FromExchange e ∨ ∃ chunk ∈ chunks, ∃ params ∈ chunk, params.encode oids = .error e := by
  induction chunks generalizing c with
  | nil => cases h
  | cons chunk chunks ih =>
    simp only [execChunks, Act.bind_run, setWriteBuffer, Act.modify_run] at h
    cases hwritten : (writeChunk (chunkHead statement oids) name oids chunk).1 with
    | error e' =>
      rw [hwritten] at h
      cases h
      exact .inr ⟨chunk, List.mem_cons_self, writeChunk_error_mem hwritten⟩
    | ok u =>
      rw [hwritten] at h
      simp only [Act.ofExcept_ok_run] at h
      generalize hloaded : ({ c with bufferSet := _ } : Conn P K) = c₁ at h
      have hdrive := (driveBatch_error statement c₁).at
      generalize driveBatch (chunkMachine statement) c₁ = r at h hdrive
      obtain ⟨o, c₂⟩ := r
      cases o with
      | ok m =>
        rcases ih h with hexchange | ⟨chunk', hmem, hparams⟩
        · exact .inl hexchange
        · exact .inr ⟨chunk', List.mem_cons_of_mem _ hmem, hparams⟩
      | err e' =>
        cases h
        exact .inl (hdrive _ rfl)
      | halt => cases h

/-- The same of `exec_batch`. -/
theorem execBatch_error {paramsList : List Params} {chunkSize : Nat} {c : Conn P K} {e : Error}
    (h : (execBatchChunked statement paramsList chunkSize c).1 = .err e) :
    FromExchange e ∨
      ∃ params ∈ paramsList, params.encode (batchOids statement paramsList) = .error e := by
  rw [execBatchChunked, guarded_eq] at h
  split at h
  · cases h
    exact .inl (.inl rfl)
  · have hinner : (execBatchInner statement paramsList chunkSize c).1 = .err e := by
      rw [markBroken] at h
      generalize execBatchInner statement paramsList chunkSize c = r at h ⊢
      obtain ⟨o, c'⟩ := r
      cases o with
      | ok u => cases h
      | err e' => cases h; rfl
      | halt => cases h
    rw [execBatchInner_eq] at hinner
    rcases execChunks_error hinner with hexchange | ⟨chunk, hchunk, params, hmem, hparams⟩
    · exact .inl hexchange
    · right
      have hflatten : (batchChunks paramsList chunkSize).flatten = paramsList :=
        Chunks.flatten_toChunks (by omega) paramsList
      rw [← hflatten]
      exact ⟨params, List.mem_flatten.mpr ⟨chunk, hchunk, hmem⟩, by rw [hflatten]; exact hparams⟩

end Conn

/-! ### A server that accepts every batch of an INSERT -/

namespace Reference

/-- A server at which every statement completes. -/
abbrev willing : Peer := scripted fun _ => .command

/-- The server between two chunks. -/
def AtRest (st : willing.State) : Prop :=
  (willing.session st).mode = .ready ∧ (willing.session st).status = .idle

/-- The server while the sets of a chunk are bound. -/
def Primed (st : willing.State) : Prop :=
  AtRest st ∧ (willing.session st).statements "" = some ⟨"INSERT", false⟩

/-- A Bind and an Execute are answered, and the statement stays. -/
theorem feed_set {st : willing.State} (h : Primed st) (oids : List Oid) (params : Params) :
    errorsIn (willing.feed st (setFrames oids "" params)).1 = [] ∧
      Primed (willing.feed st (setFrames oids "" params)).2 := by
  obtain ⟨⟨mode, status, statements, portals⟩, syncs⟩ := st
  obtain ⟨⟨hmode, hstatus⟩, hparsed⟩ := h
  obtain rfl : mode = .ready := hmode
  obtain rfl : status = .idle := hstatus
  have hstatement : statements "" = some ⟨"INSERT", false⟩ := hparsed
  have hrun : willing.feed ⟨⟨.ready, .idle, statements, portals⟩, syncs⟩
      (setFrames oids "" params) =
      ([⟨.bindComplete, []⟩, complete "SELECT"], ⟨⟨.ready, .idle, statements,
        Function.update portals "" (some ⟨"INSERT", false⟩)⟩, syncs⟩) := by
    simp [setFrames, bindOf, Peer.feed, willing, scripted, peer, respond, reply, replyReady,
      extended, hstatement, execution, effect, completion, Behaviour.command, dataRows,
      Session.completed]
  have herrors : errorsIn [⟨.bindComplete, []⟩, complete "SELECT"] = [] := by decide
  rw [hrun]
  exact ⟨herrors, ⟨rfl, rfl⟩, hstatement⟩

theorem feed_sets {st : willing.State} (h : Primed st) (oids : List Oid) (sets : List Params) :
    errorsIn (willing.feed st (sets.flatMap (setFrames oids ""))).1 = [] ∧
      Primed (willing.feed st (sets.flatMap (setFrames oids ""))).2 := by
  induction sets generalizing st with
  | nil => exact ⟨rfl, h⟩
  | cons params sets ih =>
    rw [List.flatMap_cons, willing.feed_append, errorsIn_append]
    obtain ⟨hset, hnext⟩ := feed_set h oids params
    obtain ⟨herrors, hend⟩ := ih hnext
    exact ⟨by rw [hset, herrors]; rfl, hend⟩

/-- So are a Parse and a Sync. -/
theorem feed_insert {st : willing.State} (h : AtRest st) (oids : List Oid) (chunk : List Params) :
    errorsIn (willing.feed st (chunkFrames (.sql "INSERT") oids "" chunk)).1 = [] ∧
      AtRest (willing.feed st (chunkFrames (.sql "INSERT") oids "" chunk)).2 := by
  have hparse : errorsIn (willing.feed st [.parse "" "INSERT" oids]).1 = [] ∧
      Primed (willing.feed st [.parse "" "INSERT" oids]).2 := by
    obtain ⟨⟨mode, status, statements, portals⟩, syncs⟩ := st
    obtain ⟨hmode, hstatus⟩ := h
    obtain rfl : mode = .ready := hmode
    exact ⟨rfl, ⟨rfl, hstatus⟩, rfl⟩
  have hsync {st : willing.State} (h : AtRest st) : errorsIn (willing.feed st [.sync]).1 = [] ∧
      AtRest (willing.feed st [.sync]).2 := by
    obtain ⟨⟨mode, status, statements, portals⟩, syncs⟩ := st
    obtain ⟨hmode, hstatus⟩ := h
    obtain rfl : mode = .ready := hmode
    exact ⟨rfl, rfl, hstatus⟩
  obtain ⟨hsets, hparsed⟩ := feed_sets hparse.2 oids chunk
  obtain ⟨hend, hrest⟩ := hsync hparsed.1
  rw [chunkFrames, willing.feed_append, willing.feed_append, chunkHead]
  dsimp only
  rw [errorsIn_append, errorsIn_append, hparse.1, hsets, hend]
  exact ⟨rfl, hrest⟩

theorem willing_accepts {st : willing.State} (h : AtRest st) (oids : List Oid)
    (chunks : List (List Params)) :
    willing.Accepts st (chunks.map (chunkFrames (.sql "INSERT") oids "")) := by
  induction chunks generalizing st with
  | nil => trivial
  | cons chunk chunks ih =>
    obtain ⟨herrors, hrest⟩ := feed_insert h oids chunk
    exact ⟨⟨herrors, hrest.1⟩, ih hrest⟩

end Reference

/-! ### Batches and single executions -/

/-- An error of encoding: one of that kind, or one that a parameter set reports when it is encoded
for the OIDs of a set. -/
def EncodingError (paramsList : List Params) (e : Error) : Prop :=
  (∃ text, e = .encode text) ∨
    ∃ p ∈ paramsList, ∃ q ∈ paramsList, p.encode q.naturalOids = .error e

/-- What is asked of a batch whose sets `exec` would all take: on no server it fails with an error
of encoding, and on one that fails nothing of it in any order, the order does not decide whether it
succeeds. -/
structure BatchAgrees (paramsList : List Params) (chunkSize : Nat) : Prop where
  encodes : ∀ (text : String) (P : Peer) (c : Sync.Conn P), c.Idle →
    ∀ e, EncodingError paramsList e →
      (execBatchChunked (.sql text) paramsList chunkSize c).1 ≠ .err e
  order : ∀ (text : String) (P : Peer) (c : Sync.Conn P), c.Idle →
    (∀ l, l.Perm paramsList → P.Serves c.stream.peer (.sql text) l chunkSize) →
    ∀ l, l.Perm paramsList →
      ((execBatchChunked (.sql text) l chunkSize c).1 = .ok () ↔
        (execBatchChunked (.sql text) paramsList chunkSize c).1 = .ok ())

/-- For raw SQL every set of the batch is encoded for what the first one prefers. -/
theorem batchOids_mem (text : String) {paramsList : List Params} (h : paramsList ≠ []) :
    ∃ first ∈ paramsList, batchOids (.sql text) paramsList = first.naturalOids := by
  cases paramsList with
  | nil => exact absurd rfl h
  | cons first rest => exact ⟨first, List.mem_cons_self, rfl⟩

/-- A batch does as its single executions do exactly when each of its sets encodes for the OIDs
that each prefers. -/
theorem batch_agrees_iff (paramsList : List Params) (chunkSize : Nat) :
    BatchAgrees paramsList chunkSize ↔
      ∀ p ∈ paramsList, ∀ q ∈ paramsList, p.encodes q.naturalOids = true := by
  constructor
  · intro h p hp q hq
    let c : Sync.Conn Reference.willing := Conn.fresh Reference.start ⟨⟩
    have hc : c.Idle := ⟨rfl, rfl, by simp [c, Conn.fresh], rfl, rfl⟩
    have hserves (l : List Params) :
        Reference.willing.Serves c.stream.peer (.sql "INSERT") l chunkSize :=
      Reference.willing_accepts ⟨rfl, rfl⟩ _ _
    -- the batch itself succeeds, since its only errors would be of encoding
    have hgiven : (execBatchChunked (.sql "INSERT") paramsList chunkSize c).1 = .ok () := by
      rcases execBatch_served hc (hserves paramsList) with ⟨-, hok⟩ | ⟨r, hr, e, hencode, herr⟩
      · exact hok
      · obtain ⟨first, hfirst, hoids⟩ := batchOids_mem "INSERT" (List.ne_nil_of_mem hp)
        rw [hoids] at hencode
        exact absurd herr (h.encodes _ _ c hc e (.inr ⟨r, hr, first, hfirst, hencode⟩))
    -- and so it does with `q` in front
    obtain ⟨front, back, rfl⟩ := List.append_of_mem hq
    have hperm : (q :: (front ++ back)).Perm (front ++ q :: back) := List.perm_middle.symm
    have hmoved := (h.order _ _ c hc (fun l _ => hserves l) _ hperm).mpr hgiven
    rcases execBatch_served hc (hserves (q :: (front ++ back))) with ⟨hall, -⟩ | ⟨r, -, e, -, herr⟩
    · exact hall p (hperm.mem_iff.mpr hp)
    · rw [hmoved] at herr
      cases herr
  · intro h
    have hencodes (text : String) {l : List Params} (hl : l.Perm paramsList) :
        ∀ p ∈ l, p.encodes (batchOids (.sql text) l) = true := by
      intro p hp
      obtain ⟨first, hfirst, hoids⟩ := batchOids_mem text (List.ne_nil_of_mem hp)
      rw [hoids]
      exact h p (hl.mem_iff.mp hp) first (hl.mem_iff.mp hfirst)
    have hno {p : Params} {oids : List Oid} {e : Error} (hp : p.encodes oids = true) :
        p.encode oids ≠ .error e := by
      intro he
      rw [Params.encodes, he] at hp
      cases hp
    constructor
    · rintro text P c hc e hencoding herr
      rcases hencoding with ⟨message, rfl⟩ | ⟨p, hp, q, hq, he⟩
      · rcases execBatch_error herr with (hbreaks | ⟨error, hserver⟩) | ⟨p, hp, he⟩
        · cases hbreaks
        · cases hserver
        · exact hno (hencodes text (.refl _) p hp) he
      · exact hno (h p hp q hq) he
    · intro text P c hc hserves l hl
      have hok {l : List Params} (hl : l.Perm paramsList) :
          (execBatchChunked (.sql text) l chunkSize c).1 = .ok () := by
        rcases execBatch_served hc (hserves l hl) with ⟨-, hok⟩ | ⟨p, hp, e, he, -⟩
        · exact hok
        · exact absurd he (hno (hencodes text hl p hp))
      exact iff_of_true (hok hl) (hok (.refl _))

/-! ### Values of the library -/

variable {crates : Crates}

namespace Value

/-- Values of one type prefer the same OID, as far as they are not NULL. -/
def Alike (v w : Value crates) : Prop :=
  v.isNull = false → w.isNull = false → v.naturalOid = w.naturalOid

theorem naturalOid_of_isNull {v : Value crates} (h : v.isNull = true) : v.naturalOid = 0 := by
  induction v with
  | none => rfl
  | some v ih | ref v ih => exact ih h
  | _ => cases h

/-- NULL encodes for every OID. -/
theorem encode_of_isNull {v : Value crates} (h : v.isNull = true) (target : Oid) :
    (v.encode target).isOk = true := by
  induction v with
  | none => rfl
  | some v ih | ref v ih => exact ih h
  | _ => cases h

/-- The OID that NULL prefers is one for which nothing else encodes. -/
theorem encode_zero {v : Value crates} (h : v.isNull = false) : (v.encode 0).isOk = false := by
  induction v with
  | none => cases h
  | some v ih | ref v ih => exact ih h
  | _ => rfl

/-- A value encodes for what another of its type prefers, unless that is NULL and it is not. -/
theorem encodes_alike_iff {v w : Value crates} (halike : Alike v w)
    (hsingle : (v.encode v.naturalOid).isOk = true) :
    (v.encode w.naturalOid).isOk = true ↔ (w.isNull = true → v.isNull = true) := by
  cases hv : v.isNull with
  | true => simp [encode_of_isNull hv]
  | false =>
    cases hw : w.isNull with
    | true => simp [naturalOid_of_isNull hw, encode_zero hv]
    | false => simp [← halike hv hw, hsingle]

end Value

/-- A tuple of values as a parameter set. -/
def tupleOf (values : List (Value crates)) : Params :=
  (ToParams.tuple (values.map Value.toWireValue)).toParams

theorem tupleOf_naturalOids (values : List (Value crates)) :
    (tupleOf values).naturalOids = values.map Value.naturalOid := List.map_map

/-- A tuple encodes for what another of its type prefers, unless that has a NULL where it has
none. -/
theorem tupleOf_encodes_iff {p q : List (Value crates)} (halike : List.Forall₂ Value.Alike p q)
    (hsingle : ∀ v ∈ p, (v.encode v.naturalOid).isOk = true) :
    (tupleOf p).encodes (tupleOf q).naturalOids = true ↔
      List.Forall₂ (fun v w => w.isNull = true → v.isNull = true) p q := by
  rw [tupleOf_naturalOids, tupleOf, ToParams.toParams_encodes_iff]
  have hlen : (ToParams.tuple (p.map Value.toWireValue)).indexes = true →
      (ToParams.tuple (p.map Value.toWireValue)).values.length ≤
        (q.map Value.naturalOid).length := by
    intro _
    rw [ToParams.values, List.length_map, List.length_map, halike.length_eq]
  rw [ToParams.Written, and_iff_left hlen]
  clear hlen
  induction halike with
  | nil => simp [ToParams.targeted, ToParams.values]
  | @cons v w p q hvw halike ih =>
    obtain ⟨hv, hp⟩ := List.forall_mem_cons.mp hsingle
    have htail := ih hp
    simp only [ToParams.targeted, ToParams.values, List.map_cons, List.zip_cons_cons,
      List.forall_mem_cons, List.forall₂_cons] at htail ⊢
    exact and_congr (Value.encodes_alike_iff hvw hv) htail

/-- Tuples of one type, each of which encodes alone, all encode for what each prefers exactly when
they have their NULLs in the same places. -/
theorem tuples_encode_iff {rows : List (List (Value crates))}
    (halike : ∀ p ∈ rows, ∀ q ∈ rows, List.Forall₂ Value.Alike p q)
    (hsingle : ∀ p ∈ rows, ∀ v ∈ p, (v.encode v.naturalOid).isOk = true) :
    (∀ p ∈ rows.map tupleOf, ∀ q ∈ rows.map tupleOf, p.encodes q.naturalOids = true) ↔
      ∀ p ∈ rows, ∀ q ∈ rows, p.map Value.isNull = q.map Value.isNull := by
  have hnulls {p q : List (Value crates)} (hlen : p.length = q.length) :
      (List.Forall₂ (fun v w => w.isNull = true → v.isNull = true) p q ∧
        List.Forall₂ (fun v w => w.isNull = true → v.isNull = true) q p) ↔
      p.map Value.isNull = q.map Value.isNull := by
    induction p generalizing q with
    | nil =>
      obtain rfl := List.eq_nil_of_length_eq_zero hlen.symm
      simp
    | cons v p ih =>
      cases q with
      | nil => cases hlen
      | cons w q =>
        have hrest := ih (Nat.succ.inj hlen)
        have hhead : ((w.isNull = true → v.isNull = true) ∧ (v.isNull = true → w.isNull = true)) ↔
            v.isNull = w.isNull := by
          cases v.isNull <;> cases w.isNull <;> simp
        rw [List.forall₂_cons, List.forall₂_cons, List.map_cons, List.map_cons, List.cons_eq_cons,
          ← hrest, ← hhead]
        tauto
  constructor
  · intro h p hp q hq
    have hpq := h _ (List.mem_map_of_mem hp) _ (List.mem_map_of_mem hq)
    have hqp := h _ (List.mem_map_of_mem hq) _ (List.mem_map_of_mem hp)
    rw [tupleOf_encodes_iff (halike p hp q hq) (hsingle p hp)] at hpq
    rw [tupleOf_encodes_iff (halike q hq p hp) (hsingle q hq)] at hqp
    exact (hnulls (halike p hp q hq).length_eq).mp ⟨hpq, hqp⟩
  · intro h p' hp' q' hq'
    obtain ⟨p, hp, rfl⟩ := List.mem_map.mp hp'
    obtain ⟨q, hq, rfl⟩ := List.mem_map.mp hq'
    rw [tupleOf_encodes_iff (halike p hp q hq) (hsingle p hp)]
    exact ((hnulls (halike p hp q hq).length_eq).mpr (h p hp q hq)).1

/-- The parameter sets `(None,)` and `(Some(1),)` of an `Option<i32>`. -/
def nullAndOne : List Params :=
  ([[.none], [.some (.i32 1)]] : List (List (Value Reference.crates))).map tupleOf

/-- Each encodes alone, and the batch of the two fails. -/
theorem batch_refuses_null :
    ¬ ∀ (paramsList : List Params) (chunkSize : Nat), paramsList ≠ [] →
      (∀ p ∈ paramsList, p.encodes p.naturalOids = true) →
      BatchAgrees paramsList chunkSize := by
  intro h
  have hagrees := h nullAndOne 1000 (by simp [nullAndOne]) (by decide +kernel)
  let c : Sync.Conn Reference.willing := Conn.fresh Reference.start ⟨⟩
  have hc : c.Idle := ⟨rfl, rfl, by simp [c, Conn.fresh], rfl, rfl⟩
  have hrun : (execBatchChunked (.sql "INSERT") nullAndOne 1000 c).1 =
      .err (.typeMismatch oid.int4 0) := by decide +kernel
  exact hagrees.encodes _ _ c hc _ (.inl ⟨_, rfl⟩) hrun

end ZeroPostgres
