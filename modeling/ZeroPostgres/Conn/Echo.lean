import ZeroPostgres.Conn.Typed
import ZeroPostgres.Conversion.Echo
import ZeroPostgres.Protocol.BindPaths
import ZeroPostgres.Server.Contents

/-!
# Statements that return their parameters

`exec_first` of a statement that gives back what it is given, as `SELECT $1, $2` does, with a tuple
as parameters and as the type of the row. `exec_echo_iff` puts the two directions of the conversions
together over the connection.
-/

namespace ZeroPostgres

/-- What a conversion of a row returns. A panic in it is an error here. -/
def rowResult {α : Type} : Parsed α → Except Error α
  | .ok a => .ok a
  | .err e => .error e
  | .halt => .error (.libraryBug "panic")

theorem rowResult_eq_ok_iff {α : Type} {x : Parsed α} {a : α} :
    rowResult x = .ok a ↔ x = .ok a := by
  cases x <;> simp [rowResult]

/-- `FromRow` of a tuple. -/
def tupleRow {crates : Crates} {n : Nat} (texts : WireType.Texts crates)
    (type : Fin n → WireType) : FromRow ((i : Fin n) → (type i).Carrier crates) where
  fromRowText cols row :=
    rowResult (tupleFromRow .text (fun i => (type i).fromWireValue texts) cols row)
  fromRowBinary cols row :=
    rowResult (tupleFromRow .binary (fun i => (type i).fromWireValue texts) cols row)

/-- A tuple as parameters. -/
def tupleParams {crates : Crates} {n : Nat} (type : Fin n → WireType)
    (v : (i : Fin n) → (type i).Carrier crates) : Params :=
  (ToParams.tuple (List.ofFn fun i => ((type i).toValue (v i)).toWireValue)).toParams

/-- A tuple of which every component encodes writes them in order. -/
theorem encodeTuple_ofFn {n : Nat} {w : Fin n → ToWireValue} {target : Fin n → Oid}
    {encoded : Fin n → Bytes} (h : ∀ i, (w i).encode (target i) = .ok (encoded i)) (buf : Bytes) :
    ToParams.encodeTuple (List.ofFn w) (List.ofFn target) buf =
      (.ok (), buf ++ (List.ofFn encoded).flatten) := by
  induction n generalizing buf with
  | zero => simp [ToParams.encodeTuple]
  | succ n ih =>
    have hrest := ih (fun i => h i.succ) (buf ++ encoded 0)
    rw [List.append_assoc] at hrest
    rw [List.ofFn_succ, List.ofFn_succ, List.ofFn_succ, ToParams.encodeTuple, Act.bind_run,
      ToWireValue.append, h 0]
    exact hrest

namespace Echo

variable {server : ServerTypes} {crates : Crates} {n : Nat} {type : Fin n → WireType}
  {v : (i : Fin n) → (type i).Carrier crates} (e : Echo server type v)

/-- The OIDs of the columns. -/
def targets : List Oid := List.ofFn fun i => (e.field i).typeOid

/-- What the parameters encode to. -/
def values : Bytes := (List.ofFn e.encoded).flatten

/-- Every component is encoded for the OID of its column. -/
theorem encode_tupleParams : (tupleParams type v).encode e.targets = .ok e.values := by
  have hrun := encodeTuple_ofFn (w := fun i => ((type i).toValue (v i)).toWireValue) e.encode_eq []
  simp only [tupleParams, ToParams.toParams, ToParams.encode, targets, hrun, List.nil_append]
  rfl

end Echo

namespace Conn

open Act

variable {P : Peer} {K : Type} [Driver K] {c : Conn P K}

/-- A tuple that a statement returns as a row is the tuple of its parameters if and only if the
server holds each component as it is and its decoder gives it back. -/
theorem exec_echo_iff (hP : P.NoCopy) (hc : c.Regular) (ha : c.Aligned)
    (hcut : c.stream.cut = none) (hready : c.exchangeReady = true)
    (husable : (Driver.refuses K && c.isBroken) = false) {crates : Crates}
    (hcrates : crates.Lawful) (hyears : crates.time.FourDigitYears) {server : ServerTypes}
    (hserver : server.Lawful) {n : Nat} {type : Fin n → WireType}
    {v : (i : Fin n) → (type i).Carrier crates} (e : Echo server type v)
    (texts : WireType.Texts crates) {statement : StatementRef}
    (htargets : statement.targetOids (tupleParams type v) = e.targets)
    (hopen : (P.session (P.feed c.stream.peer
      (execFrames statement (tupleParams type v) e.values)).2).mode ≠ .closed)
    (hrows : describedRows (callbacksOf []
      (c.reply (execFrames statement (tupleParams type v) e.values))) = [(e.cols, e.row)])
    (herrors : errorsIn (c.reply (execFrames statement (tupleParams type v) e.values)) = []) :
    (∃ w, (execFirst (tupleRow texts type) statement (tupleParams type v) c).1 = .ok (some w) ∧
      ∀ i, (type i).Same (v i) (w i)) ↔
    ∀ i, ((type i).toValue (v i)).Exact server.isJson (e.field i).typeOid ∧
      (type i).Returns (v i) (e.field i).typeOid := by
  have hencode : (tupleParams type v).encode
      (statement.targetOids (tupleParams type v)) = .ok e.values := by
    rw [htargets]
    exact e.encode_tupleParams
  have hfirst := ((exec_returns hP hc ha hcut hready husable hencode hopen).exact
    (tupleRow texts type).fromRowBinary (fun (s : Unit) _ => .ok s) ()).2.1
  rw [hrows, herrors, List.head?_nil, List.head?_cons] at hfirst
  have hdecode (w : (i : Fin n) → (type i).Carrier crates) :
      (execFirst (tupleRow texts type) statement (tupleParams type v) c).1 = .ok (some w) ↔
        tupleFromRow .binary (fun i => (type i).fromWireValue texts) e.cols e.row = .ok w := by
    rw [← rowResult_eq_ok_iff (a := w)]
    refine (Eq.congr_left hfirst).trans ?_
    change resultOf none (some <$> rowResult _) = _ ↔ _
    generalize rowResult (tupleFromRow .binary _ e.cols e.row) = r
    cases r with
    | ok w' => simp [resultOf]
    | error err => simp [resultOf]
  simp only [hdecode]
  exact e.tuple_iff hcrates hyears hserver texts

/-! ### A row -/

/-- A number, a text that could be NULL and a date. -/
def sampleType : Fin 3 → WireType
  | 0 => .i32
  | 1 => .option .string
  | 2 => .naiveDate

/-- 2024-01-15 for the date. -/
def sampleValue : (i : Fin 3) → (sampleType i).Carrier Reference.crates
  | 0 => (7 : Int32)
  | 1 => some "naïve"
  | 2 => Reference.sampleDate

/-- The columns of `SELECT $1, $2, $3`. -/
def sampleColumn : Fin 3 → Column
  | 0 => ⟨"number", 0, 0, oid.int4, 4, -1, .binary⟩
  | 1 => ⟨"text", 0, 0, oid.text, -1, -1, .binary⟩
  | 2 => ⟨"date", 0, 0, oid.date, 4, -1, .binary⟩

def sampleField (i : Fin 3) : FieldDescription := ⟨(sampleColumn i).name, (sampleColumn i).tail⟩

def sampleData : Fin 3 → Bytes
  | 0 => [0, 0, 0, 7]
  | 1 => utf8Bytes "naïve"
  | 2 => [0, 0, 34, 76]

def sampleDatum : Fin 3 → Datum
  | 0 => .int 7
  | 1 => .text "naïve"
  | 2 => .date 8780

/-- The types of the server. -/
def sampleTypes : ServerTypes := Reference.types fun _ => true

theorem sample_encode : ∀ i, ((sampleType i).toValue (sampleValue i)).encode
    (sampleField i).typeOid = .ok (valueBytes (some (sampleData i))) := by
  decide +kernel

theorem sample_accept : ∀ i, sampleTypes.accept (sampleField i).typeOid
    (valueBytes (some (sampleData i))) = some (sampleDatum i) := by
  decide +kernel

theorem sample_sends : ∀ i, sampleTypes.sends (sampleField i).typeOid (sampleDatum i)
    (some (sampleData i)) := by
  intro i
  have hshort : ∀ i data, some (sampleData i) = some data → data.length < 2 ^ 31 := by
    rintro i data h
    cases h
    revert i
    decide +kernel
  match i with
  | 0 | 1 | 2 => exact ⟨hshort _, congrArg some (by decide +kernel)⟩

def sampleEcho : Echo sampleTypes sampleType sampleValue :=
  ⟨sampleField, fun i => valueBytes (some (sampleData i)), sampleDatum,
    fun i => some (sampleData i), sample_encode, sample_accept, sample_sends⟩

/-- A server that answers a statement with that row. -/
def sampleServer : Peer :=
  (Reference.scripted fun _ => .select 1).relabel
    (contents (RowDescription.payload (List.ofFn sampleColumn))
      (DataRow.payload (List.ofFn fun i => some (sampleData i))))
    (relabels_contents (by decide +kernel) (by decide +kernel))

/-- A connection to it after the startup exchange. -/
def sampleConn : Tokio.Conn sampleServer := .fresh Reference.start ⟨false, false⟩

theorem sample_returns : ∀ i, ((sampleType i).toValue (sampleValue i)).Exact (fun _ => true)
    (sampleField i).typeOid ∧ (sampleType i).Returns (sampleValue i) (sampleField i).typeOid := by
  intro i
  match i with
  | 0 => exact ⟨trivial, .inr rfl⟩
  | 1 =>
    have htext : (sampleField 1).typeOid = oid.text := by decide +kernel
    rw [htext]
    exact ⟨⟨by decide +kernel, by decide +kernel, fun h => absurd h (by decide), fun _ => rfl,
      by decide⟩, rfl, (by decide : oid.text ≠ oid.json)⟩
  | 2 =>
    have hday : ServerTypes.DateRange 8780 := by decide
    have hepoch : (0 : Int) ≤ 8780 := by decide
    exact ⟨hday, hepoch⟩

/-- Decoders that know no text. -/
def sampleTexts : WireType.Texts Reference.crates :=
  ⟨fun _ => "", fun _ => "", fun _ _ _ => .err (.decode "")⟩

theorem exec_echo_sample : ∃ w, (execFirst (tupleRow sampleTexts sampleType)
      (.sql "SELECT $1, $2, $3") (tupleParams sampleType sampleValue) sampleConn).1 =
        .ok (some w) ∧ ∀ i, (sampleType i).Same (sampleValue i) (w i) :=
  (exec_echo_iff (c := sampleConn) (Peer.relabel_noCopy (Reference.peer_noCopy _) _)
    (by decide +kernel) (by decide +kernel) rfl (by decide +kernel) (by decide +kernel)
    Reference.crates_lawful Reference.time_fourDigitYears (Reference.types_lawful fun _ => true)
    sampleEcho sampleTexts (by decide +kernel) (by decide +kernel) (by decide +kernel)
    (by decide +kernel)).mpr sample_returns

end Conn

end ZeroPostgres
