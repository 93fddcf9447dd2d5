import ZeroPostgres.Conversion.Malformed

/-!
# Rows in place

`RefFromRow` as `#[derive(RefFromRow)]` generates it, `src/zero-postgres-derive/src/lib.rs:333–373`:
the bytes of the columns, lengths included, are taken for the struct if there are enough of them.
The lengths are fields of the struct that nothing compares with the sizes of the types.
`refFromRow_correct_iff` says for which rows that is what `FromRow` would decode.

The derive also emits empty implementations of the `zerocopy` traits (`343–345`), which that crate
does not accept: a struct has the generated function only if it derives those traits itself.
-/

namespace ZeroPostgres

/-! ### The types of the fields -/

/-- The types with a fixed wire size, `src/src/conversion/ref_row.rs:40–71`: the big-endian
integers, and those of one byte. -/
inductive FixedWire where
  | i8 | u8 | i16 | u16 | i32 | u32 | i64 | u64
deriving DecidableEq, Repr

namespace FixedWire

/-- `WIRE_SIZE`. -/
def wireSize : FixedWire → Nat
  | i8 | u8 => 1
  | i16 | u16 => 2
  | i32 | u32 => 4
  | i64 | u64 => 8

/-- `get` of the integer in the bytes. -/
def int : FixedWire → Bytes → Int
  | i8, bs | i16, bs | i32, bs | i64, bs => BigEndian.int bs
  | u8, bs | u16, bs | u32, bs | u64, bs => BigEndian.nat bs

end FixedWire

/-- An integer of so many bytes, or the error about the length of the slice. -/
def readInt (width : Nat) (rustType : String) (bytes : Bytes) : Parsed Int :=
  if bytes.length = width then .ok (BigEndian.int bytes)
  else .err (.decode ("invalid " ++ rustType ++ " length: " ++ toString bytes.length))

/-- `i16::from_binary`, `src/src/conversion/primitives.rs:70–78`. -/
def i16FromBinary (source : Oid) (bytes : Bytes) : Parsed Int :=
  if source = oid.int2 then readInt 2 "i16" bytes
  else .err (.decode ("cannot decode oid " ++ toString source ++ " as i16"))

/-- `i32::from_binary`, `src/src/conversion/primitives.rs:117–133`. -/
def i32FromBinary (source : Oid) (bytes : Bytes) : Parsed Int :=
  if source = oid.int2 then readInt 2 "i16" bytes
  else if source = oid.int4 then readInt 4 "i32" bytes
  else .err (.decode ("cannot decode oid " ++ toString source ++ " as i32"))

/-- `i64::from_binary`, `src/src/conversion/primitives.rs:174–196`. -/
def i64FromBinary (source : Oid) (bytes : Bytes) : Parsed Int :=
  if source = oid.int2 then readInt 2 "i16" bytes
  else if source = oid.int4 then readInt 4 "i32" bytes
  else if source = oid.int8 then readInt 8 "i64" bytes
  else .err (.decode ("cannot decode oid " ++ toString source ++ " as i64"))

/-- `from_binary` of the integer type, for a column of the type it is the integer of; the other
integers do not implement `FromWireValue`. -/
def FixedWire.fromBinary : FixedWire → Option (Bytes → Parsed Int)
  | i16 => some (i16FromBinary oid.int2)
  | i32 => some (i32FromBinary oid.int4)
  | i64 => some (i64FromBinary oid.int8)
  | i8 | u8 | u16 | u32 | u64 => none

/-! ### The struct -/

/-- `LengthPrefixed<T>`, `src/src/conversion/ref_row.rs:97–104`. -/
structure LengthPrefixed where
  len : Int
  value : Int
deriving DecidableEq, Repr

/-- `EXPECTED_SIZE`: each field is its length and its integer. -/
def expectedSize (fields : List FixedWire) : Nat := (fields.map fun f => 4 + f.wireSize).sum

/-- A packed struct of such fields over as many bytes: one field behind the other. -/
def overlay : List FixedWire → Bytes → List LengthPrefixed
  | [], _ => []
  | f :: fields, data =>
    ⟨BigEndian.int (data.take 4), f.int ((data.drop 4).take f.wireSize)⟩ ::
      overlay fields (data.drop (4 + f.wireSize))

/-- `ref_from_row_binary`. The bytes cut off are as many as the struct has, and the struct may stand
anywhere, so the cast does not fail. -/
def refFromRow (fields : List FixedWire) (_cols : List FieldDescription) (row : DataRow) :
    Parsed (List LengthPrefixed) :=
  let data := row.columnsData
  if data.length < expectedSize fields then
    .err (.decode ("Row data too small: expected " ++ toString (expectedSize fields) ++
      " bytes, got " ++ toString data.length))
  else .ok (overlay fields (data.take (expectedSize fields)))

/-! ### What the struct holds -/

/-- The values are those the struct is laid out for. -/
def Matches (fields : List FixedWire) (values : List (Option Bytes)) : Prop :=
  List.Forall₂ (fun f value => ∃ bs, value = some bs ∧ bs.length = f.wireSize) fields values

variable {fields : List FixedWire} {values : List (Option Bytes)}

theorem Matches.length_flatMap (h : Matches fields values) :
    (values.flatMap valueBytes).length = expectedSize fields := by
  induction h with
  | nil => rfl
  | cons hhead _ ih =>
    obtain ⟨bs, rfl, hlen⟩ := hhead
    rw [List.flatMap_cons, List.length_append, ih, expectedSize, expectedSize, List.map_cons,
      List.sum_cons, valueBytes, List.length_append, BigEndian.length_bytes, hlen]

/-- The fields of a struct over such values are their integers. -/
theorem Matches.overlay (h : Matches fields values) {i : Nat} {f : FixedWire}
    (hf : fields[i]? = some f) :
    ∃ p bs, (ZeroPostgres.overlay fields (values.flatMap valueBytes))[i]? = some p ∧
      values[i]? = some (some bs) ∧ bs.length = f.wireSize ∧ p.value = f.int bs := by
  induction h generalizing i with
  | nil => cases hf
  | @cons g value fields values hhead htail ih =>
    obtain ⟨bs, rfl, hlen⟩ := hhead
    have hfour : (BigEndian.bytes 4 bs.length).length = 4 := BigEndian.length_bytes 4 _
    have hdrop : ((some bs :: values).flatMap valueBytes).drop 4 =
        bs ++ values.flatMap valueBytes := by
      rw [List.flatMap_cons, valueBytes, List.append_assoc]
      exact List.drop_left' hfour
    cases i with
    | zero =>
      cases hf
      refine ⟨_, bs, rfl, rfl, hlen, ?_⟩
      dsimp only
      rw [hdrop, List.take_left' hlen]
    | succ i =>
      have hrest : ((some bs :: values).flatMap valueBytes).drop (4 + g.wireSize) =
          values.flatMap valueBytes := by
        rw [← List.drop_drop, hdrop, List.drop_left' hlen]
      rw [ZeroPostgres.overlay, hrest]
      exact ih hf

/-- Bytes of the size of an integer decode to it. -/
theorem FixedWire.fromBinary_ok {f : FixedWire} {bs : Bytes} (hlen : bs.length = f.wireSize)
    {decode : Bytes → Parsed Int} (h : f.fromBinary = some decode) :
    decode bs = .ok (f.int bs) := by
  cases f with
  | i8 | u8 | u16 | u32 | u64 => cases h
  | i16 | i32 | i64 =>
    cases h
    exact if_pos hlen

/-- The struct is there exactly when the row has its columns, none of them NULL and each of the size
of its integer; and its fields are then the integers of the columns, as decoding them would give
them. -/
def RefCorrect (fields : List FixedWire) (r : DescribedRow) : Prop :=
  ∃ row, DataRow.parse r.payload = .ok row ∧
    ((∃ view, refFromRow fields r.cols row = .ok view) ↔ Matches fields (r.cells.map Prod.snd)) ∧
    ∀ view, refFromRow fields r.cols row = .ok view → ∀ (i : Nat) f, fields[i]? = some f →
      ∃ p bs, view[i]? = some p ∧ (r.cells.map Prod.snd)[i]? = some (some bs) ∧
        p.value = f.int bs ∧ ∀ decode, f.fromBinary = some decode → decode bs = .ok p.value

/-- Besides the rows that match the struct, it is those with too few bytes that are told apart. -/
theorem refFromRow_correct_iff (fields : List FixedWire) (r : DescribedRow) :
    RefCorrect fields r ↔
      Matches fields (r.cells.map Prod.snd) ∨
        ((r.cells.map Prod.snd).flatMap valueBytes).length < expectedSize fields := by
  have hdata : r.row.columnsData = (r.cells.map Prod.snd).flatMap valueBytes := rfl
  constructor
  · rintro ⟨row, hparse, hok, -⟩
    rw [r.parse_payload, Outcome.ok.injEq] at hparse
    subst hparse
    by_cases hshort : ((r.cells.map Prod.snd).flatMap valueBytes).length < expectedSize fields
    · exact .inr hshort
    · rw [refFromRow, hdata, if_neg hshort] at hok
      exact .inl (hok.mp ⟨_, rfl⟩)
  · intro h
    refine ⟨r.row, r.parse_payload, ?_⟩
    rw [refFromRow, hdata]
    rcases h with hmatches | hshort
    · have hlen := hmatches.length_flatMap
      rw [if_neg (by omega), List.take_of_length_le (by omega)]
      refine ⟨iff_of_true ⟨_, rfl⟩ hmatches, ?_⟩
      intro view hview i f hf
      cases hview
      obtain ⟨p, bs, hp, hbs, hwidth, hvalue⟩ := hmatches.overlay hf
      refine ⟨p, bs, hp, hbs, hvalue, fun decode hdecode => ?_⟩
      rw [hvalue]
      exact FixedWire.fromBinary_ok hwidth hdecode
    · rw [if_pos hshort]
      refine ⟨iff_of_false (fun ⟨view, hview⟩ => by cases hview) fun hmatches => ?_,
        fun view hview => by cases hview⟩
      have hlen := hmatches.length_flatMap
      omega

/-- Two columns that are NULL. -/
def twoNulls : DescribedRow where
  cells := [(Struct.byteaColumn "id", none), (Struct.byteaColumn "login_count", none)]
  count_lt := by decide
  length_lt := by simp

/-- Two NULLs are as long as one column of type INT4, and are taken for it. -/
theorem refFromRow_twoNulls :
    refFromRow [.i32] twoNulls.cols twoNulls.row = .ok [⟨-1, -1⟩] ∧
      ¬ RefCorrect [.i32] twoNulls := by
  have hcast : refFromRow [.i32] twoNulls.cols twoNulls.row = .ok [⟨-1, -1⟩] := by
    decide +kernel
  refine ⟨hcast, ?_⟩
  rintro ⟨row, hparse, hok, -⟩
  rw [twoNulls.parse_payload, Outcome.ok.injEq] at hparse
  subst hparse
  obtain ⟨bs, hbs, -⟩ := (List.forall₂_cons.mp (hok.mp ⟨_, hcast⟩)).1
  cases hbs

end ZeroPostgres
