import ZeroPostgres.Conversion.Crates

/-!
# Encoding of parameters

The implementations of `ToWireValue` in `src/src/conversion/`, floating point aside: what each
appends to the buffer for a target OID. `Value` is a value of one of the implementing types, with
`Option` and references around it. An implementation either appends a length and that many bytes or
fails before it has written anything.
-/

namespace ZeroPostgres

/-! ### Primitive types, `src/src/conversion/primitives.rs` -/

/-- `bool`, lines 40–55. -/
def encodeBool (b : Bool) (target : Oid) : Parsed Bytes :=
  if target = oid.bool then .ok (valueBytes (some [if b then 1 else 0]))
  else .err (.typeMismatch oid.bool target)

/-- A number of the given width, or the overflow the conversion to it reports. -/
def encodeWidth (width : Nat) (rustType pgType : String) (v : Int) : Parsed Bytes :=
  if BigEndian.Fits width v then .ok (valueBytes (some (BigEndian.intBytes width v)))
  else .err (.overflow rustType pgType)

/-- The number that encodes to a payload is the one the payload holds. -/
theorem valueBytes_intBytes_eq_iff {width : Nat} {v : Int} {bs : Bytes}
    (h : BigEndian.Fits width v) :
    valueBytes (some (BigEndian.intBytes width v)) = valueBytes (some bs) ↔
      bs.length = width ∧ v = BigEndian.int bs := by
  constructor
  · intro heq
    have hbytes := (List.append_inj heq (by simp)).2
    rw [← hbytes, BigEndian.int_intBytes h]
    exact ⟨BigEndian.length_intBytes width v, rfl⟩
  · rintro ⟨hlen, hv⟩
    have hbytes := BigEndian.intBytes_int bs
    rw [hlen, ← hv] at hbytes
    rw [hbytes]

/-- The integer types encode alike: the number in the width of the target. A width that holds every
value of the type is not checked in the source, and the check does not fail here. -/
def encodeInteger (natural : Oid) (rustType : String) (v : Int) (target : Oid) : Parsed Bytes :=
  if target = oid.int2 then encodeWidth 2 rustType "INT2" v
  else if target = oid.int4 then encodeWidth 4 rustType "INT4" v
  else if target = oid.int8 then encodeWidth 8 rustType "INT8" v
  else .err (.typeMismatch natural target)

/-- `i8`, lines 230–253. -/
def encodeI8 (v : Int8) : Oid → Parsed Bytes := encodeInteger oid.int2 "i8" v.toInt

/-- `i16`, lines 81–104. -/
def encodeI16 (v : Int16) : Oid → Parsed Bytes := encodeInteger oid.int2 "i16" v.toInt

/-- `i32`, lines 136–161. -/
def encodeI32 (v : Int32) : Oid → Parsed Bytes := encodeInteger oid.int4 "i32" v.toInt

/-- `i64`, lines 199–226. -/
def encodeI64 (v : Int64) : Oid → Parsed Bytes := encodeInteger oid.int8 "i64" v.toInt

/-- `u8`, lines 257–280. -/
def encodeU8 (v : UInt8) : Oid → Parsed Bytes := encodeInteger oid.int2 "u8" v.toNat

/-- `u16`, lines 284–310. -/
def encodeU16 (v : UInt16) : Oid → Parsed Bytes := encodeInteger oid.int4 "u16" v.toNat

/-- `u32`, lines 314–342. -/
def encodeU32 (v : UInt32) : Oid → Parsed Bytes := encodeInteger oid.int8 "u32" v.toNat

/-- `u64`, lines 346–375. -/
def encodeU64 (v : UInt64) : Oid → Parsed Bytes := encodeInteger oid.int8 "u64" v.toNat

/-! ### Strings and bytes -/

/-- The bytes of a string. -/
def utf8Bytes (s : String) : Bytes := s.toByteArray.data.toList

/-- `str`, `src/src/conversion/string.rs:62–78`; `String` encodes as its contents do. -/
def encodeStr (s : String) (target : Oid) : Parsed Bytes :=
  if target = oid.text ∨ target = oid.varchar ∨ target = oid.bpchar ∨ target = oid.name ∨
      target = oid.json ∨ target = oid.jsonb then .ok (valueBytes (some (utf8Bytes s)))
  else .err (.typeMismatch oid.text target)

/-- `[u8]`, `src/src/conversion/bytes.rs:54–69`; `Vec<u8>` encodes as its contents do. -/
def encodeBytes (bs : Bytes) (target : Oid) : Parsed Bytes :=
  if target = oid.bytea then .ok (valueBytes (some bs))
  else .err (.typeMismatch oid.bytea target)

/-- `uuid::Uuid`, `src/src/conversion/uuid.rs:26–41`. -/
def encodeUuid (u : Uuid) (target : Oid) : Parsed Bytes :=
  if target = oid.uuid then .ok (valueBytes (some u.toList))
  else .err (.typeMismatch oid.uuid target)

/-! ### `chrono`, `src/src/conversion/chrono.rs` -/

/-- Microseconds in eight bytes, as times and timestamps travel. -/
def microseconds (us : Int) : Bytes := valueBytes (some (BigEndian.intBytes 8 us))

/-- `chrono::NaiveDate`, lines 56–72. -/
def encodeNaiveDate (c : Chrono) (d : c.NaiveDate) (target : Oid) : Parsed Bytes :=
  if target = oid.date then
    .ok (valueBytes (some (BigEndian.intBytes 4 (c.numDays (c.signedDurationSince d c.pgEpoch)))))
  else .err (.typeMismatch oid.date target)

/-- `chrono::NaiveTime`, lines 108–125. -/
def encodeNaiveTime (c : Chrono) (t : c.NaiveTime) (target : Oid) : Parsed Bytes :=
  if target = oid.time then
    .ok (microseconds (c.numSecondsFromMidnight t * 1000000 + c.nanosecond t / 1000 : Nat))
  else .err (.typeMismatch oid.time target)

/-- The microseconds of a timestamp for either of its OIDs. -/
def encodeTimestamp (natural : Oid) (us : Int) (target : Oid) : Parsed Bytes :=
  if target = oid.timestamp ∨ target = oid.timestamptz then .ok (microseconds us)
  else .err (.typeMismatch natural target)

/-- `chrono::NaiveDateTime`, lines 178–195. -/
def encodeNaiveDateTime (c : Chrono) (t : c.NaiveDateTime) : Oid → Parsed Bytes :=
  let duration := c.naiveDateTime.signedDurationSince t c.pgEpochDt
  encodeTimestamp oid.timestamp ((c.numMicroseconds duration).getD int64Max)

/-- `DateTime<Utc>`, lines 246–263. -/
def encodeDateTimeUtc (c : Chrono) (t : c.DateTimeUtc) : Oid → Parsed Bytes :=
  let duration := c.dateTimeUtc.signedDurationSince t (c.andUtc c.pgEpochDt)
  encodeTimestamp oid.timestamptz ((c.numMicroseconds duration).getD int64Max)

/-! ### `time`, `src/src/conversion/time.rs` -/

/-- `time::Date`, lines 32–48. The subtraction panics where it overflows. -/
def encodeDate (c : TimeCrate) (d : c.Date) (target : Oid) : Parsed Bytes :=
  if target = oid.date then do
    let pgDays ← Checked.signed 4 (c.toJulianDay d - pgEpochJulianDay)
    .ok (valueBytes (some (BigEndian.intBytes 4 pgDays)))
  else .err (.typeMismatch oid.date target)

/-- `time::Time`, lines 85–105. -/
def encodeTime (c : TimeCrate) (t : c.Time) (target : Oid) : Parsed Bytes :=
  if target = oid.time then
    let (hour, minute, second, nano) := c.asHmsNano t
    .ok (microseconds
      (hour * 3600000000 + minute * 60000000 + second * 1000000 + nano / 1000 : Nat))
  else .err (.typeMismatch oid.time target)

/-- `time::PrimitiveDateTime`, lines 152–172. -/
def encodePrimitiveDateTime (c : TimeCrate) (t : c.PrimitiveDateTime) : Oid → Parsed Bytes :=
  encodeTimestamp oid.timestamp (c.wholeMicroseconds
    (c.primitiveDateTime.sub t c.primitiveDateTime.pgEpoch))

/-- `time::OffsetDateTime`, lines 221–242. -/
def encodeOffsetDateTime (c : TimeCrate) (t : c.OffsetDateTime) (target : Oid) : Parsed Bytes :=
  if target = oid.timestamp ∨ target = oid.timestamptz then do
    let utc ← c.toOffsetUtc t
    .ok (microseconds (c.wholeMicroseconds (c.offsetDateTime.sub utc c.offsetDateTime.pgEpoch)))
  else .err (.typeMismatch oid.timestamptz target)

/-! ### `rust_decimal`, `src/src/conversion/decimal.rs` -/

/-- `Decimal`, lines 130–146. -/
def encodeDecimal (c : RustDecimal) (d : c.Decimal) (target : Oid) : Parsed Bytes :=
  if target = oid.numeric then
    .ok (valueBytes (some (utf8Bytes (String.ofList (c.display d)))))
  else .err (.typeMismatch oid.numeric target)

/-! ### All of them -/

variable (crates : Crates)

/-- A value of a type that implements `ToWireValue`. -/
inductive Value where
  | bool (b : Bool)
  | i8 (v : Int8) | i16 (v : Int16) | i32 (v : Int32) | i64 (v : Int64)
  | u8 (v : UInt8) | u16 (v : UInt16) | u32 (v : UInt32) | u64 (v : UInt64)
  | str (s : String) | string (s : String)
  | slice (bs : Bytes) | vec (bs : Bytes)
  | uuid (u : Uuid)
  | naiveDate (d : crates.chrono.NaiveDate) | naiveTime (t : crates.chrono.NaiveTime)
  | naiveDateTime (t : crates.chrono.NaiveDateTime) | dateTimeUtc (t : crates.chrono.DateTimeUtc)
  | date (d : crates.time.Date) | time (t : crates.time.Time)
  | primitiveDateTime (t : crates.time.PrimitiveDateTime)
  | offsetDateTime (t : crates.time.OffsetDateTime)
  | decimal (d : crates.decimal.Decimal)
  | ref (v : Value)
  | none | some (v : Value)

namespace Value

variable {crates}

/-- `natural_oid`. -/
def naturalOid : Value crates → Oid
  | bool _ => oid.bool
  | i8 _ | i16 _ | u8 _ => oid.int2
  | i32 _ | u16 _ => oid.int4
  | i64 _ | u32 _ | u64 _ => oid.int8
  | str _ | string _ => oid.text
  | slice _ | vec _ => oid.bytea
  | uuid _ => oid.uuid
  | naiveDate _ | date _ => oid.date
  | naiveTime _ | time _ => oid.time
  | naiveDateTime _ | primitiveDateTime _ => oid.timestamp
  | dateTimeUtc _ | offsetDateTime _ => oid.timestamptz
  | decimal _ => oid.numeric
  | ref v => v.naturalOid
  | none => 0
  | some v => v.naturalOid

/-- The value is NULL, behind whatever options and references. -/
def isNull : Value crates → Bool
  | none => true
  | some v | ref v => v.isNull
  | _ => false

/-- `encode`: the bytes appended to the buffer. -/
def encode : Value crates → Oid → Parsed Bytes
  | bool b, target => encodeBool b target
  | i8 v, target => encodeI8 v target
  | i16 v, target => encodeI16 v target
  | i32 v, target => encodeI32 v target
  | i64 v, target => encodeI64 v target
  | u8 v, target => encodeU8 v target
  | u16 v, target => encodeU16 v target
  | u32 v, target => encodeU32 v target
  | u64 v, target => encodeU64 v target
  | str s, target | string s, target => encodeStr s target
  | slice bs, target | vec bs, target => encodeBytes bs target
  | uuid u, target => encodeUuid u target
  | naiveDate d, target => encodeNaiveDate crates.chrono d target
  | naiveTime t, target => encodeNaiveTime crates.chrono t target
  | naiveDateTime t, target => encodeNaiveDateTime crates.chrono t target
  | dateTimeUtc t, target => encodeDateTimeUtc crates.chrono t target
  | date d, target => encodeDate crates.time d target
  | time t, target => encodeTime crates.time t target
  | primitiveDateTime t, target => encodePrimitiveDateTime crates.time t target
  | offsetDateTime t, target => encodeOffsetDateTime crates.time t target
  | decimal d, target => encodeDecimal crates.decimal d target
  | ref v, target | some v, target => v.encode target
  | none, _ => .ok (valueBytes Option.none)

end Value

end ZeroPostgres
