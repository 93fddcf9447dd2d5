import ZeroPostgres.Conversion.DecimalBinary
import ZeroPostgres.Conversion.Integers
import ZeroPostgres.Conversion.JulianDate
import ZeroPostgres.Conversion.Row
import ZeroPostgres.Conversion.TimeOfDay
import ZeroPostgres.Conversion.Timestamp

/-!
# Types that travel both ways

The types of `src/src/conversion/` that implement `ToWireValue` as well as `FromWireValue`, floating
point aside, with the binary decoders the other modules have no use for. Two values of a type are
the `Same` when `==` says so: a decimal is its value and an `OffsetDateTime` its instant.
-/

namespace ZeroPostgres

/-! ### Decoders -/

/-- `bool::from_binary`, `src/src/conversion/primitives.rs:26–37`. -/
def boolFromBinary (target : Oid) (bs : Bytes) : Parsed Bool :=
  if target ≠ oid.bool then
    .err (.decode ("cannot decode oid " ++ toString target ++ " as bool"))
  else
    match bs with
    | [b] => .ok (b != 0)
    | _ => .err (.decode ("invalid boolean length: " ++ toString bs.length))

/-- `String::from_binary`, `src/src/conversion/string.rs:48–59`. What is printed of bytes that are
no text is a parameter. -/
def stringFromBinary (utf8Error : Bytes → String) (target : Oid) (bs : Bytes) : Parsed String :=
  if target = oid.text ∨ target = oid.varchar ∨ target = oid.bpchar ∨ target = oid.name then
    match String.fromUTF8? ⟨bs.toArray⟩ with
    | some s => .ok s
    | none => .err (.decode ("invalid UTF-8: " ++ utf8Error bs))
  else .err (.decode ("cannot decode oid " ++ toString target ++ " as String"))

/-- `Vec<u8>::from_binary`, `src/src/conversion/bytes.rs:43–51`. -/
def vecFromBinary (target : Oid) (bs : Bytes) : Parsed Bytes :=
  if target ≠ oid.bytea then
    .err (.decode ("cannot decode oid " ++ toString target ++ " as Vec<u8>"))
  else .ok bs

/-- `Uuid::from_binary`, `src/src/conversion/uuid.rs:18–23`. What the crate prints of a slice of
another length is a parameter. -/
def uuidFromBinary (lengthError : Nat → String) (target : Oid) (bs : Bytes) : Parsed Uuid :=
  if target ≠ oid.uuid then
    .err (.decode ("cannot decode oid " ++ toString target ++ " as UUID"))
  else if h : bs.toArray.size = 16 then .ok ⟨bs.toArray, h⟩
  else .err (.decode ("invalid UUID: " ++ lengthError bs.length))

/-- Both decoders of the crate `time` for eight bytes of microseconds,
`src/src/conversion/time.rs:140–148` and `:209–217`. -/
def instantFromBinary (c : TimeCrate) (ops : DateTimes c.Duration) (bs : Bytes) :
    Parsed ops.DateTime :=
  if bs.length ≠ 8 then .err (.decode ("invalid Timestamp length: " ++ toString bs.length))
  else
    match ops.checkedAdd ops.pgEpoch (c.microseconds (BigEndian.int bs)) with
    | some t => .ok t
    | none => .err (.decode "timestamp overflow")

/-- `PrimitiveDateTime::from_binary`. -/
def primitiveDateTimeFromBinary (c : TimeCrate) (target : Oid) (bs : Bytes) :
    Parsed c.PrimitiveDateTime :=
  if target ≠ oid.timestamp ∧ target ≠ oid.timestamptz then
    .err (.decode ("cannot decode oid " ++ toString target ++ " as Timestamp"))
  else instantFromBinary c c.primitiveDateTime bs

/-- `OffsetDateTime::from_binary`. -/
def offsetDateTimeFromBinary (c : TimeCrate) (target : Oid) (bs : Bytes) :
    Parsed c.OffsetDateTime :=
  if target ≠ oid.timestamptz then
    .err (.decode ("cannot decode oid " ++ toString target ++ " as OffsetDateTime"))
  else instantFromBinary c c.offsetDateTime bs

/-! ### The types -/

/-- A type that implements both traits. -/
inductive WireType where
  | bool
  | i16 | i32 | i64
  | string | vec
  | uuid
  | naiveDate | naiveTime | naiveDateTime | dateTimeUtc
  | date | time | primitiveDateTime | offsetDateTime
  | decimal
  | option (type : WireType)

namespace WireType

variable (crates : Crates)

/-- The values of the type. -/
@[reducible] def Carrier : WireType → Type
  | bool => Bool
  | i16 => Int16
  | i32 => Int32
  | i64 => Int64
  | string => String
  | vec => Bytes
  | uuid => Uuid
  | naiveDate => crates.chrono.NaiveDate
  | naiveTime => crates.chrono.NaiveTime
  | naiveDateTime => crates.chrono.NaiveDateTime
  | dateTimeUtc => crates.chrono.DateTimeUtc
  | date => crates.time.Date
  | time => crates.time.Time
  | primitiveDateTime => crates.time.PrimitiveDateTime
  | offsetDateTime => crates.time.OffsetDateTime
  | decimal => crates.decimal.Decimal
  | option type => Option type.Carrier

variable {crates}

/-- A value of the type as a parameter. -/
def toValue : (type : WireType) → type.Carrier crates → Value crates
  | bool, b => .bool b
  | i16, v => .i16 v
  | i32, v => .i32 v
  | i64, v => .i64 v
  | string, s => .string s
  | vec, bs => .vec bs
  | uuid, u => .uuid u
  | naiveDate, d => .naiveDate d
  | naiveTime, t => .naiveTime t
  | naiveDateTime, t => .naiveDateTime t
  | dateTimeUtc, t => .dateTimeUtc t
  | date, d => .date d
  | time, t => .time t
  | primitiveDateTime, t => .primitiveDateTime t
  | offsetDateTime, t => .offsetDateTime t
  | decimal, d => .decimal d
  | option _, none => .none
  | option type, some v => .some (type.toValue v)

/-- `==`. -/
def Same : (type : WireType) → type.Carrier crates → type.Carrier crates → Prop
  | offsetDateTime, t, t' =>
    crates.time.instant crates.time.offsetDateTime t =
      crates.time.instant crates.time.offsetDateTime t'
  | decimal, d, d' => crates.decimal.value d = crates.decimal.value d'
  | option type, some v, some v' => type.Same v v'
  | option _, none, none => True
  | option _, none, some _ | option _, some _, none => False
  | bool, v, v' | i16, v, v' | i32, v, v' | i64, v, v' | string, v, v' | vec, v, v' | uuid, v, v'
  | naiveDate, v, v' | naiveTime, v, v' | naiveDateTime, v, v' | dateTimeUtc, v, v' | date, v, v'
  | time, v, v' | primitiveDateTime, v, v' => v = v'

/-- What is printed of bytes that are no text or no UUID, and the decoders of texts. -/
structure Texts (crates : Crates) where
  utf8Error : Bytes → String
  uuidError : Nat → String
  fromText : (type : WireType) → Oid → Bytes → Parsed (type.Carrier crates)

/-- `FromWireValue` of the type. -/
def fromWireValue (texts : Texts crates) : (type : WireType) → FromWireValue (type.Carrier crates)
  | bool => ⟨FromWireValue.noNull, texts.fromText bool, boolFromBinary⟩
  | i16 => ⟨FromWireValue.noNull, texts.fromText i16, I16.fromBinary⟩
  | i32 => ⟨FromWireValue.noNull, texts.fromText i32, I32.fromBinary⟩
  | i64 => ⟨FromWireValue.noNull, texts.fromText i64, I64.fromBinary⟩
  | string => ⟨FromWireValue.noNull, texts.fromText string, stringFromBinary texts.utf8Error⟩
  | vec => ⟨FromWireValue.noNull, texts.fromText vec, vecFromBinary⟩
  | uuid => ⟨FromWireValue.noNull, texts.fromText uuid, uuidFromBinary texts.uuidError⟩
  | naiveDate =>
    ⟨FromWireValue.noNull, texts.fromText naiveDate, naiveDateFromBinary crates.chrono⟩
  | naiveTime =>
    ⟨FromWireValue.noNull, texts.fromText naiveTime, naiveTimeFromBinary crates.chrono⟩
  | naiveDateTime =>
    ⟨FromWireValue.noNull, texts.fromText naiveDateTime, naiveDateTimeFromBinary crates.chrono⟩
  | dateTimeUtc =>
    ⟨FromWireValue.noNull, texts.fromText dateTimeUtc, dateTimeUtcFromBinary crates.chrono⟩
  | date => ⟨FromWireValue.noNull, texts.fromText date, dateFromBinary crates.time⟩
  | time => ⟨FromWireValue.noNull, texts.fromText time, timeFromBinary crates.time⟩
  | primitiveDateTime =>
    ⟨FromWireValue.noNull, texts.fromText primitiveDateTime,
      primitiveDateTimeFromBinary crates.time⟩
  | offsetDateTime =>
    ⟨FromWireValue.noNull, texts.fromText offsetDateTime, offsetDateTimeFromBinary crates.time⟩
  | decimal => ⟨FromWireValue.noNull, texts.fromText decimal, decimalFromBinary crates.decimal⟩
  | option type => (type.fromWireValue texts).option

end WireType

end ZeroPostgres
