import ZeroPostgres.Server.Numeric

/-!
# Types of the server

`ServerTypes` is what a server makes of the parameters of a Bind message and what it sends of a
value in a column, for the types that the client encodes. The server is no part of the library:
`Lawful` has what the documentation of PostgreSQL says of these types.
-/

namespace ZeroPostgres

/-- The type system of a server. -/
structure ServerTypes where
  /-- The texts that are JSON. -/
  isJson : String → Bool
  /-- The receive function of a type on a parameter in binary, the input function on one in text. -/
  receive : Oid → FormatCode → Bytes → Option Datum
  /-- What can be sent of a value in a column of the type, in binary. -/
  sends : Oid → Datum → Option Bytes → Prop

namespace ServerTypes

/-- The dates of the server are those from 4714-11-24 BC, Julian day 0, to the end of 5874897. -/
def DateRange (day : Int) : Prop :=
  daysFromCivil (-4713) 11 24 ≤ day ∧ day < daysFromCivil 5874898 1 1

/-- The timestamps of the server are those from Julian day 0 to the end of 294276, in seconds. -/
def TimestampRange (second : Int) : Prop :=
  daysFromCivil (-4713) 11 24 * 86400 ≤ second ∧ second < daysFromCivil 294277 1 1 * 86400

instance (day : Int) : Decidable (DateRange day) := inferInstanceAs (Decidable (_ ∧ _))

instance (second : Int) : Decidable (TimestampRange second) := inferInstanceAs (Decidable (_ ∧ _))

/-- What four bytes are as a date: the two extremes stand for the infinities. -/
def ReadsDate (n : Int) (datum : Datum) : Prop :=
  (datum = .date n ∧ DateRange n) ∨ (datum = .dateInfinity false ∧ n = -2 ^ 31) ∨
    (datum = .dateInfinity true ∧ n = 2 ^ 31 - 1)

/-- What eight bytes are as a time: microseconds up to 24:00:00. -/
def ReadsTime (us : Int) (datum : Datum) : Prop :=
  datum = .time (us.toNat / 1000000) (us.toNat % 1000000 * 1000) ∧ 0 ≤ us ∧ us ≤ 86400000000

/-- What eight bytes are as a timestamp: microseconds, with the two extremes for the infinities. -/
def ReadsTimestamp (us : Int) (datum : Datum) : Prop :=
  (datum = .timestamp (us / 1000000) (us % 1000000 * 1000).toNat ∧ TimestampRange (us / 1000000)) ∨
    (datum = .timestampInfinity false ∧ us = -2 ^ 63) ∨
    (datum = .timestampInfinity true ∧ us = 2 ^ 63 - 1)

/-- The types whose values are sent with the bytes they were received with. -/
def sentAsReceived : List Oid :=
  [oid.bytea, oid.name, oid.int8, oid.int2, oid.int4, oid.text, oid.json, oid.bpchar, oid.varchar,
    oid.date, oid.time, oid.timestamp, oid.timestamptz, oid.uuid]

variable (server : ServerTypes)

/-- What the server makes of the bytes of a parameter. -/
def accept (target : Oid) (bs : Bytes) : Option Datum :=
  match Datum.readParameter bs with
  | some none => some .null
  | some (some data) => server.receive target (preferredFormat target) data
  | none => none

/-- What is documented of the types: the bytes of their binary formats and the ranges of their
values, and the text of a NUMERIC with at most 131072 digits, of which at most 16383 come after the
point. Of a NUMERIC as many digits are shown as the server likes. -/
structure Lawful : Prop where
  bool : ∀ b, server.receive oid.bool .binary [if b then 1 else 0] = some (.bool b)
  int2 : ∀ {n}, BigEndian.Fits 2 n →
    server.receive oid.int2 .binary (BigEndian.intBytes 2 n) = some (.int n)
  int4 : ∀ {n}, BigEndian.Fits 4 n →
    server.receive oid.int4 .binary (BigEndian.intBytes 4 n) = some (.int n)
  int8 : ∀ {n}, BigEndian.Fits 8 n →
    server.receive oid.int8 .binary (BigEndian.intBytes 8 n) = some (.int n)
  text : ∀ {target s}, target = oid.text ∨ target = oid.varchar ∨ target = oid.bpchar →
    server.receive target .binary (utf8Bytes s) = if 0 ∈ utf8Bytes s then none else some (.text s)
  name : ∀ {s}, server.receive oid.name .binary (utf8Bytes s) =
    if 64 ≤ (utf8Bytes s).length ∨ 0 ∈ utf8Bytes s then none else some (.text s)
  json : ∀ {s}, server.receive oid.json .binary (utf8Bytes s) =
    if 0 ∈ utf8Bytes s ∨ server.isJson s = false then none else some (.json s)
  jsonb : ∀ {data datum}, server.receive oid.jsonb .binary data = some datum →
    ∃ s, datum = .jsonb s ∧ data = 1 :: utf8Bytes s
  bytea : ∀ data, server.receive oid.bytea .binary data = some (.bytea data)
  uuid : ∀ {data}, data.length = 16 → server.receive oid.uuid .binary data = some (.uuid data)
  date : ∀ {n datum}, BigEndian.Fits 4 n →
    (server.receive oid.date .binary (BigEndian.intBytes 4 n) = some datum ↔ ReadsDate n datum)
  time : ∀ {us datum}, BigEndian.Fits 8 us →
    (server.receive oid.time .binary (BigEndian.intBytes 8 us) = some datum ↔ ReadsTime us datum)
  timestamp : ∀ {target us datum}, target = oid.timestamp ∨ target = oid.timestamptz →
    BigEndian.Fits 8 us → (server.receive target .binary (BigEndian.intBytes 8 us) = some datum ↔
      ReadsTimestamp us datum)
  numeric : ∀ {negative coefficient scale}, (Nat.toDigits 10 coefficient).length ≤ 131072 →
    scale ≤ 16383 → server.receive oid.numeric .text
      (utf8Bytes (String.ofList (signedText negative coefficient scale))) =
        some (.numeric ((if negative then -1 else 1) * (coefficient / (10 : Rat) ^ scale)))
  sends_null : ∀ {target value}, server.sends target .null value → value = none
  sends_some : ∀ {target datum value}, datum ≠ .null → server.sends target datum value →
    value ≠ none
  sends_lt : ∀ {target datum data}, server.sends target datum (some data) → data.length < 2 ^ 31
  sends_bool : ∀ {b value}, server.sends oid.bool (.bool b) value →
    value = some [if b then 1 else 0]
  sends_numeric : ∀ {q value}, server.sends oid.numeric (.numeric q) value →
    ∃ n : Numeric, (n.Canonical ∧ n.Wire) ∧ n.value = q ∧ value = some n.image
  sends_received : ∀ {target data datum value}, target ∈ sentAsReceived →
    server.receive target .binary data = some datum → server.sends target datum value →
      value = some data

end ServerTypes

end ZeroPostgres
