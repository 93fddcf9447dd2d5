import ZeroPostgres.Conversion.DecimalImage
import ZeroPostgres.Conversion.Params
import ZeroPostgres.Conversion.Validity
import ZeroPostgres.Conversion.WireType

/-!
# Values that come back

A value is encoded as a parameter, the server reads it and sends what it read in a column of the
same type, and the client decodes the column. `column_echo` says of every type, value and OID when
that gives the value again: when the value is `Exact`, that is when the server holds it as it is,
and `Returns`, which is about the decoder. `Echo.tuple_iff` is the same of a row.
-/

namespace ZeroPostgres

open ServerTypes

namespace WireType

/-- The decoder gives a value back that the server holds as it is: it knows the OID, a date is not
before 2000-01-01, the groups of a decimal fit in 96 bits, and what an `Option` holds is no NULL. -/
def Returns {crates : Crates} : (type : WireType) → type.Carrier crates → Oid → Prop
  | i16, _, target => target = oid.int2
  | i32, _, target => target = oid.int2 ∨ target = oid.int4
  | string, _, target => target ≠ oid.json
  | naiveDate, d, _ => 0 ≤ crates.chrono.day d
  | dateTimeUtc, _, target | offsetDateTime, _, target => target = oid.timestamptz
  | decimal, d, _ => crates.decimal.FitsGroups d
  | option _, none, _ => True
  | option type, some v, target => (type.toValue v).isNull = false ∧ type.Returns v target
  | bool, _, _ | i64, _, _ | vec, _, _ | uuid, _, _ | naiveTime, _, _ | naiveDateTime, _, _
  | date, _, _ | time, _, _ | primitiveDateTime, _, _ => True

/-! ### Reading and sending -/

variable {server : ServerTypes} {target : Oid} {bs data : Bytes} {datum : Datum}
  {value : Option Bytes}

/-- A payload that was accepted is sent back as it came. -/
theorem value_eq (hserver : server.Lawful) (htarget : target ∈ sentAsReceived)
    (haccept : server.accept target (valueBytes (some data)) = some datum)
    (hsends : server.sends target datum value) :
    value = some data ∧ data.length < 2 ^ 31 ∧
      server.receive target .binary data = some datum := by
  have hnumeric : target ≠ oid.numeric := by
    rintro rfl
    exact absurd htarget (by decide)
  rw [accept_some, preferredFormat, if_neg hnumeric] at haccept
  by_cases hlen : data.length < 2 ^ 31
  · rw [if_pos hlen] at haccept
    exact ⟨hserver.sends_received htarget haccept hsends, hlen, haccept⟩
  · rw [if_neg hlen] at haccept
    cases haccept

theorem exists_ok_eq_iff {α : Type} {x : Parsed α} {v : α} :
    (∃ w, x = .ok w ∧ v = w) ↔ x = .ok v := by
  constructor
  · rintro ⟨w, hw, rfl⟩
    exact hw
  · intro h
    exact ⟨v, h, rfl⟩

/-! ### Integers -/

/-- What an integer encodes to is a number of the width of the OID. -/
theorem encodeInteger_ok {natural : Oid} {rustType : String} {v : Int}
    (h : encodeInteger natural rustType v target = .ok bs) :
    ∃ (o : IntegerOid) (data : Bytes), target = o.oid ∧ bs = valueBytes (some data) ∧
      data.length = o.width ∧ BigEndian.int data = v := by
  have hwidth (width : Nat) (pgType : String) (h : encodeWidth width rustType pgType v = .ok bs) :
      ∃ data, bs = valueBytes (some data) ∧ data.length = width ∧ BigEndian.int data = v := by
    obtain ⟨hfits, rfl⟩ := encodeWidth_ok h
    exact ⟨_, rfl, BigEndian.length_intBytes width v, BigEndian.int_intBytes hfits⟩
  unfold encodeInteger at h
  by_cases h2 : target = oid.int2
  · rw [if_pos h2] at h
    obtain ⟨data, hdata⟩ := hwidth _ _ h
    exact ⟨.int2, data, h2, hdata⟩
  rw [if_neg h2] at h
  by_cases h4 : target = oid.int4
  · rw [if_pos h4] at h
    obtain ⟨data, hdata⟩ := hwidth _ _ h
    exact ⟨.int4, data, h4, hdata⟩
  rw [if_neg h4] at h
  by_cases h8 : target = oid.int8
  · rw [if_pos h8] at h
    obtain ⟨data, hdata⟩ := hwidth _ _ h
    exact ⟨.int8, data, h8, hdata⟩
  · rw [if_neg h8] at h
    cases h

/-- A machine integer is decoded when its number is. -/
theorem ok_iff_bind_toInt {α : Type} {toInt : α → Int} (hinj : Function.Injective toInt)
    {x : Parsed α} {v : α} : x = .ok v ↔ (x.bind fun n => .ok (toInt n)) = .ok (toInt v) := by
  constructor
  · rintro rfl
    rfl
  · intro h
    obtain ⟨n, hn, heq⟩ := Outcome.bind_eq_ok_iff.mp h
    rw [hn, hinj (Outcome.ok.inj heq)]

/-- Every integer is sent back as it was encoded. -/
theorem integer_value (hserver : server.Lawful) {natural : Oid} {rustType : String} {v : Int}
    (h : encodeInteger natural rustType v target = .ok bs)
    (haccept : server.accept target bs = some datum) (hsends : server.sends target datum value) :
    ∃ (o : IntegerOid) (data : Bytes), target = o.oid ∧ value = some data ∧
      data.length = o.width ∧ BigEndian.int data = v := by
  obtain ⟨o, data, rfl, rfl, hlen, hv⟩ := encodeInteger_ok h
  have hvalue := value_eq hserver (by cases o <;> decide) haccept hsends
  exact ⟨o, data, rfl, hvalue.1, hlen, hv⟩

theorem i16_echo (hserver : server.Lawful) {v : Int16} (h : encodeI16 v target = .ok bs)
    (haccept : server.accept target bs = some datum) (hsends : server.sends target datum value) :
    ∃ data, value = some data ∧ (I16.fromBinary target data = .ok v ↔ target = oid.int2) := by
  obtain ⟨o, data, rfl, hvalue, hlen, hv⟩ := integer_value hserver h haccept hsends
  refine ⟨data, hvalue, ?_⟩
  rw [ok_iff_bind_toInt (fun _ _ => Int16.toInt_inj.mp), I16.fromBinary_toInt, ← hv]
  cases o with
  | int2 => exact iff_of_true (if_pos hlen) rfl
  | int4 | int8 => exact iff_of_false (fun h => by cases h) (by decide)

theorem i32_echo (hserver : server.Lawful) {v : Int32} (h : encodeI32 v target = .ok bs)
    (haccept : server.accept target bs = some datum) (hsends : server.sends target datum value) :
    ∃ data, value = some data ∧
      (I32.fromBinary target data = .ok v ↔ target = oid.int2 ∨ target = oid.int4) := by
  obtain ⟨o, data, rfl, hvalue, hlen, hv⟩ := integer_value hserver h haccept hsends
  refine ⟨data, hvalue, ?_⟩
  rw [ok_iff_bind_toInt (fun _ _ => Int32.toInt_inj.mp), I32.fromBinary_toInt, ← hv]
  cases o with
  | int2 => exact iff_of_true (if_pos hlen) (.inl rfl)
  | int4 => exact iff_of_true (if_pos hlen) (.inr rfl)
  | int8 => exact iff_of_false (fun h => by cases h) (by decide)

theorem i64_echo (hserver : server.Lawful) {v : Int64} (h : encodeI64 v target = .ok bs)
    (haccept : server.accept target bs = some datum) (hsends : server.sends target datum value) :
    ∃ data, value = some data ∧ I64.fromBinary target data = .ok v := by
  obtain ⟨o, data, rfl, hvalue, hlen, hv⟩ := integer_value hserver h haccept hsends
  refine ⟨data, hvalue, ?_⟩
  rw [ok_iff_bind_toInt (fun _ _ => Int64.toInt_inj.mp), I64.fromBinary_toInt, ← hv]
  cases o with
  | int2 | int4 | int8 => exact if_pos hlen

/-! ### Booleans, text and bytes -/

theorem bool_echo (hserver : server.Lawful) {b : Bool} (h : encodeBool b target = .ok bs)
    (haccept : server.accept target bs = some datum) (hsends : server.sends target datum value) :
    ∃ data, value = some data ∧ boolFromBinary target data = .ok b := by
  rw [accept_bool hserver h] at haccept
  cases haccept
  obtain ⟨rfl, -⟩ := encodeOnly_ok h
  refine ⟨_, hserver.sends_bool hsends, ?_⟩
  cases b <;> rfl

/-- The OIDs that strings are decoded for: the server reads the text itself, if anything. -/
theorem text_datum (hserver : server.Lawful) {s : String}
    (htarget : target = oid.text ∨ target = oid.varchar ∨ target = oid.bpchar ∨ target = oid.name)
    (hreceive : server.receive target .binary (utf8Bytes s) = some datum) : datum = .text s := by
  have hshort (h : target = oid.text ∨ target = oid.varchar ∨ target = oid.bpchar) :
      datum = .text s := by
    rw [hserver.text h] at hreceive
    split at hreceive
    · cases hreceive
    · cases hreceive
      rfl
  rcases htarget with h | h | h | rfl
  · exact hshort (.inl h)
  · exact hshort (.inr (.inl h))
  · exact hshort (.inr (.inr h))
  · rw [hserver.name] at hreceive
    split at hreceive
    · cases hreceive
    · cases hreceive
      rfl

/-- A string encodes for those, for JSON and for JSONB. -/
theorem encodeStr_ok {s : String} (h : encodeStr s target = .ok bs) :
    bs = valueBytes (some (utf8Bytes s)) ∧
      ((target = oid.text ∨ target = oid.varchar ∨ target = oid.bpchar ∨ target = oid.name) ∨
        target = oid.json ∨ target = oid.jsonb) := by
  unfold encodeStr at h
  split at h
  · next htarget =>
    cases h
    exact ⟨rfl, by tauto⟩
  · cases h

theorem string_echo (hserver : server.Lawful) (crates : Crates) {utf8Error : Bytes → String}
    {s : String} (h : encodeStr s target = .ok bs)
    (haccept : server.accept target bs = some datum) (hsends : server.sends target datum value) :
    ∃ data, value = some data ∧ (stringFromBinary utf8Error target data = .ok s ↔
      ExactStr server.isJson s target ∧ target ≠ oid.json) := by
  have hexact := accept_str hserver crates h
  obtain ⟨rfl, hknown | rfl | rfl⟩ := encodeStr_ok h
  · have hmem : target ∈ sentAsReceived := by
      rcases hknown with rfl | rfl | rfl | rfl <;> decide
    have hjson : target ≠ oid.json ∧ target ≠ oid.jsonb := by
      rcases hknown with rfl | rfl | rfl | rfl <;> decide
    obtain ⟨hvalue, hlen, hreceive⟩ := value_eq hserver hmem haccept hsends
    have hread : String.fromUTF8? ⟨(utf8Bytes s).toArray⟩ = some s := by
      simp [utf8Bytes, String.fromUTF8?, String.fromUTF8, s.isValidUTF8]
    have hmeaning : (Value.str s : Value crates).meaning target = .text s := by
      simp [Value.meaning, hjson]
    rw [hmeaning, haccept, text_datum hserver hknown hreceive] at hexact
    refine ⟨_, hvalue, ?_⟩
    rw [stringFromBinary, if_pos hknown, hread]
    exact iff_of_true rfl ⟨hexact.mp rfl, hjson.1⟩
  · obtain ⟨hvalue, -, -⟩ := value_eq hserver (by decide) haccept hsends
    exact ⟨_, hvalue, iff_of_false (fun hread => by cases hread) fun hboth => hboth.2 rfl⟩
  · -- what is sent of a JSONB is decoded for none of the OIDs of strings
    have hsome : value ≠ none := by
      refine hserver.sends_some ?_ hsends
      rintro rfl
      rw [accept_some] at haccept
      split at haccept
      · obtain ⟨t, ht, -⟩ := hserver.jsonb haccept
        cases ht
      · cases haccept
    obtain ⟨data, hvalue⟩ := Option.ne_none_iff_exists'.mp hsome
    exact ⟨data, hvalue,
      iff_of_false (fun hread => by cases hread) fun hboth => hboth.1.2.2.2.2 rfl⟩

theorem vec_echo (hserver : server.Lawful) {v : Bytes} (h : encodeBytes v target = .ok bs)
    (haccept : server.accept target bs = some datum) (hsends : server.sends target datum value) :
    ∃ data, value = some data ∧ vecFromBinary target data = .ok v ∧ v.length < 2 ^ 31 := by
  obtain ⟨rfl, rfl⟩ := encodeOnly_ok h
  obtain ⟨hvalue, hlen, -⟩ := value_eq hserver (by decide) haccept hsends
  exact ⟨v, hvalue, rfl, hlen⟩

theorem uuid_echo (hserver : server.Lawful) {lengthError : Nat → String} {u : Uuid}
    (h : encodeUuid u target = .ok bs) (haccept : server.accept target bs = some datum)
    (hsends : server.sends target datum value) :
    ∃ data, value = some data ∧ uuidFromBinary lengthError target data = .ok u := by
  obtain ⟨rfl, rfl⟩ := encodeOnly_ok h
  obtain ⟨hvalue, -, -⟩ := value_eq hserver (by decide) haccept hsends
  refine ⟨_, hvalue, ?_⟩
  obtain ⟨bytes, hsize⟩ := u
  rw [uuidFromBinary, if_neg (not_not_intro rfl)]
  simp [hsize]

/-! ### Dates -/

/-- A date is sent back as it was encoded, and the server has it. -/
theorem day_value (hserver : server.Lawful) {day : Int} (hlow : -2 ^ 31 < day)
    (hhigh : day < 2 ^ 31 - 1)
    (haccept : server.accept oid.date (valueBytes (some (BigEndian.intBytes 4 day))) = some datum)
    (hsends : server.sends oid.date datum value) :
    value = some (BigEndian.intBytes 4 day) ∧ DateRange day := by
  obtain ⟨hvalue, -, hreceive⟩ := value_eq hserver (by decide) haccept hsends
  have hfits : BigEndian.Fits 4 day := by constructor <;> omega
  refine ⟨hvalue, ?_⟩
  rcases (hserver.date hfits).mp hreceive with ⟨-, hrange⟩ | ⟨-, hday⟩ | ⟨-, hday⟩
  · exact hrange
  · omega
  · omega

theorem naiveDate_echo (hserver : server.Lawful) {c : Chrono} (hc : c.Lawful) {d : c.NaiveDate}
    (h : encodeNaiveDate c d target = .ok bs) (haccept : server.accept target bs = some datum)
    (hsends : server.sends target datum value) :
    ∃ data, value = some data ∧ DateRange (c.day d) ∧
      (naiveDateFromBinary c target data = .ok d ↔ 0 ≤ c.day d) := by
  obtain ⟨rfl, rfl⟩ := encodeOnly_ok h
  have hbounds := hc.day_bounds d
  obtain ⟨hvalue, hfirst⟩ := day_value hserver (show -2 ^ 31 < c.day d by omega)
    (show c.day d < 2 ^ 31 - 1 by omega) haccept hsends
  refine ⟨_, hvalue, hfirst, ?_⟩
  obtain ⟨e, he, hday⟩ := naiveDateFromBinary_eq hc (BigEndian.length_intBytes 4 (c.day d))
  have hlast := hc.le_max d
  rw [BigEndian.int_intBytes (hc.fits_day d)] at hday
  rw [he, Outcome.ok.injEq]
  constructor
  · rintro rfl
    split at hday <;> omega
  · intro hpos
    rw [if_pos ⟨hpos, hlast⟩] at hday
    exact hc.day_ext hday

theorem date_echo (hserver : server.Lawful) {c : TimeCrate} (hc : c.Lawful) {d : c.Date}
    (h : encodeDate c d target = .ok bs) (haccept : server.accept target bs = some datum)
    (hsends : server.sends target datum value) :
    ∃ data, value = some data ∧ DateRange (c.day d) ∧ dateFromBinary c target data = .ok d := by
  obtain ⟨rfl, -, rfl⟩ := encodeDate_ok h
  have hbounds := hc.day_bounds d
  obtain ⟨hvalue, hfirst⟩ := day_value hserver (by omega) (by omega) haccept hsends
  exact ⟨_, hvalue, hfirst, dateFromBinary_day hc d⟩

/-! ### Times -/

/-- A time is sent back as it was encoded. -/
theorem time_value (hserver : server.Lawful) {secs nano : Nat} (hsecs : secs < 86400)
    (hnano : nano < 2000000000)
    (haccept : server.accept oid.time (microseconds (secs * 1000000 + nano / 1000 : Nat)) =
      some datum) (hsends : server.sends oid.time datum value) :
    ∃ data, value = some data ∧ data.length = 8 ∧
      BigEndian.int data = (secs * 1000000 + nano / 1000 : Nat) := by
  obtain ⟨hvalue, -, -⟩ := value_eq hserver (by decide) haccept hsends
  have hfits : BigEndian.Fits 8 (secs * 1000000 + nano / 1000 : Nat) := by constructor <;> omega
  exact ⟨_, hvalue, BigEndian.length_intBytes 8 _, BigEndian.int_intBytes hfits⟩

theorem naiveTime_echo (hserver : server.Lawful) {c : Chrono} (hc : c.Lawful) {t : c.NaiveTime}
    (h : encodeNaiveTime c t target = .ok bs) (haccept : server.accept target bs = some datum)
    (hsends : server.sends target datum value) :
    ∃ data, value = some data ∧
      (naiveTimeFromBinary c target data = .ok t ↔ WholeMicros (c.nanosecond t)) := by
  obtain ⟨rfl, rfl⟩ := encodeOnly_ok h
  have hsecs := hc.num_seconds_lt t
  have hfrac := hc.nanosecond_lt t
  obtain ⟨data, hvalue, hlen, hint⟩ := time_value hserver hsecs hfrac haccept hsends
  refine ⟨data, hvalue, ?_⟩
  rw [naiveTimeFromBinary_ok_iff hc hlen, hint, WholeMicros]
  omega

theorem time_echo (hserver : server.Lawful) {c : TimeCrate} (hc : c.Lawful) {t : c.Time}
    (h : encodeTime c t target = .ok bs) (haccept : server.accept target bs = some datum)
    (hsends : server.sends target datum value) :
    ∃ data, value = some data ∧
      (timeFromBinary c target data = .ok t ↔ WholeMicros (c.nano t)) := by
  obtain ⟨rfl, rfl⟩ := encodeOnly_ok h
  have hparts := hc.as_hms_nano_lt t
  have hnano : c.nano t < 1000000000 := hparts.2.2.2
  rw [encodeTime_micros] at haccept
  obtain ⟨data, hvalue, hlen, hint⟩ :=
    time_value hserver (hc.secs_lt t) (by omega) haccept hsends
  refine ⟨data, hvalue, ?_⟩
  rw [timeFromBinary_ok_iff hc hlen, hint, WholeMicros]
  unfold TimeCrate.secs TimeCrate.nano
  omega

/-! ### Timestamps -/

/-- A timestamp is sent back as it was encoded, and the server holds it as it is when what was
encoded is the instant itself. -/
theorem instant_value (hserver : server.Lawful) {natural : Oid} {second us : Int} {nano : Nat}
    (hus : ExactTimestamp second nano → us = second * 1000000 + (nano / 1000 : Nat))
    (hlow : -2 ^ 63 * 1000 < second * 1000000000 + nano)
    (hhigh : second * 1000000000 + nano < (2 ^ 63 - 1) * 1000)
    (h : encodeTimestamp natural us target = .ok bs)
    (haccept : server.accept target bs = some datum) (hsends : server.sends target datum value) :
    (target = oid.timestamp ∨ target = oid.timestamptz) ∧
    ∃ data, value = some data ∧ data.length = 8 ∧
      (second * 1000000000 + nano = BigEndian.int data * 1000 ∧ nano < 1000000000 ↔
        ExactTimestamp second nano) := by
  unfold encodeTimestamp at h
  split at h
  · next htarget =>
    cases h
    have hmem : target ∈ sentAsReceived := by
      rcases htarget with rfl | rfl <;> decide
    obtain ⟨hvalue, -, hreceive⟩ := value_eq hserver hmem haccept hsends
    obtain ⟨us', hus', hfits⟩ := exists_intBytes_eq 8 us
    rw [hus'] at hvalue hreceive
    refine ⟨htarget, _, hvalue, BigEndian.length_intBytes 8 us', ?_⟩
    rw [BigEndian.int_intBytes hfits]
    constructor
    · rintro ⟨hinstant, hnano⟩
      rcases (hserver.timestamp htarget hfits).mp hreceive with ⟨-, hrange⟩ | ⟨-, hend⟩ |
        ⟨-, hend⟩
      · have hsecond : us' / 1000000 = second := by omega
        rw [hsecond] at hrange
        exact ⟨hrange, hnano, by omega⟩
      · omega
      · omega
    · intro hexact
      have hwritten := hus hexact
      have hsame : us' = us := by
        have hfits' : BigEndian.Fits 8 us := by
          obtain ⟨-, hnano, k, hk⟩ := hexact
          constructor <;> omega
        rw [← BigEndian.int_intBytes hfits, ← hus', BigEndian.int_intBytes hfits']
      obtain ⟨-, hnano, k, hk⟩ := hexact
      exact ⟨by omega, hnano⟩
  · cases h

/-- The timestamps of `chrono` are closer to 2000-01-01 than the extremes of eight bytes. -/
theorem instant_bounds {c : Chrono} (hc : c.Lawful) {ops : c.TimestampsOf} (t : ops.Timestamp) :
    -2 ^ 63 * 1000 < c.second ops t * 1000000000 + c.nano ops t ∧
      c.second ops t * 1000000000 + c.nano ops t < (2 ^ 63 - 1) * 1000 := by
  have hday := hc.day_bounds (ops.date t)
  have hsecs := hc.num_seconds_lt (ops.time t)
  have hnano : c.nano ops t < 2000000000 := hc.nanosecond_lt (ops.time t)
  unfold Chrono.second
  constructor <;> omega

theorem chrono_value (hserver : server.Lawful) {c : Chrono} (hc : c.Lawful)
    {ops : c.TimestampsOf} (hops : c.LawfulTimestamps ops) {natural : Oid} {t epoch : ops.Timestamp}
    (hepoch : c.IsEpoch ops epoch)
    (h : encodeTimestamp natural
      ((c.numMicroseconds (ops.signedDurationSince t epoch)).getD int64Max) target = .ok bs)
    (haccept : server.accept target bs = some datum) (hsends : server.sends target datum value) :
    (target = oid.timestamp ∨ target = oid.timestamptz) ∧
    ∃ data, value = some data ∧ data.length = 8 ∧
      (timestampFromMicros c ops epoch (BigEndian.int data) = .ok t ↔
        ExactTimestamp (c.second ops t) (c.nano ops t)) := by
  have hbounds := instant_bounds hc t
  obtain ⟨htarget, data, hvalue, hlen, hexact⟩ := instant_value hserver
    (chrono_micros hc hops hepoch) hbounds.1 hbounds.2 h haccept hsends
  refine ⟨htarget, data, hvalue, hlen, ?_⟩
  rw [timestampFromMicros_ok_iff hc hops hepoch (hlen ▸ BigEndian.fits_int data)]
  exact hexact

theorem naiveDateTime_echo (hserver : server.Lawful) {c : Chrono} (hc : c.Lawful)
    {t : c.NaiveDateTime} (h : encodeNaiveDateTime c t target = .ok bs)
    (haccept : server.accept target bs = some datum) (hsends : server.sends target datum value) :
    ∃ data, value = some data ∧ (naiveDateTimeFromBinary c target data = .ok t ↔
      ExactTimestamp (c.second c.naiveDateTime t) (c.nano c.naiveDateTime t)) := by
  obtain ⟨htarget, data, hvalue, hlen, hexact⟩ :=
    chrono_value hserver hc hc.naiveDateTime hc.epoch_naive h haccept hsends
  refine ⟨data, hvalue, ?_⟩
  have hknown : ¬ (target ≠ oid.timestamp ∧ target ≠ oid.timestamptz) := by
    rintro ⟨hne, hne'⟩
    exact htarget.elim hne hne'
  rw [naiveDateTimeFromBinary, if_neg hknown, if_neg (not_not_intro hlen), hc.epoch_dt]
  exact hexact

theorem dateTimeUtc_echo (hserver : server.Lawful) {c : Chrono} (hc : c.Lawful)
    {t : c.DateTimeUtc} (h : encodeDateTimeUtc c t target = .ok bs)
    (haccept : server.accept target bs = some datum) (hsends : server.sends target datum value) :
    ∃ data, value = some data ∧ (dateTimeUtcFromBinary c target data = .ok t ↔
      ExactTimestamp (c.second c.dateTimeUtc t) (c.nano c.dateTimeUtc t) ∧
        target = oid.timestamptz) := by
  obtain ⟨-, data, hvalue, hlen, hexact⟩ :=
    chrono_value hserver hc hc.dateTimeUtc hc.epoch_utc h haccept hsends
  refine ⟨data, hvalue, ?_⟩
  rw [dateTimeUtcFromBinary]
  by_cases htz : target = oid.timestamptz
  · rw [if_neg (not_not_intro htz), if_neg (not_not_intro hlen), hc.epoch_dt]
    exact hexact.trans (and_iff_left htz).symm
  · rw [if_pos htz]
    exact iff_of_false (fun hread => by cases hread) fun h => htz h.2

/-- An instant in whole seconds and the rest. -/
theorem second_add_subsec (c : TimeCrate) (ops : DateTimes c.Duration) (t : ops.DateTime) :
    c.second ops t * 1000000000 + c.subsec ops t = c.instant ops t ∧
      c.subsec ops t < 1000000000 := by
  unfold TimeCrate.second TimeCrate.subsec
  omega

/-- The years of four digits are closer to 2000-01-01 than the extremes of eight bytes. -/
theorem inFourDigits_bounds {ns : Int} (h : TimeCrate.InFourDigits ns) :
    -2 ^ 63 * 1000 < ns ∧ ns < (2 ^ 63 - 1) * 1000 := by
  have hlow : daysFromCivil (-10000) 1 1 = -4382910 := by decide
  have hhigh : daysFromCivil 10001 1 1 = 2922306 := by decide
  rw [TimeCrate.InFourDigits, hlow, hhigh] at h
  constructor <;> omega

theorem time_crate_value (hserver : server.Lawful) {c : TimeCrate} (hc : c.Lawful) {natural : Oid}
    {ops : DateTimes c.Duration} {t : ops.DateTime}
    (hyears : TimeCrate.InFourDigits (c.instant ops t))
    (h : encodeTimestamp natural (c.wholeMicroseconds (ops.sub t ops.pgEpoch)) target = .ok bs)
    (haccept : server.accept target bs = some datum) (hsends : server.sends target datum value) :
    (target = oid.timestamp ∨ target = oid.timestamptz) ∧
    ∃ data, value = some data ∧ data.length = 8 ∧
      (c.instant ops t = BigEndian.int data * 1000 ↔
        ExactTimestamp (c.second ops t) (c.subsec ops t)) := by
  have hbounds := inFourDigits_bounds hyears
  obtain ⟨hsum, hnano⟩ := second_add_subsec c ops t
  obtain ⟨htarget, data, hvalue, hlen, hexact⟩ := instant_value hserver (time_micros hc)
    (hsum ▸ hbounds.1) (hsum ▸ hbounds.2) h haccept hsends
  rw [hsum, and_iff_left hnano] at hexact
  exact ⟨htarget, data, hvalue, hlen, hexact⟩

/-- The decoders of the crate `time` add the microseconds to 2000-01-01. -/
theorem instantFromBinary_ok_iff {c : TimeCrate} {ops : DateTimes c.Duration}
    (hlen : data.length = 8) {t : ops.DateTime} :
    instantFromBinary c ops data = .ok t ↔
      ops.checkedAdd ops.pgEpoch (c.microseconds (BigEndian.int data)) = some t := by
  rw [instantFromBinary, if_neg (not_not_intro hlen)]
  split <;> simp [*]

theorem primitiveDateTime_echo (hserver : server.Lawful) {c : TimeCrate} (hc : c.Lawful)
    (hyears : c.FourDigitYears) {t : c.PrimitiveDateTime}
    (h : encodePrimitiveDateTime c t target = .ok bs)
    (haccept : server.accept target bs = some datum) (hsends : server.sends target datum value) :
    ∃ data, value = some data ∧ (primitiveDateTimeFromBinary c target data = .ok t ↔
      ExactTimestamp (c.second c.primitiveDateTime t) (c.subsec c.primitiveDateTime t)) := by
  obtain ⟨htarget, data, hvalue, hlen, hexact⟩ :=
    time_crate_value hserver hc (hyears.primitive t) h haccept hsends
  refine ⟨data, hvalue, ?_⟩
  have hknown : ¬ (target ≠ oid.timestamp ∧ target ≠ oid.timestamptz) := by
    rintro ⟨hne, hne'⟩
    exact htarget.elim hne hne'
  rw [primitiveDateTimeFromBinary, if_neg hknown, instantFromBinary_ok_iff hlen, hc.add_primitive,
    hc.nanos_microseconds (hlen ▸ BigEndian.fits_int data)]
  exact hexact

theorem offsetDateTime_echo (hserver : server.Lawful) {c : TimeCrate} (hc : c.Lawful)
    (hyears : c.FourDigitYears) {t : c.OffsetDateTime}
    (h : encodeOffsetDateTime c t target = .ok bs)
    (haccept : server.accept target bs = some datum) (hsends : server.sends target datum value) :
    ∃ data, value = some data ∧
      ((∃ t', offsetDateTimeFromBinary c target data = .ok t' ∧
        c.instant c.offsetDateTime t = c.instant c.offsetDateTime t') ↔
        ExactTimestamp (c.second c.offsetDateTime t) (c.subsec c.offsetDateTime t) ∧
          target = oid.timestamptz) := by
  obtain ⟨utc, hutc, h⟩ := encodeOffsetDateTime_ok h
  obtain ⟨hoffset, hinstant⟩ := hc.to_offset_utc hutc
  obtain ⟨-, data, hvalue, hlen, hexact⟩ :=
    time_crate_value hserver hc (hyears.offset utc) h haccept hsends
  have hfits : BigEndian.Fits 8 (BigEndian.int data) := hlen ▸ BigEndian.fits_int data
  rw [TimeCrate.second, TimeCrate.subsec, hinstant] at hexact
  refine ⟨data, hvalue, ?_⟩
  rw [offsetDateTimeFromBinary]
  by_cases htz : target = oid.timestamptz
  · rw [if_neg (not_not_intro htz), and_iff_left htz, TimeCrate.second, TimeCrate.subsec, ← hexact]
    simp only [instantFromBinary_ok_iff hlen, hc.add_offset, hc.nanos_microseconds hfits]
    constructor
    · rintro ⟨t', ⟨-, ht'⟩, hsame⟩
      exact hsame.trans ht'
    · intro hmicros
      exact ⟨utc, ⟨hoffset, hinstant.trans hmicros⟩, hinstant.symm⟩
  · rw [if_pos htz]
    refine iff_of_false ?_ fun h => htz h.2
    rintro ⟨t', ht', -⟩
    cases ht'

/-! ### Decimals -/

theorem decimal_echo (hserver : server.Lawful) {c : RustDecimal} (hc : c.Lawful) {d : c.Decimal}
    (h : encodeDecimal c d target = .ok bs) (haccept : server.accept target bs = some datum)
    (hsends : server.sends target datum value) :
    ∃ data, value = some data ∧
      ((∃ e, decimalFromBinary c target data = .ok e ∧ c.value d = c.value e) ↔
        c.FitsGroups d) := by
  rw [accept_decimal hc hserver h] at haccept
  cases haccept
  obtain ⟨rfl, -⟩ := encodeOnly_ok h
  obtain ⟨n, ⟨hcanonical, hwire⟩, hn, hvalue⟩ := hserver.sends_numeric hsends
  exact ⟨_, hvalue, DecimalBinary.decimal_image hc hcanonical hwire hn.symm⟩

/-! ### All of them -/

/-- The column of a value of a type that has no NULL: it comes back when it decodes to itself. -/
theorem column_iff {α : Type} {type : FromWireValue α} {field : FieldDescription} {same : α → Prop}
    {null : Bool} {p : Prop} (hnull : null = false)
    (h : ∃ data, value = some data ∧
      ((∃ w, type.fromBinary field.typeOid data = .ok w ∧ same w) ↔ p)) :
    (value = none ↔ null = true) ∧
      ((∃ w, type.decodeColumn .binary field value = .ok w ∧ same w) ↔ p) := by
  obtain ⟨data, rfl, hdecode⟩ := h
  refine ⟨iff_of_false (fun h => by cases h) ?_, hdecode⟩
  rw [hnull]
  decide

/-- A value that is decoded under a condition. -/
theorem exists_data {α : Type} {fromBinary : Oid → Bytes → Parsed α} {v : α} {p q : Prop}
    (hpq : p ↔ q) (h : ∃ data, value = some data ∧ (fromBinary target data = .ok v ↔ p)) :
    ∃ data, value = some data ∧ ((∃ w, fromBinary target data = .ok w ∧ v = w) ↔ q) := by
  obtain ⟨data, hvalue, hdecode⟩ := h
  exact ⟨data, hvalue, exists_ok_eq_iff.trans (hdecode.trans hpq)⟩

/-- A column is NULL exactly when the parameter was, and it gives the value back if and only if the
server holds it as it is and the decoder gives it back. -/
theorem column_echo {crates : Crates} (hcrates : crates.Lawful)
    (hyears : crates.time.FourDigitYears) (hserver : server.Lawful) (texts : Texts crates)
    (field : FieldDescription) (type : WireType) (v : type.Carrier crates)
    (h : (type.toValue v).encode field.typeOid = .ok bs)
    (haccept : server.accept field.typeOid bs = some datum)
    (hsends : server.sends field.typeOid datum value) :
    (value = none ↔ (type.toValue v).isNull = true) ∧
    ((∃ w, (type.fromWireValue texts).decodeColumn .binary field value = .ok w ∧ type.Same v w) ↔
      (type.toValue v).Exact server.isJson field.typeOid ∧ type.Returns v field.typeOid) := by
  induction type with
  | bool =>
    obtain ⟨data, hvalue, hdecode⟩ := bool_echo hserver h haccept hsends
    exact column_iff rfl ⟨data, hvalue, iff_of_true ⟨v, hdecode, rfl⟩ ⟨trivial, trivial⟩⟩
  | i16 =>
    exact column_iff rfl
      (exists_data (and_iff_right trivial).symm (i16_echo hserver h haccept hsends))
  | i32 =>
    exact column_iff rfl
      (exists_data (and_iff_right trivial).symm (i32_echo hserver h haccept hsends))
  | i64 =>
    obtain ⟨data, hvalue, hdecode⟩ := i64_echo hserver h haccept hsends
    exact column_iff rfl ⟨data, hvalue, iff_of_true ⟨v, hdecode, rfl⟩ ⟨trivial, trivial⟩⟩
  | string =>
    exact column_iff rfl (exists_data Iff.rfl (string_echo hserver crates h haccept hsends))
  | vec =>
    obtain ⟨data, hvalue, hdecode, hlen⟩ := vec_echo hserver h haccept hsends
    exact column_iff rfl ⟨data, hvalue, iff_of_true ⟨v, hdecode, rfl⟩ ⟨hlen, trivial⟩⟩
  | uuid =>
    obtain ⟨data, hvalue, hdecode⟩ := uuid_echo hserver h haccept hsends
    exact column_iff rfl ⟨data, hvalue, iff_of_true ⟨v, hdecode, rfl⟩ ⟨trivial, trivial⟩⟩
  | naiveDate =>
    obtain ⟨data, hvalue, hfirst, hdecode⟩ := naiveDate_echo hserver hcrates.chrono h haccept hsends
    exact column_iff rfl (exists_data (and_iff_right hfirst).symm ⟨data, hvalue, hdecode⟩)
  | naiveTime =>
    exact column_iff rfl (exists_data (and_iff_left trivial).symm
      (naiveTime_echo hserver hcrates.chrono h haccept hsends))
  | naiveDateTime =>
    exact column_iff rfl (exists_data (and_iff_left trivial).symm
      (naiveDateTime_echo hserver hcrates.chrono h haccept hsends))
  | dateTimeUtc =>
    exact column_iff rfl
      (exists_data Iff.rfl (dateTimeUtc_echo hserver hcrates.chrono h haccept hsends))
  | date =>
    obtain ⟨data, hvalue, hfirst, hdecode⟩ := date_echo hserver hcrates.time h haccept hsends
    exact column_iff rfl ⟨data, hvalue, iff_of_true ⟨v, hdecode, rfl⟩ ⟨hfirst, trivial⟩⟩
  | time =>
    exact column_iff rfl (exists_data (and_iff_left trivial).symm
      (time_echo hserver hcrates.time h haccept hsends))
  | primitiveDateTime =>
    exact column_iff rfl (exists_data (and_iff_left trivial).symm
      (primitiveDateTime_echo hserver hcrates.time hyears h haccept hsends))
  | offsetDateTime =>
    exact column_iff rfl (offsetDateTime_echo hserver hcrates.time hyears h haccept hsends)
  | decimal =>
    obtain ⟨data, hvalue, hdecode⟩ := decimal_echo hserver hcrates.decimal h haccept hsends
    exact column_iff rfl ⟨data, hvalue, hdecode.trans (and_iff_right trivial).symm⟩
  | option type ih =>
    cases v with
    | none =>
      cases h
      rw [accept, Datum.readParameter_none] at haccept
      cases haccept
      have hnull : value = none := hserver.sends_null hsends
      subst hnull
      exact ⟨iff_of_true rfl rfl, iff_of_true ⟨none, rfl, trivial⟩ ⟨trivial, trivial⟩⟩
    | some v =>
      obtain ⟨hnull, hdecode⟩ := ih v h
      refine ⟨hnull, ?_⟩
      cases value with
      | none =>
        -- the NULL is decoded as the outer one
        have hv := hnull.mp rfl
        refine iff_of_false ?_ fun hboth => ?_
        · rintro ⟨w, hw, hsame⟩
          cases hw
          exact hsame
        · have hne := hboth.2.1
          rw [hv] at hne
          cases hne
      | some data =>
        have hv : (type.toValue v).isNull = false := by
          rw [← Bool.not_eq_true]
          intro htrue
          cases hnull.mpr htrue
        have hsome : (∃ w,
            ((option type).fromWireValue texts).decodeColumn .binary field (some data) = .ok w ∧
              (option type).Same (some v) w) ↔
            ∃ w, (type.fromWireValue texts).decodeColumn .binary field (some data) = .ok w ∧
              type.Same v w := by
          constructor
          · rintro ⟨w, hw, hsame⟩
            obtain ⟨w', hw', heq⟩ := Outcome.bind_eq_ok_iff.mp hw
            cases heq
            exact ⟨w', hw', hsame⟩
          · rintro ⟨w, hw, hsame⟩
            exact ⟨some w, Outcome.bind_eq_ok_iff.mpr ⟨w, hw, rfl⟩, hsame⟩
        rw [hsome, hdecode]
        exact and_congr_right fun _ => (and_iff_right hv).symm

end WireType

/-- Values that are sent as the parameters of a statement and come back in the columns of a row: of
each the column it comes back in, what it encodes to for the type of that, what the server makes of
it and what it sends. -/
structure Echo (server : ServerTypes) {crates : Crates} {n : Nat} (type : Fin n → WireType)
    (v : (i : Fin n) → (type i).Carrier crates) where
  field : Fin n → FieldDescription
  encoded : Fin n → Bytes
  datum : Fin n → Datum
  value : Fin n → Option Bytes
  encode_eq : ∀ i, ((type i).toValue (v i)).encode (field i).typeOid = .ok (encoded i)
  accept_eq : ∀ i, server.accept (field i).typeOid (encoded i) = some (datum i)
  sends : ∀ i, server.sends (field i).typeOid (datum i) (value i)

namespace Echo

variable {server : ServerTypes} {crates : Crates} {n : Nat} {type : Fin n → WireType}
  {v : (i : Fin n) → (type i).Carrier crates} (e : Echo server type v)

/-- The columns. -/
def cols : List FieldDescription := List.ofFn e.field

/-- The row. -/
def row : DataRow := ⟨n, (List.ofFn e.value).flatMap valueBytes⟩

/-- The columns with their values. -/
theorem readCells_row (hserver : server.Lawful) :
    readCells e.cols e.row.columnsData = List.ofFn fun i => (e.field i, e.value i) := by
  have hcells : ∀ cell ∈ List.ofFn fun i => (e.field i, e.value i), ∀ bs, cell.2 = some bs →
      bs.length < 2 ^ 31 := by
    intro cell hcell bs hbs
    obtain ⟨i, rfl⟩ := List.mem_ofFn.mp hcell
    have hsends := e.sends i
    have hvalue : e.value i = some bs := hbs
    rw [hvalue] at hsends
    exact hserver.sends_lt hsends
  have hread := readCells_flatMap hcells
  rw [List.map_ofFn, List.map_ofFn] at hread
  exact hread

/-- The values come back in a tuple if and only if the server holds each as it is and its decoder
gives it back. -/
theorem tuple_iff (hcrates : crates.Lawful) (hyears : crates.time.FourDigitYears)
    (hserver : server.Lawful) (texts : WireType.Texts crates) :
    (∃ w, tupleFromRow .binary (fun i => (type i).fromWireValue texts) e.cols e.row = .ok w ∧
      ∀ i, (type i).Same (v i) (w i)) ↔
    ∀ i, ((type i).toValue (v i)).Exact server.isJson (e.field i).typeOid ∧
      (type i).Returns (v i) (e.field i).typeOid := by
  have hcolumn (i : Fin n) := (WireType.column_echo hcrates hyears hserver texts (e.field i)
    (type i) (v i) (e.encode_eq i) (e.accept_eq i) (e.sends i)).2
  have hcell (i : Fin n) : (readCells e.cols e.row.columnsData)[(i : Nat)]? =
      some (e.field i, e.value i) := by
    rw [e.readCells_row hserver]
    simp
  simp only [tupleFromRow_ok_iff, hcell]
  constructor
  · rintro ⟨w, hw, hsame⟩ i
    obtain ⟨cell, hcell, hdecode⟩ := hw i
    cases hcell
    exact (hcolumn i).mp ⟨w i, hdecode, hsame i⟩
  · intro h
    choose w hdecode hsame using fun i => (hcolumn i).mpr (h i)
    exact ⟨w, fun i => ⟨_, rfl, hdecode i⟩, hsame⟩

end Echo

end ZeroPostgres
