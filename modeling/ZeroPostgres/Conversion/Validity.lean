import ZeroPostgres.Conversion.Timestamp
import ZeroPostgres.Server.ReferenceTypes

/-!
# The server accepts what a value encodes to

For every value and target OID whose encoding succeeds, the server reads the bytes as the value
itself exactly when the value is `Exact` for the OID: a string without null bytes that the type can
hold, a date or timestamp in the range of the server, whole microseconds. A string sent as JSONB is
never exact: its encoding lacks the version byte that the server expects.
-/

namespace ZeroPostgres

/-- What a value means as a parameter of the type. -/
def Value.meaning {crates : Crates} : Value crates → Oid → Datum
  | bool b, _ => .bool b
  | i8 v, _ => .int v.toInt
  | i16 v, _ => .int v.toInt
  | i32 v, _ => .int v.toInt
  | i64 v, _ => .int v.toInt
  | u8 v, _ => .int v.toNat
  | u16 v, _ => .int v.toNat
  | u32 v, _ => .int v.toNat
  | u64 v, _ => .int v.toNat
  | str s, target | string s, target =>
    if target = oid.json then .json s else if target = oid.jsonb then .jsonb s else .text s
  | slice bs, _ | vec bs, _ => .bytea bs
  | uuid u, _ => .uuid u.toList
  | naiveDate d, _ => .date (crates.chrono.day d)
  | naiveTime t, _ => .time (crates.chrono.numSecondsFromMidnight t) (crates.chrono.nanosecond t)
  | naiveDateTime t, _ =>
    .timestamp (crates.chrono.second crates.chrono.naiveDateTime t)
      (crates.chrono.nano crates.chrono.naiveDateTime t)
  | dateTimeUtc t, _ =>
    .timestamp (crates.chrono.second crates.chrono.dateTimeUtc t)
      (crates.chrono.nano crates.chrono.dateTimeUtc t)
  | date d, _ => .date (crates.time.day d)
  | time t, _ => .time (crates.time.secs t) (crates.time.nano t)
  | primitiveDateTime t, _ =>
    .timestamp (crates.time.second crates.time.primitiveDateTime t)
      (crates.time.subsec crates.time.primitiveDateTime t)
  | offsetDateTime t, _ =>
    .timestamp (crates.time.second crates.time.offsetDateTime t)
      (crates.time.subsec crates.time.offsetDateTime t)
  | decimal d, _ => .numeric (crates.decimal.value d)
  | ref v, target | some v, target => v.meaning target
  | none, _ => .null

/-- A string that the type can hold. -/
def ExactStr (isJson : String → Bool) (s : String) (target : Oid) : Prop :=
  (utf8Bytes s).length < 2 ^ 31 ∧ 0 ∉ utf8Bytes s ∧
    (target = oid.name → (utf8Bytes s).length < 64) ∧
    (target = oid.json → isJson s = true) ∧ target ≠ oid.jsonb

/-- A timestamp the server can hold: one in its range, in whole microseconds. -/
def ExactTimestamp (second : Int) (nano : Nat) : Prop :=
  ServerTypes.TimestampRange second ∧ WholeMicros nano

/-- The value is one of the server's type. -/
def Value.Exact {crates : Crates} (isJson : String → Bool) : Value crates → Oid → Prop
  | str s, target | string s, target => ExactStr isJson s target
  | slice bs, _ | vec bs, _ => bs.length < 2 ^ 31
  | naiveDate d, _ => ServerTypes.DateRange (crates.chrono.day d)
  | naiveTime t, _ => WholeMicros (crates.chrono.nanosecond t)
  | naiveDateTime t, _ =>
    ExactTimestamp (crates.chrono.second crates.chrono.naiveDateTime t)
      (crates.chrono.nano crates.chrono.naiveDateTime t)
  | dateTimeUtc t, _ =>
    ExactTimestamp (crates.chrono.second crates.chrono.dateTimeUtc t)
      (crates.chrono.nano crates.chrono.dateTimeUtc t)
  | date d, _ => ServerTypes.DateRange (crates.time.day d)
  | time t, _ => WholeMicros (crates.time.nano t)
  | primitiveDateTime t, _ =>
    ExactTimestamp (crates.time.second crates.time.primitiveDateTime t)
      (crates.time.subsec crates.time.primitiveDateTime t)
  | offsetDateTime t, _ =>
    ExactTimestamp (crates.time.second crates.time.offsetDateTime t)
      (crates.time.subsec crates.time.offsetDateTime t)
  | ref v, target | some v, target => v.Exact isJson target
  | _, _ => True

/-! ### Encodings -/

section

variable {target : Oid} {bs : Bytes}

theorem encodeWidth_ok {width : Nat} {rustType pgType : String} {v : Int}
    (h : encodeWidth width rustType pgType v = .ok bs) :
    BigEndian.Fits width v ∧ bs = valueBytes (some (BigEndian.intBytes width v)) := by
  rw [encodeWidth] at h
  by_cases hfits : BigEndian.Fits width v
  · rw [if_pos hfits] at h
    cases h
    exact ⟨hfits, rfl⟩
  · rw [if_neg hfits] at h
    cases h

/-- A type that encodes for one OID alone. -/
theorem encodeOnly_ok {only natural : Oid} {data : Bytes}
    (h : (if target = only then Outcome.ok data else .err (Error.typeMismatch natural target)) =
      .ok bs) : target = only ∧ data = bs := by
  by_cases htarget : target = only
  · rw [if_pos htarget] at h
    cases h
    exact ⟨htarget, rfl⟩
  · rw [if_neg htarget] at h
    cases h

end

namespace Datum

/-! ### Reading the length -/

theorem readParameter_none : readParameter (valueBytes none) = some none := by
  decide +kernel

/-- A value is read back while its length fits in a signed number, and never otherwise. -/
theorem readParameter_some (data : Bytes) :
    readParameter (valueBytes (some data)) =
      if data.length < 2 ^ 31 then some (some data) else none := by
  have htake : (valueBytes (some data)).take 4 = BigEndian.bytes 4 data.length :=
    List.take_left' (BigEndian.length_bytes 4 data.length)
  have hdrop : (valueBytes (some data)).drop 4 = data :=
    List.drop_left' (BigEndian.length_bytes 4 data.length)
  have hlen : ¬ (valueBytes (some data)).length < 4 := by simp [valueBytes]
  unfold readParameter
  rw [htake, hdrop, if_neg hlen]
  by_cases hshort : data.length < 2 ^ 31
  · have hint : BigEndian.int (BigEndian.bytes 4 data.length) = data.length := by
      rw [BigEndian.int, BigEndian.nat_bytes_of_lt (by omega), BigEndian.length_bytes,
        if_pos (by omega)]
    rw [hint, if_neg (by omega), if_pos rfl, if_pos hshort]
  · have hfits : BigEndian.int (BigEndian.bytes 4 data.length) < 2 ^ 31 := by
      have h := (BigEndian.fits_int (BigEndian.bytes 4 data.length)).2
      rw [BigEndian.length_bytes] at h
      omega
    have hne : data ≠ [] := by
      rintro rfl
      exact hshort (by decide)
    have hother : BigEndian.int (BigEndian.bytes 4 data.length) ≠ data.length := by omega
    rw [if_neg hshort, if_neg hne, if_neg hother, ite_self]

end Datum

namespace ServerTypes

variable {server : ServerTypes} {target : Oid} {bs : Bytes}

/-- What the server makes of a value written with its length. -/
theorem accept_some (server : ServerTypes) (target : Oid) (data : Bytes) :
    server.accept target (valueBytes (some data)) =
      if data.length < 2 ^ 31 then server.receive target (preferredFormat target) data
      else none := by
  rw [accept, Datum.readParameter_some]
  by_cases h : data.length < 2 ^ 31
  · rw [if_pos h, if_pos h]
  · rw [if_neg h, if_neg h]

/-- A value of a few bytes has a length that can be read. -/
theorem accept_short (server : ServerTypes) {data : Bytes} (h : data.length ≤ 64)
    (hnumeric : target ≠ oid.numeric) :
    server.accept target (valueBytes (some data)) = server.receive target .binary data := by
  rw [accept_some, if_pos (Nat.lt_of_le_of_lt h (by decide)), preferredFormat, if_neg hnumeric]

theorem length_intBytes_le {width : Nat} (h : width ≤ 8) (v : Int) :
    (BigEndian.intBytes width v).length ≤ 64 := by
  rw [BigEndian.length_intBytes]
  omega

/-! ### Each type -/

theorem accept_bool (hserver : server.Lawful) {b : Bool} (h : encodeBool b target = .ok bs) :
    server.accept target bs = some (.bool b) := by
  obtain ⟨rfl, rfl⟩ := encodeOnly_ok h
  rw [accept_short server (by simp) (by decide)]
  exact hserver.bool b

/-- An integer that could be encoded is read back. -/
theorem accept_integer (hserver : server.Lawful) {natural : Oid} {rustType : String} {v : Int}
    (h : encodeInteger natural rustType v target = .ok bs) :
    server.accept target bs = some (.int v) := by
  unfold encodeInteger at h
  split at h
  · next htarget =>
    obtain ⟨hfits, rfl⟩ := encodeWidth_ok h
    rw [htarget, accept_short server (length_intBytes_le (by decide) v) (by decide)]
    exact hserver.int2 hfits
  split at h
  · next htarget =>
    obtain ⟨hfits, rfl⟩ := encodeWidth_ok h
    rw [htarget, accept_short server (length_intBytes_le (by decide) v) (by decide)]
    exact hserver.int4 hfits
  split at h
  · next htarget =>
    obtain ⟨hfits, rfl⟩ := encodeWidth_ok h
    rw [htarget, accept_short server (length_intBytes_le (by decide) v) (by decide)]
    exact hserver.int8 hfits
  · cases h

/-- The version byte of JSONB would make the text longer than it is. -/
theorem receive_jsonb_ne (hserver : server.Lawful) (s : String) :
    server.receive oid.jsonb .binary (utf8Bytes s) ≠ some (.jsonb s) := by
  intro h
  obtain ⟨t, ht, hbytes⟩ := hserver.jsonb h
  cases ht
  have hlen := congrArg List.length hbytes
  rw [List.length_cons] at hlen
  omega

/-- A string is read back when the type can hold it. -/
theorem accept_str (hserver : server.Lawful) (crates : Crates) {s : String}
    (h : encodeStr s target = .ok bs) :
    server.accept target bs = some ((Value.str s : Value crates).meaning target) ↔
      ExactStr server.isJson s target := by
  unfold encodeStr at h
  split at h
  · next htarget =>
    cases h
    have hnumeric : target ≠ oid.numeric := by
      rintro rfl
      exact absurd htarget (by decide)
    rw [accept_some, preferredFormat, if_neg hnumeric, ExactStr]
    by_cases hlen : (utf8Bytes s).length < 2 ^ 31
    · rw [if_pos hlen, and_iff_right hlen]
      by_cases hjsonb : target = oid.jsonb
      · subst hjsonb
        exact iff_of_false (receive_jsonb_ne hserver s) fun hexact => hexact.2.2.2 rfl
      by_cases hjson : target = oid.json
      · subst hjson
        have hname : oid.json ≠ oid.name := by decide
        rw [hserver.json]
        by_cases hzero : 0 ∈ utf8Bytes s <;> cases server.isJson s <;>
          simp [Value.meaning, hzero, hname, hjsonb]
      have hmeaning : (Value.str s : Value crates).meaning target = .text s := by
        simp [Value.meaning, hjson, hjsonb]
      rw [hmeaning]
      by_cases hname : target = oid.name
      · subst hname
        rw [hserver.name]
        by_cases hzero : 0 ∈ utf8Bytes s <;> by_cases hlong : 64 ≤ (utf8Bytes s).length <;>
          simp [hzero, hlong, hjson, hjsonb, Nat.lt_of_not_le]
      · have htext : target = oid.text ∨ target = oid.varchar ∨ target = oid.bpchar := by
          tauto
        rw [hserver.text htext]
        by_cases hzero : 0 ∈ utf8Bytes s <;> simp [hzero, hname, hjson, hjsonb]
    · rw [if_neg hlen]
      exact iff_of_false nofun fun hexact => hlen hexact.1
  · cases h

/-- Bytes are read back while their length can be written. -/
theorem accept_bytes (hserver : server.Lawful) {data : Bytes}
    (h : encodeBytes data target = .ok bs) :
    server.accept target bs = some (.bytea data) ↔ data.length < 2 ^ 31 := by
  obtain ⟨rfl, rfl⟩ := encodeOnly_ok h
  rw [accept_some]
  by_cases hlen : data.length < 2 ^ 31
  · rw [if_pos hlen]
    exact iff_of_true (hserver.bytea data) hlen
  · rw [if_neg hlen]
    exact iff_of_false nofun hlen

theorem accept_uuid (hserver : server.Lawful) {u : Uuid} (h : encodeUuid u target = .ok bs) :
    server.accept target bs = some (.uuid u.toList) := by
  obtain ⟨rfl, rfl⟩ := encodeOnly_ok h
  have hlen : u.toList.length = 16 := u.length_toList
  rw [accept_short server (by omega) (by decide)]
  exact hserver.uuid hlen

/-! ### Decimals -/

/-- The text of a number of 96 bits is short. -/
theorem length_signedText_le (negative : Bool) {coefficient scale : Nat}
    (hcoefficient : coefficient < 2 ^ 96) (hscale : scale ≤ 28) :
    (utf8Bytes (String.ofList (signedText negative coefficient scale))).length ≤ 240 := by
  have hdigits : ∀ n, n < 2 ^ 96 → (Nat.toDigits 10 n).length ≤ 29 := fun n hn =>
    (Nat.length_toDigits_le_iff (by decide) (by decide)).mpr (Nat.lt_trans hn (by decide))
  have hwhole := hdigits coefficient hcoefficient
  have hquot := hdigits (coefficient / 10 ^ scale)
    (Nat.lt_of_le_of_lt (Nat.div_le_self _ _) hcoefficient)
  have htext : (signedText negative coefficient scale).length ≤ 60 := by
    rw [signedText, DecimalDigits.pointed, List.length_append]
    split <;> split <;> simp <;> omega
  have hsum : ∀ cs : List Char, (cs.flatMap String.utf8EncodeChar).length ≤ 4 * cs.length := by
    intro cs
    induction cs with
    | nil => exact Nat.le_refl 0
    | cons c cs ih =>
      have hsize := c.utf8Size_le_four
      rw [List.flatMap_cons, List.length_append, String.length_utf8EncodeChar, List.length_cons]
      omega
  rw [utf8Bytes, String.toByteArray_ofList, List.utf8Encode, List.data_toByteArray]
  exact Nat.le_trans (hsum _) (Nat.mul_le_mul_left 4 htext)

/-- What is printed of a decimal is its value. -/
theorem value_of_signedText {c : RustDecimal} {d : c.Decimal} {negative : Bool}
    (hle : negative = true → c.mantissa d ≤ 0) (hlt : c.mantissa d < 0 → negative = true) :
    (if negative then -1 else 1) * ((c.mantissa d).natAbs / (10 : Rat) ^ c.scale d) =
      c.value d := by
  have hsign : ((if negative then -1 else 1) * ((c.mantissa d).natAbs : Int) : Int) =
      c.mantissa d := by
    cases negative with
    | true =>
      have hneg := hle rfl
      simp only [if_true]
      omega
    | false =>
      have hpos : ¬ c.mantissa d < 0 := fun h => Bool.false_ne_true (hlt h)
      simp only [Bool.false_eq_true, if_false]
      omega
  rw [RustDecimal.value, ← mul_div_assoc, ← hsign]
  cases negative <;> simp

theorem accept_decimal {c : RustDecimal} (hc : c.Lawful) (hserver : server.Lawful) {d : c.Decimal}
    (h : encodeDecimal c d target = .ok bs) :
    server.accept target bs = some (.numeric (c.value d)) := by
  obtain ⟨rfl, rfl⟩ := encodeOnly_ok h
  obtain ⟨negative, hdisplay, hle, hlt⟩ := hc.display d
  have hmantissa := hc.mantissa_lt d
  have hscale := hc.scale_le d
  have hlen := length_signedText_le negative hmantissa hscale
  have hdigits : (Nat.toDigits 10 (c.mantissa d).natAbs).length ≤ 29 :=
    (Nat.length_toDigits_le_iff (by decide) (by decide)).mpr (Nat.lt_trans hmantissa (by decide))
  rw [hdisplay, accept_some, if_pos (by omega), ← value_of_signedText hle hlt]
  exact hserver.numeric (by omega) (by omega)

/-! ### Dates and times -/

/-- A date is read back when it is one of the server's. -/
theorem accept_date (hserver : server.Lawful) {day : Int} (h : BigEndian.Fits 4 day) :
    server.accept oid.date (valueBytes (some (BigEndian.intBytes 4 day))) = some (.date day) ↔
      DateRange day := by
  rw [accept_short server (length_intBytes_le (by decide) day) (by decide), hserver.date h,
    ReadsDate]
  simp

/-- A time of day is read back in whole microseconds. -/
theorem accept_time (hserver : server.Lawful) {secs nano : Nat} (hsecs : secs < 86400)
    (hnano : nano < 2000000000) :
    server.accept oid.time (microseconds (secs * 1000000 + nano / 1000 : Nat)) =
      some (.time secs nano) ↔ WholeMicros nano := by
  have hfits : BigEndian.Fits 8 (secs * 1000000 + nano / 1000 : Nat) := by constructor <;> omega
  rw [microseconds, accept_short server (length_intBytes_le (by decide) _) (by decide),
    hserver.time hfits, ReadsTime, Int.toNat_natCast, Datum.time.injEq, WholeMicros]
  omega

/-- What is written of a number that does not fit is another one. -/
theorem exists_intBytes_eq (width : Nat) (n : Int) :
    ∃ m, BigEndian.intBytes width n = BigEndian.intBytes width m ∧ BigEndian.Fits width m := by
  have hbytes := BigEndian.intBytes_int (BigEndian.intBytes width n)
  have hfits := BigEndian.fits_int (BigEndian.intBytes width n)
  rw [BigEndian.length_intBytes] at hbytes hfits
  exact ⟨_, hbytes.symm, hfits⟩

/-- A timestamp is read back when it is one of the server's, in whole microseconds, if then its
microseconds are what was written. -/
theorem accept_timestamp (hserver : server.Lawful) {natural : Oid} {second us : Int} {nano : Nat}
    (hus : ExactTimestamp second nano → us = second * 1000000 + (nano / 1000 : Nat))
    (h : encodeTimestamp natural us target = .ok bs) :
    server.accept target bs = some (.timestamp second nano) ↔ ExactTimestamp second nano := by
  unfold encodeTimestamp at h
  split at h
  · next htarget =>
    cases h
    have hnumeric : target ≠ oid.numeric := by
      rintro rfl
      exact absurd htarget (by decide)
    rw [microseconds, accept_short server (length_intBytes_le (by decide) us) hnumeric]
    constructor
    · intro hread
      -- what was written may be the rest of a larger number
      obtain ⟨us', hus', hfits⟩ := exists_intBytes_eq 8 us
      rw [hus'] at hread
      rcases (hserver.timestamp htarget hfits).mp hread with ⟨hdatum, hrange⟩ | ⟨hdatum, -⟩ |
        ⟨hdatum, -⟩
      · injection hdatum with hsecond hnano
        rw [← hsecond] at hrange
        exact ⟨hrange, by omega, by omega⟩
      · cases hdatum
      · cases hdatum
    · intro hexact
      have hwritten := hus hexact
      obtain ⟨hrange, hnano, k, hk⟩ := hexact
      have hstart : daysFromCivil (-4713) 11 24 = -2451545 := by decide
      have hend : daysFromCivil 294277 1 1 = 106751983 := by decide
      have hbounds := hrange
      rw [TimestampRange, hstart, hend] at hbounds
      have hfits : BigEndian.Fits 8 us := by constructor <;> omega
      rw [hserver.timestamp htarget hfits]
      have hsecond : us / 1000000 = second := by omega
      have hfraction : (us % 1000000 * 1000).toNat = nano := by omega
      rw [ReadsTimestamp, hsecond, hfraction]
      exact .inl ⟨rfl, hrange⟩
  · cases h

/-- `num_microseconds` of a timestamp of `chrono` that the server can hold. -/
theorem chrono_micros {c : Chrono} (hc : c.Lawful) {ops : c.TimestampsOf}
    (hops : c.LawfulTimestamps ops) {t epoch : ops.Timestamp} (hepoch : c.IsEpoch ops epoch)
    (h : ExactTimestamp (c.second ops t) (c.nano ops t)) :
    (c.numMicroseconds (ops.signedDurationSince t epoch)).getD int64Max =
      c.second ops t * 1000000 + (c.nano ops t / 1000 : Nat) := by
  obtain ⟨us, hus, hfits⟩ := hc.micros h.2
  rw [hc.micros_since hops hepoch hus hfits, Option.getD_some]
  unfold Chrono.instant at hus
  omega

/-- `whole_microseconds` of a date and time of the crate `time` that the server can hold. -/
theorem time_micros {c : TimeCrate} (hc : c.Lawful) {ops : DateTimes c.Duration} {t : ops.DateTime}
    (h : ExactTimestamp (c.second ops t) (c.subsec ops t)) :
    c.wholeMicroseconds (ops.sub t ops.pgEpoch) =
      c.second ops t * 1000000 + (c.subsec ops t / 1000 : Nat) := by
  obtain ⟨-, -, k, hk⟩ := h
  rw [TimeCrate.subsec] at hk
  refine hc.whole_microseconds ?_
  change c.instant ops t = _
  rw [TimeCrate.second, TimeCrate.subsec]
  omega

theorem accept_chrono {c : Chrono} (hc : c.Lawful) (hserver : server.Lawful) {natural : Oid}
    {ops : c.TimestampsOf} (hops : c.LawfulTimestamps ops) {t epoch : ops.Timestamp}
    (hepoch : c.IsEpoch ops epoch)
    (h : encodeTimestamp natural
      ((c.numMicroseconds (ops.signedDurationSince t epoch)).getD int64Max) target = .ok bs) :
    server.accept target bs = some (.timestamp (c.second ops t) (c.nano ops t)) ↔
      ExactTimestamp (c.second ops t) (c.nano ops t) := by
  exact accept_timestamp hserver (chrono_micros hc hops hepoch) h

theorem accept_time_crate {c : TimeCrate} (hc : c.Lawful) (hserver : server.Lawful) {natural : Oid}
    {ops : DateTimes c.Duration} {t : ops.DateTime}
    (h : encodeTimestamp natural (c.wholeMicroseconds (ops.sub t ops.pgEpoch)) target = .ok bs) :
    server.accept target bs = some (.timestamp (c.second ops t) (c.subsec ops t)) ↔
      ExactTimestamp (c.second ops t) (c.subsec ops t) := by
  exact accept_timestamp hserver (time_micros hc) h

end ServerTypes

open ServerTypes

/-! ### Every value -/

/-- A time with an offset encodes as its instant, if there is one in UTC. -/
theorem encodeOffsetDateTime_ok {c : TimeCrate} {t : c.OffsetDateTime} {target : Oid} {bs : Bytes}
    (h : encodeOffsetDateTime c t target = .ok bs) :
    ∃ utc, c.toOffsetUtc t = .ok utc ∧ encodeTimestamp oid.timestamptz
      (c.wholeMicroseconds (c.offsetDateTime.sub utc c.offsetDateTime.pgEpoch)) target =
        .ok bs := by
  unfold encodeOffsetDateTime at h
  split at h
  · next htarget =>
    obtain ⟨utc, hutc, h⟩ := Outcome.bind_eq_ok_iff.mp h
    exact ⟨utc, hutc, (if_pos htarget).trans h⟩
  · cases h

/-- A date of the crate `time` encodes as the number of its day. -/
theorem encodeDate_ok {c : TimeCrate} {d : c.Date} {target : Oid} {bs : Bytes}
    (h : encodeDate c d target = .ok bs) :
    target = oid.date ∧ BigEndian.Fits 4 (c.day d) ∧
      bs = valueBytes (some (BigEndian.intBytes 4 (c.day d))) := by
  unfold encodeDate at h
  split at h
  · next htarget =>
    obtain ⟨day, hday, h⟩ := Outcome.bind_eq_ok_iff.mp h
    cases h
    obtain ⟨hfits, rfl⟩ := Checked.signed_eq_ok hday
    exact ⟨htarget, hfits, rfl⟩
  · cases h

theorem TimeCrate.Lawful.secs_lt {c : TimeCrate} (hc : c.Lawful) (t : c.Time) :
    c.secs t < 86400 := by
  obtain ⟨hhour, hminute, hsecond, -⟩ := hc.as_hms_nano_lt t
  unfold TimeCrate.secs
  omega

variable {crates : Crates} {server : ServerTypes} {target : Oid} {bs : Bytes}

/-- The microseconds of a time of the crate `time`. -/
theorem encodeTime_micros (c : TimeCrate) (t : c.Time) :
    (c.asHmsNano t).1 * 3600000000 + (c.asHmsNano t).2.1 * 60000000 +
      (c.asHmsNano t).2.2.1 * 1000000 + (c.asHmsNano t).2.2.2 / 1000 =
        c.secs t * 1000000 + c.nano t / 1000 := by
  unfold TimeCrate.secs TimeCrate.nano
  omega

/-- A time of the crate `time` is read back in whole microseconds. -/
theorem accept_encodeTime {c : TimeCrate} (hc : c.Lawful) (hserver : server.Lawful) {t : c.Time}
    (h : encodeTime c t target = .ok bs) :
    server.accept target bs = some (.time (c.secs t) (c.nano t)) ↔ WholeMicros (c.nano t) := by
  obtain ⟨rfl, rfl⟩ := encodeOnly_ok h
  have hnano : c.nano t < 1000000000 := (hc.as_hms_nano_lt t).2.2.2
  rw [encodeTime_micros]
  exact accept_time hserver (hc.secs_lt t) (by omega)

/-- Whenever a value encodes for an OID, the server accepts the bytes and decodes them to that value
exactly when the value is one of the server's type. -/
theorem encode_accepted (hcrates : crates.Lawful) (hserver : server.Lawful) (v : Value crates)
    (target : Oid) {bs : Bytes} (h : v.encode target = .ok bs) :
    server.accept target bs = some (v.meaning target) ↔ v.Exact server.isJson target := by
  have hchrono := hcrates.chrono
  induction v with
  | bool b => exact iff_of_true (accept_bool hserver h) trivial
  | i8 v | i16 v | i32 v | i64 v | u8 v | u16 v | u32 v | u64 v =>
    exact iff_of_true (accept_integer hserver h) trivial
  | str s | string s => exact accept_str hserver crates h
  | slice bs | vec bs => exact accept_bytes hserver h
  | uuid u => exact iff_of_true (accept_uuid hserver h) trivial
  | decimal d => exact iff_of_true (accept_decimal hcrates.decimal hserver h) trivial
  | ref v ih | some v ih => exact ih h
  | none =>
    cases h
    exact iff_of_true (by rw [accept, Datum.readParameter_none]; rfl) trivial
  | naiveDate d =>
    obtain ⟨rfl, rfl⟩ := encodeOnly_ok h
    exact accept_date hserver (hchrono.fits_day d)
  | date d =>
    obtain ⟨rfl, hfits, rfl⟩ := encodeDate_ok h
    exact accept_date hserver hfits
  | naiveTime t =>
    obtain ⟨rfl, rfl⟩ := encodeOnly_ok h
    exact accept_time hserver (hchrono.num_seconds_lt t) (hchrono.nanosecond_lt t)
  | time t => exact accept_encodeTime hcrates.time hserver h
  | naiveDateTime t =>
    exact accept_chrono hchrono hserver hchrono.naiveDateTime hchrono.epoch_naive h
  | dateTimeUtc t => exact accept_chrono hchrono hserver hchrono.dateTimeUtc hchrono.epoch_utc h
  | primitiveDateTime t => exact accept_time_crate hcrates.time hserver h
  | offsetDateTime t =>
    obtain ⟨utc, hutc, h⟩ := encodeOffsetDateTime_ok h
    have hinstant := (hcrates.time.to_offset_utc hutc).2
    have hread := accept_time_crate hcrates.time hserver h
    rw [TimeCrate.second, TimeCrate.subsec, hinstant] at hread
    exact hread

theorem encode_accepted_text :
    (Reference.types fun _ => true).accept oid.varchar (valueBytes (some (utf8Bytes "naïve"))) =
        some (.text "naïve") ↔
      (Value.str "naïve" : Value Reference.crates).Exact (fun _ => true) oid.varchar :=
  encode_accepted Reference.crates_lawful (Reference.types_lawful fun _ => true) (.str "naïve")
    oid.varchar rfl

/-- The JSON text `{}` as JSONB: the server takes its first byte for a version, and refuses
it. -/
theorem encode_jsonb_rejected :
    ¬ ∀ (isJson : String → Bool) (v : Value Reference.crates) (target : Oid) (bs : Bytes),
      v.encode target = .ok bs →
        (Reference.types isJson).accept target bs = some (v.meaning target) := by
  intro hvalid
  have hread := hvalid (fun _ => true) (.str "{}") oid.jsonb _ rfl
  have hrefused : (Reference.types fun _ => true).accept oid.jsonb
      (valueBytes (some (utf8Bytes "{}"))) = none := by
    decide +kernel
  rw [hrefused] at hread
  cases hread

end ZeroPostgres
