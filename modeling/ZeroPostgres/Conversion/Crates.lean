import Mathlib.Data.Rat.Defs
import ZeroPostgres.Conversion.Types
import ZeroPostgres.Lib.Checked
import ZeroPostgres.Lib.DecimalDigits

/-!
# The crates of dates, times and decimals

What `src/src/conversion/` calls of `chrono`, `time` and `rust_decimal`, which are third-party
packages: `Chrono`, `TimeCrate` and `RustDecimal` have the types and functions of a crate under its
own names, and `Lawful` what its documentation says of them. A day or an instant of a value is told
by functions of the crate as well.
-/

namespace ZeroPostgres

/-- `i64::MAX`. -/
def int64Max : Int := 2 ^ 63 - 1

/-! ### `chrono` -/

/-- What `NaiveDateTime` and `DateTime<Utc>` have in common, over the types of a date, a time of day
and a duration. -/
structure Timestamps (NaiveDate NaiveTime TimeDelta : Type) where
  Timestamp : Type
  date : Timestamp → NaiveDate
  time : Timestamp → NaiveTime
  checkedAddSigned : Timestamp → TimeDelta → Option Timestamp
  checkedSubSigned : Timestamp → TimeDelta → Option Timestamp
  withNanosecond : Timestamp → Nat → Option Timestamp
  signedDurationSince : Timestamp → Timestamp → TimeDelta

/-- The crate `chrono`. A panic is an outcome of what can panic. -/
structure Chrono where
  TimeDelta : Type
  NaiveDate : Type
  NaiveTime : Type
  /-- `TimeDelta::seconds`. -/
  seconds : Int → Parsed TimeDelta
  nanoseconds : Int → TimeDelta
  numDays : TimeDelta → Int
  numSeconds : TimeDelta → Int
  subsecNanos : TimeDelta → Int
  numMicroseconds : TimeDelta → Option Int
  /-- `NaiveDate::MIN`. -/
  minDate : NaiveDate
  /-- `NaiveDate::MAX`. -/
  maxDate : NaiveDate
  /-- `PG_EPOCH`, `src/src/conversion/chrono.rs:11`: `from_ymd_opt(2000, 1, 1)`. -/
  pgEpoch : NaiveDate
  checkedAddDays : NaiveDate → Nat → Option NaiveDate
  checkedSubDays : NaiveDate → Nat → Option NaiveDate
  /-- `NaiveDate::signed_duration_since`. -/
  signedDurationSince : NaiveDate → NaiveDate → TimeDelta
  fromNumSecondsFromMidnightOpt : Nat → Nat → Option NaiveTime
  numSecondsFromMidnight : NaiveTime → Nat
  nanosecond : NaiveTime → Nat
  naiveDateTime : Timestamps NaiveDate NaiveTime TimeDelta
  dateTimeUtc : Timestamps NaiveDate NaiveTime TimeDelta
  andHmsOpt : NaiveDate → Nat → Nat → Nat → Option naiveDateTime.Timestamp
  andUtc : naiveDateTime.Timestamp → dateTimeUtc.Timestamp
  /-- `PG_EPOCH_DT`, `src/src/conversion/chrono.rs:14–15`: `PG_EPOCH` at midnight. -/
  pgEpochDt : naiveDateTime.Timestamp

namespace Chrono

variable (c : Chrono)

abbrev NaiveDateTime : Type := c.naiveDateTime.Timestamp

abbrev DateTimeUtc : Type := c.dateTimeUtc.Timestamp

/-- The timestamps of the crate, with or without a zone. -/
abbrev TimestampsOf : Type 1 := Timestamps c.NaiveDate c.NaiveTime c.TimeDelta

/-- A duration in nanoseconds. -/
def nanos (δ : c.TimeDelta) : Int := c.numSeconds δ * 1000000000 + c.subsecNanos δ

/-- The days from 2000-01-01 to a date. -/
def day (d : c.NaiveDate) : Int := c.numDays (c.signedDurationSince d c.pgEpoch)

variable (ops : c.TimestampsOf)

/-- The seconds from 2000-01-01 00:00:00 to a timestamp. -/
def second (t : ops.Timestamp) : Int :=
  c.day (ops.date t) * 86400 + c.numSecondsFromMidnight (ops.time t)

/-- The nanoseconds behind them, a leap second being a long one. -/
def nano (t : ops.Timestamp) : Nat := c.nanosecond (ops.time t)

/-- The nanoseconds from 2000-01-01 00:00:00 to a timestamp. -/
def instant (t : ops.Timestamp) : Int := c.second ops t * 1000000000 + c.nano ops t

/-- What is documented of timestamps: every date has every time, sums are the instants they stand
for, and there is one wherever there is a timestamp. Nothing is said of sums with a leap second. -/
structure LawfulTimestamps : Prop where
  new : ∀ date time, ∃ t, ops.date t = date ∧ ops.time t = time
  checked_add : ∀ {t δ u}, c.nano ops t < 1000000000 → (ops.checkedAddSigned t δ = some u ↔
    c.nano ops u < 1000000000 ∧ c.instant ops u = c.instant ops t + c.nanos δ)
  checked_sub : ∀ {t δ u}, c.nano ops t < 1000000000 → (ops.checkedSubSigned t δ = some u ↔
    c.nano ops u < 1000000000 ∧ c.instant ops u = c.instant ops t - c.nanos δ)
  with_nanosecond : ∀ {t n u}, n < 1000000000 → (ops.withNanosecond t n = some u ↔
    c.second ops u = c.second ops t ∧ c.nano ops u = n)
  since_midnight : ∀ {t u}, c.second ops u % 86400 = 0 → c.nano ops u = 0 →
    c.nanos (ops.signedDurationSince t u) = c.instant ops t - c.instant ops u

/-- What is documented of the crate: its dates are the days from the first of the year 262144 BC to
the last of 262142, only the last second of a minute can be a leap second, and a duration counts
whole microseconds as long as 64 bits hold them. -/
structure Lawful : Prop where
  nanos_seconds : ∀ {n}, -(int64Max / 1000) ≤ n → n ≤ int64Max / 1000 →
    ∃ δ, c.seconds n = .ok δ ∧ c.nanos δ = n * 1000000000
  nanos_nanoseconds : ∀ {n}, BigEndian.Fits 8 n → c.nanos (c.nanoseconds n) = n
  num_microseconds : ∀ {δ us}, c.nanos δ = us * 1000 → BigEndian.Fits 8 us →
    c.numMicroseconds δ = some us
  day_ext : ∀ {d e}, c.day d = c.day e → d = e
  exists_day : ∀ {n}, c.day c.minDate ≤ n → n ≤ c.day c.maxDate → ∃ d, c.day d = n
  min_le : ∀ d, c.day c.minDate ≤ c.day d
  le_max : ∀ d, c.day d ≤ c.day c.maxDate
  day_min : c.day c.minDate = daysFromCivil (-262143) 1 1
  day_max : c.day c.maxDate = daysFromCivil 262142 12 31
  day_epoch : c.day c.pgEpoch = 0
  checked_add_days : ∀ {d n e}, c.checkedAddDays d n = some e ↔ c.day e = c.day d + n
  checked_sub_days : ∀ {d n e}, c.checkedSubDays d n = some e ↔ c.day e = c.day d - n
  time_ext : ∀ {t u}, c.numSecondsFromMidnight t = c.numSecondsFromMidnight u →
    c.nanosecond t = c.nanosecond u → t = u
  num_seconds_lt : ∀ t, c.numSecondsFromMidnight t < 86400
  nanosecond_lt : ∀ t, c.nanosecond t < 2000000000
  from_num_seconds : ∀ {secs nano t}, c.fromNumSecondsFromMidnightOpt secs nano = some t →
    c.numSecondsFromMidnight t = secs ∧ c.nanosecond t = nano
  from_num_seconds_isSome : ∀ {secs nano},
    (c.fromNumSecondsFromMidnightOpt secs nano).isSome ↔
      secs < 86400 ∧ nano < 2000000000 ∧ (1000000000 ≤ nano → secs % 60 = 59)
  naiveDateTime : c.LawfulTimestamps c.naiveDateTime
  dateTimeUtc : c.LawfulTimestamps c.dateTimeUtc
  and_hms : ∀ {d t}, c.andHmsOpt d 0 0 0 = some t ↔ c.naiveDateTime.date t = d ∧
    c.numSecondsFromMidnight (c.naiveDateTime.time t) = 0 ∧
    c.nanosecond (c.naiveDateTime.time t) = 0
  and_utc : ∀ t, c.dateTimeUtc.date (c.andUtc t) = c.naiveDateTime.date t ∧
    c.dateTimeUtc.time (c.andUtc t) = c.naiveDateTime.time t
  epoch_dt : c.andHmsOpt c.pgEpoch 0 0 0 = some c.pgEpochDt

end Chrono

/-! ### `time` -/

/-- What `PrimitiveDateTime` and `OffsetDateTime` have in common, over the type of a duration. -/
structure DateTimes (Duration : Type) where
  DateTime : Type
  /-- `PG_EPOCH`, `src/src/conversion/time.rs:145`, `:163`, `:214` and `:232`. -/
  pgEpoch : DateTime
  checkedAdd : DateTime → Duration → Option DateTime
  /-- The operator `-`. -/
  sub : DateTime → DateTime → Duration

/-- The crate `time`. An error is the text it displays. -/
structure TimeCrate where
  Duration : Type
  Date : Type
  Time : Type
  /-- `Duration::microseconds`. -/
  microseconds : Int → Duration
  wholeMicroseconds : Duration → Int
  wholeNanoseconds : Duration → Int
  fromJulianDay : Int → Except String Date
  toJulianDay : Date → Int
  fromHmsMicro : Nat → Nat → Nat → Nat → Except String Time
  asHmsNano : Time → Nat × Nat × Nat × Nat
  primitiveDateTime : DateTimes Duration
  offsetDateTime : DateTimes Duration
  /-- The offset from UTC in seconds. -/
  offset : offsetDateTime.DateTime → Int
  /-- `to_offset(UtcOffset::UTC)`. -/
  toOffsetUtc : offsetDateTime.DateTime → Parsed offsetDateTime.DateTime

namespace TimeCrate

variable (c : TimeCrate)

abbrev PrimitiveDateTime : Type := c.primitiveDateTime.DateTime

abbrev OffsetDateTime : Type := c.offsetDateTime.DateTime

/-- The days from 2000-01-01 to a date. -/
def day (d : c.Date) : Int := c.toJulianDay d - pgEpochJulianDay

/-- The second of the day. -/
def secs (t : c.Time) : Nat :=
  (c.asHmsNano t).1 * 3600 + (c.asHmsNano t).2.1 * 60 + (c.asHmsNano t).2.2.1

/-- The nanoseconds behind it. -/
def nano (t : c.Time) : Nat := (c.asHmsNano t).2.2.2

/-- The nanoseconds from 2000-01-01 00:00:00 to a date and time. -/
def instant (ops : DateTimes c.Duration) (t : ops.DateTime) : Int :=
  c.wholeNanoseconds (ops.sub t ops.pgEpoch)

/-- The seconds of them. -/
def second (ops : DateTimes c.Duration) (t : ops.DateTime) : Int := c.instant ops t / 1000000000

/-- The nanoseconds behind these. -/
def subsec (ops : DateTimes c.Duration) (t : ops.DateTime) : Nat :=
  (c.instant ops t % 1000000000).toNat

/-- What is documented of the crate: its dates are the days of some years, at most six digits of
them, and its instants those on these days. -/
structure Lawful : Prop where
  nanos_microseconds : ∀ {n}, BigEndian.Fits 8 n →
    c.wholeNanoseconds (c.microseconds n) = n * 1000
  whole_microseconds : ∀ {δ us}, c.wholeNanoseconds δ = us * 1000 → c.wholeMicroseconds δ = us
  from_julian_day : ∀ {n d}, c.fromJulianDay n = .ok d ↔ c.toJulianDay d = n
  min_le : ∀ d, daysFromCivil (-999999) 1 1 ≤ c.day d
  le_max : ∀ d, c.day d ≤ daysFromCivil 999999 12 31
  from_hms_micro : ∀ {hour minute second micro t},
    c.fromHmsMicro hour minute second micro = .ok t ↔
      (hour < 24 ∧ minute < 60 ∧ second < 60 ∧ micro < 1000000) ∧
        c.asHmsNano t = (hour, minute, second, micro * 1000)
  exists_time : ∀ {hour minute second nano}, hour < 24 → minute < 60 → second < 60 →
    nano < 1000000000 → ∃ t, c.asHmsNano t = (hour, minute, second, nano)
  as_hms_nano_lt : ∀ t, (c.asHmsNano t).1 < 24 ∧ (c.asHmsNano t).2.1 < 60 ∧
    (c.asHmsNano t).2.2.1 < 60 ∧ (c.asHmsNano t).2.2.2 < 1000000000
  add_primitive : ∀ {δ t},
    c.primitiveDateTime.checkedAdd c.primitiveDateTime.pgEpoch δ = some t ↔
      c.instant c.primitiveDateTime t = c.wholeNanoseconds δ
  add_offset : ∀ {δ t}, c.offsetDateTime.checkedAdd c.offsetDateTime.pgEpoch δ = some t ↔
    c.offset t = 0 ∧ c.instant c.offsetDateTime t = c.wholeNanoseconds δ
  to_offset_utc : ∀ {t u}, c.toOffsetUtc t = .ok u →
    c.offset u = 0 ∧ c.instant c.offsetDateTime u = c.instant c.offsetDateTime t

/-- The years of an instant have four digits, or it is a few hours off those that have. -/
def InFourDigits (ns : Int) : Prop :=
  daysFromCivil (-10000) 1 1 * 86400000000000 ≤ ns ∧ ns < daysFromCivil 10001 1 1 * 86400000000000

/-- The crate without its feature `large-dates`, as the library asks for it: years have four
digits. -/
structure FourDigitYears : Prop where
  primitive : ∀ t, InFourDigits (c.instant c.primitiveDateTime t)
  offset : ∀ t, InFourDigits (c.instant c.offsetDateTime t)

end TimeCrate

/-! ### `rust_decimal` -/

/-- A sign and a number with its point put in. -/
def signedText (negative : Bool) (coefficient scale : Nat) : List Char :=
  (if negative then ['-'] else []) ++ DecimalDigits.pointed coefficient scale

/-- The crate `rust_decimal`. A panic is an outcome of what can panic, and an error the text it
displays. -/
structure RustDecimal where
  Decimal : Type
  /-- `Decimal::ZERO`. -/
  zero : Decimal
  /-- `Decimal::TEN`. -/
  ten : Decimal
  mantissa : Decimal → Int
  scale : Decimal → Nat
  fromI128WithScale : Int → Nat → Parsed Decimal
  checkedMul : Decimal → Decimal → Option Decimal
  setScale : Decimal → Nat → Except String Decimal
  roundDp : Decimal → Nat → Decimal
  /-- `to_string`. -/
  display : Decimal → List Char

namespace RustDecimal

variable (c : RustDecimal)

/-- The value of a decimal. -/
def value (d : c.Decimal) : Rat := c.mantissa d / (10 : Rat) ^ c.scale d

/-- What is documented of the crate: a decimal is a number of 96 bits with a sign over a power of
ten up to the 28th, a product of whole numbers is exact or overflows, the scale is set without
regard to the value, and rounding leaves so many places and the nearest of such values. Zero can
have either sign in print. -/
structure Lawful : Prop where
  mantissa_lt : ∀ d, (c.mantissa d).natAbs < 2 ^ 96
  scale_le : ∀ d, c.scale d ≤ 28
  mantissa_zero : c.mantissa c.zero = 0
  mantissa_ten : c.mantissa c.ten = 10
  scale_ten : c.scale c.ten = 0
  from_i128 : ∀ {n s}, n.natAbs < 2 ^ 96 → s ≤ 28 →
    ∃ d, c.fromI128WithScale n s = .ok d ∧ c.mantissa d = n ∧ c.scale d = s
  from_i128_panics : ∀ {n s}, 2 ^ 96 ≤ n.natAbs ∨ 28 < s → c.fromI128WithScale n s = .halt
  checked_mul : ∀ {d e}, c.scale d = 0 → c.scale e = 0 →
    (c.mantissa d * c.mantissa e).natAbs < 2 ^ 96 →
      ∃ p, c.checkedMul d e = some p ∧ c.mantissa p = c.mantissa d * c.mantissa e ∧ c.scale p = 0
  checked_mul_overflows : ∀ {d e}, c.scale d = 0 → c.scale e = 0 →
    2 ^ 96 ≤ (c.mantissa d * c.mantissa e).natAbs → c.checkedMul d e = none
  set_scale : ∀ {d s}, s ≤ 28 →
    ∃ e, c.setScale d s = .ok e ∧ c.mantissa e = c.mantissa d ∧ c.scale e = s
  set_scale_error : ∀ {d s}, 28 < s → ∃ text, c.setScale d s = .error text
  round_dp : ∀ d dp, ∃ n : Int, c.value (c.roundDp d dp) = n / (10 : Rat) ^ dp ∧
    |c.value (c.roundDp d dp) - c.value d| ≤ 1 / (2 * (10 : Rat) ^ dp)
  display : ∀ d, ∃ negative, c.display d = signedText negative (c.mantissa d).natAbs (c.scale d) ∧
    (negative = true → c.mantissa d ≤ 0) ∧ (c.mantissa d < 0 → negative = true)

end RustDecimal

/-! ### All three -/

/-- The crates a build of the library uses. -/
structure Crates where
  chrono : Chrono
  time : TimeCrate
  decimal : RustDecimal

/-- Each keeps to its documentation. -/
structure Crates.Lawful (c : Crates) : Prop where
  chrono : c.chrono.Lawful
  time : c.time.Lawful
  decimal : c.decimal.Lawful

end ZeroPostgres
