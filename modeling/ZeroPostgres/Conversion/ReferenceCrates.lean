import Mathlib.Algebra.Order.Field.Rat
import Mathlib.Tactic.FieldSimp
import Mathlib.Tactic.Linarith
import Mathlib.Tactic.Positivity
import ZeroPostgres.Conversion.Crates

/-!
# Crates that keep the laws

A date that is its day number, a time that is its parts, a duration that is a number of nanoseconds
and a decimal that is its mantissa and its scale, in the ranges of the crates as they are built by
default. With them the conversions can be run.
-/

namespace ZeroPostgres

namespace Reference

/-! ### `chrono` -/

/-- A day of the calendar from the first of the year 262144 BC to the last of 262142, counted from
2000-01-01. -/
structure NaiveDate where
  day : Int
  min_le : daysFromCivil (-262143) 1 1 ≤ day
  le_max : day ≤ daysFromCivil 262142 12 31
deriving DecidableEq

theorem sampleDay_min : daysFromCivil (-262143) 1 1 ≤ 8780 := by decide

theorem sampleDay_max : 8780 ≤ daysFromCivil 262142 12 31 := by decide

/-- 2024-01-15. -/
def sampleDate : NaiveDate := ⟨8780, sampleDay_min, sampleDay_max⟩

/-- The date on a day, if there is one. -/
def NaiveDate.ofDay? (day : Int) : Option NaiveDate :=
  if h : daysFromCivil (-262143) 1 1 ≤ day ∧ day ≤ daysFromCivil 262142 12 31 then
    some ⟨day, h.1, h.2⟩
  else none

/-- A second of the day and the nanoseconds in it. -/
structure NaiveTime where
  secs : Nat
  frac : Nat
  secs_lt : secs < 86400
  frac_lt : frac < 2000000000
deriving DecidableEq

/-- Only the last second of a minute can be a leap second. -/
def NaiveTime.ofSecs? (secs frac : Nat) : Option NaiveTime :=
  if h : secs < 86400 ∧ frac < 2000000000 ∧ (1000000000 ≤ frac → secs % 60 = 59) then
    some ⟨secs, frac, h.1, h.2.1⟩
  else none

/-- A date and a time without a zone, or in UTC. -/
structure NaiveDateTime where
  date : NaiveDate
  time : NaiveTime
deriving DecidableEq

namespace NaiveDateTime

/-- Nanoseconds since 2000-01-01 00:00:00. -/
def nanos (t : NaiveDateTime) : Int :=
  (t.date.day * 86400 + t.time.secs) * 1000000000 + t.time.frac

/-- The timestamp at an instant that is no leap second. -/
def ofNanos? (ns : Int) : Option NaiveDateTime :=
  (NaiveDate.ofDay? (ns / 86400000000000)).map fun date =>
    ⟨date, (ns % 86400000000000 / 1000000000).toNat, (ns % 1000000000).toNat, by omega, by omega⟩

end NaiveDateTime

theorem parts_secs_lt (hour minute second : Nat) (h : hour < 24 ∧ minute < 60 ∧ second < 60) :
    hour * 3600 + minute * 60 + second < 86400 := by
  omega

/-- Timestamps as instants. -/
abbrev timestamps : Timestamps NaiveDate NaiveTime Int where
  Timestamp := NaiveDateTime
  date := NaiveDateTime.date
  time := NaiveDateTime.time
  checkedAddSigned t ns := NaiveDateTime.ofNanos? (t.nanos + ns)
  checkedSubSigned t ns := NaiveDateTime.ofNanos? (t.nanos - ns)
  withNanosecond t frac :=
    if h : frac < 2000000000 then some ⟨t.date, t.time.secs, frac, t.time.secs_lt, h⟩ else none
  signedDurationSince t u := t.nanos - u.nanos

theorem minDay_le_zero : daysFromCivil (-262143) 1 1 ≤ 0 := by decide

theorem zero_le_maxDay : 0 ≤ daysFromCivil 262142 12 31 := by decide

theorem minDay_le_maxDay : daysFromCivil (-262143) 1 1 ≤ daysFromCivil 262142 12 31 := by decide

abbrev chrono : Chrono where
  TimeDelta := Int
  NaiveDate := NaiveDate
  NaiveTime := NaiveTime
  seconds n := if -(int64Max / 1000) ≤ n ∧ n ≤ int64Max / 1000 then .ok (n * 1000000000) else .halt
  nanoseconds n := n
  numDays ns := ns.tdiv 86400000000000
  numSeconds ns := ns.tdiv 1000000000
  subsecNanos ns := ns.tmod 1000000000
  numMicroseconds ns :=
    if BigEndian.Fits 8 (ns.tdiv 1000) then some (ns.tdiv 1000) else none
  minDate := ⟨_, Int.le_refl _, minDay_le_maxDay⟩
  maxDate := ⟨_, minDay_le_maxDay, Int.le_refl _⟩
  pgEpoch := ⟨0, minDay_le_zero, zero_le_maxDay⟩
  checkedAddDays d days := NaiveDate.ofDay? (d.day + days)
  checkedSubDays d days := NaiveDate.ofDay? (d.day - days)
  signedDurationSince d e := (d.day - e.day) * 86400000000000
  fromNumSecondsFromMidnightOpt := NaiveTime.ofSecs?
  numSecondsFromMidnight := NaiveTime.secs
  nanosecond := NaiveTime.frac
  naiveDateTime := timestamps
  dateTimeUtc := timestamps
  andHmsOpt d hour minute second :=
    if h : hour < 24 ∧ minute < 60 ∧ second < 60 then
      some ⟨d, hour * 3600 + minute * 60 + second, 0, parts_secs_lt _ _ _ h, Nat.zero_lt_succ _⟩
    else none
  andUtc t := t
  pgEpochDt := ⟨⟨0, minDay_le_zero, zero_le_maxDay⟩, 0, 0, Nat.zero_lt_succ _, Nat.zero_lt_succ _⟩

theorem NaiveDate.ofDay?_eq_some {day : Int} {d : NaiveDate} :
    NaiveDate.ofDay? day = some d ↔ d.day = day := by
  obtain ⟨day', hmin, hmax⟩ := d
  unfold ofDay?
  split
  · simp [eq_comm]
  · next h =>
    simp only [reduceCtorEq, false_iff]
    rintro rfl
    exact h ⟨hmin, hmax⟩

theorem NaiveDateTime.ofNanos?_eq_some {ns : Int} {t : NaiveDateTime} :
    NaiveDateTime.ofNanos? ns = some t ↔ t.time.frac < 1000000000 ∧ t.nanos = ns := by
  obtain ⟨date, secs, frac, hsecs, hfrac⟩ := t
  rw [ofNanos?, Option.map_eq_some_iff]
  simp only [NaiveDateTime.mk.injEq, NaiveTime.mk.injEq, nanos]
  constructor
  · rintro ⟨d, hd, rfl, hsecs', hfrac'⟩
    have hday := NaiveDate.ofDay?_eq_some.mp hd
    omega
  · rintro ⟨hfrac', hns⟩
    exact ⟨date, NaiveDate.ofDay?_eq_some.mpr (by omega), rfl, by omega, by omega⟩

theorem chrono_day (d : NaiveDate) : chrono.day d = d.day := by
  show ((d.day - 0) * 86400000000000).tdiv 86400000000000 = d.day
  rw [Int.sub_zero, Int.mul_tdiv_cancel _ (by decide)]

theorem chrono_nanos (ns : Int) : chrono.nanos ns = ns := by
  show ns.tdiv 1000000000 * 1000000000 + ns.tmod 1000000000 = ns
  rw [Int.mul_comm, Int.mul_tdiv_add_tmod]

theorem chrono_second (t : NaiveDateTime) :
    chrono.second timestamps t = t.date.day * 86400 + t.time.secs := by
  rw [Chrono.second, chrono_day]

theorem chrono_instant (t : NaiveDateTime) : chrono.instant timestamps t = t.nanos := by
  rw [Chrono.instant, chrono_second]
  rfl

theorem NaiveDate.eq_of_day_eq {d e : NaiveDate} (h : d.day = e.day) : d = e := by
  cases d
  cases e
  congr

theorem NaiveTime.eq_of_parts_eq {t u : NaiveTime} (hsecs : t.secs = u.secs)
    (hfrac : t.frac = u.frac) : t = u := by
  cases t
  cases u
  congr

theorem timestamps_lawful : chrono.LawfulTimestamps timestamps where
  new date time := ⟨⟨date, time⟩, rfl, rfl⟩
  checked_add {t δ u} _ := by
    rw [chrono_instant, chrono_instant, chrono_nanos]
    exact NaiveDateTime.ofNanos?_eq_some
  checked_sub {t δ u} _ := by
    rw [chrono_instant, chrono_instant, chrono_nanos]
    exact NaiveDateTime.ofNanos?_eq_some
  with_nanosecond {t n u} hn := by
    obtain ⟨date, secs, frac, hsecs, hfrac⟩ := u
    have htsecs := t.time.secs_lt
    rw [chrono_second, chrono_second]
    show (if h : n < 2000000000 then some (⟨t.date, t.time.secs, n, t.time.secs_lt, h⟩ :
      NaiveDateTime) else none) = _ ↔ _ ∧ frac = n
    rw [dif_pos (by omega), Option.some.injEq, NaiveDateTime.mk.injEq, NaiveTime.mk.injEq]
    constructor
    · rintro ⟨rfl, rfl, rfl⟩
      exact ⟨rfl, rfl⟩
    · rintro ⟨hsecond, rfl⟩
      dsimp only at hsecond
      exact ⟨NaiveDate.eq_of_day_eq (by omega), by omega, rfl⟩
  since_midnight {t u} _ _ := by
    rw [chrono_instant, chrono_instant, chrono_nanos]

theorem chrono_lawful : chrono.Lawful where
  nanos_seconds {n} hlow hhigh := ⟨n * 1000000000, if_pos ⟨hlow, hhigh⟩, chrono_nanos _⟩
  nanos_nanoseconds _ := chrono_nanos _
  num_microseconds {δ us} hδ hfits := by
    rw [chrono_nanos] at hδ
    have hus : δ.tdiv 1000 = us := by rw [hδ, Int.mul_tdiv_cancel _ (by decide)]
    show (if BigEndian.Fits 8 (δ.tdiv 1000) then some (δ.tdiv 1000) else none) = _
    rw [hus, if_pos hfits]
  day_ext h := by
    rw [chrono_day, chrono_day] at h
    exact NaiveDate.eq_of_day_eq h
  exists_day {n} hlow hhigh := by
    rw [chrono_day] at hlow hhigh
    exact ⟨⟨n, hlow, hhigh⟩, chrono_day _⟩
  min_le d := by
    rw [chrono_day, chrono_day]
    exact d.min_le
  le_max d := by
    rw [chrono_day, chrono_day]
    exact d.le_max
  day_min := chrono_day _
  day_max := chrono_day _
  day_epoch := chrono_day _
  checked_add_days := by
    intro d n e
    rw [chrono_day, chrono_day]
    exact NaiveDate.ofDay?_eq_some
  checked_sub_days := by
    intro d n e
    rw [chrono_day, chrono_day]
    exact NaiveDate.ofDay?_eq_some
  time_ext := NaiveTime.eq_of_parts_eq
  num_seconds_lt t := t.secs_lt
  nanosecond_lt t := t.frac_lt
  from_num_seconds {secs nano t} h := by
    have h : NaiveTime.ofSecs? secs nano = some t := h
    unfold NaiveTime.ofSecs? at h
    split at h
    · cases h
      exact ⟨rfl, rfl⟩
    · cases h
  from_num_seconds_isSome {secs nano} := by
    show (NaiveTime.ofSecs? secs nano).isSome ↔ _
    unfold NaiveTime.ofSecs?
    split
    · next h => exact iff_of_true rfl h
    · next h => exact iff_of_false (by simp) h
  naiveDateTime := timestamps_lawful
  dateTimeUtc := timestamps_lawful
  and_hms {d t} := by
    obtain ⟨date, secs, frac, hsecs, hfrac⟩ := t
    show some _ = some _ ↔ date = d ∧ secs = 0 ∧ frac = 0
    rw [Option.some.injEq, NaiveDateTime.mk.injEq, NaiveTime.mk.injEq]
    simp [eq_comm]
  and_utc _ := ⟨rfl, rfl⟩
  epoch_dt := rfl

/-! ### `time` -/

/-- A date between the years -9999 and 9999, by its Julian day number. -/
structure Date where
  julianDay : Int
  min_le : daysFromCivil (-9999) 1 1 + pgEpochJulianDay ≤ julianDay
  le_max : julianDay ≤ daysFromCivil 9999 12 31 + pgEpochJulianDay
deriving DecidableEq

/-- The date on a Julian day. -/
def Date.ofJulianDay (julianDay : Int) : Except String Date :=
  if h : daysFromCivil (-9999) 1 1 + pgEpochJulianDay ≤ julianDay ∧
      julianDay ≤ daysFromCivil 9999 12 31 + pgEpochJulianDay then
    .ok ⟨julianDay, h.1, h.2⟩
  else .error "julian_day"

/-- A time of day. -/
structure Time where
  hour : Nat
  minute : Nat
  second : Nat
  nanosecond : Nat
  hour_lt : hour < 24
  minute_lt : minute < 60
  second_lt : second < 60
  nanosecond_lt : nanosecond < 1000000000
deriving DecidableEq

/-- The time of its parts; an error names the first one out of range. -/
def Time.ofParts (hour minute second micro : Nat) : Except String Time :=
  if hhour : hour < 24 then
    if hminute : minute < 60 then
      if hsecond : second < 60 then
        if hmicro : micro < 1000000 then
          .ok ⟨hour, minute, second, micro * 1000, hhour, hminute, hsecond, by omega⟩
        else .error "microsecond"
      else .error "second"
    else .error "minute"
  else .error "hour"

/-- A date and a time without an offset. -/
structure PrimitiveDateTime where
  date : Date
  time : Time
deriving DecidableEq

namespace PrimitiveDateTime

/-- Nanoseconds since 2000-01-01 00:00:00. -/
def nanos (t : PrimitiveDateTime) : Int :=
  ((t.date.julianDay - pgEpochJulianDay) * 86400 +
    (t.time.hour * 3600 + t.time.minute * 60 + t.time.second : Nat)) * 1000000000 +
    t.time.nanosecond

/-- The parts of a day are in their ranges. -/
theorem parts_lt (ns : Int) : (ns % 86400000000000 / 3600000000000).toNat < 24 ∧
    (ns % 3600000000000 / 60000000000).toNat < 60 ∧
    (ns % 60000000000 / 1000000000).toNat < 60 ∧ (ns % 1000000000).toNat < 1000000000 := by
  omega

/-- The date and time at an instant. -/
def ofNanos? (ns : Int) : Option PrimitiveDateTime :=
  match Date.ofJulianDay (ns / 86400000000000 + pgEpochJulianDay) with
  | .ok date => some ⟨date, (ns % 86400000000000 / 3600000000000).toNat,
      (ns % 3600000000000 / 60000000000).toNat, (ns % 60000000000 / 1000000000).toNat,
      (ns % 1000000000).toNat, (parts_lt ns).1, (parts_lt ns).2.1, (parts_lt ns).2.2.1,
      (parts_lt ns).2.2.2⟩
  | .error _ => none

end PrimitiveDateTime

/-- A local date and time with its offset from UTC in seconds, less than 26 hours. -/
structure OffsetDateTime where
  datetime : PrimitiveDateTime
  offset : Int
  offset_lt : offset.natAbs < 93600
deriving DecidableEq

theorem zero_offset_lt : Int.natAbs 0 < 93600 := Nat.zero_lt_succ _

/-- Nanoseconds since 2000-01-01 00:00:00 UTC. -/
def OffsetDateTime.nanos (t : OffsetDateTime) : Int := t.datetime.nanos - t.offset * 1000000000

/-- 2000-01-01 00:00:00. -/
def midnight2000 : PrimitiveDateTime :=
  ⟨⟨pgEpochJulianDay, by decide, by decide⟩, 0, 0, 0, 0, Nat.zero_lt_succ _, Nat.zero_lt_succ _,
    Nat.zero_lt_succ _, Nat.zero_lt_succ _⟩

abbrev time : TimeCrate where
  Duration := Int
  Date := Date
  Time := Time
  microseconds us := us * 1000
  wholeMicroseconds ns := ns.tdiv 1000
  wholeNanoseconds ns := ns
  fromJulianDay := Date.ofJulianDay
  toJulianDay := Date.julianDay
  fromHmsMicro := Time.ofParts
  asHmsNano t := (t.hour, t.minute, t.second, t.nanosecond)
  primitiveDateTime := ⟨PrimitiveDateTime, midnight2000, fun t ns =>
    PrimitiveDateTime.ofNanos? (t.nanos + ns),
    fun t u => t.nanos - u.nanos⟩
  offsetDateTime := ⟨OffsetDateTime, ⟨midnight2000, 0, zero_offset_lt⟩, fun t ns =>
    (PrimitiveDateTime.ofNanos? (t.datetime.nanos + ns)).map (⟨·, t.offset, t.offset_lt⟩),
    fun t u => t.nanos - u.nanos⟩
  offset := OffsetDateTime.offset
  toOffsetUtc t :=
    match PrimitiveDateTime.ofNanos? t.nanos with
    | some utc => .ok ⟨utc, 0, zero_offset_lt⟩
    | none => .halt

theorem Date.ofJulianDay_eq_ok {julianDay : Int} {d : Date} :
    Date.ofJulianDay julianDay = .ok d ↔ d.julianDay = julianDay := by
  obtain ⟨day, hmin, hmax⟩ := d
  unfold ofJulianDay
  split
  · simp [eq_comm]
  · next h =>
    simp only [reduceCtorEq, false_iff]
    rintro rfl
    exact h ⟨hmin, hmax⟩

theorem Time.ofParts_eq_ok {hour minute second micro : Nat} {t : Time} :
    Time.ofParts hour minute second micro = .ok t ↔
      (hour < 24 ∧ minute < 60 ∧ second < 60 ∧ micro < 1000000) ∧
        (t.hour, t.minute, t.second, t.nanosecond) = (hour, minute, second, micro * 1000) := by
  obtain ⟨thour, tminute, tsecond, tnano, _, _, _, _⟩ := t
  unfold ofParts
  simp only [Prod.mk.injEq]
  split <;> [split <;> [split <;> [split; skip]; skip]; skip]
  case isTrue.isTrue.isTrue.isTrue =>
    simp only [Except.ok.injEq, mk.injEq]
    omega
  all_goals
    simp only [reduceCtorEq, false_iff]
    omega

theorem PrimitiveDateTime.ofNanos?_eq_some {ns : Int} {t : PrimitiveDateTime} :
    PrimitiveDateTime.ofNanos? ns = some t ↔ t.nanos = ns := by
  obtain ⟨date, hour, minute, second, nanosecond, hhour, hminute, hsecond, hnano⟩ := t
  unfold ofNanos? nanos
  dsimp only
  constructor
  · intro h
    split at h
    · next d hd =>
      cases h
      have hday := Date.ofJulianDay_eq_ok.mp hd
      omega
    · cases h
  · intro hns
    have hday : Date.ofJulianDay (ns / 86400000000000 + pgEpochJulianDay) = .ok date := by
      rw [Date.ofJulianDay_eq_ok]
      omega
    have h₁ : (ns % 86400000000000 / 3600000000000).toNat = hour := by omega
    have h₂ : (ns % 3600000000000 / 60000000000).toNat = minute := by omega
    have h₃ : (ns % 60000000000 / 1000000000).toNat = second := by omega
    have h₄ : (ns % 1000000000).toNat = nanosecond := by omega
    simp only [hday, h₁, h₂, h₃, h₄]

theorem nanos_midnight2000 : midnight2000.nanos = 0 := by decide

theorem time_lawful : time.Lawful where
  nanos_microseconds _ := rfl
  whole_microseconds {δ us} h := by
    have h : δ = us * 1000 := h
    show δ.tdiv 1000 = us
    rw [h, Int.mul_tdiv_cancel _ (by decide)]
  from_julian_day := Date.ofJulianDay_eq_ok
  min_le d := by
    have hmin := d.min_le
    have hlow : daysFromCivil (-9999) 1 1 = -4382544 := by decide
    have hfirst : daysFromCivil (-999999) 1 1 = -365972619 := by decide
    show _ ≤ d.julianDay - pgEpochJulianDay
    omega
  le_max d := by
    have hmax := d.le_max
    have hhigh : daysFromCivil 9999 12 31 = 2921939 := by decide
    have hlast : daysFromCivil 999999 12 31 = 364512014 := by decide
    show d.julianDay - pgEpochJulianDay ≤ _
    omega
  from_hms_micro := Time.ofParts_eq_ok
  exists_time hhour hminute hsecond hnano :=
    ⟨⟨_, _, _, _, hhour, hminute, hsecond, hnano⟩, rfl⟩
  as_hms_nano_lt t := ⟨t.hour_lt, t.minute_lt, t.second_lt, t.nanosecond_lt⟩
  add_primitive {δ t} := by
    show PrimitiveDateTime.ofNanos? (midnight2000.nanos + δ) = some t ↔
      t.nanos - midnight2000.nanos = δ
    rw [nanos_midnight2000, Int.zero_add, Int.sub_zero]
    exact PrimitiveDateTime.ofNanos?_eq_some
  add_offset {δ t} := by
    obtain ⟨datetime, offset, hoffset⟩ := t
    show (PrimitiveDateTime.ofNanos? (midnight2000.nanos + δ)).map
        (fun dt => (⟨dt, 0, zero_offset_lt⟩ : OffsetDateTime)) = some ⟨datetime, offset, hoffset⟩ ↔
      offset = 0 ∧ datetime.nanos - offset * 1000000000 -
        (midnight2000.nanos - 0 * 1000000000) = δ
    simp only [nanos_midnight2000, Int.zero_add, Option.map_eq_some_iff, OffsetDateTime.mk.injEq,
      PrimitiveDateTime.ofNanos?_eq_some]
    constructor
    · rintro ⟨dt, hdt, rfl, rfl⟩
      omega
    · rintro ⟨rfl, hdt⟩
      exact ⟨datetime, by omega, rfl, rfl⟩
  to_offset_utc {t u} h := by
    have h : (match PrimitiveDateTime.ofNanos? t.nanos with
      | some utc => .ok ⟨utc, 0, zero_offset_lt⟩
      | none => .halt : Parsed OffsetDateTime) = .ok u := h
    split at h
    · next utc hutc =>
      cases h
      refine ⟨rfl, ?_⟩
      show utc.nanos - 0 * 1000000000 - _ = t.nanos - _
      rw [PrimitiveDateTime.ofNanos?_eq_some.mp hutc, Int.zero_mul, Int.sub_zero]
    · cases h

/-- Years of four digits, and an offset of a day or so. -/
theorem nanos_inFourDigits {t : PrimitiveDateTime} {offset : Int} (h : offset.natAbs < 93600) :
    TimeCrate.InFourDigits (t.nanos - offset * 1000000000) := by
  have hfirst : daysFromCivil (-9999) 1 1 = -4382544 := by decide
  have hlast : daysFromCivil 9999 12 31 = 2921939 := by decide
  have hlow : daysFromCivil (-10000) 1 1 = -4382910 := by decide
  have hhigh : daysFromCivil 10001 1 1 = 2922306 := by decide
  have hmin := t.date.min_le
  have hmax := t.date.le_max
  have hhour := t.time.hour_lt
  have hminute := t.time.minute_lt
  have hsecond := t.time.second_lt
  have hnano := t.time.nanosecond_lt
  rw [TimeCrate.InFourDigits, hlow, hhigh, PrimitiveDateTime.nanos]
  omega

theorem time_fourDigitYears : time.FourDigitYears where
  primitive t := by
    have h := nanos_inFourDigits (t := t) zero_offset_lt
    rw [Int.zero_mul, Int.sub_zero] at h
    show TimeCrate.InFourDigits (t.nanos - midnight2000.nanos)
    rwa [nanos_midnight2000, Int.sub_zero]
  offset t := by
    show TimeCrate.InFourDigits (t.nanos - (midnight2000.nanos - 0 * 1000000000))
    rw [nanos_midnight2000, Int.zero_mul, Int.sub_zero, Int.sub_zero]
    exact nanos_inFourDigits t.offset_lt

/-! ### `rust_decimal` -/

/-- A mantissa of 96 bits with a sign, and a scale. -/
structure Decimal where
  mantissa : Int
  scale : Nat
  natAbs_lt : mantissa.natAbs < 2 ^ 96
  scale_le : scale ≤ 28
deriving DecidableEq

/-- The nearest quotient, and the even one of two. -/
def roundedDiv (n divisor : Nat) : Nat :=
  let q := n / divisor
  let r := n % divisor
  if divisor < 2 * r ∨ (divisor = 2 * r ∧ q % 2 = 1) then q + 1 else q

/-- A rounded quotient is no further away than half a divisor. -/
theorem roundedDiv_near (n : Nat) {divisor : Nat} (h : 0 < divisor) :
    2 * n ≤ 2 * (roundedDiv n divisor * divisor) + divisor ∧
      2 * (roundedDiv n divisor * divisor) ≤ 2 * n + divisor := by
  have hsplit := Nat.div_add_mod' n divisor
  have hmod := Nat.mod_lt n h
  unfold roundedDiv
  dsimp only
  split
  · next hup =>
    rw [Nat.add_mul, Nat.one_mul]
    omega
  · next hdown =>
    omega

theorem roundedDiv_le (n : Nat) {divisor : Nat} (h : 2 ≤ divisor) : roundedDiv n divisor ≤ n := by
  have hsplit := Nat.div_add_mod n divisor
  have hmul : 2 * (n / divisor) ≤ divisor * (n / divisor) := Nat.mul_le_mul_right _ h
  unfold roundedDiv
  dsimp only
  split
  · omega
  · exact Nat.div_le_self n divisor

theorem Decimal.rounded_lt (d : Decimal) {dp : Nat} (h : dp < d.scale) :
    (d.mantissa.sign * roundedDiv d.mantissa.natAbs (10 ^ (d.scale - dp))).natAbs < 2 ^ 96 := by
  have hpow : 10 ^ 1 ≤ 10 ^ (d.scale - dp) := Nat.pow_le_pow_right (by decide) (by omega)
  have hle := roundedDiv_le d.mantissa.natAbs (show 2 ≤ 10 ^ (d.scale - dp) by omega)
  have hlt := d.natAbs_lt
  have hsign : d.mantissa.sign.natAbs ≤ 1 := by
    rw [Int.natAbs_sign]
    split <;> omega
  have hmul := Nat.mul_le_mul hsign hle
  rw [Int.natAbs_mul, Int.natAbs_natCast]
  omega

/-- At most so many decimal places, the last one rounded half to even. -/
def Decimal.rounded (d : Decimal) (dp : Nat) : Decimal :=
  if h : dp < d.scale then
    { mantissa := d.mantissa.sign * roundedDiv d.mantissa.natAbs (10 ^ (d.scale - dp))
      scale := dp
      natAbs_lt := Decimal.rounded_lt d h
      scale_le := Nat.le_trans (Nat.le_of_lt h) d.scale_le }
  else d

abbrev decimal : RustDecimal where
  Decimal := Decimal
  zero := ⟨0, 0, by decide, by decide⟩
  ten := ⟨10, 0, by decide, by decide⟩
  mantissa := Decimal.mantissa
  scale := Decimal.scale
  fromI128WithScale n s :=
    if h : n.natAbs < 2 ^ 96 ∧ s ≤ 28 then .ok ⟨n, s, h.1, h.2⟩ else .halt
  checkedMul d e :=
    if h : (d.mantissa * e.mantissa).natAbs < 2 ^ 96 ∧ d.scale + e.scale ≤ 28 then
      some ⟨d.mantissa * e.mantissa, d.scale + e.scale, h.1, h.2⟩
    else none
  setScale d s :=
    if h : s ≤ 28 then .ok ⟨d.mantissa, s, d.natAbs_lt, h⟩ else .error "scale"
  roundDp := Decimal.rounded
  display d := signedText (decide (d.mantissa < 0)) d.mantissa.natAbs d.scale

/-- In units of the last digit, rounding changes half a unit at most. -/
theorem sign_roundedDiv_near (m : Int) {divisor : Nat} (h : 0 < divisor) :
    |m.sign * roundedDiv m.natAbs divisor * divisor - m| * 2 ≤ divisor := by
  obtain ⟨hlow, hhigh⟩ := roundedDiv_near m.natAbs h
  rw [Int.abs_eq_natAbs, mul_assoc, ← Nat.cast_mul]
  generalize roundedDiv m.natAbs divisor * divisor = near at *
  rcases lt_trichotomy m 0 with hneg | rfl | hpos
  · rw [Int.sign_eq_neg_one_of_neg hneg]
    omega
  · rw [Int.sign_zero]
    omega
  · rw [Int.sign_eq_one_of_pos hpos]
    omega

theorem value_rounded (d : Decimal) (dp : Nat) : ∃ n : Int,
    decimal.value (d.rounded dp) = n / (10 : Rat) ^ dp ∧
      |decimal.value (d.rounded dp) - decimal.value d| ≤ 1 / (2 * (10 : Rat) ^ dp) := by
  have hpow (k : Nat) : (0 : Rat) < 10 ^ k := by positivity
  have hvalue (e : Decimal) : decimal.value e = e.mantissa / (10 : Rat) ^ e.scale := rfl
  by_cases hdp : dp < d.scale
  · obtain ⟨k, hk⟩ := Nat.exists_eq_add_of_le (Nat.le_of_lt hdp)
    have hround : (d.rounded dp).mantissa = d.mantissa.sign * roundedDiv d.mantissa.natAbs (10 ^ k)
        ∧ (d.rounded dp).scale = dp := by
      rw [Decimal.rounded, dif_pos hdp]
      have hsub : d.scale - dp = k := by omega
      simp only [hsub, and_self]
    have hnear := sign_roundedDiv_near d.mantissa (Nat.pow_pos (n := k) (by decide : 0 < 10))
    rw [← hround.1] at hnear
    have hnear : |((d.rounded dp).mantissa * 10 ^ k - d.mantissa : Rat)| * 2 ≤ 10 ^ k := by
      exact_mod_cast hnear
    refine ⟨(d.rounded dp).mantissa, by rw [hvalue, hround.2], ?_⟩
    have hdiff : decimal.value (d.rounded dp) - decimal.value d =
        ((d.rounded dp).mantissa * 10 ^ k - d.mantissa) / (10 ^ dp * 10 ^ k) := by
      have hdp' := (hpow dp).ne'
      have hk' := (hpow k).ne'
      rw [hvalue, hvalue, hround.2, hk, pow_add]
      field_simp
    rw [hdiff, abs_div, abs_of_pos (mul_pos (hpow dp) (hpow k)), div_le_div_iff₀
      (mul_pos (hpow dp) (hpow k)) (mul_pos two_pos (hpow dp))]
    nlinarith [hpow dp]
  · obtain ⟨k, hk⟩ := Nat.exists_eq_add_of_le (Nat.le_of_not_lt hdp)
    have hround : d.rounded dp = d := by rw [Decimal.rounded, dif_neg hdp]
    rw [hround, sub_self, abs_zero]
    refine ⟨d.mantissa * 10 ^ k, ?_, by have := hpow dp; positivity⟩
    have hk' := (hpow k).ne'
    have hs := (hpow d.scale).ne'
    rw [hvalue, hk, pow_add]
    push_cast
    field_simp

theorem decimal_lawful : decimal.Lawful where
  mantissa_lt d := d.natAbs_lt
  scale_le d := d.scale_le
  mantissa_zero := rfl
  mantissa_ten := rfl
  scale_ten := rfl
  from_i128 hn hs := ⟨_, dif_pos ⟨hn, hs⟩, rfl, rfl⟩
  from_i128_panics h := dif_neg (by omega)
  checked_mul {d e} hd he hlt := by
    have hd : d.scale = 0 := hd
    have he : e.scale = 0 := he
    exact ⟨_, dif_pos ⟨hlt, by omega⟩, rfl, by
      show d.scale + e.scale = 0
      omega⟩
  checked_mul_overflows _ _ hle := dif_neg fun h => Nat.not_lt.mpr hle h.1
  set_scale hs := ⟨_, dif_pos hs, rfl, rfl⟩
  set_scale_error hs := ⟨_, dif_neg (by omega)⟩
  round_dp := value_rounded
  display _ := ⟨_, rfl, fun h => Int.le_of_lt (of_decide_eq_true h), decide_eq_true⟩

/-! ### All three -/

/-- The crates with which the conversions are run. -/
abbrev crates : Crates := ⟨chrono, time, decimal⟩

theorem crates_lawful : crates.Lawful := ⟨chrono_lawful, time_lawful, decimal_lawful⟩

end Reference

end ZeroPostgres
