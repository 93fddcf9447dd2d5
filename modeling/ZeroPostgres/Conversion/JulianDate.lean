import ZeroPostgres.Conversion.Encode
import ZeroPostgres.Conversion.ReferenceCrates

/-!
# Decoding a DATE as a `time::Date`

`src/src/conversion/time.rs:19–30`. The day offset is shifted to a Julian day before the crate
checks its range, and the sum is one of 32 bits: it overflows for the offsets near the greatest,
which the server sends for the date infinity. `dateFromBinary_eq` is the decoder on every payload
of four bytes, `date_decodes_iff` says where it ends without a panic.
-/

namespace ZeroPostgres

open Checked

/-- `time::Date::from_binary`. The addition panics where it overflows; a build without the checks
goes on with the wrapped sum. -/
def dateFromBinary (c : TimeCrate) (target : Oid) (bs : Bytes) : Parsed c.Date :=
  if target ≠ oid.date then
    .err (.decode ("cannot decode oid " ++ toString target ++ " as Date"))
  else if bs.length ≠ 4 then .err (.decode ("invalid Date length: " ++ toString bs.length))
  else do
    let pgDays := BigEndian.int bs
    match c.fromJulianDay (← signed 4 (pgDays + pgEpochJulianDay)) with
    | .ok d => .ok d
    | .error e => .err (.decode ("invalid date: " ++ e))

/-- The offset is not too great to be shifted. -/
def Shifts (pgDays : Int) : Prop := pgDays + pgEpochJulianDay < 2 ^ 31

instance (pgDays : Int) : Decidable (Shifts pgDays) := inferInstanceAs (Decidable (_ < _))

variable {c : TimeCrate} {bs : Bytes}

/-- A decoder of days ends without a panic, in the date so many days from 2000-01-01 or in an
error. -/
def DecodesDate (c : TimeCrate) (pgDays : Int) (decoded : Parsed c.Date) : Prop :=
  (∃ d, decoded = .ok d ∧ c.day d = pgDays) ∨ ∃ text, decoded = .err (.decode text)

/-- The decoder on four bytes: a panic past the greatest offset that can be shifted, and before it
the date of the offset, where the crate has one. -/
theorem dateFromBinary_eq (c : TimeCrate) (hlen : bs.length = 4) :
    dateFromBinary c oid.date bs =
      if Shifts (BigEndian.int bs) then
        match c.fromJulianDay (BigEndian.int bs + pgEpochJulianDay) with
        | .ok d => .ok d
        | .error e => .err (.decode ("invalid date: " ++ e))
      else .halt := by
  have hfits := hlen ▸ BigEndian.fits_int bs
  obtain ⟨hlow, -⟩ := hfits
  rw [dateFromBinary, if_neg (not_not_intro rfl), if_neg (not_not_intro hlen)]
  by_cases hshift : Shifts (BigEndian.int bs)
  · have hsum : BigEndian.Fits 4 (BigEndian.int bs + pgEpochJulianDay) := by
      unfold Shifts pgEpochJulianDay at *
      constructor <;> omega
    dsimp only
    rw [if_pos hshift, signed_ok hsum, Outcome.bind_ok]
  · have hsum : ¬ BigEndian.Fits 4 (BigEndian.int bs + pgEpochJulianDay) := fun h => by
      have hhigh := h.2
      unfold Shifts at hshift
      omega
    dsimp only
    rw [if_neg hshift, signed, if_neg hsum, Outcome.bind_halt]

namespace TimeCrate

/-- The days of the crate, in numbers. -/
theorem Lawful.day_bounds (hc : c.Lawful) (d : c.Date) :
    -365972619 ≤ c.day d ∧ c.day d ≤ 364512014 := by
  have hlow : daysFromCivil (-999999) 1 1 = -365972619 := by decide
  have hhigh : daysFromCivil 999999 12 31 = 364512014 := by decide
  have hmin := hc.min_le d
  have hmax := hc.le_max d
  omega

theorem toJulianDay_eq (d : c.Date) : c.toJulianDay d = c.day d + pgEpochJulianDay :=
  (Int.sub_add_cancel _ _).symm

theorem Lawful.fits_day (hc : c.Lawful) (d : c.Date) : BigEndian.Fits 4 (c.day d) := by
  have hday := hc.day_bounds d
  constructor <;> omega

end TimeCrate

open TimeCrate

/-- Where the checks of overflow are off, the wrapped sum is far before the first date of the
crate. -/
theorem fromJulianDay_wrapped (hc : c.Lawful) {pgDays : Int} (hfits : BigEndian.Fits 4 pgDays) :
    ∃ e, c.fromJulianDay (pgDays + pgEpochJulianDay - 2 ^ 32) = .error e := by
  obtain ⟨-, hhigh⟩ := hfits
  cases hday : c.fromJulianDay (pgDays + pgEpochJulianDay - 2 ^ 32) with
  | error e => exact ⟨e, rfl⟩
  | ok d =>
    have hbounds := hc.day_bounds d
    rw [TimeCrate.day, hc.from_julian_day.mp hday] at hbounds
    omega

/-- A date is encoded as its day, without an overflow. -/
theorem encodeDate_eq (hc : c.Lawful) (d : c.Date) :
    encodeDate c d oid.date = .ok (valueBytes (some (BigEndian.intBytes 4 (c.day d)))) := by
  have hsub : (signed 4 (c.toJulianDay d - pgEpochJulianDay) : Parsed Int) = .ok (c.day d) :=
    signed_ok (hc.fits_day d)
  rw [encodeDate, if_pos rfl, hsub, Outcome.bind_ok]

theorem dateFromBinary_day (hc : c.Lawful) (d : c.Date) :
    dateFromBinary c oid.date (BigEndian.intBytes 4 (c.day d)) = .ok d := by
  have hday := hc.day_bounds d
  rw [dateFromBinary_eq c (BigEndian.length_intBytes 4 _), BigEndian.int_intBytes (hc.fits_day d),
    if_pos (by unfold Shifts pgEpochJulianDay; omega),
    hc.from_julian_day.mpr (toJulianDay_eq d)]

/-- A payload decodes without a panic, and to its own date only, if and only if the offset can be
shifted; and decoding always gives an encoded date back. -/
theorem date_decodes_iff (hc : c.Lawful) :
    (∀ bs : Bytes, bs.length = 4 →
      (DecodesDate c (BigEndian.int bs) (dateFromBinary c oid.date bs) ↔
        Shifts (BigEndian.int bs))) ∧
    (∀ d : c.Date, ∃ bs, encodeDate c d oid.date = .ok (valueBytes (some bs)) ∧
      dateFromBinary c oid.date bs = .ok d) := by
  constructor
  · intro bs hlen
    rw [dateFromBinary_eq c hlen]
    constructor
    · intro h
      by_contra hshift
      rw [if_neg hshift] at h
      rcases h with ⟨d, hd, -⟩ | ⟨text, htext⟩
      · cases hd
      · cases htext
    · intro hshift
      rw [if_pos hshift]
      cases hday : c.fromJulianDay (BigEndian.int bs + pgEpochJulianDay) with
      | ok d =>
        refine .inl ⟨d, rfl, ?_⟩
        rw [TimeCrate.day, hc.from_julian_day.mp hday, Int.add_sub_cancel]
      | error e => exact .inr ⟨_, rfl⟩
  · intro d
    exact ⟨BigEndian.intBytes 4 (c.day d), encodeDate_eq hc d, dateFromBinary_day hc d⟩

/-- 2024-01-15. -/
theorem date_decodes_january :
    DecodesDate Reference.time (BigEndian.int [0, 0, 34, 76])
      (dateFromBinary Reference.time oid.date [0, 0, 34, 76]) :=
  ((date_decodes_iff Reference.time_lawful).1 _ rfl).mpr (by decide +kernel)

/-- The date infinity is the greatest offset of all. -/
theorem date_infinity_overflows :
    dateFromBinary Reference.time oid.date [127, 255, 255, 255] = .halt ∧
    ¬ DecodesDate Reference.time (BigEndian.int [127, 255, 255, 255])
      (dateFromBinary Reference.time oid.date [127, 255, 255, 255]) := by
  have hhalt : dateFromBinary Reference.time oid.date [127, 255, 255, 255] = .halt := by
    decide +kernel
  refine ⟨hhalt, ?_⟩
  rw [hhalt]
  rintro (⟨d, hd, -⟩ | ⟨text, htext⟩)
  · cases hd
  · cases htext

end ZeroPostgres
