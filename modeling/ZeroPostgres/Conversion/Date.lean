import ZeroPostgres.Conversion.Encode
import ZeroPostgres.Conversion.ReferenceCrates

/-!
# Decoding a DATE as a `chrono::NaiveDate`

`src/src/conversion/chrono.rs:38–53`. The day offset is signed and `chrono` adds and subtracts
unsigned numbers of days, so the decoder tries the sum with the positive part of the offset first
and the difference with its negative part where there is no sum. The sum with no days is always
there: `naiveDateFromBinary_eq` says which date comes out, and `naiveDate_round_trip_iff` where it
is the right one.
-/

namespace ZeroPostgres

/-- `NaiveDate::from_binary`. The negation of the least offset overflows, which panics. -/
def naiveDateFromBinary (c : Chrono) (target : Oid) (bs : Bytes) : Parsed c.NaiveDate :=
  if target ≠ oid.date then
    .err (.decode ("cannot decode oid " ++ toString target ++ " as NaiveDate"))
  else if bs.length ≠ 4 then .err (.decode ("invalid Date length: " ++ toString bs.length))
  else
    let pgDays := BigEndian.int bs
    match c.checkedAddDays c.pgEpoch (max pgDays 0).toNat with
    | some d => .ok d
    | none =>
      if pgDays = -2 ^ 31 then .halt
      else match c.checkedSubDays c.pgEpoch (max (-pgDays) 0).toNat with
        | some d => .ok d
        | none => .err (.decode "date overflow")

namespace Chrono

variable {c : Chrono}

/-- The days of the crate, in numbers. -/
theorem Lawful.day_bounds (hc : c.Lawful) (d : c.NaiveDate) :
    -96476249 ≤ c.day d ∧ c.day d ≤ 95015279 := by
  have hlow : daysFromCivil (-262143) 1 1 = -96476249 := by decide
  have hhigh : daysFromCivil 262142 12 31 = 95015279 := by decide
  have hmin := hc.min_le d
  have hmax := hc.le_max d
  rw [hc.day_min, hlow] at hmin
  rw [hc.day_max, hhigh] at hmax
  exact ⟨hmin, hmax⟩

theorem Lawful.fits_day (hc : c.Lawful) (d : c.NaiveDate) : BigEndian.Fits 4 (c.day d) := by
  have hday := hc.day_bounds d
  constructor <;> omega

/-- The last day comes after 2000-01-01. -/
theorem Lawful.maxDate_nonneg (hc : c.Lawful) : 0 ≤ c.day c.maxDate := by
  rw [hc.day_max]
  decide

/-- From 2000-01-01 on, every day up to the last one has a date. -/
theorem Lawful.exists_later (hc : c.Lawful) {n : Int} (hlow : 0 ≤ n) (hhigh : n ≤ c.day c.maxDate) :
    ∃ d, c.day d = n := by
  have hstart : daysFromCivil (-262143) 1 1 ≤ 0 := by decide
  refine hc.exists_day ?_ hhigh
  rw [hc.day_min]
  exact Int.le_trans hstart hlow

/-- Days added to 2000-01-01. -/
theorem Lawful.add_epoch (hc : c.Lawful) {n : Nat} {d : c.NaiveDate} :
    c.checkedAddDays c.pgEpoch n = some d ↔ c.day d = n := by
  rw [hc.checked_add_days, hc.day_epoch, Int.zero_add]

end Chrono

open Chrono

variable {c : Chrono} {bs : Bytes}

/-- The decoder never fails on four bytes: it gives the day of the offset where that lies between
2000-01-01 and the last day of `chrono`, and 2000-01-01 everywhere else. -/
theorem naiveDateFromBinary_eq (hc : c.Lawful) (hlen : bs.length = 4) :
    ∃ d, naiveDateFromBinary c oid.date bs = .ok d ∧
      c.day d = if 0 ≤ BigEndian.int bs ∧ BigEndian.int bs ≤ c.day c.maxDate then
        BigEndian.int bs else 0 := by
  have hmax := hc.maxDate_nonneg
  rw [naiveDateFromBinary, if_neg (by simp), if_neg (by simp [hlen])]
  by_cases hneg : BigEndian.int bs < 0
  · -- the offset is cut to zero, and there is a date of zero days more
    have hzero : (max (BigEndian.int bs) 0).toNat = 0 := by omega
    obtain ⟨d, hd⟩ := hc.exists_later (Int.le_refl 0) hmax
    have hsum : c.checkedAddDays c.pgEpoch 0 = some d := hc.add_epoch.mpr hd
    refine ⟨d, ?_, ?_⟩
    · simp only [hzero, hsum]
    · rw [hd, if_neg (by omega)]
  · have hcast : ((max (BigEndian.int bs) 0).toNat : Int) = BigEndian.int bs := by omega
    by_cases hhigh : BigEndian.int bs ≤ c.day c.maxDate
    · obtain ⟨d, hd⟩ := hc.exists_later (by omega : 0 ≤ BigEndian.int bs) hhigh
      have hsum := hc.add_epoch.mpr (hd.trans hcast.symm)
      refine ⟨d, ?_, ?_⟩
      · simp only [hsum]
      · rw [hd, if_pos ⟨by omega, hhigh⟩]
    · -- there is no sum, and the difference is with zero days
      have hnone : c.checkedAddDays c.pgEpoch (max (BigEndian.int bs) 0).toNat = none := by
        rw [Option.eq_none_iff_forall_ne_some]
        intro d hd
        have hday := hc.add_epoch.mp hd
        have hle := hc.le_max d
        omega
      have hzero : (max (-BigEndian.int bs) 0).toNat = 0 := by omega
      have hleast : BigEndian.int bs ≠ -2 ^ 31 := by omega
      obtain ⟨d, hd⟩ := hc.exists_later (Int.le_refl 0) hmax
      have hsub : c.checkedSubDays c.pgEpoch 0 = some d := by
        rw [hc.checked_sub_days, hc.day_epoch, hd]
        rfl
      refine ⟨d, ?_, ?_⟩
      · simp only [hnone, hleast, if_false, hzero, hsub]
      · rw [hd, if_neg (by omega)]

/-- The date that encodes to a payload is on the day the payload holds. -/
theorem encodeNaiveDate_eq_iff (hc : c.Lawful) {d : c.NaiveDate} :
    encodeNaiveDate c d oid.date = .ok (valueBytes (some bs)) ↔
      bs.length = 4 ∧ c.day d = BigEndian.int bs := by
  rw [encodeNaiveDate, if_pos rfl, Outcome.ok.injEq]
  exact valueBytes_intBytes_eq_iff (hc.fits_day d)

/-- Decoding gives an encoded date back exactly from 2000-01-01 on, and the payloads whose date
encodes to them again are those of the days from 2000-01-01 to the last one of `chrono`. -/
theorem naiveDate_round_trip_iff (hc : c.Lawful) (bs : Bytes) :
    (∀ d : c.NaiveDate, encodeNaiveDate c d oid.date = .ok (valueBytes (some bs)) →
      (naiveDateFromBinary c oid.date bs = .ok d ↔ c.day c.pgEpoch ≤ c.day d)) ∧
    (bs.length = 4 →
      ((∀ d, naiveDateFromBinary c oid.date bs = .ok d →
        encodeNaiveDate c d oid.date = .ok (valueBytes (some bs))) ↔
      c.day c.pgEpoch ≤ BigEndian.int bs ∧ BigEndian.int bs ≤ c.day c.maxDate)) := by
  rw [hc.day_epoch]
  constructor
  · intro d hencode
    obtain ⟨hlen, hday⟩ := (encodeNaiveDate_eq_iff hc).mp hencode
    obtain ⟨e, he, hdecoded⟩ := naiveDateFromBinary_eq hc hlen
    have hmax := hc.le_max d
    rw [he, Outcome.ok.injEq]
    constructor
    · rintro rfl
      split at hdecoded <;> omega
    · intro hepoch
      rw [if_pos (by omega)] at hdecoded
      exact hc.day_ext (hdecoded.trans hday.symm)
  · intro hlen
    obtain ⟨d, hd, hdecoded⟩ := naiveDateFromBinary_eq hc hlen
    constructor
    · intro h
      have hday := ((encodeNaiveDate_eq_iff hc).mp (h d hd)).2
      have hmax := hc.maxDate_nonneg
      split at hdecoded <;> omega
    · intro hrange e he
      rw [he, Outcome.ok.injEq] at hd
      subst hd
      rw [if_pos hrange] at hdecoded
      exact (encodeNaiveDate_eq_iff hc).mpr ⟨hlen, hdecoded⟩

/-- 2024-01-15 is encoded and decoded again. -/
theorem naiveDate_round_trip_january :
    naiveDateFromBinary Reference.chrono oid.date [0, 0, 34, 76] = .ok Reference.sampleDate :=
  ((naiveDate_round_trip_iff Reference.chrono_lawful [0, 0, 34, 76]).1 _ (by decide +kernel)).mpr
    (by decide +kernel)

/-- 1999-12-31 comes back as 2000-01-01, and so does the date infinity. -/
theorem naiveDate_not_round_trip :
    (∃ d : Reference.NaiveDate, Reference.chrono.day d = daysFromCivil 1999 12 31 ∧
      encodeNaiveDate Reference.chrono d oid.date = .ok (valueBytes (some [255, 255, 255, 255])) ∧
      naiveDateFromBinary Reference.chrono oid.date [255, 255, 255, 255] =
        .ok Reference.chrono.pgEpoch ∧ d ≠ Reference.chrono.pgEpoch) ∧
    naiveDateFromBinary Reference.chrono oid.date [127, 255, 255, 255] =
      .ok Reference.chrono.pgEpoch := by
  refine ⟨⟨⟨-1, by decide, by decide⟩, by decide, by decide +kernel, by decide +kernel, ?_⟩,
    by decide +kernel⟩
  intro h
  cases h

end ZeroPostgres
