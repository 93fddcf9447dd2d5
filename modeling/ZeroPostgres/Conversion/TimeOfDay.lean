import ZeroPostgres.Conversion.Encode
import ZeroPostgres.Conversion.ReferenceCrates

/-!
# Decoding a TIME

`from_binary` of `chrono::NaiveTime`, `src/src/conversion/chrono.rs:90–105`, and of `time::Time`,
`src/src/conversion/time.rs:65–82`. The microseconds are divided into parts that are cast to
narrower types before the crate checks them: a count of seconds keeps its remainder modulo `2 ^ 32`,
a count of hours the one modulo 256. `naiveTimeFromBinary_ok_iff` and `timeFromBinary_ok_iff` say
which counts decode, and `time_exact_iff` for which of them that is right.
-/

namespace ZeroPostgres

open Checked

/-- `NaiveTime::from_binary`. -/
def naiveTimeFromBinary (c : Chrono) (target : Oid) (bs : Bytes) : Parsed c.NaiveTime :=
  if target ≠ oid.time then
    .err (.decode ("cannot decode oid " ++ toString target ++ " as NaiveTime"))
  else if bs.length ≠ 8 then .err (.decode ("invalid Time length: " ++ toString bs.length))
  else
    let usecs := BigEndian.int bs
    let secs := asUnsigned 32 (usecs.tdiv 1000000)
    let nano := asUnsigned 32 (usecs.tmod 1000000 * 1000)
    match c.fromNumSecondsFromMidnightOpt secs nano with
    | some t => .ok t
    | none => .err (.decode "invalid time")

/-- `time::Time::from_binary`. -/
def timeFromBinary (c : TimeCrate) (target : Oid) (bs : Bytes) : Parsed c.Time :=
  if target ≠ oid.time then
    .err (.decode ("cannot decode oid " ++ toString target ++ " as Time"))
  else if bs.length ≠ 8 then .err (.decode ("invalid Time length: " ++ toString bs.length))
  else
    let usecs := BigEndian.int bs
    let hours := asUnsigned 8 (usecs.tdiv 3600000000)
    let remaining := usecs.tmod 3600000000
    let minutes := asUnsigned 8 (remaining.tdiv 60000000)
    let remaining := remaining.tmod 60000000
    let seconds := asUnsigned 8 (remaining.tdiv 1000000)
    let micros := asUnsigned 32 (remaining.tmod 1000000)
    match c.fromHmsMicro hours minutes seconds micros with
    | .ok t => .ok t
    | .error e => .err (.decode ("invalid time: " ++ e))

/-! ### Which counts decode -/

/-- The microseconds of a day. -/
def InDay (usecs : Int) : Prop := 0 ≤ usecs ∧ usecs < 86400000000

instance (usecs : Int) : Decidable (InDay usecs) := inferInstanceAs (Decidable (_ ∧ _))

/-- A second of the day and the nanoseconds in it are so many microseconds after midnight. -/
def AfterMidnight (usecs : Int) (secs nano : Nat) : Prop :=
  secs = usecs / 1000000 ∧ nano = usecs % 1000000 * 1000

/-- Decoding is exact: a count gives a time if it is one of the day, and then its own. -/
def ExactTime {α : Type} (secs nano : α → Nat) (usecs : Int) (decoded : Parsed α) : Prop :=
  ((∃ t, decoded = .ok t) ↔ InDay usecs) ∧
    ∀ t, decoded = .ok t → AfterMidnight usecs (secs t) (nano t)

/-- A count outside the day of which the cast to the narrower type makes one of the day: the
quotient by `unit` has the remainder of a smaller one, and nothing else of a negative count is
left. -/
def Wraps (unit : Int) (bits : Nat) (perDay usecs : Int) : Prop :=
  ¬ InDay usecs ∧ (0 ≤ usecs ∨ unit ∣ usecs) ∧ usecs / unit % 2 ^ bits < perDay

instance (unit : Int) (bits : Nat) (perDay usecs : Int) :
    Decidable (Wraps unit bits perDay usecs) :=
  inferInstanceAs (Decidable (_ ∧ _ ∧ _))

variable {chrono : Chrono} {time : TimeCrate} {bs : Bytes}

theorem Chrono.Lawful.fromNumSeconds_eq_some (hc : chrono.Lawful) {secs nano : Nat}
    (hnano : nano < 1000000000) {t : chrono.NaiveTime} :
    chrono.fromNumSecondsFromMidnightOpt secs nano = some t ↔ secs < 86400 ∧
      chrono.numSecondsFromMidnight t = secs ∧ chrono.nanosecond t = nano := by
  have hsome := @hc.from_num_seconds_isSome secs nano
  constructor
  · intro h
    rw [h] at hsome
    exact ⟨(hsome.mp rfl).1, hc.from_num_seconds h⟩
  · rintro ⟨hsecs, htsecs, htnano⟩
    obtain ⟨u, hu⟩ := Option.isSome_iff_exists.mp (hsome.mpr ⟨hsecs, by omega, by omega⟩)
    obtain ⟨husecs, hunano⟩ := hc.from_num_seconds hu
    rw [hu, hc.time_ext (husecs.trans htsecs.symm) (hunano.trans htnano.symm)]

/-- The casts keep a count of the day, and the second of a count past it modulo `2 ^ 32`; the
nanoseconds of a negative count are out of range unless there are none. -/
theorem naiveTimeFromBinary_ok_iff (hc : chrono.Lawful) (hlen : bs.length = 8)
    {t : chrono.NaiveTime} : naiveTimeFromBinary chrono oid.time bs = .ok t ↔
      (0 ≤ BigEndian.int bs ∨ 1000000 ∣ BigEndian.int bs) ∧
        BigEndian.int bs / 1000000 % 2 ^ 32 < 86400 ∧
        (chrono.numSecondsFromMidnight t : Int) = BigEndian.int bs / 1000000 % 2 ^ 32 ∧
        (chrono.nanosecond t : Int) = BigEndian.int bs % 1000000 * 1000 := by
  rw [naiveTimeFromBinary, if_neg (not_not_intro rfl), if_neg (not_not_intro hlen)]
  obtain ⟨hsplit, hrest, hpos, hneg⟩ := split_trunc (BigEndian.int bs) (d := 1000000) (by decide)
  have hok : ∀ o : Option chrono.NaiveTime,
      (match o with
        | some t => .ok t
        | none => .err (.decode "invalid time") : Parsed chrono.NaiveTime) = .ok t ↔
          o = some t := by
    intro o
    cases o <;> simp
  dsimp only
  rw [hok]
  generalize BigEndian.int bs = usecs at *
  generalize usecs.tdiv 1000000 = quot at *
  generalize usecs.tmod 1000000 = rest at *
  by_cases hsign : 0 ≤ rest
  · have hnano : (asUnsigned 32 (rest * 1000) : Int) = rest * 1000 :=
      asUnsigned_of_nonneg (by omega) (by omega)
    rw [hc.fromNumSeconds_eq_some (by omega),
      show usecs / 1000000 = quot by omega, show usecs % 1000000 = rest by omega]
    have hsecs : (asUnsigned 32 quot : Int) = quot % 2 ^ 32 :=
      Int.toNat_of_nonneg (Int.emod_nonneg _ (by decide))
    omega
  · -- the cast takes a negative rest past two billion
    have hnano : (asUnsigned 32 (rest * 1000) : Int) = rest * 1000 + 2 ^ 32 :=
      asUnsigned_of_neg (by omega) (by omega)
    have hnone : chrono.fromNumSecondsFromMidnightOpt (asUnsigned 32 quot)
        (asUnsigned 32 (rest * 1000)) = none := by
      rw [← Option.not_isSome_iff_eq_none, hc.from_num_seconds_isSome]
      omega
    rw [hnone]
    simp only [reduceCtorEq, false_iff]
    omega

/-- A part that is not positive is cast into its range only where it is zero. -/
theorem eq_zero_of_asUnsigned_lt {bits bound : Nat} {part : Int} (hle : part ≤ 0)
    (hlow : bound - 2 ^ bits ≤ part) (hlt : asUnsigned bits part < bound) : part = 0 := by
  rcases Int.le_iff_lt_or_eq.mp hle with hneg | hzero
  · have hcast : (asUnsigned bits part : Int) = part + 2 ^ bits :=
      asUnsigned_of_neg hneg (by omega)
    omega
  · exact hzero

/-- The hours past a count of the day keep their remainder modulo 256, and a negative count decodes
only as a whole number of hours. -/
theorem timeFromBinary_ok_iff (hc : time.Lawful) (hlen : bs.length = 8) {t : time.Time} :
    timeFromBinary time oid.time bs = .ok t ↔
      (0 ≤ BigEndian.int bs ∨ 3600000000 ∣ BigEndian.int bs) ∧
        BigEndian.int bs / 3600000000 % 2 ^ 8 < 24 ∧
        ((time.asHmsNano t).1 : Int) = BigEndian.int bs / 3600000000 % 2 ^ 8 ∧
        ((time.asHmsNano t).2.1 : Int) = BigEndian.int bs % 3600000000 / 60000000 ∧
        ((time.asHmsNano t).2.2.1 : Int) = BigEndian.int bs % 60000000 / 1000000 ∧
        ((time.asHmsNano t).2.2.2 : Int) = BigEndian.int bs % 1000000 * 1000 := by
  rw [timeFromBinary, if_neg (not_not_intro rfl), if_neg (not_not_intro hlen)]
  have hok : ∀ e : Except String time.Time,
      (match e with
        | .ok t => .ok t
        | .error e => .err (.decode ("invalid time: " ++ e)) : Parsed time.Time) = .ok t ↔
          e = .ok t := by
    intro e
    cases e <;> simp
  dsimp only
  rw [hok, hc.from_hms_micro]
  obtain ⟨thour, tminute, tsecond, tnano⟩ := time.asHmsNano t
  rw [Prod.mk.injEq, Prod.mk.injEq, Prod.mk.injEq]
  dsimp only
  obtain ⟨hhour, hlt, hpos, hneg⟩ :=
    split_trunc (BigEndian.int bs) (d := 3600000000) (by decide)
  generalize BigEndian.int bs = usecs at *
  generalize usecs.tdiv 3600000000 = hours at *
  generalize usecs.tmod 3600000000 = remaining at *
  obtain ⟨hminute, hlt', hpos', hneg'⟩ := split_trunc remaining (d := 60000000) (by decide)
  generalize remaining.tdiv 60000000 = minutes at *
  generalize remaining.tmod 60000000 = remaining' at *
  obtain ⟨hsecond, hlt'', hpos'', hneg''⟩ := split_trunc remaining' (d := 1000000) (by decide)
  generalize remaining'.tdiv 1000000 = seconds at *
  generalize remaining'.tmod 1000000 = micros at *
  by_cases hsign : 0 ≤ usecs
  · obtain ⟨hhours, hremaining⟩ := hpos hsign
    obtain ⟨hminutes, hremaining'⟩ := hpos' hremaining
    obtain ⟨hseconds, hmicros⟩ := hpos'' hremaining'
    clear hpos hneg hpos' hneg' hpos'' hneg''
    have hminuteCast : (asUnsigned 8 minutes : Int) = minutes :=
      asUnsigned_of_nonneg hminutes (by omega)
    have hsecondCast : (asUnsigned 8 seconds : Int) = seconds :=
      asUnsigned_of_nonneg hseconds (by omega)
    have hmicroCast : (asUnsigned 32 micros : Int) = micros :=
      asUnsigned_of_nonneg hmicros (by omega)
    rw [show usecs / 3600000000 = hours by omega, show usecs % 3600000000 / 60000000 = minutes by
      omega, show usecs % 60000000 / 1000000 = seconds by omega,
      show usecs % 1000000 = micros by omega]
    have hhourCast : (asUnsigned 8 hours : Int) = hours % 2 ^ 8 :=
      Int.toNat_of_nonneg (Int.emod_nonneg _ (by decide))
    have hbound : minutes < 60 ∧ seconds < 60 := by omega
    clear hhour hminute hsecond
    constructor
    · rintro ⟨hbounds, ht⟩
      omega
    · rintro ⟨-, hhours', ht⟩
      omega
  obtain ⟨hhours, hremaining⟩ := hneg (by omega)
  clear hneg hpos
  rcases Int.le_iff_lt_or_eq.mp hremaining with hrest | rfl
  · -- one of the parts is negative, and out of range as an unsigned number
    have hminutes : minutes ≤ 0 ∧ remaining' ≤ 0 := hneg' hrest
    clear hneg' hpos'
    have hseconds : seconds ≤ 0 ∧ micros ≤ 0 := by omega
    clear hneg'' hpos''
    constructor
    · rintro ⟨⟨-, hminute', hsecond', hmicro'⟩, -⟩
      have hminuteZero := eq_zero_of_asUnsigned_lt hminutes.1 (by omega) hminute'
      have hsecondZero := eq_zero_of_asUnsigned_lt hseconds.1 (by omega) hsecond'
      have hmicroZero := eq_zero_of_asUnsigned_lt hseconds.2 (by omega) hmicro'
      omega
    · rintro ⟨hwhole | ⟨k, hwhole⟩, -⟩ <;> omega
  · clear hneg' hneg''
    obtain ⟨rfl, rfl⟩ : minutes = 0 ∧ remaining' = 0 := by omega
    obtain ⟨rfl, rfl⟩ : seconds = 0 ∧ micros = 0 := by omega
    rw [show usecs / 3600000000 = hours by omega, show usecs % 3600000000 / 60000000 = 0 by
      omega, show usecs % 60000000 / 1000000 = 0 by omega,
      show usecs % 1000000 = 0 by omega, asUnsigned, asUnsigned, asUnsigned]
    omega

/-! ### Exactness -/

/-- A decoder that gives times of its own to the counts of the day is exact unless it takes others
for such counts. -/
theorem exactTime_iff {α : Type} {secs nano : α → Nat} {decoded : Parsed α} {unit perDay : Int}
    {bits : Nat} {usecs : Int}
    (hok : (∃ t, decoded = .ok t) ↔
      (0 ≤ usecs ∨ unit ∣ usecs) ∧ usecs / unit % 2 ^ bits < perDay)
    (hday : InDay usecs → usecs / unit % 2 ^ bits < perDay ∧
      ∀ t, decoded = .ok t → AfterMidnight usecs (secs t) (nano t)) :
    ExactTime secs nano usecs decoded ↔ ¬ Wraps unit bits perDay usecs := by
  constructor
  · rintro ⟨hin, -⟩ ⟨hout, hwrapped⟩
    exact hout (hin.mp (hok.mpr hwrapped))
  · intro hwraps
    have hin : (∃ t, decoded = .ok t) → InDay usecs := fun h =>
      Decidable.byContradiction fun hout => hwraps ⟨hout, hok.mp h⟩
    exact ⟨⟨hin, fun h => hok.mpr ⟨.inl h.1, (hday h).1⟩⟩, fun t ht => (hday (hin ⟨t, ht⟩)).2 t ht⟩

/-- Both decoders are exact on every payload but those whose count a cast takes into the day. -/
theorem time_exact_iff (hchrono : chrono.Lawful) (htime : time.Lawful) (hlen : bs.length = 8) :
    (ExactTime chrono.numSecondsFromMidnight chrono.nanosecond (BigEndian.int bs)
        (naiveTimeFromBinary chrono oid.time bs) ↔
      ¬ Wraps 1000000 32 86400 (BigEndian.int bs)) ∧
    (ExactTime time.secs time.nano (BigEndian.int bs) (timeFromBinary time oid.time bs) ↔
      ¬ Wraps 3600000000 8 24 (BigEndian.int bs)) := by
  constructor
  · refine exactTime_iff ⟨?_, ?_⟩ fun hday => ⟨?_, ?_⟩
    · rintro ⟨t, ht⟩
      obtain ⟨hsign, hsecs, -⟩ := (naiveTimeFromBinary_ok_iff hchrono hlen).mp ht
      exact ⟨hsign, hsecs⟩
    · rintro ⟨hsign, hsecs⟩
      obtain ⟨t, ht⟩ := Option.isSome_iff_exists.mp (hchrono.from_num_seconds_isSome.mpr
        (show (BigEndian.int bs / 1000000 % 2 ^ 32).toNat < 86400 ∧
          (BigEndian.int bs % 1000000 * 1000).toNat < 2000000000 ∧ _ by omega))
      have hparts := hchrono.from_num_seconds ht
      refine ⟨t, ?_⟩
      rw [naiveTimeFromBinary_ok_iff hchrono hlen]
      omega
    · obtain ⟨hlow, hhigh⟩ := hday
      omega
    · intro t ht
      obtain ⟨hlow, hhigh⟩ := hday
      obtain ⟨-, -, hsecs, hfrac⟩ := (naiveTimeFromBinary_ok_iff hchrono hlen).mp ht
      rw [AfterMidnight]
      omega
  · refine exactTime_iff ⟨?_, ?_⟩ fun hday => ⟨?_, ?_⟩
    · rintro ⟨t, ht⟩
      obtain ⟨hsign, hhours, -⟩ := (timeFromBinary_ok_iff htime hlen).mp ht
      exact ⟨hsign, hhours⟩
    · rintro ⟨hsign, hhours⟩
      obtain ⟨t, ht⟩ := htime.exists_time
        (show (BigEndian.int bs / 3600000000 % 2 ^ 8).toNat < 24 by omega)
        (show (BigEndian.int bs % 3600000000 / 60000000).toNat < 60 by omega)
        (show (BigEndian.int bs % 60000000 / 1000000).toNat < 60 by omega)
        (show (BigEndian.int bs % 1000000 * 1000).toNat < 1000000000 by omega)
      refine ⟨t, ?_⟩
      rw [timeFromBinary_ok_iff htime hlen, ht]
      dsimp only
      omega
    · obtain ⟨hlow, hhigh⟩ := hday
      omega
    · intro t ht
      obtain ⟨hlow, hhigh⟩ := hday
      obtain ⟨-, -, hhour, hminute, hsecond, hnano⟩ := (timeFromBinary_ok_iff htime hlen).mp ht
      rw [AfterMidnight, TimeCrate.secs, TimeCrate.nano]
      omega

/-- Half past ten, in both crates. -/
theorem time_exact_half_past_ten :
    ExactTime Reference.chrono.numSecondsFromMidnight Reference.chrono.nanosecond 37800000000
      (naiveTimeFromBinary Reference.chrono oid.time (BigEndian.intBytes 8 37800000000)) ∧
    ExactTime Reference.time.secs Reference.time.nano 37800000000
      (timeFromBinary Reference.time oid.time (BigEndian.intBytes 8 37800000000)) := by
  have h := time_exact_iff Reference.chrono_lawful Reference.time_lawful
    (BigEndian.length_intBytes 8 37800000000)
  rw [BigEndian.int_intBytes (by decide)] at h
  exact ⟨h.1.mpr (by decide), h.2.mpr (by decide)⟩

/-- `2 ^ 32` seconds and 256 hours, backward as well as forward, are midnight. -/
theorem time_wraps :
    (naiveTimeFromBinary Reference.chrono oid.time [0, 15, 66, 64, 0, 0, 0, 0] =
        .ok ⟨0, 0, by decide, by decide⟩ ∧
      ¬ ExactTime Reference.chrono.numSecondsFromMidnight Reference.chrono.nanosecond
        4294967296000000
        (naiveTimeFromBinary Reference.chrono oid.time [0, 15, 66, 64, 0, 0, 0, 0])) ∧
    (timeFromBinary Reference.time oid.time [255, 255, 255, 41, 108, 92, 0, 0] =
        .ok ⟨0, 0, 0, 0, by decide, by decide, by decide, by decide⟩ ∧
      ¬ ExactTime Reference.time.secs Reference.time.nano (-921600000000)
        (timeFromBinary Reference.time oid.time [255, 255, 255, 41, 108, 92, 0, 0])) := by
  have hseconds : naiveTimeFromBinary Reference.chrono oid.time [0, 15, 66, 64, 0, 0, 0, 0] =
      .ok ⟨0, 0, by decide, by decide⟩ := by decide +kernel
  have hhours : timeFromBinary Reference.time oid.time [255, 255, 255, 41, 108, 92, 0, 0] =
      .ok ⟨0, 0, 0, 0, by decide, by decide, by decide, by decide⟩ := by decide +kernel
  exact ⟨⟨hseconds, fun h => absurd (h.1.mp ⟨_, hseconds⟩) (by decide)⟩,
    ⟨hhours, fun h => absurd (h.1.mp ⟨_, hhours⟩) (by decide)⟩⟩

end ZeroPostgres
