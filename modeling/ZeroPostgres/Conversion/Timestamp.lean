import ZeroPostgres.Conversion.Date

/-!
# Decoding timestamps with `chrono`

`from_binary` of `NaiveDateTime` and of `DateTime<Utc>`, `src/src/conversion/chrono.rs:149–175` and
`:215–243`. The microseconds are split into seconds and a rest, which is added as the fraction of a
second after 2000-01-01 and taken off before it. `timestampFromMicros_ok_iff` says that together the
two steps reach the instant itself, and fail only where it lies outside the range of the crate.
-/

namespace ZeroPostgres

open Checked

/-- Lines 163–174 and 231–242, which are the same: the timestamp so many microseconds after the
epoch. -/
def timestampFromMicros (c : Chrono) (ops : c.TimestampsOf) (pgEpoch : ops.Timestamp)
    (usecs : Int) : Parsed ops.Timestamp := do
  let secs ← signed 8 (usecs.tdiv 1000000)
  let rest ← signed 8 (usecs.tmod 1000000)
  let size ← signed 8 (rest.natAbs : Int)
  let nanos ← signed 8 (size * 1000)
  let nano := asUnsigned 32 nanos
  let duration ← c.seconds secs
  let sum := (ops.checkedAddSigned pgEpoch duration).bind fun dt =>
    if 0 ≤ usecs then ops.withNanosecond dt nano else ops.checkedSubSigned dt (c.nanoseconds nano)
  match sum with
  | some t => .ok t
  | none => .err (.decode "timestamp overflow")

/-- `NaiveDateTime::from_binary`. -/
def naiveDateTimeFromBinary (c : Chrono) (target : Oid) (bs : Bytes) : Parsed c.NaiveDateTime :=
  if target ≠ oid.timestamp ∧ target ≠ oid.timestamptz then
    .err (.decode ("cannot decode oid " ++ toString target ++ " as NaiveDateTime"))
  else if bs.length ≠ 8 then .err (.decode ("invalid Timestamp length: " ++ toString bs.length))
  else
    match c.andHmsOpt c.pgEpoch 0 0 0 with
    | some pgEpochDt => timestampFromMicros c c.naiveDateTime pgEpochDt (BigEndian.int bs)
    | none => .err (.decode "invalid epoch")

/-- `DateTime<Utc>::from_binary`. -/
def dateTimeUtcFromBinary (c : Chrono) (target : Oid) (bs : Bytes) : Parsed c.DateTimeUtc :=
  if target ≠ oid.timestamptz then
    .err (.decode ("cannot decode oid " ++ toString target ++ " as DateTime<Utc>"))
  else if bs.length ≠ 8 then .err (.decode ("invalid Timestamp length: " ++ toString bs.length))
  else
    match c.andHmsOpt c.pgEpoch 0 0 0 with
    | some pgEpochDt => timestampFromMicros c c.dateTimeUtc (c.andUtc pgEpochDt) (BigEndian.int bs)
    | none => .err (.decode "invalid epoch")

namespace Chrono

variable {c : Chrono} {ops : c.TimestampsOf}

/-! ### Instants -/

/-- 2000-01-01 00:00:00. -/
structure IsEpoch (c : Chrono) (ops : c.TimestampsOf) (t : ops.Timestamp) : Prop where
  second_eq : c.second ops t = 0
  nano_eq : c.nano ops t = 0

theorem IsEpoch.instant_eq {t : ops.Timestamp} (h : c.IsEpoch ops t) : c.instant ops t = 0 := by
  rw [instant, h.second_eq, h.nano_eq]
  rfl

theorem Lawful.epoch_naive (hc : c.Lawful) : c.IsEpoch c.naiveDateTime c.pgEpochDt := by
  obtain ⟨hdate, hsecs, hnano⟩ := hc.and_hms.mp hc.epoch_dt
  refine ⟨?_, hnano⟩
  rw [second, hdate, hsecs, hc.day_epoch]
  rfl

theorem Lawful.epoch_utc (hc : c.Lawful) : c.IsEpoch c.dateTimeUtc (c.andUtc c.pgEpochDt) := by
  obtain ⟨hdate, htime⟩ := hc.and_utc c.pgEpochDt
  have hnaive := hc.epoch_naive
  constructor
  · rw [second, hdate, htime]
    exact hnaive.second_eq
  · rw [nano, htime]
    exact hnaive.nano_eq

/-- Every second of a day that there is has its timestamps. -/
theorem Lawful.exists_second (hc : c.Lawful) (hops : c.LawfulTimestamps ops) (d : c.NaiveDate)
    {secs : Nat} (hsecs : secs < 86400) :
    ∃ t, c.second ops t = c.day d * 86400 + secs ∧ c.nano ops t = 0 := by
  have hsome := (@hc.from_num_seconds_isSome secs 0).mpr ⟨hsecs, by decide, by omega⟩
  obtain ⟨time, htime⟩ := Option.isSome_iff_exists.mp hsome
  obtain ⟨hsecs', hnano⟩ := hc.from_num_seconds htime
  obtain ⟨t, hdate, ht⟩ := hops.new d time
  refine ⟨t, ?_, ?_⟩
  · rw [second, hdate, ht, hsecs']
  · rw [nano, ht, hnano]

/-- Between a timestamp and 2000-01-01 every second has one. -/
theorem Lawful.exists_between (hc : c.Lawful) (hops : c.LawfulTimestamps ops) (t : ops.Timestamp)
    {n : Int} (hlow : c.second ops t ≤ n) (hhigh : n ≤ 0) :
    ∃ u, c.second ops u = n ∧ c.nano ops u = 0 := by
  have hmin := hc.min_le (ops.date t)
  have hmax := hc.maxDate_nonneg
  unfold second at hlow
  obtain ⟨d, hd⟩ := hc.exists_day (n := n / 86400) (by omega) (by omega)
  obtain ⟨u, hu, hnano⟩ := hc.exists_second hops d (show (n % 86400).toNat < 86400 by omega)
  exact ⟨u, by omega, hnano⟩

/-- A timestamp of whole microseconds is so many of them after 2000-01-01, and far from the ends of
64 bits. -/
theorem Lawful.micros (hc : c.Lawful) {t : ops.Timestamp} (h : WholeMicros (c.nano ops t)) :
    ∃ us, c.instant ops t = us * 1000 ∧ BigEndian.Fits 8 us := by
  obtain ⟨hnano, k, hk⟩ := h
  have hday := hc.day_bounds (ops.date t)
  have hsecs := hc.num_seconds_lt (ops.time t)
  refine ⟨c.second ops t * 1000000 + k, ?_, ?_⟩
  · rw [instant, hk]
    push_cast
    omega
  · unfold second
    constructor <;> omega

/-- The microseconds between 2000-01-01 and a timestamp. -/
theorem Lawful.micros_since (hc : c.Lawful) (hops : c.LawfulTimestamps ops)
    {epoch t : ops.Timestamp} (hepoch : c.IsEpoch ops epoch) {us : Int}
    (h : c.instant ops t = us * 1000) (hfits : BigEndian.Fits 8 us) :
    c.numMicroseconds (ops.signedDurationSince t epoch) = some us := by
  have hsince := hops.since_midnight (t := t) (by rw [hepoch.second_eq]; rfl) hepoch.nano_eq
  rw [hepoch.instant_eq, Int.sub_zero, h] at hsince
  exact hc.num_microseconds hsince hfits

end Chrono

open Chrono

variable {c : Chrono} {ops : c.TimestampsOf} {epoch : ops.Timestamp} {usecs : Int}

variable (epoch) in
/-- Nothing overflows on the way to the two steps. -/
theorem timestampFromMicros_eq (hc : c.Lawful) (h : BigEndian.Fits 8 usecs) :
    ∃ δ, c.nanos δ = usecs.tdiv 1000000 * 1000000000 ∧
      timestampFromMicros c ops epoch usecs =
        match (ops.checkedAddSigned epoch δ).bind fun dt =>
          if 0 ≤ usecs then ops.withNanosecond dt ((usecs.tmod 1000000).natAbs * 1000)
          else ops.checkedSubSigned dt
            (c.nanoseconds (((usecs.tmod 1000000).natAbs * 1000 : Nat) : Int)) with
        | some t => .ok t
        | none => .err (.decode "timestamp overflow") := by
  obtain ⟨hlow, hhigh⟩ := h
  obtain ⟨hsplit, hrest, hfuture, hpast⟩ := split_trunc usecs (d := 1000000) (by decide)
  have hmax : int64Max / 1000 = 9223372036854775 := by decide
  obtain ⟨δ, hseconds, hδ⟩ := hc.nanos_seconds (n := usecs.tdiv 1000000) (by omega) (by omega)
  have hnano : asUnsigned 32 ((usecs.tmod 1000000).natAbs * 1000) =
      (usecs.tmod 1000000).natAbs * 1000 := by
    have hcast : (asUnsigned 32 ((usecs.tmod 1000000).natAbs * 1000) : Int) =
        (usecs.tmod 1000000).natAbs * 1000 := asUnsigned_of_nonneg (by omega) (by omega)
    exact_mod_cast hcast
  refine ⟨δ, hδ, ?_⟩
  rw [timestampFromMicros, signed_ok (by constructor <;> omega), Outcome.bind_ok,
    signed_ok (by constructor <;> omega), Outcome.bind_ok,
    signed_ok (by constructor <;> omega), Outcome.bind_ok,
    signed_ok (by constructor <;> omega), Outcome.bind_ok]
  dsimp only
  rw [hnano, hseconds, Outcome.bind_ok]

theorem timestampFromMicros_ne_halt (hc : c.Lawful) (h : BigEndian.Fits 8 usecs) :
    timestampFromMicros c ops epoch usecs ≠ .halt := by
  obtain ⟨δ, -, heq⟩ := timestampFromMicros_eq epoch hc h
  rw [heq]
  intro hhalt
  split at hhalt <;> cases hhalt

/-- Both steps together reach the timestamp at the instant that is no leap second, where there is
one. -/
theorem timestampFromMicros_ok_iff (hc : c.Lawful) (hops : c.LawfulTimestamps ops)
    (hepoch : c.IsEpoch ops epoch) (h : BigEndian.Fits 8 usecs) {t : ops.Timestamp} :
    timestampFromMicros c ops epoch usecs = .ok t ↔
      c.instant ops t = usecs * 1000 ∧ c.nano ops t < 1000000000 := by
  obtain ⟨δ, hδ, heq⟩ := timestampFromMicros_eq epoch hc h
  obtain ⟨hsplit, hrest, hfuture, hpast⟩ := split_trunc usecs (d := 1000000) (by decide)
  obtain ⟨hlow, hhigh⟩ := h
  have hok : ∀ o : Option ops.Timestamp, (match o with
      | some t => .ok t
      | none => .err (.decode "timestamp overflow") : Parsed ops.Timestamp) = .ok t ↔
        o = some t := by
    intro o
    cases o <;> simp
  have hepochNano : c.nano ops epoch < 1000000000 := by
    rw [hepoch.nano_eq]
    decide
  rw [heq, hok, Option.bind_eq_some_iff]
  simp only [hops.checked_add hepochNano, hepoch.instant_eq, Int.zero_add, hδ]
  generalize usecs.tdiv 1000000 = secs at *
  generalize usecs.tmod 1000000 = rest at *
  have hfrac : rest.natAbs * 1000 < 1000000000 := by omega
  by_cases hsign : 0 ≤ usecs
  · -- the fraction completes the second
    obtain ⟨hsecs, hrest'⟩ := hfuture hsign
    simp only [if_pos hsign, hops.with_nanosecond hfrac]
    constructor
    · rintro ⟨dt, ⟨hdt, hinstant⟩, hsecond, hnano⟩
      unfold instant at *
      omega
    · rintro ⟨hinstant, hnano⟩
      obtain ⟨dt, hdt, hdtNano⟩ := hc.exists_second hops (ops.date t)
        (hc.num_seconds_lt (ops.time t))
      have hdt : c.second ops dt = c.second ops t := hdt
      refine ⟨dt, ⟨by omega, ?_⟩, hdt.symm, ?_⟩
      · unfold instant at *
        omega
      · unfold instant at hinstant
        omega
  · -- the second is the one after the instant, and the fraction goes back from it
    obtain ⟨hsecs, hrest'⟩ := hpast (by omega)
    have hnanos := hc.nanos_nanoseconds (n := ((rest.natAbs * 1000 : Nat) : Int))
      (by constructor <;> omega)
    simp only [if_neg hsign]
    constructor
    · rintro ⟨dt, ⟨hdt, hinstant⟩, hsub⟩
      obtain ⟨hnano, ht⟩ := (hops.checked_sub hdt).mp hsub
      rw [hinstant, hnanos] at ht
      omega
    · rintro ⟨hinstant, hnano⟩
      obtain ⟨dt, hdt, hdtNano⟩ := hc.exists_between hops t (n := secs)
        (by unfold instant at hinstant; omega) hsecs
      have hdtInstant : c.instant ops dt = secs * 1000000000 := by
        rw [instant, hdt, hdtNano]
        omega
      refine ⟨dt, ⟨by omega, hdtInstant⟩, (hops.checked_sub (by omega)).mpr ⟨hnano, ?_⟩⟩
      rw [hdtInstant, hnanos]
      omega

/-! ### The round trip -/

variable {bs : Bytes}

theorem naiveDateTimeFromBinary_eq (hc : c.Lawful) (hlen : bs.length = 8) :
    naiveDateTimeFromBinary c oid.timestamp bs =
      timestampFromMicros c c.naiveDateTime c.pgEpochDt (BigEndian.int bs) := by
  rw [naiveDateTimeFromBinary, if_neg fun hoid => hoid.1 rfl, if_neg (not_not_intro hlen),
    hc.epoch_dt]

theorem dateTimeUtcFromBinary_eq (hc : c.Lawful) (hlen : bs.length = 8) :
    dateTimeUtcFromBinary c oid.timestamptz bs =
      timestampFromMicros c c.dateTimeUtc (c.andUtc c.pgEpochDt) (BigEndian.int bs) := by
  rw [dateTimeUtcFromBinary, if_neg (not_not_intro rfl), if_neg (not_not_intro hlen), hc.epoch_dt]

/-- What a decoder of eight bytes of microseconds does on any payload, if it refuses those of other
lengths: it does not panic, and a timestamp it returns is encoded as the payload. -/
theorem timestamp_payload (hc : c.Lawful) (hops : c.LawfulTimestamps ops)
    (hepoch : c.IsEpoch ops epoch) {natural target : Oid} {decoded : Parsed ops.Timestamp}
    (htarget : target = oid.timestamp ∨ target = oid.timestamptz)
    (hshort : bs.length ≠ 8 → ∃ e, decoded = .err e)
    (hlong : bs.length = 8 → decoded = timestampFromMicros c ops epoch (BigEndian.int bs)) :
    decoded ≠ .halt ∧ ∀ t, decoded = .ok t →
      encodeTimestamp natural ((c.numMicroseconds (ops.signedDurationSince t epoch)).getD int64Max)
        target = .ok (valueBytes (some bs)) := by
  by_cases hlen : bs.length = 8
  · have hfits : BigEndian.Fits 8 (BigEndian.int bs) := hlen ▸ BigEndian.fits_int bs
    have hbytes := BigEndian.intBytes_int bs
    rw [hlen] at hbytes
    rw [hlong hlen]
    refine ⟨timestampFromMicros_ne_halt hc hfits, fun t ht => ?_⟩
    have hinstant := ((timestampFromMicros_ok_iff hc hops hepoch hfits).mp ht).1
    rw [hc.micros_since hops hepoch hinstant hfits, encodeTimestamp, if_pos htarget,
      Option.getD_some, microseconds, hbytes]
  · obtain ⟨e, he⟩ := hshort hlen
    rw [he]
    exact ⟨nofun, nofun⟩

/-- A timestamp of whole microseconds that is no leap second is encoded without the fallback for an
overflow and decoded again, wherever it lies in the range of the crate; and a payload that decodes
is what its timestamp encodes to. No payload makes the decoders panic. -/
theorem timestamp_round_trip (hc : c.Lawful) :
    (∀ t : c.NaiveDateTime, WholeMicros (c.nano c.naiveDateTime t) → ∃ us bs,
      c.numMicroseconds (c.naiveDateTime.signedDurationSince t c.pgEpochDt) = some us ∧
      encodeNaiveDateTime c t oid.timestamp = .ok (valueBytes (some bs)) ∧
      naiveDateTimeFromBinary c oid.timestamp bs = .ok t) ∧
    (∀ t : c.DateTimeUtc, WholeMicros (c.nano c.dateTimeUtc t) → ∃ us bs,
      c.numMicroseconds (c.dateTimeUtc.signedDurationSince t (c.andUtc c.pgEpochDt)) = some us ∧
      encodeDateTimeUtc c t oid.timestamptz = .ok (valueBytes (some bs)) ∧
      dateTimeUtcFromBinary c oid.timestamptz bs = .ok t) ∧
    (∀ bs, naiveDateTimeFromBinary c oid.timestamp bs ≠ .halt ∧
      ∀ t, naiveDateTimeFromBinary c oid.timestamp bs = .ok t →
        encodeNaiveDateTime c t oid.timestamp = .ok (valueBytes (some bs))) ∧
    (∀ bs, dateTimeUtcFromBinary c oid.timestamptz bs ≠ .halt ∧
      ∀ t, dateTimeUtcFromBinary c oid.timestamptz bs = .ok t →
        encodeDateTimeUtc c t oid.timestamptz = .ok (valueBytes (some bs))) := by
  refine ⟨?_, ?_, ?_, ?_⟩
  · intro t h
    obtain ⟨us, hus, hfits⟩ := hc.micros h
    have hsince := hc.micros_since hc.naiveDateTime hc.epoch_naive hus hfits
    refine ⟨us, BigEndian.intBytes 8 us, hsince, ?_, ?_⟩
    · rw [encodeNaiveDateTime, hsince, encodeTimestamp, if_pos (.inl rfl)]
      rfl
    · rw [naiveDateTimeFromBinary_eq hc (BigEndian.length_intBytes 8 _),
        BigEndian.int_intBytes hfits]
      exact (timestampFromMicros_ok_iff hc hc.naiveDateTime hc.epoch_naive hfits).mpr ⟨hus, h.1⟩
  · intro t h
    obtain ⟨us, hus, hfits⟩ := hc.micros h
    have hsince := hc.micros_since hc.dateTimeUtc hc.epoch_utc hus hfits
    refine ⟨us, BigEndian.intBytes 8 us, hsince, ?_, ?_⟩
    · rw [encodeDateTimeUtc, hsince, encodeTimestamp, if_pos (.inr rfl)]
      rfl
    · rw [dateTimeUtcFromBinary_eq hc (BigEndian.length_intBytes 8 _),
        BigEndian.int_intBytes hfits]
      exact (timestampFromMicros_ok_iff hc hc.dateTimeUtc hc.epoch_utc hfits).mpr ⟨hus, h.1⟩
  · intro bs
    refine timestamp_payload hc hc.naiveDateTime hc.epoch_naive (.inl rfl) (fun hlen => ?_)
      (naiveDateTimeFromBinary_eq hc)
    rw [naiveDateTimeFromBinary, if_neg fun hoid => hoid.1 rfl, if_pos hlen]
    exact ⟨_, rfl⟩
  · intro bs
    refine timestamp_payload hc hc.dateTimeUtc hc.epoch_utc (.inr rfl) (fun hlen => ?_)
      (dateTimeUtcFromBinary_eq hc)
    rw [dateTimeUtcFromBinary, if_neg (not_not_intro rfl), if_pos hlen]
    exact ⟨_, rfl⟩

/-- Half a second before 2000. -/
def beforeEpoch : Reference.NaiveDateTime :=
  ⟨⟨-1, by decide, by decide⟩, 86399, 500000000, by decide, by decide⟩

theorem timestamp_round_trip_beforeEpoch :
    ∃ us bs, Reference.chrono.numMicroseconds (Reference.chrono.naiveDateTime.signedDurationSince
        beforeEpoch Reference.chrono.pgEpochDt) = some us ∧
      encodeNaiveDateTime Reference.chrono beforeEpoch oid.timestamp =
        .ok (valueBytes (some bs)) ∧
      naiveDateTimeFromBinary Reference.chrono oid.timestamp bs = .ok beforeEpoch :=
  (timestamp_round_trip Reference.chrono_lawful).1 beforeEpoch (by decide)

end ZeroPostgres
