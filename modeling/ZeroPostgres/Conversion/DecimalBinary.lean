import ZeroPostgres.Conversion.NumericText
import ZeroPostgres.Conversion.ReferenceCrates

/-!
# Decoding a NUMERIC as a `rust_decimal::Decimal`

`Decimal::from_binary`, `src/src/conversion/decimal.rs:40–127`. Arithmetic that overflows is a panic
here, as it is in a checked build. `decimalFromBinary_exact_iff` says for which payloads the decoder
does what its callers rely on: it returns the exact value of a NUMERIC that a decimal can hold, and
an error for everything else.
-/

namespace ZeroPostgres

open DecimalDigits

/-! ### The decoder -/

namespace DecimalBinary

/-- The digit groups, lines 73–82. -/
def readGroups : Nat → Bytes → Parsed (List Nat)
  | 0, _ => .ok []
  | n + 1, a :: b :: remaining =>
    (readGroups n remaining).bind fun digits => .ok (BigEndian.nat [a, b] :: digits)
  | _ + 1, _ => .err (.decode "truncated NUMERIC digit")

/-- The loop of lines 86–89 on a number of 128 bits, whose overflow panics. -/
def accumulate : List Nat → Nat → Parsed Nat
  | [], value => .ok value
  | digit :: digits, value =>
    if value * 10000 + digit < 2 ^ 127 then accumulate digits (value * 10000 + digit) else .halt

/-- The loop of lines 109–113. -/
def mulPowTen (c : RustDecimal) : Nat → c.Decimal → Parsed c.Decimal
  | 0, decimal => .ok decimal
  | n + 1, decimal =>
    match c.checkedMul decimal c.ten with
    | some decimal => mulPowTen c n decimal
    | none => .err (.decode "decimal overflow")

/-- The exponent brought in, lines 107–119. -/
def scaleBy (c : RustDecimal) (exponent : Int) (decimal : c.Decimal) : Parsed c.Decimal :=
  if 0 < exponent then mulPowTen c exponent.toNat decimal
  else if exponent < 0 then
    match c.setScale decimal (-exponent).toNat with
    | .ok decimal => .ok decimal
    | .error e => .err (.decode ("decimal scale error: " ++ e))
  else .ok decimal

end DecimalBinary

open DecimalBinary NumericText

/-- `Decimal::from_binary`. A negative number of digits overflows when it is doubled. -/
def decimalFromBinary (c : RustDecimal) (target : Oid) (bytes : Bytes) : Parsed c.Decimal :=
  if target ≠ oid.numeric then
    .err (.decode ("cannot decode oid " ++ toString target ++ " as Decimal"))
  else if bytes.length < 8 then
    .err (.decode ("invalid NUMERIC length: " ++ toString bytes.length))
  else
    let h := header bytes
    if h.sign = 0xC000 then .err (.decode "NaN cannot be represented as Decimal")
    else if h.ndigits = 0 then .ok c.zero
    else if h.ndigits < 0 then .halt
    else
      let ndigits := h.ndigits.toNat
      if (bytes.drop 8).length < ndigits * 2 then
        .err (.decode ("invalid NUMERIC length: " ++ toString bytes.length ++ " (expected " ++
          toString (8 + ndigits * 2) ++ ")"))
      else
        (readGroups ndigits (bytes.drop 8)).bind fun digits =>
        (accumulate digits 0).bind fun value =>
        let exponent := (h.weight - ndigits + 1) * 4
        let value : Int := if h.sign = 0x4000 then -value else value
        (c.fromI128WithScale value 0).bind fun decimal =>
        (scaleBy c exponent decimal).bind fun decimal =>
        .ok (if 0 < h.dscale then c.roundDp decimal h.dscale else decimal)

namespace DecimalBinary

/-! ### Payloads -/

/-- The digit groups that are there, up to the number announced. -/
def groups : Nat → Bytes → List Nat
  | n + 1, a :: b :: remaining => BigEndian.nat [a, b] :: groups n remaining
  | _, _ => []

/-- The number of groups announced. -/
def count (bs : Bytes) : Nat := (header bs).ndigits.toNat

/-- The NUMERIC that a payload would be the image of. -/
def payload (bs : Bytes) : Numeric :=
  ⟨groups (count bs) (bs.drop 8), (header bs).weight, decide ((header bs).sign = 0x4000),
    (header bs).dscale⟩

/-- The payload has the format of a finite NUMERIC: whole groups and no more, a sign that is plus or
minus, a display scale and groups in their ranges. -/
structure Format (bs : Bytes) : Prop where
  count_nonneg : 0 ≤ (header bs).ndigits
  length_eq : (bs.length : Int) = 8 + 2 * (header bs).ndigits
  sign : (header bs).sign = 0 ∨ (header bs).sign = 0x4000
  dscale_lt : (header bs).dscale < 2 ^ 14
  digit_lt : ∀ d ∈ groups (count bs) (bs.drop 8), d < 10000

theorem readGroups_eq {n : Nat} {data : Bytes} (h : n * 2 ≤ data.length) :
    readGroups n data = .ok (groups n data) := by
  induction n generalizing data with
  | zero => rfl
  | succ n ih =>
    match data with
    | [] | [_] =>
      simp only [List.length_nil, List.length_cons] at h
      omega
    | a :: b :: remaining =>
      have hrest : n * 2 ≤ remaining.length := by
        simp only [List.length_cons] at h
        omega
      rw [readGroups, ih hrest]
      rfl

theorem length_groups {n : Nat} {data : Bytes} (h : n * 2 ≤ data.length) :
    (groups n data).length = n := by
  induction n generalizing data with
  | zero => rfl
  | succ n ih =>
    match data with
    | [] | [_] =>
      simp only [List.length_nil, List.length_cons] at h
      omega
    | a :: b :: remaining =>
      have hrest : n * 2 ≤ remaining.length := by
        simp only [List.length_cons] at h
        omega
      rw [groups, List.length_cons, ih hrest]

theorem groups_flatMap {ds : List Nat} (h : ∀ d ∈ ds, d < 10000) :
    groups ds.length (ds.flatMap (BigEndian.bytes 2)) = ds := by
  induction ds with
  | nil => rfl
  | cons d ds ih =>
    obtain ⟨hd, hds⟩ := List.forall_mem_cons.mp h
    have hread : BigEndian.nat (BigEndian.bytes 2 d) = d :=
      BigEndian.nat_bytes_of_lt (Nat.lt_trans hd (by decide))
    show BigEndian.nat (BigEndian.bytes 2 d) ::
      groups ds.length (ds.flatMap (BigEndian.bytes 2)) = _
    rw [hread, ih hds]

theorem flatMap_groups {n : Nat} {data : Bytes} (h : data.length = n * 2) :
    (groups n data).flatMap (BigEndian.bytes 2) = data := by
  induction n generalizing data with
  | zero => rw [List.eq_nil_of_length_eq_zero h]; rfl
  | succ n ih =>
    match data with
    | [] | [_] =>
      simp only [List.length_nil, List.length_cons] at h
      omega
    | a :: b :: remaining =>
      have hrest : remaining.length = n * 2 := by
        simp only [List.length_cons] at h
        omega
      have hbytes := BigEndian.bytes_nat [a, b]
      rw [groups, List.flatMap_cons, ih hrest]
      exact congrArg (· ++ remaining) hbytes

/-- An image has the format, and is that of its payload. -/
theorem format_image {n : Numeric} (h : n.Wire) : Format n.image ∧ payload n.image = n := by
  obtain ⟨hheader, hdrop⟩ :=
    header_image h.count_lt h.weight_fits (Nat.lt_trans h.dscale_lt (by decide))
  have hcount : count n.image = n.digits.length := by
    rw [count, hheader]
    rfl
  have hsign : n.sign = 0 ∨ n.sign = 0x4000 := by
    unfold Numeric.sign
    split
    · exact .inr rfl
    · exact .inl rfl
  have hnegative : decide (n.sign = 0x4000) = n.negative := by
    unfold Numeric.sign
    cases n.negative <;> rfl
  constructor
  · refine ⟨?_, ?_, by rw [hheader]; exact hsign, by rw [hheader]; exact h.dscale_lt, ?_⟩
    · rw [hheader]
      exact Int.natCast_nonneg _
    · have hlength : (n.digits.flatMap (BigEndian.bytes 2)).length = n.digits.length * 2 := by
        simp [List.length_flatMap]
      rw [hheader]
      simp only [Numeric.image, List.length_append, BigEndian.length_bytes,
        BigEndian.length_intBytes, hlength]
      omega
    · rw [hcount, hdrop, groups_flatMap h.digit_lt]
      exact h.digit_lt
  · rw [payload, hcount, hdrop, groups_flatMap h.digit_lt, hheader, hnegative]

/-- The fields of two bytes that a payload begins with. -/
theorem payload_fields (bs : Bytes) : bs.take 2 ++ ((bs.drop 2).take 2 ++
    ((bs.drop 4).take 2 ++ ((bs.drop 6).take 2 ++ bs.drop 8))) = bs := by
  have hstep : ∀ k, (bs.drop k).take 2 ++ bs.drop (k + 2) = bs.drop k := by
    intro k
    rw [← List.drop_drop, List.take_append_drop]
  rw [hstep 6, hstep 4, hstep 2, List.take_append_drop]

/-- A payload with the format is an image. -/
theorem image_payload {bs : Bytes} (h : Format bs) :
    (payload bs).Wire ∧ (payload bs).image = bs := by
  have hnonneg := h.count_nonneg
  have hlength := h.length_eq
  have hfield : ∀ k ≤ 6, ((bs.drop k).take 2).length = 2 := by
    intro k hk
    rw [List.length_take, List.length_drop]
    omega
  have hfirst : (bs.take 2).length = 2 := hfield 0 (by decide)
  have hint : BigEndian.int (bs.take 2) = (count bs : Nat) := (Int.toNat_of_nonneg hnonneg).symm
  obtain ⟨hcount_lt, hcount⟩ := BigEndian.int_eq_natCast_iff.mp hint
  rw [hfirst] at hcount_lt hcount
  have hdata : (bs.drop 8).length = count bs * 2 := by
    rw [List.length_drop, count]
    omega
  have hdigits : (payload bs).digits.length = count bs := length_groups (Nat.le_of_eq hdata.symm)
  have hweight := BigEndian.intBytes_int ((bs.drop 2).take 2)
  have hweight_fits := BigEndian.fits_int ((bs.drop 2).take 2)
  have hsign := BigEndian.bytes_nat ((bs.drop 4).take 2)
  have hdscale := BigEndian.bytes_nat ((bs.drop 6).take 2)
  rw [hfield 2 (by decide)] at hweight hweight_fits
  rw [hfield 4 (by decide)] at hsign
  rw [hfield 6 (by decide)] at hdscale
  have hsign_eq : (payload bs).sign = BigEndian.nat ((bs.drop 4).take 2) := by
    show (if decide ((header bs).sign = 0x4000) = true then 0x4000 else 0) = (header bs).sign
    rcases h.sign with hs | hs <;> rw [hs] <;> rfl
  constructor
  · exact ⟨h.digit_lt, by rw [hdigits]; omega, hweight_fits, h.dscale_lt⟩
  · rw [Numeric.image, hdigits, hsign_eq, hsign]
    show BigEndian.bytes 2 (count bs) ++
      BigEndian.intBytes 2 (BigEndian.int ((bs.drop 2).take 2)) ++ (bs.drop 4).take 2 ++
      BigEndian.bytes 2 (BigEndian.nat ((bs.drop 6).take 2)) ++
      (groups (count bs) (bs.drop 8)).flatMap (BigEndian.bytes 2) = bs
    rw [← hcount, hweight, hdscale, flatMap_groups hdata]
    simp only [List.append_assoc]
    exact payload_fields bs

/-- The images are the payloads with the format. -/
theorem exists_image_iff {bs : Bytes} {n : Numeric} :
    n.Wire ∧ bs = n.image ↔ Format bs ∧ n = payload bs := by
  constructor
  · rintro ⟨hwire, rfl⟩
    obtain ⟨hformat, hpayload⟩ := format_image hwire
    exact ⟨hformat, hpayload.symm⟩
  · rintro ⟨hformat, rfl⟩
    obtain ⟨hwire, himage⟩ := image_payload hformat
    exact ⟨hwire, himage.symm⟩

/-! ### Arithmetic -/

theorem le_foldl (digits : List Nat) (value : Nat) :
    value ≤ digits.foldl (fun acc d => acc * 10000 + d) value := by
  induction digits generalizing value with
  | nil => exact Nat.le_refl _
  | cons digit digits ih =>
    have hstep : value ≤ value * 10000 + digit := by omega
    exact Nat.le_trans hstep (ih _)

/-- The accumulator overflows exactly when the number of all groups does. -/
theorem accumulate_eq (digits : List Nat) {value : Nat} (h : value < 2 ^ 127) :
    accumulate digits value =
      if digits.foldl (fun acc d => acc * 10000 + d) value < 2 ^ 127 then
        .ok (digits.foldl (fun acc d => acc * 10000 + d) value)
      else .halt := by
  induction digits generalizing value with
  | nil => rw [accumulate, List.foldl_nil, if_pos h]
  | cons digit digits ih =>
    rw [accumulate, List.foldl_cons]
    by_cases hstep : value * 10000 + digit < 2 ^ 127
    · rw [if_pos hstep, ih hstep]
    · have hmono := le_foldl digits (value * 10000 + digit)
      rw [if_neg hstep, if_neg (by omega)]

variable {c : RustDecimal}

/-- Multiplying step by step is multiplying by the power, as far as 96 bits go. -/
theorem mulPowTen_cases (hc : c.Lawful) (n : Nat) {d : c.Decimal} (hd : c.scale d = 0) :
    (2 ^ 96 ≤ (c.mantissa d).natAbs * 10 ^ n ∧
      mulPowTen c n d = .err (.decode "decimal overflow")) ∨
    ∃ d', mulPowTen c n d = .ok d' ∧ c.mantissa d' = c.mantissa d * 10 ^ n ∧ c.scale d' = 0 := by
  induction n generalizing d with
  | zero => exact .inr ⟨d, rfl, by simp, hd⟩
  | succ n ih =>
    have habs : (c.mantissa d * c.mantissa c.ten).natAbs = (c.mantissa d).natAbs * 10 := by
      rw [Int.natAbs_mul, hc.mantissa_ten]
      rfl
    rw [mulPowTen]
    by_cases h : (c.mantissa d).natAbs * 10 < 2 ^ 96
    · obtain ⟨p, hp, hmantissa, hscale⟩ := hc.checked_mul hd hc.scale_ten (habs ▸ h)
      have hstep : (c.mantissa p).natAbs = (c.mantissa d).natAbs * 10 := by rw [hmantissa, habs]
      simp only [hp]
      rcases ih hscale with ⟨hlarge, herr⟩ | ⟨d', hok, hd', hscale'⟩
      · rw [hstep] at hlarge
        have hpow : (c.mantissa d).natAbs * 10 * 10 ^ n = (c.mantissa d).natAbs * 10 ^ (n + 1) := by
          ring
        exact .inl ⟨hpow ▸ hlarge, herr⟩
      · refine .inr ⟨d', hok, ?_, hscale'⟩
        rw [hd', hmantissa, hc.mantissa_ten, pow_succ', ← Int.mul_assoc]
    · have hnone := hc.checked_mul_overflows hd hc.scale_ten (habs ▸ Nat.le_of_not_lt h)
      refine .inl ⟨?_, by simp only [hnone]⟩
      have hpos : 1 ≤ 10 ^ n := Nat.pow_pos (by decide)
      calc 2 ^ 96 ≤ (c.mantissa d).natAbs * 10 * 1 := by omega
        _ ≤ (c.mantissa d).natAbs * 10 * 10 ^ n := Nat.mul_le_mul_left _ hpos
        _ = (c.mantissa d).natAbs * 10 ^ (n + 1) := by ring

/-- Bringing in the exponent fails when the mantissa or the scale grows too large, and otherwise
changes nothing else. -/
theorem scaleBy_cases (hc : c.Lawful) (exponent : Int) {d : c.Decimal} (hd : c.scale d = 0) :
    ((2 ^ 96 ≤ (c.mantissa d).natAbs * 10 ^ exponent.toNat ∨ 28 < (-exponent).toNat) ∧
      ∃ text, scaleBy c exponent d = .err (.decode text)) ∨
    ((-exponent).toNat ≤ 28 ∧ ∃ d', scaleBy c exponent d = .ok d' ∧
      c.mantissa d' = c.mantissa d * 10 ^ exponent.toNat ∧ c.scale d' = (-exponent).toNat) := by
  rw [scaleBy]
  by_cases hpos : 0 < exponent
  · have hzero : (-exponent).toNat = 0 := by omega
    rw [if_pos hpos, hzero]
    rcases mulPowTen_cases hc exponent.toNat hd with ⟨hlarge, herr⟩ | ⟨d', hok, hmantissa, hscale⟩
    · exact .inl ⟨.inl hlarge, _, herr⟩
    · exact .inr ⟨by decide, d', hok, hmantissa, hscale⟩
  · have hzero : exponent.toNat = 0 := by omega
    rw [if_neg hpos, hzero, pow_zero, Nat.mul_one, pow_zero, Int.mul_one]
    by_cases hneg : exponent < 0
    · rw [if_pos hneg]
      by_cases hscale : (-exponent).toNat ≤ 28
      · obtain ⟨e, he, hmantissa, hscale'⟩ := hc.set_scale (d := d) hscale
        simp only [he]
        exact .inr ⟨hscale, e, rfl, hmantissa, hscale'⟩
      · obtain ⟨text, htext⟩ := hc.set_scale_error (d := d) (Nat.lt_of_not_le hscale)
        simp only [htext]
        exact .inl ⟨.inr (by omega), _, rfl⟩
    · have hscale : (-exponent).toNat = 0 := by omega
      rw [if_neg hneg, hscale]
      exact .inr ⟨by decide, d, rfl, rfl, hd⟩

end DecimalBinary

namespace RustDecimal

variable {c : RustDecimal}

/-- When a decimal is a given fraction. -/
theorem value_eq_div_iff (d : c.Decimal) (v : Int) (s : Nat) :
    c.value d = v / (10 : Rat) ^ s ↔ c.mantissa d * 10 ^ s = v * 10 ^ c.scale d := by
  have hpow : ∀ k, (10 : Rat) ^ k ≠ 0 := fun k => pow_ne_zero k (by decide)
  rw [value, div_eq_div_iff (hpow _) (hpow _)]
  exact_mod_cast Iff.rfl

/-- A decimal has so many places or fewer when its last digits are zeros. -/
theorem exists_value_eq_div_iff (d : c.Decimal) (dp : Nat) :
    (∃ n : Int, c.value d = n / (10 : Rat) ^ dp) ↔
      10 ^ (c.scale d - dp) ∣ (c.mantissa d).natAbs := by
  have hten : (10 : Int) ≠ 0 := by decide
  rw [← Int.natCast_dvd_natCast, Int.dvd_natAbs]
  push_cast
  simp only [value_eq_div_iff]
  rcases Nat.le_total (c.scale d) dp with hle | hle
  · obtain ⟨k, rfl⟩ := Nat.exists_eq_add_of_le hle
    rw [Nat.sub_eq_zero_of_le hle, pow_zero]
    refine iff_of_true ⟨c.mantissa d * 10 ^ k, ?_⟩ (one_dvd _)
    rw [pow_add]
    ring
  · obtain ⟨k, hk⟩ := Nat.exists_eq_add_of_le hle
    rw [hk, Nat.add_sub_cancel_left]
    constructor
    · rintro ⟨n, hn⟩
      refine ⟨n, mul_right_cancel₀ (pow_ne_zero dp hten) ?_⟩
      rw [hn, pow_add]
      ring
    · rintro ⟨n, hn⟩
      refine ⟨n, ?_⟩
      rw [hn, pow_add]
      ring

/-- Rounding keeps the value when no digit is lost. -/
theorem Lawful.value_roundDp_iff (hc : c.Lawful) (d : c.Decimal) (dp : Nat) :
    c.value (c.roundDp d dp) = c.value d ↔ 10 ^ (c.scale d - dp) ∣ (c.mantissa d).natAbs := by
  obtain ⟨n, hn, hnear⟩ := hc.round_dp d dp
  rw [← exists_value_eq_div_iff]
  constructor
  · intro hsame
    exact ⟨n, hsame.symm.trans hn⟩
  · rintro ⟨m, hm⟩
    -- two values of so many places are a unit of the last one apart, or equal
    have hpos : (0 : Rat) < 10 ^ dp := by positivity
    rw [hn, hm, ← sub_div, abs_div, abs_of_pos hpos, div_le_div_iff₀ hpos (by positivity)] at hnear
    have hlt : |(n - m : Rat)| < 1 := by nlinarith
    have hsame : n = m := by
      have habs : |n - m| < 1 := by exact_mod_cast hlt
      have hzero := Int.abs_lt_one_iff.mp habs
      omega
    rw [hn, hm, hsame]

end RustDecimal

namespace DecimalBinary

/-! ### Values of payloads -/

variable {c : RustDecimal}

/-- The number of all groups. -/
def total (bs : Bytes) : Nat := groupValue 10000 (payload bs).digits

/-- The power of ten that the number of all groups stands for. -/
def exponent (bs : Bytes) : Int := ((header bs).weight - (header bs).ndigits + 1) * 4

/-- The number of all groups with its sign. -/
def signedTotal (bs : Bytes) : Int :=
  if (header bs).sign = 0x4000 then -(total bs : Int) else total bs

theorem natAbs_signedTotal (bs : Bytes) : (signedTotal bs).natAbs = total bs := by
  unfold signedTotal
  split <;> simp

theorem payload_value {bs : Bytes} (h : ((payload bs).digits.length : Int) = (header bs).ndigits) :
    (payload bs).value = signedTotal bs * (10 : Rat) ^ exponent bs := by
  have hbase : (10000 : Rat) = 10 ^ (4 : Int) := by norm_num
  have hexp : (10 : Rat) ^ exponent bs =
      10000 ^ ((payload bs).weight - (payload bs).digits.length + 1) := by
    rw [hbase, ← zpow_mul, h, exponent, Int.mul_comm]
    rfl
  rw [hexp, Numeric.value, Numeric.magnitude, ← mul_assoc]
  congr 1
  show (if decide ((header bs).sign = 0x4000) = true then -1 else 1) * ((total bs : Nat) : Rat) = _
  unfold signedTotal
  by_cases hsign : (header bs).sign = 0x4000 <;> simp [hsign]

/-- The value as a fraction, when the exponent is not positive. -/
theorem zpow_of_nonpos {e : Int} (h : e ≤ 0) : (10 : Rat) ^ e = 1 / 10 ^ (-e).toNat := by
  obtain ⟨k, hk⟩ : ∃ k : Nat, (-e).toNat = k := ⟨_, rfl⟩
  have hneg : e = -(k : Int) := by omega
  rw [hk, hneg, zpow_neg, zpow_natCast, one_div]

theorem zpow_of_nonneg {e : Int} (h : 0 ≤ e) : (10 : Rat) ^ e = 10 ^ e.toNat := by
  rw [← zpow_natCast, Int.toNat_of_nonneg h]

/-- A decimal equals the value of a payload when the integers do, scaled to whole numbers. -/
theorem value_eq_payload_iff {bs : Bytes}
    (h : ((payload bs).digits.length : Int) = (header bs).ndigits) (d : c.Decimal) :
    c.value d = (payload bs).value ↔
      c.mantissa d * 10 ^ (-exponent bs).toNat =
        signedTotal bs * 10 ^ (exponent bs).toNat * 10 ^ c.scale d := by
  rw [payload_value h]
  by_cases hexp : exponent bs ≤ 0
  · have hzero : (exponent bs).toNat = 0 := by omega
    rw [zpow_of_nonpos hexp, mul_one_div, RustDecimal.value_eq_div_iff, hzero, pow_zero, mul_one]
  · have hzero : (-exponent bs).toNat = 0 := by omega
    have hdiv : (signedTotal bs : Rat) * 10 ^ (exponent bs).toNat =
        ((signedTotal bs * 10 ^ (exponent bs).toNat : Int) : Rat) / 10 ^ 0 := by
      push_cast
      rw [pow_zero, div_one]
    rw [zpow_of_nonneg (by omega), hdiv, RustDecimal.value_eq_div_iff, hzero]

/-- A value of 2^96 or more is no decimal. -/
theorem value_ne_of_large (hc : c.Lawful) {bs : Bytes}
    (h : ((payload bs).digits.length : Int) = (header bs).ndigits)
    (hlarge : 2 ^ 96 ≤ total bs * 10 ^ (exponent bs).toNat) (hexp : 0 ≤ exponent bs)
    (d : c.Decimal) : c.value d ≠ (payload bs).value := by
  rw [ne_eq, value_eq_payload_iff h]
  intro heq
  have hzero : (-exponent bs).toNat = 0 := by omega
  have habs := congrArg Int.natAbs heq
  rw [hzero, pow_zero, mul_one, Int.natAbs_mul, Int.natAbs_mul, natAbs_signedTotal,
    Int.natAbs_pow, Int.natAbs_pow] at habs
  have hpos : 1 ≤ 10 ^ c.scale d := Nat.pow_pos (by decide)
  have hlt := hc.mantissa_lt d
  have hle := Nat.mul_le_mul hlarge hpos
  have hten : Int.natAbs 10 = 10 := rfl
  rw [hten] at habs
  omega

/-- A value with more than 28 places is a decimal when the places after the 28th are zeros. -/
theorem exists_value_iff (hc : c.Lawful) {bs : Bytes}
    (h : ((payload bs).digits.length : Int) = (header bs).ndigits) (hlt : total bs < 2 ^ 96)
    (hplaces : 28 < (-exponent bs).toNat) :
    (∃ d : c.Decimal, c.value d = (payload bs).value) ↔
      10 ^ ((-exponent bs).toNat - 28) ∣ total bs := by
  obtain ⟨k, hk⟩ := Nat.exists_eq_add_of_lt hplaces
  have hzero : (exponent bs).toNat = 0 := by omega
  have hten : Int.natAbs 10 = 10 := rfl
  simp only [value_eq_payload_iff h, hzero, pow_zero, mul_one]
  constructor
  · rintro ⟨d, heq⟩
    have habs := congrArg Int.natAbs heq
    rw [Int.natAbs_mul, Int.natAbs_mul, natAbs_signedTotal, Int.natAbs_pow, Int.natAbs_pow,
      hten] at habs
    obtain ⟨j, hj⟩ := Nat.exists_eq_add_of_le (hc.scale_le d)
    refine ⟨(c.mantissa d).natAbs * 10 ^ j, ?_⟩
    refine Nat.eq_of_mul_eq_mul_right (Nat.pow_pos (n := 28) (by decide : 0 < 10)) ?_
    calc total bs * 10 ^ 28 = total bs * 10 ^ c.scale d * 10 ^ j := by
          rw [hj, pow_add, mul_assoc]
      _ = (c.mantissa d).natAbs * 10 ^ (-exponent bs).toNat * 10 ^ j := by rw [habs]
      _ = (c.mantissa d).natAbs * (10 ^ ((-exponent bs).toNat - 28) * 10 ^ 28) * 10 ^ j := by
        rw [← pow_add, Nat.sub_add_cancel (Nat.le_of_lt hplaces)]
      _ = 10 ^ ((-exponent bs).toNat - 28) * ((c.mantissa d).natAbs * 10 ^ j) * 10 ^ 28 := by
        ring
  · rintro ⟨m, hm⟩
    have hpos : 1 ≤ 10 ^ ((-exponent bs).toNat - 28) := Nat.pow_pos (by decide)
    have hle : m ≤ total bs := by
      rw [hm]
      exact Nat.le_mul_of_pos_left m hpos
    have hpow : (10 : Int) ^ (-exponent bs).toNat = 10 ^ ((-exponent bs).toNat - 28) * 10 ^ 28 := by
      rw [← pow_add, Nat.sub_add_cancel (Nat.le_of_lt hplaces)]
    have htotal : (total bs : Int) = 10 ^ ((-exponent bs).toNat - 28) * m := by exact_mod_cast hm
    obtain ⟨d, -, hmantissa, hscale⟩ := hc.from_i128 (s := 28)
      (n := if (header bs).sign = 0x4000 then -(m : Int) else m) (by split <;> omega) (by decide)
    refine ⟨d, ?_⟩
    rw [hpow, hmantissa, hscale, signedTotal, htotal]
    by_cases hsign : (header bs).sign = 0x4000
    · simp only [hsign, if_true]
      ring
    · simp only [hsign, if_false]
      ring

/-- The digits past the scale shown are cut off by rounding. -/
def shown (c : RustDecimal) (bs : Bytes) (d : c.Decimal) : c.Decimal :=
  if 0 < (header bs).dscale then c.roundDp d (header bs).dscale else d

theorem shown_value_iff (hc : c.Lawful) (bs : Bytes) (d : c.Decimal) :
    c.value (shown c bs d) = c.value d ↔
      (0 < (header bs).dscale →
        10 ^ (c.scale d - (header bs).dscale) ∣ (c.mantissa d).natAbs) := by
  unfold shown
  by_cases h : 0 < (header bs).dscale
  · rw [if_pos h, hc.value_roundDp_iff]
    exact ⟨fun hdvd _ => hdvd, fun hdvd => hdvd h⟩
  · rw [if_neg h]
    exact iff_of_true rfl fun hpos => absurd hpos h

/-- A number of more than 96 bits panics. -/
theorem fromI128_cases (hc : c.Lawful) (value : Int) :
    (2 ^ 96 ≤ value.natAbs ∧ c.fromI128WithScale value 0 = .halt) ∨
    ∃ d, c.fromI128WithScale value 0 = .ok d ∧ c.mantissa d = value ∧ c.scale d = 0 := by
  by_cases h : value.natAbs < 2 ^ 96
  · exact .inr (hc.from_i128 h (Nat.zero_le _))
  · exact .inl ⟨Nat.le_of_not_lt h, hc.from_i128_panics (.inl (Nat.le_of_not_lt h))⟩

/-- The decoder on a payload that has the groups it announces. -/
theorem decimalFromBinary_cases (hc : c.Lawful) {bs : Bytes} (hlen : ¬ bs.length < 8)
    (hnan : (header bs).sign ≠ 0xC000) (hpos : 0 < (header bs).ndigits)
    (hdata : ¬ (bs.length : Int) < 8 + 2 * (header bs).ndigits) :
    (2 ^ 96 ≤ total bs ∧ decimalFromBinary c oid.numeric bs = .halt) ∨
    total bs < 2 ^ 96 ∧ ∃ d, c.mantissa d = signedTotal bs ∧ c.scale d = 0 ∧
      decimalFromBinary c oid.numeric bs =
        (scaleBy c (exponent bs) d).bind fun d => .ok (shown c bs d) := by
  have hcount : ((header bs).ndigits.toNat : Int) = (header bs).ndigits := by omega
  have hgroups : (header bs).ndigits.toNat * 2 ≤ (bs.drop 8).length := by
    rw [List.length_drop]
    omega
  have hfold : (groups (header bs).ndigits.toNat (bs.drop 8)).foldl
      (fun acc d => acc * 10000 + d) 0 = total bs := rfl
  have hrun : decimalFromBinary c oid.numeric bs =
      (accumulate (groups (header bs).ndigits.toNat (bs.drop 8)) 0).bind fun value =>
      (c.fromI128WithScale (if (header bs).sign = 0x4000 then -(value : Int) else value) 0).bind
        fun d => (scaleBy c (exponent bs) d).bind fun d => .ok (shown c bs d) := by
    rw [decimalFromBinary, if_neg (by simp), if_neg hlen]
    simp only [hnan, if_false]
    rw [if_neg (by omega), if_neg (by omega), if_neg (by omega), readGroups_eq hgroups, hcount]
    rfl
  rw [accumulate_eq _ (by decide), hfold] at hrun
  by_cases hover : total bs < 2 ^ 127
  · rw [if_pos hover] at hrun
    have hrun : decimalFromBinary c oid.numeric bs =
      (c.fromI128WithScale (signedTotal bs) 0).bind fun d =>
      (scaleBy c (exponent bs) d).bind fun d => .ok (shown c bs d) := hrun
    have habs := natAbs_signedTotal bs
    rcases fromI128_cases hc (signedTotal bs) with ⟨hlarge, hhalt⟩ | ⟨d, hok, hmantissa, hscale⟩
    · rw [hhalt] at hrun
      exact .inl ⟨by omega, hrun⟩
    · rw [hok] at hrun
      have hlt := hc.mantissa_lt d
      rw [hmantissa, habs] at hlt
      exact .inr ⟨hlt, d, hmantissa, hscale, hrun⟩
  · rw [if_neg hover] at hrun
    exact .inl ⟨by omega, hrun⟩

end DecimalBinary

/-- What callers rely on: a decimal is the exact value of a NUMERIC, and an error is the decoder's
own and stands for a payload that is no NUMERIC or has no decimal. -/
def DecodedExactly (c : RustDecimal) (bs : Bytes) : Prop :=
  match decimalFromBinary c oid.numeric bs with
  | .ok d => ∃ n : Numeric, (n.Wire ∧ bs = n.image) ∧ c.value d = n.value
  | .err e => (∃ text, e = .decode text) ∧
    ∀ n : Numeric, n.Wire ∧ bs = n.image → ∀ d : c.Decimal, c.value d ≠ n.value
  | .halt => False

/-- The payloads for which it is so: too short, NaN or cut off; or with no more than 96 bits of
groups, and too large, or too fine for a decimal or malformed, or well formed with no digit past the
scale shown. -/
def Tractable (bs : Bytes) : Prop :=
  bs.length < 8 ∨ (header bs).sign = 0xC000 ∨ (bs.length : Int) < 8 + 2 * (header bs).ndigits ∨
  0 ≤ (header bs).ndigits ∧ total bs < 2 ^ 96 ∧
    (2 ^ 96 ≤ total bs * 10 ^ (exponent bs).toNat ∨
      (0 < (header bs).ndigits ∧ 28 < (-exponent bs).toNat ∧
        (Format bs → ¬ 10 ^ ((-exponent bs).toNat - 28) ∣ total bs)) ∨
      (((header bs).ndigits = 0 ∨ (-exponent bs).toNat ≤ 28) ∧ Format bs ∧
        (0 < (header bs).dscale →
          10 ^ ((-exponent bs).toNat - (header bs).dscale) ∣ total bs)))

namespace DecimalBinary

variable {c : RustDecimal}

theorem decodedExactly_ok {bs : Bytes} {d : c.Decimal}
    (h : decimalFromBinary c oid.numeric bs = .ok d) :
    DecodedExactly c bs ↔ Format bs ∧ c.value d = (payload bs).value := by
  simp only [DecodedExactly, h, exists_image_iff]
  constructor
  · rintro ⟨n, ⟨hformat, rfl⟩, hvalue⟩
    exact ⟨hformat, hvalue⟩
  · rintro ⟨hformat, hvalue⟩
    exact ⟨_, ⟨hformat, rfl⟩, hvalue⟩

theorem decodedExactly_err {bs : Bytes} {text : String}
    (h : decimalFromBinary c oid.numeric bs = .err (.decode text)) :
    DecodedExactly c bs ↔ (Format bs → ¬ ∃ d : c.Decimal, c.value d = (payload bs).value) := by
  simp only [DecodedExactly, h, exists_image_iff]
  constructor
  · rintro ⟨-, hnone⟩ hformat ⟨d, hd⟩
    exact hnone _ ⟨hformat, rfl⟩ d hd
  · intro hnone
    refine ⟨⟨text, rfl⟩, ?_⟩
    rintro n ⟨hformat, rfl⟩ d hd
    exact hnone hformat ⟨d, hd⟩

/-- An error is right for what has not the format. -/
theorem decodedExactly_of_not_format {bs : Bytes} {text : String}
    (h : decimalFromBinary c oid.numeric bs = .err (.decode text)) (hformat : ¬ Format bs) :
    DecodedExactly c bs := by
  rw [decodedExactly_err h]
  intro hf
  exact absurd hf hformat

theorem not_decodedExactly_of_halt {bs : Bytes}
    (h : decimalFromBinary c oid.numeric bs = .halt) : ¬ DecodedExactly c bs := by
  simp only [DecodedExactly, h, not_false_eq_true]

/-- No groups: the decoder returns zero whatever else the payload says. -/
theorem exact_iff_of_empty (hc : c.Lawful) {bs : Bytes} (hlen : ¬ bs.length < 8)
    (hnan : (header bs).sign ≠ 0xC000) (hzero : (header bs).ndigits = 0) :
    DecodedExactly c bs ↔ Tractable bs := by
  have hrun : decimalFromBinary c oid.numeric bs = .ok c.zero := by
    rw [decimalFromBinary, if_neg (by simp), if_neg hlen]
    simp only [hnan, hzero, if_false, if_true]
  have hgroups : (payload bs).digits = [] := by
    show groups (header bs).ndigits.toNat (bs.drop 8) = []
    rw [hzero]
    rfl
  have htotal : total bs = 0 := by
    rw [total, hgroups]
    rfl
  have hvalue : (payload bs).value = 0 := by
    rw [payload_value (by rw [hgroups, hzero]; rfl), signedTotal, htotal]
    simp
  have hzero_value : c.value c.zero = 0 := by simp [RustDecimal.value, hc.mantissa_zero]
  rw [decodedExactly_ok hrun, hzero_value, hvalue]
  constructor
  · rintro ⟨hformat, -⟩
    refine .inr (.inr (.inr ⟨Int.le_of_eq hzero.symm, ?_, .inr (.inr ⟨.inl hzero, hformat, ?_⟩)⟩))
    · rw [htotal]
      decide
    · intro _
      rw [htotal]
      exact dvd_zero _
  · rintro (hshort | hsign | hcut | ⟨-, -, hlarge | ⟨hpos, -⟩ | ⟨-, hformat, -⟩⟩)
    · exact absurd hshort hlen
    · exact absurd hsign hnan
    · omega
    · rw [htotal, Nat.zero_mul] at hlarge
      omega
    · omega
    · exact ⟨hformat, rfl⟩

/-- Groups that are all there: tractable means that their number fits, and then one of three. -/
theorem tractable_iff_of_pos {bs : Bytes} (hlen : ¬ bs.length < 8)
    (hnan : (header bs).sign ≠ 0xC000) (hpos : 0 < (header bs).ndigits)
    (hdata : ¬ (bs.length : Int) < 8 + 2 * (header bs).ndigits) :
    Tractable bs ↔ total bs < 2 ^ 96 ∧
      (2 ^ 96 ≤ total bs * 10 ^ (exponent bs).toNat ∨
        (28 < (-exponent bs).toNat ∧
          (Format bs → ¬ 10 ^ ((-exponent bs).toNat - 28) ∣ total bs)) ∨
        ((-exponent bs).toNat ≤ 28 ∧ Format bs ∧
          (0 < (header bs).dscale →
            10 ^ ((-exponent bs).toNat - (header bs).dscale) ∣ total bs))) := by
  have hne : ¬ (header bs).ndigits = 0 := by omega
  have hnonneg : 0 ≤ (header bs).ndigits := by omega
  simp only [Tractable, hlen, hnan, hdata, hpos, hne, hnonneg, false_or, true_and]

/-- Groups that are all there. -/
theorem exact_iff_of_pos (hc : c.Lawful) {bs : Bytes} (hlen : ¬ bs.length < 8)
    (hnan : (header bs).sign ≠ 0xC000) (hpos : 0 < (header bs).ndigits)
    (hdata : ¬ (bs.length : Int) < 8 + 2 * (header bs).ndigits) :
    DecodedExactly c bs ↔ Tractable bs := by
  have hdigits : ((payload bs).digits.length : Int) = (header bs).ndigits := by
    have hlength : (groups (count bs) (bs.drop 8)).length = count bs := by
      apply length_groups
      rw [List.length_drop, count]
      omega
    show ((groups (count bs) (bs.drop 8)).length : Int) = _
    rw [hlength, count]
    omega
  rw [tractable_iff_of_pos hlen hnan hpos hdata]
  rcases decimalFromBinary_cases hc hlen hnan hpos hdata with
    ⟨hlarge, hrun⟩ | ⟨hsmall, d, hsigned, hscale, hrun⟩
  · refine iff_of_false (not_decodedExactly_of_halt hrun) ?_
    rintro ⟨hsmall, -⟩
    omega
  have hco : (c.mantissa d).natAbs = total bs := by rw [hsigned, natAbs_signedTotal]
  rcases scaleBy_cases hc (exponent bs) hscale with
    ⟨hwhy, text, herr⟩ | ⟨hplaces, d', hok, hmantissa', hscale'⟩
  · rw [herr] at hrun
    rw [hco] at hwhy
    by_cases hlarge : 2 ^ 96 ≤ total bs * 10 ^ (exponent bs).toNat
    · refine iff_of_true ?_ ⟨hsmall, .inl hlarge⟩
      have hexp : 0 ≤ exponent bs := by
        by_contra hneg
        have hzero : (exponent bs).toNat = 0 := by omega
        rw [hzero, pow_zero, Nat.mul_one] at hlarge
        omega
      rw [decodedExactly_err hrun]
      rintro - ⟨e, he⟩
      exact value_ne_of_large hc hdigits hlarge hexp e he
    · have hfine : 28 < (-exponent bs).toNat := hwhy.resolve_left hlarge
      rw [decodedExactly_err hrun, exists_value_iff hc hdigits hsmall hfine]
      simp only [hsmall, hlarge, hfine, Nat.not_le.mpr hfine, true_and, false_or, false_and,
        or_false]
  · rw [hok] at hrun
    have hco' : (c.mantissa d').natAbs = total bs * 10 ^ (exponent bs).toNat := by
      rw [hmantissa', Int.natAbs_mul, Int.natAbs_pow, hco]
      rfl
    have hlt : ¬ 2 ^ 96 ≤ total bs * 10 ^ (exponent bs).toNat := by
      rw [← hco']
      exact Nat.not_le.mpr (hc.mantissa_lt d')
    have hvalue : c.value d' = (payload bs).value := by
      rw [value_eq_payload_iff hdigits, hmantissa', hscale', hsigned]
    have hdvd : 10 ^ (c.scale d' - (header bs).dscale) ∣ (c.mantissa d').natAbs ↔
        10 ^ ((-exponent bs).toNat - (header bs).dscale) ∣ total bs := by
      rw [hscale', hco']
      by_cases hexp : 0 < exponent bs
      · have hzero : (-exponent bs).toNat = 0 := by omega
        rw [hzero, Nat.zero_sub, pow_zero]
        exact iff_of_true (one_dvd _) (one_dvd _)
      · have hzero : (exponent bs).toNat = 0 := by omega
        rw [hzero, pow_zero, Nat.mul_one]
    rw [decodedExactly_ok hrun, ← hvalue, shown_value_iff hc, hdvd]
    simp only [hsmall, hlt, hplaces, Nat.not_lt.mpr hplaces, true_and, false_or, false_and]

end DecimalBinary

/-- Which payloads decode exactly. The cases are those of the decoder, in its order. -/
theorem decimalFromBinary_exact_iff (hc : c.Lawful) (bs : Bytes) :
    DecodedExactly c bs ↔ Tractable bs := by
  by_cases hlen : bs.length < 8
  · have hrun : decimalFromBinary c oid.numeric bs =
        .err (.decode ("invalid NUMERIC length: " ++ toString bs.length)) := by
      rw [decimalFromBinary, if_neg (by simp), if_pos hlen]
    refine iff_of_true (decodedExactly_of_not_format hrun ?_) (.inl hlen)
    rintro ⟨hnonneg, hlength, -⟩
    omega
  by_cases hnan : (header bs).sign = 0xC000
  · have hrun : decimalFromBinary c oid.numeric bs =
        .err (.decode "NaN cannot be represented as Decimal") := by
      rw [decimalFromBinary, if_neg (by simp), if_neg hlen]
      simp only [hnan, if_true]
    refine iff_of_true (decodedExactly_of_not_format hrun ?_) (.inr (.inl hnan))
    rintro ⟨-, -, hsign, -⟩
    omega
  rcases lt_trichotomy (header bs).ndigits 0 with hneg | hzero | hpos
  · have hrun : decimalFromBinary c oid.numeric bs = .halt := by
      have hne : ¬ (header bs).ndigits = 0 := by omega
      rw [decimalFromBinary, if_neg (by simp), if_neg hlen]
      simp only [hnan, hne, hneg, if_false, if_true]
    refine iff_of_false (not_decodedExactly_of_halt hrun) ?_
    rintro (hshort | hsign | hcut | ⟨hnonneg, -⟩) <;> omega
  · exact exact_iff_of_empty hc hlen hnan hzero
  by_cases hdata : (bs.length : Int) < 8 + 2 * (header bs).ndigits
  · have hrun : decimalFromBinary c oid.numeric bs =
        .err (.decode ("invalid NUMERIC length: " ++ toString bs.length ++ " (expected " ++
          toString (8 + (header bs).ndigits.toNat * 2) ++ ")")) := by
      rw [decimalFromBinary, if_neg (by simp), if_neg hlen]
      simp only [hnan, if_false]
      rw [if_neg (by omega), if_neg (by omega), if_pos]
      rw [List.length_drop]
      omega
    refine iff_of_true (decodedExactly_of_not_format hrun ?_) (.inr (.inr (.inl hdata)))
    rintro ⟨-, hlength, -⟩
    omega
  · exact exact_iff_of_pos hc hlen hnan hpos hdata

/-- 12345.6789 has the groups 1, 2345 and 6789. -/
theorem decimalFromBinary_exact_sample : DecodedExactly Reference.decimal
    [0, 3, 0, 1, 0, 0, 0, 4, 0, 1, 9, 41, 26, 133] := by
  have hformat : Format [0, 3, 0, 1, 0, 0, 0, 4, 0, 1, 9, 41, 26, 133] :=
    ⟨by decide +kernel, by decide +kernel, .inl (by decide +kernel), by decide +kernel,
      by decide +kernel⟩
  refine (decimalFromBinary_exact_iff Reference.decimal_lawful _).mpr (.inr (.inr (.inr ?_)))
  exact ⟨hformat.count_nonneg, by decide +kernel,
    .inr (.inr ⟨.inr (by decide +kernel), hformat, fun _ => by decide +kernel⟩)⟩

/-- The server's 79228162514264337593543.95033, whose groups make a number of more than 96 bits. -/
def wideNumeric : Numeric :=
  ⟨[792, 2816, 2514, 2643, 3759, 3543, 9503, 3000], 5, false, 5⟩

/-- Infinity decodes as zero, and a number that a decimal can hold stops the program. -/
theorem decimalFromBinary_not_exact :
    ¬ DecodedExactly Reference.decimal [0, 0, 0, 0, 0xD0, 0, 0, 0] ∧
    ¬ DecodedExactly Reference.decimal wideNumeric.image := by
  constructor
  · have hrun : decimalFromBinary Reference.decimal oid.numeric [0, 0, 0, 0, 0xD0, 0, 0, 0] =
        .ok Reference.decimal.zero := rfl
    rw [decodedExactly_ok hrun]
    rintro ⟨⟨-, -, hsign, -⟩, -⟩
    exact absurd hsign (by decide)
  · have hrun : decimalFromBinary Reference.decimal oid.numeric wideNumeric.image = .halt := by
      decide +kernel
    exact not_decodedExactly_of_halt hrun

end ZeroPostgres
