import ZeroPostgres.Conversion.DecimalBinary

/-!
# Decimals in a NUMERIC of the server

The server sends a NUMERIC without groups of zeros at its ends, so that the digits behind the point
are filled up to whole groups of four. `decimal_image` says which decimals the decoder of
`src/src/conversion/decimal.rs:40–127` makes of it again: those whose groups are a number of 96
bits. For the others it stops the program.
-/

namespace ZeroPostgres

open NumericText DecimalBinary DecimalDigits

/-- The value is a number of 96 bits over a power of 10000. -/
def RustDecimal.FitsGroups (c : RustDecimal) (d : c.Decimal) : Prop :=
  ∃ m k : Nat, m < 2 ^ 96 ∧ (c.mantissa d).natAbs * 10000 ^ k = m * 10 ^ c.scale d

namespace Numeric

variable {n : Numeric}

/-- The number of all groups is no multiple of a group: the last one is not zero. -/
theorem Canonical.not_dvd (h : n.Canonical) (hne : n.digits ≠ []) :
    ¬ 10000 ∣ groupValue 10000 n.digits := by
  obtain ⟨init, last, hsplit⟩ : ∃ init last, n.digits = init ++ [last] :=
    ⟨_, _, (List.dropLast_append_getLast hne).symm⟩
  have hlast : last ≠ 0 := by
    intro hzero
    apply h.last_ne
    rw [hsplit, hzero, List.getLast?_concat]
  have hlt : last < 10000 := h.digit_lt last (by simp [hsplit])
  have hvalue : groupValue 10000 n.digits = groupValue 10000 init * 10000 + last := by
    rw [hsplit, groupValue_append]
    simp [groupValue]
  omega

/-- What the header of an image says, and the groups in it. -/
theorem Wire.header_image (h : n.Wire) :
    header n.image = ⟨n.digits.length, n.weight, n.sign, n.dscale⟩ :=
  (NumericText.header_image h.count_lt h.weight_fits (Nat.lt_trans h.dscale_lt (by decide))).1

theorem Wire.total_image (h : n.Wire) : total n.image = groupValue 10000 n.digits := by
  rw [total, (format_image h).2]

/-- The exponent counts groups. -/
theorem Wire.exponent_image (h : n.Wire) :
    DecimalBinary.exponent n.image = (n.weight - n.digits.length + 1) * 4 := by
  rw [DecimalBinary.exponent, h.header_image]

end Numeric

namespace DecimalBinary

/-- A number of groups that is no multiple of one is the least numerator of its value over a power
of 10000. -/
theorem total_lt_iff {co total whole fraction scale : Nat}
    (hvalue : co * 10000 ^ fraction = total * 10000 ^ whole * 10 ^ scale)
    (hside : fraction = 0 ∨ whole = 0) (hdvd : ¬ 10000 ∣ total) (hco : co < 2 ^ 96) :
    total < 2 ^ 96 ↔ ∃ m k : Nat, m < 2 ^ 96 ∧ co * 10000 ^ k = m * 10 ^ scale := by
  have hscale : 0 < 10 ^ scale := Nat.pow_pos (by decide)
  rcases hside with rfl | rfl
  · -- a whole number
    rw [pow_zero, Nat.mul_one] at hvalue
    have hle : total * 10000 ^ whole ≤ co := by
      rw [hvalue]
      exact Nat.le_mul_of_pos_right _ hscale
    have hfirst : total ≤ total * 10000 ^ whole :=
      Nat.le_mul_of_pos_right _ (Nat.pow_pos (by decide))
    refine iff_of_true (by omega) ⟨total * 10000 ^ whole, 0, by omega, ?_⟩
    rw [pow_zero, Nat.mul_one, hvalue]
  · rw [pow_zero, Nat.mul_one] at hvalue
    constructor
    · intro hlt
      exact ⟨total, fraction, hlt, hvalue⟩
    · rintro ⟨m, k, hm, hco'⟩
      have hcross : m * 10000 ^ fraction = total * 10000 ^ k := by
        apply Nat.eq_of_mul_eq_mul_right hscale
        calc m * 10000 ^ fraction * 10 ^ scale = m * 10 ^ scale * 10000 ^ fraction := by ring
          _ = co * 10000 ^ fraction * 10000 ^ k := by rw [← hco']; ring
          _ = total * 10000 ^ k * 10 ^ scale := by rw [hvalue]; ring
      rcases Nat.le_total fraction k with hle | hle
      · -- more groups make the numerator larger
        obtain ⟨j, rfl⟩ := Nat.exists_eq_add_of_le hle
        have hm' : m = total * 10000 ^ j := by
          apply Nat.eq_of_mul_eq_mul_right (Nat.pow_pos (n := fraction) (by decide : 0 < 10000))
          rw [hcross, pow_add]
          ring
        have hfirst : total ≤ total * 10000 ^ j :=
          Nat.le_mul_of_pos_right _ (Nat.pow_pos (by decide))
        omega
      · -- fewer groups are not enough
        obtain ⟨j, rfl⟩ := Nat.exists_eq_add_of_le hle
        have htotal : total = m * 10000 ^ j := by
          apply Nat.eq_of_mul_eq_mul_right (Nat.pow_pos (n := k) (by decide : 0 < 10000))
          rw [← hcross, pow_add]
          ring
        cases j with
        | zero => omega
        | succ j =>
          refine absurd ⟨m * 10000 ^ j, ?_⟩ hdvd
          rw [htotal, pow_succ]
          ring

/-- The places of a decimal are those of its last group at most. -/
theorem places_le {co total a scale : Nat} (hvalue : co * 10 ^ a = total * 10 ^ scale)
    (hscale : scale ≤ 28) (hgroups : 4 ∣ a) (hdvd : ¬ 10000 ∣ total) : a ≤ 28 := by
  by_contra hlt
  obtain ⟨j, hj⟩ : ∃ j, a = scale + (j + 4) := ⟨a - scale - 4, by omega⟩
  apply hdvd
  refine ⟨co * 10 ^ j, ?_⟩
  apply Nat.eq_of_mul_eq_mul_right (Nat.pow_pos (n := scale) (by decide : 0 < 10))
  rw [← hvalue, hj, pow_add, pow_add]
  ring

variable {n : Numeric} {c : RustDecimal} {d : c.Decimal}

/-- The value of a decimal in the groups of an image. -/
theorem coefficient_image (hwire : n.Wire) (hvalue : c.value d = n.value) :
    (c.mantissa d).natAbs * 10000 ^ (-(n.weight - n.digits.length + 1)).toNat =
      groupValue 10000 n.digits * 10000 ^ (n.weight - n.digits.length + 1).toNat *
        10 ^ c.scale d := by
  have hpayload : payload n.image = n := (format_image hwire).2
  have hlength : ((payload n.image).digits.length : Int) = (header n.image).ndigits := by
    rw [hpayload, hwire.header_image]
  have hnat := congrArg Int.natAbs
    ((value_eq_payload_iff hlength d).mp (hvalue.trans (congrArg Numeric.value hpayload.symm)))
  have hten : Int.natAbs 10 = 10 := rfl
  have hgroups : (10000 : Nat) = 10 ^ 4 := by decide
  have hfraction : (-exponent n.image).toNat =
      4 * (-(n.weight - n.digits.length + 1)).toNat := by
    rw [hwire.exponent_image]
    omega
  have hwhole : (exponent n.image).toNat = 4 * (n.weight - n.digits.length + 1).toNat := by
    rw [hwire.exponent_image]
    omega
  rw [Int.natAbs_mul, Int.natAbs_mul, Int.natAbs_mul, natAbs_signedTotal, Int.natAbs_pow,
    Int.natAbs_pow, Int.natAbs_pow, hten, hfraction, hwhole, pow_mul, pow_mul,
    hwire.total_image] at hnat
  rw [hgroups]
  exact hnat

/-- The digits behind the scale shown are zeros. -/
theorem dscale_dvd (hcanonical : n.Canonical) (hwire : n.Wire) :
    10 ^ ((-exponent n.image).toNat - n.dscale) ∣ groupValue 10000 n.digits := by
  obtain ⟨m, hm⟩ := hcanonical.exact
  have hbase : (10000 : Rat) = 10 ^ (4 : Int) := by norm_num
  have hexp : (10000 : Rat) ^ (n.weight - n.digits.length + 1) = 10 ^ exponent n.image := by
    rw [hbase, ← zpow_mul, hwire.exponent_image, Int.mul_comm]
  rw [Numeric.magnitude, hexp] at hm
  rcases Nat.lt_or_ge n.dscale (-exponent n.image).toNat with hlt | hge
  · obtain ⟨j, hj⟩ := Nat.exists_eq_add_of_lt hlt
    have hsub : (-exponent n.image).toNat - n.dscale = j + 1 := by omega
    have hpow : (10 : Rat) ^ (-exponent n.image).toNat ≠ 0 := pow_ne_zero _ (by decide)
    rw [zpow_of_nonpos (by omega), mul_one_div, div_mul_eq_mul_div, div_eq_iff hpow] at hm
    refine ⟨m, ?_⟩
    apply Nat.eq_of_mul_eq_mul_right (Nat.pow_pos (n := n.dscale) (by decide : 0 < 10))
    have hnat : groupValue 10000 n.digits * 10 ^ n.dscale =
        m * 10 ^ (-exponent n.image).toNat := by exact_mod_cast hm
    rw [hnat, hsub, hj, pow_add, pow_add, pow_add]
    ring
  · rw [Nat.sub_eq_zero_of_le hge, pow_zero]
    exact one_dvd _

/-- Of the decimals that the server sends, the decoder can take those with no more than 96 bits of
groups. -/
theorem tractable_image_iff (hc : c.Lawful) (hcanonical : n.Canonical) (hwire : n.Wire)
    (hne : n.digits ≠ []) (hvalue : c.value d = n.value) :
    Tractable n.image ↔ c.FitsGroups d := by
  have hformat := (format_image hwire).1
  have hheader := hwire.header_image
  have htotal := hwire.total_image
  have hexp := hwire.exponent_image
  have hdvd := hcanonical.not_dvd hne
  have hco := coefficient_image hwire hvalue
  have hlength := hformat.length_eq
  have hsign := hformat.sign
  have hpos : 0 < n.digits.length := List.length_pos_iff.mpr hne
  have hequiv := total_lt_iff hco (by omega) hdvd (hc.mantissa_lt d)
  rw [hheader] at hlength hsign
  dsimp only at hlength hsign
  rw [RustDecimal.FitsGroups, ← hequiv, Tractable, hheader, htotal]
  dsimp only
  constructor
  · rintro (hshort | hnan | hcut | ⟨-, hlt, -⟩)
    · omega
    · omega
    · omega
    · exact hlt
  · intro hlt
    refine .inr (.inr (.inr ⟨by omega, hlt, .inr (.inr ⟨.inr ?_, hformat, fun _ =>
      dscale_dvd hcanonical hwire⟩)⟩))
    rcases Int.le_total 0 (exponent n.image) with hge | hle
    · omega
    · -- no places but those of the value
      have hwhole : (n.weight - n.digits.length + 1).toNat = 0 := by omega
      have hgroups : (10000 : Nat) = 10 ^ 4 := by decide
      have hplaces : (-exponent n.image).toNat =
          4 * (-(n.weight - n.digits.length + 1)).toNat := by omega
      rw [hwhole, pow_zero, Nat.mul_one, hgroups, ← pow_mul, ← hplaces] at hco
      exact places_le hco (hc.scale_le d) ⟨_, hplaces⟩ hdvd

/-- A NUMERIC is decoded to the value of a decimal when it is decoded exactly. -/
theorem decodes_iff (hwire : n.Wire) (hvalue : c.value d = n.value) :
    (∃ e, decimalFromBinary c oid.numeric n.image = .ok e ∧ c.value d = c.value e) ↔
      DecodedExactly c n.image := by
  rw [DecodedExactly]
  cases decimalFromBinary c oid.numeric n.image with
  | ok e =>
    constructor
    · rintro ⟨e', he', hsame⟩
      cases he'
      exact ⟨n, ⟨hwire, rfl⟩, hsame.symm.trans hvalue⟩
    · rintro ⟨n', hn', hsame⟩
      obtain ⟨-, rfl⟩ := exists_image_iff.mp hn'
      rw [(format_image hwire).2] at hsame
      exact ⟨e, rfl, hvalue.trans hsame.symm⟩
  | err e =>
    refine iff_of_false (fun h => ?_) fun h => h.2 n ⟨hwire, rfl⟩ d hvalue
    obtain ⟨_, h, -⟩ := h
    cases h
  | halt =>
    refine iff_of_false (fun h => ?_) fun h => h
    obtain ⟨_, h, -⟩ := h
    cases h

theorem decimal_image (hc : c.Lawful) (hcanonical : n.Canonical) (hwire : n.Wire)
    (hvalue : c.value d = n.value) :
    (∃ e, decimalFromBinary c oid.numeric n.image = .ok e ∧ c.value d = c.value e) ↔
      c.FitsGroups d := by
  rw [decodes_iff hwire hvalue]
  have hformat := (format_image hwire).1
  have hheader := hwire.header_image
  have hlength := hformat.length_eq
  have hsign := hformat.sign
  have hnan : (header n.image).sign ≠ 0xC000 := by omega
  by_cases hnil : n.digits = []
  · -- zero has no groups
    have hzero : (header n.image).ndigits = 0 := by
      rw [hheader, hnil]
      rfl
    have hrun : decimalFromBinary c oid.numeric n.image = .ok c.zero := by
      rw [decimalFromBinary, if_neg (by simp), if_neg (by omega)]
      simp only [hnan, hzero, if_false, if_true]
    have hn : n.value = 0 := by simp [Numeric.value, Numeric.magnitude, hnil]
    have hd : (c.mantissa d).natAbs = 0 := by
      have hco := coefficient_image hwire hvalue
      rw [hnil, groupValue_nil, Nat.zero_mul, Nat.zero_mul] at hco
      exact (Nat.mul_eq_zero.mp hco).resolve_right (Nat.pow_pos (by decide)).ne'
    refine iff_of_true ((decodes_iff hwire hvalue).mp ⟨_, hrun, ?_⟩) ⟨0, 0, by decide, ?_⟩
    · rw [hvalue, hn]
      simp [RustDecimal.value, hc.mantissa_zero]
    · rw [hd, Nat.zero_mul, Nat.zero_mul]
  · have hpos : 0 < n.digits.length := List.length_pos_iff.mpr hnil
    have hndigits : (header n.image).ndigits = n.digits.length := by rw [hheader]
    rw [exact_iff_of_pos hc (by omega) hnan (by omega) (by omega)]
    exact tractable_image_iff hc hcanonical hwire hnil hvalue

end DecimalBinary

end ZeroPostgres
