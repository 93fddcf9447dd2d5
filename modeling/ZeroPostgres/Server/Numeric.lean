import Mathlib.Algebra.Field.Rat
import Mathlib.Data.List.TakeWhile
import Mathlib.Tactic.FieldSimp
import ZeroPostgres.Server.Values

/-!
# NUMERIC values of the server

A finite NUMERIC is a list of digits in base 10000, the power of the first of them, a sign and the
number of decimal digits shown. `image` is what `numeric_send` makes of it and `out` the text of
`numeric_out`, which `numeric_in` reads as the value again.
-/

namespace ZeroPostgres

namespace Datum

/-! ### Reading text -/

/-- A string without null bytes is read back, and no other. -/
theorem utf8_utf8Bytes (s : String) :
    utf8 (utf8Bytes s) = if 0 ∈ utf8Bytes s then none else some s := by
  have hread : String.fromUTF8? s.toByteArray = some s := by
    simp [String.fromUTF8?, String.fromUTF8, s.isValidUTF8]
  rw [utf8]
  by_cases h : 0 ∈ utf8Bytes s
  · rw [if_pos h, if_pos h]
  · rw [if_neg h, if_neg h, utf8Bytes, Array.toArray_toList, hread]

/-- The digits of a decimal number, its point and its sign are no null bytes. -/
theorem utf8EncodeChar_digit {c : Char} (h : c.isDigit = true ∨ c = '.' ∨ c = '-') :
    0 ∉ String.utf8EncodeChar c := by
  rcases h with hdigit | rfl | rfl
  · have hrange : 48 ≤ c.toNat ∧ c.toNat ≤ 57 := Char.isDigit_iff_toNat.mp hdigit
    have hsize : c.utf8Size = 1 := by
      rw [Char.utf8Size_eq_one_iff, UInt32.le_iff_toNat_le]
      exact Nat.le_trans hrange.2 (by decide)
    rw [String.utf8EncodeChar_eq_singleton hsize, List.mem_singleton]
    intro hzero
    have hval : c.val.toUInt8.toNat = c.toNat % 256 := rfl
    rw [← hzero] at hval
    have hbad : 0 = c.toNat % 256 := hval
    omega
  · decide +kernel
  · decide +kernel

/-- Digits that end at something else are read as digits. -/
theorem decimalIn_digits {cs : List Char} (hdigits : ∀ c ∈ cs, c.isDigit = true) (hne : cs ≠ []) :
    decimalIn cs = some (Nat.ofDigitChars 10 cs 0 : Rat) := by
  have htake : cs.takeWhile Char.isDigit = cs := List.takeWhile_eq_self_iff.mpr hdigits
  have hdrop : cs.dropWhile Char.isDigit = [] := List.dropWhile_eq_nil_iff.mpr hdigits
  simp [decimalIn, htake, hdrop, hne]

/-- Digits around a point are read as the number over a power of ten. -/
theorem decimalIn_point {whole fraction : List Char} (hwhole : ∀ c ∈ whole, c.isDigit = true)
    (hne : whole ≠ []) (hfraction : ∀ c ∈ fraction, c.isDigit = true) :
    decimalIn (whole ++ '.' :: fraction) =
      some (Nat.ofDigitChars 10 (whole ++ fraction) 0 / (10 : Rat) ^ fraction.length) := by
  have htake : (whole ++ '.' :: fraction).takeWhile Char.isDigit = whole := by
    rw [List.takeWhile_append_of_pos hwhole, List.takeWhile_cons_of_neg (by decide),
      List.append_nil]
  have hdrop : (whole ++ '.' :: fraction).dropWhile Char.isDigit = '.' :: fraction := by
    rw [List.dropWhile_append_of_pos hwhole, List.dropWhile_cons_of_neg (by decide)]
  have hall : fraction.all Char.isDigit = true := List.all_eq_true.mpr hfraction
  rw [decimalIn, htake, hdrop]
  simp [hall, hne]

/-- The text of a number is digits, at most one point and a sign. -/
theorem mem_signedText {negative : Bool} {coefficient scale : Nat} {c : Char}
    (h : c ∈ signedText negative coefficient scale) : c.isDigit = true ∨ c = '.' ∨ c = '-' := by
  rw [signedText, List.mem_append] at h
  rcases h with hsign | hdigits
  · by_cases hneg : negative = true
    · rw [if_pos hneg, List.mem_singleton] at hsign
      exact .inr (.inr hsign)
    · rw [if_neg hneg] at hsign
      cases hsign
  · rw [DecimalDigits.pointed] at hdigits
    by_cases hscale : scale = 0
    · rw [if_pos hscale] at hdigits
      exact .inl (Nat.isDigit_of_mem_toDigits (by decide) (by decide) hdigits)
    · rw [if_neg hscale, List.mem_append, List.mem_cons] at hdigits
      rcases hdigits with hwhole | rfl | hfraction
      · exact .inl (Nat.isDigit_of_mem_toDigits (by decide) (by decide) hwhole)
      · exact .inr (.inl rfl)
      · exact .inl (DecimalDigits.isDigit_of_mem_pad hfraction)

theorem zero_not_mem_signedText (negative : Bool) (coefficient scale : Nat) :
    0 ∉ utf8Bytes (String.ofList (signedText negative coefficient scale)) := by
  rw [utf8Bytes, String.toByteArray_ofList, List.utf8Encode, List.data_toByteArray,
    List.mem_flatMap]
  rintro ⟨c, hc, hzero⟩
  exact utf8EncodeChar_digit (mem_signedText hc) hzero

/-- A number with a point is read as the number over the power of ten of its scale. -/
theorem decimalIn_pointed (coefficient scale : Nat) :
    decimalIn (DecimalDigits.pointed coefficient scale) =
      some (coefficient / (10 : Rat) ^ scale) := by
  have hdigits : ∀ n, ∀ c ∈ Nat.toDigits 10 n, c.isDigit = true := fun n c hc =>
    Nat.isDigit_of_mem_toDigits (by decide) (by decide) hc
  rw [DecimalDigits.pointed]
  by_cases hscale : scale = 0
  · rw [if_pos hscale, decimalIn_digits (hdigits _) Nat.toDigits_ne_nil,
      Nat.ofDigitChars_ten_toDigits, hscale, pow_zero, div_one]
  · rw [if_neg hscale, decimalIn_point (hdigits _) Nat.toDigits_ne_nil
      fun c hc => DecimalDigits.isDigit_of_mem_pad hc]
    have hvalue : Nat.ofDigitChars 10 (Nat.toDigits 10 (coefficient / 10 ^ scale) ++
        DecimalDigits.pad scale coefficient) 0 = coefficient := by
      rw [Nat.ofDigitChars_append, Nat.ofDigitChars_ten_toDigits,
        Nat.ofDigitChars_eq_ofDigitChars_zero, DecimalDigits.ofDigitChars_pad,
        DecimalDigits.length_pad, Nat.div_add_mod]
    rw [hvalue, DecimalDigits.length_pad]

/-- `numeric_in` reads a signed number back. -/
theorem numericIn_signedText (negative : Bool) (coefficient scale : Nat) :
    numericIn (utf8Bytes (String.ofList (signedText negative coefficient scale))) =
      some (numeric ((if negative then -1 else 1) * (coefficient / (10 : Rat) ^ scale))) := by
  have hread := decimalIn_pointed coefficient scale
  rw [numericIn, utf8_utf8Bytes, if_neg (zero_not_mem_signedText negative coefficient scale)]
  simp only [String.toList_ofList, signedText]
  cases negative with
  | true => simp [hread]
  | false =>
    generalize DecimalDigits.pointed coefficient scale = cs at hread
    have hhead : ∀ rest, cs ≠ '-' :: rest := by
      rintro rest rfl
      simp [decimalIn] at hread
    simp only [Bool.false_eq_true, if_false, List.nil_append]
    rw [hread, Option.map_some, one_mul]

end Datum

/-! ### Values -/

/-- A finite NUMERIC as it travels. -/
structure Numeric where
  digits : List Nat
  weight : Int
  negative : Bool
  dscale : Nat
deriving DecidableEq, Repr

namespace Numeric

/-- The value without its sign. -/
def magnitude (n : Numeric) : Rat :=
  DecimalDigits.groupValue 10000 n.digits * (10000 : Rat) ^ (n.weight - n.digits.length + 1)

/-- The value. -/
def value (n : Numeric) : Rat := (if n.negative then -1 else 1) * n.magnitude

/-- The sign field. -/
def sign (n : Numeric) : Nat := if n.negative then 0x4000 else 0

/-- What `numeric_send` writes. -/
def image (n : Numeric) : Bytes :=
  BigEndian.bytes 2 n.digits.length ++ BigEndian.intBytes 2 n.weight ++
    BigEndian.bytes 2 n.sign ++ BigEndian.bytes 2 n.dscale ++
    n.digits.flatMap (BigEndian.bytes 2)

/-- The magnitude in units of the last digit shown. -/
def scaled (n : Numeric) : Nat := (n.magnitude * (10 : Rat) ^ n.dscale).floor.toNat

/-- What `numeric_out` prints: the sign, the whole part and as many decimal digits as the display
scale says. -/
def out (n : Numeric) : List Char := signedText n.negative n.scaled n.dscale

/-- The fields are within the ranges of the format. -/
structure Wire (n : Numeric) : Prop where
  digit_lt : ∀ d ∈ n.digits, d < 10000
  count_lt : n.digits.length < 2 ^ 15
  weight_fits : BigEndian.Fits 2 n.weight
  dscale_lt : n.dscale < 2 ^ 14

/-- A NUMERIC as the server keeps it: no group of zeros at either end, no digit lost in display, and
no sign on zero. -/
structure Canonical (n : Numeric) : Prop where
  digit_lt : ∀ d ∈ n.digits, d < 10000
  head_ne : n.digits.head? ≠ some 0
  last_ne : n.digits.getLast? ≠ some 0
  count_lt : n.digits.length < 2 ^ 15
  weight_fits : BigEndian.Fits 2 n.weight
  dscale_lt : n.dscale < 2 ^ 15
  exact : ∃ m : Nat, n.magnitude * (10 : Rat) ^ n.dscale = m
  unsigned : n.digits = [] → n.negative = false

theorem scaled_eq {n : Numeric} {m : Nat} (h : n.magnitude * (10 : Rat) ^ n.dscale = m) :
    n.scaled = m := by
  rw [scaled, h, ← Int.cast_natCast, Rat.floor_intCast, Int.toNat_natCast]

/-- The text of a canonical NUMERIC is its exact value. -/
theorem numericIn_out {n : Numeric} (h : n.Canonical) :
    Datum.numericIn (utf8Bytes (String.ofList n.out)) = some (.numeric n.value) := by
  obtain ⟨m, hm⟩ := h.exact
  have hten : (10 : Rat) ^ n.dscale ≠ 0 := pow_ne_zero _ (by decide)
  rw [out, Datum.numericIn_signedText, scaled_eq hm, ← hm, mul_div_assoc, div_self hten, mul_one,
    value]

end Numeric

end ZeroPostgres
