import Mathlib.Tactic.NormNum
import ZeroPostgres.Server.Numeric

/-!
# NUMERIC as text

`numeric_to_string`, `src/src/conversion/numeric_util.rs:22–157`: the loops over the digit groups,
with the text built so far and the number of fractional digits in it. Each loop has one lemma on the
text it leaves, as the text of the groups cut to the display scale; `numericToString_image` puts
them together.
-/

namespace ZeroPostgres

namespace NumericText

open DecimalDigits

/-- `format!("{:04}", d)`: the sign counts as one of the four places. -/
def format04 (d : Int) : List Char :=
  let digits := Nat.toDigits 10 d.natAbs
  if d < 0 then '-' :: (List.replicate (3 - digits.length) '0' ++ digits)
  else List.replicate (4 - digits.length) '0' ++ digits

/-- `d.to_string()`. -/
def toText (d : Int) : List Char :=
  if d < 0 then '-' :: Nat.toDigits 10 d.natAbs else Nat.toDigits 10 d.natAbs

/-- The header, lines 27–30. -/
structure Header where
  ndigits : Int
  weight : Int
  sign : Nat
  dscale : Nat

/-- The first eight bytes. -/
def header (bytes : Bytes) : Header :=
  ⟨BigEndian.int (bytes.take 2), BigEndian.int ((bytes.drop 2).take 2),
    BigEndian.nat ((bytes.drop 4).take 2), BigEndian.nat ((bytes.drop 6).take 2)⟩

/-- The digit groups, lines 54–65; `total` is the length of the payload. -/
def readDigits (total : Nat) : Nat → Bytes → Parsed (List Int)
  | 0, _ => .ok []
  | n + 1, a :: b :: remaining =>
    (readDigits total n remaining).bind fun digits => .ok (BigEndian.int [a, b] :: digits)
  | _ + 1, _ => .err (.decode ("truncated NUMERIC data: " ++ toString total ++ " bytes"))

/-- `result` and `frac_digits_written`. -/
structure Written where
  result : List Char
  fracDigits : Nat

namespace Written

/-- `result.push_str(&s); frac_digits_written += 4`. -/
def pushGroup (w : Written) (s : List Char) : Written := ⟨w.result ++ s, w.fracDigits + 4⟩

/-- The characters of a group, while fewer digits than the scale are written. -/
def pushUpTo (dscale : Nat) : List Char → Written → Written
  | [], w => w
  | c :: cs, w =>
    pushUpTo dscale cs (if w.fracDigits < dscale then ⟨w.result ++ [c], w.fracDigits + 1⟩ else w)

/-- `while frac_digits_written < dscale`: zeros up to the scale. -/
def padTo (dscale : Nat) (w : Written) : Written :=
  ⟨w.result ++ List.replicate (dscale - w.fracDigits) '0', max w.fracDigits dscale⟩

end Written

/-- The loop of lines 88–102 over groups that all follow the point: only the last is cut. -/
def smallGroups (dscale : Nat) : List Int → Written → Written
  | [], w => w
  | [d], w =>
    if 0 < dscale then w.pushUpTo dscale (format04 d) else w.pushGroup (format04 d)
  | d :: e :: digits, w => smallGroups dscale (e :: digits) (w.pushGroup (format04 d))

/-- The loop of lines 121–124 over the whole part: the groups and places left, and the text. -/
def wholeGroups : Nat → List Int → List Char → Nat × List Int × List Char
  | places + 1, d :: digits, result => wholeGroups places digits (result ++ format04 d)
  | places, digits, result => (places, digits, result)

/-- The loop of lines 127–130: places of the whole part without a group. -/
def zeroGroups : Nat → List Char → List Char
  | 0, result => result
  | places + 1, result => zeroGroups places (result ++ "0000".toList)

/-- The loop of lines 137–146 over the fraction. -/
def fractionGroups (dscale : Nat) : List Int → Written → Written
  | [], w => w
  | d :: digits, w =>
    if w.fracDigits < dscale then fractionGroups dscale digits (w.pushUpTo dscale (format04 d))
    else w

/-- The branch of a value below 1, lines 79–107. -/
def smallText (weight : Int) (dscale : Nat) (digits : List Int) (result : List Char) : List Char :=
  let zeros := (-((weight + 1) * 4)).toNat
  let start : Written := ⟨result ++ "0.".toList ++ List.replicate zeros '0', zeros⟩
  ((smallGroups dscale digits start).padTo dscale).result

/-- The first group of the whole part, lines 110–117: it is written without zeros in front. What is
left are the places of the whole part and the groups. -/
def firstGroup (weight : Nat) : List Int → List Char → Nat × List Int × List Char
  | d :: digits, result => (weight, digits, result ++ toText d)
  | [], result => (weight + 1, [], result)

/-- The branch of a value with a whole part, lines 108–154. -/
def largeText (weight : Int) (dscale : Nat) (digits : List Int) (result : List Char) : List Char :=
  let first := firstGroup weight.toNat digits result
  let groups := wholeGroups first.1 first.2.1 first.2.2
  let whole := zeroGroups groups.1 groups.2.2
  if 0 < dscale then
    ((fractionGroups dscale groups.2.1 ⟨whole ++ ['.'], 0⟩).padTo dscale).result
  else whole

end NumericText

open NumericText DecimalDigits

/-- `numeric_to_string`. A negative number of digits asks for more memory than there is, which
panics. -/
def numericToString (bytes : Bytes) : Parsed String :=
  if bytes.length < 8 then .err (.decode ("invalid NUMERIC length: " ++ toString bytes.length))
  else
    let h := header bytes
    if h.sign = 0xC000 then .ok "NaN"
    else if h.sign = 0xD000 then .ok "Infinity"
    else if h.sign = 0xF000 then .ok "-Infinity"
    else if h.ndigits = 0 then
      if 0 < h.dscale then .ok (String.ofList ("0.".toList ++ List.replicate h.dscale '0'))
      else .ok "0"
    else if h.ndigits < 0 then .halt
    else
      (readDigits bytes.length h.ndigits.toNat (bytes.drop 8)).bind fun digits =>
        let result := if h.sign = 0x4000 then ['-'] else []
        .ok (String.ofList (
          if (h.weight + 1) * 4 ≤ 0 then smallText h.weight h.dscale digits result
          else largeText h.weight h.dscale digits result))

namespace NumericText

/-! ### Digits -/

theorem format04_natCast {d : Nat} (h : d < 10000) : format04 d = pad 4 d := by
  rw [format04, if_neg (by omega), Int.natAbs_natCast]
  exact replicate_append_toDigits (by decide) h

theorem toText_natCast (d : Nat) : toText d = Nat.toDigits 10 d := by
  rw [toText, if_neg (by omega), Int.natAbs_natCast]

/-- The groups of an image are read back. -/
theorem readDigits_image (total : Nat) {ds : List Nat} (h : ∀ d ∈ ds, d < 10000) :
    readDigits total ds.length (ds.flatMap (BigEndian.bytes 2)) =
      .ok (ds.map fun d : Nat => (d : Int)) := by
  induction ds with
  | nil => rfl
  | cons d ds ih =>
    obtain ⟨hd, hds⟩ := List.forall_mem_cons.mp h
    have hread : BigEndian.int (BigEndian.bytes 2 d) = (d : Nat) := by
      rw [BigEndian.int_eq_natCast_iff, BigEndian.length_bytes]
      exact ⟨by omega, rfl⟩
    rw [List.flatMap_cons, List.length_cons]
    show (readDigits total ds.length (ds.flatMap (BigEndian.bytes 2))).bind
      (fun digits => .ok (BigEndian.int (BigEndian.bytes 2 d) :: digits)) = _
    rw [ih hds, hread]
    rfl

/-! ### The loops -/

namespace Written

theorem pushUpTo_eq (dscale : Nat) (cs : List Char) (w : Written) :
    w.pushUpTo dscale cs = ⟨w.result ++ cs.take (dscale - w.fracDigits),
      w.fracDigits + (cs.take (dscale - w.fracDigits)).length⟩ := by
  induction cs generalizing w with
  | nil => simp [pushUpTo]
  | cons c cs ih =>
    rw [pushUpTo, ih]
    by_cases h : w.fracDigits < dscale
    · obtain ⟨k, hk⟩ : ∃ k, dscale - w.fracDigits = k + 1 := ⟨dscale - w.fracDigits - 1, by omega⟩
      have hrest : dscale - (w.fracDigits + 1) = k := by omega
      rw [if_pos h]
      simp only [hrest, hk, List.take_succ_cons, List.length_cons, List.append_assoc,
        List.singleton_append, Written.mk.injEq, true_and]
      omega
    · have hzero : dscale - w.fracDigits = 0 := by omega
      rw [if_neg h, hzero, List.take_zero, List.take_zero]

end Written

/-- The text after the point is `fraction`, and as many digits are counted. -/
def AfterPoint (front fraction : List Char) (w : Written) : Prop :=
  w = ⟨front ++ fraction, fraction.length⟩

variable {front fraction : List Char} {w : Written}

theorem AfterPoint.pushGroup (h : AfterPoint front fraction w) {s : List Char}
    (hs : s.length = 4) : AfterPoint front (fraction ++ s) (w.pushGroup s) := by
  rw [AfterPoint] at h ⊢
  rw [h, Written.pushGroup, List.append_assoc, List.length_append, hs]

theorem AfterPoint.pushUpTo (h : AfterPoint front fraction w) (dscale : Nat) (s : List Char) :
    AfterPoint front (fraction ++ s.take (dscale - fraction.length)) (w.pushUpTo dscale s) := by
  rw [AfterPoint] at h ⊢
  rw [h, Written.pushUpTo_eq, List.append_assoc, List.length_append]

theorem AfterPoint.padTo (h : AfterPoint front fraction w) (dscale : Nat) :
    (w.padTo dscale).result =
      front ++ (fraction ++ List.replicate (dscale - fraction.length) '0') := by
  rw [AfterPoint] at h
  rw [h, Written.padTo, List.append_assoc]

/-- The loop over the fraction writes the groups up to the scale. -/
theorem AfterPoint.fractionGroups (h : AfterPoint front fraction w) (dscale : Nat)
    {ds : List Nat} (hds : ∀ d ∈ ds, d < 10000) :
    AfterPoint front (fraction ++ (ds.flatMap (pad 4)).take (dscale - fraction.length))
      (fractionGroups dscale (ds.map fun d : Nat => (d : Int)) w) := by
  induction ds generalizing fraction w with
  | nil => simpa [NumericText.fractionGroups] using h
  | cons d ds ih =>
    obtain ⟨hd, hds⟩ := List.forall_mem_cons.mp hds
    have hcount : w.fracDigits = fraction.length := by rw [h]
    rw [List.map_cons, NumericText.fractionGroups, hcount, format04_natCast hd]
    by_cases hlt : fraction.length < dscale
    · have hrest := ih (h.pushUpTo dscale (pad 4 d)) hds
      rw [if_pos hlt, List.flatMap_cons, List.take_append, ← List.append_assoc]
      have hcut : dscale - (fraction ++ (pad 4 d).take (dscale - fraction.length)).length =
          dscale - fraction.length - (pad 4 d).length := by
        rw [List.length_append, List.length_take]
        omega
      rwa [hcut] at hrest
    · have hzero : dscale - fraction.length = 0 := by omega
      rw [if_neg hlt, hzero, List.take_zero, List.append_nil]
      exact h

/-- The loop over the groups of a value below 1, where only the last one passes the scale. -/
theorem AfterPoint.smallGroups (h : AfterPoint front fraction w) {dscale : Nat} {ds : List Nat}
    (hds : ∀ d ∈ ds, d < 10000) (hne : ds ≠ [])
    (hscale : fraction.length + 4 * (ds.length - 1) < dscale) :
    AfterPoint front ((fraction ++ ds.flatMap (pad 4)).take dscale)
      (smallGroups dscale (ds.map fun d : Nat => (d : Int)) w) := by
  induction ds generalizing fraction w with
  | nil => exact absurd rfl hne
  | cons d ds ih =>
    obtain ⟨hd, hds⟩ := List.forall_mem_cons.mp hds
    cases ds with
    | nil =>
      have hpush := h.pushUpTo dscale (pad 4 d)
      have hlen : fraction.length < dscale := by simpa using hscale
      rw [List.map_cons, List.map_nil, NumericText.smallGroups, if_pos (by omega),
        format04_natCast hd, List.flatMap_singleton, List.take_append,
        List.take_of_length_le (Nat.le_of_lt hlen)]
      exact hpush
    | cons e ds =>
      have hpush := h.pushGroup (length_pad 4 d)
      have hrest := ih hpush hds (List.cons_ne_nil e ds) (by
        simp only [List.length_append, length_pad, List.length_cons] at hscale ⊢
        omega)
      rw [List.map_cons, List.map_cons, NumericText.smallGroups, format04_natCast hd,
        List.flatMap_cons, ← List.append_assoc]
      exact hrest

/-- The loops over the whole part write the groups that belong to it, and zeros for those that are
not there. -/
theorem wholeGroups_eq (places : Nat) {ds : List Nat} (hds : ∀ d ∈ ds, d < 10000)
    (result : List Char) :
    wholeGroups places (ds.map fun d : Nat => (d : Int)) result =
      (places - ds.length, (ds.drop places).map fun d : Nat => (d : Int),
        result ++ (ds.take places).flatMap (pad 4)) := by
  induction places generalizing ds result with
  | zero => simp [wholeGroups]
  | succ places ih =>
    cases ds with
    | nil => simp [wholeGroups]
    | cons d ds =>
      obtain ⟨hd, hds⟩ := List.forall_mem_cons.mp hds
      rw [List.map_cons, wholeGroups, ih hds, format04_natCast hd]
      simp

theorem zeroGroups_eq (places : Nat) (result : List Char) :
    zeroGroups places result = result ++ pad (4 * places) 0 := by
  induction places generalizing result with
  | zero => simp [zeroGroups, pad]
  | succ places ih =>
    rw [zeroGroups, ih, pad_zero, pad_zero, Nat.mul_succ, Nat.add_comm, List.replicate_add,
      List.append_assoc]
    rfl

/-! ### Values -/

/-- The value in units of the last digit shown, for powers of ten on both sides that make up for the
power of the last group. -/
theorem groupValue_scaled {n : Numeric} {m p q : Nat}
    (hm : n.magnitude * (10 : Rat) ^ n.dscale = m)
    (hpower : 4 * (n.weight - n.digits.length + 1) = (p : Int) - q) :
    groupValue 10000 n.digits * 10 ^ p * 10 ^ n.dscale = m * 10 ^ q := by
  have hten : (10 : Rat) ≠ 0 := by decide
  have hexp : (10000 : Rat) ^ (n.weight - n.digits.length + 1) = 10 ^ p / 10 ^ q := by
    have hbase : (10000 : Rat) = 10 ^ (4 : Int) := by norm_num
    rw [hbase, ← zpow_mul, hpower, zpow_sub₀ hten, zpow_natCast, zpow_natCast]
  rw [Numeric.magnitude, hexp] at hm
  have hq : (10 : Rat) ^ q ≠ 0 := pow_ne_zero _ hten
  have hrat : (groupValue 10000 n.digits : Rat) * 10 ^ p * 10 ^ n.dscale = m * 10 ^ q := by
    rw [← hm]
    field_simp
  exact_mod_cast hrat

/-- The groups before and behind the point. -/
theorem groupValue_split (w d : Nat) (rest : List Nat) :
    groupValue 10000 (d :: rest) * 10 ^ (4 * (w - rest.length)) =
      (d * 10 ^ (4 * w) + groupValue 10000 (rest.take w) * 10 ^ (4 * (w - rest.length))) *
        10 ^ (4 * (rest.length - w)) + groupValue 10000 (rest.drop w) := by
  have hbase : ∀ k, 10 ^ (4 * k) = 10000 ^ k := fun k => pow_mul 10 4 k
  simp only [hbase]
  by_cases h : rest.length ≤ w
  · obtain ⟨k, rfl⟩ := Nat.exists_eq_add_of_le h
    rw [List.take_of_length_le h, List.drop_of_length_le h, Nat.sub_eq_zero_of_le h,
      Nat.add_sub_cancel_left, groupValue_cons, groupValue_nil, pow_add]
    ring
  · obtain ⟨k, hk⟩ := Nat.exists_eq_add_of_le (Nat.le_of_not_le h)
    have hparts := groupValue_append 10000 (rest.take w) (rest.drop w)
    rw [List.take_append_drop, List.length_drop, hk, Nat.add_sub_cancel_left] at hparts
    rw [groupValue_cons, hparts, hk, Nat.sub_eq_zero_of_le (Nat.le_add_right w k),
      Nat.add_sub_cancel_left, pow_add]
    ring

/-- A number of units splits as the value it counts does. -/
theorem exists_fraction {m whole fraction q s : Nat}
    (h : m * 10 ^ q = (whole * 10 ^ q + fraction) * 10 ^ s) (hlt : fraction < 10 ^ q) :
    ∃ f, m = whole * 10 ^ s + f ∧ f < 10 ^ s ∧ fraction * 10 ^ s = f * 10 ^ q := by
  have hq : 0 < 10 ^ q := Nat.pow_pos (by decide)
  have hs : 0 < 10 ^ s := Nat.pow_pos (by decide)
  have hle : whole * 10 ^ s ≤ m := by
    refine Nat.le_of_mul_le_mul_right ?_ hq
    calc whole * 10 ^ s * 10 ^ q = whole * 10 ^ q * 10 ^ s := by ring
      _ ≤ (whole * 10 ^ q + fraction) * 10 ^ s := Nat.mul_le_mul_right _ (Nat.le_add_right _ _)
      _ = m * 10 ^ q := h.symm
  obtain ⟨f, rfl⟩ := Nat.exists_eq_add_of_le hle
  have hfraction : fraction * 10 ^ s = f * 10 ^ q := by
    have hsum : whole * 10 ^ s * 10 ^ q + f * 10 ^ q =
        whole * 10 ^ s * 10 ^ q + fraction * 10 ^ s := by
      rw [← Nat.add_mul, h]
      ring
    exact (Nat.add_left_cancel hsum).symm
  refine ⟨f, rfl, Nat.lt_of_mul_lt_mul_right (a := 10 ^ q) ?_, hfraction⟩
  rw [← hfraction, Nat.mul_comm (10 ^ s)]
  exact Nat.mul_lt_mul_of_pos_right hlt hs

variable {n : Numeric} {m : Nat}

/-- The digits shown reach into the last group, which is not zero. -/
theorem lt_dscale (h : n.Canonical) (hne : n.digits ≠ []) {zeros : Nat}
    (hscaled : groupValue 10000 n.digits * 10 ^ n.dscale = m * 10 ^ (zeros + 4 * n.digits.length)) :
    zeros + 4 * (n.digits.length - 1) < n.dscale := by
  obtain ⟨front, last, hsplit⟩ : ∃ front last, n.digits = front ++ [last] :=
    ⟨_, _, (List.dropLast_append_getLast hne).symm⟩
  have hlast : last ≠ 0 := by
    rintro rfl
    exact h.last_ne (by rw [hsplit, List.getLast?_concat])
  have hlt : last < 10000 := h.digit_lt last (by rw [hsplit]; simp)
  by_contra hscale
  -- otherwise the last group is a whole multiple of 10000
  have hlen : 0 < n.digits.length := List.length_pos_iff.mpr hne
  obtain ⟨k, hk⟩ : ∃ k, zeros + 4 * n.digits.length = n.dscale + (k + 4) :=
    ⟨zeros + 4 * n.digits.length - n.dscale - 4, by omega⟩
  have hvalue : groupValue 10000 n.digits = m * 10 ^ k * 10000 := by
    refine Nat.eq_of_mul_eq_mul_right (Nat.pow_pos (n := n.dscale) (by decide : 0 < 10)) ?_
    rw [hscaled, hk, pow_add, pow_add]
    ring
  rw [hsplit, groupValue_append, List.length_singleton, pow_one] at hvalue
  have hsingle : groupValue 10000 [last] = last := by simp [groupValue]
  omega

/-- A value below 1. -/
theorem smallText_eq (h : n.Canonical) (hne : n.digits ≠ []) (hweight : (n.weight + 1) * 4 ≤ 0)
    (hm : n.magnitude * (10 : Rat) ^ n.dscale = m) (result : List Char) :
    smallText n.weight n.dscale (n.digits.map fun d : Nat => (d : Int)) result =
      result ++ pointed m n.dscale := by
  obtain ⟨zeros, hzeros⟩ : ∃ zeros : Nat, (-((n.weight + 1) * 4)).toNat = zeros := ⟨_, rfl⟩
  have hscaled := groupValue_scaled hm (p := 0) (q := zeros + 4 * n.digits.length) (by omega)
  rw [pow_zero, Nat.mul_one] at hscaled
  have hscale := lt_dscale h hne hscaled
  have hvalue_lt : groupValue 10000 n.digits < 10 ^ (4 * n.digits.length) := by
    rw [pow_mul]
    exact groupValue_lt h.digit_lt
  -- the text of all groups behind the zeros is that of one number
  have hgroups : List.replicate zeros '0' ++ n.digits.flatMap (pad 4) =
      pad (zeros + 4 * n.digits.length) (groupValue 10000 n.digits) := by
    have happend := pad_append zeros (4 * n.digits.length) (m := 0) hvalue_lt
    rw [pad_zero, Nat.zero_mul, Nat.zero_add] at happend
    rw [flatMap_pad h.digit_lt]
    exact happend
  have hsmall : m < 10 ^ n.dscale := by
    refine Nat.lt_of_mul_lt_mul_right (a := 10 ^ (zeros + 4 * n.digits.length)) ?_
    calc m * 10 ^ (zeros + 4 * n.digits.length)
        = groupValue 10000 n.digits * 10 ^ n.dscale := hscaled.symm
      _ < 10 ^ (4 * n.digits.length) * 10 ^ n.dscale :=
        Nat.mul_lt_mul_of_pos_right hvalue_lt (Nat.pow_pos (by decide))
      _ ≤ 10 ^ (zeros + 4 * n.digits.length) * 10 ^ n.dscale :=
        Nat.mul_le_mul_right _ (Nat.pow_le_pow_right (by decide) (Nat.le_add_left _ _))
      _ = 10 ^ n.dscale * 10 ^ (zeros + 4 * n.digits.length) := Nat.mul_comm _ _
  have hstart : AfterPoint (result ++ "0.".toList) (List.replicate zeros '0')
      ⟨result ++ "0.".toList ++ List.replicate zeros '0', zeros⟩ := by
    rw [AfterPoint, List.length_replicate]
  have hend := (hstart.smallGroups h.digit_lt hne
    (by rw [List.length_replicate]; exact hscale)).padTo n.dscale
  have hlength : n.dscale - ((pad (zeros + 4 * n.digits.length)
      (groupValue 10000 n.digits)).take n.dscale).length =
      n.dscale - (zeros + 4 * n.digits.length) := by
    rw [List.length_take, length_pad]
    omega
  rw [hgroups, hlength, take_pad_append hscaled] at hend
  rw [smallText, hzeros, hend, pointed, if_neg (by omega), Nat.div_eq_of_lt hsmall,
    List.append_assoc]
  rfl

/-- A value with a whole part. -/
theorem largeText_eq (h : n.Canonical) (hne : n.digits ≠ []) (hweight : ¬ (n.weight + 1) * 4 ≤ 0)
    (hm : n.magnitude * (10 : Rat) ^ n.dscale = m) (result : List Char) :
    largeText n.weight n.dscale (n.digits.map fun d : Nat => (d : Int)) result =
      result ++ pointed m n.dscale := by
  obtain ⟨d, rest, hdigits⟩ := List.exists_cons_of_ne_nil hne
  obtain ⟨w, hw⟩ : ∃ w : Nat, n.weight.toNat = w := ⟨_, rfl⟩
  have hlt := h.digit_lt
  rw [hdigits] at hlt
  obtain ⟨-, hrest⟩ := List.forall_mem_cons.mp hlt
  have hd : 0 < d := by
    refine Nat.pos_of_ne_zero ?_
    rintro rfl
    exact h.head_ne (by rw [hdigits]; rfl)
  have hscaled := groupValue_scaled hm (p := 4 * (w - rest.length)) (q := 4 * (rest.length - w)) (by
    rw [hdigits, List.length_cons]
    omega)
  obtain ⟨whole, hwhole⟩ : ∃ whole, d * 10 ^ (4 * w) + groupValue 10000 (rest.take w) *
      10 ^ (4 * (w - rest.length)) = whole := ⟨_, rfl⟩
  rw [hdigits, groupValue_split, hwhole] at hscaled
  have hfraction_lt : groupValue 10000 (rest.drop w) < 10 ^ (4 * (rest.length - w)) := by
    rw [pow_mul, ← List.length_drop]
    exact groupValue_lt fun d hd => hrest d (List.mem_of_mem_drop hd)
  obtain ⟨f, rfl, hf, hcut⟩ := exists_fraction hscaled.symm hfraction_lt
  -- the whole part
  have htext : toText d ++ (rest.take w).flatMap (pad 4) ++ pad (4 * (w - rest.length)) 0 =
      Nat.toDigits 10 whole := by
    have htake : ∀ d ∈ rest.take w, d < 10 ^ 4 := fun d hd => hrest d (List.mem_of_mem_take hd)
    have hgroups : (rest.take w).flatMap (pad 4) =
        pad (4 * (rest.take w).length) (groupValue 10000 (rest.take w)) := flatMap_pad htake
    have hlow : groupValue 10000 (rest.take w) < 10 ^ (4 * (rest.take w).length) := by
      rw [pow_mul]
      exact groupValue_lt htake
    have hwidth : 4 * (rest.take w).length + 4 * (w - rest.length) = 4 * w := by
      rw [List.length_take]
      omega
    have hshift : groupValue 10000 (rest.take w) * 10 ^ (4 * (w - rest.length)) < 10 ^ (4 * w) := by
      rw [← hwidth, pow_add]
      exact Nat.mul_lt_mul_of_pos_right hlow (Nat.pow_pos (by decide))
    rw [List.append_assoc, hgroups, pad_append _ _ (Nat.pow_pos (by decide)), Nat.add_zero, hwidth,
      toText_natCast, toDigits_append_pad _ hd hshift, hwhole]
  -- the fraction
  have hstart : AfterPoint (result ++ Nat.toDigits 10 whole ++ ['.']) []
      ⟨result ++ Nat.toDigits 10 whole ++ ['.'], 0⟩ := by
    rw [AfterPoint, List.append_nil]
    rfl
  have hdrop : ∀ d ∈ rest.drop w, d < 10 ^ 4 := fun d hd => hrest d (List.mem_of_mem_drop hd)
  have hgroups : (rest.drop w).flatMap (pad 4) =
      pad (4 * (rest.drop w).length) (groupValue 10000 (rest.drop w)) := flatMap_pad hdrop
  have hend := (hstart.fractionGroups n.dscale hdrop).padTo n.dscale
  have hlength : n.dscale - ((pad (4 * (rest.length - w))
      (groupValue 10000 (rest.drop w))).take n.dscale).length =
      n.dscale - 4 * (rest.length - w) := by
    rw [List.length_take, length_pad]
    omega
  rw [List.nil_append, List.length_nil, Nat.sub_zero, hgroups, List.length_drop, hlength,
    take_pad_append hcut] at hend
  have hpos : 0 < 10 ^ n.dscale := Nat.pow_pos (by decide)
  have hquot : (whole * 10 ^ n.dscale + f) / 10 ^ n.dscale = whole := by
    rw [Nat.add_comm, Nat.add_mul_div_right _ _ hpos, Nat.div_eq_of_lt hf, Nat.zero_add]
  have hmod : pad n.dscale (whole * 10 ^ n.dscale + f) = pad n.dscale f := by
    rw [← pad_mod, Nat.add_comm, Nat.add_mul_mod_self_right, Nat.mod_eq_of_lt hf]
  have hrun : result ++ toText d ++ (rest.take w).flatMap (pad 4) ++ pad (4 * (w - rest.length)) 0 =
      result ++ Nat.toDigits 10 whole := by
    rw [← htext]
    simp only [List.append_assoc]
  rw [largeText, hw, hdigits, List.map_cons, firstGroup]
  simp only [wholeGroups_eq w hrest, zeroGroups_eq, hrun]
  by_cases hdscale : 0 < n.dscale
  · rw [if_pos hdscale, hend, pointed, if_neg (by omega), hquot, hmod]
    simp only [List.append_assoc, List.singleton_append]
  · have hzero : n.dscale = 0 := by omega
    rw [hzero, pow_zero] at hf
    obtain rfl : f = 0 := by omega
    rw [if_neg hdscale, pointed, if_pos hzero, hzero, pow_zero, Nat.mul_one, Nat.add_zero]

/-! ### Images -/

/-- The fields of the header are two bytes each. -/
theorem header_append {a b c d : Bytes} (rest : Bytes) (ha : a.length = 2) (hb : b.length = 2)
    (hc : c.length = 2) (hd : d.length = 2) :
    header (a ++ b ++ c ++ d ++ rest) =
        ⟨BigEndian.int a, BigEndian.int b, BigEndian.nat c, BigEndian.nat d⟩ ∧
      (a ++ b ++ c ++ d ++ rest).drop 8 = rest := by
  obtain ⟨_, _, rfl⟩ := List.length_eq_two.mp ha
  obtain ⟨_, _, rfl⟩ := List.length_eq_two.mp hb
  obtain ⟨_, _, rfl⟩ := List.length_eq_two.mp hc
  obtain ⟨_, _, rfl⟩ := List.length_eq_two.mp hd
  exact ⟨rfl, rfl⟩

/-- The header and the groups of an image. -/
theorem header_image (hcount : n.digits.length < 2 ^ 15) (hweight : BigEndian.Fits 2 n.weight)
    (hdscale : n.dscale < 2 ^ 15) :
    header n.image = ⟨n.digits.length, n.weight, n.sign, n.dscale⟩ ∧
      n.image.drop 8 = n.digits.flatMap (BigEndian.bytes 2) := by
  have hcount : BigEndian.int (BigEndian.bytes 2 n.digits.length) = n.digits.length := by
    rw [BigEndian.int_eq_natCast_iff, BigEndian.length_bytes]
    exact ⟨by omega, rfl⟩
  have hsign : BigEndian.nat (BigEndian.bytes 2 n.sign) = n.sign := by
    refine BigEndian.nat_bytes_of_lt ?_
    unfold Numeric.sign
    split <;> decide
  have hdscale : BigEndian.nat (BigEndian.bytes 2 n.dscale) = n.dscale :=
    BigEndian.nat_bytes_of_lt (Nat.lt_trans hdscale (by decide))
  have hparts := header_append (n.digits.flatMap (BigEndian.bytes 2))
    (BigEndian.length_bytes 2 n.digits.length) (BigEndian.length_intBytes 2 n.weight)
    (BigEndian.length_bytes 2 n.sign) (BigEndian.length_bytes 2 n.dscale)
  rwa [hcount, BigEndian.int_intBytes hweight, hsign, hdscale] at hparts

/-- Zero has no groups: it is written as a zero and the digits the scale asks for. -/
theorem out_zero (h : n.Canonical) (hnil : n.digits = []) :
    n.out = if 0 < n.dscale then "0.".toList ++ List.replicate n.dscale '0' else "0".toList := by
  have hm : n.magnitude * (10 : Rat) ^ n.dscale = (0 : Nat) := by
    simp [Numeric.magnitude, hnil]
  have hsign : (if n.negative then ['-'] else ([] : List Char)) = [] := by
    rw [h.unsigned hnil]
    rfl
  rw [Numeric.out, signedText, hsign, Numeric.scaled_eq hm, List.nil_append, pointed]
  by_cases hdscale : 0 < n.dscale
  · rw [if_pos hdscale, if_neg (by omega), Nat.zero_div, pad_zero]
    rfl
  · rw [if_neg hdscale, if_pos (by omega)]
    rfl

end NumericText

/-- A canonical NUMERIC is printed as the server prints it, which is its exact value. -/
theorem numericToString_image {n : Numeric} (h : n.Canonical) :
    numericToString n.image = .ok (String.ofList n.out) ∧
      Datum.numericIn (utf8Bytes (String.ofList n.out)) = some (.numeric n.value) := by
  refine ⟨?_, Numeric.numericIn_out h⟩
  obtain ⟨hheader, hdrop⟩ := header_image h.count_lt h.weight_fits h.dscale_lt
  have hlen : ¬ n.image.length < 8 := by
    simp [Numeric.image]
    omega
  have hsign : n.sign ≠ 0xC000 ∧ n.sign ≠ 0xD000 ∧ n.sign ≠ 0xF000 := by
    unfold Numeric.sign
    split <;> decide
  rw [numericToString, if_neg hlen]
  simp only [hheader, hdrop, hsign, if_false]
  by_cases hnil : n.digits = []
  · have hzero : (n.digits.length : Int) = 0 := by simp [hnil]
    rw [if_pos hzero, out_zero h hnil]
    by_cases hdscale : 0 < n.dscale
    · rw [if_pos hdscale, if_pos hdscale]
    · rw [if_neg hdscale, if_neg hdscale]
      rfl
  · have hpos : 0 < n.digits.length := List.length_pos_iff.mpr hnil
    obtain ⟨m, hm⟩ := h.exact
    have hnegative : (if n.sign = 0x4000 then ['-'] else []) =
        if n.negative then ['-'] else ([] : List Char) := by
      unfold Numeric.sign
      cases n.negative <;> rfl
    rw [if_neg (by omega), if_neg (by omega), Int.toNat_natCast,
      readDigits_image _ h.digit_lt, hnegative, Numeric.out, signedText, Numeric.scaled_eq hm]
    simp only [Outcome.bind]
    by_cases hweight : (n.weight + 1) * 4 ≤ 0
    · rw [if_pos hweight, smallText_eq h hnil hweight hm]
    · rw [if_neg hweight, largeText_eq h hnil hweight hm]

/-- -1234.5 with three digits shown. -/
def sampleNumeric : Numeric := ⟨[1234, 5000], 0, true, 3⟩

theorem sampleNumeric_canonical : sampleNumeric.Canonical where
  digit_lt := by decide
  head_ne := by decide
  last_ne := by decide
  count_lt := by decide
  weight_fits := by decide
  dscale_lt := by decide
  exact := ⟨1234500, by
    norm_num [sampleNumeric, Numeric.magnitude, groupValue]⟩
  unsigned := by decide

theorem numericToString_image_negative :
    numericToString sampleNumeric.image = .ok (String.ofList sampleNumeric.out) ∧
      Datum.numericIn (utf8Bytes (String.ofList sampleNumeric.out)) =
        some (.numeric sampleNumeric.value) :=
  numericToString_image sampleNumeric_canonical

end ZeroPostgres
