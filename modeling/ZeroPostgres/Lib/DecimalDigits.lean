import Mathlib.Algebra.Order.Group.Nat
import Mathlib.Tactic.Ring

/-!
# Decimal digits of fixed width

`pad w n` is the last `w` decimal digits of `n`, zeros in front: the text of a group of digits that
is not the first one. A number is the text of its leading part followed by such groups
(`toDigits_append_pad`), and reading the text with `Nat.ofDigitChars` gives the number back. A list
of groups is the number `groupValue` makes of them, and `pointed` is a number with a decimal point.
-/

namespace ZeroPostgres.DecimalDigits

/-- The last `w` decimal digits of a number. -/
def pad : Nat → Nat → List Char
  | 0, _ => []
  | w + 1, n => pad w (n / 10) ++ [Nat.digitChar (n % 10)]

@[simp] theorem length_pad (w n : Nat) : (pad w n).length = w := by
  induction w generalizing n with
  | zero => rfl
  | succ w ih => simp [pad, ih]

theorem pad_mod (w n : Nat) : pad w (n % 10 ^ w) = pad w n := by
  induction w generalizing n with
  | zero => rfl
  | succ w ih =>
    have hdiv : n % 10 ^ (w + 1) / 10 = n / 10 % 10 ^ w := by
      rw [pow_succ, Nat.mul_comm, Nat.mod_mul_right_div_self]
    have hmod : n % 10 ^ (w + 1) % 10 = n % 10 :=
      Nat.mod_mod_of_dvd n (Dvd.intro_left (10 ^ w) rfl)
    rw [pad, pad, hdiv, hmod, ih]

/-- The digits of a wide group are those of its two halves. -/
theorem pad_add (v w n : Nat) : pad (v + w) n = pad v (n / 10 ^ w) ++ pad w n := by
  induction w generalizing n with
  | zero => simp [pad]
  | succ w ih =>
    have hdiv : n / 10 / 10 ^ w = n / 10 ^ (w + 1) := by
      rw [Nat.div_div_eq_div_mul, pow_succ, Nat.mul_comm]
    rw [← Nat.add_assoc, pad, ih, hdiv, List.append_assoc, pad]

theorem pad_append (v w : Nat) {m n : Nat} (hn : n < 10 ^ w) :
    pad v m ++ pad w n = pad (v + w) (m * 10 ^ w + n) := by
  have hpos : 0 < 10 ^ w := Nat.pow_pos (by decide)
  have hdiv : (m * 10 ^ w + n) / 10 ^ w = m := by
    rw [Nat.add_comm, Nat.add_mul_div_right _ _ hpos, Nat.div_eq_of_lt hn, Nat.zero_add]
  have hmod : (m * 10 ^ w + n) % 10 ^ w = n := by
    rw [Nat.add_comm, Nat.add_mul_mod_self_right, Nat.mod_eq_of_lt hn]
  rw [pad_add, hdiv, ← pad_mod w (m * 10 ^ w + n), hmod]

theorem pad_zero (w : Nat) : pad w 0 = List.replicate w '0' := by
  induction w with
  | zero => rfl
  | succ w ih => rw [pad, Nat.zero_div, ih, List.replicate_succ']; rfl

/-- Digits after a number are the low digits of a longer one. -/
theorem toDigits_append_pad (w : Nat) {m n : Nat} (hm : 0 < m) (hn : n < 10 ^ w) :
    Nat.toDigits 10 m ++ pad w n = Nat.toDigits 10 (m * 10 ^ w + n) := by
  induction w generalizing n with
  | zero =>
    obtain rfl : n = 0 := by omega
    simp [pad]
  | succ w ih =>
    have hquot : n / 10 < 10 ^ w := by
      rw [pow_succ] at hn
      omega
    have hlead : 0 < m * 10 ^ w + n / 10 :=
      Nat.lt_of_lt_of_le (Nat.mul_pos hm (Nat.pow_pos (by decide))) (Nat.le_add_right _ _)
    have hlast : [Nat.digitChar (n % 10)] = Nat.toDigits 10 (n % 10) :=
      (Nat.toDigits_of_lt_base (Nat.mod_lt _ (by decide))).symm
    rw [pad, ← List.append_assoc, ih hquot, hlast,
      Nat.toDigits_append_toDigits (by decide) hlead (Nat.mod_lt _ (by decide))]
    congr 1
    have hsplit := Nat.div_add_mod n 10
    rw [pow_succ]
    calc 10 * (m * 10 ^ w + n / 10) + n % 10
        = m * (10 ^ w * 10) + (10 * (n / 10) + n % 10) := by ring
      _ = m * (10 ^ w * 10) + n := by rw [hsplit]

/-- Zeros in front of a number that fits make it a group of that width. -/
theorem replicate_append_toDigits {w n : Nat} (hw : 0 < w) (hn : n < 10 ^ w) :
    List.replicate (w - (Nat.toDigits 10 n).length) '0' ++ Nat.toDigits 10 n = pad w n := by
  induction w generalizing n with
  | zero => exact absurd hw (Nat.lt_irrefl 0)
  | succ w ih =>
    by_cases hsmall : n < 10
    · rw [Nat.toDigits_of_lt_base hsmall, pad, Nat.div_eq_of_lt hsmall, pad_zero,
        Nat.mod_eq_of_lt hsmall]
      rfl
    · have hw' : 0 < w := by
        rcases Nat.eq_zero_or_pos w with rfl | h
        · exact absurd hn hsmall
        · exact h
      have hquot : n / 10 < 10 ^ w := by
        rw [pow_succ] at hn
        omega
      rw [Nat.toDigits_of_base_le (by decide) (Nat.le_of_not_lt hsmall), List.length_append,
        List.length_singleton, Nat.add_sub_add_right, ← List.append_assoc, ih hw' hquot, pad]

/-! ### Groups of digits -/

/-- The number whose digits in the given base are listed, the first one leading. -/
def groupValue (base : Nat) (ds : List Nat) : Nat := ds.foldl (fun acc d => acc * base + d) 0

theorem foldl_groupValue (base acc : Nat) (ds : List Nat) :
    ds.foldl (fun acc d => acc * base + d) acc = acc * base ^ ds.length + groupValue base ds := by
  induction ds generalizing acc with
  | nil => simp [groupValue]
  | cons d ds ih =>
    have htail : groupValue base (d :: ds) = d * base ^ ds.length + groupValue base ds := by
      rw [groupValue, List.foldl_cons, ih, Nat.zero_mul, Nat.zero_add]
    rw [List.foldl_cons, ih, htail, List.length_cons, pow_succ]
    ring

@[simp] theorem groupValue_nil (base : Nat) : groupValue base [] = 0 := rfl

theorem groupValue_append (base : Nat) (xs ys : List Nat) :
    groupValue base (xs ++ ys) = groupValue base xs * base ^ ys.length + groupValue base ys := by
  rw [groupValue, List.foldl_append, foldl_groupValue]
  rfl

theorem groupValue_cons (base d : Nat) (ds : List Nat) :
    groupValue base (d :: ds) = d * base ^ ds.length + groupValue base ds := by
  have hsingle : groupValue base [d] = d := by simp [groupValue]
  rw [← List.singleton_append, groupValue_append, hsingle]

theorem groupValue_lt {base : Nat} {ds : List Nat} (h : ∀ d ∈ ds, d < base) :
    groupValue base ds < base ^ ds.length := by
  induction ds with
  | nil => exact Nat.one_pos
  | cons d ds ih =>
    obtain ⟨hd, hds⟩ := List.forall_mem_cons.mp h
    have htail := ih hds
    rw [groupValue_cons, List.length_cons, pow_succ]
    calc d * base ^ ds.length + groupValue base ds
        < d * base ^ ds.length + base ^ ds.length := Nat.add_lt_add_left htail _
      _ = (d + 1) * base ^ ds.length := by ring
      _ ≤ base * base ^ ds.length := Nat.mul_le_mul_right _ hd
      _ = base ^ ds.length * base := Nat.mul_comm _ _

/-- The text of groups one after the other is that of their value. -/
theorem flatMap_pad {w : Nat} {ds : List Nat} (h : ∀ d ∈ ds, d < 10 ^ w) :
    ds.flatMap (pad w) = pad (w * ds.length) (groupValue (10 ^ w) ds) := by
  induction ds with
  | nil => rfl
  | cons d ds ih =>
    obtain ⟨-, hds⟩ := List.forall_mem_cons.mp h
    have hlt := groupValue_lt hds
    rw [← pow_mul] at hlt
    rw [List.flatMap_cons, ih hds, pad_append _ _ hlt, groupValue_cons, ← pow_mul,
      List.length_cons]
    congr 1
    ring

/-! ### Decimal fractions -/

/-- Cutting a group or writing zeros behind it changes the scale of its number. -/
theorem take_pad_append {w s n m : Nat} (h : n * 10 ^ s = m * 10 ^ w) :
    (pad w n).take s ++ List.replicate (s - w) '0' = pad s m := by
  have hpos : ∀ k, 0 < 10 ^ k := fun k => Nat.pow_pos (by decide)
  by_cases hs : s ≤ w
  · obtain ⟨k, rfl⟩ := Nat.exists_eq_add_of_le hs
    have hn : n = m * 10 ^ k := by
      refine Nat.eq_of_mul_eq_mul_right (hpos s) (h.trans ?_)
      rw [pow_add]
      ring
    rw [pad_add, List.take_left' (length_pad s _), Nat.sub_eq_zero_of_le hs, hn,
      Nat.mul_div_cancel _ (hpos k), List.replicate_zero, List.append_nil]
  · obtain ⟨k, rfl⟩ := Nat.exists_eq_add_of_le (Nat.le_of_not_le hs)
    have hm : m = n * 10 ^ k + 0 := by
      refine Nat.eq_of_mul_eq_mul_right (hpos w) (h.symm.trans ?_)
      rw [pow_add]
      ring
    rw [List.take_of_length_le (by simp), Nat.add_sub_cancel_left, ← pad_zero,
      pad_append w k (hpos k), hm]

/-- A number with a point before its last `scale` digits. -/
def pointed (coefficient scale : Nat) : List Char :=
  if scale = 0 then Nat.toDigits 10 coefficient
  else Nat.toDigits 10 (coefficient / 10 ^ scale) ++ '.' :: pad scale coefficient

/-! ### Reading -/

theorem ofDigitChars_pad (w n : Nat) : Nat.ofDigitChars 10 (pad w n) 0 = n % 10 ^ w := by
  induction w generalizing n with
  | zero => simp [pad, Nat.mod_one]
  | succ w ih =>
    rw [pad, Nat.ofDigitChars_append, ih,
      Nat.ofDigitChars_cons_digitChar_of_lt_ten (Nat.mod_lt _ (by decide)), Nat.ofDigitChars_nil,
      pow_succ, Nat.mul_comm (10 ^ w), Nat.mod_mul]
    ring

theorem isDigit_of_mem_pad {w n : Nat} {c : Char} (h : c ∈ pad w n) : c.isDigit = true := by
  induction w generalizing n with
  | zero => cases h
  | succ w ih =>
    rcases List.mem_append.mp h with hfront | hlast
    · exact ih hfront
    · obtain rfl := List.mem_singleton.mp hlast
      have hdigit : Nat.digitChar (n % 10) ∈ Nat.toDigits 10 (n % 10) := by
        rw [Nat.toDigits_of_lt_base (Nat.mod_lt _ (by decide))]
        exact List.mem_singleton_self _
      exact Nat.isDigit_of_mem_toDigits (by decide) (by decide) hdigit

end ZeroPostgres.DecimalDigits
