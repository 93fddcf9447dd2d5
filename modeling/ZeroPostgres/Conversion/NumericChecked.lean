import ZeroPostgres.Conversion.NumericText
import ZeroPostgres.Lib.Checked

/-!
# NUMERIC as text, with machine arithmetic

`numeric_to_string` once more, `src/src/conversion/numeric_util.rs:22–157`, with the counters as the
integers of the source: every addition, index and capacity is one that can panic, and every loop is
one that might not end. Each loop leaves what the loop of `NumericText` leaves, so the two agree,
and the only call that panics is the allocation for a negative number of digits.
-/

namespace ZeroPostgres

namespace NumericText

/-- `result` and `frac_digits_written`, an `i32`. -/
structure Counted where
  result : List Char
  fracDigits : Int

/-- The same with the counter as a machine integer. -/
def Written.counted (w : Written) : Counted := ⟨w.result, w.fracDigits⟩

/-- `result` and `d_idx`, a `usize`. -/
structure Indexed where
  dIdx : Nat
  result : List Char

/-! ### The header and the digits -/

theorem readDigits_ne_halt (total n : Nat) (bs : Bytes) : readDigits total n bs ≠ .halt := by
  intro h
  induction n generalizing bs with
  | zero => cases h
  | succ n ih =>
    match bs with
    | [] | [_] => cases h
    | a :: b :: remaining =>
      rw [readDigits] at h
      cases hrest : readDigits total n remaining with
      | ok digits =>
        rw [hrest] at h
        cases h
      | err e =>
        rw [hrest] at h
        cases h
      | halt => exact ih remaining hrest

/-- The digits read are as many as asked for, each an `i16`. -/
theorem readDigits_ok {total n : Nat} {bs : Bytes} {digits : List Int}
    (h : readDigits total n bs = .ok digits) :
    digits.length = n ∧ ∀ d ∈ digits, BigEndian.Fits 2 d := by
  induction n generalizing bs digits with
  | zero =>
    cases h
    exact ⟨rfl, fun d hd => absurd hd List.not_mem_nil⟩
  | succ n ih =>
    match bs with
    | [] | [_] => cases h
    | a :: b :: remaining =>
      obtain ⟨rest, hrest, hdigits⟩ := Outcome.bind_eq_ok_iff.mp h
      cases hdigits
      obtain ⟨hlen, hfits⟩ := ih hrest
      exact ⟨by rw [List.length_cons, hlen],
        List.forall_mem_cons.mpr ⟨BigEndian.fits_int [a, b], hfits⟩⟩

variable {bytes : Bytes}

theorem fits_ndigits (h : 8 ≤ bytes.length) : BigEndian.Fits 2 (header bytes).ndigits := by
  have hlen : (bytes.take 2).length = 2 := by rw [List.length_take]; omega
  have hfits := BigEndian.fits_int (bytes.take 2)
  rwa [hlen] at hfits

theorem fits_weight (h : 8 ≤ bytes.length) : BigEndian.Fits 2 (header bytes).weight := by
  have hlen : ((bytes.drop 2).take 2).length = 2 := by
    rw [List.length_take, List.length_drop]
    omega
  have hfits := BigEndian.fits_int ((bytes.drop 2).take 2)
  rwa [hlen] at hfits

theorem dscale_lt (h : 8 ≤ bytes.length) : (header bytes).dscale < 2 ^ 16 := by
  have hlen : ((bytes.drop 6).take 2).length = 2 := by
    rw [List.length_take, List.length_drop]
    omega
  have hlt := BigEndian.nat_lt ((bytes.drop 6).take 2)
  rwa [hlen] at hlt

namespace Machine

open Checked

/-- The characters of a group, lines 92–97 and 139–144. -/
def pushUpTo (dscale : Int) : List Char → Counted → Parsed Counted
  | [], w => .ok w
  | c :: cs, w =>
    if w.fracDigits < dscale then do
      let written ← signed 4 (w.fracDigits + 1)
      pushUpTo dscale cs ⟨w.result ++ [c], written⟩
    else pushUpTo dscale cs w

/-- `while frac_digits_written < dscale`, lines 104–107 and 149–152. -/
def padTo (dscale : Int) (w : Counted) : Parsed Counted :=
  whileLoop (fun w => w.fracDigits < dscale)
    (fun w => do
      let written ← signed 4 (w.fracDigits + 1)
      .ok ⟨w.result ++ ['0'], written⟩)
    ((dscale - w.fracDigits).toNat + 1) w

/-- The loop of lines 88–102, from index `i` on. -/
def smallGroups (ndigits : Nat) (dscale : Int) : Nat → List Int → Counted → Parsed Counted
  | _, [], w => .ok w
  | i, d :: digits, w => do
    let last ← unsigned 8 ((ndigits : Int) - 1)
    let pushed ← if i = last ∧ 0 < dscale then pushUpTo dscale (format04 d) w
      else do
        let written ← signed 4 (w.fracDigits + 4)
        .ok ⟨w.result ++ format04 d, written⟩
    smallGroups ndigits dscale (i + 1) digits pushed

/-- The branch of a value below 1, lines 79–107. -/
def smallText (ndigits : Nat) (intDigits dscale : Int) (digits : List Int) (result : List Char) :
    Parsed (List Char) := do
  let zeros ← signed 4 (-intDigits)
  let front := result ++ "0.".toList ++ List.replicate zeros.toNat '0'
  let groups ← smallGroups ndigits dscale 0 digits ⟨front, zeros⟩
  let padded ← padTo dscale groups
  .ok padded.result

/-- The first digit group, lines 110–117. -/
def firstGroup (ndigits : Nat) (digits : List Int) (result : List Char) : Parsed Indexed :=
  if 0 < ndigits then do
    let d ← index digits 0
    let next ← unsigned 8 (0 + 1)
    .ok ⟨next, result ++ toText d⟩
  else .ok ⟨0, result⟩

/-- The loop of lines 121–124. -/
def wholeGroups (ndigits full : Nat) (digits : List Int) (s : Indexed) : Parsed Indexed :=
  whileLoop (fun s => s.dIdx ≤ full && s.dIdx < ndigits)
    (fun s => do
      let d ← index digits s.dIdx
      let next ← unsigned 8 (s.dIdx + 1)
      .ok ⟨next, s.result ++ format04 d⟩)
    (full + 2) s

/-- The loop of lines 127–130. -/
def zeroGroups (full : Nat) (s : Indexed) : Parsed Indexed :=
  whileLoop (fun s => s.dIdx ≤ full)
    (fun s => do
      let next ← unsigned 8 (s.dIdx + 1)
      .ok ⟨next, s.result ++ "0000".toList⟩)
    (full + 2) s

/-- The loop of lines 137–146. -/
def fractionGroups (ndigits : Nat) (dscale : Int) (digits : List Int) (s : Nat × Counted) :
    Parsed (Nat × Counted) :=
  whileLoop (fun s => s.1 < ndigits && s.2.fracDigits < dscale)
    (fun s => do
      let d ← index digits s.1
      let pushed ← pushUpTo dscale (format04 d) s.2
      let next ← unsigned 8 (s.1 + 1)
      .ok (next, pushed))
    (ndigits + 1) s

/-- The branch of a value with a whole part, lines 108–154. -/
def largeText (ndigits : Nat) (weight dscale : Int) (digits : List Int) (result : List Char) :
    Parsed (List Char) := do
  let first ← firstGroup ndigits digits result
  let full := asUsize weight
  let groups ← wholeGroups ndigits full digits first
  let whole ← zeroGroups full groups
  if 0 < dscale then do
    let fraction ← fractionGroups ndigits dscale digits (whole.dIdx, ⟨whole.result ++ ['.'], 0⟩)
    let padded ← padTo dscale fraction.2
    .ok padded.result
  else .ok whole.result

/-- `numeric_to_string`, lines 22–157. -/
def numericToString (bytes : Bytes) : Parsed String :=
  if bytes.length < 8 then .err (.decode ("invalid NUMERIC length: " ++ toString bytes.length))
  else
    let h := header bytes
    let ndigits := asUsize h.ndigits
    if h.sign = 0xC000 then .ok "NaN"
    else if h.sign = 0xD000 then .ok "Infinity"
    else if h.sign = 0xF000 then .ok "-Infinity"
    else if ndigits = 0 then
      if 0 < h.dscale then .ok (String.ofList ("0.".toList ++ List.replicate h.dscale '0'))
      else .ok "0"
    else do
      withCapacity 2 ndigits
      let digits ← readDigits bytes.length ndigits (bytes.drop 8)
      let result := if h.sign = 0x4000 then ['-'] else []
      let places ← signed 4 (h.weight + 1)
      let intDigits ← signed 4 (places * 4)
      let text ← if intDigits ≤ 0 then smallText ndigits intDigits h.dscale digits result
        else largeText ndigits h.weight h.dscale digits result
      .ok (String.ofList text)

/-! ### The loops -/

theorem pushUpTo_eq {dscale : Nat} (hscale : dscale < 2 ^ 31) (cs : List Char) (w : Written) :
    pushUpTo dscale cs w.counted = .ok (w.pushUpTo dscale cs).counted := by
  induction cs generalizing w with
  | nil => rfl
  | cons c cs ih =>
    rw [pushUpTo, Written.pushUpTo]
    by_cases h : w.fracDigits < dscale
    · have hcast : w.counted.fracDigits < dscale := Int.ofNat_lt.mpr h
      have hfits : BigEndian.Fits 4 (w.counted.fracDigits + 1) := by
        show BigEndian.Fits 4 ((w.fracDigits : Int) + 1)
        constructor <;> omega
      rw [if_pos hcast, if_pos h, signed_ok hfits, Outcome.bind_ok]
      exact ih ⟨w.result ++ [c], w.fracDigits + 1⟩
    · have hcast : ¬ w.counted.fracDigits < dscale := fun hlt => h (Int.ofNat_lt.mp hlt)
      rw [if_neg hcast, if_neg h]
      exact ih w

theorem padTo_eq {dscale : Nat} (hscale : dscale < 2 ^ 31) (w : Written) :
    padTo dscale w.counted = .ok (w.padTo dscale).counted := by
  -- each round writes one of the zeros that are missing
  obtain ⟨s, hs, ⟨v, rfl, hv⟩, hguard⟩ := whileLoop_ok
    (fun w : Counted => decide (w.fracDigits < dscale))
    (fun w => do
      let written ← signed 4 (w.fracDigits + 1)
      (.ok ⟨w.result ++ ['0'], written⟩ : Parsed Counted))
    (fun s => ∃ v : Written, s = v.counted ∧ v.padTo dscale = w.padTo dscale)
    (fun s => ((dscale : Int) - s.fracDigits).toNat)
    (by
      rintro s ⟨v, rfl, hv⟩ hguard
      have hlt : v.fracDigits < dscale := Int.ofNat_lt.mp (of_decide_eq_true hguard)
      have hfits : BigEndian.Fits 4 (v.counted.fracDigits + 1) := by
        show BigEndian.Fits 4 ((v.fracDigits : Int) + 1)
        constructor <;> omega
      refine ⟨(⟨v.result ++ ['0'], v.fracDigits + 1⟩ : Written).counted, ?_, ⟨_, rfl, ?_⟩, ?_⟩
      · rw [signed_ok hfits]
        rfl
      · obtain ⟨k, hk⟩ : ∃ k, dscale - v.fracDigits = k + 1 := ⟨_, (Nat.succ_pred (by omega)).symm⟩
        have hrest : dscale - (v.fracDigits + 1) = k := by omega
        rw [← hv, Written.padTo, Written.padTo, hk, hrest, List.append_assoc]
        congr 1
        show max (v.fracDigits + 1) dscale = max v.fracDigits dscale
        omega
      · show ((dscale : Int) - ((v.fracDigits + 1 : Nat) : Int)).toNat <
          ((dscale : Int) - (v.fracDigits : Int)).toNat
        omega)
    (⟨w, rfl, rfl⟩ : ∃ v : Written, w.counted = v.counted ∧ v.padTo dscale = w.padTo dscale)
    (Nat.lt_succ_self _)
  have hend : dscale ≤ v.fracDigits := by
    have := of_decide_eq_false hguard
    exact Nat.le_of_not_lt fun hlt => this (Int.ofNat_lt.mpr hlt)
  have hfixed : v.padTo dscale = v := by
    rw [Written.padTo, Nat.sub_eq_zero_of_le hend, Nat.max_eq_left hend]
    simp
  rw [padTo, ← hv, hfixed]
  exact hs

theorem smallGroups_eq {ndigits : Nat} (dscale : Nat) (hscale : dscale < 2 ^ 31)
    (hnd : ndigits < 2 ^ 63) {i : Nat} {digits : List Int} (hi : i + digits.length = ndigits)
    {w : Written}
    (hw : w.fracDigits + 4 * digits.length < 2 ^ 31) :
    smallGroups ndigits dscale i digits w.counted =
      .ok (NumericText.smallGroups dscale digits w).counted := by
  induction digits generalizing i w with
  | nil => rfl
  | cons d digits ih =>
    simp only [List.length_cons] at hi hw
    have hlast : ((ndigits : Int) - 1) = ((ndigits - 1 : Nat) : Int) := by omega
    have hfits : BigEndian.Fits 4 (w.counted.fracDigits + 4) := by
      show BigEndian.Fits 4 ((w.fracDigits : Int) + 4)
      constructor <;> omega
    have hgroup : (signed 4 (w.counted.fracDigits + 4) : Parsed Int) =
        .ok ((w.fracDigits + 4 : Nat) : Int) := signed_ok hfits
    rw [smallGroups, hlast, unsigned_ok (by omega), Outcome.bind_ok]
    cases digits with
    | nil =>
      rw [List.length_nil] at hi
      rw [NumericText.smallGroups]
      by_cases hpos : 0 < dscale
      · rw [if_pos ⟨by omega, by omega⟩, if_pos hpos, pushUpTo_eq hscale, Outcome.bind_ok]
        rfl
      · rw [if_neg (by omega), if_neg hpos, hgroup]
        rfl
    | cons e digits =>
      rw [List.length_cons] at hi
      rw [NumericText.smallGroups, if_neg (by omega), hgroup]
      exact ih (w := w.pushGroup (format04 d)) (by rw [List.length_cons]; omega) (by
        show w.fracDigits + 4 + 4 * (e :: digits).length < 2 ^ 31
        omega)

/-! ### The whole part and the fraction -/

theorem firstGroup_eq {ndigits : Nat} (weight : Nat) {digits : List Int}
    (hlen : digits.length = ndigits) (hpos : 0 < ndigits) (result : List Char) :
    ∃ text, firstGroup ndigits digits result = .ok ⟨1, text⟩ ∧
      NumericText.firstGroup weight digits result = (weight, digits.drop 1, text) := by
  cases digits with
  | nil => exact absurd hlen (by rw [List.length_nil]; omega)
  | cons d digits =>
    refine ⟨result ++ toText d, ?_, rfl⟩
    rw [firstGroup, if_pos hpos, index_ok (by rw [List.length_cons]; omega)]
    rfl

/-- The whole part as far as there are groups. The places and groups that `NumericText` has left are
those from the index on. -/
theorem wholeGroups_eq {ndigits : Nat} (full : Nat) {digits : List Int}
    (hlen : digits.length = ndigits) (hnd : ndigits < 2 ^ 63) (s : Indexed)
    (hs : s.dIdx ≤ ndigits) :
    ∃ s', wholeGroups ndigits full digits s = .ok s' ∧ s'.dIdx ≤ ndigits ∧
      (full < s'.dIdx ∨ s'.dIdx = ndigits) ∧
      NumericText.wholeGroups (full + 1 - s.dIdx) (digits.drop s.dIdx) s.result =
        (full + 1 - s'.dIdx, digits.drop s'.dIdx, s'.result) := by
  obtain ⟨s', hs', ⟨hle, hrest⟩, hguard⟩ := whileLoop_ok
    (fun s : Indexed => decide (s.dIdx ≤ full) && decide (s.dIdx < ndigits))
    (fun s => do
      let d ← index digits s.dIdx
      let next ← unsigned 8 ((s.dIdx : Int) + 1)
      (.ok ⟨next, s.result ++ format04 d⟩ : Parsed Indexed))
    (fun t => t.dIdx ≤ ndigits ∧
      NumericText.wholeGroups (full + 1 - t.dIdx) (digits.drop t.dIdx) t.result =
        NumericText.wholeGroups (full + 1 - s.dIdx) (digits.drop s.dIdx) s.result)
    (fun t => full + 1 - t.dIdx)
    (by
      rintro t ⟨hle, hrest⟩ hguard
      simp only [Bool.and_eq_true, decide_eq_true_eq] at hguard
      obtain ⟨hfull, hmore⟩ := hguard
      have hbound : t.dIdx < digits.length := by omega
      refine ⟨⟨t.dIdx + 1, t.result ++ format04 digits[t.dIdx]⟩, ?_,
        ⟨(hmore : t.dIdx + 1 ≤ ndigits), ?_⟩,
        (by omega : full + 1 - (t.dIdx + 1) < full + 1 - t.dIdx)⟩
      · have hnext : ((t.dIdx : Int) + 1) = ((t.dIdx + 1 : Nat) : Int) := rfl
        rw [index_ok hbound, hnext, unsigned_ok (by omega)]
        rfl
      · obtain ⟨k, hk⟩ : ∃ k, full + 1 - t.dIdx = k + 1 := ⟨_, (Nat.succ_pred (by omega)).symm⟩
        have hplaces : full + 1 - (t.dIdx + 1) = k := by omega
        rw [← hrest, hk, hplaces, List.drop_eq_getElem_cons hbound, NumericText.wholeGroups])
    (s := s) ⟨hs, rfl⟩ (by omega : full + 1 - s.dIdx < full + 2)
  have hend : full < s'.dIdx ∨ s'.dIdx = ndigits := by
    simp only [Bool.and_eq_false_iff, decide_eq_false_iff_not] at hguard
    omega
  refine ⟨s', hs', hle, hend, ?_⟩
  rw [← hrest]
  rcases hend with hfull | hall
  · rw [Nat.sub_eq_zero_of_le (by omega)]
    cases digits.drop s'.dIdx <;> rfl
  · rw [List.drop_eq_nil_of_le (by omega)]
    cases full + 1 - s'.dIdx <;> rfl

/-- The places that have no group. Where there are any, all groups have been written. -/
theorem zeroGroups_eq {full : Nat} (hfull : full < 2 ^ 63) (digits : List Int) (s : Indexed)
    (hs : full < s.dIdx ∨ digits.drop s.dIdx = []) :
    ∃ s', zeroGroups full s = .ok s' ∧ digits.drop s'.dIdx = digits.drop s.dIdx ∧
      s'.result = NumericText.zeroGroups (full + 1 - s.dIdx) s.result := by
  obtain ⟨s', hs', ⟨hdrop, hrest⟩, hguard⟩ := whileLoop_ok
    (fun s : Indexed => decide (s.dIdx ≤ full))
    (fun s => do
      let next ← unsigned 8 ((s.dIdx : Int) + 1)
      (.ok ⟨next, s.result ++ "0000".toList⟩ : Parsed Indexed))
    (fun t => (digits.drop t.dIdx = digits.drop s.dIdx ∧
        (full < t.dIdx ∨ digits.drop t.dIdx = [])) ∧
      NumericText.zeroGroups (full + 1 - t.dIdx) t.result =
        NumericText.zeroGroups (full + 1 - s.dIdx) s.result)
    (fun t => full + 1 - t.dIdx)
    (by
      rintro t ⟨⟨hdrop, hnone⟩, hrest⟩ hguard
      have hle : t.dIdx ≤ full := of_decide_eq_true hguard
      have hnil : digits.drop t.dIdx = [] := hnone.resolve_left (by omega)
      have hnext : digits.drop (t.dIdx + 1) = [] := by
        rw [List.drop_eq_nil_iff] at hnil ⊢
        omega
      refine ⟨⟨t.dIdx + 1, t.result ++ "0000".toList⟩, ?_,
        ⟨⟨hnext.trans (hnil.symm.trans hdrop), .inr hnext⟩, ?_⟩,
        (by omega : full + 1 - (t.dIdx + 1) < full + 1 - t.dIdx)⟩
      · have hcast : ((t.dIdx : Int) + 1) = ((t.dIdx + 1 : Nat) : Int) := rfl
        rw [hcast, unsigned_ok (by omega)]
        rfl
      · obtain ⟨k, hk⟩ : ∃ k, full + 1 - t.dIdx = k + 1 := ⟨_, (Nat.succ_pred (by omega)).symm⟩
        have hplaces : full + 1 - (t.dIdx + 1) = k := by omega
        rw [← hrest, hk, hplaces, NumericText.zeroGroups])
    (s := s) ⟨⟨rfl, hs⟩, rfl⟩ (by omega : full + 1 - s.dIdx < full + 2)
  have hend : full < s'.dIdx := Nat.lt_of_not_le (of_decide_eq_false hguard)
  rw [Nat.sub_eq_zero_of_le hend] at hrest
  exact ⟨s', hs', hdrop.1, hrest⟩

theorem fractionGroups_eq {ndigits : Nat} (dscale : Nat) (hscale : dscale < 2 ^ 31)
    {digits : List Int} (hlen : digits.length = ndigits) (hnd : ndigits < 2 ^ 63) (i : Nat)
    (w : Written) :
    ∃ j, fractionGroups ndigits dscale digits (i, w.counted) =
      .ok (j, (NumericText.fractionGroups dscale (digits.drop i) w).counted) := by
  obtain ⟨s, hs, ⟨v, hv, hrest⟩, hguard⟩ := whileLoop_ok
    (fun s : Nat × Counted => decide (s.1 < ndigits) && decide (s.2.fracDigits < dscale))
    (fun s => do
      let d ← index digits s.1
      let pushed ← pushUpTo dscale (format04 d) s.2
      let next ← unsigned 8 ((s.1 : Int) + 1)
      (.ok (next, pushed) : Parsed (Nat × Counted)))
    (fun s => ∃ v : Written, s.2 = v.counted ∧
      NumericText.fractionGroups dscale (digits.drop s.1) v =
        NumericText.fractionGroups dscale (digits.drop i) w)
    (fun s => ndigits - s.1)
    (by
      rintro ⟨j, c⟩ ⟨v, hv, hrest⟩ hguard
      obtain rfl : c = v.counted := hv
      simp only [Bool.and_eq_true, decide_eq_true_eq] at hguard
      obtain ⟨hmore, hlt⟩ := hguard
      have hlt : v.fracDigits < dscale := Int.ofNat_lt.mp hlt
      have hbound : j < digits.length := by omega
      refine ⟨(j + 1, (v.pushUpTo dscale (format04 digits[j])).counted), ?_, ⟨_, rfl, ?_⟩,
        (by omega : ndigits - (j + 1) < ndigits - j)⟩
      · have hcast : ((j : Int) + 1) = ((j + 1 : Nat) : Int) := rfl
        rw [index_ok hbound, Outcome.bind_ok, pushUpTo_eq hscale, Outcome.bind_ok, hcast,
          unsigned_ok (by omega)]
        rfl
      · rw [← hrest, List.drop_eq_getElem_cons hbound, NumericText.fractionGroups, if_pos hlt])
    (s := (i, w.counted)) ⟨w, rfl, rfl⟩ (by omega : ndigits - i < ndigits + 1)
  obtain ⟨j, c⟩ := s
  obtain rfl : c = v.counted := hv
  have hfixed : NumericText.fractionGroups dscale (digits.drop j) v = v := by
    simp only [Bool.and_eq_false_iff, decide_eq_false_iff_not] at hguard
    rcases hguard with hall | hwritten
    · rw [List.drop_eq_nil_of_le (by omega), NumericText.fractionGroups]
    · have hwritten : ¬ v.fracDigits < dscale := fun hlt => hwritten (Int.ofNat_lt.mpr hlt)
      cases digits.drop j with
      | nil => rfl
      | cons d digits => rw [NumericText.fractionGroups, if_neg hwritten]
  rw [hfixed] at hrest
  exact ⟨j, by rw [← hrest]; exact hs⟩

/-! ### The branches -/

variable {ndigits dscale : Nat} {digits : List Int}

theorem smallText_eq {weight : Int} (hweight : BigEndian.Fits 2 weight)
    (hsmall : (weight + 1) * 4 ≤ 0) (hscale : dscale < 2 ^ 16) (hlen : digits.length = ndigits)
    (hnd : ndigits < 2 ^ 15) (result : List Char) :
    smallText ndigits ((weight + 1) * 4) dscale digits result =
      .ok (NumericText.smallText weight dscale digits result) := by
  have hlow := hweight.1
  obtain ⟨zeros, hzeros⟩ : ∃ zeros : Nat, -((weight + 1) * 4) = zeros :=
    ⟨(-((weight + 1) * 4)).toNat, by omega⟩
  have hsigned : (signed 4 (zeros : Int) : Parsed Int) = .ok zeros :=
    signed_ok (by constructor <;> omega)
  have hgroups := smallGroups_eq dscale (by omega) (by omega : ndigits < 2 ^ 63)
    (by omega : 0 + digits.length = ndigits)
    (w := ⟨result ++ "0.".toList ++ List.replicate zeros '0', zeros⟩)
    (by show zeros + 4 * digits.length < 2 ^ 31; omega)
  rw [smallText, NumericText.smallText, hzeros, hsigned, Outcome.bind_ok, Int.toNat_natCast]
  show (smallGroups ndigits dscale 0 digits (Written.counted ⟨_, zeros⟩) >>= _) = _
  rw [hgroups, Outcome.bind_ok, padTo_eq (by omega)]
  rfl

theorem largeText_eq {weight : Int} (hweight : BigEndian.Fits 2 weight)
    (hlarge : ¬ (weight + 1) * 4 ≤ 0) (hscale : dscale < 2 ^ 16) (hlen : digits.length = ndigits)
    (hpos : 0 < ndigits) (hnd : ndigits < 2 ^ 15) (result : List Char) :
    largeText ndigits weight dscale digits result =
      .ok (NumericText.largeText weight dscale digits result) := by
  have hhigh := hweight.2
  obtain ⟨full, rfl⟩ : ∃ full : Nat, weight = full := ⟨weight.toNat, by omega⟩
  obtain ⟨text, hfirst, hfirst'⟩ := firstGroup_eq full hlen hpos result
  obtain ⟨groups, hgroups, hle, hend, hgroups'⟩ := wholeGroups_eq full hlen (by omega)
    ⟨1, text⟩ hpos
  obtain ⟨whole, hwhole, hdrop, hwhole'⟩ := zeroGroups_eq (by omega : full < 2 ^ 63)
    digits groups
    (hend.imp_right fun h => List.drop_eq_nil_of_le (by omega))
  rw [largeText, hfirst, Outcome.bind_ok, asUsize_natCast (by omega)]
  dsimp only
  rw [hgroups, Outcome.bind_ok, hwhole, Outcome.bind_ok, NumericText.largeText, Int.toNat_natCast,
    hfirst']
  simp only [Nat.add_sub_cancel] at hgroups'
  simp only [hgroups', ← hwhole', ← hdrop]
  have hcast : (0 : Int) < dscale ↔ 0 < dscale := by omega
  simp only [hcast]
  by_cases hfraction : 0 < dscale
  · obtain ⟨j, hj⟩ := fractionGroups_eq dscale (by omega) hlen (by omega) whole.dIdx
      ⟨whole.result ++ ['.'], 0⟩
    rw [if_pos hfraction, if_pos hfraction]
    show (fractionGroups ndigits dscale digits (whole.dIdx, Written.counted ⟨_, _⟩) >>= _) = _
    rw [hj, Outcome.bind_ok, padTo_eq (by omega)]
    rfl
  · rw [if_neg hfraction, if_neg hfraction]

/-! ### The whole function -/

/-- The two versions agree: no addition overflows, no index is out of
bounds, every loop ends, and the allocation for a negative number of digits panics. -/
theorem numericToString_eq (bytes : Bytes) :
    numericToString bytes = ZeroPostgres.numericToString bytes := by
  rw [numericToString, ZeroPostgres.numericToString]
  by_cases hshort : bytes.length < 8
  · rw [if_pos hshort, if_pos hshort]
  have hlen : 8 ≤ bytes.length := Nat.le_of_not_lt hshort
  have hnd := fits_ndigits hlen
  have hweight := fits_weight hlen
  have hscale := dscale_lt hlen
  rw [if_neg hshort, if_neg hshort]
  generalize header bytes = h at hnd hweight hscale
  dsimp only
  have hzero : asUsize h.ndigits = 0 ↔ h.ndigits = 0 := by
    rw [asUsize]
    obtain ⟨hlow, hhigh⟩ := hnd
    omega
  simp only [hzero]
  refine if_congr Iff.rfl rfl (if_congr Iff.rfl rfl (if_congr Iff.rfl rfl ?_))
  by_cases hnone : h.ndigits = 0
  · rw [if_pos hnone, if_pos hnone]
  rw [if_neg hnone, if_neg hnone]
  by_cases hneg : h.ndigits < 0
  · have hmuch : ¬ 2 * asUsize h.ndigits ≤ isizeMax := by
      rw [asUsize, isizeMax]
      have hlow := hnd.1
      omega
    rw [if_pos hneg, withCapacity, if_neg hmuch]
    rfl
  · obtain ⟨n, hn⟩ : ∃ n : Nat, h.ndigits = n := ⟨h.ndigits.toNat, by omega⟩
    have hhigh := hnd.2
    have hcap : 2 * n ≤ isizeMax := by
      rw [isizeMax]
      omega
    rw [if_neg hneg, hn, asUsize_natCast (by omega), Int.toNat_natCast, withCapacity, if_pos hcap,
      Outcome.bind_ok]
    cases hdigits : readDigits bytes.length n (bytes.drop 8) with
    | halt => exact absurd hdigits (readDigits_ne_halt _ _ _)
    | err e => rfl
    | ok digits =>
      obtain ⟨hcount, -⟩ := readDigits_ok hdigits
      have hlow := hweight.1
      have hup := hweight.2
      rw [Outcome.bind_ok, signed_ok (by constructor <;> omega), Outcome.bind_ok,
        signed_ok (by constructor <;> omega), Outcome.bind_ok]
      show _ = (Outcome.ok _ : Parsed String)
      by_cases hsmall : (h.weight + 1) * 4 ≤ 0
      · rw [if_pos hsmall, if_pos hsmall, smallText_eq hweight hsmall hscale hcount (by omega)]
        rfl
      · rw [if_neg hsmall, if_neg hsmall,
          largeText_eq hweight hsmall hscale hcount (by omega) (by omega)]
        rfl

end Machine

/-! ### The length of the text -/

open DecimalDigits

/-- A character takes at most four bytes. -/
theorem utf8ByteSize_ofList_le (cs : List Char) :
    (String.ofList cs).utf8ByteSize ≤ 4 * cs.length := by
  induction cs with
  | nil => simp
  | cons c cs ih =>
    have hc := c.utf8Size_le_four
    have hsingle : (String.ofList [c]).utf8ByteSize = c.utf8Size := by
      simp [← String.size_toByteArray, List.utf8Encode_singleton]
    have happend : String.ofList (c :: cs) = String.ofList [c] ++ String.ofList cs := by
      rw [← String.ofList_append, List.singleton_append]
    rw [happend, String.utf8ByteSize_append, List.length_cons]
    omega

theorem length_toDigits_le {n : Nat} (h : n < 10 ^ 5) : (Nat.toDigits 10 n).length ≤ 5 := by
  have hpad := congrArg List.length (replicate_append_toDigits (w := 5) (by decide) h)
  rw [List.length_append, length_pad] at hpad
  omega

theorem length_format04_le {d : Int} (h : BigEndian.Fits 2 d) : (format04 d).length ≤ 6 := by
  obtain ⟨hlow, hhigh⟩ := h
  have hdigits := length_toDigits_le (n := d.natAbs) (by omega)
  rw [format04]
  split
  · rw [List.length_cons, List.length_append, List.length_replicate]
    omega
  · rw [List.length_append, List.length_replicate]
    omega

theorem length_toText_le {d : Int} (h : BigEndian.Fits 2 d) : (toText d).length ≤ 6 := by
  obtain ⟨hlow, hhigh⟩ := h
  have hdigits := length_toDigits_le (n := d.natAbs) (by omega)
  rw [toText]
  split
  · rw [List.length_cons]
    omega
  · omega

theorem Written.length_pushUpTo_le (dscale : Nat) (cs : List Char) (w : Written) :
    (w.pushUpTo dscale cs).result.length ≤ w.result.length + cs.length := by
  rw [Written.pushUpTo_eq]
  simp only [List.length_append, List.length_take]
  omega

theorem Written.length_padTo_le (dscale : Nat) (w : Written) :
    (w.padTo dscale).result.length ≤ w.result.length + dscale := by
  rw [Written.padTo]
  simp only [List.length_append, List.length_replicate]
  omega

section

variable {dscale : Nat} {digits : List Int}

theorem length_smallGroups_le (dscale : Nat) (h : ∀ d ∈ digits, BigEndian.Fits 2 d) (w : Written) :
    (smallGroups dscale digits w).result.length ≤ w.result.length + 6 * digits.length := by
  induction digits generalizing w with
  | nil => exact Nat.le_refl _
  | cons d digits ih =>
    obtain ⟨hd, hdigits⟩ := List.forall_mem_cons.mp h
    have hgroup := length_format04_le hd
    cases digits with
    | nil =>
      have hpush := w.length_pushUpTo_le dscale (format04 d)
      rw [smallGroups]
      split
      · rw [List.length_singleton]
        omega
      · simp only [Written.pushGroup, List.length_append, List.length_singleton]
        omega
    | cons e digits =>
      have hrest := ih hdigits (w.pushGroup (format04 d))
      simp only [Written.pushGroup, List.length_append] at hrest
      rw [smallGroups, List.length_cons]
      exact Nat.le_trans hrest (by omega)

theorem length_fractionGroups_le (dscale : Nat) (h : ∀ d ∈ digits, BigEndian.Fits 2 d)
    (w : Written) :
    (fractionGroups dscale digits w).result.length ≤ w.result.length + 6 * digits.length := by
  induction digits generalizing w with
  | nil => exact Nat.le_refl _
  | cons d digits ih =>
    obtain ⟨hd, hdigits⟩ := List.forall_mem_cons.mp h
    have hgroup := length_format04_le hd
    have hpush := w.length_pushUpTo_le dscale (format04 d)
    have hrest := ih hdigits (w.pushUpTo dscale (format04 d))
    rw [fractionGroups, List.length_cons]
    split <;> omega

/-- The groups of the whole part; those that are left are some of those there were. -/
theorem length_wholeGroups_le (h : ∀ d ∈ digits, BigEndian.Fits 2 d) (places : Nat)
    (result : List Char) :
    let groups := wholeGroups places digits result
    groups.1 ≤ places ∧ groups.2.1 <:+ digits ∧
      groups.2.2.length ≤ result.length + 6 * digits.length := by
  induction places generalizing digits result with
  | zero => cases digits <;> simp [wholeGroups]
  | succ places ih =>
    cases digits with
    | nil => simp [wholeGroups]
    | cons d digits =>
      obtain ⟨hd, hdigits⟩ := List.forall_mem_cons.mp h
      have hgroup := length_format04_le hd
      obtain ⟨hplaces, hsuffix, hlen⟩ := ih hdigits (result ++ format04 d)
      rw [List.length_append] at hlen
      refine ⟨Nat.le_succ_of_le hplaces, hsuffix.trans (List.suffix_cons d digits), ?_⟩
      rw [List.length_cons]
      exact Nat.le_trans hlen (by omega)

theorem length_zeroGroups (places : Nat) (result : List Char) :
    (zeroGroups places result).length = result.length + 4 * places := by
  rw [zeroGroups_eq, List.length_append, length_pad]

theorem length_smallText_le (dscale : Nat) (h : ∀ d ∈ digits, BigEndian.Fits 2 d)
    {weight : Int} (hweight : BigEndian.Fits 2 weight) (result : List Char) :
    (smallText weight dscale digits result).length ≤
      result.length + 131070 + 6 * digits.length + dscale := by
  obtain ⟨zeros, hzeros⟩ : ∃ zeros : Nat, (-((weight + 1) * 4)).toNat = zeros := ⟨_, rfl⟩
  have hlow := hweight.1
  have hpad := Written.length_padTo_le dscale (smallGroups dscale digits
    ⟨result ++ "0.".toList ++ List.replicate zeros '0', zeros⟩)
  have hgroups := length_smallGroups_le dscale h
    ⟨result ++ "0.".toList ++ List.replicate zeros '0', zeros⟩
  have hpoint : "0.".toList.length = 2 := rfl
  simp only [List.length_append, List.length_replicate, hpoint] at hgroups
  rw [smallText, hzeros]
  omega

theorem length_largeText_le (dscale : Nat) (h : ∀ d ∈ digits, BigEndian.Fits 2 d)
    {weight : Int} (hweight : BigEndian.Fits 2 weight) (result : List Char) :
    (largeText weight dscale digits result).length ≤
      result.length + 131080 + 12 * digits.length + dscale := by
  have hhigh := hweight.2
  obtain ⟨places, rest, text, hfirst, hplaces, hrest, htext⟩ : ∃ places rest text,
      firstGroup weight.toNat digits result = (places, rest, text) ∧ places ≤ weight.toNat + 1 ∧
        rest <:+ digits ∧ text.length ≤ result.length + 6 := by
    cases digits with
    | nil => exact ⟨_, _, _, rfl, by omega, List.suffix_rfl, by omega⟩
    | cons d digits =>
      have hd := length_toText_le (h d List.mem_cons_self)
      refine ⟨_, _, _, rfl, by omega, List.suffix_cons d digits, ?_⟩
      rw [List.length_append]
      omega
  have hsub : ∀ d ∈ rest, BigEndian.Fits 2 d := fun d hd => h d (hrest.subset hd)
  obtain ⟨hleft, hsuffix, hwhole⟩ := length_wholeGroups_le hsub places text
  have hzero :=
    length_zeroGroups (wholeGroups places rest text).1 (wholeGroups places rest text).2.2
  have hrestlen := hrest.length_le
  have hleftlen := hsuffix.length_le
  rw [largeText, hfirst]
  dsimp only
  split
  · have hpad := Written.length_padTo_le dscale (fractionGroups dscale
      (wholeGroups places rest text).2.1
      ⟨zeroGroups (wholeGroups places rest text).1 (wholeGroups places rest text).2.2 ++ ['.'], 0⟩)
    have hfraction := length_fractionGroups_le dscale
      (fun d hd => hsub d (hsuffix.subset hd))
      ⟨zeroGroups (wholeGroups places rest text).1 (wholeGroups places rest text).2.2 ++ ['.'], 0⟩
    simp only [List.length_append, List.length_singleton] at hfraction
    omega
  · omega

end

/-- The call returns, and the text it returns, and so every buffer on the way to it, is far from the
most an allocation may have; a buffer that grows may double. -/
def Safe (bytes : Bytes) : Prop :=
  (Machine.numericToString bytes).returned = true ∧
    ∀ s, Machine.numericToString bytes = .ok s → 2 * s.utf8ByteSize ≤ Checked.isizeMax

/-- The sign word is that of a NaN or an infinity. -/
def Special (sign : Nat) : Prop := sign = 0xC000 ∨ sign = 0xD000 ∨ sign = 0xF000

instance (sign : Nat) : Decidable (Special sign) := inferInstanceAs (Decidable (_ ∨ _))

/-- A header that counts a negative number of digits, with a sign that does not end the decoding
before they are counted. -/
def NegativeCount (bytes : Bytes) : Prop :=
  8 ≤ bytes.length ∧ (header bytes).ndigits < 0 ∧ ¬ Special (header bytes).sign

/-- Every way the function ends. -/
theorem numericToString_cases (bytes : Bytes) :
    (NegativeCount bytes ∧ ZeroPostgres.numericToString bytes = .halt) ∨
    (¬ NegativeCount bytes ∧ ((∃ e, ZeroPostgres.numericToString bytes = .err e) ∨
      ∃ cs, ZeroPostgres.numericToString bytes = .ok (String.ofList cs) ∧ cs.length ≤ 2 ^ 20)) := by
  rw [ZeroPostgres.numericToString, NegativeCount]
  by_cases hshort : bytes.length < 8
  · rw [if_pos hshort]
    exact .inr ⟨fun h => by omega, .inl ⟨_, rfl⟩⟩
  have hlen : 8 ≤ bytes.length := Nat.le_of_not_lt hshort
  have hnd := fits_ndigits hlen
  have hweight := fits_weight hlen
  have hscale := dscale_lt hlen
  rw [if_neg hshort]
  generalize header bytes = h at hnd hweight hscale
  dsimp only
  by_cases hspecial : Special h.sign
  · refine .inr ⟨fun hneg => hneg.2.2 hspecial, .inr ?_⟩
    rcases hspecial with hnan | hinf | hninf
    · rw [if_pos hnan]
      exact ⟨"NaN".toList, rfl, by decide⟩
    · rw [if_neg (by omega), if_pos hinf]
      exact ⟨"Infinity".toList, rfl, by decide⟩
    · rw [if_neg (by omega), if_neg (by omega), if_pos hninf]
      exact ⟨"-Infinity".toList, rfl, by decide⟩
  rw [if_neg fun h => hspecial (.inl h), if_neg fun h => hspecial (.inr (.inl h)),
    if_neg fun h => hspecial (.inr (.inr h))]
  by_cases hnone : h.ndigits = 0
  · rw [if_pos hnone]
    refine .inr ⟨fun hneg => by omega, .inr ?_⟩
    split
    · refine ⟨_, rfl, ?_⟩
      have hpoint : "0.".toList.length = 2 := rfl
      rw [List.length_append, List.length_replicate, hpoint]
      omega
    · exact ⟨"0".toList, rfl, by decide⟩
  rw [if_neg hnone]
  by_cases hneg : h.ndigits < 0
  · rw [if_pos hneg]
    exact .inl ⟨⟨hlen, hneg, hspecial⟩, rfl⟩
  rw [if_neg hneg]
  refine .inr ⟨fun h => hneg h.2.1, ?_⟩
  cases hdigits : readDigits bytes.length h.ndigits.toNat (bytes.drop 8) with
  | halt => exact absurd hdigits (readDigits_ne_halt _ _ _)
  | err e => exact .inl ⟨e, rfl⟩
  | ok digits =>
    obtain ⟨hcount, hfits⟩ := readDigits_ok hdigits
    have hhigh := hnd.2
    have hsmall := length_smallText_le h.dscale hfits hweight
      (if h.sign = 0x4000 then ['-'] else [])
    have hlarge := length_largeText_le h.dscale hfits hweight
      (if h.sign = 0x4000 then ['-'] else [])
    have hsign : (if h.sign = 0x4000 then ['-'] else []).length ≤ 1 := by split <;> simp
    refine .inr ⟨_, rfl, ?_⟩
    split <;> omega

end NumericText

open NumericText

/-- The function panics on a negative number of digits and on nothing else. -/
theorem numericToString_safe_iff (bytes : Bytes) : Safe bytes ↔ ¬ NegativeCount bytes := by
  rw [Safe, Machine.numericToString_eq]
  rcases numericToString_cases bytes with ⟨hneg, hhalt⟩ | ⟨hneg, ⟨e, herr⟩ | ⟨cs, hok, hlen⟩⟩
  · rw [hhalt]
    exact iff_of_false (fun h => by cases h.1) (not_not_intro hneg)
  · rw [herr]
    exact iff_of_true ⟨rfl, fun s h => by cases h⟩ hneg
  · rw [hok]
    refine iff_of_true ⟨rfl, fun s h => ?_⟩ hneg
    cases h
    have hsize := utf8ByteSize_ofList_le cs
    rw [Checked.isizeMax]
    omega

/-- One digit group, counted as -1. -/
theorem numericToString_negativeCount :
    ¬ Safe [255, 255, 0, 0, 0, 0, 0, 0, 0, 1] := by
  rw [Safe, not_and_or]
  exact .inl (by decide +kernel)

end ZeroPostgres
