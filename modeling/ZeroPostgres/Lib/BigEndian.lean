import Mathlib.Data.List.Induction
import Mathlib.Tactic.Ring
import Mathlib.Tactic.Zify

/-!
# Big-endian numbers

`bytes w n` writes a number in `w` bytes, most significant first, and keeps its remainder modulo
`256 ^ w`; `nat` reads a byte list of any length. The signed forms `intBytes` and `int` are two's
complement. Reading undoes writing for every number that fits, and writing undoes reading always.
-/

namespace ZeroPostgres.BigEndian

/-- The value of a byte list. -/
def nat (bs : List UInt8) : Nat := bs.foldl (fun acc b => acc * 256 + b.toNat) 0

/-- The last `w` base-256 digits of a number. -/
def bytes : Nat → Nat → List UInt8
  | 0, _ => []
  | w + 1, n => bytes w (n / 256) ++ [UInt8.ofNat n]

@[simp] theorem length_bytes (w n : Nat) : (bytes w n).length = w := by
  induction w generalizing n with
  | zero => rfl
  | succ w ih => simp [bytes, ih]

@[simp] theorem nat_nil : nat [] = 0 := rfl

theorem nat_concat (bs : List UInt8) (b : UInt8) : nat (bs ++ [b]) = nat bs * 256 + b.toNat := by
  simp [nat]

theorem nat_lt (bs : List UInt8) : nat bs < 256 ^ bs.length := by
  induction bs using List.reverseRecOn with
  | nil => exact Nat.one_pos
  | append_singleton bs b ih =>
    have hb := b.toNat_lt
    rw [nat_concat, List.length_append, List.length_singleton, pow_succ]
    omega

/-- Reading what was written gives the number back, as far as it fits. -/
theorem nat_bytes (w n : Nat) : nat (bytes w n) = n % 256 ^ w := by
  induction w generalizing n with
  | zero => simp [bytes, Nat.mod_one]
  | succ w ih =>
    have hdigit : (UInt8.ofNat n).toNat = n % 256 := UInt8.toNat_ofNat
    rw [bytes, nat_concat, ih, hdigit, pow_succ, Nat.mul_comm (256 ^ w), Nat.mod_mul]
    ring

theorem nat_bytes_of_lt {w n : Nat} (h : n < 256 ^ w) : nat (bytes w n) = n := by
  rw [nat_bytes, Nat.mod_eq_of_lt h]

/-- Writing what was read gives the bytes back. -/
theorem bytes_nat (bs : List UInt8) : bytes bs.length (nat bs) = bs := by
  induction bs using List.reverseRecOn with
  | nil => rfl
  | append_singleton bs b ih =>
    have hb := b.toNat_lt
    have hdiv : (nat bs * 256 + b.toNat) / 256 = nat bs := by omega
    have hlast : UInt8.ofNat (nat bs * 256 + b.toNat) = b := by
      apply UInt8.toNat_inj.mp
      show (nat bs * 256 + b.toNat) % 2 ^ 8 = b.toNat
      omega
    rw [nat_concat, List.length_append, List.length_singleton, bytes, hdiv, ih, hlast]

/-- Only the remainder of a number is written. -/
theorem bytes_mod (w n : Nat) : bytes w (n % 256 ^ w) = bytes w n := by
  have h := bytes_nat (bytes w n)
  rwa [length_bytes, nat_bytes] at h

/-! ### Two's complement -/

/-- The signed value of a byte list. -/
def int (bs : List UInt8) : Int :=
  if 2 * nat bs < 256 ^ bs.length then nat bs else nat bs - 256 ^ bs.length

/-- A signed number in `w` bytes. -/
def intBytes (w : Nat) (i : Int) : List UInt8 := bytes w (i % 256 ^ w).toNat

/-- A signed number has a two's complement form of `w` bytes. -/
def Fits (w : Nat) (i : Int) : Prop := -(256 ^ w) ≤ 2 * i ∧ 2 * i < 256 ^ w

instance (w : Nat) (i : Int) : Decidable (Fits w i) := inferInstanceAs (Decidable (_ ∧ _))

@[simp] theorem length_intBytes (w : Nat) (i : Int) : (intBytes w i).length = w :=
  length_bytes _ _

private theorem pow_pos_int (w : Nat) : (0 : Int) < 256 ^ w := Int.pow_pos (by decide)

theorem toNat_emod_lt (w : Nat) (i : Int) : (i % 256 ^ w).toNat < 256 ^ w := by
  have hpos := pow_pos_int w
  have hnn := Int.emod_nonneg i (Int.ne_of_gt hpos)
  have hlt := Int.emod_lt_of_pos i hpos
  zify
  omega

/-- Reading what was written gives the signed number back, if it fits. -/
theorem int_intBytes {w : Nat} {i : Int} (h : Fits w i) : int (intBytes w i) = i := by
  obtain ⟨hlow, hhigh⟩ := h
  have hpos := pow_pos_int w
  have hnat : (nat (intBytes w i) : Int) = i % 256 ^ w := by
    rw [intBytes, nat_bytes_of_lt (toNat_emod_lt w i)]
    exact Int.toNat_of_nonneg (Int.emod_nonneg i (Int.ne_of_gt hpos))
  have hcond : 2 * nat (intBytes w i) < 256 ^ (intBytes w i).length ↔
      2 * (i % 256 ^ w) < 256 ^ w := by
    rw [length_intBytes, ← hnat]
    exact_mod_cast Iff.rfl
  unfold int
  rw [hnat, length_intBytes] at *
  by_cases hi : 0 ≤ i
  · have hmod : i % 256 ^ w = i := Int.emod_eq_of_lt hi (by omega)
    rw [if_pos (hcond.mpr (by omega)), hmod]
  · have hmod : i % 256 ^ w = i + 256 ^ w := by
      rw [← Int.add_emod_right]
      exact Int.emod_eq_of_lt (by omega) (by omega)
    rw [if_neg (fun hc => by have := hcond.mp hc; omega), hmod]
    ring

/-- A byte list is the two's complement form of its signed value. -/
theorem intBytes_int (bs : List UInt8) : intBytes bs.length (int bs) = bs := by
  have hlt := nat_lt bs
  have hmod : (int bs % 256 ^ bs.length).toNat = nat bs := by
    have hz : (nat bs : Int) < 256 ^ bs.length := by exact_mod_cast hlt
    unfold int
    split
    · rw [Int.emod_eq_of_lt (Int.natCast_nonneg _) hz, Int.toNat_natCast]
    · have hsub : ((nat bs : Int) - 256 ^ bs.length) % 256 ^ bs.length = nat bs := by
        rw [Int.sub_emod_right, Int.emod_eq_of_lt (Int.natCast_nonneg _) hz]
      rw [hsub, Int.toNat_natCast]
  rw [intBytes, hmod, bytes_nat]

/-- The signed value of a byte list fits in its length. -/
theorem fits_int (bs : List UInt8) : Fits bs.length (int bs) := by
  have hz : (nat bs : Int) < 256 ^ bs.length := by exact_mod_cast nat_lt bs
  unfold Fits int
  split
  · next h =>
    have h' : 2 * (nat bs : Int) < 256 ^ bs.length := by exact_mod_cast h
    omega
  · next h =>
    have h' : ¬ 2 * (nat bs : Int) < 256 ^ bs.length := by exact_mod_cast h
    omega

/-- The byte lists with a signed value that is a natural number. -/
theorem int_eq_natCast_iff {bs : List UInt8} {n : Nat} :
    int bs = n ↔ 2 * n < 256 ^ bs.length ∧ bs = bytes bs.length n := by
  constructor
  · intro h
    have hfits := (fits_int bs).2
    rw [h] at hfits
    have hlt : 2 * n < 256 ^ bs.length := by exact_mod_cast hfits
    have hmod : ((n : Int) % 256 ^ bs.length).toNat = n := by
      have hn : (n : Int) < 256 ^ bs.length := by exact_mod_cast (by omega : n < 256 ^ bs.length)
      rw [Int.emod_eq_of_lt (Int.natCast_nonneg n) hn, Int.toNat_natCast]
    have hbytes := intBytes_int bs
    rw [intBytes, h, hmod] at hbytes
    exact ⟨hlt, hbytes.symm⟩
  · rintro ⟨hlt, hbytes⟩
    have hnat : nat bs = n := by
      rw [hbytes]
      exact nat_bytes_of_lt (by omega)
    rw [int, hnat, if_pos hlt]

end ZeroPostgres.BigEndian
