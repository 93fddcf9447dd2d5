import ZeroPostgres.Lib.Act
import ZeroPostgres.Lib.BigEndian

/-!
# Arithmetic, indices and loops that can panic

Machine integers as the numbers they hold, every result checked against the width of its type; an
index and a capacity checked as the standard library does. A panic is `Outcome.halt`, and so is a
loop that has not ended after the rounds it is given. `whileLoop_ok` is the rule of total
correctness: an invariant, and a measure that each round lowers.
-/

namespace ZeroPostgres.Checked

variable {ε α σ : Type}

/-- A result of signed arithmetic in `width` bytes. -/
def signed (width : Nat) (n : Int) : Outcome ε Int :=
  if BigEndian.Fits width n then .ok n else .halt

/-- A result of unsigned arithmetic in `width` bytes. -/
def unsigned (width : Nat) (n : Int) : Outcome ε Nat :=
  if 0 ≤ n ∧ n < 256 ^ width then .ok n.toNat else .halt

/-- `n as usize` of a signed number, which never fails. -/
def asUsize (n : Int) : Nat := (n % 2 ^ 64).toNat

/-- A signed number cast to the unsigned type of so many bits, which never fails either. -/
def asUnsigned (bits : Nat) (n : Int) : Nat := (n % 2 ^ bits).toNat

/-- `isize::MAX`, the most bytes one allocation may have. -/
def isizeMax : Nat := 2 ^ 63 - 1

/-- `Vec::with_capacity(n)` for elements of the given size. -/
def withCapacity (size n : Nat) : Outcome ε Unit := if size * n ≤ isizeMax then .ok () else .halt

/-- `xs[i]`. -/
def index (xs : List α) (i : Nat) : Outcome ε α :=
  match xs[i]? with
  | some x => .ok x
  | none => .halt

/-- `while guard { body }`. -/
def whileLoop (guard : σ → Bool) (body : σ → Outcome ε σ) : Nat → σ → Outcome ε σ
  | 0, _ => .halt
  | fuel + 1, s => if guard s then body s >>= whileLoop guard body fuel else .ok s

theorem signed_ok {width : Nat} {n : Int} (h : BigEndian.Fits width n) :
    (signed width n : Outcome ε Int) = .ok n := if_pos h

theorem signed_eq_ok {width : Nat} {n m : Int} (h : (signed width n : Outcome ε Int) = .ok m) :
    BigEndian.Fits width n ∧ n = m := by
  unfold signed at h
  split at h
  · next hfits =>
    cases h
    exact ⟨hfits, rfl⟩
  · cases h

theorem unsigned_ok {width n : Nat} (h : n < 256 ^ width) :
    (unsigned width n : Outcome ε Nat) = .ok n := by
  have hcast : (n : Int) < 256 ^ width := by exact_mod_cast h
  rw [unsigned, if_pos ⟨Int.natCast_nonneg n, hcast⟩, Int.toNat_natCast]

theorem index_ok {xs : List α} {i : Nat} (h : i < xs.length) :
    (index xs i : Outcome ε α) = .ok xs[i] := by
  rw [index, List.getElem?_eq_getElem h]

theorem asUsize_natCast {n : Nat} (h : n < 2 ^ 64) : asUsize n = n := by
  rw [asUsize]
  omega

theorem asUnsigned_of_nonneg {bits : Nat} {n : Int} (hn : 0 ≤ n) (hlt : n < 2 ^ bits) :
    (asUnsigned bits n : Int) = n := by
  rw [asUnsigned, Int.emod_eq_of_lt hn hlt, Int.toNat_of_nonneg hn]

/-- A negative number is cast to a large one. -/
theorem asUnsigned_of_neg {bits : Nat} {n : Int} (hn : n < 0) (hle : -2 ^ bits ≤ n) :
    (asUnsigned bits n : Int) = n + 2 ^ bits := by
  rw [asUnsigned, ← Int.add_emod_right, Int.emod_eq_of_lt (by omega) (by omega),
    Int.toNat_of_nonneg (by omega)]

/-- Division and remainder of the source round to zero. -/
theorem split_trunc (n : Int) {d : Int} (hd : 0 < d) :
    n = n.tdiv d * d + n.tmod d ∧ (n.tmod d).natAbs < d.natAbs ∧
      (0 ≤ n → 0 ≤ n.tdiv d ∧ 0 ≤ n.tmod d) ∧ (n < 0 → n.tdiv d ≤ 0 ∧ n.tmod d ≤ 0) := by
  refine ⟨(Int.tdiv_mul_add_tmod n d).symm, ?_, ?_, ?_⟩
  · rw [Int.natAbs_tmod]
    exact Nat.mod_lt _ (by omega)
  · intro hn
    exact ⟨Int.tdiv_nonneg hn (Int.le_of_lt hd), Int.tmod_nonneg d hn⟩
  · intro hn
    have hquot := Int.tdiv_nonneg (by omega : 0 ≤ -n) (Int.le_of_lt hd)
    have hrest := Int.tmod_nonneg d (by omega : 0 ≤ -n)
    rw [Int.neg_tdiv] at hquot
    rw [Int.neg_tmod] at hrest
    omega

/-- A loop whose rounds keep `I` and lower the measure ends, with `I` kept and the guard false. -/
theorem whileLoop_ok (guard : σ → Bool) (body : σ → Outcome ε σ) (I : σ → Prop) (rank : σ → Nat)
    (round : ∀ s, I s → guard s = true → ∃ s', body s = .ok s' ∧ I s' ∧ rank s' < rank s)
    {fuel : Nat} {s : σ} (hI : I s) (hfuel : rank s < fuel) :
    ∃ s', whileLoop guard body fuel s = .ok s' ∧ I s' ∧ guard s' = false := by
  induction fuel generalizing s with
  | zero => exact absurd hfuel (Nat.not_lt_zero _)
  | succ fuel ih =>
    rw [whileLoop]
    by_cases hguard : guard s = true
    · obtain ⟨s', hbody, hI', hrank⟩ := round s hI hguard
      rw [if_pos hguard, hbody, Outcome.bind_ok]
      exact ih hI' (by omega)
    · rw [if_neg hguard]
      exact ⟨s, rfl, hI, by simpa using hguard⟩

end ZeroPostgres.Checked
