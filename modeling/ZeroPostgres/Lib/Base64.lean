import Mathlib.Data.List.Basic

/-!
# Base64

The encoding with the standard alphabet and padding. Three bytes are four digits of six bits; the
last one or two bytes are padded. `decode_encode` is the round trip.
-/

namespace ZeroPostgres.Base64

/-- The digits, in order of their value. -/
def alphabet : List Char :=
  "ABCDEFGHIJKLMNOPQRSTUVWXYZabcdefghijklmnopqrstuvwxyz0123456789+/".toList

/-- The digit of a six-bit value. -/
def digit (n : Nat) : Char := alphabet.getD n 'A'

/-- The value of a digit. -/
def value? (c : Char) : Option Nat := alphabet.idxOf? c

theorem value?_digit {n : Nat} (h : n < 64) : value? (digit n) = some n := by
  have hall : ∀ n : Fin 64, value? (digit n) = some n.val := by decide +kernel
  exact hall ⟨n, h⟩

theorem digit_ne_pad {n : Nat} (h : n < 64) : digit n ≠ '=' := by
  have hall : ∀ n : Fin 64, digit n ≠ '=' := by decide +kernel
  exact hall ⟨n, h⟩

/-- Encode from the front. -/
def encode : List UInt8 → List Char
  | a :: b :: c :: rest =>
    let n := a.toNat * 65536 + b.toNat * 256 + c.toNat
    digit (n / 262144) :: digit (n / 4096 % 64) :: digit (n / 64 % 64) :: digit (n % 64)
      :: encode rest
  | [a, b] =>
    let n := a.toNat * 1024 + b.toNat * 4
    [digit (n / 4096), digit (n / 64 % 64), digit (n % 64), '=']
  | [a] =>
    let n := a.toNat * 16
    [digit (n / 64), digit (n % 64), '=', '=']
  | [] => []

/-- The last four characters of a padded text. The bits the padding cuts off are zero. -/
def decodeLast (c₁ c₂ c₃ : Char) : Option (List UInt8) :=
  if c₃ = '=' then do
    let n := (← value? c₁) * 64 + (← value? c₂)
    if n % 16 = 0 then some [UInt8.ofNat (n / 16)] else none
  else do
    let n := (← value? c₁) * 4096 + (← value? c₂) * 64 + (← value? c₃)
    if n % 4 = 0 then some [UInt8.ofNat (n / 1024), UInt8.ofNat (n / 4)] else none

/-- Decode from the front; padding ends the text. -/
def decode : List Char → Option (List UInt8)
  | c₁ :: c₂ :: c₃ :: c₄ :: rest =>
    if c₄ = '=' then if rest = [] then decodeLast c₁ c₂ c₃ else none
    else do
      let n := (← value? c₁) * 262144 + (← value? c₂) * 4096 + (← value? c₃) * 64 + (← value? c₄)
      let bytes ← decode rest
      return UInt8.ofNat (n / 65536) :: UInt8.ofNat (n / 256) :: UInt8.ofNat n :: bytes
  | [] => some []
  | _ => none

/-- A byte is what its value, with anything in front of it, leaves in eight bits. -/
theorem ofNat_eq {a : UInt8} {n : Nat} (h : n % 256 = a.toNat) : UInt8.ofNat n = a := by
  apply UInt8.toNat_inj.mp
  rw [UInt8.toNat_ofNat', ← h]

theorem sum_three_digits (n : Nat) : n / 4096 * 4096 + n / 64 % 64 * 64 + n % 64 = n := by
  have hquot : n / 4096 = n / 64 / 64 := (Nat.div_div_eq_div_mul n 64 64).symm
  rw [hquot]
  omega

/-- A number is the sum of its four digits, the first as large as need be. -/
theorem sum_digits (n : Nat) :
    n / 262144 * 262144 + n / 4096 % 64 * 4096 + n / 64 % 64 * 64 + n % 64 = n := by
  omega

/-- What was encoded decodes to itself. -/
theorem decode_encode (bs : List UInt8) : decode (encode bs) = some bs := by
  induction bs using encode.induct with
  | case1 a b c rest ih =>
    have ha := a.toNat_lt
    have hb := b.toNat_lt
    have hc := c.toNat_lt
    simp only [encode]
    generalize hn : a.toNat * 65536 + b.toNat * 256 + c.toNat = n
    have hsum := sum_digits n
    have h₁ : UInt8.ofNat (n / 65536) = a := ofNat_eq (by omega)
    have h₂ : UInt8.ofNat (n / 256) = b := ofNat_eq (by omega)
    have h₃ : UInt8.ofNat n = c := ofNat_eq (by omega)
    rw [decode, if_neg (digit_ne_pad (by omega)), ih]
    simp (disch := omega) only [value?_digit, Option.bind_eq_bind, Option.bind_some, hsum]
    rw [h₁, h₂, h₃]
    rfl
  | case2 a b =>
    have ha := a.toNat_lt
    have hb := b.toNat_lt
    simp only [encode]
    generalize hn : a.toNat * 1024 + b.toNat * 4 = n
    have hsum := sum_three_digits n
    have h₁ : UInt8.ofNat (n / 1024) = a := ofNat_eq (by omega)
    have h₂ : UInt8.ofNat (n / 4) = b := ofNat_eq (by omega)
    rw [decode, if_pos rfl, if_pos rfl, decodeLast, if_neg (digit_ne_pad (by omega))]
    simp (disch := omega) only [value?_digit, Option.bind_eq_bind, Option.bind_some, hsum]
    rw [if_pos (by omega), h₁, h₂]
  | case3 a =>
    have ha := a.toNat_lt
    simp only [encode]
    generalize hn : a.toNat * 16 = n
    have hsum : n / 64 * 64 + n % 64 = n := by omega
    have h₁ : UInt8.ofNat (n / 16) = a := ofNat_eq (by omega)
    rw [decode, if_pos rfl, if_pos rfl, decodeLast, if_pos rfl]
    simp (disch := omega) only [value?_digit, Option.bind_eq_bind, Option.bind_some, hsum]
    rw [if_pos (by omega), h₁]
  | case4 => rfl

/-- A text is made of digits and padding. -/
theorem mem_encode {bs : List UInt8} {c : Char} (h : c ∈ encode bs) :
    c = '=' ∨ ∃ n, n < 64 ∧ c = digit n := by
  induction bs using encode.induct with
  | case1 a b d rest ih =>
    have ha := a.toNat_lt
    have hb := b.toNat_lt
    have hd := d.toNat_lt
    simp only [encode, List.mem_cons] at h
    rcases h with rfl | rfl | rfl | rfl | h
    · exact .inr ⟨_, by omega, rfl⟩
    · exact .inr ⟨_, by omega, rfl⟩
    · exact .inr ⟨_, by omega, rfl⟩
    · exact .inr ⟨_, by omega, rfl⟩
    · exact ih h
  | case2 a b =>
    have ha := a.toNat_lt
    have hb := b.toNat_lt
    simp only [encode, List.mem_cons, List.not_mem_nil, or_false] at h
    rcases h with rfl | rfl | rfl | rfl
    · exact .inr ⟨_, by omega, rfl⟩
    · exact .inr ⟨_, by omega, rfl⟩
    · exact .inr ⟨_, by omega, rfl⟩
    · exact .inl rfl
  | case3 a =>
    have ha := a.toNat_lt
    simp only [encode, List.mem_cons, List.not_mem_nil, or_false] at h
    rcases h with rfl | rfl | rfl | rfl
    · exact .inr ⟨_, by omega, rfl⟩
    · exact .inr ⟨_, by omega, rfl⟩
    · exact .inl rfl
    · exact .inl rfl
  | case4 => cases h

/-- The second character of a text is never padding. -/
theorem encode_eq_cons {bs : List UInt8} (h : bs ≠ []) :
    ∃ c₁ c₂ rest, encode bs = c₁ :: c₂ :: rest ∧ c₂ ≠ '=' := by
  cases bs using encode.fun_cases with
  | case1 a b c rest => exact ⟨_, _, _, rfl, digit_ne_pad (Nat.mod_lt _ (by decide))⟩
  | case2 a b => exact ⟨_, _, _, rfl, digit_ne_pad (Nat.mod_lt _ (by decide))⟩
  | case3 a => exact ⟨_, _, _, rfl, digit_ne_pad (Nat.mod_lt _ (by decide))⟩
  | case4 => exact absurd rfl h

theorem length_le_encode (bs : List UInt8) : bs.length ≤ (encode bs).length := by
  induction bs using encode.induct with
  | case1 a b c rest ih =>
    simp only [encode, List.length_cons]
    omega
  | case2 a b => exact (by decide : 2 ≤ 4)
  | case3 a => exact (by decide : 1 ≤ 4)
  | case4 => exact Nat.le_refl 0

/-- A text is longer than the bytes it stands for. -/
theorem length_lt_encode {bs : List UInt8} (h : bs ≠ []) : bs.length < (encode bs).length := by
  cases bs using encode.fun_cases with
  | case1 a b c rest =>
    have hrest := length_le_encode rest
    simp only [encode, List.length_cons]
    omega
  | case2 a b => exact (by decide : 2 < 4)
  | case3 a => exact (by decide : 1 < 4)
  | case4 => exact absurd rfl h

end ZeroPostgres.Base64
