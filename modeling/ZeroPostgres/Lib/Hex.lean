import Mathlib.Data.List.Induction

/-!
# Hexadecimal text

A byte is spelled as two digits, the high half first, each in either case. `Spells` relates a text
to the bytes it spells; `exists_spells_iff` says which texts spell any.
-/

namespace ZeroPostgres.Hex

/-- The digits in order of their value, as ASCII. -/
def lowercase : List UInt8 := "0123456789abcdef".toList.map fun c => UInt8.ofNat c.toNat

@[inherit_doc lowercase]
def uppercase : List UInt8 := "0123456789ABCDEF".toList.map fun c => UInt8.ofNat c.toNat

/-- `d` is a digit of the value `n`. -/
def IsDigit (n : Nat) (d : UInt8) : Prop := lowercase[n]? = some d ∨ uppercase[n]? = some d

instance (n : Nat) (d : UInt8) : Decidable (IsDigit n d) := inferInstanceAs (Decidable (_ ∨ _))

/-- A hexadecimal digit in either case. -/
def Digit (d : UInt8) : Prop := d ∈ lowercase ∨ d ∈ uppercase

instance (d : UInt8) : Decidable (Digit d) := inferInstanceAs (Decidable (_ ∨ _))

/-- A property of all bytes, as one that can be decided. -/
theorem forall_byte {p : UInt8 → Prop} (h : ∀ i : Fin 256, p (UInt8.ofNat i)) (b : UInt8) :
    p b := by
  have hb := h ⟨b.toNat, b.toNat_lt⟩
  rwa [UInt8.ofNat_toNat] at hb

theorem IsDigit.lt {n : Nat} {d : UInt8} (h : IsDigit n d) : n < 16 := by
  rcases h with h | h
  · exact (List.getElem?_eq_some_iff.mp h).1
  · exact (List.getElem?_eq_some_iff.mp h).1

theorem IsDigit.digit {n : Nat} {d : UInt8} (h : IsDigit n d) : Digit d :=
  h.imp List.mem_of_getElem? List.mem_of_getElem?

/-- A digit has a value. -/
theorem Digit.exists_isDigit {d : UInt8} (h : Digit d) : ∃ n, IsDigit n d := by
  rcases h with h | h
  · obtain ⟨n, hn⟩ := List.mem_iff_getElem?.mp h
    exact ⟨n, .inl hn⟩
  · obtain ⟨n, hn⟩ := List.mem_iff_getElem?.mp h
    exact ⟨n, .inr hn⟩

/-- The text spells the bytes: two digits for each of them. -/
inductive Spells : List UInt8 → List UInt8 → Prop where
  | nil : Spells [] []
  | cons {hi lo b : UInt8} {text bytes : List UInt8} : IsDigit (b.toNat / 16) hi →
      IsDigit (b.toNat % 16) lo → Spells text bytes → Spells (hi :: lo :: text) (b :: bytes)

/-- The byte of two halves. -/
theorem byte_halves {m n : Nat} (hm : m < 16) (hn : n < 16) :
    (UInt8.ofNat (m * 16 + n)).toNat / 16 = m ∧ (UInt8.ofNat (m * 16 + n)).toNat % 16 = n := by
  have hb : (UInt8.ofNat (m * 16 + n)).toNat = m * 16 + n := UInt8.toNat_ofNat_of_lt' (by
    change m * 16 + n < 256
    omega)
  omega

/-- The texts that spell bytes are those of an even number of digits. -/
theorem exists_spells_iff (text : List UInt8) :
    (∃ bytes, Spells text bytes) ↔ text.length % 2 = 0 ∧ ∀ d ∈ text, Digit d := by
  constructor
  · rintro ⟨bytes, h⟩
    induction h with
    | nil => simp
    | cons hhi hlo _ ih =>
      refine ⟨by rw [List.length_cons, List.length_cons]; omega, ?_⟩
      simp only [List.forall_mem_cons]
      exact ⟨hhi.digit, hlo.digit, ih.2⟩
  · -- the digits go in pairs, so the induction drops two of them
    induction text using List.twoStepInduction with
    | nil => exact fun _ => ⟨[], .nil⟩
    | singleton d => exact fun h => by simp at h
    | cons_cons hi lo text ih _ =>
      rintro ⟨hlen, hdigits⟩
      simp only [List.forall_mem_cons] at hdigits
      obtain ⟨hhi, hlo, hdigits⟩ := hdigits
      obtain ⟨m, hm⟩ := hhi.exists_isDigit
      obtain ⟨n, hn⟩ := hlo.exists_isDigit
      obtain ⟨hhigh, hlow⟩ := byte_halves hm.lt hn.lt
      rw [List.length_cons, List.length_cons] at hlen
      obtain ⟨bytes, hbytes⟩ := ih ⟨by omega, hdigits⟩
      refine ⟨UInt8.ofNat (m * 16 + n) :: bytes, .cons ?_ ?_ hbytes⟩
      · rwa [hhigh]
      · rwa [hlow]

/-- The text of some bytes, with the digits of either case. -/
def encode (digits : List UInt8) (bytes : List UInt8) : List UInt8 :=
  bytes.flatMap fun b => [digits.getD (b.toNat / 16) 0, digits.getD (b.toNat % 16) 0]

theorem spells_encode {digits : List UInt8} (h : digits = lowercase ∨ digits = uppercase)
    (bytes : List UInt8) : Spells (encode digits bytes) bytes := by
  have hdigit (n : Nat) (hn : n < 16) : IsDigit n (digits.getD n 0) := by
    rcases h with rfl | rfl
    · refine .inl ?_
      rw [List.getD_eq_getElem?_getD, List.getElem?_eq_getElem (show n < lowercase.length from hn)]
      rfl
    · refine .inr ?_
      rw [List.getD_eq_getElem?_getD, List.getElem?_eq_getElem (show n < uppercase.length from hn)]
      rfl
  induction bytes with
  | nil => exact .nil
  | cons b bytes ih =>
    have hb := b.toNat_lt
    exact .cons (hdigit _ (by omega)) (hdigit _ (Nat.mod_lt _ (by decide))) ih

end ZeroPostgres.Hex
