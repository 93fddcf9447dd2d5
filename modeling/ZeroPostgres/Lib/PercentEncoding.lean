import Mathlib.Data.List.Basic

/-!
# Percent-encoding

The encoding of a component of a URI: an unreserved character stands for itself, every other one for
its bytes in UTF-8, each as a percent sign with two hexadecimal digits.
-/

namespace ZeroPostgres.PercentEncoding

/-- Letters, digits and four marks need no encoding. -/
def unreserved (c : Char) : Bool := c.isAlphanum || c == '-' || c == '.' || c == '_' || c == '~'

def hexDigit (n : Nat) : Char := "0123456789ABCDEF".toList.getD n '0'

def escape (b : UInt8) : List Char := ['%', hexDigit (b.toNat / 16), hexDigit (b.toNat % 16)]

def encodeChar (c : Char) : List Char :=
  if unreserved c then [c] else (String.utf8EncodeChar c).flatMap escape

def encode (cs : List Char) : List Char := cs.flatMap encodeChar

variable {c : Char} {cs : List Char}

theorem length_encodeChar (h : unreserved c = false) : 3 ≤ (encodeChar c).length := by
  have hne : String.utf8EncodeChar c ≠ [] := fun hnil => by
    have hlen := congrArg List.length hnil
    have hsize := c.utf8Size_pos
    rw [String.length_utf8EncodeChar, List.length_nil] at hlen
    omega
  obtain ⟨b, bs, hbytes⟩ := List.exists_cons_of_ne_nil hne
  rw [encodeChar, if_neg (by simp [h]), hbytes, List.flatMap_cons, List.length_append]
  exact Nat.le_add_right 3 _

theorem length_le_encode (cs : List Char) : cs.length ≤ (encode cs).length := by
  induction cs with
  | nil => exact Nat.le_refl 0
  | cons c cs ih =>
    have hchar : 1 ≤ (encodeChar c).length := by
      cases h : unreserved c with
      | true =>
        rw [encodeChar, if_pos h]
        exact Nat.le_refl 1
      | false => exact Nat.le_trans (by decide) (length_encodeChar h)
    rw [encode, List.flatMap_cons, List.length_append, List.length_cons]
    rw [encode] at ih
    omega

/-- The texts without a character to encode are the ones that encoding does not change. -/
theorem encode_eq_self_iff : encode cs = cs ↔ ∀ c ∈ cs, unreserved c = true := by
  induction cs with
  | nil => simp [encode]
  | cons c cs ih =>
    rw [List.forall_mem_cons, ← ih]
    have hcons : encode (c :: cs) = encodeChar c ++ encode cs := rfl
    cases h : unreserved c with
    | true => simp [hcons, encodeChar, h]
    | false =>
      have hgrows := length_encodeChar h
      have hrest := length_le_encode cs
      constructor
      · intro heq
        have hlen := congrArg List.length heq
        rw [hcons, List.length_append, List.length_cons] at hlen
        omega
      · rintro ⟨hc, -⟩
        cases hc

end ZeroPostgres.PercentEncoding
