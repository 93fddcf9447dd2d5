import ZeroPostgres.Conversion.Types
import ZeroPostgres.Lib.Hex

/-!
# Byte strings in text format

`src/src/conversion/bytes.rs`: the text of a `bytea` is `\x` and hexadecimal digits.
`decodeHex_eq_ok_iff` says that `decode_hex` reads the bytes a text spells, and fails on all other
texts.
-/

namespace ZeroPostgres

open Hex

/-- What `HEX_LOOKUP` holds for a byte: the value of a digit, or `0xFF`. -/
def hexEntry (b : UInt8) : UInt8 :=
  if 48 ≤ b ∧ b ≤ 57 then b - 48
  else if 97 ≤ b ∧ b ≤ 102 then b - 97 + 10
  else if 65 ≤ b ∧ b ≤ 70 then b - 65 + 10
  else 0xFF

/-- `HEX_LOOKUP`, lines 82–95. -/
def hexLookup : Vector UInt8 256 := .ofFn fun i => hexEntry (UInt8.ofNat i)

/-- The entry of a byte. -/
def nibble (b : UInt8) : UInt8 := hexLookup.get ⟨b.toNat, b.toNat_lt⟩

/-- The loop of `decode_hex`, lines 103–114; `chunks_exact` leaves out a last single byte. -/
def decodePairs (result : Bytes) : Bytes → Parsed Bytes
  | hi :: lo :: rest =>
    let high := nibble hi
    let low := nibble lo
    if high ||| low > 0x0F then .err (.decode "invalid hex digit")
    else decodePairs (result ++ [(high <<< 4) ||| low]) rest
  | _ => .ok result

/-- `decode_hex`, lines 98–116. -/
def decodeHex (hex : Bytes) : Parsed Bytes :=
  if hex.length % 2 ≠ 0 then .err (.decode "invalid hex length") else decodePairs [] hex

/-- `from_text` of `Vec<u8>`, lines 27–41. -/
def vecFromText (target : Oid) (bytes : Bytes) : Parsed Bytes :=
  if target ≠ oid.bytea then
    .err (.decode ("cannot decode oid " ++ toString target ++ " as Vec<u8>"))
  else if [92, 120] <+: bytes then decodeHex (bytes.drop 2)
  else .ok bytes

/-! ### Digits -/

/-- The table has the entry of each byte in its place. -/
theorem nibble_eq_entry (b : UInt8) : nibble b = hexEntry b := by
  have hentry : nibble b = hexEntry (UInt8.ofNat b.toNat) := Vector.getElem_ofFn b.toNat_lt
  rw [hentry, UInt8.ofNat_toNat]

/-- The table holds the values of the digits. -/
theorem nibble_eq {n : Nat} {d : UInt8} (h : IsDigit n d) : nibble d = UInt8.ofNat n := by
  have hall : ∀ n : Fin 16, hexEntry (lowercase.getD n 0) = UInt8.ofNat n ∧
      hexEntry (uppercase.getD n 0) = UInt8.ofNat n := by decide +kernel
  obtain ⟨hlower, hupper⟩ : hexEntry (lowercase.getD n 0) = UInt8.ofNat n ∧
      hexEntry (uppercase.getD n 0) = UInt8.ofNat n := hall ⟨n, h.lt⟩
  rw [nibble_eq_entry]
  rcases h with h | h
  · rwa [List.getD_eq_getElem?_getD, h] at hlower
  · rwa [List.getD_eq_getElem?_getD, h] at hupper

/-- Everything else is marked in the table. -/
theorem nibble_of_not_digit {d : UInt8} (h : ¬ Digit d) : nibble d = 0xFF := by
  have hall : ∀ d : Fin 256, ¬ Digit (UInt8.ofNat d) → hexEntry (UInt8.ofNat d) = 0xFF := by
    decide +kernel
  rw [nibble_eq_entry]
  exact forall_byte (p := fun d => ¬ Digit d → hexEntry d = 0xFF) hall d h

/-- Two digits go together to a byte. -/
theorem nibbles_or {m n : Nat} (hm : m < 16) (hn : n < 16) :
    ¬ UInt8.ofNat m ||| UInt8.ofNat n > 0x0F ∧
      (UInt8.ofNat m <<< 4) ||| UInt8.ofNat n = UInt8.ofNat (m * 16 + n) := by
  have hall : ∀ m n : Fin 16, ¬ UInt8.ofNat m ||| UInt8.ofNat n > 0x0F ∧
      (UInt8.ofNat m <<< 4) ||| UInt8.ofNat n = UInt8.ofNat (m * 16 + n) := by decide +kernel
  exact hall ⟨m, hm⟩ ⟨n, hn⟩

/-- The mark is seen whatever the other digit is. -/
theorem mark_or (b : UInt8) : 0xFF ||| b > 0x0F ∧ b ||| 0xFF > 0x0F := by
  have hall : ∀ b : Fin 256, 0xFF ||| UInt8.ofNat b > 0x0F ∧ UInt8.ofNat b ||| 0xFF > 0x0F := by
    decide +kernel
  exact forall_byte (p := fun b => 0xFF ||| b > 0x0F ∧ b ||| 0xFF > 0x0F) hall b

/-- A pair that is not two digits is refused. -/
theorem pair_refused {hi lo : UInt8} (h : ¬ (Digit hi ∧ Digit lo)) :
    nibble hi ||| nibble lo > 0x0F := by
  rcases not_and_or.mp h with h | h
  · rw [nibble_of_not_digit h]
    exact (mark_or _).1
  · rw [nibble_of_not_digit h]
    exact (mark_or _).2

/-! ### Texts -/

/-- A text that spells bytes adds them to the result. -/
theorem decodePairs_spells {text bytes : Bytes} (h : Spells text bytes) (result : Bytes) :
    decodePairs result text = .ok (result ++ bytes) := by
  induction h generalizing result with
  | nil => rw [decodePairs, List.append_nil]; simp
  | @cons hi lo b text bytes hhi hlo _ ih =>
    obtain ⟨hvalid, hbyte⟩ := nibbles_or hhi.lt hlo.lt
    have hb : UInt8.ofNat (b.toNat / 16 * 16 + b.toNat % 16) = b := by
      rw [Nat.div_add_mod', UInt8.ofNat_toNat]
    simp only [decodePairs, nibble_eq hhi, nibble_eq hlo]
    rw [if_neg hvalid, hbyte, hb, ih, List.append_assoc]
    rfl

/-- A text with anything but digits in its pairs is refused. -/
theorem decodePairs_refused {text : Bytes} (hlen : text.length % 2 = 0)
    (h : ¬ ∀ d ∈ text, Digit d) (result : Bytes) :
    decodePairs result text = .err (.decode "invalid hex digit") := by
  induction text using List.twoStepInduction generalizing result with
  | nil => simp at h
  | singleton d => simp at hlen
  | cons_cons hi lo text ih _ =>
    simp only [decodePairs]
    by_cases hpair : Digit hi ∧ Digit lo
    · have htext : ¬ ∀ d ∈ text, Digit d := by
        intro hall
        exact h (by simpa using ⟨hpair.1, hpair.2, hall⟩)
      have hlen' : text.length % 2 = 0 := by
        rw [List.length_cons, List.length_cons] at hlen
        omega
      split
      · rfl
      · exact ih hlen' htext _
    · rw [if_pos (pair_refused hpair)]

/-- What `decode_hex` makes of a text that spells nothing. -/
theorem decodeHex_refused {text : Bytes} (h : ¬ ∃ bytes, Spells text bytes) :
    decodeHex text = .err (.decode
      (if text.length % 2 ≠ 0 then "invalid hex length" else "invalid hex digit")) := by
  rw [exists_spells_iff, not_and] at h
  unfold decodeHex
  by_cases hlen : text.length % 2 = 0
  · rw [if_neg (not_not.mpr hlen), if_neg (not_not.mpr hlen), decodePairs_refused hlen (h hlen)]
  · rw [if_pos hlen, if_pos hlen]

/-- `decode_hex` reads the bytes that a text spells. -/
theorem decodeHex_spells {text bytes : Bytes} (h : Spells text bytes) :
    decodeHex text = .ok bytes := by
  have hlen := ((exists_spells_iff text).mp ⟨bytes, h⟩).1
  rw [decodeHex, if_neg (not_not.mpr hlen), decodePairs_spells h, List.nil_append]

theorem decodeHex_eq_ok_iff {text bytes : Bytes} :
    decodeHex text = .ok bytes ↔ Spells text bytes := by
  refine ⟨fun h => ?_, decodeHex_spells⟩
  by_cases hspells : ∃ bytes, Spells text bytes
  · obtain ⟨bytes', hspells⟩ := hspells
    rw [decodeHex_spells hspells] at h
    cases h
    exact hspells
  · rw [decodeHex_refused hspells] at h
    cases h

/-- `decode_hex` succeeds on the texts of an even number of hexadecimal digits and on no others,
and of a text of some bytes, in whatever case its digits are, it makes these bytes. -/
theorem decodeHex_exact : (∀ text : Bytes, (∃ bytes, decodeHex text = .ok bytes) ↔
      text.length % 2 = 0 ∧ ∀ d ∈ text, Digit d) ∧
    ∀ bytes text : Bytes, Spells text bytes → decodeHex text = .ok bytes := by
  constructor
  · intro text
    simp only [decodeHex_eq_ok_iff, exists_spells_iff]
  · intro bytes text h
    exact decodeHex_spells h

/-- DEADBEEF in mixed case. -/
theorem decodeHex_exact_mixed :
    decodeHex [68, 101, 65, 100, 66, 101, 101, 102] = .ok [0xDE, 0xAD, 0xBE, 0xEF] :=
  decodeHex_exact.2 _ _ <|
    .cons (by decide +kernel) (by decide +kernel) <|
    .cons (by decide +kernel) (by decide +kernel) <|
    .cons (by decide +kernel) (by decide +kernel) <|
    .cons (by decide +kernel) (by decide +kernel) .nil

/-- A `bytea` in hexadecimal is decoded to its bytes. -/
theorem vecFromText_spells {text bytes : Bytes} (h : Spells text bytes) :
    vecFromText oid.bytea (92 :: 120 :: text) = .ok bytes := by
  have hprefix : ([92, 120] : Bytes) <+: 92 :: 120 :: text := ⟨text, rfl⟩
  rw [vecFromText, if_neg (by simp), if_pos hprefix]
  exact decodeHex_spells h

/-- What the server sends, in either case, is decoded to the bytes. -/
theorem vecFromText_encode {digits : List UInt8} (h : digits = lowercase ∨ digits = uppercase)
    (bytes : Bytes) : vecFromText oid.bytea (92 :: 120 :: Hex.encode digits bytes) = .ok bytes :=
  vecFromText_spells (spells_encode h bytes)

end ZeroPostgres
