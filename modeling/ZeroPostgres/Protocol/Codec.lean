import ZeroPostgres.Error
import ZeroPostgres.Lib.BigEndian

/-!
# Wire codec

Big-endian integers and null-terminated strings, `src/src/protocol/codec.rs`.
A slice index out of range panics in the source, which is `Outcome.halt` here.
-/

namespace ZeroPostgres

/-- A message payload. -/
abbrev Bytes := List UInt8

/-- Big-endian value of a byte list. -/
def beNat (bs : Bytes) : Nat := bs.foldl (fun acc b => acc * 256 + b.toNat) 0

/-- Read a 2-byte big-endian unsigned integer from the front of a slice the caller cut
with `&payload[..2]`, `src/src/protocol/backend/query.rs:80`. -/
def headU16 : Bytes → Parsed (Nat × Bytes)
  | a :: b :: rest => .ok (beNat [a, b], rest)
  | _ => .halt

/-- Read a 4-byte big-endian unsigned integer, `src/src/protocol/codec.rs:66–77`. -/
def readU32 : Bytes → Parsed (Oid × Bytes)
  | a :: b :: c :: d :: rest => .ok (UInt32.ofNat (beNat [a, b, c, d]), rest)
  | data => .err (.libraryBug ("read_u32: buffer too short: " ++ toString data.length ++ " < 4"))

/-- Split a slice at its first null byte, `src/src/protocol/codec.rs:95–102`. -/
def readCstring : Bytes → Parsed (Bytes × Bytes)
  | [] => .err (.libraryBug "read_cstring: no null terminator found")
  | b :: rest =>
    if b = 0 then .ok ([], rest)
    else (readCstring rest).bind fun r => .ok (b :: r.1, r.2)

/-- Read a null-terminated UTF-8 string, `src/src/protocol/codec.rs:106–111`. -/
def readCstr (data : Bytes) : Parsed (String × Bytes) :=
  (readCstring data).bind fun r =>
    match String.fromUTF8? ⟨r.1.toArray⟩ with
    | some s => .ok (s, r.2)
    | none => .err (.libraryBug "read_cstr: invalid UTF-8")

/-- Write a null-terminated string, `src/src/protocol/codec.rs:149–156`. -/
def cstr (s : String) : Bytes := s.toByteArray.data.toList ++ [0]

/-- A string that can be sent as a C string: it holds no null byte. -/
def CString (s : String) : Prop := 0 ∉ s.toByteArray.data.toList

instance (s : String) : Decidable (CString s) := inferInstanceAs (Decidable (¬ _))

/-- Only the bytes before the first null byte are read. -/
theorem readCstring_append (bs rest : Bytes) (h : 0 ∉ bs) :
    readCstring (bs ++ 0 :: rest) = .ok (bs, rest) := by
  induction bs with
  | nil => rfl
  | cons b bs ih =>
    have hb : b ≠ 0 := fun hb => h (by simp [hb])
    have hbs : 0 ∉ bs := fun hm => h (List.mem_cons_of_mem b hm)
    simp only [List.cons_append, readCstring, hb, if_false, ih hbs, Outcome.bind]

/-- Reading what was written gives the string back and leaves the rest. -/
theorem readCstr_cstr (s : String) (rest : Bytes) (h : CString s) :
    readCstr (cstr s ++ rest) = .ok (s, rest) := by
  have hread : readCstring (cstr s ++ rest) = .ok (s.toByteArray.data.toList, rest) := by
    simpa [cstr] using readCstring_append _ rest h
  have hutf : String.fromUTF8? s.toByteArray = some s := by
    simp [String.fromUTF8?, String.fromUTF8, s.isValidUTF8]
  simp only [readCstr, hread, Outcome.bind, Array.toArray_toList, hutf]

/-- A string ends at the first null byte, if there is one. -/
theorem readCstring_eq (data : Bytes) :
    readCstring data =
      match data.dropWhile (· != 0) with
      | [] => .err (.libraryBug "read_cstring: no null terminator found")
      | _ :: rest => .ok (data.takeWhile (· != 0), rest) := by
  induction data with
  | nil => rfl
  | cons b rest ih =>
    by_cases hb : b = 0
    · simp [readCstring, hb]
    · rw [readCstring, if_neg hb, ih, List.dropWhile_cons_of_pos (by simp [hb]),
        List.takeWhile_cons_of_pos (by simp [hb])]
      cases rest.dropWhile (· != 0) with
      | nil => rfl
      | cons z rest => rfl

/-! ### Big-endian fields -/

/-- The value of a byte list, as the big-endian library reads it. -/
theorem beNat_eq (bs : Bytes) : beNat bs = BigEndian.nat bs := rfl

/-- A 2-byte number is read back. -/
theorem headU16_bytes {n : Nat} (h : n < 2 ^ 16) (rest : Bytes) :
    headU16 (BigEndian.bytes 2 n ++ rest) = .ok (n, rest) := by
  have hread : beNat (BigEndian.bytes 2 n) = n := by
    rw [beNat_eq]
    exact BigEndian.nat_bytes_of_lt h
  show Outcome.ok (beNat (BigEndian.bytes 2 n), rest) = _
  rw [hread]

/-- A 4-byte number is read back. -/
theorem readU32_bytes (n : UInt32) (rest : Bytes) :
    readU32 (BigEndian.bytes 4 n.toNat ++ rest) = .ok (n, rest) := by
  have hread : beNat (BigEndian.bytes 4 n.toNat) = n.toNat := by
    rw [beNat_eq]
    exact BigEndian.nat_bytes_of_lt n.toNat_lt
  show Outcome.ok (UInt32.ofNat (beNat (BigEndian.bytes 4 n.toNat)), rest) = _
  rw [hread, UInt32.ofNat_toNat]

end ZeroPostgres
