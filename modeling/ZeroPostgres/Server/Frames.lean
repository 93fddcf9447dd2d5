import ZeroPostgres.Lib.PrefixCodec
import ZeroPostgres.Protocol.Builder

/-!
# How the server reads a frontend message

The messages that carry strings of the program, as the server takes them off its input: a string
goes up to the next null byte, a list begins with its count, a length field is signed, counts
itself and must cover the message exactly. Limits of memory are left out.
-/

namespace ZeroPostgres.Frames

open PrefixCodec

/-- A string: UTF-8 up to a null byte. -/
def string : PrefixCodec String :=
  zeroTerminated.via (fun bs => String.fromUTF8? ⟨bs.toArray⟩) utf8Bytes <| by
    intro bs s _
    constructor
    · intro h
      unfold String.fromUTF8? at h
      split at h
      · cases h
        rfl
      · cases h
    · rintro rfl
      simp [utf8Bytes, String.fromUTF8?, String.fromUTF8, s.isValidUTF8]

/-- An OID. -/
def oid : PrefixCodec Oid :=
  (word 4).via (fun n => some (UInt32.ofNat n)) UInt32.toNat <| by
    intro n oid hn
    rw [Option.some.injEq]
    constructor
    · rintro rfl
      exact (UInt32.toNat_ofNat_of_lt' hn).symm
    · rintro rfl
      exact UInt32.ofNat_toNat

/-- Read a parameter: a length, and that many bytes unless it is -1. -/
def readValue (data : Bytes) : Option (Option Bytes × Bytes) :=
  let length := BigEndian.int (data.take 4)
  let body := data.drop 4
  if data.length < 4 then none
  else if length = -1 then some (none, body)
  else if length < 0 ∨ (body.length : Int) < length then none
  else some (some (body.take length.toNat), body.drop length.toNat)

/-- A parameter that can be written: its length fits the length field. -/
def ValidValue : Option Bytes → Prop
  | none => True
  | some data => data.length < 2 ^ 31

theorem readValue_iff {data : Bytes} {v : Option Bytes} {rest : Bytes} :
    readValue data = some (v, rest) ↔ ValidValue v ∧ data = valueBytes v ++ rest := by
  rw [readValue]
  constructor
  · intro h
    split at h
    · cases h
    · next hlen =>
      have htake : (data.take 4).length = 4 := List.length_take_of_le (by omega)
      split at h
      · next hnull =>
        cases h
        have hbytes := BigEndian.intBytes_int (data.take 4)
        rw [htake, hnull] at hbytes
        exact ⟨trivial, by rw [valueBytes, hbytes, List.take_append_drop]⟩
      split at h
      · cases h
      · next hshort =>
        obtain ⟨n, hn⟩ : ∃ n : Nat, BigEndian.int (data.take 4) = (n : Int) :=
          ⟨_, (Int.toNat_of_nonneg (by omega)).symm⟩
        obtain ⟨hlt, hbytes⟩ := BigEndian.int_eq_natCast_iff.mp hn
        rw [htake] at hlt hbytes
        rw [hn] at h hshort
        cases h
        have hbody : ((data.drop 4).take n).length = n := by
          rw [List.length_take]
          omega
        refine ⟨?_, ?_⟩
        · show ((data.drop 4).take n).length < 2 ^ 31
          omega
        · show data = BigEndian.bytes 4 ((data.drop 4).take n).length ++ (data.drop 4).take n ++
            (data.drop 4).drop n
          rw [hbody, ← hbytes, List.append_assoc, List.take_append_drop, List.take_append_drop]
  · rintro ⟨hvalid, rfl⟩
    cases v with
    | none =>
      have hlen := BigEndian.length_intBytes 4 (-1)
      have hnull : BigEndian.int (BigEndian.intBytes 4 (-1)) = -1 :=
        BigEndian.int_intBytes (by decide)
      simp only [valueBytes, List.take_left' hlen, List.drop_left' hlen, hnull]
      simp
    | some v =>
      have hlt : v.length < 2 ^ 31 := hvalid
      have hlen := BigEndian.length_bytes 4 v.length
      have hint : BigEndian.int (BigEndian.bytes 4 v.length) = (v.length : Nat) := by
        rw [BigEndian.int_eq_natCast_iff, hlen]
        exact ⟨by omega, rfl⟩
      simp only [valueBytes, List.append_assoc, List.take_left' hlen, List.drop_left' hlen, hint,
        Int.toNat_natCast, List.take_left' rfl, List.drop_left' rfl]
      rw [if_neg (by simp), if_neg (by omega), if_neg (by simp)]

/-- A parameter: the length -1 for NULL, or a length and that many bytes. -/
def value : PrefixCodec (Option Bytes) where
  write := valueBytes
  Valid := ValidValue
  read := readValue
  read_iff := readValue_iff

/-! ### Messages -/

/-- A message of a type: the length and what it covers. -/
def message {α : Type} (typeByte : UInt8) (body : PrefixCodec α) : PrefixCodec α :=
  tagged typeByte (delimited body)

/-- Query: the SQL text. -/
def query : PrefixCodec String := message 81 string

/-- PasswordMessage: the password. -/
def password : PrefixCodec String := message 112 string

/-- The fields of a Parse: the name, the query and the parameter types. -/
def parseBody : PrefixCodec (String × String × List Oid) :=
  pair string (pair string (counted 2 oid))

/-- Parse. -/
def parse : PrefixCodec (String × String × List Oid) := message 80 parseBody

/-- A Bind message, its format codes as they stand. -/
abbrev BindFields := String × String × List Nat × List (Option Bytes) × List Nat

/-- The fields of a Bind: the portal, the statement, the parameter formats, the parameters and the
result formats. Several parameter formats have to be one for each parameter. -/
def bindBody : PrefixCodec BindFields :=
  (pair string <| pair string <| pair (counted 2 (word 2)) <| pair (counted 2 value) <|
    counted 2 (word 2)).restrict
  fun b => b.2.2.1.length ≤ 1 ∨ b.2.2.1.length = b.2.2.2.1.length

/-- Bind. -/
def bind : PrefixCodec BindFields := message 66 bindBody

/-- A startup parameter: its name is not empty, since the list ends at an empty one. -/
def parameter : PrefixCodec (String × String) := pair (string.restrict (· ≠ "")) string

theorem parameter_marked : parameter.Marked := by
  rintro ⟨name, value⟩ ⟨⟨hname, hne⟩, -⟩
  have hzero : 0 ∉ utf8Bytes name := hname
  cases hbytes : utf8Bytes name with
  | nil =>
    have hempty : name.toByteArray = ByteArray.empty :=
      ByteArray.ext (Array.toList_inj.mp hbytes)
    exact absurd (String.toByteArray_inj.mp hempty) hne
  | cons b bs =>
    refine ⟨b, bs ++ [0] ++ cstr value, ?_, ?_⟩
    · show utf8Bytes name ++ [0] ++ cstr value = _
      rw [hbytes]
      rfl
    · rintro rfl
      rw [hbytes] at hzero
      exact hzero List.mem_cons_self

/-- StartupMessage: the version and the parameters. -/
def startup : PrefixCodec (Nat × List (String × String)) :=
  delimited (pair (word 4) (untilZero parameter parameter_marked))

end ZeroPostgres.Frames
