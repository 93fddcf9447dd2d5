import ZeroPostgres.Conversion.Encode
import ZeroPostgres.Conversion.RefRow

/-!
# Integers as parameters and in rows

`src/src/conversion/primitives.rs:59–375` with the buffer the encoders write to. Every integer type
encodes to each of the three integer types of the server: through `try_from` where a value might not
fit, with `as` elsewhere, which keeps the low bytes. Only `i16`, `i32` and `i64` decode.
`encode_eq` says that the encoders append what `encodeInteger` gives, or nothing, and
`integer_lossless` that no value is changed on the way there and back.
-/

namespace ZeroPostgres

/-- The integer types with an implementation of `ToWireValue`. -/
inductive IntegerType where
  | i8 | i16 | i32 | i64 | u8 | u16 | u32 | u64
deriving DecidableEq, Repr

namespace IntegerType

/-- The name an overflow reports. -/
def name : IntegerType → String
  | i8 => "i8" | i16 => "i16" | i32 => "i32" | i64 => "i64"
  | u8 => "u8" | u16 => "u16" | u32 => "u32" | u64 => "u64"

/-- `natural_oid`. -/
def naturalOid : IntegerType → Oid
  | i8 | i16 | u8 => oid.int2
  | i32 | u16 => oid.int4
  | i64 | u32 | u64 => oid.int8

/-- The values of the type. -/
def Holds : IntegerType → Int → Prop
  | i8, v => BigEndian.Fits 1 v
  | i16, v => BigEndian.Fits 2 v
  | i32, v => BigEndian.Fits 4 v
  | i64, v => BigEndian.Fits 8 v
  | u8, v => 0 ≤ v ∧ v < 2 ^ 8
  | u16, v => 0 ≤ v ∧ v < 2 ^ 16
  | u32, v => 0 ≤ v ∧ v < 2 ^ 32
  | u64, v => 0 ≤ v ∧ v < 2 ^ 64

/-- The widths in bytes a value is converted to by `try_from`; to the others it is cast. -/
def tries : IntegerType → Nat → Bool
  | i8, _ | i16, _ | u8, _ => false
  | i32, width | u16, width => width == 2
  | i64, width | u32, width => width == 2 || width == 4
  | u64, width => width == 2 || width == 4 || width == 8

end IntegerType

/-- `buf.extend_from_slice`. -/
def extendFromSlice (bs : Bytes) : Act Error Bytes Unit := Act.modify (· ++ bs)

/-- A value of one of the integer types. -/
structure Integer where
  type : IntegerType
  value : Int
  holds : type.Holds value

namespace Integer

/-- One target: the conversion, the length and the bytes. -/
def put (v : Integer) (width : Nat) (pgType : String) : Act Error Bytes Unit := do
  if v.type.tries width && !decide (BigEndian.Fits width v.value) then
    Act.fail (.overflow v.type.name pgType)
  extendFromSlice (BigEndian.bytes 4 width)
  extendFromSlice (BigEndian.intBytes width v.value)

/-- `encode`. -/
def encode (v : Integer) (target : Oid) : Act Error Bytes Unit :=
  if target = oid.int2 then v.put 2 "INT2"
  else if target = oid.int4 then v.put 4 "INT4"
  else if target = oid.int8 then v.put 8 "INT8"
  else Act.fail (.typeMismatch v.type.naturalOid target)

end Integer

/-! ### Decoding -/

/-- `i16::from_binary`, lines 71–79. -/
def I16.fromBinary (target : Oid) (bs : Bytes) : Parsed Int16 :=
  if target ≠ oid.int2 then
    .err (.decode ("cannot decode oid " ++ toString target ++ " as i16"))
  else if bs.length ≠ 2 then .err (.decode ("invalid i16 length: " ++ toString bs.length))
  else .ok (Int16.ofInt (BigEndian.int bs))

/-- `i32::from_binary`, lines 118–134. -/
def I32.fromBinary (target : Oid) (bs : Bytes) : Parsed Int32 :=
  if target = oid.int2 then
    if bs.length ≠ 2 then .err (.decode ("invalid i16 length: " ++ toString bs.length))
    else .ok (Int16.ofInt (BigEndian.int bs)).toInt32
  else if target = oid.int4 then
    if bs.length ≠ 4 then .err (.decode ("invalid i32 length: " ++ toString bs.length))
    else .ok (Int32.ofInt (BigEndian.int bs))
  else .err (.decode ("cannot decode oid " ++ toString target ++ " as i32"))

/-- `i64::from_binary`, lines 175–197. -/
def I64.fromBinary (target : Oid) (bs : Bytes) : Parsed Int64 :=
  if target = oid.int2 then
    if bs.length ≠ 2 then .err (.decode ("invalid i16 length: " ++ toString bs.length))
    else .ok (Int16.ofInt (BigEndian.int bs)).toInt64
  else if target = oid.int4 then
    if bs.length ≠ 4 then .err (.decode ("invalid i32 length: " ++ toString bs.length))
    else .ok (Int32.ofInt (BigEndian.int bs)).toInt64
  else if target = oid.int8 then
    if bs.length ≠ 8 then .err (.decode ("invalid i64 length: " ++ toString bs.length))
    else .ok (Int64.ofInt (BigEndian.int bs))
  else .err (.decode ("cannot decode oid " ++ toString target ++ " as i64"))

/-- The integer types of the server. -/
inductive IntegerOid where
  | int2 | int4 | int8
deriving DecidableEq, Repr

namespace IntegerOid

def oid : IntegerOid → Oid
  | int2 => ZeroPostgres.oid.int2
  | int4 => ZeroPostgres.oid.int4
  | int8 => ZeroPostgres.oid.int8

def width : IntegerOid → Nat
  | int2 => 2
  | int4 => 4
  | int8 => 8

/-- The type of the same width. -/
def rustType : IntegerOid → IntegerType
  | int2 => .i16
  | int4 => .i32
  | int8 => .i64

end IntegerOid

/-- `from_binary` of the types that have it, with the number a machine integer stands for. -/
def IntegerType.fromBinary : IntegerType → Option (Oid → Bytes → Parsed Int)
  | i16 => some fun target bs => (I16.fromBinary target bs).bind fun n => .ok n.toInt
  | i32 => some fun target bs => (I32.fromBinary target bs).bind fun n => .ok n.toInt
  | i64 => some fun target bs => (I64.fromBinary target bs).bind fun n => .ok n.toInt
  | i8 | u8 | u16 | u32 | u64 => none

/-! ### Encoding is exact -/

/-- Where a value is cast, it fits. -/
theorem IntegerType.Holds.fits {t : IntegerType} {v : Int} (h : t.Holds v) {o : IntegerOid}
    (htries : t.tries o.width = false) : BigEndian.Fits o.width v := by
  cases t <;> cases o <;> simp only [tries, IntegerOid.width] at htries ⊢ <;>
    first
    | exact absurd htries (by decide)
    | (obtain ⟨hlow, hhigh⟩ := h
       constructor <;> omega)

/-- What an encoder that fails before it writes does to a buffer. -/
def appended (encoded : Parsed Bytes) (buf : Bytes) : Outcome Error Unit × Bytes :=
  match encoded with
  | .ok bs => (.ok (), buf ++ bs)
  | .err e => (.err e, buf)
  | .halt => (.halt, buf)

namespace Integer

variable (v : Integer) (o : IntegerOid) (buf : Bytes)

theorem put_eq (pgType : String) :
    v.put o.width pgType buf = appended (encodeWidth o.width v.type.name pgType v.value) buf := by
  have hlen : valueBytes (some (BigEndian.intBytes o.width v.value)) =
      BigEndian.bytes 4 o.width ++ BigEndian.intBytes o.width v.value := by
    rw [valueBytes, BigEndian.length_intBytes]
  by_cases hfits : BigEndian.Fits o.width v.value
  · simp [put, encodeWidth, hfits, extendFromSlice, appended, hlen, Act.bind_run]
  · have htries : v.type.tries o.width = true := by
      by_contra htries
      exact hfits (v.holds.fits (by simpa using htries))
    simp [put, encodeWidth, hfits, htries, appended, Act.bind_run]

/-- The encoders append what the model without a buffer gives. -/
theorem encode_eq (target : Oid) :
    v.encode target buf =
      appended (encodeInteger v.type.naturalOid v.type.name v.value target) buf := by
  unfold encode encodeInteger
  split
  · exact v.put_eq .int2 buf "INT2"
  split
  · exact v.put_eq .int4 buf "INT4"
  split
  · exact v.put_eq .int8 buf "INT8"
  · rfl

/-- The length and the number are appended where it fits, and nothing where it does not. -/
theorem encode_integer :
    (BigEndian.Fits o.width v.value ∧ v.encode o.oid buf =
      (.ok (), buf ++ valueBytes (some (BigEndian.intBytes o.width v.value)))) ∨
    (¬ BigEndian.Fits o.width v.value ∧ ∃ e, v.encode o.oid buf = (.err e, buf)) := by
  have hwidth : ∃ pgType, encodeInteger v.type.naturalOid v.type.name v.value o.oid =
      encodeWidth o.width v.type.name pgType v.value := by
    cases o
    exacts [⟨_, rfl⟩, ⟨_, rfl⟩, ⟨_, rfl⟩]
  obtain ⟨pgType, hencode⟩ := hwidth
  rw [encode_eq, hencode, encodeWidth]
  by_cases hfits : BigEndian.Fits o.width v.value
  · rw [if_pos hfits]
    exact .inl ⟨hfits, rfl⟩
  · rw [if_neg hfits]
    exact .inr ⟨hfits, _, rfl⟩

end Integer

/-- The machine integers among the values. -/
def Value.integer? {crates : Crates} : Value crates → Option Integer
  | .i8 v => Option.some ⟨.i8, v.toInt, by
      have hlow := v.le_toInt
      have hhigh := v.toInt_lt
      constructor <;> omega⟩
  | .i16 v => Option.some ⟨.i16, v.toInt, by
      have hlow := v.le_toInt
      have hhigh := v.toInt_lt
      constructor <;> omega⟩
  | .i32 v => Option.some ⟨.i32, v.toInt, by
      have hlow := v.le_toInt
      have hhigh := v.toInt_lt
      constructor <;> omega⟩
  | .i64 v => Option.some ⟨.i64, v.toInt, by
      have hlow := v.le_toInt
      have hhigh := v.toInt_lt
      constructor <;> omega⟩
  | .u8 v => Option.some ⟨.u8, v.toNat, by
      have hhigh := v.toNat_lt
      constructor <;> omega⟩
  | .u16 v => Option.some ⟨.u16, v.toNat, by
      have hhigh := v.toNat_lt
      constructor <;> omega⟩
  | .u32 v => Option.some ⟨.u32, v.toNat, by
      have hhigh := v.toNat_lt
      constructor <;> omega⟩
  | .u64 v => Option.some ⟨.u64, v.toNat, by
      have hhigh := v.toNat_lt
      constructor <;> omega⟩
  | _ => Option.none

theorem Value.encode_of_integer {crates : Crates} {v : Value crates} {n : Integer}
    (h : v.integer? = Option.some n) (target : Oid) (buf : Bytes) :
    n.encode target buf = appended (v.encode target) buf := by
  cases v
  case i8 | i16 | i32 | i64 | u8 | u16 | u32 | u64 =>
    cases h
    exact Integer.encode_eq _ buf target
  all_goals cases h

/-! ### Decoding is exact -/

variable {bs : Bytes}

theorem toInt_i16 (hlen : bs.length = 2) :
    (Int16.ofInt (BigEndian.int bs)).toInt = BigEndian.int bs := by
  obtain ⟨hlow, hhigh⟩ := hlen ▸ BigEndian.fits_int bs
  exact Int16.toInt_ofInt_of_le (by omega) (by omega)

theorem toInt_i32 (hlen : bs.length = 4) :
    (Int32.ofInt (BigEndian.int bs)).toInt = BigEndian.int bs := by
  obtain ⟨hlow, hhigh⟩ := hlen ▸ BigEndian.fits_int bs
  exact Int32.toInt_ofInt_of_le (by omega) (by omega)

theorem toInt_i64 (hlen : bs.length = 8) :
    (Int64.ofInt (BigEndian.int bs)).toInt = BigEndian.int bs := by
  obtain ⟨hlow, hhigh⟩ := hlen ▸ BigEndian.fits_int bs
  exact Int64.toInt_ofInt_of_le (by omega) (by omega)

/-- A machine integer read from a payload stands for the number in it. -/
theorem bind_eq_readInt {α : Type} {toInt : α → Int} {n : α} {width : Nat} (rustType : String)
    (hn : bs.length = width → toInt n = BigEndian.int bs) :
    Outcome.bind (if bs.length ≠ width then
        .err (.decode ("invalid " ++ rustType ++ " length: " ++ toString bs.length))
      else .ok n : Parsed α) (fun n => .ok (toInt n)) = readInt width rustType bs := by
  rw [readInt]
  by_cases hlen : bs.length = width
  · rw [if_neg (not_not_intro hlen), if_pos hlen, ← hn hlen]
    rfl
  · rw [if_pos hlen, if_neg hlen]
    rfl

theorem I16.fromBinary_toInt (target : Oid) :
    ((I16.fromBinary target bs).bind fun n => .ok n.toInt) = i16FromBinary target bs := by
  rw [I16.fromBinary, i16FromBinary]
  by_cases h2 : target = oid.int2
  · rw [if_neg (not_not_intro h2), if_pos h2]
    exact bind_eq_readInt "i16" toInt_i16
  · rw [if_pos h2, if_neg h2]
    rfl

theorem I32.fromBinary_toInt (target : Oid) :
    ((I32.fromBinary target bs).bind fun n => .ok n.toInt) = i32FromBinary target bs := by
  rw [I32.fromBinary, i32FromBinary]
  by_cases h2 : target = oid.int2
  · rw [if_pos h2, if_pos h2]
    exact bind_eq_readInt "i16" fun hlen => (Int16.toInt_toInt32 _).trans (toInt_i16 hlen)
  rw [if_neg h2, if_neg h2]
  by_cases h4 : target = oid.int4
  · rw [if_pos h4, if_pos h4]
    exact bind_eq_readInt "i32" toInt_i32
  · rw [if_neg h4, if_neg h4]
    rfl

theorem I64.fromBinary_toInt (target : Oid) :
    ((I64.fromBinary target bs).bind fun n => .ok n.toInt) = i64FromBinary target bs := by
  rw [I64.fromBinary, i64FromBinary]
  by_cases h2 : target = oid.int2
  · rw [if_pos h2, if_pos h2]
    exact bind_eq_readInt "i16" fun hlen => (Int16.toInt_toInt64 _).trans (toInt_i16 hlen)
  rw [if_neg h2, if_neg h2]
  by_cases h4 : target = oid.int4
  · rw [if_pos h4, if_pos h4]
    exact bind_eq_readInt "i32" fun hlen => (Int32.toInt_toInt64 _).trans (toInt_i32 hlen)
  rw [if_neg h4, if_neg h4]
  by_cases h8 : target = oid.int8
  · rw [if_pos h8, if_pos h8]
    exact bind_eq_readInt "i64" toInt_i64
  · rw [if_neg h8, if_neg h8]
    rfl

theorem readInt_exact (width : Nat) (rustType : String) (bs : Bytes) :
    (bs.length = width ∧ readInt width rustType bs = .ok (BigEndian.int bs)) ∨
      ∃ text, readInt width rustType bs = .err (.decode text) := by
  rw [readInt]
  split
  · exact .inl ⟨‹_›, rfl⟩
  · exact .inr ⟨_, rfl⟩

/-- A type decodes the number of a payload of the target's width, or fails. -/
theorem IntegerType.fromBinary_exact {t : IntegerType} {read : Oid → Bytes → Parsed Int}
    (hread : t.fromBinary = some read) (o : IntegerOid) (bs : Bytes) :
    (bs.length = o.width ∧ read o.oid bs = .ok (BigEndian.int bs)) ∨
      ∃ text, read o.oid bs = .err (.decode text) := by
  cases t
  case i16 =>
    cases hread
    simp only [I16.fromBinary_toInt]
    cases o
    case int2 => exact readInt_exact 2 "i16" bs
    case int4 | int8 => exact .inr ⟨_, rfl⟩
  case i32 =>
    cases hread
    simp only [I32.fromBinary_toInt]
    cases o
    case int2 => exact readInt_exact 2 "i16" bs
    case int4 => exact readInt_exact 4 "i32" bs
    case int8 => exact .inr ⟨_, rfl⟩
  case i64 =>
    cases hread
    simp only [I64.fromBinary_toInt]
    cases o
    case int2 => exact readInt_exact 2 "i16" bs
    case int4 => exact readInt_exact 4 "i32" bs
    case int8 => exact readInt_exact 8 "i64" bs
  all_goals cases hread

/-- The type of a target's width decodes every payload of that width. -/
theorem IntegerOid.fromBinary_ok (o : IntegerOid) :
    ∃ read, o.rustType.fromBinary = some read ∧
      ∀ bs : Bytes, bs.length = o.width → read o.oid bs = .ok (BigEndian.int bs) := by
  cases o
  case int2 => exact ⟨_, rfl, fun bs hlen => (I16.fromBinary_toInt _).trans (if_pos hlen)⟩
  case int4 => exact ⟨_, rfl, fun bs hlen => (I32.fromBinary_toInt _).trans (if_pos hlen)⟩
  case int8 => exact ⟨_, rfl, fun bs hlen => (I64.fromBinary_toInt _).trans (if_pos hlen)⟩

/-- Every integer type encodes a value to each of the three targets if it fits there, and leaves
the buffer alone otherwise; what was appended is a payload that the type of the target decodes to
the value, and every type decodes a payload of the target exactly or fails. -/
theorem integer_lossless (v : Integer) (o : IntegerOid) (buf : Bytes) :
    ((v.encode o.oid buf).1 = .ok () ↔ BigEndian.Fits o.width v.value) ∧
    ((v.encode o.oid buf).1 = .ok () → ∃ payload read,
      (v.encode o.oid buf).2 = buf ++ valueBytes (some payload) ∧
      o.rustType.fromBinary = some read ∧ read o.oid payload = .ok v.value ∧
      ∀ (t : IntegerType) (read' : Oid → Bytes → Parsed Int), t.fromBinary = some read' →
        read' o.oid payload = .ok v.value ∨ ∃ text, read' o.oid payload = .err (.decode text)) ∧
    ((v.encode o.oid buf).1 ≠ .ok () →
      (∃ e, (v.encode o.oid buf).1 = .err e) ∧ (v.encode o.oid buf).2 = buf) := by
  rcases v.encode_integer o buf with ⟨hfits, hrun⟩ | ⟨hfits, e, hrun⟩
  · obtain ⟨read, hread, hdecode⟩ := o.fromBinary_ok
    have hlen := BigEndian.length_intBytes o.width v.value
    have hint := BigEndian.int_intBytes hfits
    rw [hrun]
    refine ⟨⟨fun _ => hfits, fun _ => rfl⟩, fun _ => ⟨_, read, rfl, hread, ?_, ?_⟩,
      fun h => absurd rfl h⟩
    · rw [hdecode _ hlen, hint]
    · intro t read' hread'
      have hexact := IntegerType.fromBinary_exact hread' o (BigEndian.intBytes o.width v.value)
      rw [hint] at hexact
      exact hexact.imp_left And.right
  · rw [hrun]
    refine ⟨⟨fun h => ?_, fun h => absurd h hfits⟩, fun h => ?_, fun _ => ⟨⟨e, rfl⟩, rfl⟩⟩
    · cases h
    · cases h

end ZeroPostgres
