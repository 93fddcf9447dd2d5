import ZeroPostgres.Protocol.Authentication
import ZeroPostgres.Protocol.Frontend

/-!
# Columns and values of a result

What a client reads off a parsed RowDescription and DataRow: the fixed-size fields of a column and
the values of a row, `src/src/protocol/backend/query.rs`. `Column` is a column as the server
describes it; the `payload` functions are the server's side of the four messages whose number of
elements varies.
-/

namespace ZeroPostgres

/-- `FormatCode::from_u16`, `src/src/protocol/types.rs:19–25`: unknown codes count as text. -/
def FormatCode.fromU16 (value : Nat) : FormatCode := if value = 1 then .binary else .text

/-- The wire value of a format code. -/
def FormatCode.toU16 : FormatCode → Nat
  | .text => 0
  | .binary => 1

@[simp] theorem FormatCode.fromU16_toU16 (format : FormatCode) :
    FormatCode.fromU16 format.toU16 = format := by
  cases format <;> rfl

/-! ### Columns -/

namespace FieldDescription

variable (f : FieldDescription)

/-- The bytes of the tail from `start` on, `size` of them. -/
def slice (start size : Nat) : Bytes := (f.tail.drop start).take size

/-- `table_oid`, `src/src/protocol/backend/query.rs:41–43`. -/
def tableOid : Oid := UInt32.ofNat (BigEndian.nat (f.slice 0 4))

/-- `column_id`, `src/src/protocol/backend/query.rs:46–48`. -/
def columnId : Int16 := Int16.ofInt (BigEndian.int (f.slice 4 2))

/-- `type_oid`, `src/src/protocol/backend/query.rs:51–53`. -/
def typeOid : Oid := UInt32.ofNat (BigEndian.nat (f.slice 6 4))

/-- `type_size`, `src/src/protocol/backend/query.rs:56–58`. -/
def typeSize : Int16 := Int16.ofInt (BigEndian.int (f.slice 10 2))

/-- `type_modifier`, `src/src/protocol/backend/query.rs:61–63`. -/
def typeModifier : Int32 := Int32.ofInt (BigEndian.int (f.slice 12 4))

/-- `format`, `src/src/protocol/backend/query.rs:66–68`. -/
def format : FormatCode := FormatCode.fromU16 (BigEndian.nat (f.slice 16 2))

end FieldDescription

/-- A column of a result, as the server describes it. -/
structure Column where
  name : String
  tableOid : Oid
  columnId : Int16
  typeOid : Oid
  typeSize : Int16
  typeModifier : Int32
  format : FormatCode
deriving DecidableEq

/-- The column that a parsed field description stands for. -/
def FieldDescription.column (f : FieldDescription) : Column :=
  ⟨f.name, f.tableOid, f.columnId, f.typeOid, f.typeSize, f.typeModifier, f.format⟩

/-- The fixed-size tail of a column on the wire. -/
def Column.tail (c : Column) : Bytes :=
  BigEndian.bytes 4 c.tableOid.toNat ++ BigEndian.intBytes 2 c.columnId.toInt ++
    BigEndian.bytes 4 c.typeOid.toNat ++ BigEndian.intBytes 2 c.typeSize.toInt ++
    BigEndian.intBytes 4 c.typeModifier.toInt ++ BigEndian.bytes 2 c.format.toU16

/-- A column on the wire. -/
def Column.payload (c : Column) : Bytes := cstr c.name ++ c.tail

@[simp] theorem Column.length_tail (c : Column) : c.tail.length = tailSize := by
  simp [Column.tail, tailSize]

private theorem readOid (n : Oid) :
    UInt32.ofNat (BigEndian.nat (BigEndian.bytes 4 n.toNat)) = n := by
  rw [BigEndian.nat_bytes_of_lt n.toNat_lt, UInt32.ofNat_toNat]

private theorem readInt16 (i : Int16) :
    Int16.ofInt (BigEndian.int (BigEndian.intBytes 2 i.toInt)) = i := by
  have hlt := i.toInt_lt
  have hle := i.le_toInt
  rw [BigEndian.int_intBytes (by constructor <;> omega), Int16.ofInt_toInt]

private theorem readInt32 (i : Int32) :
    Int32.ofInt (BigEndian.int (BigEndian.intBytes 4 i.toInt)) = i := by
  have hlt := i.toInt_lt
  have hle := i.le_toInt
  rw [BigEndian.int_intBytes (by constructor <;> omega), Int32.ofInt_toInt]

private theorem readFormat (format : FormatCode) :
    FormatCode.fromU16 (BigEndian.nat (BigEndian.bytes 2 format.toU16)) = format := by
  have hlt : format.toU16 < 256 ^ 2 := by cases format <;> decide
  rw [BigEndian.nat_bytes_of_lt hlt, FormatCode.fromU16_toU16]

/-- A parsed tail shows the column it was written from. -/
theorem FieldDescription.column_tail (c : Column) :
    (⟨c.name, c.tail⟩ : FieldDescription).column = c := by
  -- the fields of the tail have fixed widths, so each slice computes to the field it cuts out
  show Column.mk c.name (UInt32.ofNat (BigEndian.nat (BigEndian.bytes 4 c.tableOid.toNat)))
    (Int16.ofInt (BigEndian.int (BigEndian.intBytes 2 c.columnId.toInt)))
    (UInt32.ofNat (BigEndian.nat (BigEndian.bytes 4 c.typeOid.toNat)))
    (Int16.ofInt (BigEndian.int (BigEndian.intBytes 2 c.typeSize.toInt)))
    (Int32.ofInt (BigEndian.int (BigEndian.intBytes 4 c.typeModifier.toInt)))
    (FormatCode.fromU16 (BigEndian.nat (BigEndian.bytes 2 c.format.toU16))) = c
  rw [readOid, readInt16, readOid, readInt16, readInt32, readFormat]

/-- The payload of a RowDescription. -/
def RowDescription.payload (columns : List Column) : Bytes :=
  BigEndian.bytes 2 columns.length ++ columns.flatMap Column.payload

/-! ### Rows -/

/-- `DataRowIter::next`, `src/src/protocol/backend/query.rs:195–213`: the next value, a NULL being
`none`, and the bytes after it. A length below -1 is a size no slice has. -/
def DataRowIter.next : Bytes → Option (Option Bytes × Bytes)
  | a :: b :: c :: d :: remaining =>
    let len := BigEndian.int [a, b, c, d]
    if len = -1 then some (none, remaining)
    else if len < 0 ∨ remaining.length < len.toNat then none
    else some (some (remaining.take len.toNat), remaining.drop len.toNat)
  | _ => none

/-- The values an iterator gives until it ends. Each takes at least four bytes, so the number of
bytes bounds the rounds. -/
def DataRowIter.collect : Nat → Bytes → List (Option Bytes)
  | 0, _ => []
  | fuel + 1, data =>
    match DataRowIter.next data with
    | none => []
    | some (value, remaining) => value :: DataRowIter.collect fuel remaining

/-- `DataRow::iter`, `src/src/protocol/backend/query.rs:164–168`, run to its end. -/
def DataRow.values (row : DataRow) : List (Option Bytes) :=
  DataRowIter.collect row.columnsData.length row.columnsData

/-- A value with its length before it; a NULL is the length -1 alone. -/
def valueBytes : Option Bytes → Bytes
  | none => BigEndian.intBytes 4 (-1)
  | some value => BigEndian.bytes 4 value.length ++ value

/-- The payload of a DataRow. -/
def DataRow.payload (values : List (Option Bytes)) : Bytes :=
  BigEndian.bytes 2 values.length ++ values.flatMap valueBytes

/-- The length of a NULL. -/
theorem valueBytes_none : valueBytes none = [255, 255, 255, 255] := by
  decide +kernel

theorem four_le_length_valueBytes (value : Option Bytes) : 4 ≤ (valueBytes value).length := by
  cases value with
  | none => simp [valueBytes]
  | some value => simp [valueBytes]

/-- The iterator reads the value that was written. -/
theorem DataRowIter.next_valueBytes {value : Option Bytes}
    (h : ∀ bs, value = some bs → bs.length < 2 ^ 31) (rest : Bytes) :
    DataRowIter.next (valueBytes value ++ rest) = some (value, rest) := by
  cases value with
  | none =>
    have hint : BigEndian.int [255, 255, 255, 255] = -1 := by decide +kernel
    rw [valueBytes_none]
    simp only [List.cons_append, List.nil_append, DataRowIter.next, hint, if_true]
  | some bs =>
    have hlen : bs.length < 2 ^ 31 := h bs rfl
    have hint : BigEndian.int (BigEndian.bytes 4 bs.length) = bs.length := by
      rw [BigEndian.int, BigEndian.nat_bytes_of_lt (by omega), BigEndian.length_bytes,
        if_pos (by omega)]
    obtain ⟨a, b, c, d, hbytes⟩ :
        ∃ a b c d, BigEndian.bytes 4 bs.length = [a, b, c, d] := ⟨_, _, _, _, rfl⟩
    rw [hbytes] at hint
    rw [valueBytes, hbytes]
    simp only [List.cons_append, List.nil_append, DataRowIter.next, hint, Int.toNat_natCast]
    rw [if_neg (by omega), if_neg (by simp), List.take_left, List.drop_left]

/-! ### Parameters and errors -/

/-- The payload of a ParameterDescription. -/
def ParameterDescription.payload (oids : List Oid) : Bytes :=
  BigEndian.bytes 2 oids.length ++ oids.flatMap fun oid => BigEndian.bytes 4 oid.toNat

/-- The payload of an ErrorResponse, its fields in the order given. -/
def ErrorResponse.payload (fields : List (UInt8 × String)) : Bytes :=
  (fields.flatMap fun field => field.1 :: cstr field.2) ++ [0]

end ZeroPostgres
