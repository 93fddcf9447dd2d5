import ZeroPostgres.Protocol.Rows

/-!
# Types that travel as parameters

The OIDs the conversions of `src/src/conversion/` know, the errors they build and the calendar in
which days are counted. The crates whose values they convert are in `Conversion.Crates`.
-/

namespace ZeroPostgres

/-! ### OIDs, `src/src/protocol/types.rs:94–313` -/

namespace oid

abbrev bool : Oid := 16
abbrev bytea : Oid := 17
abbrev name : Oid := 19
abbrev int8 : Oid := 20
abbrev int2 : Oid := 21
abbrev int4 : Oid := 23
abbrev text : Oid := 25
abbrev json : Oid := 114
abbrev bpchar : Oid := 1042
abbrev varchar : Oid := 1043
abbrev date : Oid := 1082
abbrev time : Oid := 1083
abbrev timestamp : Oid := 1114
abbrev timestamptz : Oid := 1184
abbrev numeric : Oid := 1700
abbrev uuid : Oid := 2950
abbrev jsonb : Oid := 3802

end oid

/-- `Error::overflow`, `src/src/error.rs:226–228`. -/
def Error.overflow (src dst : String) : Error :=
  .encode ("value overflow: cannot convert " ++ src ++ " to " ++ dst)

/-- `Error::type_mismatch`, `src/src/error.rs:231–236`. -/
def Error.typeMismatch (valueOid targetOid : Oid) : Error :=
  .encode ("type mismatch: value has OID " ++ toString valueOid ++ " but target expects OID " ++
    toString targetOid)

/-! ### Dates -/

/-- Days from 2000-01-01 to a date of the proleptic Gregorian calendar. Years are counted from
March, so that a leap day ends its year. -/
def daysFromCivil (year : Int) (month day : Nat) : Int :=
  let y := if month ≤ 2 then year - 1 else year
  let dayOfYear : Int := (153 * ((month : Int) + if month ≤ 2 then 9 else -3) + 2) / 5 + day - 1
  365 * y + y / 4 - y / 100 + y / 400 + dayOfYear - 730425

/-- 2000-01-01 as a Julian day number, `src/src/conversion/mod.rs:29`. -/
def pgEpochJulianDay : Int := 2451545

example : daysFromCivil 2000 1 1 = 0 := by decide

example : daysFromCivil 2024 1 15 = 8780 := by decide

/-- 4714-11-24 BC is Julian day 0. -/
example : daysFromCivil (-4713) 11 24 = -pgEpochJulianDay := by decide

/-- Whole microseconds, and no leap second. -/
def WholeMicros (nano : Nat) : Prop := nano < 1000000000 ∧ 1000 ∣ nano

instance (nano : Nat) : Decidable (WholeMicros nano) := inferInstanceAs (Decidable (_ ∧ _))

/-- `uuid::Uuid`, as `as_bytes` shows it. -/
abbrev Uuid := Vector UInt8 16

end ZeroPostgres
