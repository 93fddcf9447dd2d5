import Mathlib.Data.Rat.Defs
import ZeroPostgres.Conversion.Encode

/-!
# Values of the server

A parameter of a Bind message becomes a value of the type that its OID names. Its bytes are told by
a length; a number in text is digits around a point.
-/

namespace ZeroPostgres

/-- A value of the server. A time is a second of the day and the nanoseconds in it, a timestamp a
second counted from 2000-01-01 00:00:00 and the nanoseconds in it. -/
inductive Datum where
  | null
  | bool (b : Bool)
  | int (i : Int)
  | text (s : String)
  | json (s : String)
  | jsonb (s : String)
  | bytea (bs : Bytes)
  | uuid (bs : Bytes)
  | date (day : Int)
  | dateInfinity (positive : Bool)
  | time (second nano : Nat)
  | timestamp (second : Int) (nano : Nat)
  | timestampInfinity (positive : Bool)
  | numeric (value : Rat)
deriving DecidableEq

namespace Datum

/-- `pq_getmsgtext`: UTF-8 without a null byte. -/
def utf8 (data : Bytes) : Option String :=
  if 0 ∈ data then none else String.fromUTF8? ⟨data.toArray⟩

/-- The digits of a plain decimal number around its point, as `numeric_in` reads them; at least one
digit has to be there. -/
def decimalIn (cs : List Char) : Option Rat :=
  let whole := cs.takeWhile Char.isDigit
  let fraction? : Option (List Char) :=
    match cs.dropWhile Char.isDigit with
    | [] => some []
    | '.' :: fraction => if fraction.all Char.isDigit then some fraction else none
    | _ => none
  match fraction? with
  | some fraction =>
    if whole = [] ∧ fraction = [] then none
    else some (Nat.ofDigitChars 10 (whole ++ fraction) 0 / (10 : Rat) ^ fraction.length)
  | none => none

/-- `numeric_in` on a number without an exponent. -/
def numericIn (data : Bytes) : Option Datum :=
  match utf8 data with
  | some s =>
    match s.toList with
    | '-' :: cs => (decimalIn cs).map fun q => numeric (-q)
    | cs => (decimalIn cs).map numeric
  | none => none

/-- A parameter in a Bind message: the length -1 for NULL, or a length and that many bytes. -/
def readParameter (bs : Bytes) : Option (Option Bytes) :=
  let length := BigEndian.int (bs.take 4)
  if bs.length < 4 then none
  else if length = -1 then if bs.drop 4 = [] then some none else none
  else if length = (bs.drop 4).length then some (some (bs.drop 4)) else none

end Datum

end ZeroPostgres
