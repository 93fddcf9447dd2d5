import Mathlib.Data.Fin.Tuple.Basic
import ZeroPostgres.Conversion.Types

/-!
# Decoding rows

`FromRow` for tuples, `src/src/conversion/row.rs`, and as `#[derive(FromRow)]` generates it,
`src/zero-postgres-derive/src/lib.rs`. Both step through the columns and the values side by side,
and take a value that the iterator does not give for a NULL. The types of the fields are parameters:
`tupleFromRow_ok_iff` and `Struct.fromRow_ok_iff` say what comes out in terms of what they decode.
-/

namespace ZeroPostgres

/-- An implementation of `FromWireValue`, `src/src/conversion/mod.rs:40–60`. -/
structure FromWireValue (α : Type) where
  fromNull : Parsed α
  fromText : Oid → Bytes → Parsed α
  fromBinary : Oid → Bytes → Parsed α

namespace FromWireValue

variable {α : Type}

/-- `from_null` of a type that does not override it, `src/src/conversion/mod.rs:45–47`. -/
def noNull : Parsed α := .err (.decode "unexpected NULL value")

/-- `Option<T>`, `src/src/conversion/mod.rs:112–124`. -/
def option (type : FromWireValue α) : FromWireValue (Option α) where
  fromNull := .ok none
  fromText oid bytes := (type.fromText oid bytes).bind fun v => .ok (some v)
  fromBinary oid bytes := (type.fromBinary oid bytes).bind fun v => .ok (some v)

/-- `&[u8]`, `src/src/conversion/bytes.rs:8–25`. -/
def slice : FromWireValue Bytes where
  fromNull := noNull
  fromText source bytes :=
    if source = oid.bytea then .ok bytes
    else .err (.decode ("cannot decode oid " ++ toString source ++ " as bytes"))
  fromBinary source bytes :=
    if source = oid.bytea then .ok bytes
    else .err (.decode ("cannot decode oid " ++ toString source ++ " as bytes"))

/-- `decode_column_text` and `decode_column_binary`, `src/src/conversion/row.rs:16–36`. -/
def decodeColumn (type : FromWireValue α) (format : FormatCode) (field : FieldDescription) :
    Option Bytes → Parsed α
  | none => type.fromNull
  | some bytes =>
    match format with
    | .text => type.fromText field.typeOid bytes
    | .binary => type.fromBinary field.typeOid bytes

end FromWireValue

/-! ### The iterator -/

namespace DataRowIter

/-- `next`, `src/src/protocol/backend/query.rs:195–213`, with the bytes the iterator keeps: a length
that the bytes do not cover has been taken off them when it gives up. -/
def advance : Bytes → Option (Option Bytes) × Bytes
  | a :: b :: c :: d :: remaining =>
    let len := BigEndian.int [a, b, c, d]
    if len = -1 then (some none, remaining)
    else if len < 0 ∨ remaining.length < len.toNat then (none, remaining)
    else (some (some (remaining.take len.toNat)), remaining.drop len.toNat)
  | data => (none, data)

/-- The bytes after a number of calls. -/
def after : Nat → Bytes → Bytes
  | 0, data => data
  | calls + 1, data => after calls (advance data).2

/-- `iter.next().flatten()`: what is read where there is no value counts as NULL. -/
def cell (data : Bytes) : Option Bytes := (advance data).1.join

theorem advance_valueBytes {value : Option Bytes}
    (h : ∀ bs, value = some bs → bs.length < 2 ^ 31) (rest : Bytes) :
    advance (valueBytes value ++ rest) = (some value, rest) := by
  have hnext := next_valueBytes h rest
  have hfour := four_le_length_valueBytes value
  match hbytes : valueBytes value ++ rest with
  | [] | [_] | [_, _] | [_, _, _] =>
    have hlen := congrArg List.length hbytes
    simp only [List.length_append, List.length_nil, List.length_cons] at hlen
    omega
  | a :: b :: c :: d :: remaining =>
    rw [hbytes, next] at hnext
    rw [advance]
    split at hnext
    · next hnull =>
      cases hnext
      exact if_pos hnull
    · next hnull =>
      split at hnext
      · cases hnext
      · next hcovered =>
        cases hnext
        rw [if_neg hnull, if_neg hcovered]

end DataRowIter

/-! ### Tuples -/

open DataRowIter FromWireValue

/-- The components of a tuple, lines 58–60 and 67–69: each takes its column and the next value. -/
def decodeTuple (format : FormatCode) : {n : Nat} → {α : Fin n → Type} →
    ((i : Fin n) → FromWireValue (α i)) → List FieldDescription → Bytes →
    Parsed ((i : Fin n) → α i)
  | 0, _, _, _, _ => .ok fun i => i.elim0
  | _ + 1, _, _, [], _ => .halt
  | _ + 1, _, types, field :: cols, data => do
    let first ← (types 0).decodeColumn format field (cell data)
    let rest ← decodeTuple format (fun i => types i.succ) cols (advance data).2
    .ok (Fin.cons first rest)

/-- `FromRow` for a tuple, `src/src/conversion/row.rs:51–73`; the empty tuple reads nothing. -/
def tupleFromRow (format : FormatCode) {n : Nat} {α : Fin n → Type}
    (types : (i : Fin n) → FromWireValue (α i)) (cols : List FieldDescription) (row : DataRow) :
    Parsed ((i : Fin n) → α i) :=
  if cols.length < n then .err (.decode "not enough columns for tuple")
  else decodeTuple format types cols row.columnsData

/-! ### Derived structs -/

/-- A struct with named fields that derives `FromRow`. -/
structure Struct (n : Nat) (α : Fin n → Type) where
  name : Fin n → String
  name_injective : Function.Injective name
  type : (i : Fin n) → FromWireValue (α i)
  strict : Bool

namespace Struct

variable {n : Nat} {α : Fin n → Type}

/-- The field whose match arm a column name takes. -/
def field? (s : Struct n α) (name : String) : Option (Fin n) :=
  (List.finRange n).find? fun i => s.name i = name

/-- The loop over the columns, `src/zero-postgres-derive/src/lib.rs:196–205`: a field decoded is
written over what its slot held. -/
def readColumns (s : Struct n α) (format : FormatCode) : List FieldDescription → Bytes →
    ((i : Fin n) → Option (α i)) → Parsed ((i : Fin n) → Option (α i))
  | [], _, slots => .ok slots
  | field :: cols, data, slots =>
    match s.field? field.name with
    | some i => do
      let v ← (s.type i).decodeColumn format field (cell data)
      readColumns s format cols (advance data).2 (Function.update slots i (some v))
    | none =>
      if s.strict then .err (.decode ("unknown column: " ++ field.name))
      else readColumns s format cols (advance data).2 slots

/-- The checks of the flags and the struct that is built: the first field without a value is
reported. -/
def build (s : Struct n α) (slots : (i : Fin n) → Option (α i)) : Parsed ((i : Fin n) → α i) :=
  if h : ∀ i, (slots i).isSome then .ok fun i => (slots i).get (h i)
  else
    let missing := (List.finRange n).find? fun i => (slots i).isNone
    .err (.decode ("missing column: " ++ (missing.map s.name).getD ""))

/-- `from_row_text` and `from_row_binary` as generated, lines 187–239. -/
def fromRow (s : Struct n α) (format : FormatCode) (cols : List FieldDescription) (row : DataRow) :
    Parsed ((i : Fin n) → α i) := do
  let slots ← s.readColumns format cols row.columnsData fun _ => none
  s.build slots

end Struct

/-! ### What is read -/

/-- A column and what the iterator gives for it. -/
abbrev Cell := FieldDescription × Option Bytes

/-- The columns with what the iterator gives for each. -/
def readCells : List FieldDescription → Bytes → List Cell
  | [], _ => []
  | field :: cols, data => (field, cell data) :: readCells cols (advance data).2

@[simp] theorem length_readCells (cols : List FieldDescription) (data : Bytes) :
    (readCells cols data).length = cols.length := by
  induction cols generalizing data with
  | nil => rfl
  | cons field cols ih => simp [readCells, ih]

theorem getElem?_readCells (cols : List FieldDescription) (data : Bytes) (k : Nat) :
    (readCells cols data)[k]? = cols[k]?.map fun field => (field, cell (after k data)) := by
  induction cols generalizing data k with
  | nil => rfl
  | cons field cols ih =>
    cases k with
    | zero => rfl
    | succ k =>
      rw [readCells, List.getElem?_cons_succ, List.getElem?_cons_succ, ih]
      rfl

/-- The cells of a row that holds its values one after the other. -/
theorem readCells_flatMap {cells : List Cell}
    (h : ∀ c ∈ cells, ∀ bs, c.2 = some bs → bs.length < 2 ^ 31) :
    readCells (cells.map Prod.fst) ((cells.map Prod.snd).flatMap valueBytes) = cells := by
  induction cells with
  | nil => rfl
  | cons c cells ih =>
    obtain ⟨hc, hcells⟩ := List.forall_mem_cons.mp h
    rw [List.map_cons, List.map_cons, List.flatMap_cons, readCells, cell,
      advance_valueBytes hc]
    exact congrArg (_ :: ·) (ih hcells)

section Tuple

variable {format : FormatCode} {cols : List FieldDescription} {data : Bytes}

/-- The components come from the first columns, each from its own. -/
theorem decodeTuple_ok_iff {n : Nat} {α : Fin n → Type} {types : (i : Fin n) → FromWireValue (α i)}
    {v : (i : Fin n) → α i} :
    decodeTuple format types cols data = .ok v ↔
      ∀ i : Fin n, ∃ c, (readCells cols data)[(i : Nat)]? = some c ∧
        (types i).decodeColumn format c.1 c.2 = .ok (v i) := by
  induction n generalizing cols data with
  | zero =>
    refine iff_of_true ?_ fun i => i.elim0
    rw [decodeTuple, Outcome.ok.injEq]
    exact funext fun i => i.elim0
  | succ n ih =>
    cases cols with
    | nil =>
      refine iff_of_false (fun h => by cases h) fun h => ?_
      obtain ⟨c, hc, -⟩ := h 0
      cases hc
    | cons field cols =>
      rw [decodeTuple, Outcome.bind_eq_ok_iff, Fin.forall_fin_succ]
      refine Iff.trans ⟨?_, ?_⟩
        (and_congr (b := decodeTuple format (fun i => types i.succ) cols (advance data).2 =
          .ok fun i => v i.succ) Iff.rfl ih)
      · rintro ⟨first, hfirst, h⟩
        obtain ⟨rest, hrest, hv⟩ := Outcome.bind_eq_ok_iff.mp h
        cases hv
        exact ⟨⟨(field, cell data), rfl, hfirst⟩, hrest⟩
      · rintro ⟨⟨c, hc, hfirst⟩, hrest⟩
        cases hc
        refine ⟨v 0, hfirst, Outcome.bind_eq_ok_iff.mpr ⟨_, hrest, ?_⟩⟩
        exact congrArg Outcome.ok (Fin.cons_self_tail v)

theorem tupleFromRow_ok_iff {n : Nat} {α : Fin n → Type}
    {types : (i : Fin n) → FromWireValue (α i)} {row : DataRow} {v : (i : Fin n) → α i} :
    tupleFromRow format types cols row = .ok v ↔
      ∀ i : Fin n, ∃ c, (readCells cols row.columnsData)[(i : Nat)]? = some c ∧
        (types i).decodeColumn format c.1 c.2 = .ok (v i) := by
  rw [tupleFromRow]
  by_cases hshort : cols.length < n
  · -- the last component has no column
    rw [if_pos hshort]
    refine iff_of_false (fun h => by cases h) fun h => ?_
    obtain ⟨c, hc, -⟩ := h ⟨cols.length, hshort⟩
    have hlt := (List.getElem?_eq_some_iff.mp hc).1
    rw [length_readCells] at hlt
    exact Nat.lt_irrefl _ hlt
  · rw [if_neg hshort]
    exact decodeTuple_ok_iff

end Tuple

namespace Struct

variable {n : Nat} {α : Fin n → Type} {s : Struct n α} {format : FormatCode}

theorem field?_eq_some_iff {name : String} {i : Fin n} :
    s.field? name = some i ↔ s.name i = name := by
  constructor
  · intro h
    simpa using List.find?_some h
  · intro h
    cases hfind : s.field? name with
    | none =>
      have hnone := List.find?_eq_none.mp hfind i (List.mem_finRange i)
      exact absurd h (by simpa using hnone)
    | some j =>
      have hj : s.name j = name := by simpa using List.find?_some hfind
      rw [s.name_injective (hj.trans h.symm)]

theorem field?_eq_none_iff {name : String} : s.field? name = none ↔ ∀ i, s.name i ≠ name := by
  rw [Option.eq_none_iff_forall_ne_some]
  exact forall_congr' fun i => not_congr field?_eq_some_iff

/-- A cell that the loop over the columns passes: the field it names decodes it, and a strict struct
has such a field. -/
def Passes (s : Struct n α) (format : FormatCode) (c : Cell) : Prop :=
  (∀ i, c.1.name = s.name i → ∃ v, (s.type i).decodeColumn format c.1 c.2 = .ok v) ∧
    (s.strict = true → ∃ i, c.1.name = s.name i)

/-- The last cell of a name. -/
def lastNamed (name : String) (cells : List Cell) : Option Cell :=
  cells.reverse.find? fun c => c.1.name = name

theorem lastNamed_cons (name : String) (c : Cell) (cells : List Cell) :
    lastNamed name (c :: cells) =
      (lastNamed name cells).or (if c.1.name = name then some c else none) := by
  rw [lastNamed, List.reverse_cons, List.find?_append, lastNamed]
  congr 1
  by_cases h : c.1.name = name <;> simp [h]

/-- The last cell of a name has only other names after it. -/
theorem lastNamed_eq_some_iff {name : String} {cells : List Cell} {c : Cell} :
    lastNamed name cells = some c ↔
      ∃ front back, cells = front ++ c :: back ∧ c.1.name = name ∧ ∀ d ∈ back, d.1.name ≠ name := by
  rw [lastNamed, List.find?_eq_some_iff_append]
  constructor
  · rintro ⟨hname, back, front, hsplit, hback⟩
    refine ⟨front.reverse, back.reverse, ?_, by simpa using hname, ?_⟩
    · have hcells := congrArg List.reverse hsplit
      simpa using hcells
    · intro d hd
      simpa using hback d (List.mem_reverse.mp hd)
  · rintro ⟨front, back, rfl, hname, hback⟩
    refine ⟨by simpa using hname, back.reverse, front.reverse, by simp, ?_⟩
    intro d hd
    simpa using hback d (List.mem_reverse.mp hd)

/-- What becomes of a slot, given the last cell that is written into it. -/
def Filled {β : Type} (type : FromWireValue β) (format : FormatCode) (slot slot' : Option β) :
    Option Cell → Prop
  | some c => ∃ v, type.decodeColumn format c.1 c.2 = .ok v ∧ slot' = some v
  | none => slot' = slot

/-- A cell first, and then the last of the others if there is one. -/
theorem filled_or {β : Type} {type : FromWireValue β} {slot slot' : Option β} {c : Cell} {v : β}
    (hv : type.decodeColumn format c.1 c.2 = .ok v) (last : Option Cell) :
    Filled type format slot slot' (last.or (some c)) ↔ Filled type format (some v) slot' last := by
  cases last with
  | some d => exact Iff.rfl
  | none =>
    constructor
    · rintro ⟨w, hw, h⟩
      rw [hv, Outcome.ok.injEq] at hw
      rwa [← hw] at h
    · exact fun h => ⟨v, hv, h⟩

/-- What the loop leaves in the slots: the last value of each name, where there is one. -/
theorem readColumns_ok_iff {cols : List FieldDescription} {data : Bytes}
    {slots slots' : (i : Fin n) → Option (α i)} :
    s.readColumns format cols data slots = .ok slots' ↔
      (∀ c ∈ readCells cols data, s.Passes format c) ∧
      ∀ i, Filled (s.type i) format (slots i) (slots' i)
        (lastNamed (s.name i) (readCells cols data)) := by
  induction cols generalizing data slots with
  | nil =>
    rw [readColumns, readCells, Outcome.ok.injEq]
    refine ⟨fun h => ⟨fun c hc => absurd hc List.not_mem_nil, fun i => congrFun h.symm i⟩,
      fun h => (funext h.2).symm⟩
  | cons field cols ih =>
    rw [readColumns, readCells, List.forall_mem_cons]
    simp only [lastNamed_cons]
    cases hfield : s.field? field.name with
    | some j =>
      have hj := field?_eq_some_iff.mp hfield
      have hslots : ∀ (v : α j) (hv : (s.type j).decodeColumn format field (cell data) = .ok v) (i),
          Filled (s.type i) format (Function.update slots j (some v) i) (slots' i)
            (lastNamed (s.name i) (readCells cols (advance data).2)) ↔
          Filled (s.type i) format (slots i) (slots' i)
            ((lastNamed (s.name i) (readCells cols (advance data).2)).or
              (if field.name = s.name i then some (field, cell data) else none)) := by
        intro v hv i
        by_cases hi : i = j
        · subst hi
          rw [if_pos hj.symm, Function.update_self]
          exact (filled_or (c := (field, cell data)) hv _).symm
        · have hname : field.name ≠ s.name i :=
            fun h => hi (s.name_injective (h.symm.trans hj.symm))
          rw [if_neg hname, Option.or_none, Function.update_of_ne hi]
      rw [Outcome.bind_eq_ok_iff]
      constructor
      · rintro ⟨v, hv, hrest⟩
        obtain ⟨hpass, hfilled⟩ := ih.mp hrest
        refine ⟨⟨⟨fun i hi => ?_, fun _ => ⟨j, hj.symm⟩⟩, hpass⟩,
          fun i => (hslots v hv i).mp (hfilled i)⟩
        obtain rfl : i = j := s.name_injective (hi.symm.trans hj.symm)
        exact ⟨v, hv⟩
      · rintro ⟨⟨⟨hdecodes, -⟩, hpass⟩, hfilled⟩
        obtain ⟨v, hv⟩ := hdecodes j hj.symm
        exact ⟨v, hv, ih.mpr ⟨hpass, fun i => (hslots v hv i).mpr (hfilled i)⟩⟩
    | none =>
      have hnone := field?_eq_none_iff.mp hfield
      have hname : ∀ i, ¬ field.name = s.name i := fun i h => hnone i h.symm
      simp only [hname, if_false, Option.or_none]
      by_cases hstrict : s.strict = true
      · rw [if_pos hstrict]
        refine iff_of_false (fun h => by cases h) fun h => ?_
        obtain ⟨i, hi⟩ := h.1.1.2 hstrict
        exact hname i hi
      · rw [if_neg hstrict, ih]
        have hpass : s.Passes format (field, cell data) :=
          ⟨fun i hi => absurd hi (hname i), fun h => absurd h hstrict⟩
        exact and_congr_left' ⟨fun h => ⟨hpass, h⟩, And.right⟩

theorem build_ok_iff {slots : (i : Fin n) → Option (α i)} {v : (i : Fin n) → α i} :
    s.build slots = .ok v ↔ ∀ i, slots i = some (v i) := by
  rw [build]
  by_cases h : ∀ i, (slots i).isSome
  · rw [dif_pos h, Outcome.ok.injEq]
    constructor
    · rintro rfl i
      exact (Option.some_get (h i)).symm
    · intro hv
      funext i
      simp [hv i]
  · rw [dif_neg h]
    refine iff_of_false (fun h' => by cases h') fun hv => h fun i => ?_
    rw [hv i]
    rfl

/-- The struct is built exactly when every cell passes and every field is named; its fields are then
the last values of their names. -/
theorem fromRow_ok_iff {cols : List FieldDescription} {row : DataRow} {v : (i : Fin n) → α i} :
    s.fromRow format cols row = .ok v ↔
      (∀ c ∈ readCells cols row.columnsData, s.Passes format c) ∧
      ∀ i, ∃ c, lastNamed (s.name i) (readCells cols row.columnsData) = some c ∧
        (s.type i).decodeColumn format c.1 c.2 = .ok (v i) := by
  rw [fromRow, Outcome.bind_eq_ok_iff]
  simp only [build_ok_iff]
  constructor
  · rintro ⟨slots, hread, hv⟩
    obtain ⟨hpass, hfilled⟩ := readColumns_ok_iff.mp hread
    refine ⟨hpass, fun i => ?_⟩
    have hi := hfilled i
    rw [hv i] at hi
    cases hlast : lastNamed (s.name i) (readCells cols row.columnsData) with
    | none =>
      rw [hlast] at hi
      cases hi
    | some c =>
      rw [hlast] at hi
      obtain ⟨w, hw, hsome⟩ := hi
      cases hsome
      exact ⟨c, rfl, hw⟩
  · rintro ⟨hpass, hlast⟩
    refine ⟨fun i => some (v i), readColumns_ok_iff.mpr ⟨hpass, fun i => ?_⟩, fun i => rfl⟩
    obtain ⟨c, hc, hdecode⟩ := hlast i
    rw [hc]
    exact ⟨v i, hdecode, rfl⟩

/-- Every name that a cell has is that of a last cell. -/
theorem exists_lastNamed {name : String} {cells : List Cell} :
    (∃ c, lastNamed name cells = some c) ↔ ∃ c ∈ cells, c.1.name = name := by
  rw [← Option.isSome_iff_exists, lastNamed, List.find?_isSome]
  simp

/-- A row is decoded when each field is named and each cell passes. -/
theorem exists_fromRow_iff {cols : List FieldDescription} {row : DataRow} :
    (∃ v, s.fromRow format cols row = .ok v) ↔
      (∀ i, ∃ c ∈ readCells cols row.columnsData, c.1.name = s.name i) ∧
      ∀ c ∈ readCells cols row.columnsData, s.Passes format c := by
  simp only [fromRow_ok_iff]
  constructor
  · rintro ⟨v, hpass, hlast⟩
    refine ⟨fun i => exists_lastNamed.mp ?_, hpass⟩
    obtain ⟨c, hc, -⟩ := hlast i
    exact ⟨c, hc⟩
  · rintro ⟨hnamed, hpass⟩
    have hvalue : ∀ i, ∃ v, ∃ c, lastNamed (s.name i) (readCells cols row.columnsData) = some c ∧
        (s.type i).decodeColumn format c.1 c.2 = .ok v := by
      intro i
      obtain ⟨c, hc⟩ := exists_lastNamed.mpr (hnamed i)
      obtain ⟨front, back, hcells, hname, -⟩ := lastNamed_eq_some_iff.mp hc
      obtain ⟨v, hv⟩ := (hpass c (by rw [hcells]; simp)).1 i hname
      exact ⟨v, c, hc, hv⟩
    exact ⟨fun i => (hvalue i).choose, hpass, fun i => (hvalue i).choose_spec⟩

end Struct

end ZeroPostgres
