import ZeroPostgres.Conversion.Row
import ZeroPostgres.Protocol.RoundTrip

/-!
# Matching columns by name

What `#[derive(FromRow)]` makes of a row with one value for each column: `DescribedRow` is such a
row, its columns and values together. A field takes the last value of its name; where the names are
distinct that is the only one, and the order of the columns does not matter.
-/

namespace ZeroPostgres

/-- The columns of a result with the values of one of its rows, as many as a DataRow can hold and
none longer than its length field can say. -/
structure DescribedRow where
  cells : List Cell
  count_lt : cells.length < 2 ^ 16
  length_lt : ∀ c ∈ cells, ∀ bs, c.2 = some bs → bs.length < 2 ^ 31

namespace DescribedRow

/-- The columns. -/
def cols (r : DescribedRow) : List FieldDescription := r.cells.map Prod.fst

/-- The DataRow of the values. -/
def payload (r : DescribedRow) : Bytes := DataRow.payload (r.cells.map Prod.snd)

/-- The row the DataRow parses to. -/
def row (r : DescribedRow) : DataRow := ⟨r.cells.length, (r.cells.map Prod.snd).flatMap valueBytes⟩

theorem parse_payload (r : DescribedRow) : DataRow.parse r.payload = .ok r.row := by
  rw [payload, DataRow.payload, DataRow.parse, List.length_map, headU16_bytes r.count_lt]
  rfl

theorem readCells_row (r : DescribedRow) : readCells r.cols r.row.columnsData = r.cells :=
  readCells_flatMap r.length_lt

end DescribedRow

namespace Struct

variable {n : Nat} {α : Fin n → Type} {s : Struct n α} {format : FormatCode}

/-- Where the names are distinct, the last cell of a name is the only one. -/
theorem lastNamed_eq_some_of_nodup {name : String} {cells : List Cell} {c : Cell}
    (h : (cells.map fun c => c.1.name).Nodup) :
    lastNamed name cells = some c ↔ c ∈ cells ∧ c.1.name = name := by
  constructor
  · intro hlast
    obtain ⟨front, back, rfl, hname, -⟩ := lastNamed_eq_some_iff.mp hlast
    exact ⟨by simp, hname⟩
  · rintro ⟨hmem, hname⟩
    obtain ⟨front, back, rfl⟩ := List.append_of_mem hmem
    refine lastNamed_eq_some_iff.mpr ⟨front, back, rfl, hname, fun d hd hsame => ?_⟩
    rw [List.map_append, List.map_cons] at h
    have hback := (List.nodup_cons.mp (List.nodup_append.mp h).2.1).1
    exact hback (List.mem_map.mpr ⟨d, hd, hsame.trans hname.symm⟩)

theorem fromRow_row_iff {r : DescribedRow} {v : (i : Fin n) → α i} :
    s.fromRow format r.cols r.row = .ok v ↔
      (∀ c ∈ r.cells, s.Passes format c) ∧
      ∀ i, ∃ c, lastNamed (s.name i) r.cells = some c ∧
        (s.type i).decodeColumn format c.1 c.2 = .ok (v i) := by
  rw [fromRow_ok_iff, r.readCells_row]

/-- Where the names are distinct, the order of the cells does not matter. -/
theorem fromRow_perm {r r' : DescribedRow} (h : (r.cells.map fun c => c.1.name).Nodup)
    (hperm : r.cells.Perm r'.cells) (v : (i : Fin n) → α i) :
    s.fromRow format r'.cols r'.row = .ok v ↔ s.fromRow format r.cols r.row = .ok v := by
  have h' : (r'.cells.map fun c => c.1.name).Nodup := (hperm.map _).nodup_iff.mp h
  rw [fromRow_row_iff, fromRow_row_iff]
  simp only [lastNamed_eq_some_of_nodup h, lastNamed_eq_some_of_nodup h', hperm.mem_iff]

/-- A derived struct is decoded exactly when every field has a column of its name, every column that
names a field decodes to its type, and in strict mode every column names a field; each field is the
last value of its name. Where the columns have distinct names, they may come in any order. -/
theorem fromRow_by_name (s : Struct n α) (format : FormatCode) (r : DescribedRow) :
    ∃ row, DataRow.parse r.payload = .ok row ∧
      ((∃ v, s.fromRow format r.cols row = .ok v) ↔
        (∀ i, ∃ c ∈ r.cells, c.1.name = s.name i) ∧
        (∀ c ∈ r.cells, ∀ i, c.1.name = s.name i →
          ∃ v, (s.type i).decodeColumn format c.1 c.2 = .ok v) ∧
        (s.strict = true → ∀ c ∈ r.cells, ∃ i, c.1.name = s.name i)) ∧
      (∀ v, s.fromRow format r.cols row = .ok v → ∀ i, ∃ front c back,
        r.cells = front ++ c :: back ∧ c.1.name = s.name i ∧ (∀ d ∈ back, d.1.name ≠ s.name i) ∧
        (s.type i).decodeColumn format c.1 c.2 = .ok (v i)) ∧
      ∀ r' : DescribedRow, (r.cells.map fun c => c.1.name).Nodup → r.cells.Perm r'.cells →
        ∃ row', DataRow.parse r'.payload = .ok row' ∧
          ∀ v, s.fromRow format r'.cols row' = .ok v ↔ s.fromRow format r.cols row = .ok v := by
  refine ⟨r.row, r.parse_payload, ?_, ?_, ?_⟩
  · rw [exists_fromRow_iff, r.readCells_row]
    refine and_congr_right' ⟨fun h => ⟨fun c hc => (h c hc).1, fun hstrict c hc => ?_⟩,
      fun h c hc => ⟨h.1 c hc, fun hstrict => h.2 hstrict c hc⟩⟩
    exact (h c hc).2 hstrict
  · intro v hv i
    obtain ⟨c, hlast, hdecode⟩ := (fromRow_row_iff.mp hv).2 i
    obtain ⟨front, back, hcells, hname, hback⟩ := lastNamed_eq_some_iff.mp hlast
    exact ⟨front, c, back, hcells, hname, hback, hdecode⟩
  · intro r' hnodup hperm
    exact ⟨r'.row, r'.parse_payload, fromRow_perm hnodup hperm⟩

/-! ### A struct of two fields -/

/-- A column of type BYTEA. -/
def byteaColumn (name : String) : FieldDescription :=
  ⟨name, [0, 0, 0, 0, 0, 0, 0, 0, 0, 17, 0, 0, 0, 0, 0, 0, 0, 0]⟩

/-- A key and a note that may be NULL. -/
def keyNote : Struct 2 fun _ => Option Bytes where
  name := fun i => if i = 0 then "key" else "note"
  name_injective := by
    intro i j h
    revert i j
    decide
  type := fun _ => FromWireValue.slice.option
  strict := true

/-- A row of its columns. -/
def keyNoteRow : DescribedRow where
  cells := [(byteaColumn "key", some [1, 2]), (byteaColumn "note", none)]
  count_lt := by decide
  length_lt := by simp

/-- The same with the columns the other way round. -/
def noteKeyRow : DescribedRow where
  cells := [(byteaColumn "note", none), (byteaColumn "key", some [1, 2])]
  count_lt := by decide
  length_lt := by simp

theorem fromRow_by_name_swapped :
    ∃ row row', DataRow.parse keyNoteRow.payload = .ok row ∧
      DataRow.parse noteKeyRow.payload = .ok row' ∧
      ∀ v, keyNote.fromRow .binary noteKeyRow.cols row' = .ok v ↔
        keyNote.fromRow .binary keyNoteRow.cols row = .ok v := by
  obtain ⟨row, hrow, -, -, hperm⟩ := fromRow_by_name keyNote .binary keyNoteRow
  obtain ⟨row', hrow', hv⟩ := hperm noteKeyRow (by decide) (.swap _ _ _)
  exact ⟨row, row', hrow, hrow', hv⟩

end Struct

end ZeroPostgres
