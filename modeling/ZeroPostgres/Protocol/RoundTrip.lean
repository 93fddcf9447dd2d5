import ZeroPostgres.Protocol.Rows

/-!
# What the server encodes is what the client decodes

RowDescription, DataRow with its iterator, ParameterDescription and ErrorResponse: each parser of
`src/src/protocol/backend/` returns the list the payload was written from.
-/

namespace ZeroPostgres

/-! ### RowDescription -/

/-- One column is taken off the payload. -/
theorem parseFieldDescriptions_cons (n : Nat) {c : Column} (hc : CString c.name) (rest : Bytes) :
    parseFieldDescriptions (n + 1) (c.payload ++ rest) =
      (parseFieldDescriptions n rest).bind fun fields => .ok (⟨c.name, c.tail⟩ :: fields) := by
  have hlen : ¬ (c.tail ++ rest).length < tailSize := by
    simp only [List.length_append, Column.length_tail]
    omega
  have htake : (c.tail ++ rest).take tailSize = c.tail := by
    rw [← c.length_tail, List.take_left]
  have hdrop : (c.tail ++ rest).drop tailSize = rest := by
    rw [← c.length_tail, List.drop_left]
  rw [parseFieldDescriptions, Column.payload, List.append_assoc, readCstr_cstr _ _ hc]
  simp only [Outcome.bind, hlen, if_false, htake, hdrop]

/-- The columns of a RowDescription are read back in order. -/
theorem RowDescription.parse_payload {columns : List Column} (hcount : columns.length < 2 ^ 16)
    (hnames : ∀ c ∈ columns, CString c.name) :
    ∃ fields, RowDescription.parse (RowDescription.payload columns) = .ok fields ∧
      fields.map FieldDescription.column = columns := by
  have hfields : parseFieldDescriptions columns.length (columns.flatMap Column.payload) =
      .ok (columns.map fun c => ⟨c.name, c.tail⟩) := by
    clear hcount
    induction columns with
    | nil => rfl
    | cons c columns ih =>
      obtain ⟨hc, hrest⟩ := List.forall_mem_cons.mp hnames
      rw [List.length_cons, List.flatMap_cons, parseFieldDescriptions_cons _ hc, ih hrest]
      rfl
  refine ⟨columns.map fun c => ⟨c.name, c.tail⟩, ?_, ?_⟩
  · rw [RowDescription.parse, RowDescription.payload, headU16_bytes hcount]
    exact hfields
  · rw [List.map_map]
    calc columns.map (FieldDescription.column ∘ fun c => ⟨c.name, c.tail⟩)
        = columns.map id := List.map_congr_left fun c _ => FieldDescription.column_tail c
      _ = columns := List.map_id columns

/-! ### DataRow -/

/-- The iterator gives the values that were written, as long as the rounds last. -/
theorem DataRowIter.collect_flatMap {values : List (Option Bytes)}
    (h : ∀ value ∈ values, ∀ bs, value = some bs → bs.length < 2 ^ 31) {fuel : Nat}
    (hfuel : values.length ≤ fuel) :
    DataRowIter.collect fuel (values.flatMap valueBytes) = values := by
  induction values generalizing fuel with
  | nil => cases fuel <;> rfl
  | cons value values ih =>
    obtain ⟨hvalue, hrest⟩ := List.forall_mem_cons.mp h
    cases fuel with
    | zero => simp at hfuel
    | succ fuel =>
      rw [List.flatMap_cons, DataRowIter.collect, DataRowIter.next_valueBytes hvalue]
      simp only [ih hrest (Nat.le_of_succ_le_succ hfuel)]

theorem length_le_flatMap_valueBytes (values : List (Option Bytes)) :
    values.length ≤ (values.flatMap valueBytes).length := by
  induction values with
  | nil => exact Nat.le_refl _
  | cons value values ih =>
    have hfour := four_le_length_valueBytes value
    simp only [List.flatMap_cons, List.length_append, List.length_cons]
    omega

/-- The values of a DataRow are read back in order, NULL and the empty value apart. -/
theorem DataRow.parse_payload {values : List (Option Bytes)} (hcount : values.length < 2 ^ 16)
    (hvalues : ∀ value ∈ values, ∀ bs, value = some bs → bs.length < 2 ^ 31) :
    ∃ row, DataRow.parse (DataRow.payload values) = .ok row ∧
      row.numColumns = values.length ∧ row.values = values := by
  refine ⟨⟨values.length, values.flatMap valueBytes⟩, ?_, rfl, ?_⟩
  · rw [DataRow.parse, DataRow.payload, headU16_bytes hcount]
    rfl
  · exact DataRowIter.collect_flatMap hvalues (length_le_flatMap_valueBytes values)

/-! ### ParameterDescription -/

/-- The OIDs of a ParameterDescription are read back in order. -/
theorem ParameterDescription.parse_payload {oids : List Oid} (hcount : oids.length < 2 ^ 16) :
    ParameterDescription.parse (ParameterDescription.payload oids) = .ok oids := by
  have hoids : parseOids oids.length (oids.flatMap fun oid => BigEndian.bytes 4 oid.toNat) =
      .ok oids := by
    clear hcount
    induction oids with
    | nil => rfl
    | cons oid oids ih =>
      rw [List.length_cons, List.flatMap_cons, parseOids, readU32_bytes]
      simp only [Outcome.bind, ih]
  rw [ParameterDescription.parse, ParameterDescription.payload, headU16_bytes hcount]
  exact hoids

/-! ### ErrorResponse -/

/-- The list names every field of the map once, in any order. -/
structure Lists (fields : List (UInt8 × String)) (error : UInt8 → Option String) : Prop where
  nodup : (fields.map Prod.fst).Nodup
  mem : ∀ code value, (code, value) ∈ fields ↔ error code = some value

/-- The fields are inserted in the order they were written. -/
theorem parseFieldsFrom_flatMap {fields : List (UInt8 × String)}
    (h : ∀ field ∈ fields, field.1 ≠ 0 ∧ CString field.2) (e : ServerError) {fuel : Nat}
    (hfuel : fields.length < fuel) :
    parseFieldsFrom fuel e (ErrorResponse.payload fields) =
      .ok (fields.foldl (fun e field => e.insert field.1 field.2) e) := by
  induction fields generalizing e fuel with
  | nil =>
    cases fuel with
    | zero => simp at hfuel
    | succ fuel => rfl
  | cons field fields ih =>
    obtain ⟨⟨hcode, hvalue⟩, hrest⟩ := List.forall_mem_cons.mp h
    cases fuel with
    | zero => simp at hfuel
    | succ fuel =>
      have hpayload : ErrorResponse.payload (field :: fields) =
          field.1 :: (cstr field.2 ++ ErrorResponse.payload fields) := by
        simp [ErrorResponse.payload]
      rw [hpayload, parseFieldsFrom, if_neg hcode, readCstr_cstr _ _ hvalue]
      exact ih hrest _ (Nat.lt_of_succ_lt_succ hfuel)

theorem ServerError.get_insert_of_ne {e : ServerError} {k c : UInt8} (h : c ≠ k) (v : String) :
    (e.insert k v).get c = e.get c := by
  have hhead : (c == k) = false := by simp [h]
  unfold ServerError.get ServerError.insert
  rw [List.lookup_cons, hhead]
  induction e.fields with
  | nil => rfl
  | cons f fields ih =>
    by_cases hk : f.1 = k
    · have hcf : (c == f.1) = false := by simp [hk, h]
      rw [List.filter_cons_of_neg (by simp [hk]), List.lookup_cons, hcf]
      exact ih
    · rw [List.filter_cons_of_pos (by simp [hk]), List.lookup_cons, List.lookup_cons]
      cases c == f.1 with
      | true => rfl
      | false => exact ih

/-- Insertions for other field types do not change a field. -/
theorem ServerError.get_foldl_of_not_mem {fields : List (UInt8 × String)} {code : UInt8}
    (h : code ∉ fields.map Prod.fst) (e : ServerError) :
    (fields.foldl (fun e field => e.insert field.1 field.2) e).get code = e.get code := by
  induction fields generalizing e with
  | nil => rfl
  | cons field fields ih =>
    rw [List.map_cons, List.mem_cons, not_or] at h
    rw [List.foldl_cons, ih h.2, ServerError.get_insert_of_ne h.1]

/-- A field inserted once is the one read back. -/
theorem ServerError.get_foldl_of_mem {fields : List (UInt8 × String)} {code : UInt8}
    {value : String} (hnodup : (fields.map Prod.fst).Nodup) (h : (code, value) ∈ fields)
    (e : ServerError) :
    (fields.foldl (fun e field => e.insert field.1 field.2) e).get code = some value := by
  induction fields generalizing e with
  | nil => cases h
  | cons field fields ih =>
    rw [List.map_cons, List.nodup_cons] at hnodup
    rcases List.mem_cons.mp h with rfl | hmem
    · rw [List.foldl_cons, ServerError.get_foldl_of_not_mem hnodup.1, ServerError.get_insert_self]
    · exact ih hnodup.2 hmem _

theorem ErrorResponse.length_lt_payload (fields : List (UInt8 × String)) :
    fields.length < (ErrorResponse.payload fields).length := by
  induction fields with
  | nil => exact Nat.one_pos
  | cons field fields ih =>
    simp only [ErrorResponse.payload, List.flatMap_cons, List.length_append, List.length_cons,
      List.length_nil] at *
    omega

/-- The fields of an ErrorResponse are read back, whatever their order. -/
theorem ErrorResponse.parse_payload {fields : List (UInt8 × String)}
    {error : UInt8 → Option String} (hlists : Lists fields error)
    (hfields : ∀ code value, error code = some value → code ≠ 0 ∧ CString value) :
    ∃ e, ErrorResponse.parse (ErrorResponse.payload fields) = .ok e ∧ e.get = error := by
  have hsend : ∀ field ∈ fields, field.1 ≠ 0 ∧ CString field.2 := by
    intro field hmem
    exact hfields _ _ ((hlists.mem field.1 field.2).mp hmem)
  refine ⟨_, parseFieldsFrom_flatMap hsend .empty (ErrorResponse.length_lt_payload fields), ?_⟩
  funext code
  cases herror : error code with
  | some value =>
    exact ServerError.get_foldl_of_mem hlists.nodup ((hlists.mem code value).mpr herror) _
  | none =>
    have hnot : code ∉ fields.map Prod.fst := by
      intro hmem
      obtain ⟨⟨c, value⟩, hin, rfl⟩ := List.mem_map.mp hmem
      have hsome := (hlists.mem c value).mp hin
      rw [herror] at hsome
      cases hsome
    exact ServerError.get_foldl_of_not_mem hnot _

/-! ### All four -/

/-- Every list of columns, values, OIDs or error fields that fits its message is read back. -/
theorem backend_round_trip {columns : List Column} {values : List (Option Bytes)} {oids : List Oid}
    {fields : List (UInt8 × String)} {error : UInt8 → Option String}
    (hcolumns : columns.length < 2 ^ 16) (hnames : ∀ c ∈ columns, CString c.name)
    (hvalues : values.length < 2 ^ 16)
    (hlengths : ∀ value ∈ values, ∀ bs, value = some bs → bs.length < 2 ^ 31)
    (hoids : oids.length < 2 ^ 16) (hlists : Lists fields error)
    (hfields : ∀ code value, error code = some value → code ≠ 0 ∧ CString value) :
    (∃ descriptions, RowDescription.parse (RowDescription.payload columns) = .ok descriptions ∧
      descriptions.map FieldDescription.column = columns) ∧
    (∃ row, DataRow.parse (DataRow.payload values) = .ok row ∧
      row.numColumns = values.length ∧ row.values = values) ∧
    ParameterDescription.parse (ParameterDescription.payload oids) = .ok oids ∧
    ∃ e, ErrorResponse.parse (ErrorResponse.payload fields) = .ok e ∧ e.get = error :=
  ⟨RowDescription.parse_payload hcolumns hnames, DataRow.parse_payload hvalues hlengths,
    ParameterDescription.parse_payload hoids, ErrorResponse.parse_payload hlists hfields⟩

/-- Two fields of an error, the code written before the severity. -/
private def divisionByZero : ServerError := ⟨[(67, "22012"), (83, "ERROR")]⟩

private theorem divisionByZero_lists : Lists divisionByZero.fields divisionByZero.get where
  nodup := by decide
  mem code value := by
    simp only [divisionByZero, ServerError.get, List.mem_cons, Prod.mk.injEq, List.not_mem_nil,
      or_false, List.lookup_cons, List.lookup_nil]
    by_cases h67 : code = 67
    · simp [h67, eq_comm]
    · by_cases h83 : code = 83
      · simp [h83, eq_comm]
      · have hne67 : (code == 67) = false := beq_false_of_ne h67
        have hne83 : (code == 83) = false := beq_false_of_ne h83
        simp [h67, h83, hne67, hne83]

private theorem divisionByZero_sendable (code : UInt8) (value : String)
    (h : divisionByZero.get code = some value) : code ≠ 0 ∧ CString value := by
  have hall : ∀ field ∈ divisionByZero.fields, field.1 ≠ 0 ∧ CString field.2 := by decide +kernel
  exact hall (code, value) ((divisionByZero_lists.mem code value).mpr h)

/-- An empty value beside a NULL. -/
private def nullable : List (Option Bytes) := [some [], none, some [0, 0, 0, 7]]

private theorem nullable_short (value : Option Bytes) (h : value ∈ nullable) (bs : Bytes)
    (hbs : value = some bs) : bs.length < 2 ^ 31 := by
  have hall : ∀ v ∈ nullable, (v.getD []).length < 2 ^ 31 := by decide
  have hshort := hall value h
  rwa [hbs] at hshort

/-- A column, a row with an empty value beside a NULL, an OID and an error with two fields. -/
theorem backend_round_trip_null :
    (∃ row, DataRow.parse (DataRow.payload nullable) = .ok row ∧
      row.numColumns = 3 ∧ row.values = nullable) ∧
    ∃ e, ErrorResponse.parse (ErrorResponse.payload divisionByZero.fields) = .ok e ∧
      e.get = divisionByZero.get := by
  have h := @backend_round_trip [⟨"id", 16384, 1, 23, 4, -1, .binary⟩] nullable [23] _ _
    (by decide) (by decide +kernel) (by decide) nullable_short (by decide) divisionByZero_lists
    divisionByZero_sendable
  exact ⟨h.2.1, h.2.2.2⟩

end ZeroPostgres
