import ZeroPostgres.Conversion.Derive

/-!
# Rows that are not well formed

What `FromRow` makes of any bytes that come as a DataRow. The iterator takes the end of the bytes
and a length they do not cover alike, after the length, and the decoders take both for a NULL; what
stands behind is never looked at. `place` says where the bytes of each column stand, and `Guarded`
which payloads do no harm to a row type. Rows that are refused for what their covered values are do
no harm either; `Accepts` sets them apart.
-/

namespace ZeroPostgres

/-- The payload declares as many columns as there are values, and these stand behind the count, each
a NULL or covered by the bytes. Nothing is said of what comes after them. -/
structure DataRow.WellFormed (payload : Bytes) (values : List (Option Bytes)) : Prop where
  payload_eq : ∃ rest, payload = DataRow.payload values ++ rest
  count_lt : values.length < 2 ^ 16
  length_lt : ∀ value ∈ values, ∀ bs, value = some bs → bs.length < 2 ^ 31

/-! ### Where the bytes stand -/

/-- The length field at the front. -/
def lengthField (data : Bytes) : Int := BigEndian.int (data.take 4)

/-- A value stands at the front: a NULL, or as many bytes as its length field says. -/
def Covered (data : Bytes) : Prop :=
  4 ≤ data.length ∧ -1 ≤ lengthField data ∧ lengthField data ≤ ((data.length - 4 : Nat) : Int)

instance (data : Bytes) : Decidable (Covered data) := inferInstanceAs (Decidable (_ ∧ _))

/-- The bytes of the value at the front, if one stands there that is not NULL. -/
def frontValue (data : Bytes) : Option Bytes :=
  if Covered data ∧ lengthField data ≠ -1 then some ((data.drop 4).take (lengthField data).toNat)
  else none

/-- What stands behind the value at the front, or behind its length field alone. -/
def behind (data : Bytes) : Bytes :=
  if Covered data then data.drop (4 + (lengthField data).toNat) else data.drop 4

/-- The bytes from the value of a column on. -/
def place (data : Bytes) : Nat → Bytes
  | 0 => data
  | k + 1 => behind (place data k)

theorem place_succ' (data : Bytes) (k : Nat) : place data (k + 1) = place (behind data) k := by
  induction k with
  | zero => rfl
  | succ k ih => exact congrArg behind ih

/-! ### The iterator -/

open DataRowIter

/-- A call of the iterator gives what stands at the front, and gives up where nothing does. -/
theorem advance_eq (data : Bytes) :
    (advance data).1 = (if Covered data then some (frontValue data) else none) ∧
      (4 ≤ data.length → (advance data).2 = behind data) := by
  match data with
  | [] | [_] | [_, _] | [_, _, _] =>
    refine ⟨?_, fun h => absurd h (by simp)⟩
    rw [if_neg fun h => absurd h.1 (by simp)]
    rfl
  | a :: b :: c :: d :: remaining =>
    have hlen : (a :: b :: c :: d :: remaining).length - 4 = remaining.length := rfl
    have hfour : 4 ≤ (a :: b :: c :: d :: remaining).length := by simp
    have hfield : lengthField (a :: b :: c :: d :: remaining) = BigEndian.int [a, b, c, d] := rfl
    have hdrop : ∀ n, (a :: b :: c :: d :: remaining).drop (4 + n) = remaining.drop n := by
      intro n
      rw [Nat.add_comm]
      rfl
    simp only [advance, frontValue, behind, Covered, hfield, hlen]
    generalize BigEndian.int [a, b, c, d] = len
    by_cases hnull : len = -1
    · subst hnull
      simp
    · by_cases hcut : len < 0 ∨ remaining.length < len.toNat
      · have hnot : ¬ (4 ≤ (a :: b :: c :: d :: remaining).length ∧ -1 ≤ len ∧
            len ≤ ((remaining.length : Nat) : Int)) := by omega
        rw [if_neg hnull, if_pos hcut, if_neg hnot, if_neg hnot]
        exact ⟨rfl, fun _ => rfl⟩
      · have hcovered : 4 ≤ (a :: b :: c :: d :: remaining).length ∧ -1 ≤ len ∧
            len ≤ ((remaining.length : Nat) : Int) := ⟨hfour, by omega, by omega⟩
        rw [if_neg hnull, if_neg hcut, if_pos hcovered, if_pos hcovered, if_pos ⟨hcovered, hnull⟩,
          hdrop]
        exact ⟨rfl, fun _ => rfl⟩

theorem advance_of_short {data : Bytes} (h : data.length < 4) : advance data = (none, data) := by
  match data with
  | [] | [_] | [_, _] | [_, _, _] => rfl
  | _ :: _ :: _ :: _ :: _ =>
    simp only [List.length_cons] at h
    omega

theorem length_behind_le (data : Bytes) : (behind data).length ≤ data.length - 4 := by
  rw [behind]
  split
  · rw [List.length_drop]
    omega
  · rw [List.length_drop]

/-- The iterator keeps the bytes of the next column, but for fewer than four at the end. -/
theorem after_eq (data : Bytes) (k : Nat) :
    after k data = place data k ∨ (after k data).length < 4 ∧ (place data k).length < 4 := by
  induction k generalizing data with
  | zero => exact .inl rfl
  | succ k ih =>
    rw [after, place_succ']
    by_cases hshort : data.length < 4
    · -- nothing is taken any more
      have hafter : ∀ j, after j data = data := by
        intro j
        induction j with
        | zero => rfl
        | succ j ih => rw [after, advance_of_short hshort, ih]
      have hplace : (place (behind data) k).length < 4 := by
        rw [← place_succ']
        induction k + 1 with
        | zero => exact hshort
        | succ j ihj =>
          have hle := length_behind_le (place data j)
          rw [place]
          omega
      rw [advance_of_short hshort, hafter]
      exact .inr ⟨hshort, hplace⟩
    · rw [(advance_eq data).2 (by omega)]
      exact ih (behind data)

theorem advance_after (data : Bytes) (k : Nat) :
    (advance (after k data)).1 =
      if Covered (place data k) then some (frontValue (place data k)) else none := by
  rcases after_eq data k with heq | ⟨hafter, hplace⟩
  · rw [heq]
    exact (advance_eq _).1
  · rw [advance_of_short hafter, if_neg fun h => absurd h.1 (by omega)]

/-- What is read for a column is what stands there, or NULL. -/
theorem cell_after (data : Bytes) (k : Nat) : cell (after k data) = frontValue (place data k) := by
  rw [cell, advance_after]
  by_cases h : Covered (place data k)
  · rw [if_pos h]
    rfl
  · rw [if_neg h, frontValue, if_neg fun h' => h h'.1]
    rfl

/-- In a well-formed row each column's value stands in its place. -/
theorem cell_after_flatMap {values : List (Option Bytes)}
    (h : ∀ value ∈ values, ∀ bs, value = some bs → bs.length < 2 ^ 31) {k : Nat}
    {value : Option Bytes} (hk : values[k]? = some value) (rest : Bytes) :
    cell (after k (values.flatMap valueBytes ++ rest)) = value := by
  induction values generalizing k with
  | nil => cases hk
  | cons first values ih =>
    obtain ⟨hfirst, hvalues⟩ := List.forall_mem_cons.mp h
    rw [List.flatMap_cons, List.append_assoc]
    cases k with
    | zero =>
      cases hk
      rw [after, cell, advance_valueBytes hfirst]
      rfl
    | succ k =>
      rw [after, advance_valueBytes hfirst]
      exact ih hvalues hk

/-! ### An end that stays one -/

/-- Once the iterator has returned `None`, it keeps returning `None`. -/
def Fused (payload : Bytes) : Prop :=
  ∀ row, DataRow.parse payload = .ok row → ∀ k, (advance (after k row.columnsData)).1 = none →
    (advance (after (k + 1) row.columnsData)).1 = none

/-- From the first place at which no value stands, none stands at any multiple of four bytes on. -/
def EndsOnce (payload : Bytes) : Prop :=
  ∀ k, ¬ Covered (place (payload.drop 2) k) →
    ∀ j, ¬ Covered ((place (payload.drop 2) k).drop (4 * j))

theorem parse_eq (payload : Bytes) :
    (payload.length < 2 ∧ DataRow.parse payload = .halt) ∨
      ∃ count, DataRow.parse payload = .ok ⟨count, payload.drop 2⟩ := by
  match payload with
  | [] | [_] => exact .inl ⟨by simp, rfl⟩
  | a :: b :: data => exact .inr ⟨_, rfl⟩

/-- Without a value there, only the length field is passed over. -/
theorem place_add_of_not_covered {data : Bytes} {k : Nat}
    (h : ∀ j, ¬ Covered (place data (k + j))) (j : Nat) :
    place data (k + j) = (place data k).drop (4 * j) := by
  induction j with
  | zero => rfl
  | succ j ih =>
    have hbehind : place data (k + j + 1) = (place data (k + j)).drop 4 := by
      rw [place, behind, if_neg (h j)]
    rw [← Nat.add_assoc, hbehind, ih, List.drop_drop, Nat.mul_succ]

theorem not_covered_of_nil {data : Bytes} (h : data.length = 0) : ¬ Covered data :=
  fun hcovered => by
    have hfour := hcovered.1
    omega

theorem fused_iff (payload : Bytes) : Fused payload ↔ EndsOnce payload := by
  obtain ⟨hshort, hparse⟩ | ⟨count, hparse⟩ := parse_eq payload
  · -- there is no row, and no value stands anywhere
    have hplace : ∀ k, (place (payload.drop 2) k).length = 0 := by
      intro k
      induction k with
      | zero =>
        rw [place, List.length_drop]
        omega
      | succ k ih =>
        have hle := length_behind_le (place (payload.drop 2) k)
        rw [place]
        omega
    refine iff_of_true (fun row hrow => by rw [hparse] at hrow; cases hrow) fun k _ j => ?_
    exact not_covered_of_nil (by rw [List.length_drop, hplace k, Nat.zero_sub])
  have hnone : ∀ k, (advance (after k (payload.drop 2))).1 = none ↔
      ¬ Covered (place (payload.drop 2) k) := by
    intro k
    rw [advance_after]
    split <;> simp_all
  have hfused : Fused payload ↔ ∀ k, ¬ Covered (place (payload.drop 2) k) →
      ¬ Covered (place (payload.drop 2) (k + 1)) := by
    rw [Fused, hparse]
    simp only [Outcome.ok.injEq, forall_eq', hnone]
  rw [hfused]
  constructor
  · intro h k hk j
    have hall : ∀ j, ¬ Covered (place (payload.drop 2) (k + j)) := by
      intro j
      induction j with
      | zero => exact hk
      | succ j ih => exact h (k + j) ih
    rw [← place_add_of_not_covered hall]
    exact hall j
  · intro h k hk
    have hnext := h k hk 1
    rw [place, behind, if_neg hk]
    exact hnext

/-! ### Decoded rows -/

/-- The implementations of `FromRow`. -/
inductive RowType (n : Nat) (α : Fin n → Type) where
  | tuple (types : (i : Fin n) → FromWireValue (α i))
  | derived (s : Struct n α)

namespace RowType

variable {n : Nat} {α : Fin n → Type}

/-- `from_row_text` or `from_row_binary`. -/
def fromRow : RowType n α → FormatCode → List FieldDescription → DataRow →
    Parsed ((i : Fin n) → α i)
  | tuple types => fun format cols row => tupleFromRow format types cols row
  | derived s => fun format cols row => s.fromRow format cols row

/-- The type of a field. -/
def type : RowType n α → (i : Fin n) → FromWireValue (α i)
  | tuple types => types
  | derived s => s.type

/-- The column a field takes its value from: the one in its position, or the last of its name. -/
def TakesFrom (rt : RowType n α) (cols : List FieldDescription) (i : Fin n) (k : Nat)
    (field : FieldDescription) : Prop :=
  cols[k]? = some field ∧
    match rt with
    | tuple _ => k = i
    | derived s => field.name = s.name i ∧
        ∀ j other, k < j → cols[j]? = some other → other.name ≠ s.name i

/-- A column that is read as a field: for a struct, also one that a later column replaces. -/
def Reads (rt : RowType n α) (cols : List FieldDescription) (i : Fin n) (k : Nat)
    (field : FieldDescription) : Prop :=
  cols[k]? = some field ∧
    match rt with
    | tuple _ => k = i
    | derived s => field.name = s.name i

/-- A decoded row comes from a well-formed payload with a value for each column that a field takes,
and the fields hold those values. -/
def Sound (rt : RowType n α) (format : FormatCode) (cols : List FieldDescription)
    (payload : Bytes) : Prop :=
  ∀ row v, DataRow.parse payload = .ok row → rt.fromRow format cols row = .ok v →
    ∃ values, DataRow.WellFormed payload values ∧
      ∀ i, ∃ k field value, rt.TakesFrom cols i k field ∧ values[k]? = some value ∧
        (rt.type i).decodeColumn format field value = .ok (v i)

/-- The columns do not fit the row type: a field has no column, or a strict struct has no field for
a column. -/
def Unfit (rt : RowType n α) (cols : List FieldDescription) : Prop :=
  (∃ i, ∀ k field, ¬ rt.Reads cols i k field) ∨
    match rt with
    | tuple _ => False
    | derived s => s.strict = true ∧ ∃ field ∈ cols, ∀ i, field.name ≠ s.name i

/-- A type refuses what stands in the place of a column that is read as its field. -/
def Refused (rt : RowType n α) (format : FormatCode) (cols : List FieldDescription)
    (data : Bytes) : Prop :=
  ∃ i k field, rt.Reads cols i k field ∧
    ∀ v, (rt.type i).decodeColumn format field (frontValue (place data k)) ≠ .ok v

/-- A field that takes no NULL reads a column of which no value stands in its place. -/
def Unmet (rt : RowType n α) (cols : List FieldDescription) (data : Bytes) : Prop :=
  ∃ i k field, rt.Reads cols i k field ∧ ¬ Covered (place data k) ∧
    ∀ v, (rt.type i).fromNull ≠ .ok v

/-- No harm is done: there is no row at all, or the payload is well formed and declares the column
that each field takes, or a field that takes no NULL has nothing to read. -/
def Guarded (rt : RowType n α) (cols : List FieldDescription) (payload : Bytes) : Prop :=
  payload.length < 2 ∨
    (∃ values, DataRow.WellFormed payload values ∧
      ∀ i k field, rt.TakesFrom cols i k field → k < values.length) ∨
    rt.Unmet cols (payload.drop 2)

/-- Nothing but a missing value can make the row type refuse the payload: the columns fit it, and
every value that stands in the place of a column it reads is one of the field's type. -/
def Accepts (rt : RowType n α) (format : FormatCode) (cols : List FieldDescription)
    (payload : Bytes) : Prop :=
  ¬ rt.Unfit cols ∧
    ∀ i k field, rt.Reads cols i k field → Covered (place (payload.drop 2) k) →
      ∃ v, (rt.type i).decodeColumn format field (frontValue (place (payload.drop 2) k)) = .ok v

variable {rt : RowType n α} {format : FormatCode} {cols : List FieldDescription}

/-- A cell is a column with what stands in its place. -/
theorem getElem?_readCells_eq_some {data : Bytes} {k : Nat} {c : Cell} :
    (readCells cols data)[k]? = some c ↔
      ∃ field, cols[k]? = some field ∧ c = (field, frontValue (place data k)) := by
  rw [getElem?_readCells, Option.map_eq_some_iff, cell_after]
  exact exists_congr fun field => and_congr_right' eq_comm

theorem exists_fromRow_iff {count : Nat} {data : Bytes} :
    (∃ v, rt.fromRow format cols ⟨count, data⟩ = .ok v) ↔
      ¬ rt.Unfit cols ∧ ¬ rt.Refused format cols data := by
  cases rt with
  | tuple types =>
    simp only [fromRow, tupleFromRow_ok_iff, getElem?_readCells_eq_some]
    constructor
    · rintro ⟨v, hv⟩
      refine ⟨?_, ?_⟩
      · rintro (⟨i, hnone⟩ | hfalse)
        · obtain ⟨_, ⟨field, hfield, -⟩, -⟩ := hv i
          exact hnone i field ⟨hfield, rfl⟩
        · exact hfalse
      · rintro ⟨i, k, field, ⟨hfield, rfl⟩, hrefused⟩
        obtain ⟨_, ⟨field', hfield', rfl⟩, hdecode⟩ := hv i
        cases hfield.symm.trans hfield'
        exact hrefused _ hdecode
    · rintro ⟨hfit, hrefused⟩
      have hvalue : ∀ i : Fin n, ∃ v c, (∃ field, cols[(i : Nat)]? = some field ∧
          c = (field, frontValue (place data i))) ∧
          (types i).decodeColumn format c.1 c.2 = .ok v := by
        intro i
        by_contra h
        refine hfit (.inl ⟨i, fun k field hreads => hrefused ⟨i, k, field, hreads, fun v hv => ?_⟩⟩)
        obtain ⟨hfield, rfl⟩ := hreads
        exact h ⟨v, _, ⟨field, hfield, rfl⟩, hv⟩
      exact ⟨fun i => (hvalue i).choose, fun i => (hvalue i).choose_spec⟩
  | derived s =>
    show (∃ v, s.fromRow format cols ⟨count, data⟩ = .ok v) ↔ _
    rw [Struct.exists_fromRow_iff]
    have hmem : ∀ c, c ∈ readCells cols data ↔
        ∃ k field, cols[k]? = some field ∧ c = (field, frontValue (place data k)) := fun c => by
      simp only [List.mem_iff_getElem?, getElem?_readCells_eq_some]
    constructor
    · rintro ⟨hnamed, hpass⟩
      refine ⟨?_, ?_⟩
      · rintro (⟨i, hnone⟩ | ⟨hstrict, field, hfield, hother⟩)
        · obtain ⟨c, hc, hname⟩ := hnamed i
          obtain ⟨k, field, hfield, rfl⟩ := (hmem c).mp hc
          exact hnone k field ⟨hfield, hname⟩
        · obtain ⟨k, hk⟩ := List.mem_iff_getElem?.mp hfield
          obtain ⟨i, hi⟩ := (hpass _ ((hmem _).mpr ⟨k, field, hk, rfl⟩)).2 hstrict
          exact hother i hi
      · rintro ⟨i, k, field, ⟨hfield, hname⟩, hrefused⟩
        obtain ⟨v, hv⟩ := (hpass _ ((hmem _).mpr ⟨k, field, hfield, rfl⟩)).1 i hname
        exact hrefused v hv
    · rintro ⟨hfit, hrefused⟩
      refine ⟨fun i => ?_, fun c hc => ?_⟩
      · by_contra h
        refine hfit (.inl ⟨i, fun k field hreads => h ?_⟩)
        exact ⟨_, (hmem _).mpr ⟨k, field, hreads.1, rfl⟩, hreads.2⟩
      · obtain ⟨k, field, hfield, rfl⟩ := (hmem c).mp hc
        refine ⟨fun i hname => ?_, fun hstrict => ?_⟩
        · by_contra h
          exact hrefused ⟨i, k, field, ⟨hfield, hname⟩, fun v hv => h ⟨v, hv⟩⟩
        · by_contra h
          exact hfit (.inr ⟨hstrict, field, List.mem_of_getElem? hfield,
            fun i hi => h ⟨i, hi⟩⟩)

/-- Each field of a decoded row is what its type makes of the place of the column it takes. -/
theorem fromRow_ok {count : Nat} {data : Bytes} {v : (i : Fin n) → α i}
    (h : rt.fromRow format cols ⟨count, data⟩ = .ok v) (i : Fin n) :
    ∃ k field, rt.TakesFrom cols i k field ∧
      (rt.type i).decodeColumn format field (frontValue (place data k)) = .ok (v i) := by
  cases rt with
  | tuple types =>
    obtain ⟨c, hc, hdecode⟩ := tupleFromRow_ok_iff.mp h i
    obtain ⟨field, hfield, rfl⟩ := getElem?_readCells_eq_some.mp hc
    exact ⟨i, field, ⟨hfield, rfl⟩, hdecode⟩
  | derived s =>
    obtain ⟨c, hlast, hdecode⟩ := (Struct.fromRow_ok_iff.mp h).2 i
    obtain ⟨front, back, hcells, hname, hback⟩ := Struct.lastNamed_eq_some_iff.mp hlast
    have hcells : readCells cols data = front ++ c :: back := hcells
    have hc : (readCells cols data)[front.length]? = some c := by
      rw [hcells]
      simp
    obtain ⟨field, hfield, rfl⟩ := getElem?_readCells_eq_some.mp hc
    refine ⟨front.length, field, ⟨hfield, hname, fun j other hj hother => ?_⟩, hdecode⟩
    have hcell : (readCells cols data)[j]? = some (other, frontValue (place data j)) :=
      getElem?_readCells_eq_some.mpr ⟨other, hother, rfl⟩
    have hbehind : (readCells cols data)[j]? = back[j - front.length - 1]? := by
      rw [hcells, List.getElem?_append_right (by omega), List.getElem?_cons, if_neg (by omega)]
    rw [hbehind] at hcell
    exact hback _ (List.mem_of_getElem? hcell)

/-- The place of a column in a well-formed row holds its value. -/
theorem frontValue_place {payload : Bytes} {values : List (Option Bytes)}
    (h : DataRow.WellFormed payload values) {k : Nat} {value : Option Bytes}
    (hk : values[k]? = some value) : frontValue (place (payload.drop 2) k) = value := by
  obtain ⟨rest, hpayload⟩ := h.payload_eq
  have hdrop : payload.drop 2 = values.flatMap valueBytes ++ rest := by
    rw [hpayload, DataRow.payload, List.append_assoc]
    exact List.drop_left' (BigEndian.length_bytes 2 _)
  rw [← cell_after, hdrop]
  exact cell_after_flatMap h.length_lt hk rest

/-- Where nothing stands a NULL is read. -/
theorem frontValue_of_not_covered {data : Bytes} (h : ¬ Covered data) : frontValue data = none :=
  if_neg fun h' => h h'.1

theorem refused_of_unmet {data : Bytes} (h : rt.Unmet cols data) : rt.Refused format cols data := by
  obtain ⟨i, k, field, hreads, hmissing, hnull⟩ := h
  refine ⟨i, k, field, hreads, fun v hv => hnull v ?_⟩
  rw [frontValue_of_not_covered hmissing] at hv
  exact hv

/-- A refusal is for a value that is missing, or for one that stands there. -/
theorem unmet_of_refused {payload : Bytes} (haccepts : rt.Accepts format cols payload)
    (h : rt.Refused format cols (payload.drop 2)) : rt.Unmet cols (payload.drop 2) := by
  obtain ⟨i, k, field, hreads, hrefused⟩ := h
  have hmissing : ¬ Covered (place (payload.drop 2) k) := fun hcovered => by
    obtain ⟨v, hv⟩ := haccepts.2 i k field hreads hcovered
    exact hrefused v hv
  refine ⟨i, k, field, hreads, hmissing, fun v hv => hrefused v ?_⟩
  rw [frontValue_of_not_covered hmissing]
  exact hv

/-- A field takes its value from one column only. -/
theorem TakesFrom.unique {i : Fin n} {k k' : Nat} {field field' : FieldDescription}
    (h : rt.TakesFrom cols i k field) (h' : rt.TakesFrom cols i k' field') : k = k' := by
  cases rt with
  | tuple types => exact h.2.trans h'.2.symm
  | derived s =>
    obtain ⟨hk, hname, hlast⟩ := h
    obtain ⟨hk', hname', hlast'⟩ := h'
    rcases Nat.lt_trichotomy k k' with hless | hsame | hgreater
    · exact absurd hname' (hlast k' field' hless hk')
    · exact hsame
    · exact absurd hname (hlast' k field hgreater hk)

theorem sound_of_guarded {payload : Bytes} (h : rt.Guarded cols payload) :
    rt.Sound format cols payload := by
  intro row v hrow hv
  obtain ⟨hshort, hparse⟩ | ⟨count, hparse⟩ := parse_eq payload
  · rw [hparse] at hrow
    cases hrow
  obtain rfl : ⟨count, payload.drop 2⟩ = row := Outcome.ok.inj (hparse.symm.trans hrow)
  rcases h with hshort | ⟨values, hwell, hthere⟩ | hunmet
  · match payload with
    | [] | [_] => cases hrow
    | _ :: _ :: _ =>
      simp only [List.length_cons] at hshort
      omega
  · refine ⟨values, hwell, fun i => ?_⟩
    obtain ⟨k, field, htakes, hdecode⟩ := fromRow_ok hv i
    have hvalue := List.getElem?_eq_getElem (hthere i k field htakes)
    rw [frontValue_place hwell hvalue] at hdecode
    exact ⟨k, field, _, htakes, hvalue, hdecode⟩
  · exact absurd (refused_of_unmet hunmet) (exists_fromRow_iff.mp ⟨v, hv⟩).2

theorem guarded_of_sound {payload : Bytes} (haccepts : rt.Accepts format cols payload)
    (h : rt.Sound format cols payload) : rt.Guarded cols payload := by
  obtain ⟨hshort, -⟩ | ⟨count, hparse⟩ := parse_eq payload
  · exact .inl hshort
  by_cases hdecoded : ∃ v, rt.fromRow format cols ⟨count, payload.drop 2⟩ = .ok v
  · obtain ⟨v, hv⟩ := hdecoded
    obtain ⟨values, hwell, hfields⟩ := h _ v hparse hv
    refine .inr (.inl ⟨values, hwell, fun i k field htakes => ?_⟩)
    obtain ⟨k', field', value, htakes', hvalue, -⟩ := hfields i
    rw [htakes.unique htakes']
    exact (List.getElem?_eq_some_iff.mp hvalue).1
  · rw [exists_fromRow_iff, not_and_or, not_not, not_not] at hdecoded
    exact .inr (.inr (unmet_of_refused haccepts (hdecoded.resolve_left haccepts.1)))

/-- Malformed rows never decode, and an end of the iterator stays one, for the payloads that do no
harm to the row type and end once, and for no others that the row type has no other reason to
refuse. -/
theorem malformed_iff (rt : RowType n α) (format : FormatCode) (cols : List FieldDescription)
    (payload : Bytes) :
    (rt.Guarded cols payload ∧ EndsOnce payload →
      rt.Sound format cols payload ∧ Fused payload) ∧
    (rt.Accepts format cols payload → rt.Sound format cols payload ∧ Fused payload →
      rt.Guarded cols payload ∧ EndsOnce payload) :=
  ⟨And.imp sound_of_guarded (fused_iff payload).mpr,
    fun haccepts => And.imp (guarded_of_sound haccepts) (fused_iff payload).mp⟩

/-- One column, whose length says five bytes and has four: it decodes as NULL, and the iterator goes
on to an empty value after its end. -/
theorem cut_column_decodes :
    ¬ (tuple fun _ : Fin 1 => FromWireValue.slice.option).Sound .binary [Struct.byteaColumn "data"]
      [0, 1, 0, 0, 0, 5, 0, 0, 0, 0] ∧
    ¬ Fused [0, 1, 0, 0, 0, 5, 0, 0, 0, 0] := by
  constructor
  · intro h
    have hdecoded : (tuple fun _ : Fin 1 => FromWireValue.slice.option).fromRow .binary
        [Struct.byteaColumn "data"] ⟨1, [0, 0, 0, 5, 0, 0, 0, 0]⟩ = .ok fun _ => none := by
      have hcell : cell [0, 0, 0, 5, 0, 0, 0, 0] = none := by decide +kernel
      refine tupleFromRow_ok_iff.mpr fun i => ⟨(Struct.byteaColumn "data", none), ?_, rfl⟩
      obtain rfl : i = 0 := Fin.fin_one_eq_zero i
      rw [← hcell]
      rfl
    obtain ⟨values, hwell, hfields⟩ := h _ _ rfl hdecoded
    obtain ⟨k, field, value, ⟨-, hk⟩, hvalue, -⟩ := hfields 0
    obtain rfl : k = 0 := hk
    -- the value read is a NULL, and a NULL does not have this length
    have hstands : frontValue (place [0, 0, 0, 5, 0, 0, 0, 0] 0) = none := by decide +kernel
    have hnull : none = value := hstands.symm.trans (frontValue_place hwell hvalue)
    cases values with
    | nil => cases hvalue
    | cons first values =>
      obtain rfl : first = none := (Option.some.inj hvalue).trans hnull.symm
      obtain ⟨rest, hpayload⟩ := hwell.payload_eq
      have hbytes := congrArg (List.drop 2) hpayload
      rw [DataRow.payload, List.append_assoc, List.drop_left' (BigEndian.length_bytes 2 _),
        List.flatMap_cons, valueBytes_none] at hbytes
      exact absurd (List.cons.inj hbytes).1 (by decide)
  · intro h
    have hnext := h ⟨1, [0, 0, 0, 5, 0, 0, 0, 0]⟩ rfl 0 (by decide +kernel)
    exact absurd hnext (by decide +kernel)

end RowType

end ZeroPostgres
