import Mathlib.Data.List.Forall2
import ZeroPostgres.Conversion.Encode

/-!
# Parameter lists

The traits `ToWireValue` and `ToParams` of `src/src/conversion/mod.rs`. An implementation of
`ToWireValue` carries what the documentation of the trait asks of it: what it writes is a length and
that many bytes, or the length of a NULL alone. `ToParams.encode_ok` is what a parameter list writes
when it succeeds.
-/

namespace ZeroPostgres

/-- An implementation of `ToWireValue`, lines 62–93: what `encode` appends when it returns. -/
structure ToWireValue where
  naturalOid : Oid
  encode : Oid → Parsed Bytes
  framed : ∀ {target bs}, encode target = .ok bs → ∃ value, bs = valueBytes value

/-! ### The implementations of the library -/

/-- What an outcome writes, if it returns, is one value. -/
def Framed (o : Parsed Bytes) : Prop := ∀ bs, o = .ok bs → ∃ value, bs = valueBytes value

theorem framed_ok (value : Option Bytes) : Framed (.ok (valueBytes value)) := by
  intro bs h
  cases h
  exact ⟨value, rfl⟩

theorem framed_err (e : Error) : Framed (.err e) := by
  intro bs h
  cases h

theorem framed_ite {c : Prop} [Decidable c] {x y : Parsed Bytes} (hx : Framed x) (hy : Framed y) :
    Framed (if c then x else y) := by
  by_cases h : c
  · rw [if_pos h]
    exact hx
  · rw [if_neg h]
    exact hy

theorem framed_integer (natural : Oid) (rustType : String) (v : Int) (target : Oid) :
    Framed (encodeInteger natural rustType v target) := by
  have hwidth : ∀ width pgType, Framed (encodeWidth width rustType pgType v) := fun _ _ =>
    framed_ite (framed_ok _) (framed_err _)
  exact framed_ite (hwidth _ _) (framed_ite (hwidth _ _) (framed_ite (hwidth _ _) (framed_err _)))

theorem framed_bind {α : Type} {x : Parsed α} {f : α → Parsed Bytes} (h : ∀ a, Framed (f a)) :
    Framed (x >>= f) := by
  intro bs hbs
  obtain ⟨a, -, ha⟩ := Outcome.bind_eq_ok_iff.mp hbs
  exact h a bs ha

theorem Value.framed {crates : Crates} (v : Value crates) (target : Oid) :
    Framed (v.encode target) := by
  induction v with
  | bool | str | string | slice | vec | uuid | naiveDate | naiveTime | naiveDateTime | dateTimeUtc
  | time | primitiveDateTime | decimal => exact framed_ite (framed_ok _) (framed_err _)
  | date | offsetDateTime =>
    exact framed_ite (framed_bind fun _ => framed_ok _) (framed_err _)
  | i8 | i16 | i32 | i64 | u8 | u16 | u32 | u64 => exact framed_integer _ _ _ _
  | ref v ih | some v ih => exact ih
  | none => exact framed_ok _

/-- A value of one of the library's types. -/
def Value.toWireValue {crates : Crates} (v : Value crates) : ToWireValue :=
  ⟨v.naturalOid, v.encode, fun h => v.framed _ _ h⟩

/-! ### Lists of parameters -/

/-- `v.encode(target, buf)`: a call that fails has written nothing. -/
def ToWireValue.append (v : ToWireValue) (target : Oid) : Act Error Bytes Unit := fun buf =>
  match v.encode target with
  | .ok bs => (.ok (), buf ++ bs)
  | .err e => (.err e, buf)
  | .halt => (.halt, buf)

/-- Parameters of a statement: the implementations of `ToParams`, lines 158–241. A tuple is its
components, however many; a vector or a reference encodes as what it holds. -/
inductive ToParams where
  | unit
  | slice (values : List ToWireValue)
  | tuple (values : List ToWireValue)

namespace ToParams

/-- The values in order. -/
def values : ToParams → List ToWireValue
  | unit => []
  | slice values | tuple values => values

/-- `param_count`. -/
def paramCount (params : ToParams) : Nat := params.values.length

/-- `natural_oids`. -/
def naturalOids (params : ToParams) : List Oid := params.values.map ToWireValue.naturalOid

/-- `encode` of a slice, lines 197–202: the shorter of the two lists decides. -/
def encodeSlice : List ToWireValue → List Oid → Act Error Bytes Unit
  | v :: values, target :: targets => do
    v.append target
    encodeSlice values targets
  | _, _ => pure ()

/-- `encode` of a tuple, lines 231–238: a missing OID is an index out of bounds. -/
def encodeTuple : List ToWireValue → List Oid → Act Error Bytes Unit
  | [], _ => pure ()
  | v :: values, target :: targets => do
    v.append target
    encodeTuple values targets
  | _ :: _, [] => Act.halt

/-- `encode`. -/
def encode : ToParams → List Oid → Act Error Bytes Unit
  | unit, _ => pure ()
  | slice values, targets => encodeSlice values targets
  | tuple values, targets => encodeTuple values targets

/-- The values of the list, as they are encoded for the OIDs as far as both go. -/
def Encoded (params : ToParams) (targets : List Oid) (encoded : List (Option Bytes)) : Prop :=
  List.Forall₂ (fun (p : ToWireValue × Oid) value => p.1.encode p.2 = .ok (valueBytes value))
    (params.values.zip targets) encoded

variable {values : List ToWireValue} {targets : List Oid} {buf buf' : Bytes}

theorem append_ok {v : ToWireValue} {target : Oid} (h : v.append target buf = (.ok (), buf')) :
    ∃ value, v.encode target = .ok (valueBytes value) ∧ buf' = buf ++ valueBytes value := by
  cases hencode : v.encode target with
  | ok bs =>
    obtain ⟨value, rfl⟩ := v.framed hencode
    simp only [ToWireValue.append, hencode, Prod.mk.injEq, true_and] at h
    exact ⟨value, rfl, h.symm⟩
  | err e => simp [ToWireValue.append, hencode] at h
  | halt => simp [ToWireValue.append, hencode] at h

theorem encodeSlice_ok (h : encodeSlice values targets buf = (.ok (), buf')) :
    ∃ encoded, (slice values).Encoded targets encoded ∧
      buf' = buf ++ encoded.flatMap valueBytes := by
  induction values generalizing targets buf with
  | nil =>
    cases h
    exact ⟨[], .nil, by simp⟩
  | cons v values ih =>
    cases targets with
    | nil =>
      cases h
      exact ⟨[], .nil, by simp⟩
    | cons target targets =>
      obtain ⟨_, mid, hhead, htail⟩ := Act.bind_eq_ok_iff.mp h
      obtain ⟨value, hencode, rfl⟩ := append_ok hhead
      obtain ⟨encoded, hencoded, rfl⟩ := ih htail
      exact ⟨value :: encoded, .cons hencode hencoded, by simp⟩

/-- A tuple that encodes has an OID for each component, and writes what a slice does. -/
theorem encodeTuple_ok (h : encodeTuple values targets buf = (.ok (), buf')) :
    values.length ≤ targets.length ∧ encodeSlice values targets buf = (.ok (), buf') := by
  induction values generalizing targets buf with
  | nil => exact ⟨Nat.zero_le _, h⟩
  | cons v values ih =>
    cases targets with
    | nil => cases h
    | cons target targets =>
      obtain ⟨_, mid, hhead, htail⟩ := Act.bind_eq_ok_iff.mp h
      obtain ⟨hlen, hslice⟩ := ih htail
      exact ⟨Nat.succ_le_succ hlen, Act.bind_eq_ok_iff.mpr ⟨_, mid, hhead, hslice⟩⟩

/-- What a parameter list writes: its values in order, each with its length. -/
theorem encode_ok {params : ToParams} (h : params.encode targets buf = (.ok (), buf')) :
    ∃ encoded, params.Encoded targets encoded ∧ buf' = buf ++ encoded.flatMap valueBytes := by
  cases params with
  | unit =>
    cases h
    exact ⟨[], .nil, by simp⟩
  | slice values => exact encodeSlice_ok h
  | tuple values => exact encodeSlice_ok (encodeTuple_ok h).2

/-- The number of values encoded, when there are as many OIDs as the count of them says. -/
theorem Encoded.length_of_mod {params : ToParams} {encoded : List (Option Bytes)}
    (h : params.Encoded targets encoded)
    (hcount : targets.length = params.paramCount % 2 ^ 16) : encoded.length = targets.length := by
  have hle := Nat.mod_le params.paramCount (2 ^ 16)
  have hlen := h.length_eq
  rw [List.length_zip] at hlen
  rw [paramCount] at hcount hle
  omega

/-- A value is told by what it writes. -/
theorem valueBytes_injective : Function.Injective valueBytes := by
  have hlen : ∀ data : Bytes, (valueBytes (some data)).length = 4 + data.length := by
    intro data
    simp [valueBytes]
  have hnull : ∀ data : Bytes, valueBytes none ≠ valueBytes (some data) := by
    intro data h
    have hdata := congrArg List.length h
    rw [hlen, valueBytes, BigEndian.length_intBytes] at hdata
    obtain rfl : data = [] := List.eq_nil_of_length_eq_zero (by omega)
    exact absurd h (by decide +kernel)
  intro v w h
  cases v with
  | none =>
    cases w with
    | none => rfl
    | some data => exact absurd h (hnull data)
  | some data =>
    cases w with
    | none => exact absurd h.symm (hnull data)
    | some data' => rw [(List.append_inj h (by simp)).2]

/-- The values of a list are determined by the OIDs they are encoded for. -/
theorem Encoded.unique {params : ToParams} {encoded encoded' : List (Option Bytes)}
    (h : params.Encoded targets encoded) (h' : params.Encoded targets encoded') :
    encoded = encoded' := by
  refine List.right_unique_forall₂' ?_ h h'
  intro p v w hv hw
  exact valueBytes_injective (Outcome.ok.inj (hv.symm.trans hw))

end ToParams

end ZeroPostgres
