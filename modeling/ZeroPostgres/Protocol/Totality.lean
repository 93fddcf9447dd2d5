import ZeroPostgres.Protocol.ParseErrors
import ZeroPostgres.Protocol.Rows

/-!
# Which payloads the parsers survive

A parser of `src/src/protocol/backend/` that cuts a slice out of range panics, which is `halt` here.
The authentication and error parsers never do. `RowDescription::parse`, `DataRow::parse` and
`ParameterDescription::parse` cut `&payload[..2]` unguarded, and the first also cuts the 18-byte
tail of every field unguarded: `parsers_return_iff` says for which payloads that goes well.
-/

namespace ZeroPostgres

namespace Outcome

variable {ε α β : Type}

/-- Neither half of a bind panics. -/
theorem returned_bind {o : Outcome ε α} {f : α → Outcome ε β} (ho : o.returned = true)
    (hf : ∀ a, (f a).returned = true) : (o.bind f).returned = true := by
  cases o with
  | ok a => exact hf a
  | err e => rfl
  | halt => cases ho

end Outcome

/-! ### Parsers that return for every payload -/

theorem readCstring_returned (data : Bytes) : (readCstring data).returned = true := by
  rw [readCstring_eq]
  split <;> rfl

theorem readCstr_returned (data : Bytes) : (readCstr data).returned = true := by
  apply Outcome.returned_bind (readCstring_returned data)
  intro r
  split <;> rfl

theorem readU32_returned (data : Bytes) : (readU32 data).returned = true := by
  unfold readU32
  split <;> rfl

theorem readI32_returned (data : Bytes) : (readI32 data).returned = true := by
  unfold readI32
  split <;> rfl

theorem ErrorResponse.parse_returned (payload : Bytes) :
    (ErrorResponse.parse payload).returned = true := by
  have hfields (fuel : Nat) (e : ServerError) (data : Bytes) :
      (parseFieldsFrom fuel e data).returned = true := by
    induction fuel generalizing e data with
    | zero => rfl
    | succ fuel ih =>
      cases data with
      | nil => rfl
      | cons t rest =>
        unfold parseFieldsFrom
        split
        · rfl
        · exact Outcome.returned_bind (readCstr_returned rest) fun r => ih _ _
  exact hfields _ _ _

theorem AuthenticationMessage.parse_returned (payload : Bytes) :
    (AuthenticationMessage.parse payload).returned = true := by
  have hmechanisms (fuel : Nat) (data : Bytes) :
      (parseMechanisms fuel data).returned = true := by
    induction fuel generalizing data with
    | zero => rfl
    | succ fuel ih =>
      cases data with
      | nil => rfl
      | cons b rest =>
        unfold parseMechanisms
        split
        · rfl
        · apply Outcome.returned_bind (readCstr_returned _)
          intro r
          exact Outcome.returned_bind (ih r.2) fun mechanisms => rfl
  apply Outcome.returned_bind (readI32_returned payload)
  intro r
  unfold parseBody
  split <;> try rfl
  · split <;> rfl
  · exact Outcome.returned_bind (hmechanisms _ _) fun mechanisms => rfl

/-! ### Parsers that cut unguarded slices -/

/-- After the name of each of the first `n` fields there are the 18 bytes of its tail, up to the
first name that has no terminator or is not UTF-8: there the parser returns an error. -/
def TailsFit : Nat → Bytes → Prop
  | 0, _ => True
  | n + 1, data =>
    match data.dropWhile (· != 0) with
    | [] => True
    | _ :: rest =>
      String.fromUTF8? ⟨(data.takeWhile (· != 0)).toArray⟩ = none ∨
        (tailSize ≤ rest.length ∧ TailsFit n (rest.drop tailSize))

instance TailsFit.decidable : ∀ n data, Decidable (TailsFit n data)
  | 0, _ => .isTrue trivial
  | n + 1, data => by
    have : DecidablePred (TailsFit n) := TailsFit.decidable n
    unfold TailsFit
    split
    · exact .isTrue trivial
    · infer_instance

/-- The payload has the element count its message begins with. -/
def Counted (payload : Bytes) : Prop := 2 ≤ payload.length

instance (payload : Bytes) : Decidable (Counted payload) := inferInstanceAs (Decidable (_ ≤ _))

theorem headU16_of_counted {payload : Bytes} (h : Counted payload) :
    headU16 payload = .ok (beNat (payload.take 2), payload.drop 2) := by
  match payload, h with
  | a :: b :: rest, _ => rfl

theorem headU16_of_not_counted {payload : Bytes} (h : ¬ Counted payload) :
    headU16 payload = .halt := by
  match payload, h with
  | [], _ => rfl
  | [a], _ => rfl
  | a :: b :: rest, h => exact absurd (by simp [Counted]) h

theorem parseFieldDescriptions_returned_iff (n : Nat) (data : Bytes) :
    (parseFieldDescriptions n data).returned = true ↔ TailsFit n data := by
  induction n generalizing data with
  | zero => simp [parseFieldDescriptions, TailsFit, Outcome.returned]
  | succ n ih =>
    unfold parseFieldDescriptions TailsFit readCstr
    rw [readCstring_eq]
    cases data.dropWhile (· != 0) with
    | nil => simp [Outcome.bind, Outcome.returned]
    | cons z rest =>
      cases hutf : String.fromUTF8? ⟨(data.takeWhile (· != 0)).toArray⟩ with
      | none => simp [Outcome.bind, Outcome.returned, hutf]
      | some name =>
        by_cases hlen : rest.length < tailSize
        · simp [Outcome.bind, Outcome.returned, hutf, hlen, Nat.not_le.mpr hlen]
        · have htail := ih (rest.drop tailSize)
          simp only [Outcome.bind, hutf, hlen, if_false, reduceCtorEq, false_or,
            Nat.not_lt.mp hlen, true_and]
          rw [← htail]
          cases parseFieldDescriptions n (rest.drop tailSize) <;> simp [Outcome.returned]

theorem RowDescription.parse_returned_iff (payload : Bytes) :
    (RowDescription.parse payload).returned = true ↔
      Counted payload ∧ TailsFit (beNat (payload.take 2)) (payload.drop 2) := by
  by_cases h : Counted payload
  · rw [RowDescription.parse, headU16_of_counted h]
    simp only [Outcome.bind, parseFieldDescriptions_returned_iff, h, true_and]
  · rw [RowDescription.parse, headU16_of_not_counted h]
    simp [Outcome.bind, Outcome.returned, h]

theorem DataRow.parse_returned_iff (payload : Bytes) :
    (DataRow.parse payload).returned = true ↔ Counted payload := by
  by_cases h : Counted payload
  · rw [DataRow.parse, headU16_of_counted h]
    simp [Outcome.bind, Outcome.returned, h]
  · rw [DataRow.parse, headU16_of_not_counted h]
    simp [Outcome.bind, Outcome.returned, h]

theorem ParameterDescription.parse_returned_iff (payload : Bytes) :
    (ParameterDescription.parse payload).returned = true ↔ Counted payload := by
  have hoids (n : Nat) (data : Bytes) : (parseOids n data).returned = true := by
    induction n generalizing data with
    | zero => rfl
    | succ n ih =>
      apply Outcome.returned_bind (readU32_returned data)
      intro r
      exact Outcome.returned_bind (ih r.2) fun oids => rfl
  by_cases h : Counted payload
  · rw [ParameterDescription.parse, headU16_of_counted h]
    simp [Outcome.bind, hoids, h]
  · rw [ParameterDescription.parse, headU16_of_not_counted h]
    simp [Outcome.bind, Outcome.returned, h]

/-- Each of the five parsers returns, with a value or an error. Iterating over a parsed row cuts no
unguarded slice: `DataRowIter.next` has no panic to return. -/
structure ParsersReturn (payload : Bytes) : Prop where
  rowDescription : (RowDescription.parse payload).returned = true
  dataRow : (DataRow.parse payload).returned = true
  parameterDescription : (ParameterDescription.parse payload).returned = true
  authentication : (AuthenticationMessage.parse payload).returned = true
  errorResponse : (ErrorResponse.parse payload).returned = true

/-- The parsers return exactly for the payloads that have an element count and, read as a
RowDescription, a whole tail behind every field name. -/
theorem parsers_return_iff (payload : Bytes) :
    ParsersReturn payload ↔
      Counted payload ∧ TailsFit (beNat (payload.take 2)) (payload.drop 2) := by
  constructor
  · intro h
    exact (RowDescription.parse_returned_iff payload).mp h.rowDescription
  · intro h
    exact {
      rowDescription := (RowDescription.parse_returned_iff payload).mpr h
      dataRow := (DataRow.parse_returned_iff payload).mpr h.1
      parameterDescription := (ParameterDescription.parse_returned_iff payload).mpr h.1
      authentication := AuthenticationMessage.parse_returned payload
      errorResponse := ErrorResponse.parse_returned payload }

/-- A RowDescription that announces one field and ends after its name panics, as an empty payload
does. -/
theorem parsers_panic : RowDescription.parse [0, 1, 105, 100, 0] = .halt ∧
    DataRow.parse [] = .halt ∧ ¬ ∀ payload, ParsersReturn payload := by
  refine ⟨by decide +kernel, by decide, fun h => ?_⟩
  have hempty := (h []).dataRow
  exact absurd hempty (by decide)

end ZeroPostgres
