import ZeroPostgres.Server.Types

/-!
# A type system of a server

The receive and send functions of PostgreSQL for the types that the client encodes, with every
NUMERIC sent as the first of its images. They keep to the documentation: `types_lawful`.
-/

namespace ZeroPostgres

namespace Reference

open Datum (numericIn numericIn_signedText utf8 utf8_utf8Bytes)
open ServerTypes

/-! ### Receive functions -/

/-- A whole payload read as a number of the given width. -/
def signed (width : Nat) (data : Bytes) : Option Int :=
  if data.length = width then some (BigEndian.int data) else none

/-- `boolrecv`. -/
def boolRecv : Bytes → Option Datum
  | [b] => some (.bool (b != 0))
  | _ => none

/-- `namerecv`: at most 63 bytes. -/
def nameRecv (data : Bytes) : Option Datum :=
  if data.length < 64 then (utf8 data).map .text else none

/-- `json_recv`. -/
def jsonRecv (isJson : String → Bool) (data : Bytes) : Option Datum :=
  match utf8 data with
  | some s => if isJson s then some (.json s) else none
  | none => none

/-- `jsonb_recv`: a version byte, then the text. -/
def jsonbRecv (isJson : String → Bool) : Bytes → Option Datum
  | 1 :: data =>
    match utf8 data with
    | some s => if isJson s then some (.jsonb s) else none
    | none => none
  | _ => none

/-- `uuid_recv`. -/
def uuidRecv (data : Bytes) : Option Datum :=
  if data.length = 16 then some (.uuid data) else none

/-- `date_recv`. -/
def dateRecv (data : Bytes) : Option Datum :=
  (signed 4 data).bind fun day =>
    if day = -2 ^ 31 then some (.dateInfinity false)
    else if day = 2 ^ 31 - 1 then some (.dateInfinity true)
    else if DateRange day then some (.date day)
    else none

/-- `time_recv`. -/
def timeRecv (data : Bytes) : Option Datum :=
  (signed 8 data).bind fun us =>
    if 0 ≤ us ∧ us ≤ 86400000000 then
      some (.time (us.toNat / 1000000) (us.toNat % 1000000 * 1000))
    else none

/-- `timestamp_recv` and `timestamptz_recv`. -/
def timestampRecv (data : Bytes) : Option Datum :=
  (signed 8 data).bind fun us =>
    if us = -2 ^ 63 then some (.timestampInfinity false)
    else if us = 2 ^ 63 - 1 then some (.timestampInfinity true)
    else if TimestampRange (us / 1000000) then
      some (.timestamp (us / 1000000) (us % 1000000 * 1000).toNat)
    else none

/-- The function that the server calls. -/
def receive (isJson : String → Bool) (target : Oid) (format : FormatCode) (data : Bytes) :
    Option Datum :=
  match format with
  | .text => if target = oid.numeric then numericIn data else none
  | .binary =>
    if target = oid.bool then boolRecv data
    else if target = oid.bytea then some (.bytea data)
    else if target = oid.name then nameRecv data
    else if target = oid.int8 then (signed 8 data).map .int
    else if target = oid.int2 then (signed 2 data).map .int
    else if target = oid.int4 then (signed 4 data).map .int
    else if target = oid.text ∨ target = oid.bpchar ∨ target = oid.varchar then
      (utf8 data).map .text
    else if target = oid.json then jsonRecv isJson data
    else if target = oid.jsonb then jsonbRecv isJson data
    else if target = oid.date then dateRecv data
    else if target = oid.time then timeRecv data
    else if target = oid.timestamp ∨ target = oid.timestamptz then timestampRecv data
    else if target = oid.uuid then uuidRecv data
    else none

/-! ### Send functions -/

/-- The bytes of an integer type. -/
def intWidth (target : Oid) : Nat :=
  if target = oid.int2 then 2 else if target = oid.int4 then 4 else 8

/-- The payload of a value that is no NUMERIC, unless it is NULL. -/
def sent (target : Oid) : Datum → Option Bytes
  | .null | .numeric _ => none
  | .bool b => some [if b then 1 else 0]
  | .int i => some (BigEndian.intBytes (intWidth target) i)
  | .text s | .json s => some (utf8Bytes s)
  | .jsonb s => some (1 :: utf8Bytes s)
  | .bytea bs | .uuid bs => some bs
  | .date day => some (BigEndian.intBytes 4 day)
  | .dateInfinity positive => some (BigEndian.intBytes 4 (if positive then 2 ^ 31 - 1 else -2 ^ 31))
  | .time second nano => some (BigEndian.intBytes 8 (second * 1000000 + nano / 1000 : Nat))
  | .timestamp second nano => some (BigEndian.intBytes 8 (second * 1000000 + (nano / 1000 : Nat)))
  | .timestampInfinity positive =>
    some (BigEndian.intBytes 8 (if positive then 2 ^ 63 - 1 else -2 ^ 63))

/-- What the server sends: nothing that is longer than a length can say. -/
def Sends (target : Oid) (datum : Datum) (value : Option Bytes) : Prop :=
  (∀ data, value = some data → data.length < 2 ^ 31) ∧
    match datum with
    | .numeric q => ∃ n : Numeric, (n.Canonical ∧ n.Wire) ∧ n.value = q ∧ value = some n.image
    | datum => value = sent target datum

/-- A server with these types. -/
def types (isJson : String → Bool) : ServerTypes := ⟨isJson, receive isJson, Sends⟩

/-! ### Their laws -/

variable {isJson : String → Bool} {data : Bytes} {datum : Datum}

theorem signed_intBytes {width : Nat} {v : Int} (h : BigEndian.Fits width v) :
    signed width (BigEndian.intBytes width v) = some v := by
  rw [signed, if_pos (BigEndian.length_intBytes width v), BigEndian.int_intBytes h]

theorem signed_eq_some {width : Nat} {n : Int} (h : signed width data = some n) :
    data = BigEndian.intBytes width n := by
  unfold signed at h
  split at h
  · next hlen =>
    cases h
    rw [← hlen, BigEndian.intBytes_int]
  · cases h

theorem eq_utf8Bytes {s : String} (h : utf8 data = some s) : data = utf8Bytes s := by
  unfold utf8 String.fromUTF8? at h
  split at h
  · cases h
  split at h
  · cases h
    rfl
  · cases h

/-- A number whose two extremes stand for something else. -/
theorem extremes_eq_some_iff {n low high : Int} {x y z : Datum} {p : Prop} [Decidable p]
    (hne : low ≠ high) (hlow : n = low → ¬ p) (hhigh : n = high → ¬ p) :
    (if n = low then some x else if n = high then some y else if p then some z else none) =
        some datum ↔
      (datum = z ∧ p) ∨ (datum = x ∧ n = low) ∨ (datum = y ∧ n = high) := by
  by_cases hl : n = low
  · rw [if_pos hl, Option.some.injEq, eq_comm]
    simp [hl, hne, hlow hl]
  by_cases hh : n = high
  · rw [if_neg hl, if_pos hh, Option.some.injEq, eq_comm]
    simp [hh, hne.symm, hhigh hh]
  rw [if_neg hl, if_neg hh]
  by_cases hp : p
  · rw [if_pos hp, Option.some.injEq, eq_comm]
    simp [hl, hh, hp]
  · rw [if_neg hp]
    simp [hl, hh, hp]

theorem dateRecv_intBytes {n : Int} (h : BigEndian.Fits 4 n) :
    dateRecv (BigEndian.intBytes 4 n) = some datum ↔ ReadsDate n datum := by
  rw [dateRecv, signed_intBytes h, Option.bind_some]
  refine extremes_eq_some_iff (by decide) ?_ ?_
  · rintro rfl
    decide
  · rintro rfl
    decide

theorem timeRecv_intBytes {us : Int} (h : BigEndian.Fits 8 us) :
    timeRecv (BigEndian.intBytes 8 us) = some datum ↔ ReadsTime us datum := by
  rw [timeRecv, signed_intBytes h, Option.bind_some, ReadsTime]
  split <;> simp [*, eq_comm]

theorem timestampRecv_intBytes {us : Int} (h : BigEndian.Fits 8 us) :
    timestampRecv (BigEndian.intBytes 8 us) = some datum ↔ ReadsTimestamp us datum := by
  rw [timestampRecv, signed_intBytes h, Option.bind_some]
  refine extremes_eq_some_iff (by decide) ?_ ?_
  · rintro rfl
    decide
  · rintro rfl
    decide

theorem jsonbRecv_eq_some (h : jsonbRecv isJson data = some datum) :
    ∃ s, datum = .jsonb s ∧ data = 1 :: utf8Bytes s := by
  unfold jsonbRecv at h
  split at h
  · next rest =>
    split at h
    · next s hs =>
      split at h
      · cases h
        exact ⟨s, rfl, congrArg (1 :: ·) (eq_utf8Bytes hs)⟩
      · cases h
    · cases h
  · cases h

theorem types_receive (isJson : String → Bool) : (types isJson).receive = receive isJson := rfl

theorem receive_date (data : Bytes) :
    receive isJson oid.date .binary data = dateRecv data := rfl

theorem receive_time (data : Bytes) :
    receive isJson oid.time .binary data = timeRecv data := rfl

theorem receive_timestamp {target : Oid} (h : target = oid.timestamp ∨ target = oid.timestamptz)
    (data : Bytes) : receive isJson target .binary data = timestampRecv data := by
  rcases h with rfl | rfl <;> rfl

theorem receive_numeric (data : Bytes) :
    receive isJson oid.numeric .text data = numericIn data := rfl

theorem sent_of_number (target : Oid)
    (h : (signed (intWidth target) data).map .int = some datum) :
    sent target datum = some data := by
  obtain ⟨n, hn, rfl⟩ := Option.map_eq_some_iff.mp h
  exact congrArg some (signed_eq_some hn).symm

theorem sent_of_text (target : Oid) (h : (utf8 data).map .text = some datum) :
    sent target datum = some data := by
  obtain ⟨s, hs, rfl⟩ := Option.map_eq_some_iff.mp h
  exact congrArg some (eq_utf8Bytes hs).symm

theorem sent_of_nameRecv (h : nameRecv data = some datum) : sent oid.name datum = some data := by
  unfold nameRecv at h
  split at h
  · exact sent_of_text oid.name h
  · cases h

theorem sent_of_jsonRecv (h : jsonRecv isJson data = some datum) :
    sent oid.json datum = some data := by
  unfold jsonRecv at h
  split at h
  · next s hs =>
    split at h
    · cases h
      exact congrArg some (eq_utf8Bytes hs).symm
    · cases h
  · cases h

theorem sent_of_uuidRecv (h : uuidRecv data = some datum) : sent oid.uuid datum = some data := by
  unfold uuidRecv at h
  split at h
  · cases h
    rfl
  · cases h

theorem sent_of_dateRecv (h : dateRecv data = some datum) : sent oid.date datum = some data := by
  obtain ⟨n, hn, h⟩ := Option.bind_eq_some_iff.mp h
  rw [signed_eq_some hn]
  split at h
  · next hlow =>
    cases h
    rw [hlow]
    rfl
  split at h
  · next hhigh =>
    cases h
    rw [hhigh]
    rfl
  split at h
  · cases h
    rfl
  · cases h

theorem sent_of_timeRecv (h : timeRecv data = some datum) : sent oid.time datum = some data := by
  obtain ⟨us, hus, h⟩ := Option.bind_eq_some_iff.mp h
  rw [signed_eq_some hus]
  split at h
  · cases h
    have hback : ((us.toNat / 1000000 * 1000000 + us.toNat % 1000000 * 1000 / 1000 : Nat) :
        Int) = us := by omega
    exact congrArg (fun n => some (BigEndian.intBytes 8 n)) hback
  · cases h

theorem sent_of_timestampRecv (target : Oid) (h : timestampRecv data = some datum) :
    sent target datum = some data := by
  obtain ⟨us, hus, h⟩ := Option.bind_eq_some_iff.mp h
  rw [signed_eq_some hus]
  split at h
  · next hlow =>
    cases h
    rw [hlow]
    rfl
  split at h
  · next hhigh =>
    cases h
    rw [hhigh]
    rfl
  split at h
  · cases h
    have hback : us / 1000000 * 1000000 + ((us % 1000000 * 1000).toNat / 1000 : Nat) = us := by
      omega
    exact congrArg (fun n => some (BigEndian.intBytes 8 n)) hback
  · cases h

/-- What was read is sent back as it came. -/
theorem sent_of_receive {target : Oid} (htarget : target ∈ sentAsReceived)
    (h : receive isJson target .binary data = some datum) : sent target datum = some data := by
  simp only [sentAsReceived, List.mem_cons, List.not_mem_nil, or_false] at htarget
  rcases htarget with rfl | rfl | rfl | rfl | rfl | rfl | rfl | rfl | rfl | rfl | rfl | rfl | rfl |
    rfl
  case inl =>
    cases h
    rfl
  · exact sent_of_nameRecv h
  · exact sent_of_number oid.int8 h
  · exact sent_of_number oid.int2 h
  · exact sent_of_number oid.int4 h
  · exact sent_of_text oid.text h
  · exact sent_of_jsonRecv h
  · exact sent_of_text oid.bpchar h
  · exact sent_of_text oid.varchar h
  · exact sent_of_dateRecv h
  · exact sent_of_timeRecv h
  · exact sent_of_timestampRecv oid.timestamp h
  · exact sent_of_timestampRecv oid.timestamptz h
  · exact sent_of_uuidRecv h

/-- And nothing else is. -/
theorem eq_of_sends {target : Oid} {value : Option Bytes} (hsent : sent target datum = some data)
    (h : Sends target datum value) : value = some data := by
  cases datum with
  | numeric q => cases hsent
  | _ => exact h.2.trans hsent

theorem types_lawful (isJson : String → Bool) : (types isJson).Lawful where
  bool b := by cases b <;> rfl
  int2 := by
    intro n h
    change (signed 2 (BigEndian.intBytes 2 n)).map Datum.int = _
    rw [signed_intBytes h, Option.map_some]
  int4 := by
    intro n h
    change (signed 4 (BigEndian.intBytes 4 n)).map Datum.int = _
    rw [signed_intBytes h, Option.map_some]
  int8 := by
    intro n h
    change (signed 8 (BigEndian.intBytes 8 n)).map Datum.int = _
    rw [signed_intBytes h, Option.map_some]
  text := by
    intro target s htarget
    have hreceive : receive isJson target .binary (utf8Bytes s) =
        (utf8 (utf8Bytes s)).map .text := by
      rcases htarget with rfl | rfl | rfl <;> rfl
    change receive isJson target .binary (utf8Bytes s) = _
    rw [hreceive, utf8_utf8Bytes]
    split <;> rfl
  name := by
    intro s
    change nameRecv (utf8Bytes s) = _
    rw [nameRecv, utf8_utf8Bytes]
    by_cases hlen : (utf8Bytes s).length < 64 <;> by_cases hzero : 0 ∈ utf8Bytes s <;>
      simp [hlen, hzero, Nat.not_le.mpr, Nat.le_of_not_lt]
  json := by
    intro s
    change jsonRecv isJson (utf8Bytes s) = _
    rw [jsonRecv, utf8_utf8Bytes]
    by_cases hzero : 0 ∈ utf8Bytes s <;> cases hjson : isJson s <;> simp [types, hzero, hjson]
  jsonb h := jsonbRecv_eq_some h
  bytea data := rfl
  uuid := by
    intro data h
    change uuidRecv data = _
    rw [uuidRecv, if_pos h]
  date := by
    intro n datum h
    rw [types_receive, receive_date]
    exact dateRecv_intBytes h
  time := by
    intro us datum h
    rw [types_receive, receive_time]
    exact timeRecv_intBytes h
  timestamp := by
    intro target us datum htarget h
    rw [types_receive, receive_timestamp htarget]
    exact timestampRecv_intBytes h
  numeric := by
    intro negative coefficient scale _ _
    rw [types_receive, receive_numeric]
    exact numericIn_signedText negative coefficient scale
  sends_null h := h.2
  sends_some := by
    rintro target datum value hdatum h rfl
    cases datum with
    | null => exact hdatum rfl
    | numeric q =>
      obtain ⟨-, n, -, -, hvalue⟩ := h
      cases hvalue
    | _ => cases h.2
  sends_lt h := h.1 _ rfl
  sends_bool h := h.2
  sends_numeric h := h.2
  sends_received := by
    intro target data datum value htarget hreceive h
    exact eq_of_sends (sent_of_receive htarget hreceive) h

end Reference

end ZeroPostgres
