import ZeroPostgres.Conversion.Params

/-!
# Frontend messages as bytes

`MessageBuilder` of `src/src/protocol/codec.rs`, and the functions of `src/src/protocol/frontend/`
that write the messages with strings in them. A builder leaves room for the length and fills it in
at the end: `finish_new` and `finish_newStartup` say what a finished message is, and each function
has one lemma on what it appends.
-/

namespace ZeroPostgres

/-- `MessageBuilder`, lines 166–233: the buffer and where the length field is. -/
structure MessageBuilder where
  buf : Bytes
  start : Nat

namespace MessageBuilder

/-- The length field before it is filled in. -/
def placeholder : Bytes := [0, 0, 0, 0]

/-- `new`, lines 175–180. -/
def new (buf : Bytes) (typeByte : UInt8) : MessageBuilder :=
  ⟨buf ++ [typeByte] ++ placeholder, (buf ++ [typeByte]).length⟩

/-- `new_startup`, lines 183–187. -/
def newStartup (buf : Bytes) : MessageBuilder := ⟨buf ++ placeholder, buf.length⟩

/-- `write_bytes`; the other functions that write come down to it. -/
def writeBytes (msg : MessageBuilder) (data : Bytes) : MessageBuilder :=
  { msg with buf := msg.buf ++ data }

/-- `write_u8`. -/
def writeU8 (msg : MessageBuilder) (value : UInt8) : MessageBuilder := msg.writeBytes [value]

/-- `write_i16(value as i16)`: the cast keeps the low 16 bits. -/
def writeI16 (msg : MessageBuilder) (value : Nat) : MessageBuilder :=
  msg.writeBytes (BigEndian.bytes 2 value)

/-- `write_u16`. -/
def writeU16 (msg : MessageBuilder) (value : UInt16) : MessageBuilder :=
  msg.writeBytes (BigEndian.bytes 2 value.toNat)

/-- `write_i32(value as i32)`: the cast keeps the low 32 bits. -/
def writeI32 (msg : MessageBuilder) (value : Nat) : MessageBuilder :=
  msg.writeBytes (BigEndian.bytes 4 value)

/-- `write_u32`. -/
def writeU32 (msg : MessageBuilder) (value : UInt32) : MessageBuilder :=
  msg.writeBytes (BigEndian.bytes 4 value.toNat)

/-- `write_cstr`: nothing looks for a null byte in the string. -/
def writeCstr (msg : MessageBuilder) (s : String) : MessageBuilder := msg.writeBytes (cstr s)

/-- `finish`, lines 230–233: the length, cast to 32 bits, replaces the placeholder. -/
def finish (msg : MessageBuilder) : Bytes :=
  msg.buf.take msg.start ++ BigEndian.bytes 4 (msg.buf.length - msg.start) ++
    msg.buf.drop (msg.start + 4)

@[simp] theorem writeBytes_writeBytes (msg : MessageBuilder) (xs ys : Bytes) :
    (msg.writeBytes xs).writeBytes ys = msg.writeBytes (xs ++ ys) := by
  simp [writeBytes]

/-- Elements written one after the other. -/
theorem foldl_writeBytes {α : Type} (msg : MessageBuilder) (xs : List α) (f : α → Bytes) :
    xs.foldl (fun msg x => msg.writeBytes (f x)) msg = msg.writeBytes (xs.flatMap f) := by
  induction xs generalizing msg with
  | nil => simp [writeBytes]
  | cons x xs ih => rw [List.foldl_cons, ih, writeBytes_writeBytes, List.flatMap_cons]

end MessageBuilder

/-- A length field, which counts itself, and what it counts. -/
def lengthPrefixed (body : Bytes) : Bytes := BigEndian.bytes 4 (4 + body.length) ++ body

/-- A message with its type. -/
def frame (typeByte : UInt8) (body : Bytes) : Bytes := typeByte :: lengthPrefixed body

theorem frame_inj {typeByte : UInt8} {xs ys : Bytes} :
    frame typeByte xs = frame typeByte ys ↔ xs = ys := by
  constructor
  · intro h
    have hprefixed : lengthPrefixed xs = lengthPrefixed ys := (List.cons.inj h).2
    exact (List.append_inj hprefixed (by simp)).2
  · intro h
    rw [h]

namespace MessageBuilder

theorem finish_placeholder (front body : Bytes) :
    finish ⟨front ++ placeholder ++ body, front.length⟩ = front ++ lengthPrefixed body := by
  have hlen : (front ++ placeholder ++ body).length - front.length = 4 + body.length := by
    simp [placeholder]
    omega
  have hdrop : (front ++ placeholder ++ body).drop (front.length + 4) = body :=
    List.drop_left' (by simp [placeholder])
  have htake : (front ++ placeholder ++ body).take front.length = front := by
    rw [List.append_assoc]
    exact List.take_left' rfl
  rw [finish, hlen, hdrop, htake, lengthPrefixed, List.append_assoc]

/-- A message finished is its type, its length and what was written. -/
theorem finish_new (buf : Bytes) (typeByte : UInt8) (body : Bytes) :
    ((new buf typeByte).writeBytes body).finish = buf ++ frame typeByte body := by
  show finish ⟨buf ++ [typeByte] ++ placeholder ++ body, (buf ++ [typeByte]).length⟩ = _
  rw [finish_placeholder, List.append_assoc]
  rfl

theorem finish_newStartup (buf body : Bytes) :
    ((newStartup buf).writeBytes body).finish = buf ++ lengthPrefixed body :=
  finish_placeholder buf body

end MessageBuilder

namespace Wire

open MessageBuilder

/-- `write_query`, `src/src/protocol/frontend/simple.rs:8–13`. -/
def writeQuery (buf : Bytes) (query : String) : Bytes :=
  ((new buf 81).writeCstr query).finish

/-- `write_password`, `src/src/protocol/frontend/auth.rs:6–10`. -/
def writePassword (buf : Bytes) (password : String) : Bytes :=
  ((new buf 112).writeCstr password).finish

/-- `write_parse`, `src/src/protocol/frontend/extended.rs:13–23`. -/
def writeParse (buf : Bytes) (name query : String) (paramOids : List Oid) : Bytes :=
  let msg := (((new buf 80).writeCstr name).writeCstr query).writeI16 paramOids.length
  (paramOids.foldl (fun msg oid => msg.writeI32 oid.toNat) msg).finish

/-- `write_bind`, `src/src/protocol/frontend/extended.rs:35–78`: an error of a parameter leaves the
message unfinished in the buffer. -/
def writeBind (portal statement : String) (params : ToParams) (targetOids : List Oid) :
    Act Error Bytes Unit := fun buf =>
  let names := ((new buf 66).writeCstr portal).writeCstr statement
  let formats := targetOids.foldl (fun msg oid => msg.writeI16 (preferredFormat oid).toU16)
    (names.writeI16 params.paramCount)
  let msg := formats.writeI16 params.paramCount
  match params.encode targetOids msg.buf with
  | (.ok (), buf') =>
    (.ok (), ((({ msg with buf := buf' }).writeI16 1).writeI16 FormatCode.binary.toU16).finish)
  | r => r

/-- `PROTOCOL_VERSION_3_2`. -/
def protocolVersion : Nat := 196610

/-- `write_startup`, `src/src/protocol/frontend/startup.rs:46–63`. -/
def writeStartup (buf : Bytes) (params : List (String × String)) : Bytes :=
  let msg := (newStartup buf).writeI32 protocolVersion
  ((params.foldl (fun msg p => (msg.writeCstr p.1).writeCstr p.2) msg).writeU8 0).finish

/-! ### What each function appends -/

theorem writeQuery_eq (buf : Bytes) (query : String) :
    writeQuery buf query = buf ++ frame 81 (cstr query) := finish_new buf 81 _

theorem writePassword_eq (buf : Bytes) (password : String) :
    writePassword buf password = buf ++ frame 112 (cstr password) := finish_new buf 112 _

/-- A count of 16 bits and the OIDs. -/
def oidList (oids : List Oid) : Bytes :=
  BigEndian.bytes 2 oids.length ++ oids.flatMap fun oid => BigEndian.bytes 4 oid.toNat

theorem writeParse_eq (buf : Bytes) (name query : String) (paramOids : List Oid) :
    writeParse buf name query paramOids =
      buf ++ frame 80 (cstr name ++ cstr query ++ oidList paramOids) := by
  simp only [writeParse, writeI32, foldl_writeBytes, writeI16, writeCstr, writeBytes_writeBytes]
  rw [finish_new, oidList]
  simp only [List.append_assoc]

/-- The format codes the targets are sent in. -/
def formatList (targetOids : List Oid) : Bytes :=
  targetOids.flatMap fun oid => BigEndian.bytes 2 (preferredFormat oid).toU16

/-- The body of a Bind: the count stands before the formats and before the values. -/
def bindBody (portal statement : String) (count : Nat) (targetOids : List Oid) (values : Bytes) :
    Bytes :=
  cstr portal ++ cstr statement ++ BigEndian.bytes 2 count ++ formatList targetOids ++
    BigEndian.bytes 2 count ++ values ++ BigEndian.bytes 2 1 ++ BigEndian.bytes 2 1

theorem writeBind_ok {portal statement : String} {params : ToParams} {targetOids : List Oid}
    {buf buf' : Bytes} (h : writeBind portal statement params targetOids buf = (.ok (), buf')) :
    ∃ encoded, params.Encoded targetOids encoded ∧
      buf' = buf ++ frame 66 (bindBody portal statement params.paramCount targetOids
        (encoded.flatMap valueBytes)) := by
  simp only [writeBind, writeI16, foldl_writeBytes, writeCstr, writeBytes_writeBytes] at h
  split at h
  · next values hencode =>
    obtain ⟨encoded, hencoded, rfl⟩ := ToParams.encode_ok hencode
    cases h
    refine ⟨encoded, hencoded, ?_⟩
    simp only [writeBytes, List.append_assoc]
    rw [← finish_new]
    simp only [writeBytes, bindBody, formatList, FormatCode.toU16, List.append_assoc]
  · next r hr => exact absurd h (hr _)

/-- The bytes of a message that the connections keep in their write buffer. What a Bind leaves when
a parameter fails depends on the parameters before it. -/
def messageBytes : Frontend → Option Bytes
  | .query sql => some (frame 81 (cstr sql))
  | .parse name query paramOids =>
    some (frame 80 (cstr name ++ cstr query ++ oidList paramOids))
  | .bind portal statement formats paramCount values =>
    some (frame 66 (cstr portal ++ cstr statement ++ BigEndian.bytes 2 paramCount ++
      formats.flatMap (fun format => BigEndian.bytes 2 format.toU16) ++
      BigEndian.bytes 2 paramCount ++ values ++ BigEndian.bytes 2 1 ++ BigEndian.bytes 2 1))
  | .bindHead _ _ => none
  | .describeStatement name => some (frame 68 (83 :: cstr name))
  | .describePortal name => some (frame 68 (80 :: cstr name))
  | .execute portal maxRows => some (frame 69 (cstr portal ++ BigEndian.bytes 4 maxRows))
  | .closeStatement name => some (frame 67 (83 :: cstr name))
  | .closePortal name => some (frame 67 (80 :: cstr name))
  | .sync => some (frame 83 [])
  | .flush => some (frame 72 [])
  | .terminate => some (frame 88 [])

/-- The message that stands for a Bind in a write buffer is the one whose bytes were written. -/
theorem writeBind_messageBytes {portal statement : String} {params : ToParams}
    {targetOids : List Oid} {buf buf' : Bytes}
    (h : writeBind portal statement params targetOids buf = (.ok (), buf')) {abstract : Params}
    (hcount : abstract.paramCount = params.paramCount) {values : Bytes}
    (hvalues : ∀ encoded, params.Encoded targetOids encoded → encoded.flatMap valueBytes = values)
    (hencode : abstract.encode targetOids = .ok values) (messages : List Frontend) :
    ∃ message bytes, ZeroPostgres.writeBind messages portal statement abstract targetOids =
        (.ok (), messages ++ [message]) ∧
      messageBytes message = some bytes ∧ buf' = buf ++ bytes := by
  obtain ⟨encoded, hencoded, rfl⟩ := writeBind_ok h
  refine ⟨_, _, by rw [ZeroPostgres.writeBind, hencode], rfl, ?_⟩
  rw [hvalues encoded hencoded, bindBody, formatList, hcount, List.flatMap_map]

/-- Names and values alternating, and the null byte at the end. -/
def parameterList (params : List (String × String)) : Bytes :=
  params.flatMap (fun p => cstr p.1 ++ cstr p.2) ++ [0]

theorem writeStartup_eq (buf : Bytes) (params : List (String × String)) :
    writeStartup buf params =
      buf ++ lengthPrefixed (BigEndian.bytes 4 protocolVersion ++ parameterList params) := by
  simp only [writeStartup, writeI32, writeCstr, writeU8, writeBytes_writeBytes, foldl_writeBytes]
  rw [finish_newStartup, parameterList, List.append_assoc]

end Wire

end ZeroPostgres
