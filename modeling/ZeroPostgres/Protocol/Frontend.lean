import ZeroPostgres.Protocol.Backend

/-!
# Frontend messages

What the client writes, `src/src/protocol/frontend/`. The write buffer is the list of
the messages written into it; a message is its fields. `bindHead` is what `write_bind`
leaves behind when encoding a parameter fails: a Bind whose length was never filled in.
-/

namespace ZeroPostgres

/-- Format code of a parameter, `src/src/protocol/types.rs:9–15`. -/
inductive FormatCode where
  | text | binary
deriving DecidableEq, Repr

/-- `preferred_format`, `src/src/protocol/types.rs:39–44`: NUMERIC (OID 1700) travels as
text, everything else in binary. -/
def preferredFormat (oid : Oid) : FormatCode := if oid = 1700 then .text else .binary

/-- A frontend message. -/
inductive Frontend where
  | query (sql : String)
  | parse (name query : String) (paramOids : List Oid)
  | bind (portal statement : String) (formats : List FormatCode) (paramCount : Nat)
      (values : Bytes)
  | bindHead (portal statement : String)
  | describeStatement (name : String)
  | describePortal (name : String)
  | execute (portal : String) (maxRows : Nat)
  | closeStatement (name : String)
  | closePortal (name : String)
  | sync
  | flush
  | terminate
deriving DecidableEq, Repr

/-- Parameters of a statement, the trait `ToParams` of `src/src/conversion/mod.rs`: the
OIDs they prefer, their number, and their encoding for given target OIDs. -/
structure Params where
  naturalOids : List Oid
  paramCount : Nat
  encode : List Oid → Except Error Bytes

/-- `()`, no parameters. -/
def Params.none : Params := ⟨[], 0, fun _ => .ok []⟩

/-- `write_bind`, `src/src/protocol/frontend/extended.rs:35–78`: the buffer grows by the
whole message, or by its head when a parameter cannot be encoded. -/
def writeBind (buf : List Frontend) (portal statement : String) (params : Params)
    (targetOids : List Oid) : Except Error Unit × List Frontend :=
  match params.encode targetOids with
  | .ok values =>
    (.ok (), buf ++ [.bind portal statement (targetOids.map preferredFormat)
      params.paramCount values])
  | .error e => (.error e, buf ++ [.bindHead portal statement])

/-- The parameters encode for the given target OIDs. -/
def Params.encodes (params : Params) (targetOids : List Oid) : Bool :=
  (params.encode targetOids).isOk

/-- Prepared statement information, `src/src/state/extended.rs:36–43`. -/
structure PreparedStatement where
  idx : Nat
  paramOids : List Oid
  rowDescPayload : Option Bytes
deriving DecidableEq, Repr

/-- `wire_name`, `src/src/state/extended.rs:47–49`. -/
def PreparedStatement.wireName (stmt : PreparedStatement) : String :=
  "_zero_s_" ++ toString stmt.idx

/-- A statement given to an `exec` method, `src/src/statement.rs:10–13`. -/
inductive StatementRef where
  | sql (text : String)
  | prepared (stmt : PreparedStatement)
deriving DecidableEq, Repr

/-- Buffers of a connection, `src/src/buffer_set.rs:4–13`; the messages waiting in the
write buffer stand for its bytes. -/
structure BufferSet where
  readBuffer : Bytes
  writeBuffer : List Frontend
  columnBuffer : Bytes
  typeByte : MsgType
deriving DecidableEq, Repr

/-- `BufferSet::new`, `src/src/buffer_set.rs:17–24`. -/
def BufferSet.new : BufferSet := ⟨[], [], [], .other 0⟩

/-- The buffers after `read_message`, `src/src/sync/stream.rs:73–89`. -/
def BufferSet.load (b : BufferSet) (m : RawMessage) : BufferSet :=
  { b with typeByte := m.type, readBuffer := m.payload }

@[simp] theorem BufferSet.load_typeByte (b : BufferSet) (m : RawMessage) :
    (b.load m).typeByte = m.type := rfl

@[simp] theorem BufferSet.load_readBuffer (b : BufferSet) (m : RawMessage) :
    (b.load m).readBuffer = m.payload := rfl

@[simp] theorem BufferSet.load_writeBuffer (b : BufferSet) (m : RawMessage) :
    (b.load m).writeBuffer = b.writeBuffer := rfl

@[simp] theorem BufferSet.load_columnBuffer (b : BufferSet) (m : RawMessage) :
    (b.load m).columnBuffer = b.columnBuffer := rfl

end ZeroPostgres
