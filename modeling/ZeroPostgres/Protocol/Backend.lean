import ZeroPostgres.Protocol.Codec

/-!
# Backend messages

Message types, raw messages and the parsers of the messages the client reads,
`src/src/protocol/backend/`. The type byte is an enumeration with an open case;
`MsgType.toByte` gives the wire value. A `FieldDescription` keeps its fixed-size tail
as the 18 bytes the source views in place.
-/

namespace ZeroPostgres

/-- Backend message type bytes, `src/src/protocol/backend/mod.rs:26–78`. -/
inductive MsgType where
  | authentication | backendKeyData | parameterStatus | readyForQuery | rowDescription
  | dataRow | commandComplete | emptyQueryResponse | errorResponse | noticeResponse
  | notificationResponse | parseComplete | bindComplete | closeComplete
  | parameterDescription | noData | portalSuspended | copyInResponse | copyOutResponse
  | copyBothResponse | copyData | copyDone | functionCallResponse
  | negotiateProtocolVersion
  | other (byte : UInt8)
deriving DecidableEq, Repr

namespace MsgType

/-- The type byte on the wire. -/
def toByte : MsgType → UInt8
  | authentication => 82
  | backendKeyData => 75
  | parameterStatus => 83
  | readyForQuery => 90
  | rowDescription => 84
  | dataRow => 68
  | commandComplete => 67
  | emptyQueryResponse => 73
  | errorResponse => 69
  | noticeResponse => 78
  | notificationResponse => 65
  | parseComplete => 49
  | bindComplete => 50
  | closeComplete => 51
  | parameterDescription => 116
  | noData => 110
  | portalSuspended => 115
  | copyInResponse => 71
  | copyOutResponse => 72
  | copyBothResponse => 87
  | copyData => 100
  | copyDone => 99
  | functionCallResponse => 86
  | negotiateProtocolVersion => 118
  | other byte => byte

/-- `type_byte as char`, as the error texts show it. -/
def display (t : MsgType) : String := String.singleton (Char.ofNat t.toByte.toNat)

/-- A message that can arrive at any time, `src/src/protocol/backend/mod.rs:119–126`. -/
def isAsync : MsgType → Bool
  | noticeResponse | notificationResponse | parameterStatus => true
  | _ => false

/-- A message that starts a COPY exchange. -/
def isCopy : MsgType → Bool
  | copyInResponse | copyOutResponse | copyBothResponse => true
  | _ => false

/-- A message from which an exchange goes on: it neither ends it nor starts a COPY. -/
def within (t : MsgType) : Bool := !t.isCopy && t != .readyForQuery

end MsgType

/-- A message as read from the stream, `src/src/protocol/backend/mod.rs:85–90`. -/
structure RawMessage where
  type : MsgType
  payload : Bytes
deriving DecidableEq, Repr

/-- Whether the message can arrive at any time, `src/src/protocol/backend/mod.rs:114–116`. -/
def RawMessage.isAsync (m : RawMessage) : Bool := m.type.isAsync

/-! ### Completion messages without a body -/

/-- The parsers that accept any payload, `src/src/protocol/backend/extended.rs:14–70`. -/
def anyBody (_payload : Bytes) : Parsed Unit := .ok ()

/-- `src/src/protocol/backend/extended.rs:16`. -/
def ParseComplete.parse := anyBody

/-- `src/src/protocol/backend/extended.rs:27`. -/
def BindComplete.parse := anyBody

/-- `src/src/protocol/backend/extended.rs:38`. -/
def CloseComplete.parse := anyBody

/-- `src/src/protocol/backend/extended.rs:49`. -/
def NoData.parse := anyBody

/-- `src/src/protocol/backend/extended.rs:60`. -/
def PortalSuspended.parse := anyBody

/-- `src/src/protocol/backend/query.rs:262`. -/
def EmptyQueryResponse.parse := anyBody

@[simp] theorem ParseComplete.parse_eq (p : Bytes) : ParseComplete.parse p = .ok () := rfl
@[simp] theorem BindComplete.parse_eq (p : Bytes) : BindComplete.parse p = .ok () := rfl
@[simp] theorem CloseComplete.parse_eq (p : Bytes) : CloseComplete.parse p = .ok () := rfl
@[simp] theorem NoData.parse_eq (p : Bytes) : NoData.parse p = .ok () := rfl
@[simp] theorem PortalSuspended.parse_eq (p : Bytes) : PortalSuspended.parse p = .ok () := rfl
@[simp] theorem EmptyQueryResponse.parse_eq (p : Bytes) :
    EmptyQueryResponse.parse p = .ok () := rfl

/-! ### ReadyForQuery -/

/-- Transaction status, `src/src/protocol/types.rs:49–57`. -/
inductive TransactionStatus where
  | idle | inTransaction | failed
deriving DecidableEq, Repr

namespace TransactionStatus

/-- Status byte on the wire. -/
def toByte : TransactionStatus → UInt8
  | idle => 73
  | inTransaction => 84
  | failed => 69

/-- `src/src/protocol/types.rs:61–68`. -/
def fromByte (value : UInt8) : Option TransactionStatus :=
  if value = 73 then some idle
  else if value = 84 then some inTransaction
  else if value = 69 then some failed
  else none

/-- A transaction block is open, failed or not, `src/src/protocol/types.rs:71–76`. -/
def isInTransaction : TransactionStatus → Bool
  | inTransaction | failed => true
  | idle => false

@[simp] theorem fromByte_toByte (s : TransactionStatus) : fromByte s.toByte = some s := by
  cases s <;> decide

end TransactionStatus

/-- `ReadyForQuery::parse` with `transaction_status().unwrap_or_default()`,
`src/src/protocol/backend/auth.rs:159–167`: the payload is exactly one byte, and an
unknown status counts as idle. -/
def ReadyForQuery.parse : Bytes → Parsed TransactionStatus
  | [status] => .ok ((TransactionStatus.fromByte status).getD .idle)
  | _ => .err (.libraryBug "ReadyForQuery")

/-! ### Errors and notices -/

/-- `parse_fields`, `src/src/protocol/backend/error.rs:9–24`, over the fields read so far.
Each round takes at least one byte, so the payload length bounds the rounds. -/
def parseFieldsFrom (fuel : Nat) (fields : ServerError) (data : Bytes) : Parsed ServerError :=
  match fuel, data with
  | 0, _ => .ok fields
  | _, [] => .ok fields
  | fuel + 1, fieldType :: rest =>
    if fieldType = 0 then .ok fields
    else (readCstr rest).bind fun r => parseFieldsFrom fuel (fields.insert fieldType r.1) r.2

/-- `parse_fields`, `src/src/protocol/backend/error.rs:9–24`. -/
def parseFields (payload : Bytes) : Parsed ServerError :=
  parseFieldsFrom payload.length .empty payload

/-- `src/src/protocol/backend/error.rs:32–34`. -/
def ErrorResponse.parse := parseFields

/-- `src/src/protocol/backend/error.rs:53–55`. -/
def NoticeResponse.parse := parseFields

/-! ### Asynchronous messages -/

/-- Asynchronous message from the server, `src/src/state/action.rs:59–80`. -/
inductive AsyncMessage where
  | notification (pid : UInt32) (channel payload : String)
  | notice (fields : ServerError)
  | parameterChanged (name value : String)
deriving DecidableEq, Repr

/-- `ParameterStatus::parse`, `src/src/protocol/backend/auth.rs:142–146`. -/
def ParameterStatus.parse (payload : Bytes) : Parsed (String × String) :=
  (readCstr payload).bind fun name =>
    (readCstr name.2).bind fun value => .ok (name.1, value.1)

/-- `NotificationResponse::parse`, `src/src/protocol/backend/auth.rs:183–192`. -/
def NotificationResponse.parse (payload : Bytes) : Parsed (UInt32 × String × String) :=
  (readU32 payload).bind fun pid =>
    (readCstr pid.2).bind fun channel =>
      (readCstr channel.2).bind fun text => .ok (pid.1, channel.1, text.1)

/-! ### Result sets -/

/-- Field description within a RowDescription, `src/src/protocol/backend/query.rs:32–37`;
`tail` is the `FieldDescriptionTail` as raw bytes. -/
structure FieldDescription where
  name : String
  tail : Bytes
deriving DecidableEq, Repr

/-- `size_of::<FieldDescriptionTail>()`, `src/src/protocol/backend/query.rs:15–28`. -/
def tailSize : Nat := 18

/-- The field loop of `RowDescription::parse`, `src/src/protocol/backend/query.rs:88–96`. -/
def parseFieldDescriptions : Nat → Bytes → Parsed (List FieldDescription)
  | 0, _ => .ok []
  | n + 1, data =>
    (readCstr data).bind fun r =>
      if r.2.length < tailSize then .halt
      else (parseFieldDescriptions n (r.2.drop tailSize)).bind fun fields =>
        .ok (⟨r.1, r.2.take tailSize⟩ :: fields)

/-- `RowDescription::parse`, `src/src/protocol/backend/query.rs:79–99`. -/
def RowDescription.parse (payload : Bytes) : Parsed (List FieldDescription) :=
  (headU16 payload).bind fun r => parseFieldDescriptions r.1 r.2

/-- DataRow message, `src/src/protocol/backend/query.rs:132–138`. -/
structure DataRow where
  numColumns : Nat
  columnsData : Bytes
deriving DecidableEq, Repr

/-- `DataRow::parse`, `src/src/protocol/backend/query.rs:141–150`. -/
def DataRow.parse (payload : Bytes) : Parsed DataRow :=
  (headU16 payload).bind fun r => .ok ⟨r.1, r.2⟩

/-- `CommandComplete::parse`: the command tag, `src/src/protocol/backend/query.rs:220–223`. -/
def CommandComplete.parse (payload : Bytes) : Parsed String :=
  (readCstr payload).bind fun r => .ok r.1

/-- The OID loop of `ParameterDescription::parse`,
`src/src/protocol/backend/extended.rs:90–94`. -/
def parseOids : Nat → Bytes → Parsed (List Oid)
  | 0, _ => .ok []
  | n + 1, data =>
    (readU32 data).bind fun r =>
      (parseOids n r.2).bind fun oids => .ok (r.1 :: oids)

/-- `ParameterDescription::parse`, `src/src/protocol/backend/extended.rs:82–97`. -/
def ParameterDescription.parse (payload : Bytes) : Parsed (List Oid) :=
  (headU16 payload).bind fun r => parseOids r.1 r.2

/-! ### Well-formed messages -/

/-- The asynchronous message a raw message carries, as `handle_async_message` reads it,
`src/src/state/extended.rs:387–420`. -/
def RawMessage.toAsync? (m : RawMessage) : Option AsyncMessage :=
  match m.type with
  | .noticeResponse =>
    match NoticeResponse.parse m.payload with
    | .ok e => some (.notice e)
    | _ => none
  | .parameterStatus =>
    match ParameterStatus.parse m.payload with
    | .ok p => some (.parameterChanged p.1 p.2)
    | _ => none
  | .notificationResponse =>
    match NotificationResponse.parse m.payload with
    | .ok n => some (.notification n.1 n.2.1 n.2.2)
    | _ => none
  | _ => none

/-- The error an ErrorResponse carries. -/
def RawMessage.toError? (m : RawMessage) : Option ServerError :=
  match m.type with
  | .errorResponse =>
    match ErrorResponse.parse m.payload with
    | .ok e => some e
    | _ => none
  | _ => none

/-- The payload has the layout its message type calls for. -/
def RawMessage.wellFormed (m : RawMessage) : Bool :=
  match m.type with
  | .readyForQuery => (ReadyForQuery.parse m.payload).isOk
  | .rowDescription => (RowDescription.parse m.payload).isOk
  | .dataRow => (DataRow.parse m.payload).isOk
  | .commandComplete => (CommandComplete.parse m.payload).isOk
  | .errorResponse => (ErrorResponse.parse m.payload).isOk
  | .parameterDescription => (ParameterDescription.parse m.payload).isOk
  | .noticeResponse | .parameterStatus | .notificationResponse => m.toAsync?.isSome
  | _ => true

/-- The messages of a stream other than the asynchronous ones. -/
def core (ms : List RawMessage) : List RawMessage := ms.filter fun m => !m.isAsync

@[simp] theorem core_nil : core [] = [] := rfl

@[simp] theorem core_append (xs ys : List RawMessage) : core (xs ++ ys) = core xs ++ core ys :=
  List.filter_append ..

/-- A stream without asynchronous messages is kept whole. -/
theorem core_eq_self {ms : List RawMessage} (h : ∀ m ∈ ms, m.isAsync = false) : core ms = ms :=
  List.filter_eq_self.mpr fun m hm => by simp [h m hm]

theorem core_cons_async {m : RawMessage} (h : m.isAsync = true) (ms : List RawMessage) :
    core (m :: ms) = core ms := by
  simp [core, h]

theorem core_cons_sync {m : RawMessage} (h : m.isAsync = false) (ms : List RawMessage) :
    core (m :: ms) = m :: core ms := by
  simp [core, h]

end ZeroPostgres
