import ZeroPostgres.Protocol.Frontend
import ZeroPostgres.Handler

/-!
# State machine interface

The actions a state machine asks its driver for and what the machines share,
`src/src/state/action.rs` and `src/src/state/mod.rs`. A step runs on the machine and the
buffers it borrows.
-/

namespace ZeroPostgres

/-- Action requested by a state machine, `src/src/state/action.rs:10–54`. -/
inductive Action where
  | writeAndReadByte
  | readMessage
  | write
  | writeAndReadMessage
  | tlsHandshake
  | handleAsyncMessageAndReadMessage (msg : AsyncMessage)
  | error (e : ServerError)
  | finished
deriving DecidableEq, Repr

/-- One step of a machine `S`: it may change the machine and the buffers. -/
abbrev Step (S : Type) := Act Error (S × BufferSet)

/-- Trait `StateMachine`, `src/src/state/mod.rs:22–36`. -/
class StateMachine (S : Type) where
  step : Step S Action
  transactionStatus : S → TransactionStatus

/-- `expected …, got '…'` as a library bug. -/
def unexpected (text : String) (got : MsgType) : Error :=
  .libraryBug (text ++ "'" ++ got.display ++ "'")

@[simp] theorem isConnectionBroken_unexpected (text : String) (got : MsgType) :
    (unexpected text got).isConnectionBroken = true := rfl

/-- `handle_async_message`, the same in both query machines,
`src/src/state/extended.rs:387–420`, `src/src/state/simple_query.rs:136–169`. -/
def handleAsyncMessage (m : RawMessage) : Parsed Action :=
  match m.type with
  | .noticeResponse =>
    (NoticeResponse.parse m.payload).bind fun notice =>
      .ok (.handleAsyncMessageAndReadMessage (.notice notice))
  | .parameterStatus =>
    (ParameterStatus.parse m.payload).bind fun param =>
      .ok (.handleAsyncMessageAndReadMessage (.parameterChanged param.1 param.2))
  | .notificationResponse =>
    (NotificationResponse.parse m.payload).bind fun n =>
      .ok (.handleAsyncMessageAndReadMessage (.notification n.1 n.2.1 n.2.2))
  | t => .err (unexpected "Unknown async message type: " t)

/-- An asynchronous message that carries `msg` is handed on as `msg`. -/
theorem handleAsyncMessage_of_toAsync {m : RawMessage} {msg : AsyncMessage}
    (h : m.toAsync? = some msg) :
    handleAsyncMessage m = .ok (.handleAsyncMessageAndReadMessage msg) := by
  unfold RawMessage.toAsync? at h
  unfold handleAsyncMessage
  split at h
  · split at h
    · next heq => cases h; simp [*, Outcome.bind]
    · cases h
  · split at h
    · next heq => cases h; simp [*, Outcome.bind]
    · cases h
  · split at h
    · next heq => cases h; simp [*, Outcome.bind]
    · cases h
  · cases h

/-- What is handed on as an asynchronous message was one. -/
theorem toAsync_of_handleAsyncMessage {msg : RawMessage} {action : Action}
    (h : handleAsyncMessage msg = .ok action) :
    ∃ note, action = .handleAsyncMessageAndReadMessage note ∧ msg.toAsync? = some note := by
  unfold handleAsyncMessage at h
  split at h
  · rename_i htype
    cases hparse : NoticeResponse.parse msg.payload <;> rw [hparse] at h <;> cases h
    exact ⟨_, rfl, by simp [RawMessage.toAsync?, htype, hparse]⟩
  · rename_i htype
    cases hparse : ParameterStatus.parse msg.payload <;> rw [hparse] at h <;> cases h
    exact ⟨_, rfl, by simp [RawMessage.toAsync?, htype, hparse]⟩
  · rename_i htype
    cases hparse : NotificationResponse.parse msg.payload <;> rw [hparse] at h <;> cases h
    exact ⟨_, rfl, by simp [RawMessage.toAsync?, htype, hparse]⟩
  · cases h

theorem isAsync_of_toAsync {m : RawMessage} {msg : AsyncMessage} (h : m.toAsync? = some msg) :
    m.type.isAsync = true := by
  unfold RawMessage.toAsync? at h
  split at h
  · next ht => rw [ht]; rfl
  · next ht => rw [ht]; rfl
  · next ht => rw [ht]; rfl
  · cases h

theorem toAsync_of_wellFormed {m : RawMessage} (hm : m.isAsync = true)
    (hw : m.wellFormed = true) : ∃ msg, m.toAsync? = some msg := by
  refine Option.isSome_iff_exists.mp ?_
  obtain ⟨t, payload⟩ := m
  cases t <;> first | exact hw | cases hm

theorem toAsync_of_not_isAsync {m : RawMessage} (hm : m.isAsync = false) : m.toAsync? = none := by
  obtain ⟨t, payload⟩ := m
  cases t <;> first | rfl | cases hm

/-- What a machine's handler calls go through: the call is made and recorded, and the
handler's answer decides. -/
def Handler.call (h : Handler) (calls : List Callback) (c : Callback) :
    Except Error Unit × List Callback :=
  (h.accept (calls ++ [c]), calls ++ [c])

end ZeroPostgres
