import ZeroPostgres.Lib.Act

/-!
# Errors

The error type of the client, `src/src/error.rs`, and the rule that decides which
errors leave a connection unusable. The texts that third-party code formats
(`std::io::Error`, the UTF-8 decoder, zerocopy) are left out of the messages.
-/

namespace ZeroPostgres

/-- An object identifier, `src/src/protocol/types.rs:4`. -/
abbrev Oid := UInt32

/-- The fields of an ErrorResponse or NoticeResponse, `src/src/error.rs:40`. -/
structure ServerError where
  fields : List (UInt8 × String)
deriving DecidableEq, Repr

namespace ServerError

/-- No field at all. -/
def empty : ServerError := ⟨[]⟩

/-- `HashMap::insert`: a second value for a field type replaces the first. -/
def insert (e : ServerError) (fieldType : UInt8) (value : String) : ServerError :=
  ⟨(fieldType, value) :: e.fields.filter (fun f => f.1 != fieldType)⟩

/-- Get a field by type, `src/src/error.rs:155–157`. -/
def get (e : ServerError) (fieldType : UInt8) : Option String := e.fields.lookup fieldType

/-- Field type of the severity that is never localized, `src/src/error.rs:19`. -/
def severityVField : UInt8 := 86

/-- Severity in English, the empty string when absent, `src/src/error.rs:59–64`. -/
def severityEnglish (e : ServerError) : String := (e.get severityVField).getD ""

/-- The server closes the session after an error of this severity. -/
def isFatal (e : ServerError) : Bool :=
  e.severityEnglish = "FATAL" || e.severityEnglish = "PANIC"

/-- The inserted value is the one read back. -/
@[simp] theorem get_insert_self (e : ServerError) (k : UInt8) (v : String) :
    (e.insert k v).get k = some v := by
  simp [get, insert]

end ServerError

/-- Error type of the client, `src/src/error.rs:181–222`. -/
inductive Error where
  | server (error : ServerError)
  | libraryBug (text : String)
  | io (text : String)
  | auth (text : String)
  | tls (text : String)
  | connectionBroken
  | invalidUsage (text : String)
  | unsupported (text : String)
  | decode (text : String)
  | encode (text : String)
deriving DecidableEq, Repr

namespace Error

/-- Whether the error leaves the connection unusable: everything does, except the
errors known to be safe. `src/src/error.rs:241–247`. -/
def isConnectionBroken : Error → Bool
  | .server e => e.isFatal
  | .decode _ | .encode _ | .invalidUsage _ => false
  | _ => true

@[simp] theorem isConnectionBroken_libraryBug (text : String) :
    (libraryBug text).isConnectionBroken = true := rfl

@[simp] theorem isConnectionBroken_io (text : String) :
    (io text).isConnectionBroken = true := rfl

@[simp] theorem isConnectionBroken_connectionBroken :
    connectionBroken.isConnectionBroken = true := rfl

@[simp] theorem isConnectionBroken_invalidUsage (text : String) :
    (invalidUsage text).isConnectionBroken = false := rfl

@[simp] theorem isConnectionBroken_server (e : ServerError) :
    (server e).isConnectionBroken = e.isFatal := rfl

end Error

/-- `error.rs` calls its result type `Result`; a panic is `Outcome.halt`. -/
abbrev Parsed (α : Type) := Outcome Error α

end ZeroPostgres
