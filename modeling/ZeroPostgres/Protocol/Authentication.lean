import ZeroPostgres.Protocol.Backend

/-!
# Messages of the startup phase

`src/src/protocol/backend/auth.rs`: authentication requests, key data and version negotiation.
-/

namespace ZeroPostgres

/-- Read a 4-byte big-endian signed integer, `src/src/protocol/codec.rs:51–62`. -/
def readI32 : Bytes → Parsed (Int × Bytes)
  | a :: b :: c :: d :: rest => .ok ((UInt32.ofNat (beNat [a, b, c, d])).toInt32.toInt, rest)
  | data => .err (.libraryBug ("read_i32: buffer too short: " ++ toString data.length ++ " < 4"))

/-- A 32-bit number as four big-endian bytes. -/
def beBytes (n : UInt32) : Bytes :=
  [(n >>> 24).toUInt8, (n >>> 16).toUInt8, (n >>> 8).toUInt8, n.toUInt8]

theorem ofNat_beNat_beBytes (n : UInt32) : UInt32.ofNat (beNat (beBytes n)) = n := by
  apply UInt32.toNat_inj.mp
  have hn := n.toNat_lt
  simp [beNat, beBytes, Nat.shiftRight_eq_div_pow]
  omega

theorem readI32_beBytes (n : UInt32) (rest : Bytes) :
    readI32 (beBytes n ++ rest) = .ok (n.toInt32.toInt, rest) := by
  have h := ofNat_beNat_beBytes n
  simp only [beBytes] at h
  simp only [readI32, beBytes, List.cons_append, List.nil_append, h]

theorem readU32_beBytes (n : UInt32) (rest : Bytes) :
    readU32 (beBytes n ++ rest) = .ok (n, rest) := by
  have h := ofNat_beNat_beBytes n
  simp only [beBytes] at h
  simp only [readU32, beBytes, List.cons_append, List.nil_append, h]

/-- Authentication message from the server, `src/src/protocol/backend/auth.rs:25–46`. -/
inductive AuthenticationMessage where
  | ok
  | kerberosV5
  | cleartextPassword
  | md5Password (salt : Vector UInt8 4)
  | gss
  | gssContinue (data : Bytes)
  | sspi
  | sasl (mechanisms : List String)
  | saslContinue (data : Bytes)
  | saslFinal (data : Bytes)
deriving DecidableEq, Repr

namespace AuthenticationMessage

/-- The loop over mechanism names, `src/src/protocol/backend/auth.rs:71–76`. Each round takes at
least one byte, so the payload length bounds the rounds. -/
def parseMechanisms : Nat → Bytes → Parsed (List String)
  | 0, _ => .ok []
  | _, [] => .ok []
  | fuel + 1, b :: rest =>
    if b = 0 then .ok []
    else (readCstr (b :: rest)).bind fun r =>
      (parseMechanisms fuel r.2).bind fun mechanisms => .ok (r.1 :: mechanisms)

/-- The body of a message of the given type, `src/src/protocol/backend/auth.rs:54–86`. -/
def parseBody (authType : Int) (rest : Bytes) : Parsed AuthenticationMessage :=
  match authType with
  | 0 => .ok .ok
  | 2 => .ok .kerberosV5
  | 3 => .ok .cleartextPassword
  | 5 =>
    match rest with
    | a :: b :: c :: d :: _ => .ok (.md5Password #v[a, b, c, d])
    | _ => .err (.libraryBug "MD5Password: missing salt")
  | 7 => .ok .gss
  | 8 => .ok (.gssContinue rest)
  | 9 => .ok .sspi
  | 10 => (parseMechanisms rest.length rest).bind fun mechanisms => .ok (.sasl mechanisms)
  | 11 => .ok (.saslContinue rest)
  | 12 => .ok (.saslFinal rest)
  | authType => .err (.libraryBug ("Unknown authentication type: " ++ toString authType))

/-- `AuthenticationMessage::parse`, `src/src/protocol/backend/auth.rs:50–86`. -/
def parse (payload : Bytes) : Parsed AuthenticationMessage :=
  (readI32 payload).bind fun r => parseBody r.1 r.2

/-- The derived `Debug` form, as the error texts show it. -/
def display : AuthenticationMessage → String
  | ok => "Ok"
  | kerberosV5 => "KerberosV5"
  | cleartextPassword => "CleartextPassword"
  | md5Password salt => "Md5Password \x7b salt: " ++ toString salt.toList ++ " \x7d"
  | gss => "Gss"
  | gssContinue data => "GssContinue \x7b data: " ++ toString data ++ " \x7d"
  | sspi => "Sspi"
  | sasl mechanisms => "Sasl \x7b mechanisms: " ++ toString (mechanisms.map String.quote) ++ " \x7d"
  | saslContinue data => "SaslContinue \x7b data: " ++ toString data ++ " \x7d"
  | saslFinal data => "SaslFinal \x7b data: " ++ toString data ++ " \x7d"

/-- The payload of a message, as the server writes it. -/
def payload : AuthenticationMessage → Bytes
  | ok => beBytes 0
  | kerberosV5 => beBytes 2
  | cleartextPassword => beBytes 3
  | md5Password salt => beBytes 5 ++ salt.toList
  | gss => beBytes 7
  | gssContinue data => beBytes 8 ++ data
  | sspi => beBytes 9
  | sasl mechanisms => beBytes 10 ++ mechanisms.flatMap cstr ++ [0]
  | saslContinue data => beBytes 11 ++ data
  | saslFinal data => beBytes 12 ++ data

/-- A mechanism name can be sent: a C string, and not the empty one that ends the list. -/
def CMechanism (name : String) : Prop := name ≠ "" ∧ CString name

instance (name : String) : Decidable (CMechanism name) := inferInstanceAs (Decidable (_ ∧ _))

/-- What can be sent as an authentication message. -/
def Sendable : AuthenticationMessage → Prop
  | sasl mechanisms => ∀ name ∈ mechanisms, CMechanism name
  | _ => True

/-- The bytes of a mechanism name do not look like the end of the list. -/
theorem cstr_eq_cons {name : String} (h : CMechanism name) :
    ∃ b rest, cstr name = b :: rest ∧ b ≠ 0 := by
  obtain ⟨hne, hc⟩ := h
  unfold CString at hc
  unfold cstr
  rcases hbytes : name.toByteArray.data.toList with _ | ⟨b, rest⟩
  · exact absurd (String.toByteArray_inj.mp (ByteArray.ext (Array.toList_inj.mp hbytes))) hne
  · rw [hbytes] at hc
    exact ⟨b, rest ++ [0], rfl, by
      intro hb
      exact hc (by simp [hb])⟩

theorem length_le_flatMap (mechanisms : List String) :
    mechanisms.length ≤ (mechanisms.flatMap cstr).length := by
  induction mechanisms with
  | nil => exact Nat.le_refl _
  | cons name mechanisms ih =>
    simp only [List.flatMap_cons, List.length_append, List.length_cons, cstr, List.length_nil]
    omega

/-- The names in a list the server wrote are read back. -/
theorem parseMechanisms_flatMap {mechanisms : List String}
    (h : ∀ name ∈ mechanisms, CMechanism name) {fuel : Nat} (hfuel : mechanisms.length < fuel) :
    parseMechanisms fuel (mechanisms.flatMap cstr ++ [0]) = .ok mechanisms := by
  induction mechanisms generalizing fuel with
  | nil =>
    obtain ⟨fuel, rfl⟩ := Nat.exists_eq_succ_of_ne_zero (Nat.ne_of_gt hfuel)
    rfl
  | cons name mechanisms ih =>
    obtain ⟨fuel, rfl⟩ := Nat.exists_eq_succ_of_ne_zero (Nat.ne_of_gt (Nat.zero_lt_of_lt hfuel))
    obtain ⟨hname, hrest⟩ := List.forall_mem_cons.mp h
    obtain ⟨b, bs, hb, hne⟩ := cstr_eq_cons hname
    have hread := readCstr_cstr name (mechanisms.flatMap cstr ++ [0]) hname.2
    have htail := ih hrest (Nat.lt_of_succ_lt_succ hfuel)
    rw [List.flatMap_cons, List.append_assoc, hb, List.cons_append, parseMechanisms, if_neg hne]
    rw [hb, List.cons_append] at hread
    rw [hread]
    simp only [Outcome.bind, htail]

/-- A payload the server wrote parses back. -/
theorem parse_payload {auth : AuthenticationMessage} (h : auth.Sendable) :
    parse auth.payload = .ok auth := by
  have hbare : ∀ n rest, parse (beBytes n ++ rest) = parseBody n.toInt32.toInt rest := by
    intro n rest
    rw [parse, readI32_beBytes]
    rfl
  cases auth with
  | ok => rfl
  | kerberosV5 => rfl
  | cleartextPassword => rfl
  | md5Password salt =>
    obtain ⟨⟨bytes⟩, hsize⟩ := salt
    match bytes, hsize with
    | [a, b, c, d], _ => exact hbare 5 [a, b, c, d]
  | gss => rfl
  | gssContinue data => exact hbare 8 data
  | sspi => rfl
  | sasl mechanisms =>
    have hlength : mechanisms.length < (mechanisms.flatMap cstr ++ [0]).length := by
      rw [List.length_append, List.length_singleton]
      exact Nat.lt_succ_of_le (length_le_flatMap mechanisms)
    rw [payload, List.append_assoc, hbare]
    show (parseMechanisms _ _).bind _ = _
    rw [parseMechanisms_flatMap h hlength]
    rfl
  | saslContinue data => exact hbare 11 data
  | saslFinal data => exact hbare 12 data

end AuthenticationMessage

/-- `BackendKeyData`, `src/src/protocol/backend/auth.rs:92–97`. -/
structure BackendKeyData where
  pid : UInt32
  secretKey : Bytes
deriving DecidableEq, Repr

/-- `BackendKeyData::parse`, `src/src/protocol/backend/auth.rs:101–118`. -/
def BackendKeyData.parse (payload : Bytes) : Parsed BackendKeyData :=
  if payload.length < 4 then .err (.libraryBug "BackendKeyData: payload too short")
  else (readU32 payload).bind fun r =>
    if r.2.length < 4 ∨ r.2.length > 256 then
      .err (.libraryBug ("BackendKeyData: invalid secret key length " ++ toString r.2.length))
    else .ok ⟨r.1, r.2⟩

/-- The payload of key data, as the server writes it. -/
def BackendKeyData.payload (key : BackendKeyData) : Bytes := beBytes key.pid ++ key.secretKey

/-- Key data with a key of 4 to 256 bytes is read back. -/
theorem BackendKeyData.parse_payload {key : BackendKeyData} (hmin : 4 ≤ key.secretKey.length)
    (hmax : key.secretKey.length ≤ 256) : parse key.payload = .ok key := by
  have hlength : ¬ key.payload.length < 4 := by
    simp [payload, beBytes]
  have hkey : ¬ (key.secretKey.length < 4 ∨ key.secretKey.length > 256) := by omega
  rw [parse, if_neg hlength, payload, readU32_beBytes]
  simp only [Outcome.bind, hkey, if_false]

/-- A parameter the server wrote is read back. -/
theorem ParameterStatus.parse_cstr {name value : String} (hname : CString name)
    (hvalue : CString value) :
    ParameterStatus.parse (cstr name ++ cstr value) = .ok (name, value) := by
  have hread := readCstr_cstr value [] hvalue
  rw [List.append_nil] at hread
  unfold ParameterStatus.parse
  rw [readCstr_cstr name _ hname]
  simp only [Outcome.bind, hread]

/-- `NegotiateProtocolVersion`, `src/src/protocol/backend/auth.rs:197–202`. -/
structure NegotiateProtocolVersion where
  newestMinorVersion : UInt32
  unrecognizedOptions : List String
deriving DecidableEq, Repr

namespace NegotiateProtocolVersion

/-- The loop over option names, `src/src/protocol/backend/auth.rs:210–215`. -/
def parseOptions : Nat → Bytes → Parsed (List String)
  | 0, _ => .ok []
  | n + 1, data =>
    (readCstr data).bind fun r =>
      (parseOptions n r.2).bind fun options => .ok (r.1 :: options)

/-- `NegotiateProtocolVersion::parse`, `src/src/protocol/backend/auth.rs:206–221`. -/
def parse (payload : Bytes) : Parsed NegotiateProtocolVersion :=
  (readU32 payload).bind fun minor =>
    (readU32 minor.2).bind fun count =>
      (parseOptions count.1.toNat count.2).bind fun options => .ok ⟨minor.1, options⟩

end NegotiateProtocolVersion

end ZeroPostgres
