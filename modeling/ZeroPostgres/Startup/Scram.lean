import ZeroPostgres.Protocol.Codec
import Mathlib.Data.List.Induction

/-!
# Password hashes and SCRAM-SHA-256

`md5_password` and `ScramClient`, `src/src/protocol/frontend/auth.rs`. The hash functions and
base64 are parameters: `Crypto` has what the code calls, `Crypto.Lawful` what it relies on. The
random bytes of a client are given to it.
-/

namespace ZeroPostgres

/-- The bytes of a string, `as_bytes`. -/
def utf8 (s : String) : Bytes := s.toByteArray.data.toList

/-- `from_utf8`. -/
def fromUtf8 (bs : Bytes) : Option String := String.fromUTF8? ⟨bs.toArray⟩

@[simp] theorem fromUtf8_utf8 (s : String) : fromUtf8 (utf8 s) = some s := by
  simp [fromUtf8, utf8, String.fromUTF8?, String.fromUTF8, s.isValidUTF8]

/-- The functions of the crates `hmac`, `sha2`, `pbkdf2`, `md5` and `base64` that the client
calls. -/
structure Crypto where
  /-- HMAC-SHA-256 of a message under a key. -/
  hmac : Bytes → Bytes → Bytes
  sha256 : Bytes → Bytes
  /-- PBKDF2-HMAC-SHA-256 of a password with a salt, 32 bytes. -/
  pbkdf2 : Bytes → Bytes → UInt32 → Bytes
  md5 : Bytes → Bytes
  /-- Base64 with the standard alphabet. -/
  encode : Bytes → String
  decode : String → Option Bytes

/-- A character a SCRAM nonce may hold: printable ASCII without the comma. -/
def scramPrintable (c : Char) : Bool := 0x21 ≤ c.toNat && c.toNat ≤ 0x7e && c != ','

/-- What is known of these functions: base64 can be decoded and is made of printable characters,
none of them a comma, and HMAC-SHA-256 gives 32 bytes. -/
structure Crypto.Lawful (crypto : Crypto) : Prop where
  decode_encode : ∀ bs, crypto.decode (crypto.encode bs) = some bs
  encode_printable : ∀ bs, (crypto.encode bs).toList.all scramPrintable = true
  hmac_length : ∀ key message, (crypto.hmac key message).length = 32

theorem not_comma_of_printable {cs : List Char} (h : cs.all scramPrintable = true) : ',' ∉ cs := by
  intro hmem
  have hc := List.all_eq_true.mp h ',' hmem
  simp [scramPrintable] at hc

theorem Crypto.Lawful.encode_plain {crypto : Crypto} (h : crypto.Lawful) (bs : Bytes) :
    ',' ∉ (crypto.encode bs).toList :=
  not_comma_of_printable (h.encode_printable bs)

/-! ### MD5 -/

/-- Digits of `lowercase_hex`, `src/src/protocol/frontend/auth.rs:12`. -/
def hexDigits : List Char := "0123456789abcdef".toList

/-- `lowercase_hex`, `src/src/protocol/frontend/auth.rs:12–21`. -/
def lowercaseHex (bytes : Bytes) : String :=
  String.ofList (bytes.flatMap fun (byte : UInt8) =>
    [hexDigits.getD (byte >>> 4).toNat '0', hexDigits.getD (byte &&& 0x0f).toNat '0'])

/-- `md5_password`, `src/src/protocol/frontend/auth.rs:26–48`. -/
def md5Password (crypto : Crypto) (username password : String) (salt : Bytes) : String :=
  let firstHash := crypto.md5 (utf8 password ++ utf8 username)
  let secondHash := crypto.md5 (utf8 (lowercaseHex firstHash) ++ salt)
  "md5" ++ lowercaseHex secondHash

/-! ### SCRAM messages -/

/-- A plus sign may stand in front of a number. -/
def afterPlus : List Char → List Char
  | '+' :: c :: cs => c :: cs
  | cs => cs

/-- `str::parse::<u32>`: digits, with a plus sign in front or not. -/
def parseU32 (text : List Char) : Option UInt32 :=
  let digits := afterPlus text
  if digits ≠ [] ∧ digits.all Char.isDigit = true ∧ Nat.ofDigitChars 10 digits 0 < 2 ^ 32 then
    some (UInt32.ofNat (Nat.ofDigitChars 10 digits 0))
  else none

/-- The decimal digits of a 32-bit number parse back. -/
theorem parseU32_repr (n : UInt32) : parseU32 n.toNat.repr.toList = some n := by
  rw [Nat.toList_repr]
  have hdigits : (Nat.toDigits 10 n.toNat).all Char.isDigit = true :=
    List.all_eq_true.mpr fun c hc => Nat.isDigit_of_mem_toDigits (by decide) (by decide) hc
  have hplus : afterPlus (Nat.toDigits 10 n.toNat) = Nat.toDigits 10 n.toNat := by
    unfold afterPlus
    split
    · rename_i c cs heq
      rw [heq] at hdigits
      exact absurd hdigits (by simp)
    · rfl
  unfold parseU32
  simp only [hplus, Nat.ofDigitChars_ten_toDigits]
  rw [if_pos ⟨Nat.toDigits_ne_nil, hdigits, n.toNat_lt⟩]
  simp

/-- What the client looks for in a server-first-message. -/
structure ServerFirst where
  combinedNonce : Option String
  saltB64 : Option String
  iterations : Option UInt32
deriving DecidableEq, Repr

namespace ServerFirst

/-- One part of the message, `src/src/protocol/frontend/auth.rs:157–163`. -/
def readPart (fields : ServerFirst) (part : List Char) : ServerFirst :=
  match ['r', '='].isPrefixOf? part with
  | some value => { fields with combinedNonce := some (String.ofList value) }
  | none =>
    match ['s', '='].isPrefixOf? part with
    | some value => { fields with saltB64 := some (String.ofList value) }
    | none =>
      match ['i', '='].isPrefixOf? part with
      | some value => { fields with iterations := parseU32 value }
      | none => fields

/-- The loop over the parts, `src/src/protocol/frontend/auth.rs:152–164`. -/
def parse (serverFirst : String) : ServerFirst :=
  (serverFirst.toList.splitOn ',').foldl readPart ⟨none, none, none⟩

/-- The values of the nonce attributes of a message, in order. -/
def nonces (serverFirst : String) : List (List Char) :=
  (serverFirst.toList.splitOn ',').filterMap fun part => ['r', '='].isPrefixOf? part

theorem readPart_combinedNonce (fields : ServerFirst) (part : List Char) :
    (readPart fields part).combinedNonce =
      ((['r', '='].isPrefixOf? part).map String.ofList).or fields.combinedNonce := by
  unfold readPart
  split
  · rename_i heq
    rw [heq]
    rfl
  · rename_i heq
    rw [heq]
    split
    · rfl
    · split <;> rfl

/-- The client goes by the last nonce attribute. -/
theorem parse_combinedNonce (serverFirst : String) :
    (parse serverFirst).combinedNonce = (nonces serverFirst).getLast?.map String.ofList := by
  unfold parse nonces
  induction serverFirst.toList.splitOn ',' using List.reverseRecOn with
  | nil => rfl
  | append_singleton parts part ih =>
    rw [List.foldl_append, List.foldl_cons, List.foldl_nil, readPart_combinedNonce, ih,
      List.filterMap_append]
    cases h : ['r', '='].isPrefixOf? part with
    | none => simp [h]
    | some value => simp [h]

end ServerFirst

/-- `struct ScramClient`, `src/src/protocol/frontend/auth.rs:71–84`. -/
structure ScramClient where
  nonce : String
  channelBinding : String
  password : String
  serverFirst : Option String
  authMessage : Option String
  saltedPassword : Option Bytes
deriving DecidableEq, Repr

/-- Bytewise exclusive or. -/
def xor (xs ys : Bytes) : Bytes := List.zipWith (· ^^^ ·) xs ys

theorem length_xor {xs ys : Bytes} (h : xs.length = ys.length) :
    (xor xs ys).length = xs.length := by
  simp [xor, h]

/-- Exclusive or with the same bytes again gives the bytes back. -/
theorem xor_xor_cancel {xs ys : Bytes} (h : xs.length = ys.length) : xor (xor xs ys) ys = xs := by
  induction xs generalizing ys with
  | nil => rfl
  | cons x xs ih =>
    cases ys with
    | nil => cases h
    | cons y ys =>
      have hrest := ih (Nat.succ.inj h)
      simpa [xor, UInt8.xor_assoc] using hrest

namespace ScramClient

variable (crypto : Crypto)

/-- `new`, `src/src/protocol/frontend/auth.rs:88–104`, with the random bytes of the nonce. -/
def new (nonceBytes : Bytes) (password : String) : ScramClient :=
  { nonce := crypto.encode nonceBytes, channelBinding := "n,,", password
    serverFirst := none, authMessage := none, saltedPassword := none }

/-- `client_first_message`, `src/src/protocol/frontend/auth.rs:131–135`. -/
def clientFirstMessage (scram : ScramClient) : String :=
  scram.channelBinding ++ "n=,r=" ++ scram.nonce

/-- `client_first_message_bare`, `src/src/protocol/frontend/auth.rs:138–140`. -/
def clientFirstMessageBare (scram : ScramClient) : String := "n=,r=" ++ scram.nonce

/-- The client-final-message without its proof, `src/src/protocol/frontend/auth.rs:202–207`. -/
def clientFinalWithoutProof (scram : ScramClient) (combinedNonce : String) : String :=
  "c=" ++ crypto.encode (utf8 scram.channelBinding) ++ ",r=" ++ combinedNonce

/-- The message both sides sign, `src/src/protocol/frontend/auth.rs:209–215`. -/
def authMessageOf (clientFirstBare serverFirst clientFinalWithoutProof : String) : String :=
  clientFirstBare ++ "," ++ serverFirst ++ "," ++ clientFinalWithoutProof

/-- `HMAC(SaltedPassword, "Client Key")`, `src/src/protocol/frontend/auth.rs:191–197`. -/
def clientKey (saltedPassword : Bytes) : Bytes := crypto.hmac saltedPassword (utf8 "Client Key")

/-- The proof, `src/src/protocol/frontend/auth.rs:200`, `218–232`. -/
def clientProof (saltedPassword : Bytes) (authMessage : String) : Bytes :=
  let key := clientKey crypto saltedPassword
  let storedKey := crypto.sha256 key
  let clientSignature := crypto.hmac storedKey (utf8 authMessage)
  xor key clientSignature

/-- The signature the client expects, `src/src/protocol/frontend/auth.rs:259–273`. -/
def expectedSignature (saltedPassword : Bytes) (authMessage : String) : Bytes :=
  let serverKey := crypto.hmac saltedPassword (utf8 "Server Key")
  crypto.hmac serverKey (utf8 authMessage)

/-- `ok_or`. -/
def okOr {α : Type} (o : Option α) (text : String) : Outcome String α :=
  match o with
  | some a => .ok a
  | none => .err text

/-- `process_server_first`, `src/src/protocol/frontend/auth.rs:143–236`. -/
def processServerFirst (serverFirst : String) : Act String ScramClient String := do
  Act.modify fun scram => { scram with serverFirst := some serverFirst }
  let fields := ServerFirst.parse serverFirst
  let combinedNonce ← Act.lift (okOr fields.combinedNonce "Missing nonce in server-first-message")
  let saltB64 ← Act.lift (okOr fields.saltB64 "Missing salt in server-first-message")
  let iterations ← Act.lift (okOr fields.iterations "Missing iterations in server-first-message")
  let scram ← Act.get
  if scram.nonce.toList.isPrefixOf combinedNonce.toList = false then
    Act.fail "Server nonce doesn't start with client nonce"
  else do
    let salt ← Act.lift (okOr (crypto.decode saltB64) "Invalid salt: ")
    let saltedPassword := crypto.pbkdf2 (utf8 scram.password) salt iterations
    Act.modify fun scram => { scram with saltedPassword := some saltedPassword }
    let withoutProof := scram.clientFinalWithoutProof crypto combinedNonce
    let authMessage := authMessageOf scram.clientFirstMessageBare serverFirst withoutProof
    Act.modify fun scram => { scram with authMessage := some authMessage }
    let proof := clientProof crypto saltedPassword authMessage
    return withoutProof ++ ",p=" ++ crypto.encode proof

/-- `verify_server_final`, `src/src/protocol/frontend/auth.rs:239–280`. -/
def verifyServerFinal (scram : ScramClient) (serverFinal : String) : Outcome String Unit := do
  let signatureB64 ← okOr (['v', '='].isPrefixOf? serverFinal.toList)
    "Invalid server-final-message format"
  let serverSignature ← okOr (crypto.decode (String.ofList signatureB64))
    "Invalid server signature: "
  let saltedPassword ← okOr scram.saltedPassword "Missing salted password"
  let authMessage ← okOr scram.authMessage "Missing auth message"
  if serverSignature ≠ expectedSignature crypto saltedPassword authMessage then
    .err "Server signature verification failed"
  else return ()

@[simp] theorem okOr_some {α : Type} (a : α) (text : String) : okOr (some a) text = .ok a := rfl

@[simp] theorem okOr_none {α : Type} (text : String) :
    okOr none text = (.err text : Outcome String α) := rfl

theorem okOr_eq_ok_iff {α : Type} {o : Option α} {text : String} {a : α} :
    okOr o text = .ok a ↔ o = some a := by
  cases o <;> simp

/-! ### What the client makes of the server's messages -/

/-- What a client finds in a server-first-message that it answers. -/
structure Reads (scram : ScramClient) (serverFirst nonce : String) (salt : Bytes)
    (iterations : UInt32) : Prop where
  parsed : ∃ saltB64, ServerFirst.parse serverFirst = ⟨some nonce, some saltB64, some iterations⟩ ∧
    crypto.decode saltB64 = some salt
  extends_nonce : scram.nonce.toList.isPrefixOf nonce.toList = true

/-- The password a client has salted for a server-first-message. -/
def saltedFor (scram : ScramClient) (salt : Bytes) (iterations : UInt32) : Bytes :=
  crypto.pbkdf2 (utf8 scram.password) salt iterations

/-- The message a client signs when it answers a server-first-message. -/
def signedFor (scram : ScramClient) (serverFirst nonce : String) : String :=
  authMessageOf scram.clientFirstMessageBare serverFirst
    (scram.clientFinalWithoutProof crypto nonce)

/-- The client after its answer. -/
def answered (scram : ScramClient) (serverFirst nonce : String) (salt : Bytes)
    (iterations : UInt32) : ScramClient :=
  { scram with
    serverFirst := some serverFirst
    saltedPassword := some (scram.saltedFor crypto salt iterations)
    authMessage := some (scram.signedFor crypto serverFirst nonce) }

/-- Its answer, the client-final-message. -/
def clientFinalMessage (scram : ScramClient) (serverFirst nonce : String) (salt : Bytes)
    (iterations : UInt32) : String :=
  scram.clientFinalWithoutProof crypto nonce ++ ",p=" ++ crypto.encode
    (clientProof crypto (scram.saltedFor crypto salt iterations)
      (scram.signedFor crypto serverFirst nonce))

variable {crypto} {scram : ScramClient} {serverFirst nonce : String} {salt : Bytes}
  {iterations : UInt32}

/-- A client that finds what it looks for answers. -/
theorem processServerFirst_of_reads
    (h : scram.Reads crypto serverFirst nonce salt iterations) :
    processServerFirst crypto serverFirst scram =
      (.ok (scram.clientFinalMessage crypto serverFirst nonce salt iterations),
        scram.answered crypto serverFirst nonce salt iterations) := by
  obtain ⟨⟨saltB64, hparse, hsalt⟩, hnonce⟩ := h
  simp only [processServerFirst, hparse, okOr_some, Act.bind_run, Act.modify_run, Act.lift_run,
    Act.get_run, hnonce, hsalt, Bool.true_eq_false, if_false]
  rfl

/-- A client finds what it looks for, or gives up. -/
theorem reads_or_err (crypto : Crypto) (scram : ScramClient) (serverFirst : String) :
    (∃ nonce salt iterations, scram.Reads crypto serverFirst nonce salt iterations) ∨
      ∃ text, (processServerFirst crypto serverFirst scram).1 = .err text := by
  rcases hparse : ServerFirst.parse serverFirst with ⟨nonce, saltB64, iterations⟩
  unfold processServerFirst
  simp only [hparse, Act.bind_run, Act.modify_run, Act.lift_run]
  rcases nonce with _ | nonce
  · exact .inr ⟨_, rfl⟩
  rcases saltB64 with _ | saltB64
  · exact .inr ⟨_, rfl⟩
  rcases iterations with _ | iterations
  · exact .inr ⟨_, rfl⟩
  simp only [okOr_some, Act.get_run]
  split
  · exact .inr ⟨_, rfl⟩
  · rename_i hnonce
    cases hsalt : crypto.decode saltB64 with
    | none => exact .inr ⟨_, rfl⟩
    | some salt =>
      exact .inl ⟨nonce, salt, iterations, ⟨saltB64, hparse, hsalt⟩, by simpa using hnonce⟩

/-- What a client that answered has found, and how it stands after. -/
theorem reads_of_ok {scram' : ScramClient} {clientFinal : String}
    (h : processServerFirst crypto serverFirst scram = (.ok clientFinal, scram')) :
    ∃ nonce salt iterations, scram.Reads crypto serverFirst nonce salt iterations ∧
      clientFinal = scram.clientFinalMessage crypto serverFirst nonce salt iterations ∧
      scram' = scram.answered crypto serverFirst nonce salt iterations := by
  rcases reads_or_err crypto scram serverFirst with ⟨nonce, salt, iterations, hreads⟩ | ⟨text, herr⟩
  · rw [processServerFirst_of_reads hreads] at h
    cases h
    exact ⟨nonce, salt, iterations, hreads, rfl, rfl⟩
  · rw [h] at herr
    cases herr

/-- What a client that answered before finds is what it would have found before. -/
theorem Reads.of_answered {first nonce₁ : String} {salt₁ : Bytes} {iterations₁ : UInt32}
    (h : (scram.answered crypto first nonce₁ salt₁ iterations₁).Reads crypto serverFirst nonce salt
      iterations) : scram.Reads crypto serverFirst nonce salt iterations :=
  ⟨h.parsed, h.extends_nonce⟩

/-- A message without a nonce that extends the client's is rejected. -/
theorem processServerFirst_foreign
    (h : ∀ value ∈ (ServerFirst.nonces serverFirst).getLast?, ¬ scram.nonce.toList <+: value) :
    ∃ text, (processServerFirst crypto serverFirst scram).1 = .err text := by
  rcases reads_or_err crypto scram serverFirst with ⟨nonce, salt, iterations, hreads⟩ | herr
  · obtain ⟨⟨saltB64, hparse, -⟩, hnonce⟩ := hreads
    have hlast := ServerFirst.parse_combinedNonce serverFirst
    rw [hparse] at hlast
    obtain ⟨value, hvalue, hof⟩ := Option.map_eq_some_iff.mp hlast.symm
    rw [← hof, String.toList_ofList, List.isPrefixOf_iff_prefix] at hnonce
    exact absurd hnonce (h value hvalue)
  · exact herr

/-- The signature in a server-final-message. -/
def signatureOf (crypto : Crypto) (serverFinal : String) : Option Bytes :=
  (['v', '='].isPrefixOf? serverFinal.toList).bind fun value =>
    crypto.decode (String.ofList value)

/-- A server-final-message passes exactly when it carries the signature the client expects. -/
theorem verifyServerFinal_ok_iff {serverFinal : String} :
    verifyServerFinal crypto scram serverFinal = .ok () ↔
      ∃ saltedPassword authMessage, scram.saltedPassword = some saltedPassword ∧
        scram.authMessage = some authMessage ∧
        signatureOf crypto serverFinal =
          some (expectedSignature crypto saltedPassword authMessage) := by
  simp only [verifyServerFinal, signatureOf, Outcome.bind_eq_ok_iff, okOr_eq_ok_iff,
    Option.bind_eq_some_iff]
  constructor
  · rintro ⟨value, hvalue, signature, hsignature, salted, hsalted, auth, hauth, hcheck⟩
    split at hcheck
    · cases hcheck
    · rename_i heq
      rw [not_not] at heq
      exact ⟨salted, auth, hsalted, hauth, value, hvalue, by rw [hsignature, heq]⟩
  · rintro ⟨salted, auth, hsalted, hauth, value, hvalue, hsignature⟩
    refine ⟨value, hvalue, _, hsignature, salted, hsalted, auth, hauth, ?_⟩
    rw [if_neg (not_not_intro rfl)]
    rfl

end ScramClient

end ZeroPostgres
