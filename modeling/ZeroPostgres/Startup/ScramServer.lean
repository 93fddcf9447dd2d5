import ZeroPostgres.Startup.Scram
import ZeroPostgres.Lib.Base64

/-!
# A SCRAM-SHA-256 server

The server side of RFC 5802, as PostgreSQL plays it: no channel binding, and the user name in the
client's message is not looked at. It is the other end that `ScramClient` is written for.
-/

namespace ZeroPostgres.ScramServer

/-- What the server keeps of a password. -/
structure Verifier where
  salt : Bytes
  iterations : UInt32
  storedKey : Bytes
  serverKey : Bytes
deriving DecidableEq, Repr

/-- What a client-first-message says: the GS2 header, the rest of the message and the nonce in
it. -/
structure ClientFirst where
  gs2Header : String
  bare : String
  nonce : String
deriving DecidableEq, Repr

/-- What a client-final-message says. -/
structure ClientFinal where
  channelBinding : Bytes
  nonce : String
  withoutProof : String
  proof : Bytes
deriving DecidableEq, Repr

/-- The value of the attribute `name` in one part of a message. -/
def attrValue (name : Char) (part : List Char) : Option (List Char) :=
  [name, '='].isPrefixOf? part

/-- Read a client-first-message. A client that supports channel binding and thinks the server does
not says `y`; this server takes it like `n`. -/
def readClientFirst (message : String) : Option ClientFirst :=
  match message.toList.splitOn ',' with
  | flag :: [] :: user :: nonce :: extensions => do
    let _ ← attrValue 'n' user
    let value ← attrValue 'r' nonce
    if (flag = ['n'] ∨ flag = ['y']) ∧ value.all scramPrintable = true then
      some { gs2Header := String.ofList flag ++ ",,"
             bare := String.ofList ([','].intercalate (user :: nonce :: extensions))
             nonce := String.ofList value }
    else none
  | _ => none

variable (crypto : Crypto)

/-- The verifier of a password, which the server prepares first. -/
def Verifier.ofPassword (saslprep : String → String) (password : String) (salt : Bytes)
    (iterations : UInt32) : Verifier :=
  let saltedPassword := crypto.pbkdf2 (utf8 (saslprep password)) salt iterations
  { salt, iterations
    storedKey := crypto.sha256 (crypto.hmac saltedPassword (utf8 "Client Key"))
    serverKey := crypto.hmac saltedPassword (utf8 "Server Key") }

/-- The server-first-message, with the server's part of the nonce. -/
def serverFirst (verifier : Verifier) (first : ClientFirst) (suffix : String) : String :=
  "r=" ++ first.nonce ++ suffix ++ ",s=" ++ crypto.encode verifier.salt ++ ",i="
    ++ verifier.iterations.toNat.repr

/-- Read a client-final-message. The proof is its last attribute. -/
def readClientFinal (message : String) : Option ClientFinal :=
  match message.toList.splitOn ',' with
  | binding :: nonce :: rest => do
    let header ← (attrValue 'c' binding).bind fun value => crypto.decode (String.ofList value)
    let value ← attrValue 'r' nonce
    let last ← rest.getLast?
    let proof ← (attrValue 'p' last).bind fun value => crypto.decode (String.ofList value)
    if proof.length = 32 then
      some { channelBinding := header, nonce := String.ofList value, proof
             withoutProof := String.ofList ([','].intercalate (binding :: nonce :: rest.dropLast)) }
    else none
  | _ => none

/-- The message both sides sign, as the server sees it. -/
def authMessage (verifier : Verifier) (first : ClientFirst) (suffix : String)
    (final : ClientFinal) : String :=
  first.bare ++ "," ++ serverFirst crypto verifier first suffix ++ "," ++ final.withoutProof

/-- The client is who it says it is: its message repeats the header and the nonce, and its proof
yields the stored key. -/
def accepts (verifier : Verifier) (first : ClientFirst) (suffix : String) (final : ClientFinal) :
    Bool :=
  let clientSignature :=
    crypto.hmac verifier.storedKey (utf8 (authMessage crypto verifier first suffix final))
  final.channelBinding = utf8 first.gs2Header && final.nonce = first.nonce ++ suffix &&
    crypto.sha256 (xor final.proof clientSignature) = verifier.storedKey

/-- The server-final-message. -/
def serverFinal (verifier : Verifier) (first : ClientFirst) (suffix : String)
    (final : ClientFinal) : String :=
  "v=" ++ crypto.encode
    (crypto.hmac verifier.serverKey (utf8 (authMessage crypto verifier first suffix final)))

/-! ### The two ends understand each other -/

@[simp] theorem attrValue_self (name : Char) (value : List Char) :
    attrValue name (name :: '=' :: value) = some value := by
  simp [attrValue, List.isPrefixOf?]

/-- What the server reads in the first message of a client. -/
def firstOf (scram : ScramClient) : ClientFirst :=
  { gs2Header := "n,,", bare := scram.clientFirstMessageBare, nonce := scram.nonce }

/-- What it reads in the answer of a client. -/
def finalOf (scram : ScramClient) (serverFirst nonce : String) (salt : Bytes)
    (iterations : UInt32) : ClientFinal :=
  { channelBinding := utf8 scram.channelBinding, nonce
    withoutProof := scram.clientFinalWithoutProof crypto nonce
    proof := ScramClient.clientProof crypto (scram.saltedFor crypto salt iterations)
      (scram.signedFor crypto serverFirst nonce) }

variable {crypto}

/-- The server reads the first message of a client whose nonce is printable. -/
theorem readClientFirst_of_client {scram : ScramClient} (hheader : scram.channelBinding = "n,,")
    (hnonce : scram.nonce.toList.all scramPrintable = true) :
    readClientFirst scram.clientFirstMessage = some (firstOf scram) := by
  have hcomma : ',' ∉ scram.nonce.toList := not_comma_of_printable hnonce
  have hmessage : scram.clientFirstMessage.toList =
      [','].intercalate [['n'], [], ['n', '='], 'r' :: '=' :: scram.nonce.toList] := by
    simp [ScramClient.clientFirstMessage, hheader]
  have hbare : String.ofList ([','].intercalate [['n', '='], 'r' :: '=' :: scram.nonce.toList]) =
      scram.clientFirstMessageBare := by
    apply String.toList_inj.mp
    simp [ScramClient.clientFirstMessageBare]
  unfold readClientFirst
  rw [hmessage, List.splitOn_intercalate ',' (by simp [hcomma]) (by simp)]
  simp only [attrValue_self, Option.bind_eq_bind, Option.bind_some, hnonce, hbare]
  rw [if_pos ⟨.inl trivial, trivial⟩, String.ofList_toList]
  rfl

/-- A client reads what the server put in its first message. -/
theorem parse_serverFirst (hcrypto : crypto.Lawful) (verifier : Verifier) (first : ClientFirst)
    {suffix : String} (hnonce : ',' ∉ first.nonce.toList) (hsuffix : ',' ∉ suffix.toList) :
    ServerFirst.parse (serverFirst crypto verifier first suffix) =
      ⟨some (first.nonce ++ suffix), some (crypto.encode verifier.salt),
        some verifier.iterations⟩ := by
  have hsalt := hcrypto.encode_plain verifier.salt
  have hdigits : ',' ∉ verifier.iterations.toNat.repr.toList := by
    intro hmem
    rw [Nat.toList_repr] at hmem
    have hdigit := Nat.isDigit_of_mem_toDigits (by decide) (by decide) hmem
    exact absurd hdigit (by decide)
  have hiterations := parseU32_repr verifier.iterations
  unfold serverFirst
  generalize verifier.iterations.toNat.repr = digits at hdigits hiterations
  have hmessage : ("r=" ++ first.nonce ++ suffix ++ ",s=" ++ crypto.encode verifier.salt ++ ",i="
      ++ digits).toList =
      [','].intercalate ['r' :: '=' :: (first.nonce ++ suffix).toList,
        's' :: '=' :: (crypto.encode verifier.salt).toList, 'i' :: '=' :: digits.toList] := by
    simp
  unfold ServerFirst.parse
  rw [hmessage, List.splitOn_intercalate ',' (by simp [hsalt, hdigits, hnonce, hsuffix]) (by simp)]
  simp [ServerFirst.readPart, List.isPrefixOf?, hiterations]

/-- A client finds what it looks for in the first message of a server that read its own. -/
theorem reads_of_server (hcrypto : crypto.Lawful) {scram : ScramClient}
    (hnonce : ',' ∉ scram.nonce.toList) (verifier : Verifier) {suffix : String}
    (hsuffix : ',' ∉ suffix.toList) :
    scram.Reads crypto (serverFirst crypto verifier (firstOf scram) suffix) (scram.nonce ++ suffix)
      verifier.salt verifier.iterations where
  parsed := ⟨_, parse_serverFirst hcrypto verifier (firstOf scram) hnonce hsuffix,
    hcrypto.decode_encode verifier.salt⟩
  extends_nonce := by simp [List.isPrefixOf_iff_prefix]

/-- The server reads the answer of a client. -/
theorem readClientFinal_of_client (hcrypto : crypto.Lawful) (scram : ScramClient)
    (serverFirst : String) {nonce : String} (hnonce : ',' ∉ nonce.toList) (salt : Bytes)
    (iterations : UInt32) :
    readClientFinal crypto (scram.clientFinalMessage crypto serverFirst nonce salt iterations) =
      some (finalOf crypto scram serverFirst nonce salt iterations) := by
  have hbinding := hcrypto.encode_plain (utf8 scram.channelBinding)
  generalize hproof : ScramClient.clientProof crypto (scram.saltedFor crypto salt iterations)
    (scram.signedFor crypto serverFirst nonce) = proof
  have hlength : proof.length = 32 := by
    rw [← hproof]
    unfold ScramClient.clientProof
    rw [length_xor (by simp [ScramClient.clientKey, hcrypto.hmac_length])]
    exact hcrypto.hmac_length _ _
  have hmessage : (scram.clientFinalMessage crypto serverFirst nonce salt iterations).toList =
      [','].intercalate ['c' :: '=' :: (crypto.encode (utf8 scram.channelBinding)).toList,
        'r' :: '=' :: nonce.toList, 'p' :: '=' :: (crypto.encode proof).toList] := by
    simp [ScramClient.clientFinalMessage, ScramClient.clientFinalWithoutProof, hproof]
  have hwithout : String.ofList ([','].intercalate
      ['c' :: '=' :: (crypto.encode (utf8 scram.channelBinding)).toList,
        'r' :: '=' :: nonce.toList]) = scram.clientFinalWithoutProof crypto nonce := by
    apply String.toList_inj.mp
    simp [ScramClient.clientFinalWithoutProof]
  unfold readClientFinal finalOf
  rw [hmessage, List.splitOn_intercalate ',' (by simp [hbinding, hnonce, hcrypto.encode_plain])
    (by simp), hproof]
  simp only [attrValue_self, Option.bind_eq_bind, Option.bind_some, String.ofList_toList,
    hcrypto.decode_encode, List.getLast?_singleton, List.dropLast_singleton, hwithout]
  rw [if_pos hlength]

/-- The signature takes the proof back to the key it was made from. -/
theorem xor_clientProof (hcrypto : crypto.Lawful) (saltedPassword : Bytes) (message : String) :
    xor (ScramClient.clientProof crypto saltedPassword message)
      (crypto.hmac (crypto.sha256 (ScramClient.clientKey crypto saltedPassword)) (utf8 message)) =
      ScramClient.clientKey crypto saltedPassword := by
  apply xor_xor_cancel
  rw [ScramClient.clientKey, hcrypto.hmac_length, hcrypto.hmac_length]

section Agreement

variable (hcrypto : crypto.Lawful) {scram : ScramClient} (hheader : scram.channelBinding = "n,,")
  {saslprep : String → String} (hprep : saslprep scram.password = scram.password) (salt : Bytes)
  (iterations : UInt32) (suffix : String)

include hprep in
/-- A client whose password SASLprep leaves alone salts it to what the verifier was made from. -/
theorem ofPassword_eq :
    Verifier.ofPassword crypto saslprep scram.password salt iterations =
      { salt, iterations
        storedKey := crypto.sha256 (ScramClient.clientKey crypto
          (scram.saltedFor crypto salt iterations))
        serverKey :=
          crypto.hmac (scram.saltedFor crypto salt iterations) (utf8 "Server Key") } := by
  unfold Verifier.ofPassword
  rw [hprep]
  rfl

include hcrypto hheader hprep in
/-- The server accepts the proof in a client's answer to its first message. -/
theorem accepts_of_client :
    let verifier := Verifier.ofPassword crypto saslprep scram.password salt iterations
    accepts crypto verifier (firstOf scram) suffix
      (finalOf crypto scram (serverFirst crypto verifier (firstOf scram) suffix)
        (scram.nonce ++ suffix) salt iterations) = true := by
  intro verifier
  have hstored : verifier.storedKey =
      crypto.sha256 (ScramClient.clientKey crypto (scram.saltedFor crypto salt iterations)) :=
    congrArg Verifier.storedKey (ofPassword_eq hprep salt iterations)
  have hsigned : authMessage crypto verifier (firstOf scram) suffix
      (finalOf crypto scram (serverFirst crypto verifier (firstOf scram) suffix)
        (scram.nonce ++ suffix) salt iterations) =
      scram.signedFor crypto (serverFirst crypto verifier (firstOf scram) suffix)
        (scram.nonce ++ suffix) := rfl
  unfold accepts
  rw [hsigned, hstored]
  simp [finalOf, firstOf, hheader, xor_clientProof hcrypto]

include hcrypto hprep in
/-- The client accepts the signature in the server's last message. -/
theorem verifyServerFinal_of_server :
    let verifier := Verifier.ofPassword crypto saslprep scram.password salt iterations
    let first := serverFirst crypto verifier (firstOf scram) suffix
    (scram.answered crypto first (scram.nonce ++ suffix) salt iterations).verifyServerFinal crypto
      (serverFinal crypto verifier (firstOf scram) suffix
        (finalOf crypto scram first (scram.nonce ++ suffix) salt iterations)) = .ok () := by
  intro verifier first
  have hkey : verifier.serverKey =
      crypto.hmac (scram.saltedFor crypto salt iterations) (utf8 "Server Key") :=
    congrArg Verifier.serverKey (ofPassword_eq hprep salt iterations)
  apply ScramClient.verifyServerFinal_ok_iff.mpr
  refine ⟨_, _, rfl, rfl, ?_⟩
  have hmessage : ∀ signature, ScramClient.signatureOf crypto ("v=" ++ crypto.encode signature) =
      some signature := by
    intro signature
    simp [ScramClient.signatureOf, List.isPrefixOf?, hcrypto.decode_encode]
  unfold serverFinal
  rw [hmessage, hkey]
  rfl

end Agreement

/-! ### A recorded exchange -/

/-- The hash functions on the inputs that were recorded, and base64 as it is. -/
def recorded (hmacs : List ((Bytes × Bytes) × Bytes)) (digests : List (Bytes × Bytes))
    (salted : List ((Bytes × Bytes × UInt32) × Bytes)) (md5s : List (Bytes × Bytes)) : Crypto where
  hmac key message := ((hmacs.lookup (key, message)).getD []).leftpad 32 0 |>.take 32
  sha256 message := (digests.lookup message).getD []
  pbkdf2 password salt iterations := (salted.lookup (password, salt, iterations)).getD []
  md5 message := (md5s.lookup message).getD []
  encode bs := String.ofList (Base64.encode bs)
  decode text := Base64.decode text.toList

theorem recorded_lawful (hmacs : List ((Bytes × Bytes) × Bytes)) (digests : List (Bytes × Bytes))
    (salted : List ((Bytes × Bytes × UInt32) × Bytes)) (md5s : List (Bytes × Bytes)) :
    (recorded hmacs digests salted md5s).Lawful where
  decode_encode bs := by simp [recorded, Base64.decode_encode]
  encode_printable bs := by
    have hdigits : ∀ n : Fin 64, scramPrintable (Base64.digit n) = true := by decide +kernel
    apply List.all_eq_true.mpr
    intro c hc
    rw [recorded, String.toList_ofList] at hc
    rcases Base64.mem_encode hc with rfl | ⟨n, hn, rfl⟩
    · decide
    · exact hdigits ⟨n, hn⟩
  hmac_length key message := by
    simp [recorded]
    omega

/-- Salt of the recorded exchange. -/
def pencilSalt : Bytes :=
  [91, 109, 153, 104, 157, 18, 53, 142, 236, 160, 75, 20, 18, 54, 250, 129]

/-- Random bytes of the client's nonce in it. -/
def pencilNonce : Bytes := (List.range 24).map UInt8.ofNat

/-- The server's part of the nonce in it. -/
def pencilSuffix : String := "%hvYDpWUa2RaTCAfuxFIlj)hNlF$k0"

/-- The hash functions in an exchange with the password "pencil". -/
def pencil : Crypto :=
  let saltedPassword : Bytes := [196, 164, 149, 16, 50, 58, 180, 249, 82, 202, 193, 250, 153, 68,
    25, 57, 231, 142, 167, 77, 107, 232, 29, 223, 112, 150, 232, 117, 19, 220, 97, 93]
  let clientKey : Bytes := [166, 15, 201, 35, 214, 126, 134, 68, 169, 45, 22, 185, 110, 218, 94,
    244, 101, 107, 12, 114, 92, 72, 67, 116, 190, 37, 83, 85, 118, 153, 110, 139]
  let storedKey : Bytes := [88, 110, 93, 242, 131, 230, 220, 235, 92, 62, 121, 29, 139, 133, 40,
    236, 25, 30, 102, 64, 69, 206, 151, 23, 146, 226, 230, 181, 187, 19, 226, 166]
  let serverKey : Bytes := [193, 243, 203, 193, 193, 58, 157, 53, 161, 76, 9, 144, 238, 217, 118,
    41, 234, 34, 88, 99, 229, 102, 164, 49, 74, 185, 159, 63, 0, 229, 217, 213]
  let signed : Bytes := utf8 ("n=,r=AAECAwQFBgcICQoLDA0ODxAREhMUFRYX," ++
    "r=AAECAwQFBgcICQoLDA0ODxAREhMUFRYX%hvYDpWUa2RaTCAfuxFIlj)hNlF$k0," ++
    "s=W22ZaJ0SNY7soEsUEjb6gQ==,i=4096," ++
    "c=biws,r=AAECAwQFBgcICQoLDA0ODxAREhMUFRYX%hvYDpWUa2RaTCAfuxFIlj)hNlF$k0")
  recorded
    [((saltedPassword, utf8 "Client Key"), clientKey),
      ((saltedPassword, utf8 "Server Key"), serverKey),
      ((storedKey, signed), [106, 200, 153, 245, 24, 78, 199, 254, 218, 147, 196, 158, 111, 197,
        156, 91, 213, 217, 91, 188, 3, 164, 187, 9, 181, 134, 149, 65, 133, 170, 235, 72]),
      ((serverKey, signed), [19, 181, 121, 124, 168, 245, 158, 159, 205, 52, 204, 211, 4, 99, 111,
        5, 165, 154, 120, 82, 50, 173, 221, 58, 41, 8, 154, 248, 14, 21, 168, 204])]
    [(clientKey, storedKey)] [((utf8 "pencil", pencilSalt, 4096), saltedPassword)] []

/-- The client's answer in the exchange, proof included. -/
example :
    (ScramClient.processServerFirst pencil
      "r=AAECAwQFBgcICQoLDA0ODxAREhMUFRYX%hvYDpWUa2RaTCAfuxFIlj)hNlF$k0,s=W22ZaJ0SNY7soEsUEjb6gQ==,i=4096"
      (ScramClient.new pencil pencilNonce "pencil")).1 =
    .ok "c=biws,r=AAECAwQFBgcICQoLDA0ODxAREhMUFRYX%hvYDpWUa2RaTCAfuxFIlj)hNlF$k0,p=zMdQ1s4wQbpzvtInAR/Cr7CyV85f7Ph9C6PGFPMzhcM=" := by
  decide +kernel

/-- **A client and an honest server with a verifier of its password authenticate each other.** The
server reads both messages of the client and accepts the proof, and the client accepts the
signature of the server. A client never goes on with a first message of a server whose nonce does
not start with its own. -/
theorem authenticate (crypto : Crypto) (hcrypto : crypto.Lawful) (saslprep : String → String)
    (password : String) (hprep : saslprep password = password) (nonceBytes salt : Bytes)
    (iterations : UInt32) (suffix : String) (hsuffix : ',' ∉ suffix.toList) :
    let scram := ScramClient.new crypto nonceBytes password
    let verifier := Verifier.ofPassword crypto saslprep password salt iterations
    (∃ first clientFinal scram' final,
      readClientFirst scram.clientFirstMessage = some first ∧
      ScramClient.processServerFirst crypto (serverFirst crypto verifier first suffix) scram =
        (.ok clientFinal, scram') ∧
      readClientFinal crypto clientFinal = some final ∧
      accepts crypto verifier first suffix final = true ∧
      scram'.verifyServerFinal crypto (serverFinal crypto verifier first suffix final) = .ok ()) ∧
    ∀ (scram : ScramClient) (message : String),
      (∀ nonce ∈ (ServerFirst.nonces message).getLast?, ¬ scram.nonce.toList <+: nonce) →
      ∃ text, (ScramClient.processServerFirst crypto message scram).1 = .err text := by
  intro scram verifier
  refine ⟨?_, fun scram message => ScramClient.processServerFirst_foreign⟩
  have hnonce : scram.nonce.toList.all scramPrintable = true := hcrypto.encode_printable nonceBytes
  have hcomma : ',' ∉ scram.nonce.toList := not_comma_of_printable hnonce
  have hreads := reads_of_server hcrypto hcomma verifier hsuffix
  exact ⟨firstOf scram, _, _, _, readClientFirst_of_client rfl hnonce,
    ScramClient.processServerFirst_of_reads hreads,
    readClientFinal_of_client hcrypto scram _ (by simp [hcomma, hsuffix]) salt iterations,
    accepts_of_client hcrypto rfl hprep salt iterations suffix,
    verifyServerFinal_of_server hcrypto hprep salt iterations suffix⟩

/-- The recorded exchange is one of them. -/
theorem authenticate_pencil :
    let scram := ScramClient.new pencil pencilNonce "pencil"
    let verifier := Verifier.ofPassword pencil id "pencil" pencilSalt 4096
    ∃ first clientFinal scram' final, readClientFirst scram.clientFirstMessage = some first ∧
      ScramClient.processServerFirst pencil (serverFirst pencil verifier first pencilSuffix) scram =
        (.ok clientFinal, scram') ∧
      readClientFinal pencil clientFinal = some final ∧
      accepts pencil verifier first pencilSuffix final = true ∧
      scram'.verifyServerFinal pencil (serverFinal pencil verifier first pencilSuffix final) =
        .ok () :=
  (authenticate pencil (recorded_lawful _ _ _ _) id "pencil" rfl pencilNonce pencilSalt 4096
    pencilSuffix (by decide +kernel)).1

end ZeroPostgres.ScramServer
