import ZeroPostgres.Startup.ScramServer

/-!
# SCRAM with channel binding

`ScramClient::new_with_channel_binding`, `src/src/protocol/frontend/auth.rs:107–128`, and what a
server that supports channel binding makes of its messages. The client keeps the binding data behind
the GS2 header, in base64: the first message has it in front of the user name, and the last message
encodes it a second time. `channel_binding_iff` says that the messages are those of RFC 5802 for
empty binding data only.
-/

namespace ZeroPostgres

/-- `new_with_channel_binding`, with the random bytes of the nonce. -/
def ScramClient.newWithChannelBinding (crypto : Crypto) (nonceBytes : Bytes) (password : String)
    (channelBindingData : Bytes) : ScramClient :=
  { nonce := crypto.encode nonceBytes
    channelBinding := "p=tls-server-end-point,," ++ crypto.encode channelBindingData
    password, serverFirst := none, authMessage := none, saltedPassword := none }

/-- The `base64` crate with its standard engine. -/
def Crypto.Standard (crypto : Crypto) : Prop :=
  ∀ bs, crypto.encode bs = String.ofList (Base64.encode bs)

namespace ScramServer

/-- Read a client-first-message that asks for channel binding: a GS2 header with the name of the
binding and no other identity, and behind it the user name and the nonce. -/
def readBoundFirst (message : String) : Option ClientFirst :=
  match message.toList.splitOn ',' with
  | flag :: [] :: user :: nonce :: extensions => do
    let name ← attrValue 'p' flag
    let _ ← attrValue 'n' user
    let value ← attrValue 'r' nonce
    if value.all scramPrintable = true then
      some { gs2Header := "p=" ++ String.ofList name ++ ",,"
             bare := String.ofList ([','].intercalate (user :: nonce :: extensions))
             nonce := String.ofList value }
    else none
  | _ => none

/-- The last message repeats the header and has the binding data behind it. -/
def Binds (first : ClientFirst) (channelBindingData : Bytes) (final : ClientFinal) : Prop :=
  final.channelBinding = utf8 first.gs2Header ++ channelBindingData

/-- What a server reads in the first message of a client with channel binding, if it does. -/
def boundFirstOf (scram : ScramClient) : ClientFirst :=
  { gs2Header := "p=tls-server-end-point,,", bare := scram.clientFirstMessageBare
    nonce := scram.nonce }

section Messages

variable {crypto : Crypto} (hcrypto : crypto.Lawful) (hbase : crypto.Standard)
  (nonceBytes : Bytes) (password : String) (data : Bytes)

include hcrypto in
/-- The first message splits at the commas of the header and of the user name only. -/
theorem splitOn_boundFirst :
    let scram := ScramClient.newWithChannelBinding crypto nonceBytes password data
    scram.clientFirstMessage.toList.splitOn ',' =
      ["p=tls-server-end-point".toList, [], (crypto.encode data).toList ++ ['n', '='],
        'r' :: '=' :: (crypto.encode nonceBytes).toList] := by
  intro scram
  have hdata := hcrypto.encode_plain data
  have hnonce := hcrypto.encode_plain nonceBytes
  have hmessage : scram.clientFirstMessage.toList =
      [','].intercalate ["p=tls-server-end-point".toList, [],
        (crypto.encode data).toList ++ ['n', '='],
        'r' :: '=' :: (crypto.encode nonceBytes).toList] := by
    simp [scram, ScramClient.clientFirstMessage, ScramClient.newWithChannelBinding]
  rw [hmessage, List.splitOn_intercalate ',' (by simp [hdata, hnonce]) (by simp)]

include hcrypto hbase in
/-- A server reads the first message if and only if nothing stands in front of the user name. -/
theorem readBoundFirst_eq :
    let scram := ScramClient.newWithChannelBinding crypto nonceBytes password data
    readBoundFirst scram.clientFirstMessage =
      if data = [] then some (boundFirstOf scram) else none := by
  intro scram
  have hflag : "p=tls-server-end-point".toList = 'p' :: '=' :: "tls-server-end-point".toList := by
    decide
  unfold readBoundFirst
  rw [splitOn_boundFirst hcrypto nonceBytes password data, hflag]
  by_cases hdata : data = []
  · subst hdata
    have hempty : (crypto.encode []).toList = [] := by
      rw [hbase, String.toList_ofList]
      rfl
    have hbare : String.ofList ([','].intercalate
        [['n', '='], 'r' :: '=' :: (crypto.encode nonceBytes).toList]) =
        scram.clientFirstMessageBare := by
      apply String.toList_inj.mp
      simp [ScramClient.clientFirstMessageBare, scram, ScramClient.newWithChannelBinding]
    rw [hempty, if_pos rfl]
    simp only [List.nil_append, attrValue_self, Option.bind_eq_bind, Option.bind_some, hbare,
      hcrypto.encode_printable, String.ofList_toList]
    rw [if_pos trivial]
    rfl
  · -- an attribute has its equals sign in second place, where base64 never has one
    obtain ⟨c₁, c₂, rest, hencode, hpad⟩ := Base64.encode_eq_cons hdata
    have huser : attrValue 'n' ((crypto.encode data).toList ++ ['n', '=']) = none := by
      rw [hbase, String.toList_ofList, hencode]
      simp [attrValue, List.isPrefixOf?, Ne.symm hpad]
    rw [if_neg hdata]
    simp only [attrValue_self, Option.bind_eq_bind, Option.bind_some, huser, Option.bind_none]

theorem utf8_append (s t : String) : utf8 (s ++ t) = utf8 s ++ utf8 t := by
  simp [utf8]

/-- A text has at least as many bytes as characters. -/
theorem length_le_utf8 (cs : List Char) : cs.length ≤ (utf8 (String.ofList cs)).length := by
  rw [utf8, String.toByteArray_ofList, List.utf8Encode, List.data_toByteArray,
    List.toList_toArray]
  induction cs with
  | nil => exact Nat.le_refl 0
  | cons c cs ih =>
    have hsize := c.utf8Size_pos
    rw [List.flatMap_cons, List.length_append, String.length_utf8EncodeChar, List.length_cons]
    omega

include hbase in
/-- The last message encodes the header with the binding data in base64, which is the data itself
only where there is none. -/
theorem binds_iff {serverFirst nonce : String} {salt : Bytes} {iterations : UInt32} :
    let scram := ScramClient.newWithChannelBinding crypto nonceBytes password data
    Binds (boundFirstOf scram) data (finalOf crypto scram serverFirst nonce salt iterations) ↔
      data = [] := by
  intro scram
  have hbinding : (finalOf crypto scram serverFirst nonce salt iterations).channelBinding =
      utf8 "p=tls-server-end-point,," ++ utf8 (crypto.encode data) := utf8_append _ _
  rw [Binds, hbinding]
  show utf8 "p=tls-server-end-point,," ++ _ = utf8 "p=tls-server-end-point,," ++ _ ↔ _
  rw [List.append_right_inj, hbase]
  constructor
  · intro heq
    by_contra hdata
    have hlonger := Base64.length_lt_encode hdata
    have hbytes := length_le_utf8 (Base64.encode data)
    rw [heq] at hbytes
    omega
  · rintro rfl
    rfl

end Messages

/-- The messages of a client with channel binding, in the exchange with this server-first-message,
are those a server that checks the binding accepts. -/
def BindsChannel (crypto : Crypto) (scram : ScramClient) (channelBindingData : Bytes)
    (serverFirst : String) : Prop :=
  ∃ first clientFinal final, readBoundFirst scram.clientFirstMessage = some first ∧
    (ScramClient.processServerFirst crypto serverFirst scram).1 = .ok clientFinal ∧
    readClientFinal crypto clientFinal = some final ∧ Binds first channelBindingData final

/-- A client binds the channel if and only if there is nothing to bind; otherwise neither can its
first message be read, nor does its last one carry the binding data. -/
theorem channel_binding_iff (crypto : Crypto) (hcrypto : crypto.Lawful) (hbase : crypto.Standard)
    (nonceBytes : Bytes) (password : String) (data : Bytes) {serverFirst nonce : String}
    {salt : Bytes} {iterations : UInt32} (hnonce : nonce.toList.all scramPrintable = true) :
    let scram := ScramClient.newWithChannelBinding crypto nonceBytes password data
    scram.Reads crypto serverFirst nonce salt iterations →
      (BindsChannel crypto scram data serverFirst ↔ data = []) ∧
      ((∃ first, readBoundFirst scram.clientFirstMessage = some first) ↔ data = []) ∧
      ∃ clientFinal final,
        (ScramClient.processServerFirst crypto serverFirst scram).1 = .ok clientFinal ∧
        readClientFinal crypto clientFinal = some final ∧
        (Binds (boundFirstOf scram) data final ↔ data = []) := by
  intro scram hreads
  have hfirst : readBoundFirst scram.clientFirstMessage =
      if data = [] then some (boundFirstOf scram) else none :=
    readBoundFirst_eq hcrypto hbase nonceBytes password data
  have hfinal := readClientFinal_of_client hcrypto scram serverFirst
    (not_comma_of_printable hnonce) salt iterations
  have hbinds : Binds (boundFirstOf scram) data
      (finalOf crypto scram serverFirst nonce salt iterations) ↔ data = [] :=
    binds_iff hbase nonceBytes password data
  have hanswer := congrArg Prod.fst (ScramClient.processServerFirst_of_reads hreads)
  have hread : (∃ first, readBoundFirst scram.clientFirstMessage = some first) ↔ data = [] := by
    rw [hfirst]
    by_cases hdata : data = [] <;> simp [hdata]
  refine ⟨⟨?_, ?_⟩, hread, _, _, hanswer, hfinal, hbinds⟩
  · rintro ⟨first, -, -, hparsed, -⟩
    exact hread.mp ⟨first, hparsed⟩
  · intro hdata
    exact ⟨_, _, _, by rw [hfirst, if_pos hdata], hanswer, hfinal, hbinds.mpr hdata⟩

/-- The hash functions in an exchange with the password "pencil" and this server-first-message, for
no binding data and for the bytes 1, 2 and 3. -/
def boundPencil : Crypto :=
  let saltedPassword := pencil.pbkdf2 (utf8 "pencil") pencilSalt 4096
  let clientKey := ScramClient.clientKey pencil saltedPassword
  let storedKey := pencil.sha256 clientKey
  let signed (header : String) : Bytes := utf8 ("n=,r=AAECAwQFBgcICQoLDA0ODxAREhMUFRYX," ++
    "r=AAECAwQFBgcICQoLDA0ODxAREhMUFRYX%hvYDpWUa2RaTCAfuxFIlj)hNlF$k0," ++
    "s=W22ZaJ0SNY7soEsUEjb6gQ==,i=4096,c=" ++ header ++
    ",r=AAECAwQFBgcICQoLDA0ODxAREhMUFRYX%hvYDpWUa2RaTCAfuxFIlj)hNlF$k0")
  recorded
    [((saltedPassword, utf8 "Client Key"), clientKey),
      ((storedKey, signed "cD10bHMtc2VydmVyLWVuZC1wb2ludCws"), [96, 2, 59, 4, 148, 235, 135, 159,
        13, 200, 44, 8, 81, 210, 54, 76, 176, 86, 143, 106, 137, 233, 2, 220, 194, 100, 199, 59,
        85, 78, 218, 97]),
      ((storedKey, signed "cD10bHMtc2VydmVyLWVuZC1wb2ludCwsQVFJRA=="), [69, 100, 215, 100, 228,
        245, 8, 154, 50, 20, 122, 39, 213, 166, 168, 62, 102, 155, 236, 67, 246, 67, 219, 166,
        212, 55, 248, 250, 249, 121, 241, 158])]
    [(clientKey, storedKey)] [((utf8 "pencil", pencilSalt, 4096), saltedPassword)] []

/-- The server-first-message in it. -/
def pencilFirst : String :=
  "r=AAECAwQFBgcICQoLDA0ODxAREhMUFRYX%hvYDpWUa2RaTCAfuxFIlj)hNlF$k0," ++
    "s=W22ZaJ0SNY7soEsUEjb6gQ==,i=4096"

theorem pencil_reads (data : Bytes) :
    (ScramClient.newWithChannelBinding boundPencil pencilNonce "pencil" data).Reads boundPencil
      pencilFirst ("AAECAwQFBgcICQoLDA0ODxAREhMUFRYX" ++ pencilSuffix) pencilSalt 4096 where
  parsed := ⟨"W22ZaJ0SNY7soEsUEjb6gQ==", by decide +kernel, by decide +kernel⟩
  extends_nonce := by
    show (boundPencil.encode pencilNonce).toList.isPrefixOf _ = true
    decide +kernel

theorem channel_binding_pencil :
    BindsChannel boundPencil
      (ScramClient.newWithChannelBinding boundPencil pencilNonce "pencil" []) [] pencilFirst :=
  ((channel_binding_iff boundPencil (recorded_lawful _ _ _ _) (fun _ => rfl) pencilNonce "pencil" []
    (by decide +kernel)) (pencil_reads [])).1.mpr rfl

/-- The bytes 1, 2 and 3 stand in front of the user name in base64, and in the last message they
are encoded twice. -/
theorem channel_binding_garbled :
    let scram := ScramClient.newWithChannelBinding boundPencil pencilNonce "pencil" [1, 2, 3]
    scram.clientFirstMessage =
      "p=tls-server-end-point,,AQIDn=,r=AAECAwQFBgcICQoLDA0ODxAREhMUFRYX" ∧
    (∃ clientFinal final,
      (ScramClient.processServerFirst boundPencil pencilFirst scram).1 = .ok clientFinal ∧
      readClientFinal boundPencil clientFinal = some final ∧
      final.channelBinding = utf8 "p=tls-server-end-point,,AQID") ∧
    ¬ BindsChannel boundPencil scram [1, 2, 3] pencilFirst := by
  have hanswer := ScramClient.processServerFirst_of_reads (pencil_reads [1, 2, 3])
  refine ⟨by decide +kernel, ⟨_, _, congrArg Prod.fst hanswer,
    readClientFinal_of_client (recorded_lawful _ _ _ _) _ _ (by decide +kernel) _ _, ?_⟩, ?_⟩
  · show utf8 (ScramClient.newWithChannelBinding boundPencil pencilNonce "pencil"
      [1, 2, 3]).channelBinding = _
    decide +kernel
  rintro ⟨first, -, -, hread, -⟩
  have hnone : readBoundFirst (ScramClient.newWithChannelBinding boundPencil pencilNonce "pencil"
      [1, 2, 3]).clientFirstMessage = none := by decide +kernel
  rw [hnone] at hread
  cases hread

end ScramServer

end ZeroPostgres
