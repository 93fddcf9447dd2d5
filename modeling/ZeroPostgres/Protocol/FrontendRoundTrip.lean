import ZeroPostgres.Conversion.ReferenceCrates
import ZeroPostgres.Server.Frames
import ZeroPostgres.State.Connection

/-!
# The server reads what the client wrote

`Sends` says that a buffer has grown by one message from which the server takes certain fields, and
nothing less or more. A written message is what the codec of the message writes of its fields
(`sends_iff`), so that it is read back exactly when the fields are valid: strings without null
bytes, startup parameters with names, counts of 16 bits, lengths that fit in a signed number.
-/

namespace ZeroPostgres

/-- The buffer has grown by one message, which the server reads as the value and no further. -/
def Sends {α : Type} (c : PrefixCodec α) (buf buf' : Bytes) (a : α) : Prop :=
  ∃ message, buf' = buf ++ message ∧ ∀ rest, c.read (message ++ rest) = some (a, rest)

theorem sends_iff {α : Type} {c : PrefixCodec α} {buf message : Bytes} {a : α} :
    Sends c buf (buf ++ message) a ↔ c.Valid a ∧ message = c.write a := by
  constructor
  · rintro ⟨message', hmessage, hread⟩
    obtain rfl := List.append_cancel_left hmessage
    obtain ⟨hvalid, hwrite⟩ := c.read_iff.mp (hread [])
    exact ⟨hvalid, List.append_cancel_right hwrite⟩
  · rintro ⟨hvalid, rfl⟩
    exact ⟨_, rfl, fun _ => c.read_write_iff.mpr hvalid⟩

namespace Wire

/-- The length field of a message with this body fits in a signed number. -/
def LengthFits (body : Bytes) : Prop := 4 + body.length < 2 ^ 31

/-- A message written with its length is read back as the value whose body it has. -/
theorem sends_frame_iff {α : Type} {c : PrefixCodec α} {typeByte : UInt8} {buf body : Bytes}
    {a : α} : Sends (Frames.message typeByte c) buf (buf ++ frame typeByte body) a ↔
      c.Valid a ∧ body = c.write a ∧ LengthFits body := by
  rw [sends_iff]
  constructor
  · rintro ⟨⟨hvalid, hlen⟩, hframe⟩
    obtain rfl := frame_inj.mp hframe
    exact ⟨hvalid, rfl, hlen⟩
  · rintro ⟨hvalid, rfl, hlen⟩
    exact ⟨⟨hvalid, hlen⟩, rfl⟩

theorem writeQuery_sends_iff (buf : Bytes) (sql : String) :
    Sends Frames.query buf (writeQuery buf sql) sql ↔ CString sql ∧ LengthFits (cstr sql) := by
  rw [writeQuery_eq, Frames.query, sends_frame_iff]
  exact and_congr_right fun _ => and_iff_right rfl

theorem writePassword_sends_iff (buf : Bytes) (password : String) :
    Sends Frames.password buf (writePassword buf password) password ↔
      CString password ∧ LengthFits (cstr password) := by
  rw [writePassword_eq, Frames.password, sends_frame_iff]
  exact and_congr_right fun _ => and_iff_right rfl

theorem writeParse_sends_iff (buf : Bytes) (name query : String) (paramOids : List Oid) :
    Sends Frames.parse buf (writeParse buf name query paramOids) (name, query, paramOids) ↔
      (CString name ∧ CString query) ∧ paramOids.length < 2 ^ 16 ∧
        LengthFits (cstr name ++ cstr query ++ oidList paramOids) := by
  have hwrite : cstr name ++ cstr query ++ oidList paramOids =
      Frames.parseBody.write (name, query, paramOids) := List.append_assoc ..
  have hoids : ∀ oid ∈ paramOids, Frames.oid.Valid oid := fun oid _ => oid.toNat_lt
  rw [writeParse_eq, Frames.parse, sends_frame_iff, and_iff_right hwrite]
  constructor
  · rintro ⟨⟨hname, hquery, hcount, -⟩, hlen⟩
    exact ⟨⟨hname, hquery⟩, hcount, hlen⟩
  · rintro ⟨⟨hname, hquery⟩, hcount, hlen⟩
    exact ⟨⟨hname, hquery, hcount, hoids⟩, hlen⟩

/-- The fields of a Bind, from the OIDs and the encoded parameters. -/
def bindFields (portal statement : String) (targetOids : List Oid)
    (encoded : List (Option Bytes)) : Frames.BindFields :=
  (portal, statement, targetOids.map fun oid => (preferredFormat oid).toU16, encoded,
    [FormatCode.binary.toU16])

theorem toU16_lt (format : FormatCode) : format.toU16 < 256 ^ 2 := by
  cases format <;> decide

/-- The body of a Bind as the server's codec writes it: each list behind its own count. -/
def countedBody (portal statement : String) (targetOids : List Oid)
    (encoded : List (Option Bytes)) : Bytes :=
  cstr portal ++ cstr statement ++ (BigEndian.bytes 2 targetOids.length ++ formatList targetOids) ++
    (BigEndian.bytes 2 encoded.length ++ encoded.flatMap valueBytes) ++
    (BigEndian.bytes 2 1 ++ BigEndian.bytes 2 1)

theorem write_bindFields (portal statement : String) (targetOids : List Oid)
    (encoded : List (Option Bytes)) :
    Frames.bindBody.write (bindFields portal statement targetOids encoded) =
      countedBody portal statement targetOids encoded := by
  have hformats : (targetOids.map fun oid => (preferredFormat oid).toU16).flatMap
      (BigEndian.bytes 2) = formatList targetOids := List.flatMap_map ..
  have hbody : countedBody portal statement targetOids encoded =
      cstr portal ++ (cstr statement ++ ((BigEndian.bytes 2
        (targetOids.map fun oid => (preferredFormat oid).toU16).length ++
          (targetOids.map fun oid => (preferredFormat oid).toU16).flatMap (BigEndian.bytes 2)) ++
        ((BigEndian.bytes 2 encoded.length ++ encoded.flatMap valueBytes) ++
          (BigEndian.bytes 2 1 ++ ([1].flatMap (BigEndian.bytes 2)))))) := by
    rw [hformats, List.length_map, countedBody]
    simp only [List.append_assoc, List.flatMap_cons, List.flatMap_nil, List.append_nil]
  exact hbody.symm

/-- Which fields of a Bind the server takes. -/
theorem bindFields_valid_iff {portal statement : String} {targetOids : List Oid}
    {encoded : List (Option Bytes)} (hlength : encoded.length = targetOids.length) :
    Frames.bindBody.Valid (bindFields portal statement targetOids encoded) ↔
      (CString portal ∧ CString statement) ∧ targetOids.length < 2 ^ 16 ∧
        ∀ v ∈ encoded, Frames.value.Valid v := by
  have hmap : (targetOids.map fun oid => (preferredFormat oid).toU16).length =
      targetOids.length := List.length_map _
  have hformats : ∀ n ∈ targetOids.map fun oid => (preferredFormat oid).toU16, n < 256 ^ 2 := by
    intro n hn
    obtain ⟨oid, -, rfl⟩ := List.mem_map.mp hn
    exact toU16_lt _
  constructor
  · rintro ⟨⟨hportal, hstatement, ⟨hcount, -⟩, ⟨-, hvalues⟩, -⟩, -⟩
    exact ⟨⟨hportal, hstatement⟩, hmap ▸ hcount, hvalues⟩
  · rintro ⟨⟨hportal, hstatement⟩, hcount, hvalues⟩
    have hresult : (PrefixCodec.counted 2 (PrefixCodec.word 2)).Valid
        [FormatCode.binary.toU16] := by
      refine ⟨by decide, ?_⟩
      intro n hn
      obtain rfl := List.mem_singleton.mp hn
      exact toU16_lt .binary
    exact ⟨⟨hportal, hstatement, ⟨hmap ▸ hcount, hformats⟩, ⟨hlength ▸ hcount, hvalues⟩, hresult⟩,
      .inr (hmap.trans hlength.symm)⟩

/-- The two bodies agree when the number of parameters, cut to 16 bits, is that of the OIDs. -/
theorem bindBody_eq_iff (portal statement : String) {count : Nat} {targetOids : List Oid}
    {encoded : List (Option Bytes)} (hlt : targetOids.length < 2 ^ 16)
    (hlength : targetOids.length = count % 2 ^ 16 → encoded.length = targetOids.length) :
    bindBody portal statement count targetOids (encoded.flatMap valueBytes) =
        countedBody portal statement targetOids encoded ↔
      targetOids.length = count % 2 ^ 16 := by
  simp only [bindBody, countedBody, List.append_assoc, List.append_cancel_left_eq]
  constructor
  · intro h
    have hbytes := (List.append_inj h (by simp)).1
    have hnat := congrArg BigEndian.nat hbytes
    rw [BigEndian.nat_bytes, BigEndian.nat_bytes_of_lt hlt] at hnat
    exact hnat.symm
  · intro h
    have hbytes : BigEndian.bytes 2 count = BigEndian.bytes 2 targetOids.length := by
      rw [h]
      exact (BigEndian.bytes_mod 2 count).symm
    rw [hlength h, hbytes]

/-- No value is longer than all of them. -/
theorem length_le_of_mem {encoded : List (Option Bytes)} {data : Bytes} (h : some data ∈ encoded) :
    data.length ≤ (encoded.flatMap valueBytes).length := by
  induction encoded with
  | nil => cases h
  | cons v encoded ih =>
    rw [List.flatMap_cons, List.length_append]
    rcases List.mem_cons.mp h with rfl | hmem
    · simp only [valueBytes, List.length_append]
      omega
    · exact Nat.le_trans (ih hmem) (Nat.le_add_left _ _)

/-- In a message whose length fits, so does that of each value. -/
theorem encoded_valid {portal statement : String} {count : Nat} {targetOids : List Oid}
    {encoded : List (Option Bytes)}
    (h : LengthFits (bindBody portal statement count targetOids (encoded.flatMap valueBytes))) :
    ∀ v ∈ encoded, Frames.value.Valid v := by
  intro v hv
  cases v with
  | none => trivial
  | some data =>
    have hle := length_le_of_mem hv
    simp only [LengthFits, bindBody, List.length_append] at h
    show data.length < 2 ^ 31
    omega

/-- A Bind that was written is read back when its strings have no null bytes, there is one OID for
each parameter and the length fits. -/
theorem writeBind_sends_iff {portal statement : String} {params : ToParams}
    {targetOids : List Oid} {buf buf' : Bytes}
    (h : writeBind portal statement params targetOids buf = (.ok (), buf')) :
    ∃ encoded, params.Encoded targetOids encoded ∧
      (Sends Frames.bind buf buf' (bindFields portal statement targetOids encoded) ↔
        (CString portal ∧ CString statement) ∧
          targetOids.length = params.paramCount % 2 ^ 16 ∧
          LengthFits (bindBody portal statement params.paramCount targetOids
            (encoded.flatMap valueBytes))) := by
  obtain ⟨encoded, hencoded, rfl⟩ := writeBind_ok h
  refine ⟨encoded, hencoded, ?_⟩
  have hlength := hencoded.length_of_mod
  have hbody : targetOids.length < 2 ^ 16 → _ := fun hlt =>
    bindBody_eq_iff portal statement hlt hlength
  rw [Frames.bind, sends_frame_iff, write_bindFields]
  constructor
  · rintro ⟨hvalid, hsame, hlen⟩
    have hlt : targetOids.length < 2 ^ 16 := by
      rw [← List.length_map fun oid => (preferredFormat oid).toU16]
      exact hvalid.1.2.2.1.1
    have hcount := (hbody hlt).mp hsame
    exact ⟨((bindFields_valid_iff (hlength hcount)).mp hvalid).1, hcount, hlen⟩
  · rintro ⟨hnames, hcount, hlen⟩
    have hlt : targetOids.length < 2 ^ 16 := by
      rw [hcount]
      exact Nat.mod_lt _ (by decide)
    have hvalid := (bindFields_valid_iff (hlength hcount)).mpr ⟨hnames, hlt, encoded_valid hlen⟩
    exact ⟨hvalid, (hbody hlt).mpr hcount, hlen⟩

/-! ### The startup message -/

/-- A parameter that keeps its place in the list: a name, and no null bytes. -/
def Plain (p : String × String) : Prop := (CString p.1 ∧ p.1 ≠ "") ∧ CString p.2

theorem writeStartup_sends_iff (buf : Bytes) (params : List (String × String)) :
    Sends Frames.startup buf (writeStartup buf params) (protocolVersion, params) ↔
      (∀ p ∈ params, Plain p) ∧
        LengthFits (BigEndian.bytes 4 protocolVersion ++ parameterList params) := by
  rw [writeStartup_eq, sends_iff]
  constructor
  · rintro ⟨⟨⟨-, hparams⟩, hlen⟩, -⟩
    exact ⟨hparams, hlen⟩
  · rintro ⟨hparams, hlen⟩
    have hversion : protocolVersion < 256 ^ 4 := by decide
    exact ⟨⟨⟨hversion, hparams⟩, hlen⟩, rfl⟩

/-- The strings of the options that travel in the startup message. -/
structure PlainOpts (options : Opts) : Prop where
  user : CString options.user
  database : ∀ db ∈ options.database, CString db
  applicationName : ∀ app ∈ options.applicationName, CString app
  params : ∀ p ∈ options.params, Plain p

/-- A parameter the library names itself. -/
theorem plain_named {name : String} (h : CString name ∧ name ≠ "") {value : String} :
    Plain (name, value) ↔ CString value := and_iff_right h

theorem startupParams_plain_iff (options : Opts) :
    (∀ p ∈ ConnectionStateMachine.startupParams options, Plain p) ↔ PlainOpts options := by
  have hencoding : Plain ("client_encoding", "UTF8") := by
    rw [plain_named (by decide +kernel)]
    decide +kernel
  have hoption : ∀ (o : Option String) (name : String), CString name ∧ name ≠ "" →
      ((∀ p ∈ (o.map fun value => (name, value)).toList, Plain p) ↔
        ∀ value ∈ o, CString value) := by
    intro o name hname
    cases o with
    | none => simp
    | some value => simp [plain_named hname]
  rw [ConnectionStateMachine.startupParams, List.forall_mem_append, List.forall_mem_append,
    List.forall_mem_append, List.forall_mem_cons, List.forall_mem_singleton,
    plain_named (by decide +kernel), and_iff_left hencoding,
    hoption _ "database" (by decide +kernel), hoption _ "application_name" (by decide +kernel)]
  constructor
  · rintro ⟨⟨⟨huser, hdatabase⟩, happlication⟩, hparams⟩
    exact ⟨huser, hdatabase, happlication, hparams⟩
  · intro h
    exact ⟨⟨⟨h.user, h.database⟩, h.applicationName⟩, h.params⟩

end Wire

open Wire

/-- What a Bind that was written conveys: the encoded parameters are in it in order, and the server
reads it back. -/
theorem bind_round_trip {portal statement : String} (hportal : CString portal)
    (hstatement : CString statement) {params : ToParams} {targetOids : List Oid}
    (hcount : targetOids.length = params.paramCount) (hlt : targetOids.length ≤ 65535)
    {buf buf' : Bytes}
    (h : Wire.writeBind portal statement params targetOids buf = (.ok (), buf')) :
    ∃ encoded, params.Encoded targetOids encoded ∧ encoded.length = targetOids.length ∧
      (Sends Frames.bind buf buf' (bindFields portal statement targetOids encoded) ↔
        LengthFits (bindBody portal statement params.paramCount targetOids
          (encoded.flatMap valueBytes))) := by
  obtain ⟨encoded, hencoded, hsends⟩ := writeBind_sends_iff h
  have hmod : targetOids.length = params.paramCount % 2 ^ 16 := by omega
  refine ⟨encoded, hencoded, hencoded.length_of_mod hmod, ?_⟩
  rw [hsends, and_iff_right ⟨hportal, hstatement⟩, and_iff_right hmod]

/-- The parameters `(7_i32, None)`. -/
def numberAndNull : ToParams :=
  .tuple [(Value.i32 7 : Value Reference.crates).toWireValue,
    (Value.none : Value Reference.crates).toWireValue]

/-- The Bind of these parameters for INT4 and TEXT. -/
def numberAndNullBind : Bytes :=
  (Wire.writeBind "" "_zero_s_0" numberAndNull [oid.int4, oid.text] []).2

theorem bind_round_trip_null :
    ∃ encoded, numberAndNull.Encoded [oid.int4, oid.text] encoded ∧ encoded.length = 2 ∧
      (Sends Frames.bind [] numberAndNullBind
          (bindFields "" "_zero_s_0" [oid.int4, oid.text] encoded) ↔
        LengthFits (bindBody "" "_zero_s_0" 2 [oid.int4, oid.text]
          (encoded.flatMap valueBytes))) :=
  bind_round_trip (by decide +kernel) (by decide +kernel) rfl (by decide)
    (rfl : Wire.writeBind "" "_zero_s_0" numberAndNull [oid.int4, oid.text] [] = _)

/-- A byte string as the only parameter. -/
def oneByteString (data : Bytes) : ToParams :=
  .slice [(Value.slice data : Value Reference.crates).toWireValue]

theorem oneByteString_encoded {data : Bytes} {encoded : List (Option Bytes)}
    (h : (oneByteString data).Encoded [oid.bytea] encoded) :
    data.length ≤ (encoded.flatMap valueBytes).length := by
  cases h with
  | cons hvalue hrest =>
    cases hrest
    have hbytes : valueBytes (some data) = valueBytes _ := Outcome.ok.inj hvalue
    rw [List.flatMap_singleton, ← hbytes, valueBytes, List.length_append]
    exact Nat.le_add_left _ _

/-- A byte string of 2^31 bytes: `write_bind` returns Ok, and the server does not read the
message. -/
theorem bind_not_conveyed :
    ¬ ∀ (portal statement : String) (params : ToParams) (targetOids : List Oid)
        (buf buf' : Bytes), CString portal → CString statement →
      targetOids.length = params.paramCount → targetOids.length ≤ 65535 →
      Wire.writeBind portal statement params targetOids buf = (.ok (), buf') →
      ∃ encoded, params.Encoded targetOids encoded ∧
        Sends Frames.bind buf buf' (bindFields portal statement targetOids encoded) := by
  intro h
  obtain ⟨data, hdata⟩ : ∃ data : Bytes, data = List.replicate (2 ^ 31) 0 := ⟨_, rfl⟩
  obtain ⟨buf', hrun⟩ : ∃ buf',
      Wire.writeBind "" "" (oneByteString data) [oid.bytea] [] = (.ok (), buf') := ⟨_, rfl⟩
  obtain ⟨encoded, hencoded, hsends⟩ := h "" "" (oneByteString data) [oid.bytea] [] buf'
    (by decide +kernel) (by decide +kernel) rfl (by decide) hrun
  obtain ⟨encoded', hencoded', hiff⟩ := writeBind_sends_iff hrun
  obtain rfl := hencoded.unique hencoded'
  have hlen := (hiff.mp hsends).2.2
  have hle := oneByteString_encoded hencoded
  rw [hdata, List.length_replicate] at hle
  simp only [LengthFits, bindBody, List.length_append] at hlen
  omega

/-- Each function that writes strings writes a message from which the server reads exactly them when
they have no null bytes, the startup parameters have names, the lists are not too long for their
counts and the length fits; and otherwise it writes another message or none, and never refuses. -/
theorem strings_conveyed_iff (buf : Bytes) :
    (∀ sql, Sends Frames.query buf (writeQuery buf sql) sql ↔
      CString sql ∧ LengthFits (cstr sql)) ∧
    (∀ password, Sends Frames.password buf (writePassword buf password) password ↔
      CString password ∧ LengthFits (cstr password)) ∧
    (∀ name query paramOids,
      Sends Frames.parse buf (writeParse buf name query paramOids) (name, query, paramOids) ↔
        (CString name ∧ CString query) ∧ paramOids.length < 2 ^ 16 ∧
          LengthFits (cstr name ++ cstr query ++ oidList paramOids)) ∧
    (∀ buf' portal statement params targetOids,
      Wire.writeBind portal statement params targetOids buf = (.ok (), buf') →
      ∃ encoded, params.Encoded targetOids encoded ∧
        (Sends Frames.bind buf buf' (bindFields portal statement targetOids encoded) ↔
          (CString portal ∧ CString statement) ∧
            targetOids.length = params.paramCount % 2 ^ 16 ∧
            LengthFits (bindBody portal statement params.paramCount targetOids
              (encoded.flatMap valueBytes)))) ∧
    ∀ options,
      Sends Frames.startup buf (writeStartup buf (ConnectionStateMachine.startupParams options))
          (protocolVersion, ConnectionStateMachine.startupParams options) ↔
        PlainOpts options ∧ LengthFits (BigEndian.bytes 4 protocolVersion ++
          parameterList (ConnectionStateMachine.startupParams options)) := by
  refine ⟨writeQuery_sends_iff buf, writePassword_sends_iff buf, writeParse_sends_iff buf, ?_, ?_⟩
  · intro buf' portal statement params targetOids h
    exact writeBind_sends_iff h
  · intro options
    rw [writeStartup_sends_iff, startupParams_plain_iff]

/-- A user name with null bytes in it, out of which the server reads a database. -/
def injecting : Opts := { Opts.default with user := "alice\x00database\x00secrets" }

/-- The startup message names a database that the options do not. -/
theorem strings_not_conveyed :
    Frames.startup.read (writeStartup [] (ConnectionStateMachine.startupParams injecting)) =
        some ((protocolVersion,
          [("user", "alice"), ("database", "secrets"), ("client_encoding", "UTF8")]), []) ∧
      ¬ ∀ buf options,
        Sends Frames.startup buf (writeStartup buf (ConnectionStateMachine.startupParams options))
          (protocolVersion, ConnectionStateMachine.startupParams options) := by
  refine ⟨by decide +kernel, fun h => ?_⟩
  have hplain := ((writeStartup_sends_iff _ _).mp (h [] injecting)).1
  exact absurd ((startupParams_plain_iff injecting).mp hplain).user (by decide +kernel)

end ZeroPostgres
