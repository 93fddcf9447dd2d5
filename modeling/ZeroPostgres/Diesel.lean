import ZeroPostgres.Conversion.Types
import ZeroPostgres.State.Extended

/-!
# Parameters of diesel

`DieselParams`, `src/src/diesel/connection.rs:130–169`, passes to `exec` what diesel has serialised.
The format codes of the Bind come from the OIDs, the bytes do not: `diesel_declares_binary_iff` says
for which lists of binds the two agree.
-/

namespace ZeroPostgres

/-- A bind that diesel collected: the OID of its type, where the lookup of the type succeeded, and
the bytes in PostgreSQL's binary format, unless it is NULL. The collector keeps the two in lists of
the same length. -/
structure DieselBind where
  oid : Option Oid
  value : Option Bytes
deriving DecidableEq, Repr

/-- The length of the value does not fit in an `i32`. -/
def DieselBind.TooLarge (bind : DieselBind) : Prop := ∃ data ∈ bind.value, 2 ^ 31 ≤ data.length

namespace DieselParams

/-- `encode`, lines 153–168. The OIDs it is given are not looked at. -/
def encode : List DieselBind → Except Error Bytes
  | [] => .ok []
  | bind :: binds =>
    match bind.value with
    | some data =>
      if data.length < 2 ^ 31 then (valueBytes (some data) ++ ·) <$> encode binds
      else .error (.encode "bind value too large")
    | none => (valueBytes none ++ ·) <$> encode binds

/-- `impl ToParams for DieselParams`, lines 140–169. -/
def params (binds : List DieselBind) : Params where
  naturalOids := binds.map fun bind => bind.oid.getD 0
  paramCount := binds.length
  encode := fun _ => encode binds

/-- Binds are refused for the length of a value, and for nothing else. -/
theorem encode_cases (binds : List DieselBind) :
    ((∃ bind ∈ binds, bind.TooLarge) ∧ encode binds = .error (.encode "bind value too large")) ∨
      ((∀ bind ∈ binds, ¬ bind.TooLarge) ∧
        encode binds = .ok (binds.flatMap fun bind => valueBytes bind.value)) := by
  induction binds with
  | nil => exact .inr ⟨by simp, rfl⟩
  | cons bind binds ih =>
    obtain ⟨oid, value⟩ := bind
    by_cases hlarge : (DieselBind.mk oid value).TooLarge
    · left
      obtain ⟨data, rfl, hlen⟩ := hlarge
      refine ⟨⟨_, List.mem_cons_self, data, rfl, hlen⟩, ?_⟩
      simp only [encode, if_neg (Nat.not_lt.mpr hlen)]
    · have hhead : encode (⟨oid, value⟩ :: binds) = (valueBytes value ++ ·) <$> encode binds := by
        cases value with
        | none => rfl
        | some data =>
          have hlen : data.length < 2 ^ 31 := by
            by_contra hle
            exact hlarge ⟨data, rfl, Nat.not_lt.mp hle⟩
          simp only [encode, if_pos hlen]
      rw [hhead]
      rcases ih with ⟨⟨bind, hmem, hbind⟩, herror⟩ | ⟨hall, hok⟩
      · left
        rw [herror]
        exact ⟨⟨bind, List.mem_cons_of_mem _ hmem, hbind⟩, rfl⟩
      · right
        rw [hok]
        exact ⟨List.forall_mem_cons.mpr ⟨hlarge, hall⟩, rfl⟩

end DieselParams

/-- The format that a message declares for a parameter. The count of the codes has sixteen bits. -/
def Frontend.declaredFormat (i : Nat) : Frontend → Option FormatCode
  | .bind _ _ formats paramCount _ => (formats.take (paramCount % 2 ^ 16))[i]?
  | _ => none

/-- The message is a Bind. -/
def Frontend.IsBind : Frontend → Prop
  | .bind .. => True
  | _ => False

/-- The Binds among the messages declare the binary format for each bind that is not NULL. -/
def DeclareBinary (binds : List DieselBind) (messages : List Frontend) : Prop :=
  ∀ m ∈ messages, m.IsBind → ∀ i bind data, binds[i]? = some bind → bind.value = some data →
    m.declaredFormat i = some .binary

/-- The Bind of `exec`, when there is one, declares what the OIDs prefer. -/
theorem executeSql_bind {handler : Handler} {b : BufferSet} {sql : String} {params : Params}
    {values : Bytes} (h : params.encode params.naturalOids = .ok values) :
    (ExtendedQueryStateMachine.executeSql handler b sql params).2.writeBuffer =
      [.parse "" sql params.naturalOids,
        .bind "" "" (params.naturalOids.map preferredFormat) params.paramCount values,
        .describePortal "", .execute "" 0, .sync] := by
  simp only [ExtendedQueryStateMachine.executeSql, writeBind, h]
  rfl

/-- The format that this Bind declares for a bind of the list is the binary one, unless the count
does not reach the bind or it is a NUMERIC. -/
theorem declaredFormat_eq_binary_iff {binds : List DieselBind} {i : Nat} {bind : DieselBind}
    (hbind : binds[i]? = some bind) (values : Bytes) :
    (Frontend.bind "" "" ((DieselParams.params binds).naturalOids.map preferredFormat)
      (DieselParams.params binds).paramCount values).declaredFormat i = some .binary ↔
      bind.oid ≠ some oid.numeric ∧ i < binds.length % 2 ^ 16 := by
  have hpreferred : preferredFormat (bind.oid.getD 0) = .binary ↔ bind.oid ≠ some oid.numeric := by
    cases bind.oid with
    | none => decide
    | some o => simp [preferredFormat]
  show (((DieselParams.params binds).naturalOids.map preferredFormat).take
    (binds.length % 2 ^ 16))[i]? = some .binary ↔ _
  by_cases hi : i < binds.length % 2 ^ 16
  · have hcode : ((DieselParams.params binds).naturalOids.map preferredFormat)[i]? =
        some (preferredFormat (bind.oid.getD 0)) := by
      rw [DieselParams.params, List.getElem?_map, List.getElem?_map, hbind]
      rfl
    rw [List.getElem?_take_of_lt hi, hcode, Option.some_inj, hpreferred, and_iff_left hi]
  · rw [List.getElem?_take_eq_none (Nat.not_lt.mp hi)]
    exact iff_of_false (by simp) fun h => hi h.2

/-- The Binds declare the binary format exactly if none is built, since a value is too large, or no
bind that is not NULL is a NUMERIC or lies behind the count. -/
theorem diesel_declares_binary_iff (handler : Handler) (b : BufferSet) (sql : String)
    (binds : List DieselBind) :
    DeclareBinary binds (ExtendedQueryStateMachine.executeSql handler b sql
        (DieselParams.params binds)).2.writeBuffer ↔
      (∃ bind ∈ binds, bind.TooLarge) ∨
        ∀ i bind data, binds[i]? = some bind → bind.value = some data →
          bind.oid ≠ some oid.numeric ∧ i < binds.length % 2 ^ 16 := by
  rcases DieselParams.encode_cases binds with ⟨hlarge, herror⟩ | ⟨hall, hok⟩
  · refine iff_of_true ?_ (.inl hlarge)
    intro m hm hbind
    simp only [ExtendedQueryStateMachine.executeSql, writeBind, DieselParams.params, herror] at hm
    simp only [List.cons_append, List.nil_append, List.mem_cons, List.not_mem_nil, or_false] at hm
    rcases hm with rfl | rfl
    · cases hbind
    · cases hbind
  · have hnone : ¬ ∃ bind ∈ binds, bind.TooLarge := by
      rintro ⟨bind, hmem, hlarge⟩
      exact hall bind hmem hlarge
    rw [executeSql_bind hok, or_iff_right hnone]
    constructor
    · intro h i bind data hbind hdata
      have hdeclared := h (.bind "" "" _ _ _) (List.mem_cons_of_mem _ List.mem_cons_self) trivial
        i bind data hbind hdata
      exact (declaredFormat_eq_binary_iff hbind _).mp hdeclared
    · intro h m hm hisBind i bind data hbind hdata
      simp only [List.mem_cons, List.not_mem_nil, or_false] at hm
      rcases hm with rfl | rfl | rfl | rfl | rfl
      · cases hisBind
      · exact (declaredFormat_eq_binary_iff hbind _).mpr (h i bind data hbind hdata)
      · cases hisBind
      · cases hisBind
      · cases hisBind

/-- The number 1 as diesel serialises a NUMERIC: one digit, weight 0, positive, no decimals. -/
def dieselOne : DieselBind := ⟨some oid.numeric, some [0, 1, 0, 0, 0, 0, 0, 0, 0, 1]⟩

/-- It is declared as text. -/
theorem diesel_declares_text :
    ¬ ∀ (handler : Handler) (b : BufferSet) (sql : String) (binds : List DieselBind),
      DeclareBinary binds (ExtendedQueryStateMachine.executeSql handler b sql
        (DieselParams.params binds)).2.writeBuffer := by
  intro h
  have hdeclared := h DropHandler .new "SELECT $1" [dieselOne] (.bind "" "" [.text] 1 _)
    (List.mem_cons_of_mem _ List.mem_cons_self) trivial 0 dieselOne _ rfl rfl
  exact absurd hdeclared (by decide)

end ZeroPostgres
