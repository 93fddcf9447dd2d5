import ZeroPostgres.Protocol.Backend

/-!
# Errors of the parsers

What the parsers of `src/src/protocol/` can fail with: a message that does not have the layout
of its type is a library bug, and that breaks the connection.
-/

namespace ZeroPostgres

/-- Every error of a parser is a library bug and breaks the connection. -/
def Breaks {α : Type} (o : Parsed α) : Prop := ∀ e, o = .err e → e.isConnectionBroken = true

theorem Breaks.ok {α : Type} (a : α) : Breaks (.ok a) := by
  intro e h
  cases h

theorem Breaks.halt {α : Type} : Breaks (.halt : Parsed α) := by
  intro e h
  cases h

theorem Breaks.libraryBug {α : Type} (text : String) :
    Breaks (.err (.libraryBug text) : Parsed α) := by
  intro e h
  cases h
  rfl

theorem Breaks.bind {α β : Type} {o : Parsed α} {f : α → Parsed β} (ho : Breaks o)
    (hf : ∀ a, Breaks (f a)) : Breaks (o.bind f) := by
  intro e h
  cases o with
  | ok a => exact hf a e h
  | err e' => exact ho e (by cases h; rfl)
  | halt => cases h

theorem readCstring_breaks (data : Bytes) : Breaks (readCstring data) := by
  induction data with
  | nil => exact .libraryBug _
  | cons b rest ih =>
    unfold readCstring
    split
    · exact .ok _
    · exact ih.bind fun r => .ok _

theorem readCstr_breaks (data : Bytes) : Breaks (readCstr data) := by
  refine (readCstring_breaks data).bind fun r => ?_
  split
  · exact .ok _
  · exact .libraryBug _

theorem readU32_breaks (data : Bytes) : Breaks (readU32 data) := by
  unfold readU32
  split
  · exact .ok _
  · exact .libraryBug _

theorem headU16_breaks (data : Bytes) : Breaks (headU16 data) := by
  unfold headU16
  split
  · exact .ok _
  · exact .halt

theorem parseFieldsFrom_breaks (fuel : Nat) (fields : ServerError) (data : Bytes) :
    Breaks (parseFieldsFrom fuel fields data) := by
  induction fuel generalizing fields data with
  | zero => exact .ok _
  | succ fuel ih =>
    cases data with
    | nil => exact .ok _
    | cons t rest =>
      unfold parseFieldsFrom
      split
      · exact .ok _
      · exact (readCstr_breaks rest).bind fun r => ih _ _

theorem ErrorResponse.parse_breaks (payload : Bytes) : Breaks (ErrorResponse.parse payload) :=
  parseFieldsFrom_breaks _ _ _

theorem ReadyForQuery.parse_breaks (payload : Bytes) : Breaks (ReadyForQuery.parse payload) := by
  unfold ReadyForQuery.parse
  split
  · exact .ok _
  · exact .libraryBug _

theorem CommandComplete.parse_breaks (payload : Bytes) :
    Breaks (CommandComplete.parse payload) :=
  (readCstr_breaks payload).bind fun _ => .ok _

theorem DataRow.parse_breaks (payload : Bytes) : Breaks (DataRow.parse payload) :=
  (headU16_breaks payload).bind fun _ => .ok _

theorem RowDescription.parse_breaks (payload : Bytes) :
    Breaks (RowDescription.parse payload) := by
  have hfields (n : Nat) (data : Bytes) : Breaks (parseFieldDescriptions n data) := by
    induction n generalizing data with
    | zero => exact .ok _
    | succ n ih =>
      refine (readCstr_breaks data).bind fun r => ?_
      split
      · exact .halt
      · exact (ih _).bind fun fields => .ok _
  exact (headU16_breaks payload).bind fun r => hfields _ _

theorem ParameterDescription.parse_breaks (payload : Bytes) :
    Breaks (ParameterDescription.parse payload) := by
  have hoids (n : Nat) (data : Bytes) : Breaks (parseOids n data) := by
    induction n generalizing data with
    | zero => exact .ok _
    | succ n ih => exact (readU32_breaks data).bind fun r => (ih _).bind fun oids => .ok _
  exact (headU16_breaks payload).bind fun r => hoids _ _

end ZeroPostgres
