import ZeroPostgres.Server.Session

/-!
# A server with other contents

What a conformant server may answer is a matter of the types of its messages, of transaction
statuses, tags and errors. The contents of its rows are its own: `Conforms.relabel` says that other
rows and row descriptions in their place conform as well.
-/

namespace ZeroPostgres

/-- Other contents for the rows and their descriptions. -/
structure Relabels (φ : RawMessage → RawMessage) : Prop where
  type_eq : ∀ m, (φ m).type = m.type
  wellFormed : ∀ m, m.wellFormed = true → (φ m).wellFormed = true
  other : ∀ m, m.type ≠ .rowDescription → m.type ≠ .dataRow → φ m = m

variable {φ : RawMessage → RawMessage} (hφ : Relabels φ)

section Messages

variable {t : MsgType} {m : RawMessage} {ms : List RawMessage}

include hφ

theorem Is.relabel (h : Is t m) : Is t (φ m) :=
  ⟨(hφ.type_eq m).trans h.1, hφ.wellFormed m h.2⟩

theorem IsReady.relabel {status : TransactionStatus} (h : IsReady status m) :
    IsReady status (φ m) := by
  rw [hφ.other m (by rw [h.1]; decide) (by rw [h.1]; decide)]
  exact h

theorem IsComplete.relabel {tag : String} (h : IsComplete tag m) : IsComplete tag (φ m) := by
  rw [hφ.other m (by rw [h.1]; decide) (by rw [h.1]; decide)]
  exact h

theorem IsError.relabel {e : ServerError} (h : IsError e m) : IsError e (φ m) := by
  rw [hφ.other m (by rw [h.1]; decide) (by rw [h.1]; decide)]
  exact h

theorem IsRows.relabel {returnsRows : Bool} (h : IsRows returnsRows ms) :
    IsRows returnsRows (ms.map φ) := by
  refine ⟨fun m hm => ?_, fun hnone => by rw [h.2 hnone, List.map_nil]⟩
  obtain ⟨m', hm', rfl⟩ := List.mem_map.mp hm
  exact (h.1 m' hm').relabel hφ

theorem IsColumns.relabel {returnsRows : Bool} (h : IsColumns returnsRows m) :
    IsColumns returnsRows (φ m) :=
  Is.relabel hφ h

theorem core_relabel (ms : List RawMessage) : core (ms.map φ) = (core ms).map φ := by
  unfold core
  rw [List.filter_map]
  congr 1
  refine List.filter_congr fun m _ => ?_
  simp only [Function.comp_apply, RawMessage.isAsync, hφ.type_eq]

theorem Results.relabel (h : Results ms) : Results (ms.map φ) := by
  induction h with
  | nil => exact .nil
  | command hm _ ih => exact .command (hm.relabel hφ) ih
  | rows hcols hrows hm _ ih =>
    rw [List.map_cons, List.map_append, List.map_cons]
    exact .rows (hcols.relabel hφ) (hrows.relabel hφ) (hm.relabel hφ) ih

theorem QuerySuccess.relabel {effect : TxEffect} {status status' : TransactionStatus}
    (h : QuerySuccess effect status ms status') :
    QuerySuccess effect status (ms.map φ) status' := by
  cases h with
  | empty hm => exact .empty (hm.relabel hφ)
  | results hstatus hms => exact .results hstatus (hms.relabel hφ)
  | control hnone hother hcompletes hm => exact .control hnone hother hcompletes (hm.relabel hφ)
  | other hms => exact .other (hms.relabel hφ)

theorem QueryPartial.relabel {effect : TxEffect} (h : QueryPartial effect ms) :
    QueryPartial effect (ms.map φ) := by
  rcases h with rfl | ⟨heffect, rest, hms⟩
  · exact .inl rfl
  · refine .inr ⟨heffect, rest.map φ, ?_⟩
    rw [← List.map_append]
    exact hms.relabel hφ

end Messages

section Replies

variable {effect : String → TxEffect} {s s' : Session} {f : Frontend} {ms : List RawMessage}

include hφ

theorem Success.relabel (h : Success effect s f ms s') : Success effect s f (ms.map φ) s' := by
  cases h with
  | parse returnsRows hm => exact .parse returnsRows (hm.relabel hφ)
  | bind hstmt hm => exact .bind hstmt (hm.relabel hφ)
  | describeStatement hstmt hp hc =>
    exact .describeStatement hstmt (hp.relabel hφ) (IsColumns.relabel hφ hc)
  | describePortal hstmt hc => exact .describePortal hstmt (IsColumns.relabel hφ hc)
  | complete hstmt hrows hcompletes hm =>
    rw [List.map_append]
    exact .complete hstmt (hrows.relabel hφ) hcompletes (hm.relabel hφ)
  | suspend hstmt hrows hreturns hmax hm =>
    rw [List.map_append]
    exact .suspend hstmt (hrows.relabel hφ) hreturns hmax (hm.relabel hφ)
  | emptyQuery hstmt hreturns hm => exact .emptyQuery hstmt hreturns (hm.relabel hφ)
  | closeStatement hm => exact .closeStatement (hm.relabel hφ)
  | closePortal hm => exact .closePortal (hm.relabel hφ)

theorem Partial.relabel (h : Partial s f ms) : Partial s f (ms.map φ) := by
  cases h with
  | nil => exact .nil
  | describeStatement hp => exact .describeStatement (hp.relabel hφ)
  | execute hstmt hrows => exact .execute hstmt (hrows.relabel hφ)

/-- A reply with other contents conforms. -/
theorem Conforms.relabel (h : Conforms effect s f ms s') : Conforms effect s f (ms.map φ) s' := by
  have hcopy {m : RawMessage} (h : m.type.isCopy = true) : (φ m).type.isCopy = true := by
    rw [hφ.type_eq]
    exact h
  cases h with
  | query hmode hms hz =>
    rw [List.map_append]
    exact .query hmode (hms.relabel hφ) (hz.relabel hφ)
  | queryError hmode hms hm hfatal hfails hz =>
    rw [List.map_append]
    exact .queryError hmode (hms.relabel hφ) (hm.relabel hφ) hfatal hfails (hz.relabel hφ)
  | queryFatal hmode hms hm hfatal =>
    rw [List.map_append]
    exact .queryFatal hmode (hms.relabel hφ) (hm.relabel hφ) hfatal
  | queryCopy hmode hms hm hcopying =>
    rw [List.map_append]
    exact .queryCopy hmode (hms.relabel hφ) (hcopy hm) hcopying
  | success hmode hms => exact .success hmode (hms.relabel hφ)
  | error hmode hf hms hm hfatal hfails =>
    rw [List.map_append]
    exact .error hmode hf (hms.relabel hφ) (hm.relabel hφ) hfatal hfails
  | fatal hmode hf hms hm hfatal =>
    rw [List.map_append]
    exact .fatal hmode hf (hms.relabel hφ) (hm.relabel hφ) hfatal
  | executeCopy hmode hm hcopying => exact .executeCopy hmode (hcopy hm) hcopying
  | sync hmode hz => exact .sync hmode (hz.relabel hφ)
  | syncError hmode hm hfatal hz =>
    exact .syncError hmode (hm.relabel hφ) hfatal (hz.relabel hφ)
  | syncFatal hmode hm hfatal => exact .syncFatal hmode (hm.relabel hφ) hfatal
  | resync hmode hz => exact .resync hmode (hz.relabel hφ)
  | discard hmode hf => exact .discard hmode hf
  | discardFatal hmode hm hfatal => exact .discardFatal hmode (hm.relabel hφ) hfatal
  | flush hmode => exact .flush hmode
  | terminate hmode => exact .terminate hmode
  | malformed hmode hm hfatal => exact .malformed hmode (hm.relabel hφ) hfatal
  | copying hmode hmode' => exact .copying hmode hmode'
  | closed hmode => exact .closed hmode

end Replies

namespace Peer

theorem relabel_conforms (P : Peer) (hφ : Relabels φ) (st : P.State) (f : Frontend) :
    Conforms P.effect (P.session st) f (core ((P.respond st f).1.map φ))
      (P.session (P.respond st f).2) := by
  rw [core_relabel hφ]
  exact (P.conforms st f).relabel hφ

theorem relabel_asyncs (P : Peer) (hφ : Relabels φ) (st : P.State) (f : Frontend) :
    ∀ m ∈ (P.respond st f).1.map φ, m.isAsync = true → m.wellFormed = true := by
  intro m hm hasync
  obtain ⟨m', hm', rfl⟩ := List.mem_map.mp hm
  rw [RawMessage.isAsync, hφ.type_eq] at hasync
  exact hφ.wellFormed m' (P.asyncs st f m' hm' hasync)

/-- The peer with other contents. -/
def relabel (P : Peer) (φ : RawMessage → RawMessage) (hφ : Relabels φ) : Peer :=
  { P with
    respond := fun st f => ((P.respond st f).1.map φ, (P.respond st f).2)
    conforms := P.relabel_conforms hφ
    asyncs := P.relabel_asyncs hφ }

theorem relabel_noCopy {P : Peer} (hP : P.NoCopy) (hφ : Relabels φ) : (P.relabel φ hφ).NoCopy :=
  hP

end Peer

/-- Every row description and every row with the same payload. -/
def contents (columns row : Bytes) (m : RawMessage) : RawMessage :=
  match m.type with
  | .rowDescription => ⟨.rowDescription, columns⟩
  | .dataRow => ⟨.dataRow, row⟩
  | _ => m

theorem relabels_contents {columns row : Bytes}
    (hcolumns : (RowDescription.parse columns).isOk = true)
    (hrow : (DataRow.parse row).isOk = true) : Relabels (contents columns row) where
  type_eq m := by
    unfold contents
    split
    · next h => exact h.symm
    · next h => exact h.symm
    · rfl
  wellFormed m h := by
    unfold contents
    split
    · exact hcolumns
    · exact hrow
    · exact h
  other m hcols hrow := by
    unfold contents
    split
    · next h => exact absurd h hcols
    · next h => exact absurd h hrow
    · rfl

end ZeroPostgres
