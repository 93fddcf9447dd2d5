import ZeroPostgres.Server.Session

/-!
# The statements a server keeps

A server keeps a statement under its name until the statement is closed, discarded or replaced.
`feed_statements` says that whatever it keeps under a name, but for the empty one, was put there by
a Parse that reached it. SQL's own PREPARE is not modelled.
-/

namespace ZeroPostgres

/-- The name and the query string of a Parse that names its statement. -/
def Frontend.named? : Frontend → Option (String × String)
  | .parse name sql _ => if name = "" then none else some (name, sql)
  | _ => none

theorem Frontend.named?_parse {name sql : String} {oids : List Oid} (h : name ≠ "") :
    (Frontend.parse name sql oids).named? = some (name, sql) := if_neg h

/-- The statements that messages ask for under a name. -/
def namedIn (fs : List Frontend) : List (String × String) := fs.filterMap Frontend.named?

theorem namedIn_append (fs gs : List Frontend) : namedIn (fs ++ gs) = namedIn fs ++ namedIn gs :=
  List.filterMap_append

theorem namedIn_cons_some {f : Frontend} {e : String × String} (fs : List Frontend)
    (h : f.named? = some e) : namedIn (f :: fs) = e :: namedIn fs := List.filterMap_cons_some h

/-- Completing a command adds no statement. -/
theorem Session.statements_of_completed {s : Session} {effect : TxEffect}
    {status : TransactionStatus} {name : String} {stmt : Statement}
    (h : (s.completed effect status).statements name = some stmt) :
    s.statements name = some stmt := by
  cases effect with
  | discard => cases h
  | _ => exact h

section Statements

variable {effect : String → TxEffect} {s s' : Session} {f : Frontend} {ms : List RawMessage}
  {name : String} {stmt : Statement}

/-- A message that succeeds adds the statement it names, if it names one. -/
theorem Success.statements (h : Success effect s f ms s') (hname : name ≠ "")
    (hs : s'.statements name = some stmt) :
    s.statements name = some stmt ∨ f.named? = some (name, stmt.sql) := by
  cases h with
  | @parse name' sql oids m returnsRows _ =>
    by_cases heq : name = name'
    · subst heq
      simp only [Function.update_self, Option.some.injEq] at hs
      subst hs
      exact .inr (Frontend.named?_parse hname)
    · simp only [Function.update_of_ne heq] at hs
      exact .inl hs
  | @closeStatement name' m _ =>
    by_cases heq : name = name'
    · subst heq
      simp only [Function.update_self] at hs
      cases hs
    · simp only [Function.update_of_ne heq] at hs
      exact .inl hs
  | complete => exact .inl (Session.statements_of_completed hs)
  | bind | describeStatement | describePortal | suspend | emptyQuery | closePortal =>
    exact .inl hs

/-- So does any message, outside COPY. -/
theorem Conforms.statements (h : Conforms effect s f ms s') (hm : s'.mode ≠ .copying)
    (hname : name ≠ "") (hs : s'.statements name = some stmt) :
    s.statements name = some stmt ∨ f.named? = some (name, stmt.sql) := by
  cases h with
  | query => exact .inl (Session.statements_of_completed hs)
  | success _ h => exact h.statements hname hs
  | queryCopy _ _ _ hcopy | executeCopy _ _ hcopy | copying _ hcopy => exact absurd hcopy hm
  | queryError | queryFatal | error | fatal | sync | syncError | syncFatal | resync | discard
  | discardFatal | flush | terminate | malformed | closed => exact .inl hs

end Statements

/-- After some messages a server keeps under a name what it kept before or what one of them asked
for under that name. The induction is on the messages. -/
theorem feed_statements {P : Peer} (hP : P.NoCopy) {st : P.State} (fs : List Frontend)
    (hm : (P.session st).mode ≠ .copying) {name : String} (hname : name ≠ "") {stmt : Statement}
    (hs : (P.session (P.feed st fs).2).statements name = some stmt) :
    (P.session st).statements name = some stmt ∨ (name, stmt.sql) ∈ namedIn fs := by
  induction fs generalizing st with
  | nil => exact .inl hs
  | cons f fs ih =>
    have hm' := hP st f hm
    rw [P.feed_cons] at hs
    rcases ih hm' hs with hkept | hmem
    · rcases (P.conforms st f).statements hm' hname hkept with hbefore | hf
      · exact .inl hbefore
      · exact .inr (by rw [namedIn_cons_some fs hf]; exact List.mem_cons_self)
    · refine .inr ?_
      unfold namedIn at hmem ⊢
      rw [List.filterMap_cons]
      split
      · exact hmem
      · exact List.mem_cons_of_mem _ hmem

/-- The record of some messages has them in order. -/
theorem exchanges_messages (P : Peer) (st : P.State) (fs : List Frontend) :
    (P.exchanges st fs).map Prod.fst = fs := by
  induction fs generalizing st with
  | nil => rfl
  | cons f fs ih => rw [Peer.exchanges, List.map_cons, ih]

end ZeroPostgres
