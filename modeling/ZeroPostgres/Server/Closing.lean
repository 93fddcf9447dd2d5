import ZeroPostgres.Server.Boundary
import ZeroPostgres.Server.Reference

/-!
# Servers that end the session

`Peer.closingOn` is a server that answers some Queries and Executes with a fatal error in place of
what the given server says. Where it closes at the messages that start a COPY it starts none, and
it says the same as the given server as long as that is in no COPY (`feed_copyFree`). A fact about
servers that start no COPY so holds of every exchange at whose end there is none.
-/

namespace ZeroPostgres

variable {P : Peer}

namespace Peer

/-- The server of the pair ends the session on this message. -/
def closesOn (P : Peer) (closes : P.State → Frontend → Bool) (st : P.State) (f : Frontend) : Bool :=
  decide ((P.session st).mode = .ready) && f.executes && closes st f

/-- The session of a server that has ended it, when the flag says so. -/
def closingSession (P : Peer) (st : P.State × Bool) : Session :=
  if st.2 then { P.session st.1 with mode := .closed } else P.session st.1

def closingRespond (P : Peer) (closes : P.State → Frontend → Bool) (st : P.State × Bool)
    (f : Frontend) : List RawMessage × (P.State × Bool) :=
  if st.2 then ([], st)
  else if P.closesOn closes st.1 f then ([Reference.fatal], (st.1, true))
  else ((P.respond st.1 f).1, ((P.respond st.1 f).2, false))

theorem closing_conforms (P : Peer) (closes : P.State → Frontend → Bool) (st : P.State × Bool)
    (f : Frontend) : Conforms P.effect (P.closingSession st) f
      (core (P.closingRespond closes st f).1)
      (P.closingSession (P.closingRespond closes st f).2) := by
  have hfatal : IsError (Reference.serverError "FATAL") Reference.fatal := by decide
  have hsevere : (Reference.serverError "FATAL").isFatal = true := by decide
  obtain ⟨st, ended⟩ := st
  cases ended with
  | true => exact .closed rfl
  | false =>
    by_cases h : P.closesOn closes st f = true
    · have hrun : P.closingRespond closes (st, false) f = ([Reference.fatal], (st, true)) := by
        simp [closingRespond, h]
      rw [hrun]
      simp only [closesOn, Bool.and_eq_true, decide_eq_true_eq] at h
      obtain ⟨⟨hready, hexec⟩, -⟩ := h
      cases f with
      | query sql =>
        show Conforms _ _ _ ([] ++ [Reference.fatal]) _
        exact .queryFatal hready (.inl rfl) hfatal hsevere
      | execute portal maxRows =>
        show Conforms _ _ _ ([] ++ [Reference.fatal]) _
        exact .fatal hready rfl .nil hfatal hsevere
      | _ => cases hexec
    · have hrun : P.closingRespond closes (st, false) f =
          ((P.respond st f).1, ((P.respond st f).2, false)) := by
        simp [closingRespond, h]
      rw [hrun]
      exact P.conforms st f

/-- A server that ends the session at some of the messages that execute a statement. -/
def closingOn (P : Peer) (closes : P.State → Frontend → Bool) : Peer where
  State := P.State × Bool
  session := P.closingSession
  effect := P.effect
  respond := P.closingRespond closes
  effect_empty := P.effect_empty
  effect_begin := P.effect_begin
  effect_commit := P.effect_commit
  effect_rollback := P.effect_rollback
  effect_discard := P.effect_discard
  conforms := P.closing_conforms closes
  asyncs st f m hm hasync := by
    obtain ⟨st, ended⟩ := st
    cases ended with
    | true => cases hm
    | false =>
      by_cases h : P.closesOn closes st f = true
      · simp only [closingRespond, h, if_true, Bool.false_eq_true, if_false,
          List.mem_singleton] at hm
        subst hm
        cases hasync
      · simp only [closingRespond, h, Bool.false_eq_true, if_false] at hm
        exact P.asyncs st f m hm hasync

/-- The server that ends the session where the given one starts a COPY. -/
def copyFree (P : Peer) : Peer :=
  P.closingOn fun st f => decide ((P.session (P.respond st f).2).mode = .copying)

/-- The state of that server, as long as the session has not ended. -/
def opened (P : Peer) (st : P.State) : P.copyFree.State := (st, false)

end Peer

/-- A COPY starts in a session that is ready. -/
theorem ready_of_copying {st : P.State} {f : Frontend} (hc : (P.session st).mode ≠ .copying)
    (hcopy : (P.session (P.respond st f).2).mode = .copying) : (P.session st).mode = .ready := by
  have h := P.conforms st f
  generalize core (P.respond st f).1 = r at h
  generalize P.session (P.respond st f).2 = s' at h hcopy
  cases h with
  | queryCopy hm | executeCopy hm | success hm => exact hm
  | query hm | queryError hm | sync hm | syncError hm => exact hm
  | discard | flush => exact absurd hcopy hc
  | copying hm => exact absurd hm hc
  | closed => exact absurd hcopy hc
  | _ => cases hcopy

/-- The messages that start a COPY are those at which the session ends. -/
theorem closesOn_of_copying {st : P.State} {f : Frontend} (hc : (P.session st).mode ≠ .copying)
    (hcopy : (P.session (P.respond st f).2).mode = .copying) :
    P.closesOn (fun st f => decide ((P.session (P.respond st f).2).mode = .copying)) st f =
      true := by
  have hexec : f.executes = true := by
    rcases (respond_copying hc hcopy).1 with ⟨sql, rfl⟩ | ⟨portal, maxRows, rfl⟩ <;> rfl
  simp [Peer.closesOn, ready_of_copying hc hcopy, hexec, hcopy]

theorem copyFree_noCopy (P : Peer) : P.copyFree.NoCopy := by
  rintro ⟨st, ended⟩ f hc
  change (P.closingSession (P.closingRespond _ (st, ended) f).2).mode ≠ .copying
  cases ended with
  | true => simp [Peer.closingRespond, Peer.closingSession]
  | false =>
    have hc' : (P.session st).mode ≠ .copying := hc
    unfold Peer.closingRespond
    rw [if_neg (by simp)]
    split
    · simp [Peer.closingSession]
    · next h =>
      intro hcopy
      exact h (closesOn_of_copying hc' hcopy)

theorem session_opened (st : P.State) : P.copyFree.session (P.opened st) = P.session st := rfl

/-- The server without COPY says what the given one says, as long as that is in no COPY. -/
theorem feed_copyFree {st : P.State} {fs : List Frontend}
    (h : (P.session (P.feed st fs).2).mode ≠ .copying) :
    P.copyFree.feed (P.opened st) fs = ((P.feed st fs).1, P.opened (P.feed st fs).2) := by
  induction fs generalizing st with
  | nil => rfl
  | cons f fs ih =>
    have hnext : (P.session (P.respond st f).2).mode ≠ .copying :=
      fun hcopy => h (feed_copying fs hcopy)
    have hrun : P.copyFree.respond (P.opened st) f =
        ((P.respond st f).1, P.opened (P.respond st f).2) := by
      change P.closingRespond _ (st, false) f = ((P.respond st f).1, ((P.respond st f).2, false))
      simp [Peer.closingRespond, Peer.closesOn, hnext]
    rw [P.copyFree.feed_cons, hrun]
    dsimp only
    rw [ih h]
    rfl

end ZeroPostgres
