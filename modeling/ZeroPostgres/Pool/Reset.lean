import ZeroPostgres.Conn.Query
import ZeroPostgres.Conn.Sync
import ZeroPostgres.Conn.Tokio
import ZeroPostgres.Pool.Api

/-!
# Resetting a connection

What DISCARD ALL and `ping` do to a connection on which nothing waits. Both pools send the one
when a connection comes back and the other when they hand it out again.
-/

namespace ZeroPostgres

/-- An exchange that begins and ends leaves `is_broken()` as it was. -/
class LawfulDriver (K : Type) [Driver K] : Prop where
  isBroken_ended : ∀ (broken : Bool) (k : K), Driver.isBroken broken k = false →
    Driver.isBroken broken (Driver.finishFlags (Driver.beginFlags k)) = false

instance : LawfulDriver SyncFlags := ⟨fun _ _ h => h⟩

instance : LawfulDriver TokioFlags where
  isBroken_ended broken k h := by
    simp only [Driver.isBroken, Driver.beginFlags, Driver.finishFlags, Bool.or_eq_false_iff] at h ⊢
    exact ⟨⟨h.1.1, trivial⟩, h.2⟩

namespace Conn

open Act

variable {P : Peer} {K : Type} [Driver K]

/-- The connection is as a new one: usable, nothing waits on it, and the server is outside of a
transaction and knows no statements or portals. -/
structure Clean (c : Conn P K) : Prop where
  isBroken : c.isBroken = false
  unread : c.unread = []
  mode : c.session.mode = .ready
  idle : c.session.status = .idle
  status : c.transactionStatus = .idle
  statements : c.session.statements = fun _ => none
  portals : c.session.portals = fun _ => none

/-- Between `c₀` and `c` lies one exchange: DISCARD ALL was sent, answered with success and read
through its ReadyForQuery. -/
structure Discarded (c₀ c : Conn P K) : Prop where
  exchange : ∃ reply m z, c.stream.log = c₀.stream.log ++ [(.query "DISCARD ALL", reply)] ∧
    core reply = [m, z] ∧ IsComplete "DISCARD ALL" m ∧ IsReady .idle z ∧
    core c.stream.received = core c₀.stream.received ++ [m, z]
  clean : Clean c

section

variable [LawfulDriver K]

/-- Ending an exchange that began leaves a usable connection usable. -/
private theorem isBroken_ended {c c' : Conn P K} (h : c'.marks = ended (begun c.marks))
    (hb : c.isBroken = false) : c'.isBroken = false := by
  obtain ⟨hbroken, hflags⟩ := Prod.mk.inj h
  unfold isBroken at hb ⊢
  rw [hbroken, hflags]
  exact LawfulDriver.isBroken_ended _ _ hb

/-- DISCARD ALL succeeds outside of a transaction only, and drops what the session holds. -/
theorem discarded_of_succeeded {c₀ c : Conn P K} (h : Succeeded "DISCARD ALL" c₀ c)
    (hb : c₀.isBroken = false) : Discarded c₀ c := by
  obtain ⟨reply, ms, status, z, hlog, hcore, hsucc, hz, hread, hsession, hstatus⟩ := h.answered
  rw [P.effect_discard] at hsucc hsession
  generalize hs : c₀.session.status = before at hsucc
  cases hsucc with
  | @control _ _ tag _ m _ _ hcomplete hm =>
    cases hcomplete with
    | discard =>
      refine ⟨⟨reply, m, z, hlog, hcore, hm, hz, ?_⟩, isBroken_ended h.marks hb, h.unread, h.mode,
        ?_, hstatus, ?_, ?_⟩
      · rw [hread, hcore]
        rfl
      · rw [hsession, Session.completed_status]
      · rw [hsession]; rfl
      · rw [hsession]; rfl

/-- The empty query changes nothing. -/
theorem clean_of_succeeded {c c' : Conn P K} (h : Succeeded "" c c') (hc : Clean c) : Clean c' := by
  obtain ⟨reply, ms, status, z, -, -, hsucc, -, -, hsession, hstatus⟩ := h.answered
  rw [P.effect_empty] at hsucc hsession
  have hsame : status = .idle := by
    rw [hc.idle] at hsucc
    generalize heff : TxEffect.none = effect at hsucc
    cases hsucc with
    | empty => rfl
    | results => rfl
    | control hne => exact absurd heff.symm hne
    | other => cases heff
  subst hsame
  refine ⟨isBroken_ended h.marks hc.isBroken, h.unread, h.mode, ?_, hstatus, ?_, ?_⟩
  · rw [hsession, Session.completed_status]
  · rw [hsession]
    exact hc.statements
  · rw [hsession]
    exact hc.portals

/-- DISCARD ALL on a connection on which nothing waits. -/
theorem discarded_of_discardAll (hP : P.NoCopy) {c₀ c : Conn P K} (hr : c₀.Regular)
    (hb : c₀.isBroken = false) (hu : c₀.unread = []) (h : discardAll c₀ = (.ok (), c)) :
    Discarded c₀ c := by
  obtain ⟨calls, hquery⟩ : ∃ calls, queryDrop "DISCARD ALL" c₀ = (.ok calls, c) := Act.map_ok h
  exact discarded_of_succeeded (queryDrop_ok hP hr hu hquery) hb

/-- A ping of a clean connection leaves it clean. -/
theorem clean_of_ping (hP : P.NoCopy) {c c' : Conn P K} (hr : c.Regular) (hc : Clean c)
    (h : ping c = (.ok (), c')) : Clean c' := by
  obtain ⟨calls, hquery⟩ : ∃ calls, queryDrop "" c = (.ok calls, c') := Act.map_ok h
  exact clean_of_succeeded (queryDrop_ok hP hr hc.unread hquery) hc

end

theorem discardAll_talks : Keeps Talks (discardAll : Act Error (Conn P K) Unit) :=
  (queryDrop_talks "DISCARD ALL").bind fun _ => keeps_pure _

end Conn

end ZeroPostgres
