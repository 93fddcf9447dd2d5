import ZeroPostgres.Conn.Talk

/-!
# Transactions and named portals

`src/src/sync/transaction.rs`, `src/src/sync/named_portal.rs` and `Conn::transaction`; the
asynchronous client has the same code. `transaction` runs a closure between `beginTransaction` and
`endTransaction`, its parts before and after the call of the closure.
-/

namespace ZeroPostgres

/-- `struct Transaction`, `src/src/sync/transaction.rs:13–15`. -/
structure Transaction where
  connectionId : UInt32
deriving DecidableEq, Repr

/-- `struct NamedPortal`, `src/src/sync/named_portal.rs:31–35`. -/
structure NamedPortal where
  name : String
  complete : Bool
deriving DecidableEq, Repr

namespace Conn

open Act

variable {P : Peer} {K α : Type} [Driver K]

omit [Driver K] in
/-- The check that a transaction is used with its own connection,
`src/src/sync/transaction.rs:33–39`. -/
def checkTransaction (tx : Transaction) : Act Error (Conn P K) Unit := do
  let c ← Act.get
  if tx.connectionId ≠ c.connectionId then
    Act.fail (.invalidUsage ("connection mismatch: expected " ++ toString tx.connectionId ++
      ", got " ++ toString c.connectionId))
  else return ()

/-- `commit`, `src/src/sync/transaction.rs:32–42`. -/
def commit (tx : Transaction) : Act Error (Conn P K) Unit := do
  checkTransaction tx
  let _ ← queryDrop "COMMIT"
  return ()

/-- `rollback`, `src/src/sync/transaction.rs:53–63`. -/
def rollback (tx : Transaction) : Act Error (Conn P K) Unit := do
  checkTransaction tx
  let _ ← queryDrop "ROLLBACK"
  return ()

/-- `exec_portal_named`, `src/src/sync/transaction.rs:93–118`. -/
def execPortalNamed (tx : Transaction) (statement : StatementRef) (params : Params) :
    Act Error (Conn P K) NamedPortal := do
  checkTransaction tx
  let name ← nextPortalName
  markBroken (createNamedPortal name statement params)
  return ⟨name, false⟩

/-- `NamedPortal::exec`, `src/src/sync/named_portal.rs:61–70`; the calls made to the handler are
returned. -/
def execNamed (portal : NamedPortal) (maxRows : Nat) (handler : Handler) :
    Act Error (Conn P K) (NamedPortal × List Callback) := do
  let (hasMore, calls) ← lowlevelExecute portal.name maxRows handler
  return ({ portal with complete := !hasMore }, calls)

/-- `NamedPortal::close`, `src/src/sync/named_portal.rs:101–104`, with the client's own
`lowlevel_sync`. -/
def closeNamed (lowlevelSync : Act Error (Conn P K) Unit) (portal : NamedPortal) :
    Act Error (Conn P K) Unit := do
  lowlevelClosePortal portal.name
  lowlevelSync

/-- `transaction` before its closure, `src/src/sync/conn.rs:935–943`. -/
def beginTransaction : Act Error (Conn P K) Transaction := do
  let c ← Act.get
  if c.inTransaction then Act.fail (.invalidUsage "nested transactions are not supported")
  else do
    let _ ← queryDrop "BEGIN"
    let c ← Act.get
    return ⟨c.connectionId⟩

/-- `transaction` after its closure, `src/src/sync/conn.rs:946–961`. -/
def endTransaction (result : Except Error α) : Act Error (Conn P K) α := do
  let c ← Act.get
  if c.inTransaction then
    match result with
    | .ok a => do
      let _ ← queryDrop "COMMIT"
      return a
    | .error e => do
      let _ ← Act.attempt (queryDrop "ROLLBACK")
      Act.fail e
  else Act.ofExcept result

/-- `transaction`, `src/src/sync/conn.rs:931–962`. -/
def transaction (f : Transaction → Act Error (Conn P K) α) : Act Error (Conn P K) α := do
  let tx ← beginTransaction
  let result ← Act.attempt (f tx)
  endTransaction result

/-! ### What they send and read -/

omit [Driver K] in
theorem checkTransaction_mute (tx : Transaction) :
    Keeps Mute (checkTransaction tx : Act Error (Conn P K) Unit) := by
  refine keeps_get.bind fun c => ?_
  split
  · exact keeps_fail _
  · exact keeps_pure _

section Driven

variable {R : Conn P K → Conn P K → Prop} [KeptByDrive R]

theorem commit_keeps (tx : Transaction) : Keeps R (commit tx : Act Error (Conn P K) Unit) :=
  (mute_keeps (checkTransaction_mute tx)).bind fun _ => (queryDrop_keeps _).bind fun _ =>
    keeps_pure _

theorem rollback_keeps (tx : Transaction) : Keeps R (rollback tx : Act Error (Conn P K) Unit) :=
  (mute_keeps (checkTransaction_mute tx)).bind fun _ => (queryDrop_keeps _).bind fun _ =>
    keeps_pure _

theorem beginTransaction_keeps :
    Keeps R (beginTransaction : Act Error (Conn P K) Transaction) := by
  refine keeps_get.bind fun c => ?_
  split
  · exact keeps_fail _
  · exact (queryDrop_keeps _).bind fun _ => keeps_get.bind fun _ => keeps_pure _

theorem endTransaction_keeps (result : Except Error α) :
    Keeps R (endTransaction result : Act Error (Conn P K) α) := by
  refine keeps_get.bind fun c => ?_
  split
  · cases result with
    | ok a => exact (queryDrop_keeps _).bind fun _ => keeps_pure _
    | error e => exact (queryDrop_keeps _).attempt.bind fun _ => keeps_fail _
  · exact keeps_ofExcept _

end Driven

theorem beginTransaction_talks :
    Keeps Talks (beginTransaction : Act Error (Conn P K) Transaction) := beginTransaction_keeps

theorem execPortalNamed_unheard (tx : Transaction) (statement : StatementRef) (params : Params) :
    Keeps Unheard (execPortalNamed tx statement params : Act Error (Conn P K) NamedPortal) := by
  have hname : Keeps Unheard (nextPortalName : Act Error (Conn P K) String) :=
    (addNames_unheard 1).bind fun _ => keeps_get.bind fun _ => keeps_pure _
  exact (mute_unheard (checkTransaction_mute tx)).bind fun _ => hname.bind fun _ =>
    (markBroken_keeps (fun _ _ => Mute.unheard) (createNamedPortal_unheard _ _ _)).bind fun _ =>
      keeps_pure _

theorem execNamed_unheard (portal : NamedPortal) (maxRows : Nat) (handler : Handler) :
    Keeps Unheard (execNamed portal maxRows handler :
      Act Error (Conn P K) (NamedPortal × List Callback)) :=
  (lowlevelExecute_unheard _ _ _).bind fun _ => keeps_pure _

theorem closeNamed_unheard {lowlevelSync : Act Error (Conn P K) Unit}
    (hsync : Keeps Unheard lowlevelSync) (portal : NamedPortal) :
    Keeps Unheard (closeNamed lowlevelSync portal) :=
  (lowlevelClosePortal_unheard _).bind fun _ => hsync

end Conn

end ZeroPostgres
