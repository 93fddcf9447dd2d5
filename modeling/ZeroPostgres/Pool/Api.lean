import ZeroPostgres.Conn.Operations

/-!
# Connections in a pool

What both pools use of a connection, `src/src/sync/pool.rs` and `src/src/tokio/pool.rs`. The
pools themselves are modelled over any such connections.
-/

namespace ZeroPostgres

/-- What a pool uses of its connections `C`; `Op` is what their holders do with them. -/
structure ConnApi (C Op : Type) where
  isBroken : C → Bool
  ping : C → Outcome Error Unit × C
  discardAll : C → Outcome Error Unit × C
  use : Op → C → C

/-- `query_drop("DISCARD ALL")` as `check_in` calls it, `src/src/tokio/pool.rs:68`. -/
def Conn.discardAll {P : Peer} {K : Type} [Driver K] : Act Error (Conn P K) Unit := do
  let _ ← Conn.queryDrop "DISCARD ALL"
  return ()

/-- A connection to `P` in a pool, with `use` for what its holders do. -/
def Conn.api {P : Peer} {K Op : Type} [Driver K] (use : Op → Conn P K → Conn P K) :
    ConnApi (Conn P K) Op where
  isBroken := Conn.isBroken
  ping := Conn.ping
  discardAll := Conn.discardAll
  use := use

end ZeroPostgres
