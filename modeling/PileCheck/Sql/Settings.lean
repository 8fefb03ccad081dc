import PileCheck.Sql.Backoff
import PileCheck.Sql.Endpoint

/-!
How the store is set up.
-/
namespace PileCheck.Sql

/-- The size of a pool. -/
structure Limits where
  maxSize : Nat := 10
  /-- Connections opened ahead of demand. -/
  minIdle : Nat := 2
  acquireTimeoutMs : Nat := 3000
  deriving DecidableEq, Repr

structure Behavior where
  readFromReplicas : Bool := true
  /-- Statements that take this long or longer are counted as slow. -/
  slowMs : Nat := 200
  deriving DecidableEq, Repr

structure Settings where
  master : Endpoint := {}
  replicas : List Endpoint := []
  pool : Limits := {}
  retry : Backoff := {}
  behavior : Behavior := {}
  deriving Repr

end PileCheck.Sql
