import PileCheck.Sql.Store

/-!
What a statement is run for.

A `Request` is a statement together with the reading of what it yields.
-/
namespace PileCheck.Sql

structure Request (α : Type) where
  statement : Statement
  preferReplica : Bool
  read : Yield → Except StoreFailure α

namespace Request

variable {α : Type}

/-- A read, whose rows are then read in their turn. -/
def query (sql : String) (params : List Value) (preferReplica : Bool)
    (read : List Row → Except StoreFailure α) : Request α where
  statement := ⟨.query, sql, params⟩
  preferReplica
  read
    | .rows rows => read rows
    | .affected _ => .error (.rowMapping "query returned no row set")

/-- A write, which counts rows. -/
def update (sql : String) (params : List Value) : Request Nat where
  statement := ⟨.update, sql, params⟩
  preferReplica := false
  read
    | .affected n => .ok n
    | .rows rows => .ok rows.length

def outcome (r : Request α) (a : Answer) : Except StoreFailure α := a.bind r.read

end Request
end PileCheck.Sql
