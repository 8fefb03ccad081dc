import PileCheck.Sql.Cell

/-!
A table in a server's memory.

It is created once, filled row by row and read back in order of insertion; an update and a deletion
without a condition reach every row.
-/
namespace PileCheck.Scenario

structure Sheet where
  columns : List String
  rows : List (List Sql.Value) := []

namespace Sheet

/-- Creates a table; a second one of the same name is refused. -/
def create (columns : List String) : Option Sheet → Except StoreFailure Sheet
  | none => .ok { columns }
  | some _ => .error (.permanent "table already exists")

/-- A value as a table keeps it: a zero without its sign. -/
def kept : Sql.Value → Sql.Value
  | .float x => .float (if x == 0 then 0 else x)
  | v => v

def insert (s : Sheet) (row : List Sql.Value) : Sheet × Nat :=
  ({ s with rows := s.rows ++ [row.map kept] }, 1)

def select (s : Sheet) : Except StoreFailure (List Sql.Row) :=
  s.rows.mapM fun row => Sql.Row.ofCells (s.columns.zip (row.map .value))

def update (s : Sheet) (v : Sql.Value) : Sheet × Nat :=
  ({ s with rows := s.rows.map fun row => v :: row.tail }, s.rows.length)

def delete (s : Sheet) : Sheet × Nat := ({ s with rows := [] }, s.rows.length)

end Sheet
end PileCheck.Scenario
