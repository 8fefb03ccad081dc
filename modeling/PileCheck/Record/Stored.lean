import PileCheck.Record.Row
import PileCheck.Sql.Request

/-!
Records in the store.
-/
namespace PileCheck.Record

def creation : Sql.Request Nat := .update createStatement []

/-- Appends a record. -/
def insertion (r : Record) : Sql.Request Nat := .update insertStatement r.parameters

/-- The latest records of a device, the newest first; one that cannot be read spoils them all. -/
def recent (equipNo : String) (limit : Nat) : Sql.Request (List Record) :=
  .query recentStatement (recentParameters equipNo limit) true fun rows => rows.mapM ofRow

end PileCheck.Record
