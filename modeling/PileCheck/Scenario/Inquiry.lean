import PileCheck.Device.Row
import PileCheck.Record.Stored
import PileCheck.Scenario.Database

/-!
What the store may be asked, and what comes of it.
-/
namespace PileCheck.Scenario

inductive Inquiry where
  /-- The texts of one column of a read. -/
  | query (sql : String) (params : List Sql.Value) (preferReplica : Bool) (column : String)
  | update (sql : String) (params : List Sql.Value)
  | ping
  | createTable
  | insert (r : Record)
  | recent (equipNo : String) (limit : Nat)
  | loadPiles

inductive Finding where
  | texts (l : List (Option String))
  | count (n : Nat)
  | done
  | records (l : List Record)
  | devices (l : List Device)
  | failed (f : StoreFailure)
  /-- It never came to an end. -/
  | nothing

/-- What comes of a call that answers nothing. -/
def Finding.ofFailure : Option StoreFailure → Finding
  | none => .done
  | some f => .failed f

namespace Inquiry

/-- The same, with a record whose time of creation does not matter. -/
def undated : Inquiry → Inquiry
  | insert r => insert { r with createdAt := "<time>" }
  | q => q

def column (sql : String) (params : List Sql.Value) (preferReplica : Bool) (column : String) :
    Sql.Request (List (Option String)) :=
  .query sql params preferReplica fun rows => .ok (rows.map fun r => r.getText? column)

def request {α : Type} (r : Sql.Request α) : Database.Errand :=
  .statement r.statement r.preferReplica

def errand : Inquiry → Database.Errand
  | query sql params preferReplica c => request (column sql params preferReplica c)
  | update sql params => request (.update sql params)
  | ping => .ping
  | createTable => request Record.creation
  | insert r => request r.insertion
  | recent equipNo limit => request (Record.recent equipNo limit)
  | loadPiles => request Device.piles

def read {α : Type} (r : Sql.Request α) (found : α → Finding) (a : Sql.Answer) : Finding :=
  match r.outcome a with
  | .ok x => found x
  | .error f => .failed f

def answered (a : Sql.Answer) : Inquiry → Finding
  | query sql params preferReplica c => read (column sql params preferReplica c) .texts a
  | update sql params => read (.update sql params) .count a
  | ping => .nothing
  | createTable => read Record.creation (fun _ => .done) a
  | insert r => read r.insertion .count a
  | recent equipNo limit => read (Record.recent equipNo limit) .records a
  | loadPiles => read Device.piles .devices a

def finding (q : Inquiry) : Option Database.Result → Finding
  | some (.answered a) => q.answered a
  | some (.done failure) => .ofFailure failure
  | none => .nothing

end Inquiry
end PileCheck.Scenario
