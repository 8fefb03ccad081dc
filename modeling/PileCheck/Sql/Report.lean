import PileCheck.Json.Basic
import PileCheck.Sql.Store

/-!
The store's own figures, as documents.
-/
namespace PileCheck.Sql

def Pool.report (p : Pool) : Json :=
  .ofMembers [("role", .text p.role.word), ("idle", Json.nat p.idle.length),
    ("in_use", Json.nat p.inUse), ("total", Json.nat p.total), ("max", Json.nat p.limits.maxSize),
    ("created", Json.nat p.created), ("discarded", Json.nat p.discarded)]

def Store.report (s : Store) : Json :=
  .ofMembers [("master", s.master.report),
    ("replica", match s.replica with
      | some p => p.report
      | none => .null),
    ("statements", Json.nat s.statements), ("slow_statements", Json.nat s.slowStatements)]

end PileCheck.Sql
