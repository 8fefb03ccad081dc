import PileCheck.Settings.Source
import PileCheck.Sql.Value

/-!
Values read back from documents.

Null is a word of its own; every other value stands under the word for its kind.
-/
namespace PileCheck.Sql.Value

open Settings (Source)

def ofSource? : Source → Option Value
  | .text word => if word = "Null" then some null else none
  | .table _ [(kind, v)] =>
    if kind = "Null" then if v.isBare then some null else none
    else if kind = "Int" then
      match v with
      | .int n => if Numeral.fitsInt64 n then some (int n) else none
      | _ => none
    else if kind = "Float" then v.float?.map float
    else if kind = "Text" then v.text?.map text
    else none
  | _ => none

end PileCheck.Sql.Value
