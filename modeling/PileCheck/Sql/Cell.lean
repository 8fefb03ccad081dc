import PileCheck.Failure
import PileCheck.Sql.Value

/-!
Columns of a server's answer.

A server sends values, and bytes that are no text. A row is made of texts, so bytes cannot be read:
the first column that holds them is named in the failure.
-/
namespace PileCheck.Sql

inductive Cell where
  | value (v : Value)
  | bytes (b : List UInt8)
  deriving Repr, BEq

namespace Cell

def text? (position : Nat) : Cell → Except StoreFailure (Option String)
  | value v => .ok v.cellText
  | bytes _ =>
    .error (.rowMapping ("column " ++ Numeral.ofNat position ++ " has an unsupported type"))

/-- The cells of a row, from a column on. -/
def textsFrom (position : Nat) :
    List (String × Cell) → Except StoreFailure (List (String × Option String))
  | [] => .ok []
  | (name, c) :: rest => do
    let text ← c.text? position
    let texts ← textsFrom (position + 1) rest
    return (name, text) :: texts

end Cell

/-- Reads a row column by column. -/
def Row.ofCells (columns : List (String × Cell)) : Except StoreFailure Row :=
  (Cell.textsFrom 0 columns).map ofList

end PileCheck.Sql
