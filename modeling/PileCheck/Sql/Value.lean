import PileCheck.Decimal.Layout
import PileCheck.Json.Basic
import PileCheck.Text.Blank
import PileCheck.Text.Letter

/-!
Statement parameters and result rows.

Every cell of a row is text or absent, whatever the server's column type; the typed readings trim
it and fall back to a default.
-/
namespace PileCheck.Sql

inductive Value where
  | null
  | int (n : Int)
  | float (x : Float)
  | text (s : String)
  deriving Repr, BEq

namespace Value

def bool (b : Bool) : Value := .int (if b then 1 else 0)

def optional : Option Value → Value
  | some v => v
  | none => null

def ofText? (s : Option String) : Value := optional (s.map text)

def json : Value → Json
  | null => .text "Null"
  | int n => .ofMembers [("Int", Json.int n)]
  | float x => .ofMembers [("Float", Json.float x)]
  | text s => .ofMembers [("Text", .text s)]

/-- What a cell that holds the value reads as. -/
def cellText : Value → Option String
  | null => none
  | int n => some (Numeral.ofInt n)
  | float x => some (Decimal.Layout.cell.render x)
  | text s => some s

end Value

/-- Columns and their cells; of two columns of one name the later counts. -/
structure Row where
  cells : List (String × Option String)
  deriving DecidableEq, Repr

namespace Row

def empty : Row := ⟨[]⟩

def put (r : Row) (column : String) (cell : Option String) : Row := ⟨(column, cell) :: r.cells⟩

def ofList (cells : List (String × Option String)) : Row :=
  cells.foldl (fun r c => r.put c.1 c.2) empty

def contains (r : Row) (column : String) : Bool := (r.cells.lookup column).isSome

/-- The cell's text, empty or not; absent for a missing column and for null. -/
def cell? (r : Row) (column : String) : Option String := (r.cells.lookup column).join

def trimmed? (r : Row) (column : String) : Option (List Char) :=
  (r.cell? column).map fun s => Text.trimChars s.toList

def getInt (r : Row) (column : String) (default : Int) : Int :=
  ((r.trimmed? column).bind Numeral.int32?).getD default

def getInt64 (r : Row) (column : String) (default : Int) : Int :=
  ((r.trimmed? column).bind Numeral.int64?).getD default

def getText (r : Row) (column : String) : String := (r.cell? column).getD ""

/-- An empty cell reads like an absent one. -/
def getText? (r : Row) (column : String) : Option String := (r.cell? column).filter (· ≠ "")

/-- `1`, `true` and `y` against `0`, `false` and `n`, in any case. -/
def getBool (r : Row) (column : String) (default : Bool) : Bool :=
  match (r.trimmed? column).map fun cs => Text.lowerAscii (String.ofList cs) with
  | none => default
  | some word =>
    if word = "1" ∨ word = "true" ∨ word = "y" then true
    else if word = "0" ∨ word = "false" ∨ word = "n" then false
    else default

end Row
end PileCheck.Sql
