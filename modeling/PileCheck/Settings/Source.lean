import PileCheck.Json.Basic
import PileCheck.Numeral

/-!
Where settings come from.

A setting is a value of a configuration file or of a document. A section names its fields, or lists
them in order; what is missing keeps its default. A file is read loosely: a list may be longer than
its section. A document is not.
-/
namespace PileCheck.Settings

inductive Source where
  | null
  | bool (b : Bool)
  | int (n : Int)
  | float (x : Float)
  | text (s : String)
  /-- A date or a time. -/
  | moment
  | list (loose : Bool) (items : List Source)
  | table (loose : Bool) (entries : List (String × Source))
  deriving Inhabited

namespace Source

mutual

def ofJson : Json → Source
  | .null => .null
  | .bool b => .bool b
  | .number (.int n) => .int n
  | .number (.float x) => .float x
  | .text s => .text s
  | .list items => .list false (ofItems items)
  | .object members => .table false (ofMembers members)

def ofItems : List Json → List Source
  | [] => []
  | v :: rest => ofJson v :: ofItems rest

def ofMembers : List (String × Json) → List (String × Source)
  | [] => []
  | (name, v) :: rest => (name, ofJson v) :: ofMembers rest

end

/-! ## Single values -/

def bool? : Source → Option Bool
  | .bool b => some b
  | _ => none

def text? : Source → Option String
  | .text s => some s
  | _ => none

/-- A whole number from zero to a limit. -/
def nat? (limit : Nat) : Source → Option Nat
  | .int n => if 0 ≤ n ∧ n ≤ limit then some n.toNat else none
  | _ => none

def float? : Source → Option Float
  | .float x => some x
  | .int n => some (Float.ofInt n)
  | _ => none

/-- An absent value is written as null. -/
def optional? {α : Type} (read : Source → Option α) : Source → Option (Option α)
  | .null => some none
  | s => (read s).map some

def listOf? {α : Type} (read : Source → Option α) : Source → Option (List α)
  | .list _ items => items.mapM read
  | _ => none

/-- Nothing more to be said under a word: null in a document, an empty list or table in a file. -/
def isBare : Source → Bool
  | .null => true
  | .list true [] => true
  | .table true [] => true
  | _ => false

/-- One of a few words, alone or as the only name of a table. -/
def word? {α : Type} (all : List α) (word : α → String) : Source → Option α
  | .text s => all.find? fun a => word a == s
  | .table _ [(s, v)] => if v.isBare then all.find? fun a => word a == s else none
  | _ => none

/-! ## Sections -/

/-- The fields of a section, each as far as it is there. -/
def fields? (names : List String) : Source → Option (List (Option Source))
  | .table _ entries => some (names.map fun name => entries.lookup name)
  | .moment => some (names.map fun _ => none)
  | .list loose items =>
    if !loose && names.length < items.length then none
    else some ((List.range names.length).map fun i => items[i]?)
  | _ => none

/-- One field, or its default. -/
def field? {α : Type} (fields : List (Option Source)) (i : Nat) (read : Source → Option α)
    (default : α) : Option α :=
  match fields[i]?.join with
  | some s => read s
  | none => some default

end Source
end PileCheck.Settings
