import PileCheck.Settings.Source

/-!
Tables as they grow.

A header names a table and implies those on the way to it; a dotted key makes the tables on its way.
An implied table may still be named, once; one that a key made may not, and one that was named may
not be reached by a dotted key. Of a list of tables the last is the one that grows.
-/
namespace PileCheck.Toml

open Settings (Source)

/-- How a table came to be. -/
inductive Origin where
  | named
  | implied
  | dotted
  deriving DecidableEq, Repr

inductive Node where
  /-- Nothing is added to a value, even if it is a table. -/
  | value (s : Source)
  | table (origin : Origin) (entries : List (String × Node))
  | tables (items : List (List (String × Node)))

abbrev Entries := List (String × Node)

namespace Entries

/-- Adds an entry under a name that is free. -/
def add? (name : String) (node : Node) (es : Entries) : Option Entries :=
  if (es.lookup name).isSome then none else some (es ++ [(name, node)])

def set (name : String) (node : Node) (es : Entries) : Entries :=
  es.map fun e => if e.1 = name then (name, node) else e

/-- Changes the table at the end of a path; tables that are missing on the way are made. -/
def reach? (dotted : Bool) (change : Origin → Entries → Option Entries) :
    List String → Origin → Entries → Option Entries
  | [], origin, es => change origin es
  | name :: path, _, es =>
    match es.lookup name with
    | none =>
      let origin := if dotted then .dotted else .implied
      (reach? dotted change path origin []).map fun sub => es ++ [(name, .table origin sub)]
    | some (.value _) => none
    | some (.tables items) =>
      (reach? dotted change path .named (items.getLast?.getD [])).map fun last =>
        es.set name (.tables (items.dropLast ++ [last]))
    | some (.table origin sub) =>
      if dotted ∧ origin = .named then none
      else (reach? dotted change path origin sub).map fun sub => es.set name (.table origin sub)

/-- Gives a value to a key, from the table where it stands. -/
def assign? (path : List String) (name : String) (v : Source) (origin : Origin) (es : Entries) :
    Option Entries :=
  if path.isEmpty then es.add? name (.value v)
  else reach? true (fun origin es =>
    if origin = .dotted then es.add? name (.value v) else none) path origin es

/-- Names a table. -/
def name? (name : String) (es : Entries) : Option Entries :=
  match es.lookup name with
  | none => some (es ++ [(name, .table .named [])])
  | some (.table .implied sub) => some (es.set name (.table .named sub))
  | _ => none

/-- Adds a table to a list of tables. -/
def append? (name : String) (es : Entries) : Option Entries :=
  match es.lookup name with
  | none => some (es ++ [(name, .tables [[]])])
  | some (.tables items) => some (es.set name (.tables (items ++ [[]])))
  | _ => none

end Entries

/-! ## What has grown -/

mutual

def Node.source : Node → Source
  | .value s => s
  | .table _ es => .table true (entriesSource es)
  | .tables items => .list true (itemsSource items)

def entriesSource : List (String × Node) → List (String × Source)
  | [] => []
  | (name, node) :: rest => (name, node.source) :: entriesSource rest

def itemsSource : List (List (String × Node)) → List Source
  | [] => []
  | es :: rest => .table true (entriesSource es) :: itemsSource rest

end

end PileCheck.Toml
