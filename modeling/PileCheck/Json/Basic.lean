/-!
Documents.

A number is a whole number of 64 bits or a binary64 value; the members of an object stand in the
order in which they are written. `Json.ofMembers` is the order of a document without a fixed shape:
names ascending by code point, the last of several members of one name kept.
-/
namespace PileCheck

inductive Json.Number where
  | int (n : Int)
  | float (x : Float)
  deriving Repr, BEq

inductive Json where
  | null
  | bool (b : Bool)
  | number (n : Json.Number)
  | text (s : String)
  | list (items : List Json)
  | object (members : List (String × Json))
  deriving Repr, BEq, Inhabited

namespace Json

def int (n : Int) : Json := .number (.int n)

def nat (n : Nat) : Json := .number (.int n)

/-- A value outside the numbers has no written form and becomes null. -/
def float (x : Float) : Json :=
  if x.isNaN || x.isInf then .null else .number (.float x)

def textOrNull : Option String → Json
  | some s => .text s
  | none => .null

def intOrNull : Option Int → Json
  | some n => int n
  | none => .null

/-- Puts a member into its place, over an earlier one of the same name. -/
def insertMember (name : String) (v : Json) : List (String × Json) → List (String × Json)
  | [] => [(name, v)]
  | (other, w) :: rest =>
    if name = other then (name, v) :: rest
    else if name < other then (name, v) :: (other, w) :: rest
    else (other, w) :: insertMember name v rest

def ofMembers (members : List (String × Json)) : Json :=
  .object (members.foldl (fun sorted (name, v) => insertMember name v sorted) [])

/-- The member of an object; nothing else has members. -/
def member? (name : String) : Json → Option Json
  | .object members => members.lookup name
  | _ => none

def asText? : Json → Option String
  | .text s => some s
  | _ => none

def isObject : Json → Bool
  | .object _ => true
  | _ => false

end Json
end PileCheck
