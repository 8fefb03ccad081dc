import PileCheck.Failure
import PileCheck.Json.Reader
import PileCheck.Json.Writer
import PileCheck.Text.Blank

/-!
The messages of a self-check.

A command goes out with a request number and a device; progress notices and one final result come
back. A gateway may write a number as a text, may leave it out, and may or may not echo the request
number. What is not for this exchange is ignored, and what cannot be understood says why.
-/
namespace PileCheck.Check

/-- The type number of the self-check exchange. -/
def exchange : Int := 1010

structure Command where
  kind : Int
  index : Nat
  device : String
  deriving DecidableEq, Repr

inductive NoticeState where
  | sent
  | started
  | completed
  | unknown (word : String)
  deriving DecidableEq, Repr

structure Notice where
  device : String
  description : String
  state : NoticeState
  result : Option Int
  successCount : Option Int
  failCount : Option Int
  /-- The echoed request number. -/
  index : Option Nat
  deriving DecidableEq, Repr

structure FinalResult where
  device : String
  result : Int
  successCount : Int
  failCount : Int
  code : Int
  index : Option Nat
  deriving DecidableEq, Repr

inductive Inbound where
  | notice (n : Notice)
  | final (r : FinalResult)
  /-- Well formed, but part of another exchange. -/
  | ignored (what : String)
  deriving DecidableEq, Repr

/-! ## Commands -/

namespace Command

def request (index : Nat) (device : String) : Command := ⟨exchange, index, device⟩

/-- The members stand in this order. -/
def json (c : Command) : Json :=
  .object [("ReqType", Json.int c.kind), ("Index", Json.nat c.index),
    ("Content", .object [("pileId", .text c.device)])]

def render (c : Command) : String := c.json.render

def bytes (c : Command) : ByteArray := c.render.toUTF8

/-- The one member of a name; a second one is refused. -/
def only? (name : String) (members : List (String × Json.Tree)) : Option Json.Tree :=
  match members.filter fun m => m.1 == name with
  | [m] => some m.2
  | _ => none

/-- Member names read as text. What stands under a name that nobody asks for may be anything. -/
def namedMembers? : List (List Nat × Json.Tree) → Option (List (String × Json.Tree))
  | [] => some []
  | (units, t) :: rest =>
    (Json.textOfUnits? units).bind fun name => (namedMembers? rest).map ((name, t) :: ·)

/-- The fields of a record, written as an object or as a list in order. -/
def fields? (names : List String) : Json.Tree → Option (List Json.Tree)
  | .object members => (namedMembers? members).bind fun ms => names.mapM fun name => only? name ms
  | .list items => if items.length = names.length then some items else none
  | _ => none

def whole? : Json.Tree → Option Int
  | .numeral l => l.whole?
  | _ => none

def text? : Json.Tree → Option String
  | .text units => Json.textOfUnits? units
  | _ => none

def ofTree? (t : Json.Tree) : Option Command :=
  match fields? ["ReqType", "Index", "Content"] t with
  | some [kind, index, content] =>
    match fields? ["pileId"] content with
    | some [device] => do
      let kind ← (whole? kind).filter Numeral.fitsInt64
      let index ← (whole? index).filter (0 ≤ ·)
      let device ← text? device
      pure ⟨kind, index.toNat, device⟩
    | _ => none
  | _ => none

/-- Reads a command; members of other names are passed over. -/
def read? (s : String) : Option Command := (Json.Tree.read? s.toList).bind ofTree?

end Command

/-! ## Notices and results -/

namespace NoticeState

def ofWord (word : String) : NoticeState :=
  if word = "CMD_SENT" then sent
  else if word = "STARTED" then started
  else if word = "COMPLETED" then completed
  else unknown word

/-- The word that stands for a state on the wire. -/
def word : NoticeState → String
  | sent => "CMD_SENT"
  | started => "STARTED"
  | completed => "COMPLETED"
  | unknown w => w

end NoticeState

namespace FinalResult

def succeeded (r : FinalResult) : Bool := r.result = 0 ∧ r.failCount = 0

def description (r : FinalResult) : String :=
  if r.succeeded then "Self-check succeeded"
  else if r.failCount > 0 then
    "Self-check failed (" ++ Numeral.ofInt r.failCount ++ " items failed)"
  else "Self-check finished"

end FinalResult

namespace Inbound

/-- A number of 64 bits, written as a number or as a text with blanks around it. -/
def intOf? : Json → Option Int
  | .number (.int n) => if Numeral.fitsInt64 n then some n else none
  | .text s => Numeral.int64? (Text.trimChars s.toList)
  | _ => none

def intField? (v : Json) (name : String) : Option Int := (v.member? name).bind intOf?

/-- The echoed request number, where the member holds one. -/
def indexField? (root : Json) : Option Nat :=
  (intField? root "Index").bind fun i => if 0 ≤ i then some i.toNat else none

def textField? (v : Json) (name : String) : Option String := (v.member? name).bind Json.asText?

def orMalformed {α : Type} (found : Option α) (why : String) : Except CheckFailure α :=
  match found with
  | some a => .ok a
  | none => .error (.malformed why)

def noticeOf (root data : Json) (device : String) : Except CheckFailure Inbound := do
  let kind ← orMalformed (intField? root "NoticeType") "NoticeType is not an integer"
  if kind ≠ exchange then return .ignored ("NoticeType " ++ Numeral.ofInt kind)
  let state ← orMalformed (textField? data "state") "missing Data.state"
  return .notice {
    device
    description := (textField? data "desc").getD ""
    state := .ofWord state
    result := intField? data "result"
    successCount := intField? data "successCount"
    failCount := intField? data "failCount"
    index := indexField? root }

def finalOf (root data : Json) (device : String) : Except CheckFailure Inbound := do
  let kind ← orMalformed (intField? root "ReqType") "ReqType is not an integer"
  if kind ≠ exchange then return .ignored ("ReqType " ++ Numeral.ofInt kind)
  let result ← orMalformed (intField? root "Result") "Result is not an integer"
  return .final {
    device
    result
    successCount := (intField? data "successCount").getD 0
    failCount := (intField? data "failCount").getD 0
    code := (intField? data "code").getD 0
    index := indexField? root }

/-- The message that a document is. -/
def ofJson (root : Json) : Except CheckFailure Inbound := do
  let data ← orMalformed ((root.member? "Data").filter Json.isObject) "missing Data object"
  let device ← orMalformed ((textField? data "pileId").filter (· ≠ "")) "missing Data.pileId"
  if (root.member? "NoticeType").isSome then noticeOf root data device
  else if (root.member? "ReqType").isSome && (root.member? "Result").isSome then
    finalOf root data device
  else .error (.malformed "missing NoticeType or ReqType/Result")

def parse (payload : ByteArray) : Except CheckFailure Inbound := do
  let root ← orMalformed (Json.readBytes? payload) "invalid JSON"
  ofJson root

end Inbound
end PileCheck.Check
