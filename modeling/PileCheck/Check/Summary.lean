import PileCheck.Ccu.Attributes
import PileCheck.Failure
import PileCheck.Record.Basic

/-!
How a check came out, in one status and one line.

Module reports and the device's own account are put together: a fault in a module or a failure
reported by the device makes it worse, never better. A class of device that has no module data is
judged by its own account alone; data that should be there and is not is an error.
-/
namespace PileCheck.Check

/-- The width of the summary column, in characters. -/
def summaryWidth : Nat := 512

/-- One unit, read and judged. -/
structure ModuleReport where
  key : String
  index : Nat
  attributes : Ccu.Attributes
  faults : List Ccu.Fault
  deriving DecidableEq, Repr

def severityStatus : Ccu.Severity → CheckStatus
  | .warning => .warn
  | .error => .error

namespace ModuleReport

def ofAttributes (key : String) (index : Nat) (attributes : Ccu.Attributes) : ModuleReport :=
  { key, index, attributes, faults := attributes.faults }

def status (m : ModuleReport) : CheckStatus :=
  m.faults.foldl (fun s f => s.max (severityStatus f.severity)) .ok

def json (m : ModuleReport) : Json :=
  .ofMembers [("key", .text m.key), ("index", Json.nat m.index),
    ("attributes", m.attributes.json), ("faults", .list (m.faults.map Ccu.Fault.json))]

end ModuleReport

/-- The message that ended the session. -/
inductive Origin where
  | notice
  | final
  deriving DecidableEq, Repr

/-- What the device says about its own check. -/
structure Reported where
  origin : Origin
  result : Int
  successCount : Option Int
  failCount : Option Int
  code : Option Int
  deriving DecidableEq, Repr

def Origin.word : Origin → String
  | notice => "notice"
  | final => "final_result"

namespace Reported

def isFailure (r : Reported) : Bool := r.result ≠ 0 ∨ r.failCount.getD 0 > 0

def json (r : Reported) : Json :=
  .ofMembers [("source", .text r.origin.word), ("result", Json.int r.result),
    ("successCount", Json.intOrNull r.successCount), ("failCount", Json.intOrNull r.failCount),
    ("code", Json.intOrNull r.code)]

end Reported

structure Summary where
  status : CheckStatus
  line : String
  okModules : Nat
  faultyModules : Nat
  deriving DecidableEq, Repr

/-- A summary whose line may still be longer than its column. -/
structure Verdict where
  status : CheckStatus
  line : String
  okModules : Nat
  faultyModules : Nat

def isFaulty (m : ModuleReport) : Bool := !m.faults.isEmpty

def faultWords (m : ModuleReport) : List String :=
  m.faults.map fun f => "CCU#" ++ Numeral.ofNat m.index ++ " " ++ f.flag

def judgeModules (modules : List ModuleReport) : Verdict :=
  let faulty := modules.filter isFaulty
  let line :=
    if faulty.isEmpty then "All modules normal (" ++ Numeral.ofNat modules.length ++ " checked)"
    else Numeral.ofNat faulty.length ++ " of " ++ Numeral.ofNat modules.length
      ++ " modules reported faults: " ++ ", ".intercalate (faulty.flatMap faultWords)
  { status := modules.foldl (fun s m => s.max m.status) .ok
    line
    okModules := modules.length - faulty.length
    faultyModules := faulty.length }

/-- Without module data: an error, unless the device is of a class that has none. -/
def judgeMissing (failure : CheckFailure) : Verdict :=
  match failure with
  | .unimplemented what => ⟨.ok, "Module data not available: " ++ what, 0, 0⟩
  | failure => ⟨.error, "Self-check data unavailable: " ++ failure.message, 0, 0⟩

def judge (modules : Except CheckFailure (List ModuleReport)) : Verdict :=
  match modules with
  | .ok modules => judgeModules modules
  | .error failure => judgeMissing failure

/-- The device's own report of a failure is added to the line and makes the status an error. -/
def Verdict.withReported (v : Verdict) (r : Reported) : Verdict :=
  if r.isFailure then
    { v with
      status := v.status.max .error
      line := v.line ++ "; device reported result " ++ Numeral.ofInt r.result ++ " with "
        ++ Numeral.ofInt (r.failCount.getD 0) ++ " failed items" }
  else v

def fit (width : Nat) (line : String) : String := String.ofList (line.toList.take width)

def summarize (modules : Except CheckFailure (List ModuleReport)) (r : Reported) : Summary :=
  let v := (judge modules).withReported r
  { status := v.status
    line := fit summaryWidth v.line
    okModules := v.okModules
    faultyModules := v.faultyModules }

end PileCheck.Check
