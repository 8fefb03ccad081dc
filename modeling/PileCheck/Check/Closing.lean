import PileCheck.Cache.Reading
import PileCheck.Check.Desk
import PileCheck.Device.Key
import PileCheck.Device.Registry
import PileCheck.Sql.Store

/-!
The end of a check: what is read, what is recorded, what is heard.

First the cache is read, for a device that is in the registry; whatever that comes to, one record is
made of it. Observers hear the result when the store has answered, and it is a failure if the record
could not be stored.
-/
namespace PileCheck.Check

open Cache (Reading)

/-! ## Module snapshots -/

/-- The snapshot keys among some keys, by module number and then by text. -/
def moduleKeys (keys : List String) : List (Nat × String) :=
  let numbered := keys.filterMap fun key => (ModuleKey.moduleIndex? key).map fun n => (n, key)
  numbered.mergeSort fun a b => a.1 < b.1 || (a.1 == b.1 && a.2 ≤ b.2)

/-- The report of the module of a key. A number in the hash counts before the one in the key. -/
def moduleReport (number : Nat) (key : String) (hash : Ccu.Hash) :
    Except CheckFailure ModuleReport :=
  match Ccu.decode hash with
  | .ok d => .ok (.ofAttributes key (d.attributes.index.getD number) d.attributes)
  | .error f => .error (.notFound (key ++ ": " ++ f.message))

/-- Reads modules in order, after those already read; the first failure is the end of it. -/
def readModules (reports : List ModuleReport) :
    List (Nat × String) → Reading (Except CheckFailure (List ModuleReport))
  | [] => .done (.ok reports)
  | (number, key) :: rest =>
    .hash key fun
      | .error f => .done (.error (.ofCache f))
      | .ok hash =>
        match moduleReport number key hash with
        | .error f => .done (.error f)
        | .ok report => readModules (reports ++ [report]) rest

/-- Reads every module of a device. -/
def collect (d : Device) : Reading (Except CheckFailure (List ModuleReport)) :=
  if !d.kind.hasSnapshots then
    .done (.error (.unimplemented (d.kind.tag ++ " devices have no CCU snapshots")))
  else .connected fun
    | false => .done (.error (.notReady "key-value store is not connected"))
    | true => .keys d.snapshotPattern fun
      | .error f => .done (.error (.ofCache f))
      | .ok keys =>
        match moduleKeys keys with
        | [] => .done (.error (.notFound ("no CCU snapshots for " ++ d.equipNo)))
        | found => readModules [] found

/-- Reads the result that the device itself has left, as a document or else as a text. -/
def readAggregate (d : Device) : Reading (Option Json) :=
  .connected fun
    | false => .done none
    | true => .text d.aggregateKey fun
      | .error _ => .done none
      | .ok raw => .done (some ((Json.read? raw).getD (.text raw)))

/-- What the cache holds for a closing check. -/
structure Findings where
  modules : Except CheckFailure (List ModuleReport)
  aggregate : Option Json

def unregistered (device : String) : CheckFailure :=
  .notFound ("device " ++ device ++ " is not registered")

/-- Reads all there is for a device, if it is in the registry. -/
def gather (equipNo : String) : Option Device → Reading Findings
  | none => .done { modules := .error (unregistered equipNo), aggregate := none }
  | some d => do
    let modules ← collect d
    let aggregate ← readAggregate d
    return { modules, aggregate }

/-! ## The record -/

def deviceDocument (equipNo : String) : Option Device → Json
  | some d => .ofMembers [("equipNo", .text d.equipNo), ("type", .text d.typeName),
      ("stationNo", .text d.stationNo), ("connectorCount", Json.nat d.connectors),
      ("name", .text d.name)]
  | none => .ofMembers [("equipNo", .text equipNo)]

def modulesDocument : Except CheckFailure (List ModuleReport) → Json
  | .ok reports => .list (reports.map ModuleReport.json)
  | .error _ => .list []

def errorDocument : Except CheckFailure (List ModuleReport) → Json
  | .ok _ => .null
  | .error f => .text f.message

namespace Closing

/-- The details of a check: all that its status and summary were made from. -/
def document (c : Closing) (device : Option Device) (f : Findings) : Json :=
  .ofMembers [("requestId", Json.nat c.session.request),
    ("device", deviceDocument c.session.device device),
    ("modules", modulesDocument f.modules), ("reported", c.reported.json),
    ("aggregate", f.aggregate.getD .null), ("error", errorDocument f.modules),
    ("startedAt", .text c.session.startedAt),
    ("finishedAt", Json.textOrNull c.session.finishedAt)]

def summary (c : Closing) (f : Findings) : Summary := summarize f.modules c.reported

def record (c : Closing) (settings : Settings) (device : Option Device) (f : Findings)
    (m : Moment) : Record :=
  let s := c.summary f
  let type := match device with
    | some d => d.typeName
    | none => "UNKNOWN"
  ((Record.make type c.session.device settings.category s.status s.line m.date).withDetails
    (c.document device f)).withTrigger settings.source settings.triggeredBy

/-- What observers hear of a check that was recorded with a summary, or could not be recorded. A
count that the device has not reported is that of the modules. -/
def result (c : Closing) (stored : Option Summary) : Event :=
  let tally (f : Summary → Nat) : Int :=
    match stored with
    | some s => f s
    | none => 0
  .result c.session.device c.session.request
    (if stored.isSome then c.session.state else .failed) c.reported.result
    (c.reported.successCount.getD (tally Summary.okModules))
    (c.reported.failCount.getD (tally Summary.faultyModules))

end Closing

/-- A record on its way to the store, with what it was made from. -/
structure Recording where
  closing : Closing
  summary : Summary
  record : Record
  deriving DecidableEq, Repr

/-- With everything read, the record is made and handed to the store. -/
def Closing.recording (c : Closing) (settings : Settings) (device : Option Device) (f : Findings)
    (m : Moment) : Recording :=
  { closing := c, summary := c.summary f, record := c.record settings device f m }

/-- What observers hear when the store has answered. -/
def Recording.outcome (r : Recording) (a : Sql.Answer) : Event :=
  match a with
  | .ok _ => r.closing.result (some r.summary)
  | .error _ => r.closing.result none

end PileCheck.Check
