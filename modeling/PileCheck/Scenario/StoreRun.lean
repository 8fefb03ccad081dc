import PileCheck.Scenario.Inquiry
import PileCheck.Scenario.Play

/-!
A store at work against a scripted server.
-/
namespace PileCheck.Scenario.StoreRun

inductive Outcome where
  | done
  | found (f : Finding)
  /-- What the step was given cannot be read. -/
  | refused
  | unknownStep

abbrev Act := Scenario.Act Database Database.Frame Database.Result Outcome

def script (change : SqlServer → SqlServer) : Act :=
  .instant fun d _ => ({ d with server := change d.server }, .done, none)

def inquire (q : Inquiry) : Act :=
  .task (.fresh q.errand) fun d r => (d, .found (q.finding (some r)))

def refused : Act := .instant fun d _ => (d, .refused, none)

def unknown : Act := .instant fun d _ => (d, .unknownStep, none)

/-- A store that is open, connected first if so wanted, and how that failed. -/
def start (d : Database) (connect : Bool) :
    Play Database Database.Frame Database.Result Outcome × Option StoreFailure :=
  let p := Play.start d
  if !connect then (p, none)
  else
    let (p, answer) := p.perform Database.rules
      (.task (.fresh .connect) fun d r => (d, .found (match r with
        | .done failure => .ofFailure failure
        | .answered _ => .nothing)))
    (p, match answer with
      | .said (.found (.failed f)) => some f
      | _ => none)

def clearLog (d : Database) : Database := { d with server := d.server.clearLog }

end PileCheck.Scenario.StoreRun
