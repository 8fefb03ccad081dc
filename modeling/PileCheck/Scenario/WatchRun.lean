import PileCheck.Scenario.Play
import PileCheck.Scenario.Snapshots
import PileCheck.Watch.Watcher

/-!
The online watcher at work on a scripted cache.
-/
namespace PileCheck.Scenario.WatchRun

open Watch (Watcher Poll Poller)

structure World where
  settings : Watch.Settings
  watcher : Watcher := {}
  devices : Registry
  cache : Snapshots := {}
  events : List Watch.OnlineEvent := []

inductive Frame where
  | poll (p : Poll.Progress)
  | fresh
  | poller (p : Poller)

inductive Result where
  | polled (changed : Nat)
  | retired

abbrev Moves := Moved World Frame Result

def read (w : World) (p : Poll) : World × Poll.Progress :=
  let (watcher, events, progress) :=
    w.watcher.resume p (w.cache.field p.key Watch.onlineField)
  ({ w with watcher, events := w.events ++ events }, progress)

def begin (w : World) : Poll.Progress := Poll.start w.cache.connected w.devices.values

/-- A poller is at its next stand, or has retired. -/
def goOn (w : World) : Option Poller → Moves
  | some p => { world := w, next := .again (.poller p) }
  | none => { world := w, next := .ends .retired }

def move (w : World) (now : Nat) : Frame → Moves
  | .fresh => { world := w, next := .again (.poll (begin w)) }
  | .poll (.reads p) =>
    let (w, progress) := read w p
    { world := w, next := .again (.poll progress) }
  | .poll (.ends n) => { world := w, next := .ends (.polled n) }
  | .poller .hired => goOn w (w.watcher.await? now)
  | .poller (.waiting tick) =>
    if now < tick then { world := w, next := .waits (.poller (.waiting tick)) }
    else goOn w (w.watcher.tick? w.settings tick now w.cache.connected w.devices.values)
  | .poller (.polling tick p) =>
    let (w, progress) := read w p
    goOn w (w.watcher.polls? tick progress)

def rules : Rules World Frame Result where
  timer
    | .poller (.waiting tick) => some tick
    | _ => none
  handed _ _ := false
  yields _ := false
  move := move

/-! ## Steps -/

inductive Outcome where
  | done
  | polled (changed : Nat)
  | answer (b : Bool)
  deriving DecidableEq, Repr

abbrev Act := Scenario.Act World Frame Result Outcome

def poll : Act := .task .fresh fun w r => (w, match r with
  | .polled n => .polled n
  | .retired => .done)

/-- Starts the watcher, with a poller if it was not running. -/
def start : Act := .instant fun w _ =>
  let (watcher, fresh) := w.watcher.start
  ({ w with watcher }, .answer fresh, if fresh then some (.poller .hired) else none)

def stop : Act := .instant fun w _ => ({ w with watcher := w.watcher.stop }, .done, none)

def isOnline (equipNo : String) : Act :=
  .instant fun w _ => (w, .answer (w.watcher.isOnline equipNo), none)

def script (change : Snapshots → Snapshots) : Act :=
  .instant fun w _ => ({ w with cache := change w.cache }, .done, none)

def addDevice (d : Device) : Act :=
  .instant fun w _ => ({ w with devices := w.devices.add d }, .done, none)

def removeDevice (equipNo : String) : Act := .instant fun w _ =>
  ({ w with devices := w.devices.remove equipNo }, .answer (w.devices.contains equipNo), none)

def World.heard (w : World) : List Watch.OnlineEvent :=
  w.events.mergeSort fun a b => a.device ≤ b.device

def clearLog (w : World) : World := { w with events := [] }

end PileCheck.Scenario.WatchRun
