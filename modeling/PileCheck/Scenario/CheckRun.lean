import PileCheck.Check.Closing
import PileCheck.Check.Feed
import PileCheck.Scenario.Inquiry
import PileCheck.Scenario.Play
import PileCheck.Scenario.Snapshots

/-!
The desk at work, over a scripted bus, a scripted cache and a scripted database.

A command is published when the bus says so; a closing check reads the cache and waits for the
store. Watchdogs look for stale sessions at every tick, until nobody holds the desk any more: they
do not hold it themselves, but a call that is under way does.
-/
namespace PileCheck.Scenario.CheckRun

open Check (Desk Closing Recording Moment)

/-- A bus that follows a script. -/
structure Bus where
  /-- One entry per command to come: how long it takes, and how it fails. -/
  outcomes : List (Nat × Option BusFailure) := []
  /-- A queue that cannot be subscribed to. -/
  closed : Option (String × BusFailure) := none
  /-- The queues that the desk listens to, in the order of subscription. -/
  queues : List String := []
  published : List (String × String) := []

namespace Bus

/-- A command begins; says how long it takes and how it fails. -/
def begin (b : Bus) : Bus × Nat × Option BusFailure :=
  ({ b with outcomes := b.outcomes.tail }, b.outcomes.headD (0, none))

def publish (b : Bus) (key payload : String) : Bus :=
  { b with published := b.published ++ [(key, payload)] }

/-- Subscribes to one queue after the other, up to the first that is closed. -/
def subscribe (b : Bus) : List String → Bus × Option BusFailure
  | [] => (b, none)
  | queue :: rest =>
    match b.closed with
    | some (closed, f) =>
      if closed = queue then (b, some f)
      else { b with queues := b.queues ++ [queue] }.subscribe rest
    | none => { b with queues := b.queues ++ [queue] }.subscribe rest

end Bus

structure World where
  desk : Desk
  /-- Whether the desk is still held from outside. -/
  held : Bool := true
  /-- Calls under way, each of which holds the desk. -/
  calls : Nat := 0
  watchdogs : Nat := 0
  devices : Registry
  cache : Snapshots := {}
  bus : Bus := {}
  database : Database
  /-- What observers have heard since the log was cleared. -/
  events : List Check.Event := []

/-- A payload on its way to some handlers, one after the other. -/
structure Delivery where
  payload : ByteArray
  handlers : Nat
  /-- Handlers that are still to have it. -/
  left : Nat

inductive Frame where
  | trigger (device : String)
  | publishing (t : Check.Trigger) (due : Nat) (failure : Option BusFailure)
  /-- To every handler of a queue. -/
  | deliver (queue : String) (payload : ByteArray)
  | handle (payload : ByteArray)
  | handing (d : Delivery)
  | storing (d : Delivery) (r : Recording) (f : Database.Frame)
  | call (f : Database.Frame)
  /-- Waiting for a tick. -/
  | watchdog (tick : Nat)

inductive Result where
  | triggered (r : Except CheckFailure Nat)
  | delivered (handlers : Nat)
  | came (r : Database.Result)
  | retired
  /-- There is no desk to do it. -/
  | unheld

abbrev Moves := Moved World Frame Result

namespace World

def say (w : World) (events : List Check.Event) : World := { w with events := w.events ++ events }

def hold (w : World) : World := { w with calls := w.calls + 1 }

def letGo (w : World) : World := { w with calls := w.calls - 1 }

/-- Whether anybody holds the desk. -/
def isHeld (w : World) : Bool := w.held || 0 < w.calls

/-- A moment of the scenario; the time of day is not known. -/
def moment (now : Nat) : Moment := { ms := now, stamp := "<time>", date := "<time>" }

end World

/-! ## Moves -/

/-- A call is over and lets go of the desk. -/
def finish (w : World) (r : Result) : Moves := { world := w.letGo, next := .ends r }

/-- A closing check reads the cache and begins to store its record. -/
def conclude (w : World) (now : Nat) (d : Delivery) (c : Closing) : Moves :=
  let equipNo := c.session.device
  let device := w.devices.device? equipNo
  let findings := (Check.gather equipNo device).run w.cache.answers
  let recording := c.recording w.desk.settings device findings (World.moment now)
  { world := w
    next := .again (.storing d recording (.fresh (Inquiry.insert recording.record).errand)) }

/-- One handler takes the payload. -/
def take (w : World) (now : Nat) (d : Delivery) : Moves :=
  match d.left with
  | 0 => finish w (.delivered d.handlers)
  | left + 1 =>
    let d := { d with left }
    let (desk, events, closing) := w.desk.receive d.payload (World.moment now)
    let w := { w with desk }.say events
    match closing with
    | none => { world := w, next := .again (.handing d) }
    | some c => conclude w now d c

/-- The store has answered; observers hear the result. -/
def stored (w : World) (recording : Recording) : Database.Result → World
  | .answered a => w.say [recording.outcome a]
  | .done _ => w.say [recording.closing.result none]

def lift (w : World) (m : Moved Database Database.Frame Database.Result)
    (wrap : Database.Frame → Frame) (finish : World → Database.Result → Moves) : Moves :=
  let w := { w with database := m.world }
  match m.next with
  | .again f => { world := w, next := .again (wrap f) }
  | .waits f => { world := w, next := .waits (wrap f) }
  | .ends r => finish w r

def move (w : World) (now : Nat) : Frame → Moves
  | .trigger device =>
    if !w.held then { world := w, next := .ends .unheld }
    else
      let (desk, t) := w.desk.trigger device (World.moment now)
      let (bus, ms, failure) := w.bus.begin
      { world := { w with desk, bus }.hold, next := .again (.publishing t (now + ms) failure) }
  | .publishing t due failure =>
    if now < due then { world := w, next := .waits (.publishing t due failure) }
    else
      let bus := match failure with
        | some _ => w.bus
        | none => w.bus.publish w.desk.settings.commandKey t.command.render
      let (desk, events, r) := w.desk.published t failure
      finish ({ w with desk, bus }.say events) (.triggered r)
  | .deliver queue payload =>
    let handlers := w.bus.queues.countP (· == queue)
    { world := w.hold, next := .again (.handing { payload, handlers, left := handlers }) }
  | .handle payload =>
    if !w.held then { world := w, next := .ends .unheld }
    else { world := w.hold, next := .again (.handing { payload, handlers := 1, left := 1 }) }
  | .handing d => take w now d
  | .storing d recording f =>
    lift w (w.database.move now f) (.storing d recording) fun w r =>
      { world := stored w recording r, next := .again (.handing d) }
  | .call f =>
    lift w (w.database.move now f) .call fun w r => { world := w, next := .ends (.came r) }
  | .watchdog tick =>
    if now < tick then { world := w, next := .waits (.watchdog tick) }
    else if w.isHeld then
      let (desk, events, _) := w.desk.expire now
      { world := { w with desk }.say events
        next := .again (.watchdog (tick + w.desk.settings.watchdogPeriodMs)) }
    else { world := { w with watchdogs := w.watchdogs - 1 }, next := .ends .retired }

def rules : Rules World Frame Result where
  timer
    | .publishing _ due _ => some due
    | .storing _ _ f => Database.timer f
    | .call f => Database.timer f
    | .watchdog tick => some tick
    | _ => none
  handed w
    | .storing _ _ f => w.database.isHanded f
    | .call f => w.database.isHanded f
    | _ => false
  yields _ := false
  move := move

/-! ## Steps -/

inductive Outcome where
  | done
  | triggered (r : Except CheckFailure Nat)
  | subscribed (failure : Option BusFailure) (queues : List String)
  | count (n : Nat)
  | session (s : Option Check.Session)
  | answer (b : Bool)
  | found (f : Finding)
  | refused
  | unknownStep

abbrev Act := Scenario.Act World Frame Result Outcome

/-- What is done with the desk while it is held, at once. -/
def atDesk (f : World → Nat → World × Outcome × Option Frame) : Act :=
  .instant fun w now => if w.held then f w now else (w, .unknownStep, none)

def settle (w : World) (r : Result) : World × Outcome :=
  (w, match r with
    | .triggered r => .triggered r
    | .delivered n => .count n
    | .unheld => .unknownStep
    | _ => .done)

def trigger (device : String) : Act := .task (.trigger device) settle

def handle (payload : ByteArray) : Act :=
  .task (.handle payload) fun w r => (w, match r with
    | .unheld => .unknownStep
    | _ => .done)

def deliver (queue : String) (payload : ByteArray) : Act := .task (.deliver queue payload) settle

def subscribe : Act := atDesk fun w _ =>
  let settings := w.desk.settings
  let (bus, failure) := w.bus.subscribe [settings.noticeQueue, settings.responseQueue]
  ({ w with bus }, .subscribed failure bus.queues, none)

def expire : Act := atDesk fun w now =>
  let (desk, events, n) := w.desk.expire now
  ({ w with desk }.say events, .count n, none)

def watchdog : Act := atDesk fun w now =>
  ({ w with watchdogs := w.watchdogs + 1 }, .done, some (.watchdog now))

def session (device : String) : Act := atDesk fun w _ =>
  (w, .session (w.desk.session? device), none)

def countWatchdogs : Act := .instant fun w _ => (w, .count w.watchdogs, none)

/-- Lets go of the desk, and with it of its handlers. -/
def drop : Act := .instant fun w _ =>
  ({ w with held := false, bus := { w.bus with queues := [] } }, .answer w.held, none)

def addDevice (d : Device) : Act :=
  .instant fun w _ => ({ w with devices := w.devices.add d }, .done, none)

def removeDevice (equipNo : String) : Act := .instant fun w _ =>
  ({ w with devices := w.devices.remove equipNo }, .answer (w.devices.contains equipNo), none)

def scriptServer (change : SqlServer → SqlServer) : Act := .instant fun w _ =>
  ({ w with database := { w.database with server := change w.database.server } }, .done, none)

def scriptCache (change : Snapshots → Snapshots) : Act :=
  .instant fun w _ => ({ w with cache := change w.cache }, .done, none)

def scriptBus (change : Bus → Bus) : Act :=
  .instant fun w _ => ({ w with bus := change w.bus }, .done, none)

def inquire (q : Inquiry) : Act :=
  .task (.call (.fresh q.undated.errand)) fun w r => (w, match r with
    | .came r => .found (q.finding (some r))
    | _ => .done)

def refused : Act := .instant fun w _ => (w, .refused, none)

def unknown : Act := .instant fun w _ => (w, .unknownStep, none)

namespace World

/-- What observers heard. -/
def feed (w : World) : Check.Feed := .ofEvents w.desk.settings.eventCapacity w.events

/-- The active sessions by device, as far as anybody outside can see them. -/
def sessions (w : World) : List Check.Session := if w.held then w.desk.sessions.values else []

def clearLog (w : World) : World :=
  { w with
    events := []
    bus := { w.bus with published := [] }
    database := { w.database with server := w.database.server.clearLog } }

end World
end PileCheck.Scenario.CheckRun
