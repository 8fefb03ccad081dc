import PileCheck.Scenario.Broker
import PileCheck.Scenario.Play

/-!
The line at work against a scripted broker.

Only connecting, slow handlers and rests take time; a request is answered at once.
-/
namespace PileCheck.Scenario.BusRun

open Bus (Line Call Closing Consumer)

structure Listener where
  queue : String
  handler : String
  delayMs : Nat := 0
  deriving DecidableEq, Repr

structure World where
  line : Line
  broker : Broker := {}
  handled : List (String × ByteArray) := []
  /-- Consumers that run, by number. -/
  consumers : List Nat := []
  stopped : List Nat := []
  nextConsumer : Nat := 0

inductive Task where
  /-- To have a link; given up after so long, if at all. -/
  | reach (patienceMs : Option Nat)
  | publish (key : String) (payload : ByteArray)
  | subscribe (l : Listener)

/-- What a wait depends on: an attempt, and the time at which it is over at the latest. -/
structure Wait where
  attempt : Option Attempt := none
  due : Option Nat := none
  deriving DecidableEq, Repr

inductive Frame where
  | fresh (t : Task)
  | call (t : Task) (c : Call) (wait : Wait)
  | consumer (id : Nat) (l : Listener) (c : Consumer) (wait : Wait)
  | close
  | closing (c : Closing)

inductive Result where
  | ended (e : Call.Ended)
  | abandoned
  | finished

abbrev Moves := Moved World Frame Result

def Task.errand : Task → Bus.Errand
  | reach _ => .reach
  | publish key payload => .publish key payload
  | subscribe l => .consume l.queue

def Task.patienceMs? : Task → Option Nat
  | reach patienceMs => patienceMs
  | _ => none

namespace Wait

def timer? (wait : Wait) : Option Nat :=
  ([wait.attempt.bind (·.arrival.timer?), wait.attempt.map (·.expires), wait.due].filterMap id).min?

def yields (wait : Wait) : Bool := wait.attempt.any (·.arrival == .last true)

/-- The others go first now. -/
def settle (wait : Wait) : Wait :=
  { wait with attempt := wait.attempt.map fun a => { a with arrival := a.arrival.wait } }

def isOver (wait : Wait) (now : Nat) : Bool := wait.due.any (· ≤ now)

end Wait

namespace World

def isAlive (w : World) : Bus.Link → Bool := w.broker.isAlive

/-- A call that wants a connection begins its attempt. -/
def attend (w : World) (now : Nat) : Call → World × Option Attempt
  | .dialing _ .connecting =>
    let (broker, a) := w.broker.beginConnect now w.line.settings
    ({ w with broker }, some a)
  | _ => (w, none)

/-- The reply to a call, once there is one. An attempt that has ended counts before the timeout. -/
def reply? (w : World) (now : Nat) (attempt : Option Attempt) :
    Call → Option (World × Call.Reply)
  | .dialing _ (.queued ticket) =>
    if w.line.lock.isGranted ticket then some (w, .dial .granted) else none
  | .dialing _ .connecting =>
    if attempt.any (·.arrival.isOver now) then
      let (broker, r) := w.broker.endConnect
      some ({ w with broker }, .dial (.connected r))
    else if attempt.any (·.expires ≤ now) then some (w, .dial .expired)
    else none
  | .dialing _ (.opening connection) =>
    let (broker, r) := w.broker.openChannel now connection
    some ({ w with broker }, .dial (.opened r))
  | .dialing _ (.declaring l request _) =>
    let (broker, r) := w.broker.ask now l request
    some ({ w with broker }, .dial (.declared r))
  | .requesting l (.consume queue) _ =>
    let (broker, r) := w.broker.consume now l queue
    some ({ w with broker }, .streaming r)
  | .requesting l request _ =>
    let (broker, r) := w.broker.ask now l request
    some ({ w with broker }, .answered r)

/-- What a consumer hears, once there is something. -/
def hear? (w : World) (now : Nat) (l : Listener) (wait : Wait) :
    Consumer → Option (World × Consumer.Reply)
  | .listening stream => (w.broker.next? stream).map fun (broker, r) => ({ w with broker }, r)
  | .handling _ d =>
    if wait.isOver now then
      some ({ w with handled := w.handled ++ [(l.handler, d.payload)] }, .handled)
    else none
  | .acknowledging stream d =>
    some ({ w with broker := w.broker.ack now stream d.tag }, .acknowledged)
  | .reopening _ c => (w.reply? now wait.attempt c).map fun (w, r) => (w, .call r)
  | .resting _ _ => if wait.isOver now then some (w, .rested) else none

/-- What the next wait of a consumer depends on. -/
def listen (w : World) (now : Nat) (l : Listener) : Consumer → World × Wait
  | .handling _ _ => (w, { due := some (now + l.delayMs) })
  | .resting _ waitMs => (w, { due := some (now + waitMs) })
  | .reopening _ c =>
    let (w, attempt) := w.attend now c
    (w, { attempt })
  | _ => (w, {})

end World

/-! ## Moves -/

def follow (w : World) (now : Nat) (t : Task) (cut : Option Nat) (m : Line × Call.Progress) :
    Moves :=
  let w := { w with line := m.1 }
  match m.2 with
  | .waits c =>
    let (w, attempt) := w.attend now c
    { world := w, next := .again (.call t c { attempt, due := cut }) }
  | .ends e =>
    match t, e with
    | .subscribe l, .streaming stream =>
      { world := { w with
          consumers := w.consumers ++ [w.nextConsumer]
          nextConsumer := w.nextConsumer + 1 }
        next := .ends (.ended e)
        starts := [.consumer w.nextConsumer l (.listening stream) {}] }
    | _, _ => { world := w, next := .ends (.ended e) }

def followClose (w : World) (m : Line × Option Closing) : Moves :=
  let w := { w with line := m.1 }
  match m.2 with
  | some c => { world := w, next := .again (.closing c) }
  | none => { world := w, next := .ends .finished }

/-- A consumer stops where it stands; nobody listens to its stream any more. -/
def quit (w : World) (c : Consumer) : Moves :=
  let broker := match c.stream? with
    | some stream => w.broker.forget stream
    | none => w.broker
  { world := { w with line := c.stop w.line, broker }, next := .ends .finished }

def move (w : World) (now : Nat) : Frame → Moves
  | .fresh t => follow w now t (t.patienceMs?.map (now + ·)) (w.line.call w.isAlive t.errand)
  | .call t c wait =>
    match w.reply? now wait.attempt c with
    | some (w, r) => follow w now t wait.due (w.line.resumeCall w.isAlive c r)
    | none =>
      if wait.isOver now then
        { world := { w with line := w.line.abandonCall c }, next := .ends .abandoned }
      else { world := w, next := .waits (.call t c wait.settle) }
  | .consumer id l c wait =>
    if w.stopped.contains id then quit w c
    else match w.hear? now l wait c with
      | some (w, r) =>
        let (line, c) := c.resume w.line w.isAlive l.queue r
        let (w, wait) := { w with line }.listen now l c
        { world := w, next := .again (.consumer id l c wait) }
      | none => { world := w, next := .waits (.consumer id l c wait.settle) }
  | .close =>
    followClose { w with consumers := [], stopped := w.stopped ++ w.consumers } w.line.close
  | .closing c =>
    match c with
    | .queued ticket =>
      if w.line.lock.isGranted ticket then followClose w (w.line.resumeClose c .granted)
      else { world := w, next := .waits (.closing c) }
    | .closing l =>
      let w := { w with broker := w.broker.close now l }
      followClose w (w.line.resumeClose c .closed)

def isHanded (w : World) : Call → Bool
  | .dialing _ (.queued ticket) => w.line.lock.isGranted ticket
  | _ => false

def rules : Rules World Frame Result where
  timer
    | .call _ _ wait => wait.timer?
    | .consumer _ _ _ wait => wait.timer?
    | _ => none
  handed w
    | .call _ c _ => isHanded w c
    | .consumer id _ c _ =>
      w.stopped.contains id || match c with
        | .listening stream => (w.broker.next? stream).isSome
        | .reopening _ c => isHanded w c
        | _ => false
    | .closing (.queued ticket) => w.line.lock.isGranted ticket
    | _ => false
  rank
    | .consumer _ _ c _ => c.stream?.getD 0
    | _ => 0
  yields
    | .call _ _ wait => wait.yields
    | .consumer _ _ _ wait => wait.yields
    | _ => false
  move := move

/-! ## Steps -/

inductive Outcome where
  | done
  | answer (b : Bool)
  | called (failure : Option BusFailure)

abbrev Act := Scenario.Act World Frame Result Outcome

/-- Connects, without anybody waiting for it. -/
def connect : Act := .instant fun w _ => (w, .done, some (.fresh (.reach none)))

def reach (patienceMs : Nat) : Act :=
  .task (.fresh (.reach (some patienceMs))) fun w r => (w, .answer (match r with
    | .ended (.failed _) => false
    | .ended _ => true
    | _ => false))

def call (t : Task) : Act :=
  .task (.fresh t) fun w r => (w, .called (match r with
    | .ended (.failed f) => some f
    | _ => none))

def publish (key : String) (payload : ByteArray) : Act := call (.publish key payload)

def subscribe (l : Listener) : Act := call (.subscribe l)

def close : Act := .task .close fun w _ => (w, .done)

def deliver (queue : String) (payload : ByteArray) : Act := .instant fun w _ =>
  let (broker, sent) := w.broker.deliver queue payload
  ({ w with broker }, .answer sent, none)

def script (change : Broker → Broker) : Act :=
  .instant fun w _ => ({ w with broker := change w.broker }, .done, none)

def World.clearLog (w : World) : World :=
  { w with broker := w.broker.clearLog, handled := [] }

end PileCheck.Scenario.BusRun
