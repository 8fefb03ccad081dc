import PileCheck.Device.Key
import PileCheck.Device.Registry
import PileCheck.Failure
import PileCheck.Watch.Settings

/-!
The online watcher.

A pile is online when its live object says so. A poll asks the cache for each pile in turn and tells
observers of every change; a read that fails counts as offline, but a cache without a connection
ends the poll and leaves the piles not yet read as they were.

A poller polls, then waits for its next tick, for as long as the watcher is running. It looks
whether that is so before each wait and after it, and at no other time.
-/
namespace PileCheck.Watch

structure OnlineEvent where
  device : String
  online : Bool
  deriving DecidableEq, Repr

structure Watcher where
  /-- What each pile was last seen to be. -/
  known : Table Bool := .empty
  running : Bool := false

/-- A poll that is reading one pile. -/
structure Poll where
  device : Device
  rest : List Device
  changed : Nat
  deriving DecidableEq, Repr

inductive Poll.Progress where
  | reads (p : Poll)
  /-- Over, with so many piles changed. -/
  | ends (changed : Nat)
  deriving DecidableEq, Repr

/-- The field of a live object that says whether its pile is connected. -/
def onlineField : String := "comm"

def onlineWord : String := "true"

namespace Poll

def next (changed : Nat) : List Device → Progress
  | [] => .ends changed
  | device :: rest => .reads { device, rest, changed }

/-- The piles among the devices are read, if the cache holds a connection. -/
def start (connected : Bool) (devices : List Device) : Progress :=
  if connected then next 0 (devices.filter fun d => d.kind = .pile) else .ends 0

def key (p : Poll) : String := p.device.liveKey

end Poll

namespace Watcher

/-- A pile never seen online is offline. -/
def isOnline (w : Watcher) (equipNo : String) : Bool := (w.known.find? equipNo).getD false

/-- Takes note of a pile; observers hear of a change. -/
def note (w : Watcher) (equipNo : String) (online : Bool) : Watcher × List OnlineEvent :=
  ({ w with known := w.known.insert equipNo online },
    if w.isOnline equipNo = online then [] else [{ device := equipNo, online }])

def noted (w : Watcher) (p : Poll) (online : Bool) : Watcher × List OnlineEvent × Poll.Progress :=
  let (w, events) := w.note p.device.equipNo online
  (w, events, Poll.next (p.changed + events.length) p.rest)

/-- Takes a poll from one read to the next. -/
def resume (w : Watcher) (p : Poll) :
    Except CacheFailure (Option String) → Watcher × List OnlineEvent × Poll.Progress
  | .ok value => w.noted p (value == some onlineWord)
  | .error (.notReady _) => (w, [], .ends p.changed)
  | .error _ => w.noted p false

/-! ## Running -/

/-- Starts the watcher; a second start has no effect. Says whether there is a new poller. -/
def start (w : Watcher) : Watcher × Bool := ({ w with running := true }, !w.running)

def stop (w : Watcher) : Watcher := { w with running := false }

end Watcher

/-- Where a poller stands. -/
inductive Poller where
  /-- It has not looked around yet. -/
  | hired
  /-- Waiting for a tick. -/
  | waiting (tick : Nat)
  /-- Polling, with its next tick at a time. -/
  | polling (tick : Nat) (p : Poll)
  deriving DecidableEq, Repr

namespace Watcher

/-- What a poller does next: it waits for a tick if the watcher is still running, and retires
otherwise. -/
def await? (w : Watcher) (tick : Nat) : Option Poller :=
  if w.running then some (.waiting tick) else none

/-- A poller goes on with its poll, or is through with it. -/
def polls? (w : Watcher) (tick : Nat) : Poll.Progress → Option Poller
  | .reads p => some (.polling tick p)
  | .ends _ => w.await? tick

/-- A poller takes a tick: it polls if the watcher is still running. -/
def tick? (w : Watcher) (s : Settings) (tick now : Nat) (connected : Bool)
    (devices : List Device) : Option Poller :=
  if w.running then w.polls? (s.nextTick tick now) (Poll.start connected devices) else none

end Watcher

end PileCheck.Watch
