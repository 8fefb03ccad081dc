import PileCheck.Cache.Settings
import PileCheck.Failure

/-!
The link to the snapshot cache.

There is at most one connection in hand, and beside it what is said about the link. Attempts run in
the background, any number of them, since taking the link down does not stop the one under way. An
operation that finds no connection fails at once and begins an attempt if one is due.

The connection and what is said about it are written one after the other. `Attempt` and `Leave` are
cut between the two, for others may act in between.
-/
namespace PileCheck.Cache

inductive LinkState where
  | disconnected
  | connecting
  | connected
  | failed
  deriving DecidableEq, Repr

structure Link where
  settings : Settings := {}
  state : LinkState := .disconnected
  /-- The connection in hand, as the server numbers it. -/
  slot : Option Nat := none
  lastAttempt : Option Nat := none
  deriving DecidableEq, Repr

inductive Attempt where
  | dialing
  /-- The connection is in hand, but nothing is said about it yet. -/
  | announcing
  deriving DecidableEq, Repr

inductive Attempt.Reply where
  /-- Connected, and the server has answered a ping. -/
  | connected (connection : Nat)
  | refused
  | expired
  | announced
  deriving DecidableEq, Repr

/-- The connection has been given up, but nothing is said about it yet. -/
inductive Leave where
  | announcing
  deriving DecidableEq, Repr

namespace Link

def isConnected (l : Link) : Bool := l.state = .connected

/-- An attempt would be pointless. -/
def isSettled (l : Link) : Bool := l.state = .connected || l.state = .connecting

/-- Begins an attempt, unless there is a connection or an attempt already. -/
def connect (l : Link) (now : Nat) : Link × Option Attempt :=
  if l.isSettled then (l, none)
  else ({ l with state := .connecting, lastAttempt := some now }, some .dialing)

def isDue (l : Link) (now : Nat) : Bool :=
  l.lastAttempt.all fun began => l.settings.reconnectIntervalMs ≤ now - began

/-- Begins an attempt if the last one is long enough ago. -/
def reconnect (l : Link) (now : Nat) : Link × Option Attempt :=
  if l.isSettled then (l, none) else if l.isDue now then l.connect now else (l, none)

def resumeAttempt (l : Link) : Attempt → Attempt.Reply → Link × Option Attempt
  | .dialing, .connected connection => ({ l with slot := some connection }, some .announcing)
  | .dialing, .refused => ({ l with state := .failed }, none)
  | .dialing, .expired => ({ l with state := .failed }, none)
  | .announcing, .announced => ({ l with state := .connected }, none)
  | a, _ => (l, some a)

def leave (l : Link) : Link × Leave := ({ l with slot := none }, .announcing)

def left (l : Link) : Leave → Link
  | .announcing => { l with state := .disconnected }

/-- The connection in hand; without one an attempt begins if it is due. -/
def borrow (l : Link) (now : Nat) : Link × Option Attempt × Except CacheFailure Nat :=
  match l.slot with
  | some connection => (l, none, .ok connection)
  | none =>
    let (l, attempt) := l.reconnect now
    (l, attempt, .error (.notReady "Redis is not connected"))

/-- Whether there is a connection, once the attempts have come to something. -/
def verdict? (l : Link) : Option Bool :=
  match l.state with
  | .connected => some true
  | .failed => some false
  | _ => none

/-- The same, asked by one who is about to wait; a link that is down is not waited for. -/
def outlook? (l : Link) : Option Bool :=
  if l.state = .disconnected then some false else l.verdict?

end Link
end PileCheck.Cache
