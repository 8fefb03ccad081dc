import PileCheck.Bus.Settings
import PileCheck.Failure
import PileCheck.Permits

/-!
The line to the broker: one connection with one channel, opened when it is first needed.

Every call asks for the link before it does anything else. Whoever has the lock looks whether the
link that is there still lives and otherwise builds a new one: connect, open a channel, declare what
the exchange is made of. Only a link on which all of that succeeded is kept, so whatever is asked of
a kept link is asked on a channel with the whole topology declared.

A call is cut where it waits for the lock or for the broker. `Dial` is where it stands, and
`Line.resume` takes it on.
-/
namespace PileCheck.Bus

/-- A connection and its channel, as the broker numbers them. -/
structure Link where
  connection : Nat
  channel : Nat
  deriving DecidableEq, Repr

/-- How an exchange chooses the queues for a message. -/
inductive ExchangeKind where
  | direct
  | fanout
  | headers
  /-- By patterns over the routing key. -/
  | topic
  deriving DecidableEq, Repr

/-- What is asked of the broker on a channel. What is declared durable outlasts the broker. -/
inductive Request where
  | exchange (name : String) (kind : ExchangeKind := .topic) (durable : Bool := true)
  | queue (name : String) (durable : Bool := true)
  | bind (queue exchange key : String)
  | consume (queue : String)
  | publish (exchange key : String) (payload : ByteArray)
  /-- The broker's word that the message before has arrived. -/
  | confirm

structure Line where
  settings : Settings
  link : Option Link := none
  lock : Permits := { free := 1 }
  /-- What is said when asked whether there is a connection. -/
  connected : Bool := false

namespace Settings

/-- Declares a durable queue, bound under its own name where there is an exchange to bind it to. -/
def declareQueue (s : Settings) (queue : String) : List Request :=
  .queue queue true :: if s.exchange = "" then [] else [.bind queue s.exchange queue]

/-- Declares the exchange as a durable topic, if it is not the default one, and both queues. -/
def topology (s : Settings) : List Request :=
  (if s.exchange = "" then [] else [.exchange s.exchange .topic true])
    ++ s.declareQueue s.requestQueue ++ s.declareQueue s.responseQueue

def timeoutFailure (s : Settings) : BusFailure :=
  .notReady ("connect to " ++ s.address ++ " timed out")

end Settings

/-! ## Asking for the link -/

/-- Where a call stands that wants the link. All but the first hold the lock. -/
inductive Dial where
  | queued (ticket : Nat)
  | connecting
  | opening (connection : Nat)
  /-- Declaring one thing, with more to come. -/
  | declaring (l : Link) (request : Request) (rest : List Request)

namespace Dial

/-- What a dial waits for; a refusal comes with its text. -/
inductive Reply where
  | granted
  | connected (r : Except String Nat)
  | expired
  | opened (r : Except String Nat)
  | declared (r : Except String Unit)

inductive Progress where
  | waits (d : Dial)
  | ends (r : Except BusFailure Link)

end Dial

namespace Line

def unlock (b : Line) : Line := { b with lock := b.lock.giveBack }

/-- The attempt has failed; whatever link there was stays where it is. -/
def fail (b : Line) (f : BusFailure) : Line × Dial.Progress := (b.unlock, .ends (.error f))

/-- With the lock in hand: the link that is there, if it lives, or a new one. -/
def locked (b : Line) (alive : Link → Bool) : Line × Dial.Progress :=
  match b.link with
  | some l =>
    if alive l then (b.unlock, .ends (.ok l))
    else ({ b with connected := false }, .waits .connecting)
  | none => (b, .waits .connecting)

/-- Declares what is left to declare; with nothing left the link is kept. -/
def declare (b : Line) (l : Link) : List Request → Line × Dial.Progress
  | request :: rest => (b, .waits (.declaring l request rest))
  | [] => ({ b with link := some l, connected := true }.unlock, .ends (.ok l))

def dial (b : Line) (alive : Link → Bool) : Line × Dial.Progress :=
  match b.lock.take with
  | (lock, none) => { b with lock }.locked alive
  | (lock, some ticket) => ({ b with lock }, .waits (.queued ticket))

def resume (b : Line) (alive : Link → Bool) : Dial → Dial.Reply → Line × Dial.Progress
  | .queued ticket, .granted => { b with lock := b.lock.pickUp ticket }.locked alive
  | .connecting, .connected (.ok connection) => (b, .waits (.opening connection))
  | .connecting, .connected (.error text) => b.fail (.notReady text)
  | .connecting, .expired => b.fail b.settings.timeoutFailure
  | .opening connection, .opened (.ok channel) =>
    b.declare ⟨connection, channel⟩ b.settings.topology
  | .opening _, .opened (.error text) => b.fail (.notReady text)
  | .declaring l _ rest, .declared (.ok ()) => b.declare l rest
  | .declaring _ _ _, .declared (.error text) => b.fail (.transport text)
  | d, _ => (b, .waits d)

def hangUp (b : Line) : Dial → Line
  | .queued ticket => { b with lock := b.lock.leave ticket }
  | _ => b.unlock

def markFailed (b : Line) : Line := { b with connected := false }

end Line

/-! ## Closing -/

inductive Closing where
  | queued (ticket : Nat)
  | closing (l : Link)
  deriving DecidableEq, Repr

inductive Closing.Reply where
  | granted
  /-- The connection is closed; a refusal makes no difference. -/
  | closed

namespace Line

def closed (b : Line) : Line := { b.unlock with connected := false }

/-- With the lock in hand: the link is taken away and closed. -/
def closeLocked (b : Line) : Line × Option Closing :=
  match b.link with
  | some l => ({ b with link := none }, some (.closing l))
  | none => (b.closed, none)

def close (b : Line) : Line × Option Closing :=
  match b.lock.take with
  | (lock, none) => { b with lock }.closeLocked
  | (lock, some ticket) => ({ b with lock }, some (.queued ticket))

def resumeClose (b : Line) : Closing → Closing.Reply → Line × Option Closing
  | .queued ticket, .granted => { b with lock := b.lock.pickUp ticket }.closeLocked
  | .closing _, .closed => (b.closed, none)
  | c, _ => (b, some c)

end Line
end PileCheck.Bus
