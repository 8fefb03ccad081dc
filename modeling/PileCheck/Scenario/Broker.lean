import PileCheck.Bus.Consumer
import PileCheck.Json.Writer

/-!
A message broker that follows a script.

The script says whether connections are granted and how long that takes, what may be declared and
consumed, and which messages get lost. A refused request closes its channel, a lost message breaks
every connection; either way the streams of the channel break, after what was sent on them. The
broker keeps a log of what it was asked.
-/
namespace PileCheck.Scenario

open Bus (Link Request Delivery)

/-- What becomes of a published message. -/
inductive Fate where
  | arrives
  | stuck
  | lost
  deriving DecidableEq, Repr

inductive Note where
  | connect (uri : String)
  | channel
  | asked (r : Request)
  | ack (tag : Nat)
  | close

/-- How a stream goes on after what was sent on it. -/
inductive StreamState where
  | runs
  | broken
  | ended
  deriving DecidableEq, Repr

/-- Deliveries on their way to one consumer. -/
structure Stream where
  id : Nat
  link : Link
  queue : String
  sent : List Delivery := []
  state : StreamState := .runs

/-- When a connection attempt ends. -/
inductive Arrival where
  | never
  | at (time : Nat)
  /-- When nothing else can go on; an attempt has not waited for that when it begins. -/
  | last (waited : Bool)
  deriving DecidableEq, Repr

structure Attempt where
  arrival : Arrival
  /-- The caller's patience ends. -/
  expires : Nat
  deriving DecidableEq, Repr

structure Broker where
  up : Bool := true
  /-- Attempts that begin now never end. -/
  mute : Bool := false
  connectDelayMs : Nat := 0
  channelError : Bool := false
  /-- Exchanges and queues that may not be declared. -/
  refuse : List String := []
  refuseBind : List String := []
  refuseConsume : List String := []
  /-- One entry per message to come. -/
  fates : List Fate := []
  ackError : Bool := false
  channels : List Link := []
  streams : List Stream := []
  nextConnection : Nat := 0
  nextChannel : Nat := 0
  nextStream : Nat := 0
  delivered : Nat := 0
  log : List (Nat × Note) := []

namespace Arrival

def isOver (now : Nat) : Arrival → Bool
  | never => false
  | .at time => time ≤ now
  | last waited => waited

def timer? : Arrival → Option Nat
  | .at time => some time
  | _ => none

/-- The others go first now. -/
def wait : Arrival → Arrival
  | last _ => last true
  | a => a

end Arrival

namespace Broker

def clearLog (b : Broker) : Broker := { b with log := [] }

def note (b : Broker) (now : Nat) (n : Note) : Broker := { b with log := b.log ++ [(now, n)] }

def isAlive (b : Broker) (l : Link) : Bool := b.channels.contains l

/-! ## Breaking -/

def setState (state : StreamState) (which : Stream → Bool) (b : Broker) : Broker :=
  { b with streams := b.streams.map fun s =>
      if which s && s.state = .runs then { s with state } else s }

def closeChannel (b : Broker) (l : Link) : Broker :=
  { b with channels := b.channels.filter (· != l) }.setState .broken (·.link == l)

def dropLinks (b : Broker) : Broker := { b with channels := [] }.setState .broken fun _ => true

def cancel (b : Broker) (queue : String) : Broker := b.setState .ended (·.queue == queue)

def forget (b : Broker) (stream : Nat) : Broker :=
  { b with streams := b.streams.filter (·.id != stream) }

/-! ## Connecting -/

def beginConnect (b : Broker) (now : Nat) (s : Bus.Settings) : Broker × Attempt :=
  (b.note now (.connect s.uri),
    { expires := now + s.connectTimeoutMs
      arrival :=
        if b.mute then .never
        else if b.connectDelayMs = 0 then .last false
        else .at (now + b.connectDelayMs) })

def endConnect (b : Broker) : Broker × Except String Nat :=
  if b.up then ({ b with nextConnection := b.nextConnection + 1 }, .ok b.nextConnection)
  else (b, .error "connection refused by script")

def openChannel (b : Broker) (now connection : Nat) : Broker × Except String Nat :=
  if b.channelError then (b, .error "no channel by script")
  else
    let l : Link := { connection, channel := b.nextChannel }
    ({ b with channels := b.channels ++ [l], nextChannel := b.nextChannel + 1 }.note now .channel,
      .ok b.nextChannel)

/-- Whatever the connection carried breaks. -/
def close (b : Broker) (now : Nat) (l : Link) : Broker := (b.note now .close).closeChannel l

/-! ## Requests -/

def refuses (b : Broker) : Request → Bool
  | .exchange name _ _ => b.refuse.contains name
  | .queue name _ => b.refuse.contains name
  | .bind queue _ _ => b.refuseBind.contains queue
  | .consume queue => b.refuseConsume.contains queue
  | _ => false

/-- A request is logged, and closes its channel if it is refused. -/
def declare (b : Broker) (now : Nat) (l : Link) (r : Request) : Broker × Except String Unit :=
  let refused := b.refuses r
  let b := b.note now (.asked r)
  if refused then (b.closeChannel l, .error "refused by script") else (b, .ok ())

/-- A message is sent; its fate is settled when it is confirmed. -/
def publish (b : Broker) (now : Nat) (r : Request) : Broker × Except String Unit :=
  match b.fates.head? with
  | some .stuck => ({ b with fates := b.fates.tail }.dropLinks, .error "publish failed by script")
  | _ => (b.note now (.asked r), .ok ())

def confirm (b : Broker) : Broker × Except String Unit :=
  let fate := b.fates.head?
  let b := { b with fates := b.fates.tail }
  match fate with
  | some .lost => (b.dropLinks, .error "confirm failed by script")
  | _ => (b, .ok ())

def ask (b : Broker) (now : Nat) (l : Link) (r : Request) : Broker × Except String Unit :=
  if !b.isAlive l then (b, .error "channel closed")
  else match r with
    | .publish _ _ _ => b.publish now r
    | .confirm => b.confirm
    | r => b.declare now l r

def consume (b : Broker) (now : Nat) (l : Link) (queue : String) : Broker × Except String Nat :=
  match b.ask now l (.consume queue) with
  | (b, .error text) => (b, .error text)
  | (b, .ok ()) =>
    ({ b with
        streams := b.streams ++ [{ id := b.nextStream, link := l, queue }]
        nextStream := b.nextStream + 1 }, .ok b.nextStream)

/-! ## Deliveries -/

/-- Sends a message to the newest consumer of a queue, if there is one. -/
def deliver (b : Broker) (queue : String) (payload : ByteArray) : Broker × Bool :=
  match b.streams.reverse.find? fun s => s.queue == queue && s.state = .runs with
  | none => (b, false)
  | some newest =>
    let d : Delivery := ⟨b.delivered + 1, payload⟩
    ({ b with
        delivered := b.delivered + 1
        streams := b.streams.map fun s =>
          if s.id = newest.id then { s with sent := s.sent ++ [d] } else s }, true)

/-- What a stream yields next, if anything yet. -/
def next? (b : Broker) (stream : Nat) : Option (Broker × Bus.Consumer.Reply) :=
  match b.streams.find? (·.id == stream) with
  | none => some (b, .ended)
  | some s =>
    match s.sent, s.state with
    | d :: sent, _ =>
      some ({ b with streams := b.streams.map fun s =>
        if s.id = stream then { s with sent } else s }, .delivered d)
    | [], .runs => none
    | [], .broken => some (b, .broke)
    | [], .ended => some (b, .ended)

/-- Takes an acknowledgement, unless it gets lost. -/
def ack (b : Broker) (now stream tag : Nat) : Broker :=
  let alive := b.streams.any fun s => s.id = stream && b.isAlive s.link
  if alive && !b.ackError then b.note now (.ack tag) else b

end Broker

/-! ## The log as a document -/

def readable (payload : ByteArray) : String := (String.fromUTF8? payload).getD ""

def kindWord : Bus.ExchangeKind → String
  | .direct => "direct"
  | .fanout => "fanout"
  | .headers => "headers"
  | .topic => "topic"

def Note.requested : Request → List (String × Json)
  | .exchange name kind durable =>
    [("exchange", .text name), ("kind", .text (kindWord kind)), ("durable", .bool durable),
      ("other_flags", .bool false)]
  | .queue name durable =>
    [("queue", .text name), ("durable", .bool durable), ("other_flags", .bool false)]
  | .bind queue exchange key =>
    [("bind", .text queue), ("exchange", .text exchange), ("key", .text key)]
  | .consume queue =>
    [("consume", .text queue), ("tag_ok", .bool true), ("other_flags", .bool false)]
  | .publish exchange key payload =>
    [("publish", .text key), ("exchange", .text exchange), ("body", .text (readable payload)),
      ("delivery_mode", .nat 2), ("content_type", .text "application/json"),
      ("other_flags", .bool false)]
  | .confirm => []

def Note.members : Note → List (String × Json)
  | .connect uri => [("connect", .text uri)]
  | .channel => [("channel", .bool true)]
  | .asked r => requested r
  | .ack tag => [("ack", .nat tag), ("multiple", .bool false)]
  | .close => [("close", .nat 200), ("text", .text "shutdown")]

def Broker.report (b : Broker) : Json :=
  .list (b.log.map fun (now, n) => .ofMembers (("at_ms", .nat now) :: n.members))

end PileCheck.Scenario
