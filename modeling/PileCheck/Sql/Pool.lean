import PileCheck.Permits
import PileCheck.Sql.Settings

/-!
A pool of connections to the servers of one role.

Calls on a pool are cut at the places where they wait: for a permit, for the reconnect lock, for a
ping, for a connect. `Stage` is where a call stands between two such places and `resume` takes it
from one to the next, so every interleaving of calls is a sequence of `resume`s. What a call holds
while it waits is in its stage; everything shared is in the `Pool`.

A permit bounds how many connections are out at a time. `generation` counts reconnects: a
connection whose opening began before the last one is never lent again.
-/
namespace PileCheck.Sql

inductive Role where
  | master
  | replica
  deriving DecidableEq, Repr

def Role.word : Role → String
  | master => "master"
  | replica => "replica"

structure Conn where
  /-- Connections are numbered as they are opened. -/
  id : Nat
  /-- The place of its endpoint in the pool's list. -/
  endpoint : Nat
  /-- The pool's generation when the call that opened it last read it. -/
  generation : Nat
  deriving DecidableEq, Repr

structure Pool where
  role : Role
  limits : Limits
  /-- Never empty. -/
  endpoints : List Endpoint
  /-- Connections ready for reuse, the longest parked first. -/
  idle : List Conn := []
  inUse : Nat := 0
  /-- Slots taken: connections parked, lent, probed or being opened. -/
  total : Nat := 0
  /-- How often the pool was reconnected. Like `attempts` a number without bound: a counter of 64
  bits comes round after `2 ^ 64` steps, which no run gets to. -/
  generation : Nat := 0
  created : Nat := 0
  discarded : Nat := 0
  /-- Connect attempts so far, which choose the endpoint in turn. -/
  attempts : Nat := 0
  permits : Permits
  turn : Permits := { free := 1 }
  /-- Whether more was ever taken from `total` or `inUse` than was there. -/
  overdrawn : Bool := false
  deriving DecidableEq, Repr

inductive Purpose where
  | lend
  /-- Warming up; so many are parked already. -/
  | park (opened : Nat)
  /-- Warming up at the end of a reconnect. -/
  | replace (opened : Nat)
  deriving DecidableEq, Repr

/-- A slot taken for a connection that is being opened. -/
structure Opening where
  generation : Nat
  /-- Endpoints that refused this call. -/
  refused : Nat
  endpoint : Nat
  purpose : Purpose
  deriving DecidableEq, Repr

inductive Stage where
  /-- An acquire without a permit yet. -/
  | waiting (ticket : Nat)
  /-- An acquire that pings a parked connection. -/
  | probing (c : Conn) (generation : Nat)
  | opening (o : Opening)
  /-- A reconnect that waits for another to end. -/
  | queued (ticket : Nat)
  deriving DecidableEq, Repr

inductive Ended where
  | lent (c : Conn)
  | warmed (opened : Nat)
  | reconnected
  | failed (f : StoreFailure)
  deriving DecidableEq, Repr

inductive Reply where
  | granted
  | expired
  | pinged (alive : Bool)
  | connected (refusal : Option StoreFailure)
  deriving DecidableEq, Repr

inductive Progress where
  | waits (s : Stage)
  | ends (e : Ended)
  deriving DecidableEq, Repr

namespace Pool

/-- An empty pool; it needs an endpoint and room for a connection. -/
def open? (role : Role) (endpoints : List Endpoint) (limits : Limits) :
    Except StoreFailure Pool :=
  if endpoints.isEmpty then
    .error (.configuration (role.word ++ " pool has no endpoints"))
  else if limits.maxSize = 0 then
    .error (.configuration (role.word ++ " pool max_size must be positive"))
  else .ok { role, limits, endpoints, permits := { free := limits.maxSize } }

/-! ## Slots -/

def takeSlot (p : Pool) : Pool := { p with total := p.total + 1 }

/-- Gives back slots. -/
def freeSlots (p : Pool) (n : Nat) : Pool :=
  { p with total := p.total - n, overdrawn := p.overdrawn || p.total < n }

/-- The slot of a connection that never came to be. -/
def dropSlot (p : Pool) : Pool := p.freeSlots 1

/-- The slots of connections that existed. -/
def discard (p : Pool) (n : Nat) : Pool :=
  { p.freeSlots n with discarded := p.discarded + n }

def releasePermit (p : Pool) : Pool := { p with permits := p.permits.giveBack }

def releaseTurn (p : Pool) : Pool := { p with turn := p.turn.giveBack }

/-! ## Opening -/

/-- Tries the next endpoint in turn; all calls share the turn. -/
def tryNext (p : Pool) (generation refused : Nat) (purpose : Purpose) : Pool × Stage :=
  ({ p with attempts := p.attempts + 1 },
    .opening { generation, refused, endpoint := p.attempts % p.endpoints.length, purpose })

def waits (m : Pool × Stage) : Pool × Progress := (m.1, .waits m.2)

/-- Opens as many connections as should be parked and still have room. -/
def warm (p : Pool) (purpose : Nat → Purpose) (opened : Nat) : Pool × Progress :=
  let target := min p.limits.minIdle p.limits.maxSize
  if p.idle.length < target ∧ p.total < p.limits.maxSize then
    waits (p.takeSlot.tryNext p.generation 0 (purpose opened))
  else match purpose opened with
    | .replace _ => (p.releaseTurn, .ends .reconnected)
    | _ => (p, .ends (.warmed opened))

def lend (p : Pool) (c : Conn) : Pool × Progress :=
  ({ p with inUse := p.inUse + 1 }, .ends (.lent c))

def park (p : Pool) (c : Conn) : Pool := { p with idle := p.idle ++ [c] }

def opened (p : Pool) (o : Opening) : Pool × Progress :=
  let c : Conn := { id := p.created, endpoint := o.endpoint, generation := o.generation }
  let p := { p with created := p.created + 1 }
  match o.purpose with
  | .lend => p.lend c
  | .park n => (p.park c).warm .park (n + 1)
  | .replace n => (p.park c).warm .replace (n + 1)

/-- Gives back what a call holds while it opens a connection. -/
def abandonOpening (p : Pool) (o : Opening) : Pool :=
  match o.purpose with
  | .lend => p.dropSlot.releasePermit
  | .park _ => p.dropSlot
  | .replace _ => p.dropSlot.releaseTurn

/-- One endpoint refused: the next one, until each has been tried once. -/
def refused (p : Pool) (o : Opening) (f : StoreFailure) : Pool × Progress :=
  if o.refused + 1 < p.endpoints.length then
    waits (p.tryNext o.generation (o.refused + 1) o.purpose)
  else (p.abandonOpening o, .ends (.failed f))

/-! ## Calls -/

def openForLending (p : Pool) (generation : Nat) : Pool × Stage :=
  p.takeSlot.tryNext generation 0 .lend

/-- The first parked connection of the generation; older ones before it are discarded. -/
def pickFrom (p : Pool) (generation : Nat) : List Conn → Pool × Stage
  | [] => { p with idle := [] }.openForLending generation
  | c :: rest =>
    if c.generation = generation then
      ({ p with idle := rest }, .probing c generation)
    else (p.discard 1).pickFrom generation rest

/-- With the permit in hand the generation is read and a connection looked for. -/
def permitted (p : Pool) : Pool × Stage := p.pickFrom p.generation p.idle

def acquire (p : Pool) : Pool × Stage :=
  match p.permits.take with
  | (permits, none) => { p with permits }.permitted
  | (permits, some ticket) => ({ p with permits }, .waiting ticket)

def exhausted (p : Pool) : StoreFailure :=
  .exhausted (p.role.word ++ " pool: no connection within "
    ++ Numeral.ofNat p.limits.acquireTimeoutMs ++ " ms")

def warmUp (p : Pool) : Pool × Progress := p.warm .park 0

/-- Every parked connection is discarded and every other one will be when it comes back. -/
def retire (p : Pool) : Pool :=
  { p.discard p.idle.length with generation := p.generation + 1, idle := [] }

def renew (p : Pool) : Pool × Progress := p.retire.warm .replace 0

def reconnect (p : Pool) : Pool × Progress :=
  match p.turn.take with
  | (turn, none) => { p with turn }.renew
  | (turn, some ticket) => ({ p with turn }, .waits (.queued ticket))

/-- Takes a call from one wait to the next. A reply that the stage does not wait for changes
nothing. -/
def resume (p : Pool) : Stage → Reply → Pool × Progress
  | .waiting ticket, .granted => waits { p with permits := p.permits.pickUp ticket }.permitted
  | .waiting ticket, .expired =>
    ({ p with permits := p.permits.leave ticket }, .ends (.failed p.exhausted))
  | .probing c _, .pinged true => p.lend c
  | .probing _ generation, .pinged false => waits ((p.discard 1).openForLending generation)
  | .opening o, .connected none => p.opened o
  | .opening o, .connected (some f) => p.refused o f
  | .queued ticket, .granted => { p with turn := p.turn.pickUp ticket }.renew
  | s, _ => (p, .waits s)

/-- A call given up at its wait gives back all it holds. -/
def abandon (p : Pool) : Stage → Pool
  | .waiting ticket => { p with permits := p.permits.leave ticket }
  | .probing _ _ => (p.discard 1).releasePermit
  | .opening o => p.abandonOpening o
  | .queued ticket => { p with turn := p.turn.leave ticket }

def takeBack (p : Pool) : Pool :=
  { p with inUse := p.inUse - 1, overdrawn := p.overdrawn || p.inUse < 1 }

def restore (p : Pool) (c : Conn) (broken : Bool) : Pool :=
  let p := p.takeBack
  let p := if broken ∨ c.generation ≠ p.generation then p.discard 1 else p.park c
  p.releasePermit

def endpoint (p : Pool) (i : Nat) : Endpoint := p.endpoints.getD i {}

end Pool
end PileCheck.Sql
