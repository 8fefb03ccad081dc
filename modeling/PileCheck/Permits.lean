/-!
Permits handed out in the order of asking.

A caller takes a permit at once if one is free and otherwise leaves a ticket. A permit that is
returned goes to the oldest ticket, whose owner finds it granted when it looks; a caller that gives
up takes its ticket back, and with it a permit granted in the meantime. A lock is one permit.
-/
namespace PileCheck

structure Permits where
  free : Nat
  /-- Tickets that wait, the oldest first. -/
  queue : List Nat := []
  /-- Tickets that hold a permit their owner has not picked up. -/
  granted : List Nat := []
  nextTicket : Nat := 0
  deriving DecidableEq, Repr

namespace Permits

/-- A permit at once, or a ticket. -/
def take (p : Permits) : Permits × Option Nat :=
  if 0 < p.free then ({ p with free := p.free - 1 }, none)
  else ({ p with queue := p.queue ++ [p.nextTicket], nextTicket := p.nextTicket + 1 },
    some p.nextTicket)

def giveBack (p : Permits) : Permits :=
  match p.queue with
  | [] => { p with free := p.free + 1 }
  | ticket :: queue => { p with queue, granted := p.granted ++ [ticket] }

def isGranted (p : Permits) (ticket : Nat) : Bool := p.granted.contains ticket

/-- The owner of a granted ticket goes on with its permit. -/
def pickUp (p : Permits) (ticket : Nat) : Permits := { p with granted := p.granted.erase ticket }

/-- The owner of a ticket gives up. -/
def leave (p : Permits) (ticket : Nat) : Permits :=
  if p.isGranted ticket then (p.pickUp ticket).giveBack
  else { p with queue := p.queue.erase ticket }

end Permits
end PileCheck
