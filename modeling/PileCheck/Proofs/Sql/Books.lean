import PileCheck.Proofs.Permits
import PileCheck.Proofs.Sql.Traffic

/-!
# The books of a pool

`Books` is what the counters of a pool say about the calls on it. Four numbers stand for the calls:
slots reserved for connections being opened, connections in the hands of calls, permits in their
hands, and connections lent out.

The operations of a pool are put together from a few entries. A slot is taken or dropped; a
connection arrives in a reserved slot, is parked, popped, discarded, lent or taken back; a permit is
taken, picked up or given back. Each entry has one lemma that says how it moves the four numbers,
and the operations follow by putting them in order. A connection that has just arrived counts as
one in hand, as a probed one does, so that both are lent by the same entry.
-/

namespace PileCheck.Sql

/-- The counters agree with the calls: so many slots reserved, connections and permits in hand,
connections lent, and these tickets out. -/
structure Books (size : Nat) (p : Pool) (reserved hand permits lent : Nat) (tickets : List Nat) :
    Prop where
  total : p.total = p.idle.length + p.inUse + reserved + hand
  created : p.created = p.discarded + p.idle.length + p.inUse + hand
  lent : p.inUse = lent
  permits : p.permits.spare + p.inUse + permits = size
  tickets : p.permits.Sound tickets
  clean : p.overdrawn = false

namespace Books

variable {size reserved hand permits lent : Nat} {p : Pool} {tickets : List Nat} {c : Conn}

/-! ## Slots and connections -/

/-- A slot is reserved for a connection that is to be opened. -/
theorem takeSlot (h : Books size p reserved hand permits lent tickets) :
    Books size p.takeSlot (reserved + 1) hand permits lent tickets := by
  refine ⟨?_, h.created, h.lent, h.permits, h.tickets, h.clean⟩
  have := h.total
  show p.total + 1 = p.idle.length + p.inUse + (reserved + 1) + hand
  omega

/-- The connection that the slot was for never came to be. -/
theorem dropSlot (h : Books size p (reserved + 1) hand permits lent tickets) :
    Books size p.dropSlot reserved hand permits lent tickets := by
  have htotal := h.total
  refine ⟨?_, h.created, h.lent, h.permits, h.tickets, ?_⟩
  · show p.total - 1 = p.idle.length + p.inUse + reserved + hand
    omega
  · -- the slot was counted, so there was one to give back
    have hnot : ¬p.total < 1 := by omega
    show (p.overdrawn || decide (p.total < 1)) = false
    rw [h.clean, decide_eq_false hnot]
    rfl

/-- A connect succeeded: the reserved slot is that of a connection in hand. -/
theorem arrive (h : Books size p (reserved + 1) hand permits lent tickets) :
    Books size { p with created := p.created + 1 } reserved (hand + 1) permits lent tickets := by
  have htotal := h.total
  have hcreated := h.created
  refine ⟨?_, ?_, h.lent, h.permits, h.tickets, h.clean⟩
  · show p.total = p.idle.length + p.inUse + reserved + (hand + 1)
    omega
  · show p.created + 1 = p.discarded + p.idle.length + p.inUse + (hand + 1)
    omega

/-- A connection in hand is put behind those that are parked. It keeps its slot. -/
theorem park (h : Books size p reserved (hand + 1) permits lent tickets) (c : Conn) :
    Books size (p.park c) reserved hand permits lent tickets := by
  have htotal := h.total
  have hcreated := h.created
  have hlength : (p.park c).idle.length = p.idle.length + 1 := List.length_append
  refine ⟨?_, ?_, h.lent, h.permits, h.tickets, h.clean⟩
  · show p.total = (p.park c).idle.length + p.inUse + reserved + hand
    omega
  · show p.created = p.discarded + (p.park c).idle.length + p.inUse + hand
    omega

/-- The first parked connection is taken in hand. -/
theorem pop {rest : List Conn}
    (h : Books size { p with idle := c :: rest } reserved hand permits lent tickets) :
    Books size { p with idle := rest } reserved (hand + 1) permits lent tickets := by
  have htotal : p.total = rest.length + 1 + p.inUse + reserved + hand := h.total
  have hcreated : p.created = p.discarded + (rest.length + 1) + p.inUse + hand := h.created
  refine ⟨?_, ?_, h.lent, h.permits, h.tickets, h.clean⟩
  · show p.total = rest.length + p.inUse + reserved + (hand + 1)
    omega
  · show p.created = p.discarded + rest.length + p.inUse + (hand + 1)
    omega

/-- Connections in hand are closed, and their slots are given back. -/
theorem discard {n : Nat} (h : Books size p reserved (hand + n) permits lent tickets) :
    Books size (p.discard n) reserved hand permits lent tickets := by
  have htotal := h.total
  have hcreated := h.created
  refine ⟨?_, ?_, h.lent, h.permits, h.tickets, ?_⟩
  · show p.total - n = p.idle.length + p.inUse + reserved + hand
    omega
  · show p.created = p.discarded + n + p.idle.length + p.inUse + hand
    omega
  · -- what is in hand has a slot each
    have hnot : ¬p.total < n := by omega
    show (p.overdrawn || decide (p.total < n)) = false
    rw [h.clean, decide_eq_false hnot]
    rfl

/-- A connection in hand goes out, and the permit with it. -/
theorem lend (h : Books size p reserved (hand + 1) (permits + 1) lent tickets) (c : Conn) :
    Books size (p.lend c).1 reserved hand permits (lent + 1) tickets := by
  have htotal := h.total
  have hcreated := h.created
  have hlent := h.lent
  have hpermits := h.permits
  refine ⟨?_, ?_, ?_, ?_, h.tickets, h.clean⟩
  · show p.total = p.idle.length + (p.inUse + 1) + reserved + hand
    omega
  · show p.created = p.discarded + p.idle.length + (p.inUse + 1) + hand
    omega
  · show p.inUse + 1 = lent + 1
    omega
  · show p.permits.spare + (p.inUse + 1) + permits = size
    omega

/-- A borrower returns its connection: it is in the hand of the call that returns it, with its
permit, until the pool has decided what to do with it. -/
theorem takeBack (h : Books size p reserved hand permits (lent + 1) tickets) :
    Books size p.takeBack reserved (hand + 1) (permits + 1) lent tickets := by
  have htotal := h.total
  have hcreated := h.created
  have hlent := h.lent
  have hpermits := h.permits
  refine ⟨?_, ?_, ?_, ?_, h.tickets, ?_⟩
  · show p.total = p.idle.length + (p.inUse - 1) + reserved + (hand + 1)
    omega
  · show p.created = p.discarded + p.idle.length + (p.inUse - 1) + (hand + 1)
    omega
  · show p.inUse - 1 = lent
    omega
  · show p.permits.spare + (p.inUse - 1) + (permits + 1) = size
    omega
  · -- this borrower was counted
    have hnot : ¬p.inUse < 1 := by omega
    show (p.overdrawn || decide (p.inUse < 1)) = false
    rw [h.clean, decide_eq_false hnot]
    rfl

/-! ## Permits -/

/-- A permit in hand is given back, to the next in the queue or to be free. -/
theorem releasePermit (h : Books size p reserved hand (permits + 1) lent tickets) :
    Books size p.releasePermit reserved hand permits lent tickets := by
  have hpermits := h.permits
  have hspare := p.permits.spare_giveBack
  -- one permit less in hand, one more to spare
  refine ⟨h.total, h.created, h.lent, ?_, h.tickets.giveBack, h.clean⟩
  show p.permits.giveBack.spare + p.inUse + permits = size
  omega

/-- There was a permit to be had, and it is in hand. -/
theorem takePermit (h : Books size p reserved hand permits lent tickets)
    (htake : p.permits.take.2 = none) :
    Books size { p with permits := p.permits.take.1 } reserved hand (permits + 1) lent tickets := by
  have hpermits := h.permits
  have hspare := Permits.spare_take_none htake
  refine ⟨h.total, h.created, h.lent, ?_, h.tickets.take_none htake, h.clean⟩
  show p.permits.take.1.spare + p.inUse + (permits + 1) = size
  omega

/-- There was none, and the call waits with a ticket. -/
theorem takeTicket {t : Nat} (h : Books size p reserved hand permits lent tickets)
    (htake : p.permits.take.2 = some t) :
    Books size { p with permits := p.permits.take.1 } reserved hand permits lent
      (tickets ++ [t]) := by
  have hpermits := h.permits
  have hspare := Permits.spare_take_some htake
  -- a ticket takes no permit
  refine ⟨h.total, h.created, h.lent, ?_, h.tickets.take_some htake, h.clean⟩
  show p.permits.take.1.spare + p.inUse + permits = size
  omega

/-- A permit that was granted to a ticket is picked up: it was put aside for it, so it is no longer
to spare. -/
theorem pickUp {before after : List Nat} {t : Nat}
    (h : Books size p reserved hand permits lent (before ++ t :: after))
    (hgranted : p.permits.isGranted t = true) :
    Books size { p with permits := p.permits.pickUp t } reserved hand (permits + 1) lent
      (before ++ after) := by
  have hpermits := h.permits
  have hspare := Permits.spare_pickUp hgranted
  refine ⟨h.total, h.created, h.lent, ?_, h.tickets.pickUp hgranted, h.clean⟩
  show (p.permits.pickUp t).spare + p.inUse + (permits + 1) = size
  omega

/-- A ticket is given up. If a permit was put aside for it, the next in the queue has it. -/
theorem leave {before after : List Nat} {t : Nat}
    (h : Books size p reserved hand permits lent (before ++ t :: after)) :
    Books size { p with permits := p.permits.leave t } reserved hand permits lent
      (before ++ after) := by
  have hspare := p.permits.spare_leave t
  refine ⟨h.total, h.created, h.lent, ?_, h.tickets.leave, h.clean⟩
  show (p.permits.leave t).spare + p.inUse + permits = size
  rw [hspare]
  exact h.permits

end Books
end PileCheck.Sql
