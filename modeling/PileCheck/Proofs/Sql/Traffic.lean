import PileCheck.Sql.Pool

/-!
# Traffic on a pool

A pool with the calls that wait on it and the connections that are lent. A `Traffic.Act` is what
happens between two waits: a call begins, one gets the reply that it waits for or is given up, a
borrower returns its connection. So a list of acts is an interleaving of any number of calls, with
connects and pings that succeed, fail or are cut off in any order.
-/

namespace PileCheck.Sql

/-- What a pool is that has just been opened. -/
theorem Pool.eq_of_open {role : Role} {endpoints : List Endpoint} {limits : Limits} {p : Pool}
    (hopen : Pool.open? role endpoints limits = .ok p) :
    p = { role, limits, endpoints, permits := { free := limits.maxSize } } := by
  unfold open? at hopen
  split at hopen
  · cases hopen
  · split at hopen
    · cases hopen
    · exact (Except.ok.inj hopen).symm

/-! ## What a call holds -/

namespace Stage

/-- The slot reserved for a connection that is being opened. -/
def opens : Stage → Nat
  | opening _ => 1
  | _ => 0

/-- The connection that was popped and is being probed. -/
def probes : Stage → Nat
  | probing _ _ => 1
  | _ => 0

/-- The permit in the hand of an acquire, to go with the connection that it will lend. -/
def borrows : Stage → Nat
  | probing _ _ => 1
  | opening o => if o.purpose = .lend then 1 else 0
  | _ => 0

/-- The ticket of an acquire that waits for a permit. -/
def ticket? : Stage → Option Nat
  | waiting ticket => some ticket
  | _ => none

/-- Whether an acquire holds a permit, picked up or not, and has not lent a connection yet. -/
def holdsPermit (permits : Permits) : Stage → Bool
  | waiting ticket => permits.isGranted ticket
  | s => s.borrows = 1

end Stage

/-- What some calls hold together. -/
def Stage.tally (f : Stage → Nat) : List Stage → Nat
  | [] => 0
  | s :: rest => f s + tally f rest

/-- The sum over all calls may be taken in parts, so one call can be looked at beside the others. -/
theorem Stage.tally_append (f : Stage → Nat) (calls others : List Stage) :
    tally f (calls ++ others) = tally f calls + tally f others := by
  induction calls with
  | nil => exact (Nat.zero_add _).symm
  | cons s rest ih => rw [List.cons_append, tally, ih, tally, Nat.add_assoc]

namespace Progress

/-- Where the call waits, if it does. -/
def stage? : Progress → Option Stage
  | waits s => some s
  | ends _ => none

/-- The connection that the call was lent, if it ended so. -/
def conn? : Progress → Option Conn
  | ends (.lent c) => some c
  | _ => none

end Progress

/-! ## Acts -/

/-- A pool, the places where its calls wait, and the connections that are out. -/
structure Traffic where
  pool : Pool
  calls : List Stage := []
  lent : List Conn := []

namespace Traffic

/-- Calls and lent connections are named by their place in their list. -/
inductive Act where
  | acquire
  | warmUp
  | reconnect
  | reply (i : Nat) (r : Reply)
  | abandon (i : Nat)
  | restore (i : Nat) (broken : Bool)

/-- A permit or the reconnect lock is only had when it was granted. -/
def admits (p : Pool) : Stage → Reply → Bool
  | .waiting ticket, .granted => p.permits.isGranted ticket
  | .queued ticket, .granted => p.turn.isGranted ticket
  | _, _ => true

/-- A call begins. It may be over at once, with a connection or without. -/
def enter (w : Traffic) (m : Pool × Progress) : Traffic :=
  { pool := m.1, calls := w.calls ++ m.2.stage?.toList, lent := w.lent ++ m.2.conn?.toList }

/-- A call runs to its next wait, or to its end. -/
def proceed (w : Traffic) (i : Nat) (m : Pool × Progress) : Traffic :=
  { pool := m.1
    calls := match m.2.stage? with
      | some s => w.calls.set i s
      | none => w.calls.eraseIdx i
    lent := w.lent ++ m.2.conn?.toList }

def reply (w : Traffic) (i : Nat) (r : Reply) : Traffic :=
  match w.calls[i]? with
  | some s => if admits w.pool s r then w.proceed i (w.pool.resume s r) else w
  | none => w

/-- A call is dropped at its wait, and gives back what it holds there. -/
def abandon (w : Traffic) (i : Nat) : Traffic :=
  match w.calls[i]? with
  | some s => { w with pool := w.pool.abandon s, calls := w.calls.eraseIdx i }
  | none => w

/-- A borrower returns a connection, and says whether it is broken. -/
def restore (w : Traffic) (i : Nat) (broken : Bool) : Traffic :=
  match w.lent[i]? with
  | some c => { w with pool := w.pool.restore c broken, lent := w.lent.eraseIdx i }
  | none => w

/-- An act of a call that is not there changes nothing. -/
def step (w : Traffic) : Act → Traffic
  | .acquire => w.enter (Pool.waits w.pool.acquire)
  | .warmUp => w.enter w.pool.warmUp
  | .reconnect => w.enter w.pool.reconnect
  | .reply i r => w.reply i r
  | .abandon i => w.abandon i
  | .restore i broken => w.restore i broken

def run (w : Traffic) (acts : List Act) : Traffic := acts.foldl step w

/-! ## Views -/

/-- The slots that are reserved. -/
def opening (w : Traffic) : Nat := Stage.tally Stage.opens w.calls

/-- The connections that calls have in hand. -/
def probing (w : Traffic) : Nat := Stage.tally Stage.probes w.calls

/-- The permits that calls have in hand. -/
def borrowing (w : Traffic) : Nat := Stage.tally Stage.borrows w.calls

/-- The acquires that have a permit and have not lent a connection yet. -/
def holding (w : Traffic) : Nat := w.calls.countP (·.holdsPermit w.pool.permits)

/-- The tickets of the acquires that wait, in the order of the calls. -/
def tickets (w : Traffic) : List Nat := w.calls.filterMap Stage.ticket?

end Traffic
end PileCheck.Sql
