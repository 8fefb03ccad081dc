import PileCheck.Proofs.Sql.Traffic
import PileCheck.Sql.Upkeep

/-!
# A store at work

A store with the calls on it: those that run a statement, those of its upkeep, and what the finished
ones answered. A `Workload.Act` takes one call from a wait to the next, or cuts it off there, so a
list of acts is an interleaving of any number of calls. The answers of the server and the failures
of its connections are part of the acts, as are the clock and the draw for the jitter of a rest.
-/

namespace PileCheck.Sql

namespace Store

/-- A call is dropped at its wait. A connection that runs its statement goes back as it is. -/
def abandon (s : Store) (c : Call) : Store :=
  match c.stage with
  | .acquiring stage | .reconnecting _ stage =>
    s.setPool c.role ((s.pool c.role).abandon stage)
  | .running conn => s.setPool c.role ((s.pool c.role).restore conn false)
  | .resting _ => s

/-- Upkeep is dropped at its wait. A connection that is pinged goes back as it is. -/
def abandonUpkeep (s : Store) : Upkeep.Stage → Store
  | .acquiring stage => { s with master := s.master.abandon stage }
  | .pinging conn => { s with master := s.master.restore conn false }
  | .warming role stage => s.setPool role ((s.pool role).abandon stage)

/-- Whether a call may have the reply: a permit that was granted, an answer to its statement, the
end of a rest that is over. -/
def admits (s : Store) (c : Call) (now : Nat) : Call.Reply → Bool
  | .pool r => match c.stage with
    | .acquiring stage | .reconnecting _ stage => Traffic.admits (s.pool c.role) stage r
    | _ => false
  | .answered _ => match c.stage with
    | .running _ => true
    | _ => false
  | .rested => match c.stage with
    | .resting time => time ≤ now
    | _ => false

/-- Whether a reply ends the wait of a call, and not a part of it only. -/
def endsWait (s : Store) (c : Call) : Call.Reply → Bool
  | .pool r => match c.stage with
    | .acquiring stage | .reconnecting _ stage =>
      ((s.pool c.role).resume stage r).2.stage?.isNone
    | _ => false
  | .answered _ => match c.stage with
    | .running _ => true
    | _ => false
  | .rested => match c.stage with
    | .resting _ => true
    | _ => false

/-- Whether upkeep may have the reply. -/
def admitsUpkeep (s : Store) : Upkeep.Stage → Upkeep.Reply → Bool
  | .acquiring stage, .pool r => Traffic.admits s.master stage r
  | .warming role stage, .pool r => Traffic.admits (s.pool role) stage r
  | .pinging _, .pinged _ => true
  | _, _ => false

end Store

/-- A store with all that is under way on it. -/
structure Workload where
  store : Store
  calls : List Call := []
  upkeep : List Upkeep.Stage := []
  /-- The calls that are over and their answers, the oldest first. -/
  finished : List (Call × Answer) := []

namespace Workload

/-- Calls are named by their place in their list. -/
inductive Act where
  | begin (statement : Statement) (preferReplica : Bool) (now : Nat)
  | reply (i now : Nat) (r : Call.Reply) (draw : Float)
  | abandon (i : Nat)
  | ping
  | connect
  | tend (i : Nat) (r : Upkeep.Reply)
  | abandonUpkeep (i : Nat)

/-- A caller asks for a statement to be run. -/
def begin (w : Workload) (statement : Statement) (preferReplica : Bool) (now : Nat) : Workload :=
  let (store, c) := w.store.begin statement preferReplica now
  { w with store, calls := w.calls ++ [c] }

/-- A call runs to its next wait, or to its end. -/
def proceed (w : Workload) (i : Nat) (m : Store × Call.Progress) : Workload :=
  match m.2 with
  | .waits c => { w with store := m.1, calls := w.calls.set i c }
  | .ends c a =>
    { w with store := m.1, calls := w.calls.eraseIdx i, finished := w.finished ++ [(c, a)] }

/-- The jitter is drawn from zero on and below one. -/
def reply (w : Workload) (i now : Nat) (r : Call.Reply) (draw : Float) : Workload :=
  match w.calls[i]? with
  | some c =>
    if w.store.admits c now r = true ∧ 0 ≤ draw ∧ draw < 1 then
      w.proceed i (w.store.resume c now r draw)
    else w
  | none => w

/-- A caller drops its call, which never answers. -/
def abandon (w : Workload) (i : Nat) : Workload :=
  match w.calls[i]? with
  | some c => { w with store := w.store.abandon c, calls := w.calls.eraseIdx i }
  | none => w

/-- Upkeep begins, and waits or has nothing to do. -/
def enterUpkeep (w : Workload) (m : Store × Upkeep.Progress) : Workload :=
  match m.2 with
  | .waits stage => { w with store := m.1, upkeep := w.upkeep ++ [stage] }
  | .ends _ => { w with store := m.1 }

/-- Upkeep goes on, if it may have the reply. -/
def tend (w : Workload) (i : Nat) (r : Upkeep.Reply) : Workload :=
  match w.upkeep[i]? with
  | some stage =>
    if w.store.admitsUpkeep stage r then
      let m := w.store.resumeUpkeep stage r
      { w with
        store := m.1
        upkeep := match m.2 with
          | .waits stage => w.upkeep.set i stage
          | .ends _ => w.upkeep.eraseIdx i }
    else w
  | none => w

/-- Upkeep that is dropped is gone from its place. -/
def abandonUpkeep (w : Workload) (i : Nat) : Workload :=
  match w.upkeep[i]? with
  | some stage =>
    { w with store := w.store.abandonUpkeep stage, upkeep := w.upkeep.eraseIdx i }
  | none => w

/-- An act of a call that is not there changes nothing. -/
def step (w : Workload) : Act → Workload
  | .begin statement preferReplica now => w.begin statement preferReplica now
  | .reply i now r draw => w.reply i now r draw
  | .abandon i => w.abandon i
  | .ping => w.enterUpkeep (let (s, stage) := w.store.ping; (s, .waits stage))
  | .connect => w.enterUpkeep w.store.connect
  | .tend i r => w.tend i r
  | .abandonUpkeep i => w.abandonUpkeep i

/-- Act after act. -/
def run (w : Workload) (acts : List Act) : Workload := acts.foldl step w

end Workload
end PileCheck.Sql
