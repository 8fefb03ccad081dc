import PileCheck.Proofs.Sql.Hands
import PileCheck.Proofs.Sql.Workload

/-!
# What connections are used for

A workload with a journal of its connections: which endpoint each was opened to, which statements
were sent on it and with what they ended. The role in a line is that of the pool. No call looks at
the journal, nor at what is kept of each call, which is whether it prefers a replica.

The lines of an act are computed from the workload before it, by the stage of the call and the reply
that it gets (`Call.lines`, `Upkeep.Stage.lines`). A reply that the call does not wait for puts
nothing down, as it changes nothing.
-/

namespace PileCheck.Sql

/-- The endpoints of a role as the settings name them; the master has one. -/
def Settings.endpoints (s : Settings) : Role → List Endpoint
  | .master => [s.master]
  | .replica => s.replicas

/-- What happens to a connection. -/
inductive Line where
  | opened (role : Role) (endpoint : Endpoint) (c : Conn)
  | sent (role : Role) (c : Conn) (statement : Statement) (preferReplica : Bool)
  /-- The statement on a connection has its answer. -/
  | ended (role : Role) (c : Conn) (a : Answer)

/-- The connection that was opened by a pool of this role. -/
def Line.openedBy (role : Role) : Line → Option Conn
  | opened r _ c => if r = role then some c else none
  | _ => none

/-- The line for a connection that has arrived, if one has. -/
def openings (role : Role) (p : Pool) (arrived : Option Conn) : List Line :=
  arrived.toList.map fun c => .opened role (p.endpoint c.endpoint) c

/-! ## Calls -/

namespace Call

/-- What the call has in hand on the pool of its role. -/
def hand (c : Call) : Hand :=
  match c.stage with
  | .acquiring s | .reconnecting _ s => { stage? := some s }
  | .running conn => { lent? := some conn }
  | .resting _ => {}

/-- Whether a reply gets the call a connection, on which it sends its statement. -/
def sends (c : Call) (preferReplica : Bool) (progress : Sql.Progress) : List Line :=
  progress.conn?.toList.map fun conn => .sent c.role conn c.statement preferReplica

/-- What a reply to a call puts down, by where it waits: a connection that has arrived, the
statement once the acquire has got one, and its answer. -/
def lines (s : Store) (c : Call) (preferReplica : Bool) : Call.Reply → List Line
  | .pool r => match c.stage with
    | .acquiring stage =>
      openings c.role (s.pool c.role) (stage.arrival? (s.pool c.role) r)
        ++ c.sends preferReplica ((s.pool c.role).resume stage r).2
    | .reconnecting _ stage => openings c.role (s.pool c.role) (stage.arrival? (s.pool c.role) r)
    | _ => []
  | .answered a => match c.stage with
    | .running conn => [.ended c.role conn a]
    | _ => []
  | .rested => []

end Call

namespace Upkeep.Stage

/-- The pool on which upkeep waits. A ping is sent to the master. -/
def role : Upkeep.Stage → Role
  | acquiring _ | pinging _ => .master
  | warming role _ => role

/-- What upkeep has in hand. -/
def hand : Upkeep.Stage → Hand
  | acquiring s | warming _ s => { stage? := some s }
  | pinging conn => { lent? := some conn }

/-- Upkeep sends no statements, so only its connections are put down. -/
def lines (s : Store) : Upkeep.Stage → Upkeep.Reply → List Line
  | acquiring stage, .pool r =>
    openings .master (s.pool .master) (stage.arrival? (s.pool .master) r)
  | warming role stage, .pool r => openings role (s.pool role) (stage.arrival? (s.pool role) r)
  | _, _ => []

end Upkeep.Stage

/-- The hands of all calls and of all upkeep, each with the role of its pool. -/
def handsOf (calls : List Call) (upkeep : List Upkeep.Stage) : List (Role × Hand) :=
  calls.map (fun c => (c.role, c.hand)) ++ upkeep.map fun s => (s.role, s.hand)

/-! ## Acts -/

/-- A workload, with what its connections are used for. -/
structure StatementLog where
  work : Workload
  /-- Whether each call prefers a replica, at the place of the call. -/
  prefers : List Bool := []
  /-- The oldest line first. -/
  journal : List Line := []

namespace StatementLog

open Workload (Act)

/-- What a call puts down on a reply, if it has it. -/
def replyLines (w : StatementLog) (i now : Nat) (r : Call.Reply) (draw : Float) : List Line :=
  match w.work.calls[i]?, w.prefers[i]? with
  | some c, some preferReplica =>
    if w.work.store.admits c now r = true ∧ 0 ≤ draw ∧ draw < 1 then
      c.lines w.work.store preferReplica r
    else []
  | _, _ => []

/-- What upkeep puts down on a reply, if it has it. -/
def tendLines (w : StatementLog) (i : Nat) (r : Upkeep.Reply) : List Line :=
  match w.work.upkeep[i]? with
  | some stage => if w.work.store.admitsUpkeep stage r then stage.lines w.work.store r else []
  | none => []

/-- What an act puts down. Only replies open connections, send statements or bring answers. -/
def lines (w : StatementLog) : Act → List Line
  | .reply i now r draw => w.replyLines i now r draw
  | .tend i r => w.tendLines i r
  | .begin _ _ _ | .abandon _ | .ping | .connect | .abandonUpkeep _ => []

/-- A call that is over is gone from its place. -/
def kept (w : StatementLog) (i : Nat) (a : Act) : List Bool :=
  if (w.work.step a).calls.length < w.work.calls.length then w.prefers.eraseIdx i else w.prefers

def step (w : StatementLog) (a : Act) : StatementLog where
  work := w.work.step a
  prefers := match a with
    | .begin _ preferReplica _ => w.prefers ++ [preferReplica]
    | .reply i _ _ _ | .abandon i => w.kept i a
    | .ping | .connect | .tend _ _ | .abandonUpkeep _ => w.prefers
  journal := w.journal ++ w.lines a

/-- The pool of the call whose act it is. -/
def routed? (w : StatementLog) : Act → Option Role
  | .begin statement preferReplica _ => some (w.work.store.route statement.kind preferReplica)
  | .reply i _ _ _ | .abandon i => w.work.calls[i]?.map Call.role
  | .ping | .connect | .tend _ _ | .abandonUpkeep _ => none

def run (w : StatementLog) (acts : List Act) : StatementLog := acts.foldl step w

/-- All that is in hand, with the role of its pool. -/
def hands (w : StatementLog) : List (Role × Hand) := handsOf w.work.calls w.work.upkeep

theorem work_run (w : StatementLog) (acts : List Act) : (w.run acts).work = w.work.run acts :=
  (List.foldl_hom work fun _ _ => rfl).symm

end StatementLog
end PileCheck.Sql
