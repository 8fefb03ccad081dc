import PileCheck.Sql.Store

/-!
Calls on the store that run no statement.

A ping borrows a connection of the master and returns it whole. Connecting opens the connections
that are kept ahead of demand, the master's first; a replica that cannot be reached is left to
connect when it is needed.
-/
namespace PileCheck.Sql

namespace Upkeep

/-- Where a call waits. -/
inductive Stage where
  /-- A ping without a connection yet. -/
  | acquiring (s : Sql.Stage)
  | pinging (c : Conn)
  | warming (role : Role) (s : Sql.Stage)
  deriving DecidableEq, Repr

inductive Reply where
  | pool (r : Sql.Reply)
  | pinged (failure : Option StoreFailure)
  deriving DecidableEq, Repr

inductive Progress where
  | waits (s : Stage)
  | ends (failure : Option StoreFailure)
  deriving DecidableEq, Repr

end Upkeep

namespace Store

def ping (s : Store) : Store × Upkeep.Stage :=
  let (p, stage) := s.master.acquire
  ({ s with master := p }, .acquiring stage)

/-- A replica's warm-up is over, well or not. -/
def warmedReplica (s : Store) : Sql.Progress → Store × Upkeep.Progress
  | .waits stage => (s, .waits (.warming .replica stage))
  | .ends _ => (s, .ends none)

def warmReplica (s : Store) : Store × Upkeep.Progress :=
  match s.replica with
  | none => (s, .ends none)
  | some p =>
    let (p, progress) := p.warmUp
    { s with replica := some p }.warmedReplica progress

/-- The master's warm-up goes on; without it there is no store. -/
def warmedMaster (s : Store) : Sql.Progress → Store × Upkeep.Progress
  | .waits stage => (s, .waits (.warming .master stage))
  | .ends (.failed f) => (s, .ends (some f))
  | .ends _ => s.warmReplica

def connect (s : Store) : Store × Upkeep.Progress :=
  let (p, progress) := s.master.warmUp
  { s with master := p }.warmedMaster progress

/-- Takes a call from one wait to the next. -/
def resumeUpkeep (s : Store) : Upkeep.Stage → Upkeep.Reply → Store × Upkeep.Progress
  | .acquiring stage, .pool r =>
    let (p, progress) := s.master.resume stage r
    let s := { s with master := p }
    match progress with
    | .waits stage => (s, .waits (.acquiring stage))
    | .ends (.lent c) => (s, .waits (.pinging c))
    | .ends (.failed f) => (s, .ends (some f))
    | .ends _ => (s, .ends none)
  | .pinging c, .pinged failure =>
    ({ s with master := s.master.restore c false }, .ends failure)
  | .warming .master stage, .pool r =>
    let (p, progress) := s.master.resume stage r
    { s with master := p }.warmedMaster progress
  | .warming .replica stage, .pool r =>
    let (p, progress) := (s.pool .replica).resume stage r
    (s.setPool .replica p).warmedReplica progress
  | stage, _ => (s, .waits stage)

end Store
end PileCheck.Sql
