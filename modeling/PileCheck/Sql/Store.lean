import PileCheck.Sql.Pool
import PileCheck.Sql.Value

/-!
Statements that survive a lost connection.

A read goes to the replicas when it may and there are any, everything else to the master. An attempt
borrows a connection, runs the statement and returns the connection, broken if the failure was
transient. `Recovery.after` is what follows a failed attempt: another one after a wait, or, once the
first round is used up by transient failures, one reconnect of the pool and a second round.

Like the calls on a pool, a call on the store is cut where it waits, and `Store.resume` takes it
from one wait to the next. It keeps a log of its attempts, its rests and its reconnect.
-/
namespace PileCheck.Sql

inductive StatementKind where
  | query
  | update
  deriving DecidableEq, Repr

structure Statement where
  kind : StatementKind
  sql : String
  params : List Value
  deriving Repr

inductive Yield where
  | rows (rows : List Row)
  | affected (n : Nat)
  deriving DecidableEq, Repr

abbrev Answer := Except StoreFailure Yield

/-! ## Recovery -/

/-- Before the reconnect, or after it. -/
inductive Round where
  | first
  | second
  deriving DecidableEq, Repr

inductive Recovery where
  | retry (waitMs : Nat)
  | reconnect
  | giveUp
  deriving DecidableEq, Repr

/-- What follows when attempt number `attempt` of a round fails. -/
def Recovery.after (b : Backoff) (round : Round) (attempt : Nat) (f : StoreFailure)
    (draw : Float := 0) : Recovery :=
  match b.decide attempt (Outlook.ofFailure f) draw with
  | some ms => retry ms
  | none => if f.isTransient ∧ round = .first then reconnect else giveUp

/-! ## The store -/

structure Store where
  master : Pool
  replica : Option Pool
  retry : Backoff
  behavior : Behavior
  /-- Statements finished, well or not. -/
  statements : Nat := 0
  slowStatements : Nat := 0

inductive Call.Stage where
  | acquiring (s : Sql.Stage)
  | running (c : Conn)
  | resting (time : Nat)
  /-- With the failure that ended the first round. -/
  | reconnecting (f : StoreFailure) (s : Sql.Stage)
  deriving DecidableEq, Repr

/-- What a call puts down in its log. -/
inductive Deed where
  /-- An attempt is over. -/
  | tried (a : Answer)
  /-- Another one is to follow after a rest. -/
  | rested (ms : Nat)
  /-- The reconnect of the pool is over, well or not. -/
  | renewed (failure : Option StoreFailure)
  deriving Repr

structure Call where
  statement : Statement
  role : Role
  startedAt : Nat
  round : Round
  attempt : Nat
  stage : Call.Stage
  /-- The oldest deed first. -/
  log : List Deed := []
  deriving Repr

def Call.note (c : Call) (d : Deed) : Call := { c with log := c.log ++ [d] }

inductive Call.Reply where
  | pool (r : Sql.Reply)
  | answered (a : Answer)
  | rested

inductive Call.Progress where
  | waits (c : Call)
  | ends (c : Call) (a : Answer)

namespace Store

/-- Both pools, without a connection yet. -/
def open? (s : Settings) : Except StoreFailure Store := do
  let master ← Pool.open? .master [s.master] s.pool
  let replica ←
    if s.replicas.isEmpty then pure none
    else (Pool.open? .replica s.replicas s.pool).map some
  return { master, replica, retry := s.retry, behavior := s.behavior }

/-- The pool of a role; a store without replicas has one pool for both. -/
def pool (s : Store) : Role → Pool
  | .master => s.master
  | .replica => s.replica.getD s.master

def setPool (s : Store) (role : Role) (p : Pool) : Store :=
  match role, s.replica with
  | .replica, some _ => { s with replica := some p }
  | _, _ => { s with master := p }

/-- Where a statement goes. Only a read that prefers a replica may go to one. -/
def route (s : Store) (kind : StatementKind) (preferReplica : Bool) : Role :=
  if kind = .query ∧ preferReplica ∧ s.behavior.readFromReplicas ∧ s.replica.isSome then .replica
  else .master

/-- Counts a finished statement. -/
def observe (s : Store) (startedAt now : Nat) : Store :=
  { s with
    statements := s.statements + 1
    slowStatements :=
      if s.behavior.slowMs ≤ now - startedAt then s.slowStatements + 1 else s.slowStatements }

def finish (s : Store) (c : Call) (now : Nat) (a : Answer) : Store × Call.Progress :=
  (s.observe c.startedAt now, .ends c a)

def attempt (s : Store) (c : Call) : Store × Call :=
  let (p, stage) := (s.pool c.role).acquire
  (s.setPool c.role p, { c with stage := .acquiring stage })

def attempting (m : Store × Call) : Store × Call.Progress := (m.1, .waits m.2)

/-- The reconnect is over, one way or another. -/
def reconnected (s : Store) (c : Call) (now : Nat) (f : StoreFailure) :
    Ended → Store × Call.Progress
  | .reconnected =>
    attempting (s.attempt { c.note (.renewed none) with round := .second, attempt := 0 })
  | .failed g => s.finish (c.note (.renewed (some g))) now (.error f)
  | _ => s.finish c now (.error f)

/-- The attempt has failed. -/
def failed (s : Store) (c : Call) (now : Nat) (f : StoreFailure) (draw : Float) :
    Store × Call.Progress :=
  let c := c.note (.tried (.error f))
  match Recovery.after s.retry c.round c.attempt f draw with
  | .retry ms => (s, .waits { c.note (.rested ms) with stage := .resting (now + ms) })
  | .giveUp => s.finish c now (.error f)
  | .reconnect =>
    let (p, progress) := (s.pool c.role).reconnect
    let s := s.setPool c.role p
    match progress with
    | .waits stage => (s, .waits { c with stage := .reconnecting f stage })
    | .ends e => s.reconnected c now f e

/-- The attempt has an answer; its connection goes back. -/
def answered (s : Store) (c : Call) (now : Nat) (conn : Conn) (a : Answer) (draw : Float) :
    Store × Call.Progress :=
  let broken := match a with
    | .error f => f.isTransient
    | .ok _ => false
  let s := s.setPool c.role ((s.pool c.role).restore conn broken)
  match a with
  | .ok y => s.finish (c.note (.tried (.ok y))) now (.ok y)
  | .error f => s.failed c now f draw

def begin (s : Store) (statement : Statement) (preferReplica : Bool) (now : Nat) : Store × Call :=
  s.attempt {
    statement
    role := s.route statement.kind preferReplica
    startedAt := now
    round := .first
    attempt := 0
    stage := .resting now }

/-- Takes a call from one wait to the next; `draw` is for the jitter of a rest. -/
def resume (s : Store) (c : Call) (now : Nat) (r : Call.Reply) (draw : Float := 0) :
    Store × Call.Progress :=
  match r with
  | .pool r =>
    match c.stage with
    | .acquiring stage =>
      let (p, progress) := (s.pool c.role).resume stage r
      let s := s.setPool c.role p
      match progress with
      | .waits stage => (s, .waits { c with stage := .acquiring stage })
      | .ends (.lent conn) => (s, .waits { c with stage := .running conn })
      | .ends (.failed f) => s.failed c now f draw
      | .ends _ => (s, .waits c)
    | .reconnecting f stage =>
      let (p, progress) := (s.pool c.role).resume stage r
      let s := s.setPool c.role p
      match progress with
      | .waits stage => (s, .waits { c with stage := .reconnecting f stage })
      | .ends e => s.reconnected c now f e
    | _ => (s, .waits c)
  | .answered a =>
    match c.stage with
    | .running conn => s.answered c now conn a draw
    | _ => (s, .waits c)
  | .rested =>
    match c.stage with
    | .resting _ => attempting (s.attempt { c with attempt := c.attempt + 1 })
    | _ => (s, .waits c)

end Store
end PileCheck.Sql
