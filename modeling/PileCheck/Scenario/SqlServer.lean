import PileCheck.Sql.Store

/-!
A database server that follows a script.

The script says which of the next statements and pings fail, which hosts refuse connections, what a
statement yields and how long everything takes. The server keeps a log of what it was asked.
-/
namespace PileCheck.Scenario

structure SqlServer where
  /-- One entry per statement to come: nothing, or its failure. -/
  failures : List (Option StoreFailure) := []
  pingFailures : List (Option StoreFailure) := []
  failHosts : List String := []
  rows : List Sql.Row := []
  affected : Nat := 1
  delayMs : Nat := 0
  pingDelayMs : Nat := 0
  connectDelayMs : Nat := 0
  connects : List (String × Bool) := []
  pings : Nat := 0
  statements : List (Sql.Statement × Bool) := []

namespace SqlServer

def clearLog (s : SqlServer) : SqlServer := { s with connects := [], pings := 0, statements := [] }

def beginPing (s : SqlServer) : SqlServer := { s with pings := s.pings + 1 }

def endPing (s : SqlServer) : SqlServer × Option StoreFailure :=
  ({ s with pingFailures := s.pingFailures.tail }, s.pingFailures.head?.join)

/-- A refused host says so in its own failure. -/
def connect (s : SqlServer) (e : Sql.Endpoint) : SqlServer × Option StoreFailure :=
  let refused := s.failHosts.contains e.host
  ({ s with connects := s.connects ++ [(e.connectionUrl, !refused)] },
    if refused then some (.transient ("cannot connect to " ++ e.host)) else none)

def execute (s : SqlServer) (stmt : Sql.Statement) : SqlServer × Sql.Answer :=
  let failure := s.failures.head?.join
  let s := { s with
    failures := s.failures.tail
    statements := s.statements ++ [(stmt, failure.isNone)] }
  (s, match failure with
    | some f => .error f
    | none => match stmt.kind with
      | .query => .ok (.rows s.rows)
      | .update => .ok (.affected s.affected))

/-! ## Calls on a pool

A stage that begins to wait is told when the server will answer it; from then on it has a reply. -/

/-- Turns to a stage that begins to wait, and says when its wait is over at the latest. -/
def attend (s : SqlServer) (p : Sql.Pool) (now : Nat) : Sql.Stage → SqlServer × Option Nat
  | .waiting _ => (s, some (now + p.limits.acquireTimeoutMs))
  | .queued _ => (s, none)
  | .probing _ _ => (s.beginPing, some (now + s.pingDelayMs))
  | .opening _ => (s, some (now + s.connectDelayMs))

/-- The reply to a stage, once there is one. A permit in hand counts before the timeout. -/
def reply? (s : SqlServer) (p : Sql.Pool) (now : Nat) (due : Option Nat) :
    Sql.Stage → Option (SqlServer × Sql.Reply)
  | .waiting ticket =>
    if p.permits.isGranted ticket then some (s, .granted)
    else if due.any (· ≤ now) then some (s, .expired) else none
  | .queued ticket => if p.turn.isGranted ticket then some (s, .granted) else none
  | .probing _ _ =>
    if due.any (· ≤ now) then
      let (s, failure) := s.endPing
      some (s, .pinged failure.isNone)
    else none
  | .opening o =>
    if due.any (· ≤ now) then
      let (s, refusal) := s.connect (p.endpoint o.endpoint)
      some (s, .connected refusal)
    else none

/-- Whether another call has handed a stage what it waits for. -/
def isHanded (p : Sql.Pool) : Sql.Stage → Bool
  | .waiting ticket => p.permits.isGranted ticket
  | .queued ticket => p.turn.isGranted ticket
  | _ => false

end SqlServer
end PileCheck.Scenario
