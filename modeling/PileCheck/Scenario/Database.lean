import PileCheck.Scenario.SqlServer
import PileCheck.Scenario.Timeline
import PileCheck.Sql.Upkeep

/-!
A store and the scripted server behind it.

A call on the store is a task: it waits where the store says that it waits, for as long as the
server takes.
-/
namespace PileCheck.Scenario

structure Database where
  store : Sql.Store
  server : SqlServer := {}

namespace Database

inductive Errand where
  | statement (s : Sql.Statement) (preferReplica : Bool)
  | ping
  | connect

/-- Where a call waits, and when its wait is over at the latest. -/
inductive Frame where
  | fresh (e : Errand)
  | statement (c : Sql.Call) (due : Option Nat)
  | upkeep (s : Sql.Upkeep.Stage) (due : Option Nat)

inductive Result where
  | answered (a : Sql.Answer)
  | done (failure : Option StoreFailure)

abbrev Moves := Moved Database Frame Result

/-- A stage of a pool begins to wait. -/
def attend (d : Database) (role : Sql.Role) (now : Nat) (s : Sql.Stage) :
    Database × Option Nat :=
  let (server, due) := d.server.attend (d.store.pool role) now s
  ({ d with server }, due)

def reply? (d : Database) (role : Sql.Role) (now : Nat) (due : Option Nat) (s : Sql.Stage) :
    Option (Database × Sql.Reply) :=
  (d.server.reply? (d.store.pool role) now due s).map fun (server, r) => ({ d with server }, r)

/-! ## Statements -/

def attendCall (d : Database) (now : Nat) (c : Sql.Call) : Moves :=
  let (d, due) := match c.stage with
    | .acquiring s => d.attend c.role now s
    | .reconnecting _ s => d.attend c.role now s
    | .running _ => (d, some (now + d.server.delayMs))
    | .resting time => (d, some time)
  { world := d, next := .again (.statement c due) }

def replyToCall? (d : Database) (now : Nat) (due : Option Nat) (c : Sql.Call) :
    Option (Database × Sql.Call.Reply) :=
  match c.stage with
  | .acquiring s => (d.reply? c.role now due s).map fun (d, r) => (d, .pool r)
  | .reconnecting _ s => (d.reply? c.role now due s).map fun (d, r) => (d, .pool r)
  | .running _ =>
    if due.any (· ≤ now) then
      let (server, a) := d.server.execute c.statement
      some ({ d with server }, .answered a)
    else none
  | .resting _ => if due.any (· ≤ now) then some (d, .rested) else none

def followCall (d : Database) (now : Nat) (m : Sql.Store × Sql.Call.Progress) : Moves :=
  let d := { d with store := m.1 }
  match m.2 with
  | .waits c => d.attendCall now c
  | .ends _ a => { world := d, next := .ends (.answered a) }

/-! ## Upkeep -/

def attendUpkeep (d : Database) (now : Nat) (s : Sql.Upkeep.Stage) : Moves :=
  let (d, due) := match s with
    | .acquiring stage => d.attend .master now stage
    | .pinging _ => ({ d with server := d.server.beginPing }, some (now + d.server.pingDelayMs))
    | .warming role stage => d.attend role now stage
  { world := d, next := .again (.upkeep s due) }

def replyToUpkeep? (d : Database) (now : Nat) (due : Option Nat) (s : Sql.Upkeep.Stage) :
    Option (Database × Sql.Upkeep.Reply) :=
  match s with
  | .acquiring stage => (d.reply? .master now due stage).map fun (d, r) => (d, .pool r)
  | .warming role stage => (d.reply? role now due stage).map fun (d, r) => (d, .pool r)
  | .pinging _ =>
    if due.any (· ≤ now) then
      let (server, failure) := d.server.endPing
      some ({ d with server }, .pinged failure)
    else none

def followUpkeep (d : Database) (now : Nat) (m : Sql.Store × Sql.Upkeep.Progress) : Moves :=
  let d := { d with store := m.1 }
  match m.2 with
  | .waits s => d.attendUpkeep now s
  | .ends failure => { world := d, next := .ends (.done failure) }

/-! ## As tasks -/

def move (d : Database) (now : Nat) : Frame → Moves
  | .fresh (.statement s preferReplica) =>
    let (store, c) := d.store.begin s preferReplica now
    { d with store }.attendCall now c
  | .fresh .ping =>
    let (store, s) := d.store.ping
    { d with store }.attendUpkeep now s
  | .fresh .connect => d.followUpkeep now d.store.connect
  | .statement c due =>
    match d.replyToCall? now due c with
    | some (d, r) => d.followCall now (d.store.resume c now r)
    | none => { world := d, next := .waits (.statement c due) }
  | .upkeep s due =>
    match d.replyToUpkeep? now due s with
    | some (d, r) => d.followUpkeep now (d.store.resumeUpkeep s r)
    | none => { world := d, next := .waits (.upkeep s due) }

def timer : Frame → Option Nat
  | .fresh _ => none
  | .statement _ due => due
  | .upkeep _ due => due

def isHanded (d : Database) : Frame → Bool
  | .statement c _ =>
    match c.stage with
    | .acquiring s => SqlServer.isHanded (d.store.pool c.role) s
    | .reconnecting _ s => SqlServer.isHanded (d.store.pool c.role) s
    | _ => false
  | .upkeep (.acquiring s) _ => SqlServer.isHanded d.store.master s
  | .upkeep (.warming role s) _ => SqlServer.isHanded (d.store.pool role) s
  | _ => false

def rules : Rules Database Frame Result where
  timer := timer
  handed := isHanded
  yields _ := false
  move := move

end Database
end PileCheck.Scenario
