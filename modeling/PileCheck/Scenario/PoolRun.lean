import PileCheck.Scenario.Play
import PileCheck.Scenario.SqlServer

/-!
A pool at work against a scripted server.

Borrowed connections are held under names.
-/
namespace PileCheck.Scenario.PoolRun

structure Held where
  conn : Sql.Conn
  broken : Bool := false

structure World where
  pool : Sql.Pool
  server : SqlServer := {}
  held : List (String × Held) := []

inductive Errand where
  | acquire
  | warmUp
  | reconnect
  deriving DecidableEq, Repr

inductive Frame where
  /-- Not begun; given up after so long, if at all. -/
  | fresh (e : Errand) (patienceMs : Option Nat)
  | call (s : Sql.Stage) (due cut : Option Nat)
  /-- A statement on the connection held under a name. -/
  | use (name sql : String)
  | statement (stmt : Sql.Statement) (due : Nat)

inductive Result where
  | ended (e : Sql.Ended)
  | abandoned
  | answered (a : Sql.Answer)
  | notHeld

abbrev Moves := Moved World Frame Result

def await (w : World) (now : Nat) (cut : Option Nat) (s : Sql.Stage) : Moves :=
  let (server, due) := w.server.attend w.pool now s
  { world := { w with server }, next := .again (.call s due cut) }

def follow (w : World) (now : Nat) (cut : Option Nat) (m : Sql.Pool × Sql.Progress) : Moves :=
  let w := { w with pool := m.1 }
  match m.2 with
  | .waits s => await w now cut s
  | .ends e => { world := w, next := .ends (.ended e) }

def move (w : World) (now : Nat) : Frame → Moves
  | .fresh e patience =>
    let cut := patience.map (now + ·)
    match e with
    | .acquire =>
      let (pool, s) := w.pool.acquire
      await { w with pool } now cut s
    | .warmUp => follow w now cut w.pool.warmUp
    | .reconnect => follow w now cut w.pool.reconnect
  | .call s due cut =>
    match w.server.reply? w.pool now due s with
    | some (server, r) => follow { w with server } now cut (w.pool.resume s r)
    | none =>
      if cut.any (· ≤ now) then
        { world := { w with pool := w.pool.abandon s }, next := .ends .abandoned }
      else { world := w, next := .waits (.call s due cut) }
  | .use name sql =>
    match w.held.lookup name with
    | none => { world := w, next := .ends .notHeld }
    | some _ =>
      { world := w, next := .again (.statement ⟨.update, sql, []⟩ (now + w.server.delayMs)) }
  | .statement stmt due =>
    if due ≤ now then
      let (server, a) := w.server.execute stmt
      { world := { w with server }, next := .ends (.answered a) }
    else { world := w, next := .waits (.statement stmt due) }

/-- The earlier of two times, where one may be missing. -/
def earlier? : Option Nat → Option Nat → Option Nat
  | some a, some b => some (min a b)
  | a, none => a
  | none, b => b

def rules : Rules World Frame Result where
  timer
    | .fresh _ _ => none
    | .call _ due cut => earlier? due cut
    | .use _ _ => none
    | .statement _ due => some due
  handed w
    | .call s _ _ => SqlServer.isHanded w.pool s
    | _ => false
  yields _ := false
  move := move

/-! ## Steps -/

inductive Outcome where
  | done
  | acquired
  | warmed (opened : Nat)
  | reconnected
  | executed (affected : Nat)
  | failed (f : StoreFailure)
  | cancelled
  | held (was : Bool)
  | notHeld
  deriving DecidableEq, Repr

abbrev Act := Scenario.Act World Frame Result Outcome

namespace World

def giveBack (w : World) (h : Held) : World :=
  { w with pool := w.pool.restore h.conn h.broken }

def release (w : World) (name : String) : World × Bool :=
  match w.held.lookup name with
  | some h => ({ w with held := w.held.filter (·.1 != name) }.giveBack h, true)
  | none => (w, false)

/-- The new connection is held before an older one of the same name goes back. -/
def hold (w : World) (name : String) (c : Sql.Conn) : World :=
  let older := w.held.lookup name
  let w := { w with held := (name, { conn := c }) :: w.held.filter (·.1 != name) }
  match older with
  | some h => w.giveBack h
  | none => w

def markBroken (w : World) (name : String) : World :=
  { w with held := w.held.map fun (n, h) =>
      if n = name then (n, { h with broken := true }) else (n, h) }

def script (w : World) (change : SqlServer → SqlServer) : World :=
  { w with server := change w.server }

end World

def settle (name : String) (w : World) : Result → World × Outcome
  | .ended (.lent c) => (w.hold name c, .acquired)
  | .ended (.warmed n) => (w, .warmed n)
  | .ended .reconnected => (w, .reconnected)
  | .ended (.failed f) => (w, .failed f)
  | .abandoned => (w, .cancelled)
  | .answered (.ok (.affected n)) => (w, .executed n)
  | .answered (.ok (.rows rows)) => (w, .executed rows.length)
  | .answered (.error f) => (w, .failed f)
  | .notHeld => (w, .notHeld)

/-- A call on the pool; a connection that it lends is held under the name. -/
def call (name : String) (e : Errand) (patienceMs : Option Nat) : Act :=
  .task (.fresh e patienceMs) (settle name)

def script (change : SqlServer → SqlServer) : Act :=
  .instant fun w _ => (w.script change, .done, none)

def use (name sql : String) : Act := .task (.use name sql) (settle name)

def markBroken (name : String) : Act := .instant fun w _ => (w.markBroken name, .done, none)

def release (name : String) : Act := .instant fun w _ =>
  let (w, was) := w.release name
  (w, .held was, none)

end PileCheck.Scenario.PoolRun
