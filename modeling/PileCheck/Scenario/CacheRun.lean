import PileCheck.Scenario.CacheServer

/-!
The link to the cache at work against a scripted server.

Attempts go on only while somebody waits, be it for them or for a command. What a mute server has
been told it never answers, not even when it has found its tongue. The clock moves when a wait comes
to nothing, and a little with each command.
-/
namespace PileCheck.Scenario.CacheRun

open Cache (Link Asking Query)

/-- An attempt under way. -/
inductive Dial where
  | fresh
  /-- Nobody answers on its connection; it expires at a time. -/
  | stuck (connection time : Nat)

def Dial.time? : Dial → Option Nat
  | fresh => none
  | stuck _ time => some time

structure World where
  link : Link
  server : CacheServer := {}
  now : Nat := 0
  attempts : List Dial := []

inductive Step where
  | connect
  | wait (ms : Nat)
  | disconnect
  | ask (q : Query)
  | script (change : CacheServer → CacheServer)

inductive Outcome where
  | done
  | answer (b : Bool)
  | found (r : Except CacheFailure Cache.Found)

namespace World

def begin (w : World) (m : Link × Option Cache.Attempt) : World :=
  { w with link := m.1, attempts := w.attempts ++ m.2.toList.map fun _ => .fresh }

/-- An attempt ends; what it says about the link it says at once. -/
def finish (w : World) (r : Cache.Attempt.Reply) : World :=
  let (link, attempt) := w.link.resumeAttempt .dialing r
  match attempt with
  | some a => { w with link := (link.resumeAttempt a .announced).1 }
  | none => { w with link }

def goOn (w : World) : Dial → World
  | .fresh =>
    let time := w.now + w.link.settings.connectTimeoutMs
    if time ≤ w.now then w.finish .expired
    else match w.server.connect with
      | (server, .inl r) => { w with server }.finish r
      | (server, .inr connection) =>
        { w with server, attempts := w.attempts ++ [.stuck connection time] }
  | .stuck connection time =>
    if time ≤ w.now then w.finish .expired
    else if w.server.connections.contains connection then
      { w with attempts := w.attempts ++ [.stuck connection time] }
    else w.finish .refused

def proceed (w : World) : World := w.attempts.foldl goOn { w with attempts := [] }

/-- Waits until the attempts have come to something, but not for ever. -/
def await (w : World) (ms : Nat) : World × Bool :=
  match w.link.outlook? with
  | some b => (w, b)
  | none =>
    let w := w.proceed
    match w.link.verdict?, (w.attempts.filterMap Dial.time?).min? with
    | some b, _ => (w, b)
    | none, some time =>
      if time ≤ w.now + ms then
        let w := { w with now := time }.proceed
        (w, w.link.verdict?.getD false)
      else ({ w with now := w.now + ms }, false)
    | none, none => ({ w with now := w.now + ms }, false)

/-- The reply to a query where it waits, if there ever is one. -/
def reply? (w : World) : Asking → Option (World × Asking.Reply)
  | .reply connection c _ =>
    (w.server.reply? connection c).map fun (server, r) => ({ w with server }, .said r)
  | .leaving _ _ => some (w, .left)

/-- Takes a query through at most so many waits; attempts go on meanwhile. -/
def converse (w : World) : Nat → Asking.Progress → World × Option (Except CacheFailure Cache.Found)
  | _, .ends r => (w, some r)
  | 0, .waits _ => (w, none)
  | n + 1, .waits a =>
    match w.reply? a with
    | none => (w, none)
    | some (w, r) =>
      let w := { w with now := w.now + 1 }.proceed
      let (link, progress) := w.link.resumeAsking a r
      { w with link }.converse n progress

/-- The most waits of a query: one for each page, and one to take down the link. -/
def patience (w : World) : Nat := w.server.pages.length + 2

def ask (w : World) (q : Query) : World × Outcome :=
  let (link, attempt, progress) := w.link.ask w.now q
  let w := w.begin (link, attempt)
  match w.converse w.patience progress with
  | (w, some r) => (w, .found r)
  | (w, none) => (w, .done)

def step (w : World) : Step → World × Outcome
  | .connect => (w.begin (w.link.connect w.now), .done)
  | .wait ms =>
    let (w, b) := w.await ms
    (w, .answer b)
  | .disconnect =>
    let (link, leave) := w.link.leave
    ({ w with link := link.left leave }, .done)
  | .ask q => w.ask q
  | .script change => ({ w with server := change w.server }, .done)

def records (w : World) : List Step → List (Outcome × World)
  | [] => []
  | s :: rest =>
    let (w, o) := w.step s
    (o, w) :: records { w with server := w.server.clearLog } rest

end World
end PileCheck.Scenario.CacheRun
