import PileCheck.Check.Event
import PileCheck.Check.Settings
import PileCheck.Check.Summary
import PileCheck.Table

/-!
The desk that runs checks.

It keeps at most one session for each device, numbers the requests, and says which events it lets
observers hear. Its operations are cut where a check waits: a command is out between `trigger` and
`published`, and a message that ends a check leaves a `Closing`, whose session the desk no longer
has. So a second message for the same end finds no session and leaves nothing to do.
-/
namespace PileCheck.Check

structure Desk where
  settings : Settings
  /-- The active sessions, by device. -/
  sessions : Table Session := .empty
  /-- Requests are numbered from one on. Numbers of 64 bits would come round after `2 ^ 64` triggers
  only, which no run gets to, so none is ever given twice. -/
  nextRequest : Nat := 1

/-- A command that is being published. -/
structure Trigger where
  request : Nat
  device : String
  deriving DecidableEq, Repr

def Trigger.command (t : Trigger) : Command := .request t.request t.device

/-- A check that has ended and is to be recorded. -/
structure Closing where
  /-- The session as it ended. -/
  session : Session
  reported : Reported
  deriving DecidableEq, Repr

def orElse (text fallback : String) : String := if text = "" then fallback else text

namespace Desk

def session? (d : Desk) (device : String) : Option Session := d.sessions.find? device

def put (d : Desk) (s : Session) : Desk := { d with sessions := d.sessions.insert s.device s }

def remove (d : Desk) (device : String) : Desk := { d with sessions := d.sessions.erase device }

@[simp] theorem session?_put (d : Desk) (s : Session) (device : String) :
    (d.put s).session? device = if device = s.device then some s else d.session? device :=
  Table.find?_insert _ _ _ _

@[simp] theorem session?_remove (d : Desk) (gone device : String) :
    (d.remove gone).session? device = if device = gone then none else d.session? device :=
  Table.find?_erase _ _ _

@[simp] theorem nextRequest_put (d : Desk) (s : Session) :
    (d.put s).nextRequest = d.nextRequest := rfl

@[simp] theorem nextRequest_remove (d : Desk) (device : String) :
    (d.remove device).nextRequest = d.nextRequest := rfl

/-! ## Commands -/

/-- Opens a session for a device, in place of an earlier one, and has its command to publish. -/
def trigger (d : Desk) (device : String) (m : Moment) : Desk × Trigger :=
  ({ d with nextRequest := d.nextRequest + 1 }.put (.start d.nextRequest device m),
    ⟨d.nextRequest, device⟩)

@[simp] theorem session?_trigger (d : Desk) (device : String) (m : Moment) (k : String) :
    (d.trigger device m).1.session? k
      = if k = device then some (.start d.nextRequest device m) else d.session? k :=
  session?_put _ _ _

/-- Removes the session of a request, unless a later request has taken its place. -/
def withdraw (d : Desk) (t : Trigger) : Desk :=
  match d.session? t.device with
  | some s => if s.request = t.request then d.remove t.device else d
  | none => d

/-- The command is out, or it could not be published. -/
def published (d : Desk) (t : Trigger) :
    Option BusFailure → Desk × List Event × Except CheckFailure Nat
  | none => (d, [.progress t.device "Self-check command sent" false], .ok t.request)
  | some f =>
    (d.withdraw t,
      [.progress t.device ("Self-check command not sent: " ++ f.message) false],
      .error (.ofBus f))

/-! ## Messages -/

/-- Ends a session: observers hear how, and the closing is what is left of it. -/
def close (d : Desk) (s : Session) (state : SessionState) (description : String)
    (reported : Reported) (m : Moment) : Desk × List Event × Option Closing :=
  (d.remove s.device, [.progress s.device description false],
    some { session := s.finish state description m, reported })

def Notice.reported (n : Notice) : Reported :=
  { origin := .notice, result := n.result.getD 0, successCount := n.successCount,
    failCount := n.failCount, code := none }

def FinalResult.reported (r : FinalResult) : Reported :=
  { origin := .final, result := r.result, successCount := some r.successCount,
    failCount := some r.failCount, code := some r.code }

def onNotice (d : Desk) (n : Notice) (m : Moment) : Desk × List Event × Option Closing :=
  match d.session? n.device with
  | none => (d, [], none)
  | some s =>
    if n.index.any (· ≠ s.request) then (d, [], none)
    else match s.state.onNotice n.state with
      | .ignore _ => (d, [], none)
      | .acknowledge =>
        (d.put (s.touch n.description m), [.progress n.device n.description false], none)
      | .advance .started =>
        (d.put ({ s with state := .started }.touch n.description m),
          [.progress n.device (orElse n.description "Self-check started") true], none)
      | .advance _ =>
        let reported := Notice.reported n
        d.close s (if reported.isFailure then .failed else .completed)
          (orElse n.description "Self-check completed") reported m

def onFinal (d : Desk) (r : FinalResult) (m : Moment) : Desk × List Event × Option Closing :=
  match d.session? r.device with
  | none => (d, [], none)
  | some s =>
    if r.index.any (· ≠ s.request) then (d, [], none)
    else d.close s (if r.succeeded then .completed else .failed) r.description
      (FinalResult.reported r) m

def onMessage (d : Desk) (m : Moment) : Inbound → Desk × List Event × Option Closing
  | .notice n => d.onNotice n m
  | .final r => d.onFinal r m
  | .ignored _ => (d, [], none)

/-- Takes in a payload; one that is no message of this exchange is dropped. -/
def receive (d : Desk) (payload : ByteArray) (m : Moment) : Desk × List Event × Option Closing :=
  match Inbound.parse payload with
  | .ok message => d.onMessage m message
  | .error _ => (d, [], none)

/-! ## Silence -/

def timeoutEvents (s : Session) : List Event :=
  [.timedOut s.device s.request, .progress s.device "Self-check timed out" false,
    .result s.device s.request .failed (-1) 0 0]

/-- The sessions that have been quiet for too long, by device and request. -/
def quiet (d : Desk) (now : Nat) : List (String × Nat) :=
  (d.sessions.values.filter fun s => s.isStale now d.settings.sessionTimeoutMs).map fun s =>
    (s.device, s.request)

/-- Gives up a session that was found quiet. It is looked at again first: it may have made room for
another, or have been heard of since. -/
def giveUp (d : Desk) (now : Nat) (device : String) (request : Nat) : Desk × List Event × Nat :=
  match d.session? device with
  | some s =>
    if s.request = request ∧ s.isStale now d.settings.sessionTimeoutMs then
      (d.remove device, timeoutEvents s, 1)
    else (d, [], 0)
  | none => (d, [], 0)

/-- Gives up the sessions that were found, in their order, and counts those that go. -/
def giveUps (d : Desk) (now : Nat) : List (String × Nat) → Desk × List Event × Nat
  | [] => (d, [], 0)
  | (device, request) :: rest =>
    let (d, events, n) := d.giveUp now device request
    let (d, others, m) := d.giveUps now rest
    (d, events ++ others, n + m)

/-- Gives up every session that has been quiet for too long. -/
def expire (d : Desk) (now : Nat) : Desk × List Event × Nat := d.giveUps now (d.quiet now)

end Desk
end PileCheck.Check
