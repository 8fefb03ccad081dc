import PileCheck.Check.Message
import PileCheck.Check.Moment

/-!
One check of one device, from the command to its end.

A session is quiet for as long as no notice acknowledges or starts it; `isStale` is what the
watchdog asks. Only the clock that never goes back is reckoned with; the stamps are carried along.
-/
namespace PileCheck.Check

inductive SessionState where
  | sent
  | started
  | completed
  | failed
  deriving DecidableEq, Repr

/-- What a notice does to a session. -/
inductive Effect where
  | acknowledge
  | advance (s : SessionState)
  | ignore (reason : String)
  deriving DecidableEq, Repr

namespace SessionState

def word : SessionState → String
  | sent => "Sent"
  | started => "Started"
  | completed => "Completed"
  | failed => "Failed"

def isTerminal : SessionState → Bool
  | completed | failed => true
  | _ => false

/-- Whether the device is running the check. -/
def isChecking : SessionState → Bool
  | started => true
  | _ => false

def ignored (notice : String) (s : SessionState) : Effect :=
  .ignore (notice ++ " in state " ++ s.word)

def onNotice : SessionState → NoticeState → Effect
  | sent, .sent => .acknowledge
  | sent, .started => .advance started
  | sent, .completed | started, .completed => .advance completed
  | _, .unknown word => .ignore ("unknown state " ++ word)
  | s, .sent => s.ignored "CmdSent"
  | s, .started => s.ignored "Started"
  | s, .completed => s.ignored "Completed"

end SessionState

structure Session where
  request : Nat
  device : String
  state : SessionState
  progress : String
  startedAt : String
  finishedAt : Option String
  /-- When a notice last acknowledged or started the session. -/
  lastActivity : Nat
  deriving DecidableEq, Repr

namespace Session

def start (request : Nat) (device : String) (m : Moment) : Session :=
  { request, device, state := .sent, progress := "", startedAt := m.stamp, finishedAt := none,
    lastActivity := m.ms }

/-- An empty description leaves the last one. -/
def touch (s : Session) (description : String) (m : Moment) : Session :=
  { s with
    progress := if description = "" then s.progress else description
    lastActivity := m.ms }

def finish (s : Session) (state : SessionState) (description : String) (m : Moment) : Session :=
  { s with state, progress := description, finishedAt := some m.stamp }

def isStale (s : Session) (now timeout : Nat) : Bool := timeout ≤ now - s.lastActivity

def json (s : Session) : Json :=
  .ofMembers [("requestId", Json.nat s.request), ("deviceId", .text s.device),
    ("state", .text s.state.word), ("progressDescription", .text s.progress),
    ("startedAt", .text s.startedAt), ("finishedAt", Json.textOrNull s.finishedAt)]

end Session
end PileCheck.Check
