import PileCheck.Check.Session

/-!
One session, step by step, on a clock that starts at zero.
-/
namespace PileCheck.Scenario.SessionRun

inductive Step where
  | touch (description : String)
  | finish (state : Check.SessionState) (description : String)
  | advance (ms : Nat)
  | stale (timeoutMs : Nat)

structure Run where
  session : Check.Session
  now : Check.Moment

namespace Run

/-- A step, and the answer if it asks. -/
def step (r : Run) : Step → Run × Option Bool
  | .touch description => ({ r with session := r.session.touch description r.now }, none)
  | .finish state description =>
    ({ r with session := r.session.finish state description r.now }, none)
  | .advance ms => ({ r with now := { r.now with ms := r.now.ms + ms } }, none)
  | .stale timeoutMs => (r, some (r.session.isStale r.now.ms timeoutMs))

def records (r : Run) : List Step → List (Option Bool × Check.Session)
  | [] => []
  | s :: rest =>
    let (r, answer) := r.step s
    (answer, r.session) :: r.records rest

end Run
end PileCheck.Scenario.SessionRun
