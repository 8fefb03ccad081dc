import PileCheck.Record.Basic

/-!
How checks are run.
-/
namespace PileCheck.Check

structure Settings where
  commandKey : String := "AutoCheck.DataServer.req"
  noticeQueue : String := "DataServer.AutoCheck.notice"
  responseQueue : String := "DataServer.AutoCheck.resp"
  /-- A session that is quiet for this long is given up. -/
  sessionTimeoutSecs : Nat := 300
  watchdogIntervalSecs : Nat := 5
  category : CheckCategory := .remote
  source : TriggerSource := .local
  triggeredBy : Option String := none
  /-- How many events a slow observer may fall behind. -/
  eventCapacity : Nat := 256
  deriving DecidableEq, Repr

namespace Settings

def sessionTimeoutMs (s : Settings) : Nat := s.sessionTimeoutSecs * 1000

def watchdogPeriodMs (s : Settings) : Nat := max s.watchdogIntervalSecs 1 * 1000

end Settings
end PileCheck.Check
