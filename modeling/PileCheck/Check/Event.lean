import PileCheck.Check.Session

/-!
What observers hear about a check.
-/
namespace PileCheck.Check

inductive Event where
  | progress (device description : String) (checking : Bool)
  | result (device : String) (request : Nat) (state : SessionState)
      (code successCount failCount : Int)
  /-- The watchdog gave the session up. -/
  | timedOut (device : String) (request : Nat)
  deriving DecidableEq, Repr

namespace Event

def device : Event → String
  | progress d _ _ => d
  | result d _ _ _ _ _ => d
  | timedOut d _ => d

def tagged (kind : String) (data : List (String × Json)) : Json :=
  .ofMembers [("type", .text kind), ("data", .ofMembers data)]

def json : Event → Json
  | progress device description checking =>
    tagged "progress" [("device_id", .text device), ("description", .text description),
      ("checking", .bool checking)]
  | result device request state code successCount failCount =>
    tagged "result" [("device_id", .text device), ("request_id", Json.nat request),
      ("state", .text state.word), ("result_code", Json.int code),
      ("success_count", Json.int successCount), ("fail_count", Json.int failCount)]
  | timedOut device request =>
    tagged "timed_out" [("device_id", .text device), ("request_id", Json.nat request)]

end Event
end PileCheck.Check
