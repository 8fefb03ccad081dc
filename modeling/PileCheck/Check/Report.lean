import PileCheck.Check.Message

/-!
What was read from the wire, as documents.
-/
namespace PileCheck.Check

def NoticeState.json : NoticeState → Json
  | sent => .text "CmdSent"
  | started => .text "Started"
  | completed => .text "Completed"
  | unknown w => .ofMembers [("Unknown", .text w)]

def indexJson (index : Option Nat) : Json := .intOrNull (index.map Int.ofNat)

def Notice.json (n : Notice) : Json :=
  .ofMembers [("device_id", .text n.device), ("description", .text n.description),
    ("state", n.state.json), ("result", .intOrNull n.result),
    ("success_count", .intOrNull n.successCount), ("fail_count", .intOrNull n.failCount),
    ("index", indexJson n.index)]

def FinalResult.json (r : FinalResult) : Json :=
  .ofMembers [("device_id", .text r.device), ("result", Json.int r.result),
    ("success_count", Json.int r.successCount), ("fail_count", Json.int r.failCount),
    ("code", Json.int r.code), ("index", indexJson r.index), ("succeeded", .bool r.succeeded),
    ("description", .text r.description)]

def Inbound.json : Inbound → Json
  | notice n => .ofMembers [("notice", n.json)]
  | final r => .ofMembers [("final_result", r.json)]
  | ignored what => .ofMembers [("ignored", .text what)]

end PileCheck.Check
