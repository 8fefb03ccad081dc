import PileCheck.Failure
import PileCheck.Json.Reader
import PileCheck.Json.Writer
import PileCheck.Text.Blank

/-!
The record that a finished check leaves behind.

Three of its columns hold one of a few words each. A word is written in upper case and read without
regard to case and surrounding blanks.
-/
namespace PileCheck

inductive CheckCategory where
  | full
  | quick
  | startup
  | remote
  deriving DecidableEq, Repr

/-- How a check came out, by severity. -/
inductive CheckStatus where
  | ok
  | warn
  | error
  deriving DecidableEq, Repr

inductive TriggerSource where
  | local
  | web
  | cloud
  | auto
  deriving DecidableEq, Repr

/-- The one of `all` with the given word, or the refusal of a column that holds no such word. -/
def Column.read {α : Type} (column : String) (all : List α) (word : α → String) (s : String) :
    Except StoreFailure α :=
  let wanted := Text.upperAscii (Text.trim s)
  match all.find? fun a => word a == wanted with
  | some a => .ok a
  | none => .error (.rowMapping ("invalid " ++ column ++ " value: " ++ wanted))

namespace CheckCategory

def all : List CheckCategory := [full, quick, startup, remote]

def word : CheckCategory → String
  | full => "FULL"
  | quick => "QUICK"
  | startup => "STARTUP"
  | remote => "REMOTE"

def read (s : String) : Except StoreFailure CheckCategory :=
  Column.read "CheckCategory" all word s

end CheckCategory

namespace CheckStatus

def all : List CheckStatus := [ok, warn, error]

def word : CheckStatus → String
  | ok => "OK"
  | warn => "WARN"
  | error => "ERROR"

def read (s : String) : Except StoreFailure CheckStatus := Column.read "CheckStatus" all word s

def rank : CheckStatus → Nat
  | ok => 0
  | warn => 1
  | error => 2

/-- The more severe of two. -/
def max (a b : CheckStatus) : CheckStatus := if a.rank < b.rank then b else a

end CheckStatus

namespace TriggerSource

def all : List TriggerSource := [«local», web, cloud, auto]

def word : TriggerSource → String
  | «local» => "LOCAL"
  | web => "WEB"
  | cloud => "CLOUD"
  | auto => "AUTO"

def read (s : String) : Except StoreFailure TriggerSource :=
  Column.read "TriggerSource" all word s

end TriggerSource

structure Record where
  /-- Given by the store; absent before the record is stored. -/
  id : Option Int
  equipType : String
  equipNo : String
  category : CheckCategory
  status : CheckStatus
  summary : String
  /-- The details document as text. -/
  details : String
  source : TriggerSource
  triggeredBy : Option String
  /-- Calendar time, `YYYY-MM-DD HH:MM:SS`. -/
  createdAt : String
  deriving DecidableEq, Repr

namespace Record

def emptyDetails : String := "\x7b\x7d"

def make (equipType equipNo : String) (category : CheckCategory) (status : CheckStatus)
    (summary createdAt : String) : Record :=
  { id := none, equipType, equipNo, category, status, summary, details := emptyDetails,
    source := .local, triggeredBy := none, createdAt }

def withDetails (r : Record) (document : Json) : Record := { r with details := document.render }

def withTrigger (r : Record) (source : TriggerSource) (triggeredBy : Option String) : Record :=
  { r with source, triggeredBy }

/-- The details document. -/
def document (r : Record) : Except StoreFailure Json :=
  match Json.read? r.details with
  | some v => .ok v
  | none => .error (.rowMapping "DetailsJSON")

def json (r : Record) : Json :=
  .ofMembers [("id", Json.intOrNull r.id), ("equip_type", .text r.equipType),
    ("equip_no", .text r.equipNo), ("check_category", .text r.category.word),
    ("status", .text r.status.word), ("summary", .text r.summary),
    ("details_json", .text r.details), ("trigger_source", .text r.source.word),
    ("triggered_by", Json.textOrNull r.triggeredBy), ("created_at", .text r.createdAt)]

end Record
end PileCheck
