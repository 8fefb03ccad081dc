import PileCheck.Record.Basic
import PileCheck.Settings.Source

/-!
Records read back from documents.

`Record.json` writes every field; reading asks for every one but the id and the user who triggered
the check.
-/
namespace PileCheck.Record

open Settings (Source)

/-- A field that must be there. -/
def needed? {α : Type} (fields : List (Option Source)) (i : Nat) (read : Source → Option α) :
    Option α :=
  fields[i]?.join.bind read

def number? : Source → Option Int
  | .int n => if Numeral.fitsInt64 n then some n else none
  | _ => none

def ofSource? (s : Source) : Option Record := do
  let f ← s.fields? ["id", "equip_type", "equip_no", "check_category", "status", "summary",
    "details_json", "trigger_source", "triggered_by", "created_at"]
  let id ← Source.field? f 0 (Source.optional? number?) none
  let equipType ← needed? f 1 Source.text?
  let equipNo ← needed? f 2 Source.text?
  let category ← needed? f 3 (Source.word? CheckCategory.all CheckCategory.word)
  let status ← needed? f 4 (Source.word? CheckStatus.all CheckStatus.word)
  let summary ← needed? f 5 Source.text?
  let details ← needed? f 6 Source.text?
  let source ← needed? f 7 (Source.word? TriggerSource.all TriggerSource.word)
  let triggeredBy ← Source.field? f 8 (Source.optional? Source.text?) none
  let createdAt ← needed? f 9 Source.text?
  return { id, equipType, equipNo, category, status, summary, details, source, triggeredBy,
           createdAt }

end PileCheck.Record
