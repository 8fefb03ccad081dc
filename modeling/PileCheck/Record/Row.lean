import PileCheck.Record.Basic
import PileCheck.Sql.Value

/-!
Records as rows of `self_check_record`.

`insertStatement` names the columns that `parameters` fills, in the same order; `ofRow` reads a row
back. An id below zero, like none, means that the store gave none.
-/
namespace PileCheck.Record

def createStatement : String :=
"CREATE TABLE IF NOT EXISTS self_check_record (
    ID BIGINT NOT NULL AUTO_INCREMENT PRIMARY KEY,
    Type VARCHAR(32) NOT NULL,
    EquipNo VARCHAR(64) NOT NULL,
    CheckCategory ENUM('FULL','QUICK','STARTUP','REMOTE') NOT NULL,
    Status ENUM('OK','WARN','ERROR') NOT NULL,
    Summary VARCHAR(512) NOT NULL DEFAULT '',
    DetailsJSON JSON NULL,
    TriggerSource ENUM('LOCAL','WEB','CLOUD','AUTO') NOT NULL,
    TriggeredBy VARCHAR(64) NULL,
    CreatedAt DATETIME NOT NULL DEFAULT CURRENT_TIMESTAMP,
    UpdatedAt DATETIME NOT NULL DEFAULT CURRENT_TIMESTAMP ON UPDATE CURRENT_TIMESTAMP,
    INDEX idx_equip_no (EquipNo),
    INDEX idx_type (Type),
    INDEX idx_created_at (CreatedAt)
) ENGINE=InnoDB DEFAULT CHARSET=utf8mb4"

/-- The columns that an insertion fills. -/
def insertColumns : List String :=
  ["Type", "EquipNo", "CheckCategory", "Status", "Summary", "DetailsJSON", "TriggerSource",
    "TriggeredBy", "CreatedAt"]

def insertStatement : String :=
  "INSERT INTO self_check_record (" ++ ", ".intercalate insertColumns ++ ") VALUES ("
    ++ ", ".intercalate (insertColumns.map fun _ => "?") ++ ")"

def recentStatement : String :=
  "SELECT ID, Type, EquipNo, CheckCategory, Status, Summary, "
    ++ "CAST(DetailsJSON AS CHAR) AS DetailsJSON, TriggerSource, TriggeredBy, "
    ++ "CAST(CreatedAt AS CHAR) AS CreatedAt "
    ++ "FROM self_check_record WHERE EquipNo = ? ORDER BY ID DESC LIMIT ?"

/-- What an insertion binds, column by column. -/
def parameters (r : Record) : List Sql.Value :=
  [.text r.equipType, .text r.equipNo, .text r.category.word, .text r.status.word,
    .text r.summary, .text r.details, .text r.source.word, .ofText? r.triggeredBy,
    .text r.createdAt]

def recentParameters (equipNo : String) (limit : Nat) : List Sql.Value :=
  [.text equipNo, .int limit]

def ofRow (row : Sql.Row) : Except StoreFailure Record := do
  let id := row.getInt64 "ID" (-1)
  let category ← CheckCategory.read (row.getText "CheckCategory")
  let status ← CheckStatus.read (row.getText "Status")
  let source ← TriggerSource.read (row.getText "TriggerSource")
  return {
    id := if 0 ≤ id then some id else none
    equipType := row.getText "Type"
    equipNo := row.getText "EquipNo"
    category
    status
    summary := row.getText "Summary"
    details := (row.getText? "DetailsJSON").getD emptyDetails
    source
    triggeredBy := row.getText? "TriggeredBy"
    createdAt := row.getText "CreatedAt" }

end PileCheck.Record
