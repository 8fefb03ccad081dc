import PileCheck.Proofs.Places
import PileCheck.Proofs.Text
import PileCheck.Record.Stored

/-!
# Records are read back

A record is stored by a statement that names its columns in one text and binds its parameters by
their order. It is read from a row, cell by cell, under names that stand in another place. What
holds the two together is shown here: the columns are taken from the text of the statement
(`Sql.Statement.insertedColumns`), each is given the parameter of its place, and of the row that
comes out, in any order, the record is read again (`rows_read_back`).

Three columns hold words, which are read without regard to case and blanks
(`Column.read_eq_ok_iff`). Two cells cannot be told from others: an empty user is no user, and empty
details are the empty document.
-/

namespace PileCheck

/-! ## Columns that hold words -/

namespace Column

variable {α : Type} {column s : String} {all : List α} {word : α → String} {a : α}

/-- A cell is read as the value whose word it holds, in any case and between any blanks. -/
theorem read_eq_ok_iff (ha : a ∈ all) (hword : ∀ b ∈ all, word b = word a → b = a) :
    read column all word s = .ok a ↔ Text.upperAscii (Text.trim s) = word a := by
  unfold read
  dsimp only
  constructor
  · intro h
    split at h
    · next b hfound =>
      cases h
      have hfits := List.find?_some hfound
      exact (beq_iff_eq.1 hfits).symm
    · cases h
  · intro h
    cases hfind : all.find? (fun b => word b == Text.upperAscii (Text.trim s)) with
    | none =>
      have hother := List.find?_eq_none.1 hfind a ha
      exact absurd (beq_iff_eq.2 h.symm) hother
    | some b =>
      -- the first value that fits is this one, since no other has its word
      have hfits := List.find?_some hfind
      rw [hword b (List.mem_of_find?_eq_some hfind) ((beq_iff_eq.1 hfits).trans h)]

end Column

theorem CheckCategory.read_word (c : CheckCategory) : read c.word = .ok c := by
  apply (Column.read_eq_ok_iff _ _).2 <;> cases c <;> decide

theorem CheckStatus.read_word (c : CheckStatus) : read c.word = .ok c := by
  apply (Column.read_eq_ok_iff _ _).2 <;> cases c <;> decide

theorem TriggerSource.read_word (c : TriggerSource) : read c.word = .ok c := by
  apply (Column.read_eq_ok_iff _ _).2 <;> cases c <;> decide

namespace Sql

/-! ## Rows -/

theorem Value.cellText_text (s : String) : (text s).cellText = some s := rfl

theorem Value.cellText_ofText? (s : Option String) : (ofText? s).cellText = s := by
  cases s <;> rfl

namespace Row

variable {cells : List (String × Option String)} {column : String} {cell : Option String}

/-- A row keeps its columns in the order in which they came, the last one first. -/
theorem cells_ofList (cells : List (String × Option String)) :
    (ofList cells).cells = cells.reverse := by
  have fold : ∀ r : Row, (cells.foldl (fun r c => r.put c.1 c.2) r).cells
      = cells.reverse ++ r.cells := by
    induction cells with
    | nil => intro r; rfl
    | cons c rest ih =>
      intro r
      rw [List.foldl_cons, ih, put, List.reverse_cons, List.append_assoc]
      rfl
  rw [ofList, fold, empty, List.append_nil]

/-- Where no column stands twice each has its cell, whatever the order. -/
theorem cell?_ofList (h : (cells.map Prod.fst).Nodup) (hmem : (column, cell) ∈ cells) :
    (ofList cells).cell? column = cell := by
  have hnodup : (cells.reverse.map Prod.fst).Nodup :=
    ((List.reverse_perm cells).map Prod.fst).nodup_iff.2 h
  rw [cell?, cells_ofList, (lookup_eq_some_iff_mem hnodup).2 (List.mem_reverse.2 hmem)]
  rfl

/-- A number of 64 bits is read from its digits. -/
theorem getInt64_of_cell {id : Int} {row : Row} (h : Numeral.fitsInt64 id = true)
    (hcell : row.cell? column = some (Numeral.ofInt id)) (default : Int) :
    row.getInt64 column default = id := by
  rw [getInt64, trimmed?, hcell, Option.map_some, Option.bind_some, Numeral.ofInt,
    String.toList_ofList, Text.trimChars_intChars, Numeral.int64?_intChars h]
  rfl

end Row

/-! ## The texts of the statements -/

/-- Names between commas, with blanks around them. -/
def columnNames (list : List Char) : List String :=
  (list.splitOn ',').map fun name => String.ofList (Text.trimChars name)

/-- The columns of an insertion, which stand between the first brackets of its text. -/
def insertedColumns (sql : String) : List String :=
  match Text.splitFirst? '(' sql.toList with
  | some (_, rest) => ((Text.splitFirst? ')' rest).map fun cut => columnNames cut.1).getD []
  | none => []

/-- The columns of a query, which stand between its first word and `FROM`. What is computed has its
name as its last word. -/
def selectedColumns (sql : String) : List String :=
  let words := (sql.toList.splitOn ' ').tail.takeWhile (· ≠ ['F', 'R', 'O', 'M'])
  ((List.intercalate [' '] words).splitOn ',').map fun item =>
    String.ofList ((item.splitOn ' ').getLast?.getD [])

/-- What an insertion puts into its columns: to each the parameter of its place, as it reads. -/
def Statement.cells (s : Statement) : List (String × Option String) :=
  (insertedColumns s.sql).zip (s.params.map Value.cellText)

end Sql

namespace Record

variable {r : Record} {id : Int} {cells : List (String × Option String)}

/-- The text of an insertion, with its two lists taken apart. -/
theorem toList_insertStatement : insertStatement.toList = "INSERT INTO self_check_record (".toList
    ++ ", ".toList.intercalate (insertColumns.map String.toList) ++ ") VALUES (".toList
    ++ ", ".toList.intercalate (insertColumns.map fun _ => ['?']) ++ [')'] := by
  unfold insertStatement
  simp only [String.toList_append, String.toList_intercalate, List.map_map]
  rfl

/-- The columns that its text names are those that it was made of. -/
theorem insertedColumns_insertStatement :
    Sql.insertedColumns insertStatement = insertColumns := by
  rw [Sql.insertedColumns, toList_insertStatement]
  decide +kernel

theorem count_insertStatement : insertStatement.toList.count '?' = insertColumns.length := by
  rw [toList_insertStatement]
  decide +kernel

/-- A query asks for these columns too, after the number. -/
theorem selectedColumns_recentStatement :
    Sql.selectedColumns recentStatement = "ID" :: insertColumns := by
  unfold Sql.selectedColumns recentStatement
  simp only [String.toList_append]
  decide +kernel

/-! ## Stored and read -/

/-- What an insertion stores of a record, column by column. -/
theorem cells_insertion (r : Record) : r.insertion.statement.cells =
    [("Type", some r.equipType), ("EquipNo", some r.equipNo),
      ("CheckCategory", some r.category.word), ("Status", some r.status.word),
      ("Summary", some r.summary), ("DetailsJSON", some r.details),
      ("TriggerSource", some r.source.word), ("TriggeredBy", r.triggeredBy),
      ("CreatedAt", some r.createdAt)] := by
  show (Sql.insertedColumns insertStatement).zip (r.parameters.map Sql.Value.cellText) = _
  rw [insertedColumns_insertStatement]
  simp only [insertColumns, parameters, List.map_cons, List.map_nil, List.zip_cons_cons,
    List.zip_nil_right, Sql.Value.cellText_text, Sql.Value.cellText_ofText?]

/-- The record of a row that holds a record as it was inserted, under the number that it was given.
A number below zero is none; neither an empty user nor empty details are read as such. -/
def restored (r : Record) (id : Int) : Record :=
  { r with
    id := if 0 ≤ id then some id else none
    details := if r.details = "" then emptyDetails else r.details
    triggeredBy := r.triggeredBy.filter (· ≠ "") }

/-- Empty details are read as the empty document. -/
theorem getD_filter_details (details : String) :
    ((some details).filter (· ≠ "")).getD emptyDetails
      = if details = "" then emptyDetails else details := by
  by_cases h : details = ""
  · rw [h]
    rfl
  · -- only an empty text is taken for none
    have hkept : (some details).filter (· ≠ "") = some details :=
      Option.filter_some_pos (by simpa using h)
    rw [hkept, if_neg h]
    rfl

/-- A record is read from its cells by their names, whatever their order. Each column that holds a
word is read back as the value that was written. -/
theorem ofRow_stored (hid : Numeral.fitsInt64 id = true)
    (hcells : cells.Perm (("ID", some (Numeral.ofInt id)) :: r.insertion.statement.cells)) :
    ofRow (Sql.Row.ofList cells) = .ok (r.restored id) := by
  rw [cells_insertion] at hcells
  have hnodup : (cells.map Prod.fst).Nodup := by
    rw [(hcells.map Prod.fst).nodup_iff]
    show ("ID" :: insertColumns).Nodup
    decide
  -- so a cell is found under its name, wherever it stands
  have hcell (column : String) (cell : Option String) (hmem : (column, cell) ∈ _) :
      (Sql.Row.ofList cells).cell? column = cell :=
    Sql.Row.cell?_ofList hnodup (hcells.mem_iff.2 hmem)
  have hnumber := Sql.Row.getInt64_of_cell hid (hcell "ID" _ (by simp)) (-1)
  have htype := hcell "Type" (some r.equipType) (by simp)
  have hequip := hcell "EquipNo" (some r.equipNo) (by simp)
  have hcategory := hcell "CheckCategory" (some r.category.word) (by simp)
  have hstatus := hcell "Status" (some r.status.word) (by simp)
  have hsummary := hcell "Summary" (some r.summary) (by simp)
  have hdetails := hcell "DetailsJSON" (some r.details) (by simp)
  have hsource := hcell "TriggerSource" (some r.source.word) (by simp)
  have huser := hcell "TriggeredBy" r.triggeredBy (by simp)
  have hcreated := hcell "CreatedAt" (some r.createdAt) (by simp)
  unfold ofRow
  simp only [Sql.Row.getText, Sql.Row.getText?, hnumber, htype, hequip, hcategory, hstatus,
    hsummary, hdetails, hsource, huser, hcreated, Option.getD_some, CheckCategory.read_word,
    CheckStatus.read_word, TriggerSource.read_word, getD_filter_details]
  rfl

/-- Nothing is lost but an empty user and empty details. -/
theorem restored_eq_iff : r.restored id = { r with id := some id } ↔
    0 ≤ id ∧ r.details ≠ "" ∧ r.triggeredBy ≠ some "" := by
  have hnumber : (if 0 ≤ id then some id else none) = some id ↔ 0 ≤ id := by
    by_cases h : 0 ≤ id <;> simp [h]
  have hdetails : (if r.details = "" then emptyDetails else r.details) = r.details
      ↔ r.details ≠ "" := by
    by_cases h : r.details = ""
    · rw [if_pos h, h]
      decide
    · simp [h]
  have huser : r.triggeredBy.filter (· ≠ "") = r.triggeredBy ↔ r.triggeredBy ≠ some "" := by
    cases r.triggeredBy with
    | none => simp
    | some user =>
      by_cases h : user = "" <;> simp [h]
  rw [restored, Record.mk.injEq, hnumber, hdetails, huser]
  simp only [true_and, and_true]

/-- **What is stored is read back.** An insertion binds one parameter for each column that it names,
and a query for records asks for these columns and the number. Take the row in which each column
holds the parameter of its place, in whatever order the columns come, with a number of 64 bits that
the store has given. Of it a record is read (`restored`), whatever texts the record was made of. It
is the same record under that number exactly if the number is not below zero, the details are not
empty, and the user, if there is one, is not empty. -/
theorem rows_read_back (r : Record) :
    let statement := r.insertion.statement
    (Sql.insertedColumns statement.sql).length = statement.params.length ∧
    statement.sql.toList.count '?' = statement.params.length ∧
    (∀ equipNo limit, Sql.selectedColumns (recent equipNo limit).statement.sql
      = "ID" :: Sql.insertedColumns statement.sql) ∧
    ∀ (id : Int) (cells : List (String × Option String)), Numeral.fitsInt64 id = true →
      cells.Perm (("ID", some (Numeral.ofInt id)) :: statement.cells) →
      ofRow (Sql.Row.ofList cells) = .ok (r.restored id) ∧
      (ofRow (Sql.Row.ofList cells) = .ok { r with id := some id } ↔
        0 ≤ id ∧ r.details ≠ "" ∧ r.triggeredBy ≠ some "") := by
  intro statement
  have hsql : statement.sql = insertStatement := rfl
  refine ⟨?_, ?_, fun equipNo limit => ?_, fun id cells hid hcells => ?_⟩
  · rw [hsql, insertedColumns_insertStatement]
    rfl
  · rw [hsql, count_insertStatement]
    rfl
  · show Sql.selectedColumns recentStatement = _
    rw [hsql, insertedColumns_insertStatement, selectedColumns_recentStatement]
  · have hread := ofRow_stored hid hcells
    refine ⟨hread, ?_⟩
    rw [hread, Except.ok.injEq, restored_eq_iff]

/-- A record whose texts look like words of a statement, under the largest number there is, in a row
whose columns come in reverse. -/
theorem rows_read_back_reversed :
    let r : Record := {
      id := none, equipType := " null ", equipNo := "?, (", category := .startup
      status := .warn, summary := "", details := " ", source := .cloud
      triggeredBy := some " ", createdAt := "NULL" }
    let id := Numeral.int64Max
    let cells := (("ID", some (Numeral.ofInt id)) :: r.insertion.statement.cells).reverse
    Numeral.fitsInt64 id = true ∧ ofRow (Sql.Row.ofList cells) = .ok { r with id := some id } := by
  intro r id cells
  have hid : Numeral.fitsInt64 id = true := by decide
  obtain ⟨-, -, -, hread⟩ := rows_read_back r
  exact ⟨hid, (hread id cells hid (List.reverse_perm _)).2.2 ⟨by decide, by decide, by decide⟩⟩

end Record
end PileCheck
