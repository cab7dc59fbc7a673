import ProjectManager.Approval.Domain

/-! # Import rows

An import reads the records of a CSV file, maps its columns to the fields of the
entity, and hands the rows to the importer of the entity. A row that raises is
reported, and the import goes on with the next one.
-/

namespace ProjectManager

open Foundation

structure ImportFieldSpec where
  key : String
  label : String
  required : Bool := false
  deriving DecidableEq

/-- The field names of a CSV file, and its records that are not empty. -/
structure CsvSource where
  fieldnames : List String
  records : List (List String)
  deriving DecidableEq

/-- A row for an importer; a key without a value reads as the empty text. -/
structure ImportSourceRow where
  lineNo : ℕ
  values : String → String

/-! ## Reading and mapping -/

abbrev TextDict (α : Type) := Table (Prod.fst : String × α → String)

/-- The dictionary of some pairs: the last value of a key counts. -/
def dictOf {α : Type} (pairs : List (String × α)) : TextDict α := pairs.foldl Table.upsert .empty

def TextDict.value? {α : Type} (dict : TextDict α) (key : String) : Option α :=
  (dict.get? key).map Prod.snd

/-- The pairs of a dictionary, in the order of its keys. -/
def TextDict.pairs {α : Type} (dict : TextDict α) : List (String × α) := dict.rows.reverse

def normalizedKey (key : String) : String := lower (strip key)

namespace CsvSource

variable (source : CsvSource)

def columns : List String :=
  (source.fieldnames.filter fun field => strip field ≠ "").map normalizedKey

/-- A record as a dictionary; what it has less than the file has fields is blank. -/
def normalizedRecord (record : List String) : TextDict String :=
  let raw := dictOf (source.fieldnames.mapIdx fun i field => (field, record[i]?))
  dictOf ((raw.pairs.filter fun cell => strip cell.1 ≠ "").map fun cell =>
    (normalizedKey cell.1, strip (cell.2.getD "")))

/-- The records with a value, with their line numbers. The first line holds the field names. -/
def rawRows : List (ℕ × TextDict String) :=
  (source.records.mapIdx fun i record => (i + 2, source.normalizedRecord record)).filter
    fun row => row.2.rows.any fun cell => cell.2 ≠ ""

/-- The column of a field: the one chosen for it, or else the column of its name. -/
def effectiveColumn (mapping : List (String × Option String)) (field : ImportFieldSpec) :
    Option String :=
  let normalizedInput := dictOf (mapping.map fun entry =>
    (normalizedKey entry.1, (entry.2.filter fun value => value ≠ "").map normalizedKey))
  let selected := (normalizedInput.value? field.key).join.or
    (if field.key ∈ source.columns then some field.key else none)
  selected.filter fun column => column ∈ source.columns

def prepareRows (schema : List ImportFieldSpec) (mapping : List (String × Option String)) :
    List ImportSourceRow :=
  source.rawRows.map fun (lineNo, raw) =>
    { lineNo := lineNo
      values := fun key =>
        (((schema.find? fun field => field.key = key).bind fun field =>
          source.effectiveColumn mapping field).map fun column =>
            strip ((raw.value? column).getD "")).getD "" }

end CsvSource

/-! ## Cells -/

/-- How the source language reads dates and numbers from texts that are not blank. The errors are
those that the language raises. -/
structure CellFormats where
  dateFromIsoformat : String → Except DomainError Date
  int : String → Except DomainError ℤ
  float : String → Except DomainError ℚ

def valueError (message : String) : DomainError where
  errorClass := .valueError
  message := message

def ImportSourceRow.required (row : ImportSourceRow) (key : String) : Except DomainError String :=
  require (some (strip (row.values key)) |>.filter (· ≠ ""))
    (valueError ("Missing required column '" ++ key ++ "'."))

/-- A cell that is read unless it is blank. -/
def optionalCell {α : Type} (read : String → Except DomainError α) (cell : String) :
    Except DomainError (Option α) :=
  if strip cell = "" then .ok none else (read (strip cell)).map some

/-- A member of an enumeration, by its value in upper case. -/
def memberOf {α : Type} (enumeration : String) (members : List α) (value : α → String)
    (cell : String) : Except DomainError α :=
  require (members.find? fun member => value member = upper cell)
    (valueError ("'" ++ upper cell ++ "' is not a valid " ++ enumeration))

/-! ## Summaries -/

inductive RowErrorSeverity
  | error
  | warning
  deriving DecidableEq

structure RowError where
  lineNo : ℕ
  fieldKey : Option String := none
  code : String := "ROW_ERROR"
  message : String
  severity : RowErrorSeverity := .error
  deriving DecidableEq

structure ImportSummary where
  entityType : String
  createdCount : ℕ := 0
  updatedCount : ℕ := 0
  rowErrors : List RowError := []
  deriving DecidableEq

/-- What a row did that did not raise. -/
inductive RowOutcome
  | created
  | updated
  deriving DecidableEq

namespace ImportSummary

variable (summary : ImportSummary)

def count : RowOutcome → ImportSummary
  | .created => { summary with createdCount := summary.createdCount + 1 }
  | .updated => { summary with updatedCount := summary.updatedCount + 1 }

end ImportSummary

end ProjectManager
