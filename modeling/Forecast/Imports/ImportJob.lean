import Forecast.Imports.ImportTables

/-!
# The import processor

The rows of a file are read one by one; valid ones are collected and inserted
whenever a batch is full and once more at the end. An error of the parser or of
an insert ends the job as FAILED; nothing is undone.
-/

open JsText

namespace Forecast.Imports

/-- What a parser yields of a file, and the error it breaks off with. -/
structure Parsed (α : Type) where
  rows : List α
  broken : Option String

/-- A row of the first worksheet: its number, and its cells if it has any. -/
structure XlsxRow where
  number : ℕ
  values : Option (List ImportValue)

/-- An uploaded file as the CSV parser and as the workbook reader read it. -/
structure ImportFile where
  fileName : String
  csv : Parsed (List (String × String))
  xlsx : Parsed XlsxRow

structure ImportJob where
  importType : ImportType
  mapping : Option (List (String × String)) := none
  file : ImportFile

structure RowErrors where
  row : ℕ
  errors : List String
  data : List (String × String)
deriving DecidableEq

structure ImportProgress where
  validBatch : List ImportRecord := []
  errors : List RowErrors := []
  totalRows : ℕ := 0
  successRows : ℕ := 0
  errorRows : ℕ := 0

inductive ImportStatus where
  | completed
  | failed
deriving DecidableEq

/-- What the job leaves in its row of `data_imports`. -/
structure DataImport where
  status : ImportStatus
  totalRows : Option ℕ
  successRows : Option ℕ
  errorRows : Option ℕ
  errors : List RowErrors
deriving DecidableEq

/-! ### Data rows -/

def csvRows (file : ImportFile) : List (ℕ × ImportRecord) :=
  file.csv.rows.zipIdx.map fun row =>
    (row.2 + 2, row.1.map fun entry => (entry.1, .text entry.2))

def hasValues (record : ImportRecord) : Bool :=
  record.any fun entry => entry.2 != .missing && trim entry.2.shown != ""

/-- The nonempty rows of a worksheet below the row that names the columns. -/
def xlsxRows (platform : ImportPlatform) (headers : List String) :
    List XlsxRow → List (ℕ × ImportRecord)
  | [] => []
  | row :: rows =>
    let rowValues := row.values.getD []
    if row.number = 1 then
      xlsxRows platform (rowValues.map fun value => trim (platform.toLowerCase value.shown)) rows
    else
      let record := (headers.zip rowValues).filter fun entry => entry.1 != ""
      if hasValues record then (row.number, record) :: xlsxRows platform headers rows
      else xlsxRows platform headers rows

/-- `fileName.toLowerCase().endsWith('.csv')` -/
def isCsv (platform : ImportPlatform) (file : ImportFile) : Bool :=
  ['.', 'c', 's', 'v'].isSuffixOf (platform.toLowerCase file.fileName).toList

def dataRows (platform : ImportPlatform) (file : ImportFile) : Parsed (ℕ × ImportRecord) :=
  if isCsv platform file then ⟨csvRows file, file.csv.broken⟩
  else ⟨xlsxRows platform [] file.xlsx.rows, file.xlsx.broken⟩

def loadDimensionLookups (platform : ImportPlatform) (db : ImportDb) : DimensionLookups :=
  fun dimension => (db.masters dimension).rows.map fun row =>
    (normalizeLookupKey platform row.code, row.id)

/-! ### The loop over the rows -/

/-- How the records of a job become rows: its type, mapping and lookups. -/
structure RowReader where
  platform : ImportPlatform
  importType : ImportType
  columnMapping : List (String × String)
  lookups : Option DimensionLookups

namespace RowReader

variable (reader : RowReader)

def transform (record : ImportRecord) : ImportRecord :=
  transformRecord reader.platform reader.columnMapping reader.lookups reader.importType record

def validationErrors (record : ImportRecord) : List String :=
  validateRecord (reader.transform record) reader.importType

/-- A data row is counted and goes to the batch or to the errors. -/
def readRow (progress : ImportProgress) (row : ℕ × ImportRecord) : ImportProgress :=
  if (reader.validationErrors row.2).isEmpty then
    { progress with
      totalRows := progress.totalRows + 1
      validBatch := progress.validBatch ++ [reader.transform row.2] }
  else
    { progress with
      totalRows := progress.totalRows + 1
      errorRows := progress.errorRows + 1
      errors := if progress.errors.length < 100 then
        progress.errors ++
          [⟨row.1, reader.validationErrors row.2, sanitizeForLog row.2⟩]
        else progress.errors }

def flush (ctx : ImportContext) (db : ImportDb) (progress : ImportProgress) :
    ImportDb × Except String ImportProgress :=
  let result := insertRecords ctx reader.importType db progress.validBatch
  match result.2 with
  | some e => (result.1, .error e)
  | none => (result.1, .ok { progress with
      successRows := progress.successRows + progress.validBatch.length
      validBatch := [] })

def processRows (ctx : ImportContext) :
    ImportDb → ImportProgress → List (ℕ × ImportRecord) → ImportDb × Except String ImportProgress
  | db, progress, [] => (db, .ok progress)
  | db, progress, row :: rows =>
    let progress := reader.readRow progress row
    if batchSize ≤ progress.validBatch.length then
      match reader.flush ctx db progress with
      | (db, .ok progress) => processRows ctx db progress rows
      | (db, .error e) => (db, .error e)
    else processRows ctx db progress rows

/-- `processCsvImport` and `processExcelImport` from the first data row on. -/
def processFile (ctx : ImportContext) (db : ImportDb) (rows : Parsed (ℕ × ImportRecord)) :
    ImportDb × Except String ImportProgress :=
  match reader.processRows ctx db {} rows.rows with
  | (db, .error e) => (db, .error e)
  | (db, .ok progress) =>
    match rows.broken with
    | some e => (db, .error e)
    | none =>
      match if progress.validBatch.isEmpty then (db, .ok progress)
        else reader.flush ctx db progress with
      | (db, .error e) => (db, .error e)
      | (db, .ok progress) =>
        if progress.totalRows = 0 then (db, .error "No data rows found in file")
        else (db, .ok progress)

end RowReader

def rowReader (ctx : ImportContext) (db : ImportDb) (job : ImportJob) : RowReader where
  platform := ctx.platform
  importType := job.importType
  columnMapping := job.mapping.getD (getDefaultMapping job.importType)
  lookups := if job.importType = .actuals then some (loadDimensionLookups ctx.platform db) else none

/-- The status of a job that read its file to the end. -/
def finalStatus (progress : ImportProgress) : ImportStatus :=
  if 0 < progress.errorRows then (if 0 < progress.successRows then .completed else .failed)
  else .completed

/-- `processInTenantContext` -/
def processImport (ctx : ImportContext) (db : ImportDb) (job : ImportJob) :
    ImportDb × DataImport :=
  match (rowReader ctx db job).processFile ctx db (dataRows ctx.platform job.file) with
  | (db, .ok progress) =>
    (db,
      { status := finalStatus progress
        totalRows := some progress.totalRows
        successRows := some progress.successRows
        errorRows := some progress.errorRows
        errors := progress.errors.take 100 })
  | (db, .error message) => (db, ⟨.failed, none, none, none, [⟨0, [message], []⟩]⟩)

end Forecast.Imports
