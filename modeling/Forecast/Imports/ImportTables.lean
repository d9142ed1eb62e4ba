import Forecast.Imports.ImportRows
import Forecast.Lib.Batches
import Forecast.Lib.DecimalColumn
import Forecast.Lib.KeyedTable

/-!
# What an import inserts

Actuals go in by `createMany`, a batch a statement; products, locations,
customers and accounts are upserted by their code, a row a statement. Each
statement commits by itself, and any statement may fail.
-/

open DecimalColumn KeyedTable

namespace Forecast.Imports

/-- A row of `actuals`. -/
structure ActualRow where
  actualType : String
  periodDate : Millis
  productId : Option String
  locationId : Option String
  customerId : Option String
  accountId : Option String
  quantity : Option (Column 18 4)
  amount : Column 18 4
  currency : String
  sourceSystem : Option String
  sourceReference : Option String
  importId : Option String
deriving DecidableEq

inductive MasterCell where
  | text (value : Option String)
  | decimal (value : Option (Column 18 4))
deriving DecidableEq

/-- A row of one of the four dimension tables. -/
structure MasterRow where
  id : String
  code : String
  name : String
  columns : List (String × MasterCell)
  status : String
deriving DecidableEq

/-- A dimension table of one tenant; codes are unique in it. -/
structure MasterTable where
  rows : List MasterRow
  unique : (rows.map MasterRow.code).Nodup

structure ImportDb where
  actuals : List ActualRow
  masters : Dimension → MasterTable
  /-- The insert statements sent so far. -/
  sent : ℕ
  /-- The rows that committed insert statements have written. -/
  written : ℕ

/-- The job, and what the database does to each insert statement it sends. -/
structure ImportContext where
  platform : ImportPlatform
  importId : String
  fault : ℕ → Option String
  /-- The id that a new row gets. -/
  newId : ℕ → String

/-! ### Columns -/

def textArgument : ImportValue → Except String (Option String)
  | .missing => .ok none
  | .text value => .ok (some value)
  | _ => .error "Invalid value provided. Expected String or Null"

def decimalArgument : ImportValue → Except String (Option (Column 18 4))
  | .missing => .ok none
  | .number value _ =>
    match (Column.store value : Option (Column 18 4)) with
    | some stored => .ok (some stored)
    | none => .error "numeric field overflow"
  | _ => .error "Invalid value provided. Expected Decimal or Null"

def required {α : Type} (value : Except String (Option α)) : Except String α :=
  match value with
  | .ok (some a) => .ok a
  | .ok none => .error "Argument is missing"
  | .error e => .error e

/-- A date on its way into a `DATE` column. -/
def dateArgument : ImportValue → Except String Millis
  | .date (some time) _ => .ok (time / 86400000 * 86400000)
  | _ => .error "Invalid value for argument periodDate: Provided Date object is invalid"

/-- The row that `insertActuals` makes of a record. -/
def actualRow (importId : String) (r : ImportRecord) : Except String ActualRow := do
  let periodDate ← dateArgument (r.get "periodDate")
  let productId ← textArgument (r.get "productId").orNull
  let locationId ← textArgument (r.get "locationId").orNull
  let customerId ← textArgument (r.get "customerId").orNull
  let accountId ← textArgument (r.get "accountId").orNull
  let quantity ← decimalArgument (r.get "quantity")
  let amount ← required (decimalArgument (r.get "amount"))
  let currency ← textArgument (r.get "currency").orNull
  pure
    { actualType := "SALES"
      periodDate := periodDate
      productId := productId
      locationId := locationId
      customerId := customerId
      accountId := accountId
      quantity := quantity
      amount := amount
      currency := currency.getD "USD"
      sourceSystem := some "IMPORT"
      sourceReference := none
      importId := some importId }

/-- How a column of a dimension table is read from a record. -/
inductive MasterColumn where
  /-- `r.field || null` -/
  | optional
  /-- `r.field || text` -/
  | orText (text : String)
  | price
deriving DecidableEq

def MasterColumn.read (value : ImportValue) : MasterColumn → Except String MasterCell
  | .optional => (textArgument value.orNull).map .text
  | .orText text => (textArgument value.orNull).map fun given => .text (some (given.getD text))
  | .price => (decimalArgument value.orNull).map .decimal

def masterEntry (columns : List (String × MasterColumn)) (r : ImportRecord) :
    Except String (String × String × List (String × MasterCell)) := do
  let code ← required (textArgument (r.get "code"))
  let name ← required (textArgument (r.get "name"))
  let cells ← columns.mapM fun column =>
    (column.2.read (r.get column.1)).map fun cell => (column.1, cell)
  pure (code, name, cells)

/-- The columns of `insertProducts`. -/
def productColumns : List (String × MasterColumn) :=
  [("description", .optional), ("category", .optional), ("productCompany", .optional),
    ("salt", .optional), ("productGroup", .optional), ("hsnCode", .optional),
    ("listPrice", .price)]

/-- The columns of `insertLocations`. -/
def locationColumns : List (String × MasterColumn) :=
  [("region", .optional), ("country", .optional), ("type", .orText "WAREHOUSE")]

/-- The columns of `insertCustomers`. -/
def customerColumns : List (String × MasterColumn) :=
  [("segment", .optional), ("type", .orText "DIRECT")]

/-- The columns of `insertAccounts`. -/
def accountColumns : List (String × MasterColumn) :=
  [("type", .orText "REVENUE"), ("category", .optional)]

def Dimension.columns : Dimension → List (String × MasterColumn)
  | .product => productColumns
  | .location => locationColumns
  | .customer => customerColumns
  | .account => accountColumns

/-! ### Statements -/

/-- The unique key of `actuals`; a null in it makes no conflict. -/
def ActualRow.conflicts (row other : ActualRow) : Bool :=
  row.sourceSystem.isSome && row.sourceReference.isSome &&
    row.sourceSystem == other.sourceSystem && row.sourceReference == other.sourceReference

/-- `createMany` with `skipDuplicates` -/
def createMany (table rows : List ActualRow) : List ActualRow :=
  rows.foldl (fun table row => if table.any row.conflicts then table else table ++ [row]) table

namespace MasterTable

/-- The row as the upsert leaves it: an update keeps the id and the status. -/
def written (table : MasterTable) (id : String)
    (entry : String × String × List (String × MasterCell)) : MasterRow :=
  match lookup MasterRow.code table.rows entry.1 with
  | some row => { row with name := entry.2.1, columns := entry.2.2 }
  | none => ⟨id, entry.1, entry.2.1, entry.2.2, "ACTIVE"⟩

def upsert (table : MasterTable) (id : String)
    (entry : String × String × List (String × MasterCell)) : MasterTable where
  rows := KeyedTable.upsert MasterRow.code table.rows (table.written id entry)
  unique := nodup_keys_upsert table.unique

theorem written_code (table : MasterTable) (id : String)
    (entry : String × String × List (String × MasterCell)) :
    (table.written id entry).code = entry.1 := by
  unfold written
  cases hrow : lookup MasterRow.code table.rows entry.1 with
  | none => rfl
  | some row => exact (lookup_eq_some hrow).2

def shows (table : MasterTable) (code : String) :
    Option (String × List (String × MasterCell)) :=
  (lookup MasterRow.code table.rows code).map fun row => (row.name, row.columns)

theorem shows_upsert (table : MasterTable) (id : String)
    (entry : String × String × List (String × MasterCell)) (code : String) :
    (table.upsert id entry).shows code = if entry.1 = code then some entry.2 else table.shows code := by
  unfold shows upsert
  rw [lookup_upsert, written_code]
  split_ifs with hcode
  · unfold written
    cases lookup MasterRow.code table.rows entry.1 <;> rfl
  · rfl

end MasterTable

inductive ImportStatement where
  | createMany (records : List ImportRecord)
  | upsert (dimension : Dimension) (record : ImportRecord)

namespace ImportStatement

/-- What the statement writes when nothing goes wrong. -/
def write (ctx : ImportContext) (db : ImportDb) :
    ImportStatement → Except String ImportDb
  | createMany records => do
      let rows ← records.mapM (actualRow ctx.importId)
      pure { db with
        actuals := Imports.createMany db.actuals rows
        written := db.written + rows.length }
  | upsert dimension record => do
      let entry ← masterEntry dimension.columns record
      pure { db with
        masters := Function.update db.masters dimension
          ((db.masters dimension).upsert (ctx.newId db.sent) entry)
        written := db.written + 1 }

/-- Sends the statement; it fails by the database's fault or by its own arguments. -/
def send (ctx : ImportContext) (db : ImportDb) (statement : ImportStatement) :
    ImportDb × Option String :=
  let counted := { db with sent := db.sent + 1 }
  match ctx.fault db.sent with
  | some e => (counted, some e)
  | none =>
    match statement.write ctx db with
    | .ok after => ({ after with sent := db.sent + 1 }, none)
    | .error e => (counted, some e)

end ImportStatement

def ImportType.dimension? : ImportType → Option Dimension
  | .actuals => none
  | .products => some .product
  | .locations => some .location
  | .customers => some .customer
  | .accounts => some .account

/-- The statements of one batch: `insertActuals`, or a row at a time. -/
def batchStatements (importType : ImportType) (batch : List ImportRecord) :
    List ImportStatement :=
  match importType.dimension? with
  | none => [.createMany batch]
  | some dimension => batch.map (.upsert dimension)

def batchSize : ℕ := 500

def insertRecords (ctx : ImportContext) (importType : ImportType) (db : ImportDb)
    (records : List ImportRecord) : ImportDb × Option String :=
  Batches.sendAll (ImportStatement.send ctx) db
    ((Batches.slices batchSize records).flatMap (batchStatements importType))

end Forecast.Imports
