import Forecast.Costing.CostingEngine

/-!
# Work orders, revaluations, scrap

Labor and overhead are collected on the work order; its completion takes what was
collected to the finished goods. The calls of a tenant run one after another.
-/

open KeyedTable DecimalColumn Transactions

namespace Forecast.Costing

open Inventory (Qty StockKey StockDb EntryParams)

/-! ### Labor and overhead -/

structure LaborCostParams where
  workOrderId : Id
  laborEntryId : Id
  hours : Decimal
  costPerHour : Decimal
  isSetup : Bool
  fiscalPeriodId : Option Id := none
deriving DecidableEq

namespace LaborCostParams

variable (params : LaborCostParams)

def idempKey : String × String := ("LABOR_COST", "LABOR_COST:" ++ uuidText params.laborEntryId)

def laborCost : Decimal := params.hours.times params.costPerHour

def posting : PostingParams where
  transactionType := .laborAbsorption
  referenceType := "LABOR_ENTRY"
  referenceId := params.laborEntryId
  fiscalPeriodId := params.fiscalPeriodId
  amount := params.laborCost
  description := "Labor " ++ (if params.isSetup then "setup" else "run") ++ " cost — WO " ++
    uuidText params.workOrderId

end LaborCostParams

def recordLaborCostToWIP (ctx : CostingContext) (db : CostingDb) (params : LaborCostParams) :
    Except CostingError (CostingDb × CostResult) :=
  if db.hasProcessed params.idempKey then .ok (db, .alreadyProcessed)
  else do
    ctx.assertPeriodOpen params.fiscalPeriodId
    let wip ← accumulateWIP db.wip params.workOrderId
      (if params.isSetup then "LABOR_SETUP" else "LABOR_RUN") params.laborCost
    let posted ← postTransactionalJournal ctx db.journal params.posting
    pure
      ({ db with
          wip := wip
          idempotencyKeys := db.idempotencyKeys ++ [params.idempKey]
          journal := posted.1 },
        .costed params.laborCost)

structure OverheadCostParams where
  workOrderId : Id
  referenceId : Id
  amount : Decimal
  costElement : Option String := none
  fiscalPeriodId : Option Id := none
deriving DecidableEq

namespace OverheadCostParams

variable (params : OverheadCostParams)

def idempKey : String × String := ("OVERHEAD_COST", "OVERHEAD:" ++ uuidText params.referenceId)

def posting : PostingParams where
  transactionType := .overheadAbsorption
  referenceType := "OVERHEAD"
  referenceId := params.referenceId
  fiscalPeriodId := params.fiscalPeriodId
  amount := params.amount
  description := "Overhead absorption — WO " ++ uuidText params.workOrderId

end OverheadCostParams

def recordOverheadToWIP (ctx : CostingContext) (db : CostingDb) (params : OverheadCostParams) :
    Except CostingError (CostingDb × CostResult) :=
  if db.hasProcessed params.idempKey then .ok (db, .alreadyProcessed)
  else do
    ctx.assertPeriodOpen params.fiscalPeriodId
    let wip ← accumulateWIP db.wip params.workOrderId (params.costElement.getD "OVERHEAD")
      params.amount
    let posted ← postTransactionalJournal ctx db.journal params.posting
    pure
      ({ db with
          wip := wip
          idempotencyKeys := db.idempotencyKeys ++ [params.idempKey]
          journal := posted.1 },
        .costed params.amount)

/-! ### Overhead rates -/

/-- The ratio of the work center's rates; `none` when it is infinite. -/
def RoutingOperation.ratio (op : RoutingOperation) : Option Decimal :=
  if op.costPerHour.value = 0 then none
  else some (Decimal.dividedBy op.setupCostPerHour.value op.costPerHour.value)

/-- The ratio counts when it is positive. -/
def RoutingOperation.hasRatio (op : RoutingOperation) : Bool :=
  match op.ratio with
  | some ratio => 0 < ratio
  | none => 0 < op.setupCostPerHour.value

namespace CostingContext

variable (ctx : CostingContext)

def routingOperation (workOrderId : Id) : Option RoutingOperation := do
  let order ← ctx.workOrders.find? fun w => w.workOrderId = workOrderId
  let routingId ← order.routingId
  ctx.routingOperations.find? fun op => op.routingId = routingId

/-- The rate as a fraction; `none` is an infinite one. -/
def resolveOverheadRate (key : StockKey) (workOrderId : Id) :
    Except CostingError (Option Decimal) :=
  let rate := (ctx.itemCostProfile key).bind ItemCostProfile.overheadRate
  match rate.filter fun rate => rate.value ≠ 0 with
  | some rate => .ok (some (Decimal.dividedBy rate.value 100))
  | none => do
      let op ← found ((ctx.routingOperation workOrderId).filter RoutingOperation.hasRatio)
        (.noOverheadRate key.productId)
      pure op.ratio

end CostingContext

/-- Labor at the overhead rate; at an infinite rate positive labor fits no column. -/
def computedOverhead (rate : Option Decimal) (laborTotal : Decimal) : Except CostingError Decimal :=
  match rate with
  | some rate => .ok (laborTotal.times rate)
  | none => if 0 < laborTotal then .error .numericOverflow else .ok 0

/-! ### Completion of a work order -/

structure CompletionParams where
  workOrderId : Id
  key : StockKey
  completedQty : Decimal
  scrappedQty : Option Decimal := none
  batchId : Option Id := none
  fiscalPeriodId : Option Id := none
deriving DecidableEq

/-- What was collected on a work order, by cost element. -/
structure WipTotals where
  wip : List WipAccumulation
  totalWIP : Decimal
  wipByElement : List (String × Decimal)

namespace WipTotals

def read (wip : List WipAccumulation) (workOrderId : Id) : WipTotals :=
  let rows := wip.filter fun row => row.workOrderId = workOrderId
  { wip := wip
    totalWIP := rows.foldl (fun total row => total.plus row.accumulatedAmount.value) 0
    wipByElement := rows.map fun row => (row.costElement, row.accumulatedAmount.value) }

def element (t : WipTotals) (costElement : String) : Decimal :=
  ((lookup Prod.fst t.wipByElement costElement).map Prod.snd).getD 0

def laborTotal (t : WipTotals) : Decimal := (t.element "LABOR_RUN").plus (t.element "LABOR_SETUP")

/-- Overhead that was not collected yet is computed from the labor. -/
def withOverhead (t : WipTotals) (workOrderId : Id) (rate : Option Decimal) :
    Except CostingError WipTotals :=
  if t.element "OVERHEAD" = 0 then do
    let overhead ← computedOverhead rate t.laborTotal
    if 0 < overhead then do
      let wip ← accumulateWIP t.wip workOrderId "OVERHEAD" overhead
      pure
        { wip := wip
          totalWIP := t.totalWIP.plus overhead
          wipByElement := upsert Prod.fst t.wipByElement ("OVERHEAD", overhead) }
    else pure t
  else .ok t

end WipTotals

structure WorkOrderVariances where
  totalVariance : Decimal
  byElement : List (String × Decimal)

def calculateWorkOrderVariances (ctx : CostingContext) (productId : Id) (completedQty : Decimal)
    (t : WipTotals) : WorkOrderVariances :=
  let standard (cost : ProductCosting → Qty) : Decimal :=
    Decimal.times ((ctx.standardCosting productId).elim 0 fun c => (cost c).value) completedQty
  let actualTotal := t.wipByElement.foldl (fun (total : Decimal) e => total.plus e.2) 0
  { totalVariance := actualTotal.minus (standard ProductCosting.totalCost)
    byElement :=
      [("MATERIAL", (t.element "MATERIAL").minus (standard ProductCosting.materialCost)),
        ("LABOR_RUN", t.laborTotal.minus (standard ProductCosting.laborCost)),
        ("LABOR_SETUP", 0),
        ("OVERHEAD", (t.element "OVERHEAD").minus (standard ProductCosting.overheadCost))] }

/-- The rows that were read are marked as absorbed. -/
def absorbWIP (wip : List WipAccumulation) (rows : List WipAccumulation)
    (variances : WorkOrderVariances) : Except CostingError (List WipAccumulation) :=
  wip.mapM fun row =>
    if row.key ∈ rows.map WipAccumulation.key then do
      let variance := (lookup Prod.fst variances.byElement row.costElement).map Prod.snd
      let varianceAmount ← columnOf (variance.getD 0)
      pure { row with absorbedAmount := row.accumulatedAmount, varianceAmount := varianceAmount }
    else pure row

namespace CompletionParams

variable (params : CompletionParams)

def idempKey : String × String :=
  ("WO_COST_COMPLETE", "WO_COST_COMPLETE:" ++ uuidText params.workOrderId)

def scrapQty : Decimal := params.scrappedQty.getD 0

def wipPerUnit (totalWIP : Decimal) : Decimal :=
  let totalOutputQty := params.completedQty.plus params.scrapQty
  if 0 < totalOutputQty then totalWIP.dividedBy totalOutputQty else totalWIP

def enterBooks (ctx : CostingContext) (books : Books) (wipPerUnit : Decimal) :
    Except CostingError Books :=
  match ctx.resolveMethod params.key with
  | .fifo | .lifo =>
    books.addLayer
      { key := params.key
        batchId := params.batchId
        costingMethod := ctx.resolveMethod params.key
        layerDate := ctx.accounting.now
        referenceType := "WORK_ORDER"
        referenceId := params.workOrderId
        qty := params.completedQty
        unitCost := wipPerUnit
        totalCost := params.completedQty.times wipPerUnit
        fiscalPeriodId := params.fiscalPeriodId }
  | .movingAverage | .standard | .actualJobCosting =>
    books.updateMovingAverage params.key params.completedQty wipPerUnit

/-- The postings of a completion differ in their type, amount and text. -/
def posting (transactionType : PostingTransactionType) (amount : Decimal)
    (locationId : Option Id) (description : String) : PostingParams where
  transactionType := transactionType
  referenceType := "WORK_ORDER"
  referenceId := params.workOrderId
  fiscalPeriodId := params.fiscalPeriodId
  amount := amount
  productId := some params.key.productId
  locationId := locationId
  description := description

def fgPosting (ctx : CostingContext) (fgCost : Decimal) : PostingParams :=
  params.posting .productionReceipt fgCost (some params.key.locationId)
    ("WO completion — " ++ ctx.shown params.completedQty ++ " units to FG")

def scrapPosting (ctx : CostingContext) (scrapCost : Decimal) : PostingParams :=
  params.posting .scrap scrapCost (some params.key.locationId)
    ("WO scrap — " ++ ctx.shown params.scrapQty ++ " units")

def variancePosting (ctx : CostingContext) (totalVariance : Decimal) : PostingParams :=
  params.posting .costVariance |totalVariance| none
    ("Production variance — WO " ++ uuidText params.workOrderId ++ ": " ++
      (if totalVariance < 0 then "favorable" else "unfavorable") ++ " " ++ ctx.shown |totalVariance|)

def entry (wipPerUnit : Decimal) (journalEntryId : Id) : EntryParams where
  key := params.key
  batchId := params.batchId
  entryType := .ledgerProductionReceipt
  quantity := params.completedQty
  unitCost := some wipPerUnit
  referenceType := some "WORK_ORDER"
  referenceId := some params.workOrderId
  journalEntryId := some journalEntryId

end CompletionParams

def completeWorkOrderCost (ctx : CostingContext) (db : CostingDb) (params : CompletionParams) :
    Except CostingError (CostingDb × CostResult) :=
  if db.hasProcessed params.idempKey then .ok (db, .alreadyProcessed)
  else do
    ctx.assertPeriodOpen params.fiscalPeriodId
    let _ ← ctx.resolveBaseCurrency
    let collected := WipTotals.read db.wip params.workOrderId
    let overheadRate ← ctx.resolveOverheadRate params.key params.workOrderId
    let totals ← collected.withOverhead params.workOrderId overheadRate
    let wipPerUnit := params.wipPerUnit totals.totalWIP
    let fgCost := params.completedQty.times wipPerUnit
    let scrapCost := params.scrapQty.times wipPerUnit
    let books ← params.enterBooks ctx db.books wipPerUnit
    let posted ← postTransactionalJournal ctx db.journal (params.fgPosting ctx fgCost)
    let journal ← postWhen (0 < scrapCost) ctx posted.1 (params.scrapPosting ctx scrapCost)
    let stock ← recordEntry db.stock (params.entry wipPerUnit posted.2.id)
    let variances := calculateWorkOrderVariances ctx params.key.productId params.completedQty totals
    let journal ← postWhen (variances.totalVariance ≠ 0) ctx journal
      (params.variancePosting ctx variances.totalVariance)
    let wip ← absorbWIP totals.wip (db.wip.filter fun row => row.workOrderId = params.workOrderId)
      variances
    pure
      ({ db with
          stock := stock
          books := books
          wip := wip
          idempotencyKeys := db.idempotencyKeys ++ [params.idempKey]
          journal := journal },
        .completed fgCost scrapCost variances.totalVariance)

/-! ### Revaluations -/

structure RevaluationParams where
  key : StockKey
  newUnitCost : Decimal
  fiscalPeriodId : Option Id := none
deriving DecidableEq

def RevaluationParams.posting (params : RevaluationParams) (ctx : CostingContext) (row : ItemCost)
    (revalAmount : Decimal) : PostingParams where
  transactionType := .inventoryAdjustment
  referenceType := "REVALUATION"
  referenceId := row.id
  fiscalPeriodId := params.fiscalPeriodId
  amount := |revalAmount|
  productId := some params.key.productId
  locationId := some params.key.locationId
  description := "Inventory revaluation — " ++ ctx.shown row.currentUnitCost.value ++ " → " ++
    ctx.shown params.newUnitCost ++ ", qty " ++ ctx.shown row.currentTotalQty.value

def revalueInventory (ctx : CostingContext) (db : CostingDb) (params : RevaluationParams) :
    Except CostingError (CostingDb × CostResult) := do
  ctx.assertPeriodOpen params.fiscalPeriodId
  let row ← found (db.books.findItemCost params.key)
    (.noItemCost params.key.productId params.key.locationId)
  let newTotalValue := Decimal.times row.currentTotalQty.value params.newUnitCost
  let revalAmount := newTotalValue.minus row.currentTotalValue.value
  let posted ← postTransactionalJournal ctx db.journal (params.posting ctx row revalAmount)
  let revalued ← row.revalued params.newUnitCost newTotalValue
  pure
    ({ db with books := db.books.writeItemCost revalued, journal := posted.1 },
      .revalued revalAmount)

/-! ### Scrap -/

structure ScrapCostParams where
  key : StockKey
  quantity : Decimal
  uom : String
  workOrderId : Option Id := none
  referenceId : Id
  fiscalPeriodId : Option Id := none
deriving DecidableEq

namespace ScrapCostParams

variable (params : ScrapCostParams)

def leaveBooks (ctx : CostingContext) (books : Books) : Except CostingError (Books × Decimal) :=
  match ctx.resolveMethod params.key with
  | .fifo | .lifo =>
    books.depleteCostLayers params.key params.quantity (ctx.resolveMethod params.key)
      ⟨"SCRAP", params.referenceId⟩
  | .standard | .movingAverage | .actualJobCosting =>
    .ok (books, params.quantity.times (books.getMovingAverageCost params.key))

def collect (wip : List WipAccumulation) (scrapCost : Decimal) :
    Except CostingError (List WipAccumulation) :=
  match params.workOrderId with
  | none => .ok wip
  | some workOrderId => accumulateWIP wip workOrderId "SCRAP" scrapCost

def posting (ctx : CostingContext) (scrapCost : Decimal) : PostingParams where
  transactionType := .scrap
  referenceType := "SCRAP"
  referenceId := params.referenceId
  fiscalPeriodId := params.fiscalPeriodId
  amount := scrapCost
  productId := some params.key.productId
  locationId := some params.key.locationId
  description := "Scrap cost — " ++ ctx.shown params.quantity ++ " " ++ params.uom

def entry (scrapCost : Decimal) : EntryParams where
  key := params.key
  entryType := .ledgerScrap
  quantity := -params.quantity
  unitCost := some (scrapCost.dividedBy params.quantity)
  referenceType := some "SCRAP"
  referenceId := some params.referenceId

end ScrapCostParams

/-- Nothing divided by nothing is not a number, which the column refuses. -/
def costScrap (ctx : CostingContext) (db : CostingDb) (params : ScrapCostParams) :
    Except CostingError (CostingDb × CostResult) := do
  ctx.assertPeriodOpen params.fiscalPeriodId
  let scrapped ← params.leaveBooks ctx db.books
  let wip ← params.collect db.wip scrapped.2
  let posted ← postTransactionalJournal ctx db.journal (params.posting ctx scrapped.2)
  throwWhen (params.quantity = 0) .numericOverflow
  let stock ← recordEntry db.stock (params.entry scrapped.2)
  pure
    ({ db with stock := stock, books := scrapped.1, wip := wip, journal := posted.1 },
      .costed scrapped.2)

/-! ### Calls -/

inductive CostOp where
  | receipt (params : ReceiptCostParams)
  | landedCost (params : LandedCostParams)
  | issue (params : IssueCostParams)
  | labor (params : LaborCostParams)
  | overhead (params : OverheadCostParams)
  | completion (params : CompletionParams)
  | revaluation (params : RevaluationParams)
  | scrap (params : ScrapCostParams)
deriving DecidableEq

/-- A call and what it finds in the tables that the engine only reads. -/
structure CostCall where
  ctx : CostingContext
  op : CostOp

namespace CostCall

variable (c : CostCall)

def body (db : CostingDb) : Except CostingError (CostingDb × CostResult) :=
  match c.op with
  | .receipt params => calculatePurchaseReceiptCost c.ctx db params
  | .landedCost params => allocateLandedCost c.ctx db params
  | .issue params => issueMaterialCost c.ctx db params
  | .labor params => recordLaborCostToWIP c.ctx db params
  | .overhead params => recordOverheadToWIP c.ctx db params
  | .completion params => completeWorkOrderCost c.ctx db params
  | .revaluation params => revalueInventory c.ctx db params
  | .scrap params => costScrap c.ctx db params

end CostCall

/-- The tables after a call; what throws is rolled back. -/
def CostingDb.call (db : CostingDb) (c : CostCall) : CostingDb :=
  transaction db ((c.body db).map Prod.fst)

end Forecast.Costing
