import Forecast.Costing.CostBooks
import Forecast.Inventory.StockReservations

/-!
# The costing engine

Every operation runs in one transaction: it moves the books, posts to the journal and
writes the stock ledger. Most operations are done once for their idempotency key.
-/

open KeyedTable DecimalColumn Transactions

namespace Forecast.Costing

open Inventory (Qty StockKey StockDb EntryParams DecimalInput)

/-- What an operation returns. -/
inductive CostResult where
  | alreadyProcessed
  | costed (totalCost : Decimal)
  | revalued (revaluationAmount : Decimal)
  | completed (fgCost scrapCost totalVariance : Decimal)
deriving DecidableEq

def recordEntry (stock : StockDb) (params : EntryParams) : Except CostingError StockDb :=
  (stock.recordEntry params).mapError CostingError.inventory

/-- A posting that is made only for some amounts. -/
def postWhen (c : Prop) [Decidable c] (ctx : CostingContext) (journal : List JournalEntry)
    (params : PostingParams) : Except CostingError (List JournalEntry) :=
  if c then do
    let posted ← postTransactionalJournal ctx journal params
    pure posted.1
  else .ok journal

/-! ### Purchase receipts -/

structure ReceiptCostParams where
  goodsReceiptId : Id
  goodsReceiptLineId : Id
  key : StockKey
  quantity : Decimal
  unitPrice : Decimal
  purchaseCurrency : String
  baseCurrency : Option String := none
  exchangeRate : Option DecimalInput := none
  batchId : Option Id := none
  fiscalPeriodId : Option Id := none
deriving DecidableEq

namespace ReceiptCostParams

variable (params : ReceiptCostParams)

def idempKey : String × String := ("GR_COST", "GR_COST:" ++ uuidText params.goodsReceiptLineId)

def currency (ctx : CostingContext) : Except CostingError String :=
  match params.baseCurrency with
  | some baseCurrency => .ok baseCurrency
  | none => ctx.resolveBaseCurrency

/-- No rate, or the number zero; a decimal zero passes. -/
def lacksRate : Bool :=
  match params.exchangeRate with
  | none => true
  | some (.number q) => q = 0
  | some (.decimal _) => false

def exRate : Decimal :=
  match params.exchangeRate with
  | none => 1
  | some (.number q) => q
  | some (.decimal q) => q

def baseCurrCost (baseCurrency : String) : Decimal :=
  if params.purchaseCurrency = baseCurrency then params.unitPrice
  else params.unitPrice.times params.exRate

def totalCost (baseCurrency : String) : Decimal :=
  params.quantity.times (params.baseCurrCost baseCurrency)

/-- The inverse of a zero rate is infinite, which its column refuses. -/
def snapshotRate (baseCurrency : String) (snapshots : List CurrencyRateSnapshot) :
    Except CostingError (List CurrencyRateSnapshot) :=
  if params.purchaseCurrency = baseCurrency then .ok snapshots
  else do
    let rate ← found (Column.store params.exRate) .numericOverflow
    throwWhen (params.exRate = 0) .numericOverflow
    let inverseRate ← found (Column.store (Decimal.dividedBy 1 params.exRate)) .numericOverflow
    pure (snapshots ++ [⟨params.purchaseCurrency, baseCurrency, rate, inverseRate,
      params.goodsReceiptLineId⟩])

def enterBooks (ctx : CostingContext) (baseCurrency : String) (books : Books) :
    Except CostingError Books :=
  match ctx.resolveMethod params.key with
  | .fifo | .lifo =>
    books.addLayer
      { key := params.key
        batchId := params.batchId
        costingMethod := ctx.resolveMethod params.key
        layerDate := ctx.accounting.now
        referenceType := "GOODS_RECEIPT"
        referenceId := params.goodsReceiptId
        referenceNumber := some params.goodsReceiptLineId
        qty := params.quantity
        unitCost := params.baseCurrCost baseCurrency
        totalCost := params.totalCost baseCurrency
        fiscalPeriodId := params.fiscalPeriodId }
  | .movingAverage | .standard =>
    books.updateMovingAverage params.key params.quantity (params.baseCurrCost baseCurrency)
  | .actualJobCosting => .ok books

def posting (ctx : CostingContext) (baseCurrency : String) : PostingParams where
  transactionType := .goodsReceipt
  referenceType := "GOODS_RECEIPT"
  referenceId := params.goodsReceiptId
  fiscalPeriodId := params.fiscalPeriodId
  amount := params.totalCost baseCurrency
  productId := some params.key.productId
  locationId := some params.key.locationId
  description := "GR costing — product " ++ uuidText params.key.productId ++ ", qty " ++
    ctx.shown params.quantity

def entry (baseCurrency : String) (journalEntryId : Id) : EntryParams where
  key := params.key
  batchId := params.batchId
  entryType := .ledgerReceipt
  quantity := params.quantity
  unitCost := some (params.baseCurrCost baseCurrency)
  referenceType := some "GOODS_RECEIPT"
  referenceId := some params.goodsReceiptId
  referenceNumber := some (uuidText params.goodsReceiptLineId)
  journalEntryId := some journalEntryId

end ReceiptCostParams

def calculatePurchaseReceiptCost (ctx : CostingContext) (db : CostingDb)
    (params : ReceiptCostParams) : Except CostingError (CostingDb × CostResult) := do
  let baseCurrency ← params.currency ctx
  if db.hasProcessed params.idempKey then pure (db, .alreadyProcessed)
  else do
    ctx.assertPeriodOpen params.fiscalPeriodId
    throwWhen (params.purchaseCurrency ≠ baseCurrency ∧ params.lacksRate)
      (.exchangeRateRequired params.purchaseCurrency baseCurrency)
    let rateSnapshots ← params.snapshotRate baseCurrency db.rateSnapshots
    let books ← params.enterBooks ctx baseCurrency db.books
    let posted ← postTransactionalJournal ctx db.journal (params.posting ctx baseCurrency)
    let stock ← recordEntry db.stock (params.entry baseCurrency posted.2.id)
    pure
      ({ db with
          stock := stock
          books := books
          rateSnapshots := rateSnapshots
          idempotencyKeys := db.idempotencyKeys ++ [params.idempKey]
          journal := posted.1 },
        .costed (params.totalCost baseCurrency))

/-! ### Landed cost -/

structure LandedCostLine where
  goodsReceiptLineId : Id
  costLayerId : Option Id := none
  key : StockKey
  costCategory : String
  amount : Decimal
deriving DecidableEq

structure LandedCostParams where
  goodsReceiptId : Id
  allocations : List LandedCostLine
  allocationMethod : String
  vendorInvoiceRef : Option String := none
  fiscalPeriodId : Option Id := none
deriving DecidableEq

def LandedCostParams.idempKey (params : LandedCostParams) (ctx : CostingContext) :
    String × String :=
  let allocHash := "|".intercalate (params.allocations.map fun a =>
    uuidText a.goodsReceiptLineId ++ ":" ++ ctx.shown a.amount)
  ("LANDED_COST", "LANDED:" ++ uuidText params.goodsReceiptId ++ ":" ++ params.allocationMethod ++
    ":" ++ allocHash)

structure LandedState where
  books : Books
  landedCosts : List LandedCostAllocation
  totalAllocated : Decimal

def LandedCostLine.enterBooks (ctx : CostingContext) (books : Books) (line : LandedCostLine) :
    Except CostingError Books := do
  let books ← books.landOnLayer line.costLayerId line.key line.amount
  if ctx.resolveMethod line.key = .movingAverage then
    books.adjustMovingAverageValue line.key line.amount
  else pure books

def allocateLine (ctx : CostingContext) (params : LandedCostParams) (s : LandedState)
    (line : LandedCostLine) : Except CostingError LandedState := do
  throwWhen (line.amount ≤ 0) (.landedCostNotPositive line.goodsReceiptLineId)
  let allocatedAmount ← columnOf line.amount
  let books ← line.enterBooks ctx s.books
  pure
    { books := books
      landedCosts := s.landedCosts ++ [⟨params.goodsReceiptId, line.goodsReceiptLineId,
        line.costLayerId, line.costCategory, params.allocationMethod, allocatedAmount,
        params.vendorInvoiceRef⟩]
      totalAllocated := s.totalAllocated.plus line.amount }

def LandedCostParams.posting (params : LandedCostParams) (totalAllocated : Decimal) :
    PostingParams where
  transactionType := .goodsReceipt
  referenceType := "LANDED_COST"
  referenceId := params.goodsReceiptId
  fiscalPeriodId := params.fiscalPeriodId
  amount := totalAllocated
  description := "Landed cost allocation — GR " ++ uuidText params.goodsReceiptId

def allocateLandedCost (ctx : CostingContext) (db : CostingDb) (params : LandedCostParams) :
    Except CostingError (CostingDb × CostResult) :=
  if db.hasProcessed (params.idempKey ctx) then .ok (db, .alreadyProcessed)
  else do
    ctx.assertPeriodOpen params.fiscalPeriodId
    let s ← forEach (allocateLine ctx params) ⟨db.books, db.landedCosts, 0⟩ params.allocations
    let journal ← postWhen (0 < s.totalAllocated) ctx db.journal (params.posting s.totalAllocated)
    pure
      ({ db with
          books := s.books
          landedCosts := s.landedCosts
          idempotencyKeys := db.idempotencyKeys ++ [params.idempKey ctx]
          journal := journal },
        .costed s.totalAllocated)

/-! ### Work in process -/

def accumulateWIP (wip : List WipAccumulation) (workOrderId : Id) (costElement : String)
    (amount : Decimal) : Except CostingError (List WipAccumulation) :=
  match lookup WipAccumulation.key wip (workOrderId, costElement) with
  | none => do
      let accumulatedAmount ← columnOf amount
      pure (wip ++ [{ workOrderId := workOrderId, costElement := costElement,
                      accumulatedAmount := accumulatedAmount }])
  | some row => do
      let accumulatedAmount ← columnOf (row.accumulatedAmount.value + amount)
      pure (upsert WipAccumulation.key wip { row with accumulatedAmount := accumulatedAmount })

/-! ### Material issues -/

structure IssueCostParams where
  workOrderId : Id
  materialIssueId : Id
  key : StockKey
  quantity : Decimal
  uom : String
  batchId : Option Id := none
  fiscalPeriodId : Option Id := none
deriving DecidableEq

namespace IssueCostParams

variable (params : IssueCostParams)

def idempKey : String × String := ("MI_COST", "MI_COST:" ++ uuidText params.materialIssueId)

def leaveBooks (ctx : CostingContext) (books : Books) : Except CostingError (Books × Decimal) :=
  match ctx.resolveMethod params.key with
  | .fifo | .lifo =>
    books.depleteCostLayers params.key params.quantity (ctx.resolveMethod params.key)
      ⟨"MATERIAL_ISSUE", params.materialIssueId⟩
  | .movingAverage => do
      let avgCost := books.getMovingAverageCost params.key
      let books ← books.updateMovingAverage params.key (-params.quantity) avgCost
      pure (books, params.quantity.times avgCost)
  | .standard | .actualJobCosting => do
      let stdCost ← ctx.getStandardCost params.key.productId
      pure (books, params.quantity.times stdCost)

def posting (ctx : CostingContext) (issueCost : Decimal) : PostingParams where
  transactionType := .materialIssue
  referenceType := "MATERIAL_ISSUE"
  referenceId := params.materialIssueId
  fiscalPeriodId := params.fiscalPeriodId
  amount := issueCost
  productId := some params.key.productId
  locationId := some params.key.locationId
  description := "Material issue to WO " ++ uuidText params.workOrderId ++ " — " ++
    ctx.shown params.quantity ++ " " ++ params.uom

def entry (issueCost : Decimal) (journalEntryId : Id) : EntryParams where
  key := params.key
  batchId := params.batchId
  entryType := .ledgerProductionIssue
  quantity := -params.quantity
  unitCost := some (issueCost.dividedBy params.quantity)
  referenceType := some "MATERIAL_ISSUE"
  referenceId := some params.materialIssueId
  journalEntryId := some journalEntryId

end IssueCostParams

def issueMaterialCost (ctx : CostingContext) (db : CostingDb) (params : IssueCostParams) :
    Except CostingError (CostingDb × CostResult) := do
  let _ ← ctx.resolveBaseCurrency
  if db.hasProcessed params.idempKey then pure (db, .alreadyProcessed)
  else do
    ctx.assertPeriodOpen params.fiscalPeriodId
    throwWhen (params.quantity = 0) .zeroIssueQuantity
    let issued ← params.leaveBooks ctx db.books
    let books ← issued.1.updateLastIssueCost params.key (issued.2.dividedBy params.quantity)
    let wip ← accumulateWIP db.wip params.workOrderId "MATERIAL" issued.2
    let posted ← postTransactionalJournal ctx db.journal (params.posting ctx issued.2)
    let stock ← recordEntry db.stock (params.entry issued.2 posted.2.id)
    pure
      ({ db with
          stock := stock
          books := books
          wip := wip
          idempotencyKeys := db.idempotencyKeys ++ [params.idempKey]
          journal := posted.1 },
        .costed issued.2)

end Forecast.Costing
