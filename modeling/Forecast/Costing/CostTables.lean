import Forecast.Accounting.JournalEntries
import Forecast.Inventory.LedgerEntries
import Mathlib.Data.List.Sort

/-!
# Tables and postings of the costing engine

The cost records of one tenant: average costs, cost layers and what was taken from
them, work in process and the journal. Amounts are kept with four decimals.
-/

open KeyedTable DecimalColumn Transactions

namespace Forecast.Costing

open Inventory (Qty StockKey StockDb InventoryError)

inductive CostingMethod where
  | standard
  | movingAverage
  | fifo
  | lifo
  | actualJobCosting
deriving DecidableEq

def CostingMethod.text : CostingMethod → String
  | standard => "STANDARD"
  | movingAverage => "MOVING_AVERAGE"
  | fifo => "FIFO"
  | lifo => "LIFO"
  | actualJobCosting => "ACTUAL_JOB_COSTING"

inductive PostingTransactionType where
  | goodsReceipt
  | materialIssue
  | productionReceipt
  | inventoryAdjustment
  | scrap
  | costVariance
  | laborAbsorption
  | overheadAbsorption
deriving DecidableEq

def PostingTransactionType.text : PostingTransactionType → String
  | goodsReceipt => "GOODS_RECEIPT"
  | materialIssue => "MATERIAL_ISSUE"
  | productionReceipt => "PRODUCTION_RECEIPT"
  | inventoryAdjustment => "INVENTORY_ADJUSTMENT"
  | scrap => "SCRAP"
  | costVariance => "COST_VARIANCE"
  | laborAbsorption => "LABOR_ABSORPTION"
  | overheadAbsorption => "OVERHEAD_ABSORPTION"

inductive CostLayerStatus where
  | opened
  | depleted
  | frozen
deriving DecidableEq

inductive PeriodCloseStatus where
  | opened
  | closing
  | closed
  | reopened
deriving DecidableEq

/-! ### Rows -/

/-- A row of `item_costs`, unique by its key. -/
structure ItemCost where
  id : Id
  key : StockKey
  currentUnitCost : Qty
  currentTotalQty : Qty
  currentTotalValue : Qty
  lastReceiptCost : Qty
  lastIssueCost : Option Qty := none
deriving DecidableEq

/-- A row of `cost_layers`; ids follow the order of creation. -/
structure CostLayer where
  id : Id
  key : StockKey
  batchId : Option Id
  costingMethod : CostingMethod
  layerDate : Millis
  referenceType : String
  referenceId : Id
  referenceNumber : Option Id := none
  originalQty : Qty
  remainingQty : Qty
  unitCost : Qty
  totalCost : Qty
  landedCost : Qty := .zero
  fiscalPeriodId : Option Id
  status : CostLayerStatus := .opened
deriving DecidableEq

/-- A row of `cost_layer_depletions`. -/
structure CostLayerDepletion where
  costLayerId : Id
  depletedQty : Qty
  unitCost : Qty
  totalCost : Qty
  referenceType : String
  referenceId : Id
deriving DecidableEq

/-- A row of `landed_cost_allocations`. -/
structure LandedCostAllocation where
  goodsReceiptId : Id
  goodsReceiptLineId : Id
  costLayerId : Option Id
  costCategory : String
  allocationMethod : String
  allocatedAmount : Qty
  vendorInvoiceRef : Option String := none
deriving DecidableEq

/-- A row of `currency_rate_snapshots`. -/
structure CurrencyRateSnapshot where
  fromCurrency : String
  toCurrency : String
  rate : Column 18 8
  inverseRate : Column 18 8
  referenceId : Id
deriving DecidableEq

/-- A row of `wip_cost_accumulations`, unique by work order and cost element. -/
structure WipAccumulation where
  workOrderId : Id
  costElement : String
  accumulatedAmount : Qty
  absorbedAmount : Qty := .zero
  varianceAmount : Qty := .zero
deriving DecidableEq

def WipAccumulation.key (row : WipAccumulation) : Id × String := (row.workOrderId, row.costElement)

/-- The tables that say what stock costs. -/
structure Books where
  itemCosts : List ItemCost
  costLayers : List CostLayer
  depletions : List CostLayerDepletion
deriving DecidableEq

/-- The tables of one tenant. -/
structure CostingDb where
  stock : StockDb
  books : Books
  landedCosts : List LandedCostAllocation
  rateSnapshots : List CurrencyRateSnapshot
  wip : List WipAccumulation
  /-- Scopes and keys. -/
  idempotencyKeys : List (String × String)
  journal : List JournalEntry
deriving DecidableEq

def CostingDb.empty (stock : StockDb) (journal : List JournalEntry) : CostingDb :=
  ⟨stock, ⟨[], [], []⟩, [], [], [], [], journal⟩

/-- A finished operation left its scope and key. -/
def CostingDb.hasProcessed (db : CostingDb) (key : String × String) : Bool :=
  key ∈ db.idempotencyKeys

/-! ### What the engine reads and does not change -/

structure ItemCostProfile where
  productId : Id
  locationId : Option Id
  costingMethod : CostingMethod
  overheadRate : Option Qty := none
deriving DecidableEq

/-- A row of `product_costings` of type `STANDARD`. -/
structure ProductCosting where
  productId : Id
  effectiveFrom : Millis
  effectiveTo : Option Millis
  materialCost : Qty
  laborCost : Qty
  overheadCost : Qty
  totalCost : Qty
deriving DecidableEq

structure ProductCost where
  id : Id
  standardCost : Option Qty
deriving DecidableEq

structure PostingProfile where
  transactionType : PostingTransactionType
  debitAccountId : Id
  creditAccountId : Id
  productCategory : Option String := none
  productCategoryId : Option Id := none
  locationId : Option Id := none
  isActive : Bool := true
  priority : ℤ := 0
deriving DecidableEq

structure PeriodCloseCheckpoint where
  fiscalPeriodId : Id
  status : PeriodCloseStatus
deriving DecidableEq

structure WorkOrderRouting where
  workOrderId : Id
  routingId : Option Id
deriving DecidableEq

/-- A routing operation with the rates of its work center. -/
structure RoutingOperation where
  routingId : Id
  setupCostPerHour : Qty
  costPerHour : Qty
deriving DecidableEq

/-- What the engine reads at the time of a call. -/
structure CostingContext where
  accounting : AccountingContext
  itemCostProfiles : List ItemCostProfile := []
  productCostings : List ProductCosting := []
  products : List ProductCost := []
  postingProfiles : List PostingProfile := []
  checkpoints : List PeriodCloseCheckpoint := []
  workOrders : List WorkOrderRouting := []
  routingOperations : List RoutingOperation := []
  /-- The text of a number. -/
  shown : Decimal → String

/-- The text of a row id. -/
def uuidText (id : Id) : String := toString id

/-! ### Errors -/

inductive CostingError where
  | exchangeRateRequired (purchaseCurrency baseCurrency : String)
  | landedCostNotPositive (goodsReceiptLineId : Id)
  | invalidCostLayer (costLayerId productId locationId : Id)
  | zeroIssueQuantity
  | insufficientLayers (method : CostingMethod) (requested available : Decimal)
  | noItemCost (productId locationId : Id)
  | noOverheadRate (productId : Id)
  | periodNotFound (fiscalPeriodId : Id)
  | periodClosed (fiscalPeriodId : Id)
  | periodLocked (fiscalPeriodId : Id)
  | noPostingProfile (transactionType : PostingTransactionType)
  | journal (e : JournalError)
  | inventory (e : InventoryError)
  /-- The database finds no row for `findUniqueOrThrow` or `findFirstOrThrow`. -/
  | recordNotFound
  /-- A value has more digits than its column, or is infinite. -/
  | numericOverflow
deriving DecidableEq

/-- The message of an error; the database words its own two. -/
def CostingError.text (shown : Decimal → String) (tenantId : String) :
    CostingError → Option String
  | exchangeRateRequired purchaseCurrency baseCurrency =>
    some ("Exchange rate is required when purchase currency (" ++ purchaseCurrency ++
      ") differs from base currency (" ++ baseCurrency ++ "). " ++
      "Cannot default to 1:1 — this would produce incorrect cost layers.")
  | landedCostNotPositive goodsReceiptLineId =>
    some ("Landed cost amount must be greater than zero for line " ++ uuidText goodsReceiptLineId)
  | invalidCostLayer costLayerId productId locationId =>
    some ("Invalid cost layer " ++ uuidText costLayerId ++ " for product " ++
      uuidText productId ++ " at location " ++ uuidText locationId)
  | zeroIssueQuantity => some "Material issue quantity must be greater than zero."
  | insufficientLayers method requested available =>
    some ("Insufficient cost layers for " ++ method.text ++ " depletion. " ++
      "Requested: " ++ shown requested ++ ", Available: " ++ shown available)
  | noItemCost productId locationId =>
    some ("No ItemCost record for product " ++ uuidText productId ++ " at location " ++
      uuidText locationId)
  | noOverheadRate productId =>
    some ("No overhead rate configured for product " ++ uuidText productId ++
      ". Configure ItemCostProfile.overheadRate " ++
      "or ensure work-center setup/cost rates are available for this tenant.")
  | periodNotFound fiscalPeriodId =>
    some ("Fiscal period " ++ uuidText fiscalPeriodId ++ " not found for this tenant.")
  | periodClosed fiscalPeriodId =>
    some ("Fiscal period " ++ uuidText fiscalPeriodId ++
      " is closed. No cost modifications allowed.")
  | periodLocked fiscalPeriodId =>
    some ("Fiscal period " ++ uuidText fiscalPeriodId ++
      " is locked. No cost modifications allowed.")
  | noPostingProfile transactionType =>
    some ("No posting profile configured for transaction type " ++ transactionType.text ++ ". " ++
      "Create a PostingProfile before performing this operation.")
  | journal e => some (e.text shown tenantId)
  | inventory e => e.text shown uuidText
  | recordNotFound => none
  | numericOverflow => none

/-- Writing to a column of amounts. -/
def columnOf (q : Decimal) : Except CostingError Qty := found (Column.store q) .numericOverflow

theorem columnOf_eq_ok {q : Decimal} {c : Qty} : columnOf q = .ok c ↔ Column.store q = some c :=
  found_eq_ok

/-! ### Reading the context -/

namespace CostingContext

variable (ctx : CostingContext)

def resolveBaseCurrency : Except CostingError String :=
  found ctx.accounting.defaultCurrency .recordNotFound

def itemCostProfile (key : StockKey) : Option ItemCostProfile :=
  ctx.itemCostProfiles.find? fun p => p.productId = key.productId ∧ p.locationId = some key.locationId

def resolveMethod (key : StockKey) : CostingMethod :=
  match ctx.itemCostProfile key with
  | some profile => profile.costingMethod
  | none => .standard

def standardCosting (productId : Id) : Option ProductCosting :=
  let now := ctx.accounting.now
  let inForce := ctx.productCostings.filter fun c =>
    c.productId = productId ∧ c.effectiveFrom ≤ now ∧ ∀ effectiveTo ∈ c.effectiveTo, now ≤ effectiveTo
  (inForce.insertionSort fun c d => d.effectiveFrom ≤ c.effectiveFrom).head?

def getStandardCost (productId : Id) : Except CostingError Decimal :=
  match ctx.standardCosting productId with
  | some costing => .ok costing.totalCost.value
  | none => do
      let product ← found (lookup ProductCost.id ctx.products productId) .recordNotFound
      pure ((product.standardCost.getD .zero).value)

def assertPeriodOpen : Option Id → Except CostingError Unit
  | none => .ok ()
  | some fiscalPeriodId => do
      let checkpoint := lookup PeriodCloseCheckpoint.fiscalPeriodId ctx.checkpoints fiscalPeriodId
      throwWhen (checkpoint.map PeriodCloseCheckpoint.status = some .closed)
        (.periodClosed fiscalPeriodId)
      let period ← found (lookup FiscalPeriod.id ctx.accounting.fiscalPeriods fiscalPeriodId)
        (.periodNotFound fiscalPeriodId)
      throwWhen period.isLocked (.periodLocked fiscalPeriodId)

end CostingContext

/-! ### Posting to the journal -/

namespace PostingProfile

def hasCategory (profile : PostingProfile) : Bool :=
  profile.productCategoryId.isSome ||
    profile.productCategory.any fun category => JsText.trim category ≠ ""

def specificity (profile : PostingProfile) : ℕ :=
  (if profile.hasCategory then 2 else 0) + (if profile.locationId.isSome then 1 else 0)

/-- The more specific profile, then the one of higher priority, then the first. -/
def better (best : Option PostingProfile) (profile : PostingProfile) : Option PostingProfile :=
  match best with
  | none => some profile
  | some b =>
    if b.specificity < profile.specificity ∨
        profile.specificity = b.specificity ∧ b.priority < profile.priority then some profile
    else some b

end PostingProfile

/-- The engine posts without a product category, which only profiles without one match. -/
def resolvePostingProfile (profiles : List PostingProfile)
    (transactionType : PostingTransactionType) (locationId : Option Id) : Option PostingProfile :=
  let ordered := (profiles.filter fun p => p.transactionType = transactionType ∧ p.isActive)
    |>.insertionSort fun p q => q.priority ≤ p.priority
  let matching := ordered.filter fun p =>
    !p.hasCategory && (p.locationId.isNone || p.locationId = locationId)
  (matching.foldl PostingProfile.better none).or ordered.head?

structure PostingParams where
  transactionType : PostingTransactionType
  referenceType : String
  referenceId : Id
  fiscalPeriodId : Option Id
  amount : Decimal
  productId : Option Id := none
  locationId : Option Id := none
  description : String

def postingKey (transactionType : PostingTransactionType) (referenceId : Id) : String :=
  transactionType.text ++ ":" ++ uuidText referenceId

def PostingParams.key (params : PostingParams) : String :=
  postingKey params.transactionType params.referenceId

def PostingParams.toJournal (params : PostingParams) (profile : PostingProfile) (now : Millis) :
    JournalParams where
  entryDate := now
  referenceType := params.referenceType
  referenceId := some params.referenceId
  description := some params.description
  idempotencyKey := some params.key
  fiscalPeriodId := params.fiscalPeriodId
  lines :=
    [ { glAccountId := profile.debitAccountId
        debitAmount := params.amount
        creditAmount := 0
        productId := params.productId
        locationId := params.locationId
        description := some (params.transactionType.text ++ " - Debit") },
      { glAccountId := profile.creditAccountId
        debitAmount := 0
        creditAmount := params.amount
        productId := params.productId
        locationId := params.locationId
        description := some (params.transactionType.text ++ " - Credit") } ]

def lineColumns (line : JournalEntryLine) : Except CostingError JournalEntryLine := do
  let debitAmount ← columnOf line.debitAmount
  let creditAmount ← columnOf line.creditAmount
  pure { line with debitAmount := debitAmount.value, creditAmount := creditAmount.value }

def entryColumns (entry : JournalEntry) : Except CostingError JournalEntry := do
  let totalDebit ← columnOf entry.totalDebit
  let totalCredit ← columnOf entry.totalCredit
  let lines ← entry.lines.mapM lineColumns
  pure { entry with totalDebit := totalDebit.value, totalCredit := totalCredit.value, lines := lines }

def postTransactionalJournal (ctx : CostingContext) (journal : List JournalEntry)
    (params : PostingParams) : Except CostingError (List JournalEntry × JournalEntry) := do
  let profile ← found (resolvePostingProfile ctx.postingProfiles params.transactionType
    params.locationId) (.noPostingProfile params.transactionType)
  let posted ← (createJournalEntry ctx.accounting journal
    (params.toJournal profile ctx.accounting.now)).mapError CostingError.journal
  if posted.2 ∈ journal then pure (journal, posted.2)
  else do
    let entry ← entryColumns posted.2
    pure (journal ++ [entry], entry)

end Forecast.Costing
