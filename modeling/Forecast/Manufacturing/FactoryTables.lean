import Forecast.Costing.CostCalls

/-!
# Purchase orders, receipts and work orders

The tables of one tenant that the operations on orders write, beside the stock and its
costs, and what the operations read of the settings.
-/

open KeyedTable DecimalColumn Transactions

namespace Forecast.Manufacturing

open Inventory (Qty StockKey WarehouseDb InventoryReservation InventoryHold InventoryError Batch)
open Costing (CostingDb CostingContext CostingError CostResult)

inductive PurchaseOrderStatus where
  | draft
  | pendingApproval
  | approved
  | sent
  | partiallyReceived
  | received
  | closed
  | cancelled
deriving DecidableEq

inductive GoodsReceiptStatus where
  | pending
  | posted
  | cancelled
deriving DecidableEq

inductive GoodsReceiptQcStatus where
  | notRequired
  | qcPending
  | qcPassed
  | qcConditional
  | qcFailed
deriving DecidableEq

inductive WorkOrderStatus where
  | planned
  | released
  | inProgress
  | onHold
  | completed
  | closed
  | cancelled
deriving DecidableEq

inductive InspectionType where
  | incoming
  | inProcess
deriving DecidableEq

inductive InspectionStatus where
  | pending
  | inProgress
  | passed
  | failed
  | conditionallyAccepted
deriving DecidableEq

/-- `InventoryTransactionType` -/
inductive TransactionType where
  | receipt
  | issue
  | transfer
  | adjustmentIn
  | adjustmentOut
  | scrap
  | return
  | productionReceipt
  | productionIssue
deriving DecidableEq

/-! ### Rows -/

structure PurchaseOrderLine where
  id : Id
  productId : Id
  quantity : Qty
  receivedQty : Qty := .zero
  unitPrice : Qty := .zero
deriving DecidableEq

/-- A row of `purchase_orders` with its lines. -/
structure PurchaseOrder where
  id : Id
  supplierId : Id
  locationId : Id
  status : PurchaseOrderStatus
  currency : Option String := none
  lines : List PurchaseOrderLine
deriving DecidableEq

structure GoodsReceiptLine where
  id : Id
  productId : Id
  quantity : Qty
  batchId : Option Id := none
  /-- The order line that the request named; no column holds it. -/
  purchaseOrderLineId : Id
deriving DecidableEq

/-- A row of `goods_receipts` with its lines. -/
structure GoodsReceipt where
  id : Id
  purchaseOrderId : Option Id
  locationId : Id
  status : GoodsReceiptStatus := .pending
  qcStatus : GoodsReceiptQcStatus := .notRequired
  lines : List GoodsReceiptLine
deriving DecidableEq

structure WorkOrder where
  id : Id
  productId : Id
  bomId : Option Id
  locationId : Id
  status : WorkOrderStatus := .planned
  plannedQty : Qty
  completedQty : Qty := .zero
  scrappedQty : Qty := .zero
deriving DecidableEq

/-- A row of `material_issues`; its id is its position. -/
structure MaterialIssue where
  workOrderId : Id
  productId : Id
  quantity : Qty
deriving DecidableEq

/-- A row of `production_completions`; its id is its position. -/
structure ProductionCompletion where
  workOrderId : Id
  completedQty : Qty
  scrappedQty : Qty
deriving DecidableEq

/-- A row of `inventory_transactions`. -/
structure InventoryTransaction where
  productId : Id
  locationId : Id
  transactionType : TransactionType
  quantity : Qty
  toLocationId : Option Id := none
  referenceType : Option String := none
  referenceId : Option Id := none
deriving DecidableEq

structure QualityInspection where
  id : Id
  productId : Id
  goodsReceiptId : Option Id := none
  purchaseOrderId : Option Id := none
  workOrderId : Option Id := none
  locationId : Id
  inspectionType : InspectionType
  status : InspectionStatus := .pending
  inspectedQty : Qty
  acceptedQty : Qty := .zero
  rejectedQty : Qty := .zero
deriving DecidableEq

structure BomComponent where
  componentProductId : Id
  quantity : Column 18 6
deriving DecidableEq

/-- A bill of material with its components. -/
structure Bom where
  id : Id
  components : List BomComponent
deriving DecidableEq

structure FactoryDb where
  costing : CostingDb
  reservations : List InventoryReservation := []
  holds : List InventoryHold := []
  boms : List Bom := []
  purchaseOrders : List PurchaseOrder := []
  goodsReceipts : List GoodsReceipt := []
  workOrders : List WorkOrder := []
  materialIssues : List MaterialIssue := []
  completions : List ProductionCompletion := []
  transactions : List InventoryTransaction := []
  inspections : List QualityInspection := []
deriving DecidableEq

/-! ### What the operations read and do not change -/

structure Product where
  id : Id
  qcRequired : Bool := false
  batchTracked : Bool := false
  unitOfMeasure : String := "EA"
deriving DecidableEq

structure SupplierProduct where
  supplierId : Id
  productId : Id
  inspectionRequired : Bool
deriving DecidableEq

/-- An active unit conversion, for one product or for all. -/
structure UomConversion where
  productId : Option Id
  fromUom : String
  toUom : String
  factor : Decimal
deriving DecidableEq

structure FactoryContext where
  tenantId : Id
  costing : CostingContext
  products : List Product := []
  /-- The first active location. -/
  location : Option Id := none
  supplierProducts : List SupplierProduct := []
  conversions : List UomConversion := []
  userIds : List Id := []
  /-- Whether an issue that waits for the lock of a report still commits after the report's time
  is over. -/
  issuesOutlast : Bool := false

def FactoryContext.product (ctx : FactoryContext) (productId : Id) : Option Product :=
  lookup Product.id ctx.products productId

def FactoryContext.key (ctx : FactoryContext) (productId locationId : Id) : StockKey :=
  ⟨ctx.tenantId, productId, locationId⟩

/-! ### Errors -/

inductive ManufacturingError where
  | purchaseOrderNotFound
  | notDraft
  | orderClosed
  | notReleasedOrder
  | goodsReceiptNotFound
  | receiptProcessed
  | noActiveLocation
  | noLocationForTransaction
  | workOrderNotFound
  | notPlanned
  | notReleased
  | notInProgress
  | workOrderClosed
  | notIssuable
  | mustBeInProgress
  | noBom
  | inspectionNotFound
  | noCurrency
  | inventory (e : InventoryError)
  | costing (e : CostingError)
  /-- A value has more digits than its column, or a row or a user is not there. -/
  | refused
  /-- The transaction was open for too long. -/
  | timedOut
deriving DecidableEq

/-- The message of an error; the database words its own. -/
def ManufacturingError.text (shown : Decimal → String) (tenantId : String) :
    ManufacturingError → Option String
  | purchaseOrderNotFound => some "Purchase order not found"
  | notDraft => some "Can only release draft orders"
  | orderClosed => some "Cannot cancel completed or already cancelled orders"
  | notReleasedOrder => some "Can only receive against released orders"
  | goodsReceiptNotFound => some "Goods receipt not found"
  | receiptProcessed => some "Receipt already processed"
  | noActiveLocation => some "No active location found"
  | noLocationForTransaction =>
    some "No active location found for this tenant. Please create a location first."
  | workOrderNotFound => some "Work order not found"
  | notPlanned => some "Can only release planned orders"
  | notReleased => some "Can only start released orders"
  | notInProgress => some "Can only complete in-progress orders"
  | workOrderClosed => some "Cannot cancel completed or already cancelled orders"
  | notIssuable => some "Can only issue to released or in-progress orders"
  | mustBeInProgress => some "Work order must be in progress"
  | noBom => some "Work order has no BOM"
  | inspectionNotFound => some "Quality inspection not found"
  | noCurrency =>
    some ("Tenant " ++ tenantId ++ " has no default currency configured. " ++
      "Set tenant.defaultCurrency before performing financial operations.")
  | inventory e => e.text shown Costing.uuidText
  | costing e => e.text shown tenantId
  | refused | timedOut => none

/-- A column that names a user is written with the tenant's id. -/
def FactoryContext.signedByTenant (ctx : FactoryContext) : Except ManufacturingError Unit :=
  throwWhen (ctx.tenantId ∉ ctx.userIds) .refused

/-- Writing to a column of quantities. -/
def columnOf (q : Decimal) : Except ManufacturingError Qty := found (Column.store q) .refused

theorem columnOf_eq_ok {q : Decimal} {c : Qty} : columnOf q = .ok c ↔ Column.store q = some c :=
  found_eq_ok

namespace FactoryDb

variable (db : FactoryDb)

/-- The tables of the stock service. -/
def warehouse : WarehouseDb := ⟨db.costing.stock, db.reservations, db.holds⟩

def withWarehouse (w : WarehouseDb) : FactoryDb :=
  { db with
    costing := { db.costing with stock := w.stock }
    reservations := w.reservations
    holds := w.holds }

/-- A call of the stock service in the same transaction. -/
def inWarehouse (f : WarehouseDb → Except InventoryError WarehouseDb) :
    Except ManufacturingError FactoryDb := do
  let w ← (f db.warehouse).mapError ManufacturingError.inventory
  pure (db.withWarehouse w)

/-- A call of the costing engine in the same transaction. -/
def inCosting (f : CostingDb → Except CostingError (CostingDb × CostResult)) :
    Except ManufacturingError FactoryDb := do
  let costed ← (f db.costing).mapError ManufacturingError.costing
  pure { db with costing := costed.1 }

def recordEntry (params : Inventory.EntryParams) : Except ManufacturingError FactoryDb :=
  db.inWarehouse fun w => w.recordEntry params

/-- The key of a finished operation. -/
def stamp (key : String × String) : FactoryDb :=
  { db with costing := { db.costing with idempotencyKeys := db.costing.idempotencyKeys ++ [key] } }

def purchaseOrder (id : Id) : Option PurchaseOrder := lookup PurchaseOrder.id db.purchaseOrders id

def writeOrder (order : PurchaseOrder) : FactoryDb :=
  { db with purchaseOrders := upsert PurchaseOrder.id db.purchaseOrders order }

def workOrder (id : Id) : Except ManufacturingError WorkOrder :=
  found (lookup WorkOrder.id db.workOrders id) .workOrderNotFound

def writeWorkOrder (order : WorkOrder) : FactoryDb :=
  { db with workOrders := upsert WorkOrder.id db.workOrders order }

/-- A row of `inventory_transactions`. -/
def logTransaction (row : Qty → InventoryTransaction) (quantity : Decimal) :
    Except ManufacturingError FactoryDb := do
  let stored ← columnOf quantity
  pure { db with transactions := db.transactions ++ [row stored] }

end FactoryDb

end Forecast.Manufacturing
