import Forecast.Manufacturing.FactoryTables

/-!
# Work orders

A work order is released, started, supplied with material, reported on and completed.
Its finished goods are taken into stock when it is completed. A report issues the
materials of the reported quantity in transactions of their own, which wait for the lock
that the report has on the order until its time is over: a report that needs material
never returns.
-/

open KeyedTable DecimalColumn Transactions

namespace Forecast.Manufacturing

open Inventory (Qty StockKey EntryParams HoldParams Batch InventoryReservation)

structure IssueParams where
  workOrderId : Id
  productId : Id
  quantity : Decimal
  batchId : Option Id := none
deriving DecidableEq

structure CompletionParams where
  workOrderId : Id
  quantity : Decimal
  scrapQuantity : Option Decimal := none
  batchId : Option Id := none
deriving DecidableEq

def isActiveFor (workOrderId : Id) (row : InventoryReservation) : Bool :=
  row.referenceType = "WORK_ORDER" ∧ row.referenceId = workOrderId ∧ row.status = .active

namespace FactoryDb

variable (ctx : FactoryContext) (db : FactoryDb)

/-! ### Release, start and cancellation -/

/-- What is free of the component, at whichever location comes first, is reserved. -/
def reserveComponent (order : WorkOrder) (db : FactoryDb) (component : BomComponent) :
    Except ManufacturingError FactoryDb :=
  let required := component.quantity.value * order.plannedQty.value
  let level := db.costing.stock.levels.find? fun l =>
    l.key.productId = component.componentProductId ∧ l.key.tenantId = ctx.tenantId
  let available : Decimal := (level.map fun l => l.availableQty.value).getD 0
  let reserveQty := min required (max available 0)
  if 0 < reserveQty then do
    ctx.signedByTenant
    db.inWarehouse fun w => w.createReservation
      { key := ctx.key component.componentProductId order.locationId
        quantity := reserveQty
        referenceType := "WORK_ORDER"
        referenceId := order.id }
  else .ok db

def components (bomId : Option Id) : List BomComponent :=
  ((bomId.bind (lookup Bom.id db.boms)).map Bom.components).getD []

def releaseWorkOrder (id : Id) : Except ManufacturingError FactoryDb := do
  let order ← db.workOrder id
  throwWhen (order.status ≠ .planned) .notPlanned
  let db ← forEach (reserveComponent ctx order) db (db.components order.bomId)
  pure (db.writeWorkOrder { order with status := .released })

def startWorkOrder (id : Id) : Except ManufacturingError FactoryDb := do
  let order ← db.workOrder id
  throwWhen (order.status ≠ .released) .notReleased
  pure (db.writeWorkOrder { order with status := .inProgress })

/-- The ids of the reservations that the order still has. -/
def activeReservations (workOrderId : Id) : List Id :=
  (db.reservations.zipIdx.filter fun row =>
    isActiveFor workOrderId row.1).map Prod.snd

def releaseFor (db : FactoryDb) (reservationId : Id) : Except ManufacturingError FactoryDb := do
  ctx.signedByTenant
  db.inWarehouse fun w => w.releaseReservation { reservationId := reservationId }

def releaseReservations (workOrderId : Id) : Except ManufacturingError FactoryDb :=
  forEach (releaseFor ctx) db (db.activeReservations workOrderId)

def cancelWorkOrder (id : Id) : Except ManufacturingError FactoryDb := do
  let order ← db.workOrder id
  throwWhen (order.status = .completed ∨ order.status = .cancelled) .workOrderClosed
  let db ← db.releaseReservations ctx id
  pure (db.writeWorkOrder { order with status := .cancelled })

/-! ### Material -/

/-- What is reserved for the order is released first, as far as it is issued. -/
def releaseForIssue (params : IssueParams) : Except ManufacturingError FactoryDb :=
  let reserved := db.reservations.zipIdx.find? fun row =>
    isActiveFor params.workOrderId row.1 ∧ row.1.key.productId = params.productId
  match reserved with
  | none => .ok db
  | some (reservation, reservationId) =>
    let remaining := reservation.reservedQty.value - reservation.fulfilledQty.value
    let qtyFromReservation := min params.quantity remaining
    if 0 < qtyFromReservation then
      db.inWarehouse fun w => w.releaseReservation
        { reservationId := reservationId
          fulfilledQty := some (.decimal qtyFromReservation) }
    else .ok db

def issueEntry (order : WorkOrder) (params : IssueParams) : EntryParams where
  key := ctx.key params.productId order.locationId
  entryType := .ledgerIssue
  quantity := params.quantity
  referenceType := some "WORK_ORDER"
  referenceId := some order.id

def issueTransaction (order : WorkOrder) (params : IssueParams) (quantity : Qty) :
    InventoryTransaction where
  productId := params.productId
  locationId := order.locationId
  transactionType := .issue
  quantity := quantity
  referenceType := some "WORK_ORDER"
  referenceId := some order.id

def issueCost (order : WorkOrder) (params : IssueParams) (materialIssueId : Id) :
    Costing.IssueCostParams where
  workOrderId := order.id
  materialIssueId := materialIssueId
  key := ctx.key params.productId order.locationId
  quantity := params.quantity
  uom := ((ctx.product params.productId).map Product.unitOfMeasure).getD "EA"
  batchId := params.batchId

def writeBatch (batch : Batch) : FactoryDb :=
  let batches := upsert Batch.id db.costing.stock.batches batch
  { db with costing := { db.costing with stock := { db.costing.stock with batches := batches } } }

/-- The batch gives what is issued from it. -/
def takeFromBatch (batchId : Option Id) (quantity : Decimal) :
    Except ManufacturingError FactoryDb :=
  match batchId.bind (lookup Batch.id db.costing.stock.batches) with
  | none => .ok db
  | some batch => do
      let availableQty ← columnOf (batch.availableQty.value - quantity)
      pure (db.writeBatch { batch with availableQty := availableQty })

def issueMaterial (params : IssueParams) : Except ManufacturingError FactoryDb := do
  let order ← db.workOrder params.workOrderId
  throwWhen (order.status ≠ .released ∧ order.status ≠ .inProgress) .notIssuable
  let db ← db.releaseForIssue params
  let quantity ← columnOf params.quantity
  let materialIssueId := db.materialIssues.length
  let db : FactoryDb :=
    { db with materialIssues := db.materialIssues ++ [⟨order.id, params.productId, quantity⟩] }
  let db ← db.recordEntry (issueEntry ctx order params)
  let db ← db.logTransaction (issueTransaction order params) (-params.quantity)
  let db ← db.inCosting fun costing => Costing.issueMaterialCost ctx.costing costing
    (issueCost ctx order params materialIssueId)
  db.takeFromBatch params.batchId params.quantity

/-- The sum of what was issued of a product, as the issues that were read say. -/
def alreadyIssued (issues : List MaterialIssue) (workOrderId productId : Id) : ℚ :=
  Binary64.sum ((issues.filter fun i => i.workOrderId = workOrderId ∧ i.productId = productId).map
    fun i => Decimal.toDouble i.quantity.value)

def toIssue (issues : List MaterialIssue) (workOrderId : Id) (completedQty : Decimal)
    (component : BomComponent) : ℚ :=
  let requiredQty :=
    Binary64.mul (Decimal.toDouble component.quantity.value) (Decimal.toDouble completedQty)
  Binary64.sub requiredQty (alreadyIssued issues workOrderId component.componentProductId)

end FactoryDb

/-- The tables a call leaves when it throws, and the tables or the error it ends with. -/
structure Outcome where
  left : FactoryDb
  result : Except ManufacturingError FactoryDb

namespace FactoryDb

variable (ctx : FactoryContext) (db : FactoryDb)

/-- Each component in a transaction of its own; the issues are those read at the start. -/
def backflushComponents (workOrderId : Id) (completedQty : Decimal) (issues : List MaterialIssue) :
    FactoryDb → List BomComponent → Outcome
  | db, [] => ⟨db, .ok db⟩
  | db, component :: components =>
    let quantity := toIssue issues workOrderId completedQty component
    if 0 < quantity then
      match db.issueMaterial ctx
        { workOrderId := workOrderId
          productId := component.componentProductId
          quantity := quantity } with
      | .ok db' => backflushComponents workOrderId completedQty issues db' components
      | .error e => ⟨db, .error e⟩
    else backflushComponents workOrderId completedQty issues db components

def backflushMaterials (workOrderId : Id) (completedQty : Decimal) : Outcome :=
  match lookup WorkOrder.id db.workOrders workOrderId with
  | none => ⟨db, .error .workOrderNotFound⟩
  | some order =>
    match order.bomId.bind (lookup Bom.id db.boms) with
    | none => ⟨db, .error .noBom⟩
    | some bom =>
      backflushComponents ctx workOrderId completedQty db.materialIssues db bom.components

/-- Whether a report of the quantity has something to issue. -/
def needsMaterial (workOrderId : Id) (completedQty : Decimal) : Bool :=
  (lookup WorkOrder.id db.workOrders workOrderId).any fun order =>
    (db.components order.bomId).any fun component =>
      0 < toIssue db.materialIssues workOrderId completedQty component

/-! ### Completion -/

def completionCost (order : WorkOrder) (completedQty scrappedQty : Qty) :
    Costing.CompletionParams where
  workOrderId := order.id
  key := ctx.key order.productId order.locationId
  completedQty := completedQty.value
  scrappedQty := some scrappedQty.value

/-- The engine takes the finished goods into stock. -/
def settleWorkOrder (order : WorkOrder) : Except ManufacturingError FactoryDb :=
  db.inCosting fun costing => Costing.completeWorkOrderCost ctx.costing costing
    (completionCost ctx order order.completedQty order.scrappedQty)

def completeKey (id : Id) : String × String := ("WO_COMPLETE", Costing.uuidText id)

/-- A journal entry of a completion by hand is posted by the tenant. -/
def completeWorkOrder (id : Id) : Except ManufacturingError FactoryDb :=
  if db.costing.hasProcessed (completeKey id) then .ok db
  else do
    let db := db.stamp (completeKey id)
    let order ← db.workOrder id
    throwWhen (order.status ≠ .inProgress) .notInProgress
    let db := db.writeWorkOrder { order with status := .completed }
    let db ← db.releaseReservations ctx id
    let settled ← db.settleWorkOrder ctx order
    throwWhen (settled.costing.journal ≠ db.costing.journal ∧ ctx.tenantId ∉ ctx.userIds) .refused
    pure settled

def productionTransaction (order : WorkOrder) (quantity : Qty) : InventoryTransaction where
  productId := order.productId
  locationId := order.locationId
  transactionType := .productionReceipt
  quantity := quantity
  referenceType := some "WORK_ORDER"
  referenceId := some order.id

def qcRequired (order : WorkOrder) : Bool :=
  ((ctx.product order.productId).map Product.qcRequired).getD false

def productionHold (order : WorkOrder) (quantity : Decimal) : HoldParams where
  key := ctx.key order.productId order.locationId
  quantity := quantity
  holdReason := "QC_INSPECTION"
  referenceType := some "WORK_ORDER"
  referenceId := some order.id

/-- What is produced of a product under quality control is held until its inspection. -/
def inspectProduction (order : WorkOrder) (quantity : Decimal) :
    Except ManufacturingError FactoryDb :=
  if qcRequired ctx order then do
    let db ← db.inWarehouse fun w => w.placeHold (productionHold ctx order quantity)
    let inspectedQty ← columnOf quantity
    pure
      { db with
        inspections := db.inspections ++
          [{ id := freshId (db.inspections.map QualityInspection.id)
             productId := order.productId
             workOrderId := some order.id
             locationId := order.locationId
             inspectionType := .inProcess
             inspectedQty := inspectedQty }] }
  else .ok db

def scrapProduction (order : WorkOrder) (completionId : Id) (scrapQuantity : Decimal) :
    Except ManufacturingError FactoryDb :=
  if 0 < scrapQuantity then
    db.inCosting fun costing => Costing.costScrap ctx.costing costing
      { key := ctx.key order.productId order.locationId
        quantity := scrapQuantity
        uom := ((ctx.product order.productId).map Product.unitOfMeasure).getD "EA"
        workOrderId := some order.id
        referenceId := completionId }
  else .ok db

def addToBatch (order : WorkOrder) (params : CompletionParams) :
    Except ManufacturingError FactoryDb :=
  if ((ctx.product order.productId).map Product.batchTracked).getD false then
    match params.batchId.bind (lookup Batch.id db.costing.stock.batches) with
    | none => .ok db
    | some batch => do
        let quantity ← columnOf (batch.quantity.value + params.quantity)
        let availableQty ← columnOf
          (batch.availableQty.value + if qcRequired ctx order then 0 else params.quantity)
        pure (db.writeBatch { batch with quantity := quantity, availableQty := availableQty })
  else .ok db

/-- A report that reaches the planned quantity completes the order. -/
def closeWhenFull (order : WorkOrder) : Except ManufacturingError FactoryDb :=
  if order.plannedQty.value ≤ order.completedQty.value then do
    let db := db.writeWorkOrder { order with status := .completed }
    let db ← db.settleWorkOrder ctx order
    db.releaseReservations ctx order.id
  else .ok db

/-- The report's own transaction, when no material is to be issued. -/
def completeReport (params : CompletionParams) (order : WorkOrder)
    (completion : ProductionCompletion) : Except ManufacturingError FactoryDb := do
  let completionId := db.completions.length
  let db := { db with completions := db.completions ++ [completion] }.writeWorkOrder order
  let db ← db.logTransaction (productionTransaction order) params.quantity
  let db ← db.inspectProduction ctx order params.quantity
  let db ← db.scrapProduction ctx order completionId (params.scrapQuantity.getD 0)
  let db ← db.addToBatch ctx order params
  db.closeWhenFull ctx order

def countReport (params : CompletionParams) :
    Except ManufacturingError (WorkOrder × ProductionCompletion) := do
  let order ← db.workOrder params.workOrderId
  throwWhen (order.status ≠ .inProgress) .mustBeInProgress
  let scrapQuantity := params.scrapQuantity.getD 0
  let completed ← columnOf params.quantity
  let scrapped ← columnOf scrapQuantity
  let completedQty ← columnOf (order.completedQty.value + params.quantity)
  let scrappedQty ← columnOf (order.scrappedQty.value + scrapQuantity)
  pure ({ order with completedQty := completedQty, scrappedQty := scrappedQty },
    ⟨order.id, completed, scrapped⟩)

/-- The first issue waits for the lock on the order, and the report for the issue, until the time
of the report is over. It is rolled back, and the issues with it unless they outlast it. -/
def reportProductionCompletion (params : CompletionParams) : Outcome :=
  match db.countReport params with
  | .error e => ⟨db, .error e⟩
  | .ok (order, completion) =>
    let issued := db.backflushMaterials ctx params.workOrderId params.quantity
    if db.needsMaterial params.workOrderId params.quantity then
      ⟨if ctx.issuesOutlast then issued.left else db, .error .timedOut⟩
    else
      ⟨db, do
        let db ← issued.result
        db.completeReport ctx params order completion⟩

end FactoryDb

end Forecast.Manufacturing
