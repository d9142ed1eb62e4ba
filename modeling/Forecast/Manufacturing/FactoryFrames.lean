import Forecast.Costing.JournalPostings
import Forecast.Manufacturing.GoodsReceipts
import Forecast.Manufacturing.StockMovements
import Forecast.Manufacturing.WorkOrders

/-!
# Quality inspections, and the calls one after another

A decision on an inspection releases or rejects holds of its product. Most steps of the calls write
stock, costs, holds and inspections and none of the documents. Each operation is read off once as
the document that it writes and such steps around it.
-/

open KeyedTable DecimalColumn Transactions

namespace Forecast.Manufacturing

open Inventory (Qty WarehouseDb InventoryError InventoryHold)
open Costing (CostingDb CostingError CostResult mapError_eq_ok)

/-- An active hold of the product for quality control, whatever document it was placed for. -/
def isHeldForQC (tenantId productId : Id) (hold : InventoryHold) : Bool :=
  hold.tenantId = tenantId ∧ hold.key.productId = productId ∧
    (hold.holdReason = "QC_INSPECTION" ∨ hold.holdReason = "QC_PENDING") ∧ hold.status = .active

namespace FactoryDb

variable (ctx : FactoryContext) (db : FactoryDb)

def setQcStatus (goodsReceiptId : Id) (qcStatus : GoodsReceiptQcStatus) :
    Except ManufacturingError FactoryDb := do
  let gr ← found (lookup GoodsReceipt.id db.goodsReceipts goodsReceiptId) .refused
  pure
    { db with
      goodsReceipts := upsert GoodsReceipt.id db.goodsReceipts { gr with qcStatus := qcStatus } }

def releaseHolds (productId : Id) : Except ManufacturingError FactoryDb :=
  forEach (fun db (hold : InventoryHold) => db.inWarehouse fun w =>
    w.releaseHold { holdId := hold.id }) db (db.holds.filter (isHeldForQC ctx.tenantId productId))

def rejectHolds (productId inspectionId : Id) : FactoryDb :=
  { db with
    holds := db.holds.map fun hold =>
      if isHeldForQC ctx.tenantId productId hold then
        { hold with status := .rejected, inspectionId := some inspectionId }
      else hold }

def decide (inspection : QualityInspection) (status : InspectionStatus) :
    Except ManufacturingError FactoryDb :=
  match inspection.goodsReceiptId, status with
  | some goodsReceiptId, .passed => do
      let db ← db.releaseHolds ctx inspection.productId
      db.setQcStatus goodsReceiptId .qcPassed
  | some goodsReceiptId, .conditionallyAccepted => do
      let db ← db.releaseHolds ctx inspection.productId
      db.setQcStatus goodsReceiptId .qcConditional
  | some goodsReceiptId, .failed =>
    (db.rejectHolds ctx inspection.productId inspection.id).setQcStatus goodsReceiptId .qcFailed
  | _, _ => .ok db

def updateQualityInspectionStatus (id : Id) (status : InspectionStatus) :
    Except ManufacturingError FactoryDb := do
  let inspection ← found (lookup QualityInspection.id db.inspections id) .inspectionNotFound
  let inspections :=
    upsert QualityInspection.id db.inspections { inspection with status := status }
  { db with inspections := inspections }.decide ctx inspection status

end FactoryDb

inductive FactoryOp where
  | releasePurchaseOrder (id : Id)
  | createGoodsReceipt (params : CreateReceiptParams)
  | confirmGoodsReceipt (id : Id)
  | cancelPurchaseOrder (id : Id)
  | createInventoryTransaction (params : TransactionParams)
  | adjustInventory (params : AdjustmentParams)
  | transferInventory (params : TransferParams)
  | releaseWorkOrder (id : Id)
  | startWorkOrder (id : Id)
  | issueMaterial (params : IssueParams)
  | backflushMaterials (workOrderId : Id) (completedQty : Decimal)
  | reportProductionCompletion (params : CompletionParams)
  | completeWorkOrder (id : Id)
  | cancelWorkOrder (id : Id)
  | updateQualityInspectionStatus (id : Id) (status : InspectionStatus)
deriving DecidableEq

/-- A call and what it finds in the tables that it only reads. -/
structure FactoryCall where
  ctx : FactoryContext
  op : FactoryOp

namespace FactoryDb

/-- How a call ends; only a backflush and a report leave something when they throw. -/
def outcome (db : FactoryDb) (c : FactoryCall) : Outcome :=
  match c.op with
  | .releasePurchaseOrder id => ⟨db, db.releasePurchaseOrder id⟩
  | .createGoodsReceipt params => ⟨db, db.createGoodsReceipt params⟩
  | .confirmGoodsReceipt id => ⟨db, db.confirmGoodsReceipt c.ctx id⟩
  | .cancelPurchaseOrder id => ⟨db, db.cancelPurchaseOrder id⟩
  | .createInventoryTransaction params => ⟨db, db.createInventoryTransaction c.ctx params⟩
  | .adjustInventory params => ⟨db, db.adjustInventory c.ctx params⟩
  | .transferInventory params => ⟨db, db.transferInventory c.ctx params⟩
  | .releaseWorkOrder id => ⟨db, db.releaseWorkOrder c.ctx id⟩
  | .startWorkOrder id => ⟨db, db.startWorkOrder id⟩
  | .issueMaterial params => ⟨db, db.issueMaterial c.ctx params⟩
  | .backflushMaterials id completedQty => db.backflushMaterials c.ctx id completedQty
  | .reportProductionCompletion params => db.reportProductionCompletion c.ctx params
  | .completeWorkOrder id => ⟨db, db.completeWorkOrder c.ctx id⟩
  | .cancelWorkOrder id => ⟨db, db.cancelWorkOrder c.ctx id⟩
  | .updateQualityInspectionStatus id status =>
    ⟨db, db.updateQualityInspectionStatus c.ctx id status⟩

def next (db : FactoryDb) (c : FactoryCall) : FactoryDb :=
  transaction (db.outcome c).left (db.outcome c).result

end FactoryDb

/-! ### What an operation leaves as it was -/

/-- The orders, the receipts, and what was issued and reported, are as they were. -/
structure SameDocuments (db db' : FactoryDb) : Prop where
  boms : db'.boms = db.boms
  purchaseOrders : db'.purchaseOrders = db.purchaseOrders
  goodsReceipts : db'.goodsReceipts = db.goodsReceipts
  workOrders : db'.workOrders = db.workOrders
  materialIssues : db'.materialIssues = db.materialIssues
  completions : db'.completions = db.completions

namespace SameDocuments

variable {db₁ db₂ db₃ : FactoryDb}

theorem refl (db : FactoryDb) : SameDocuments db db := ⟨rfl, rfl, rfl, rfl, rfl, rfl⟩

theorem trans (h : SameDocuments db₁ db₂) (h' : SameDocuments db₂ db₃) :
    SameDocuments db₁ db₃ where
  boms := h'.boms.trans h.boms
  purchaseOrders := h'.purchaseOrders.trans h.purchaseOrders
  goodsReceipts := h'.goodsReceipts.trans h.goodsReceipts
  workOrders := h'.workOrders.trans h.workOrders
  materialIssues := h'.materialIssues.trans h.materialIssues
  completions := h'.completions.trans h.completions

theorem forEach {α : Type} {f : FactoryDb → α → Except ManufacturingError FactoryDb}
    (hstep : ∀ db db' x, f db x = .ok db' → SameDocuments db db') {db db' : FactoryDb}
    {xs : List α} (h : Transactions.forEach f db xs = .ok db') : SameDocuments db db' :=
  forEach_invariant (I := SameDocuments db) (fun _ _ x _ hs hx => hs.trans (hstep _ _ x hx)) h
    (refl db)

theorem purchaseOrder (h : SameDocuments db₁ db₂) (id : Id) :
    db₂.purchaseOrder id = db₁.purchaseOrder id := by
  rw [FactoryDb.purchaseOrder, h.purchaseOrders]
  rfl

end SameDocuments

namespace FactoryDb

variable {ctx : FactoryContext} {db db' : FactoryDb}

/-! ### Steps of the other services -/

theorem inWarehouse_eq_ok {f : WarehouseDb → Except InventoryError WarehouseDb} :
    db.inWarehouse f = .ok db' ↔ ∃ w, f db.warehouse = .ok w ∧ db' = db.withWarehouse w := by
  simp only [inWarehouse, bind_eq_ok, pure_eq_ok, mapError_eq_ok, @eq_comm _ db']

theorem inCosting_eq_ok {f : CostingDb → Except CostingError (CostingDb × CostResult)} :
    db.inCosting f = .ok db' ↔ ∃ costing result, f db.costing = .ok (costing, result) ∧
      db' = { db with costing := costing } := by
  simp only [inCosting, bind_eq_ok, pure_eq_ok, mapError_eq_ok]
  constructor
  · rintro ⟨costed, hcosted, rfl⟩
    exact ⟨costed.1, costed.2, hcosted, rfl⟩
  · rintro ⟨costing, result, hcosted, rfl⟩
    exact ⟨(costing, result), hcosted, rfl⟩

theorem logTransaction_eq_ok {row : Qty → InventoryTransaction} {quantity : Decimal} :
    db.logTransaction row quantity = .ok db' ↔ ∃ stored, Column.store quantity = some stored ∧
      db' = { db with transactions := db.transactions ++ [row stored] } := by
  simp only [logTransaction, bind_eq_ok, pure_eq_ok, columnOf_eq_ok, @eq_comm _ db']

theorem sameDocuments_inWarehouse {f : WarehouseDb → Except InventoryError WarehouseDb}
    (h : db.inWarehouse f = .ok db') : SameDocuments db db' := by
  obtain ⟨w, -, rfl⟩ := inWarehouse_eq_ok.1 h
  exact ⟨rfl, rfl, rfl, rfl, rfl, rfl⟩

theorem sameDocuments_inCosting
    {f : CostingDb → Except CostingError (CostingDb × CostResult)}
    (h : db.inCosting f = .ok db') : SameDocuments db db' := by
  obtain ⟨costing, result, -, rfl⟩ := inCosting_eq_ok.1 h
  exact ⟨rfl, rfl, rfl, rfl, rfl, rfl⟩

theorem sameDocuments_logTransaction {row : Qty → InventoryTransaction} {quantity : Decimal}
    (h : db.logTransaction row quantity = .ok db') : SameDocuments db db' := by
  obtain ⟨stored, -, rfl⟩ := logTransaction_eq_ok.1 h
  exact ⟨rfl, rfl, rfl, rfl, rfl, rfl⟩

/-! ### Steps of a receipt -/

theorem sameDocuments_inspectReceipt {gr : GoodsReceipt} {locationId : Id}
    {line : GoodsReceiptLine} (h : db.inspectReceipt ctx gr locationId line = .ok db') :
    SameDocuments db db' := by
  simp only [inspectReceipt, bind_eq_ok, pure_eq_ok] at h
  obtain ⟨held, hheld, rfl⟩ := h
  exact (sameDocuments_inWarehouse hheld).trans ⟨rfl, rfl, rfl, rfl, rfl, rfl⟩

theorem sameDocuments_receiveLine {gr : GoodsReceipt} {po : Option PurchaseOrder}
    {locationId : Id} {line : GoodsReceiptLine}
    (h : receiveLine ctx gr po locationId db line = .ok db') : SameDocuments db db' := by
  simp only [receiveLine, bind_eq_ok] at h
  obtain ⟨entered, hentered, logged, hlogged, h⟩ := h
  have hsame := (sameDocuments_inWarehouse hentered).trans (sameDocuments_logTransaction hlogged)
  by_cases hqc : needsQC ctx po line.productId
  · rw [if_pos hqc] at h
    exact hsame.trans (sameDocuments_inspectReceipt h)
  · rw [if_neg hqc, pure_eq_ok] at h
    exact h ▸ hsame

theorem sameDocuments_costLine {gr : GoodsReceipt} {po : PurchaseOrder} {locationId : Id}
    {line : GoodsReceiptLine} (h : costLine ctx gr po locationId db line = .ok db') :
    SameDocuments db db' := by
  unfold costLine at h
  by_cases hprice : 0 < unitPriceOf po line
  · rw [if_pos hprice] at h
    simp only [bind_eq_ok] at h
    obtain ⟨currency, -, h⟩ := h
    exact sameDocuments_inCosting h
  · rw [if_neg hprice, pure_eq_ok] at h
    exact h ▸ .refl db

theorem sameDocuments_costLines {gr : GoodsReceipt} {purchaseOrderId locationId : Id}
    (h : db.costLines ctx gr purchaseOrderId locationId = .ok db') : SameDocuments db db' := by
  unfold costLines at h
  cases hpo : db.purchaseOrder purchaseOrderId with
  | none =>
    rw [hpo] at h
    cases h
    exact .refl db
  | some po =>
    rw [hpo] at h
    exact .forEach (fun _ _ _ => sameDocuments_costLine) h

/-! ### Transactions, adjustments and transfers -/

theorem sameDocuments_createInventoryTransaction {params : TransactionParams}
    (h : db.createInventoryTransaction ctx params = .ok db') : SameDocuments db db' := by
  simp only [createInventoryTransaction, bind_eq_ok] at h
  obtain ⟨locationId, -, quantity, -, entered, hentered, -, -, transactionType, -, h⟩ := h
  refine SameDocuments.trans ?_ (sameDocuments_logTransaction h)
  unfold recordTransaction at hentered
  cases htype : ledgerTypeOf params.transactionType quantity with
  | none =>
    rw [htype] at hentered
    cases hentered
    exact .refl db
  | some entryType =>
    rw [htype] at hentered
    exact sameDocuments_inWarehouse hentered

theorem sameDocuments_adjustInventory {params : AdjustmentParams}
    (h : db.adjustInventory ctx params = .ok db') : SameDocuments db db' := by
  simp only [adjustInventory, bind_eq_ok] at h
  obtain ⟨locationId, -, entered, hentered, -, -, h⟩ := h
  exact (sameDocuments_inWarehouse hentered).trans (sameDocuments_logTransaction h)

theorem sameDocuments_transferInventory {params : TransferParams}
    (h : db.transferInventory ctx params = .ok db') : SameDocuments db db' := by
  simp only [transferInventory, bind_eq_ok] at h
  obtain ⟨left, hleft, arrived, harrived, -, -, logged, hlogged, h⟩ := h
  exact (sameDocuments_inWarehouse hleft).trans ((sameDocuments_inWarehouse harrived).trans
    ((sameDocuments_logTransaction hlogged).trans (sameDocuments_logTransaction h)))

/-! ### Steps of a work order -/

theorem sameDocuments_reserveComponent {order : WorkOrder} {component : BomComponent}
    (h : reserveComponent ctx order db component = .ok db') : SameDocuments db db' := by
  dsimp only [reserveComponent] at h
  split_ifs at h
  · simp only [bind_eq_ok] at h
    exact sameDocuments_inWarehouse h.choose_spec.2
  · cases h
    exact .refl db

theorem releaseFor_eq_ok {reservationId : Id} (h : releaseFor ctx db reservationId = .ok db') :
    (db.inWarehouse fun w => w.releaseReservation { reservationId := reservationId }) = .ok db' := by
  simp only [releaseFor, bind_eq_ok] at h
  exact h.choose_spec.2

theorem sameDocuments_releaseReservations {workOrderId : Id}
    (h : db.releaseReservations ctx workOrderId = .ok db') : SameDocuments db db' :=
  .forEach (fun _ _ _ hstep => sameDocuments_inWarehouse (releaseFor_eq_ok hstep)) h

theorem sameDocuments_releaseForIssue {params : IssueParams}
    (h : db.releaseForIssue params = .ok db') : SameDocuments db db' := by
  dsimp only [releaseForIssue] at h
  split at h
  · cases h
    exact .refl db
  · split_ifs at h
    · exact sameDocuments_inWarehouse h
    · cases h
      exact .refl db

theorem sameDocuments_takeFromBatch {batchId : Option Id} {quantity : Decimal}
    (h : db.takeFromBatch batchId quantity = .ok db') : SameDocuments db db' := by
  unfold takeFromBatch at h
  split at h
  · cases h
    exact .refl db
  · simp only [bind_eq_ok, pure_eq_ok] at h
    obtain ⟨availableQty, -, rfl⟩ := h
    exact ⟨rfl, rfl, rfl, rfl, rfl, rfl⟩

theorem sameDocuments_settleWorkOrder {order : WorkOrder}
    (h : db.settleWorkOrder ctx order = .ok db') : SameDocuments db db' :=
  sameDocuments_inCosting h

theorem sameDocuments_inspectProduction {order : WorkOrder} {quantity : Decimal}
    (h : db.inspectProduction ctx order quantity = .ok db') : SameDocuments db db' := by
  unfold inspectProduction at h
  split_ifs at h
  · simp only [bind_eq_ok, pure_eq_ok] at h
    obtain ⟨held, hheld, inspectedQty, -, rfl⟩ := h
    exact (sameDocuments_inWarehouse hheld).trans ⟨rfl, rfl, rfl, rfl, rfl, rfl⟩
  · cases h
    exact .refl db

theorem sameDocuments_scrapProduction {order : WorkOrder} {completionId : Id}
    {scrapQuantity : Decimal}
    (h : db.scrapProduction ctx order completionId scrapQuantity = .ok db') :
    SameDocuments db db' := by
  unfold scrapProduction at h
  split_ifs at h
  · exact sameDocuments_inCosting h
  · cases h
    exact .refl db

theorem sameDocuments_addToBatch {order : WorkOrder} {params : CompletionParams}
    (h : db.addToBatch ctx order params = .ok db') : SameDocuments db db' := by
  unfold addToBatch at h
  by_cases htracked : ((ctx.product order.productId).map Product.batchTracked).getD false
  · rw [if_pos htracked] at h
    split at h
    · cases h
      exact .refl db
    · simp only [bind_eq_ok, pure_eq_ok] at h
      obtain ⟨quantity, -, availableQty, -, rfl⟩ := h
      exact ⟨rfl, rfl, rfl, rfl, rfl, rfl⟩
  · rw [if_neg htracked] at h
    cases h
    exact .refl db

theorem sameDocuments_releaseHolds {productId : Id}
    (h : db.releaseHolds ctx productId = .ok db') : SameDocuments db db' :=
  .forEach (fun _ _ _ => sameDocuments_inWarehouse) h

theorem sameDocuments_rejectHolds (productId inspectionId : Id) :
    SameDocuments db (db.rejectHolds ctx productId inspectionId) :=
  ⟨rfl, rfl, rfl, rfl, rfl, rfl⟩

/-! ### Operations on work orders -/

theorem workOrder_eq_ok {id : Id} {order : WorkOrder} :
    db.workOrder id = .ok order ↔ lookup WorkOrder.id db.workOrders id = some order :=
  found_eq_ok

theorem releaseWorkOrder_eq_ok {id : Id} (h : db.releaseWorkOrder ctx id = .ok db') :
    ∃ order, db.workOrder id = .ok order ∧ order.status = .planned ∧
      SameDocuments (db.writeWorkOrder { order with status := .released }) db' := by
  simp only [releaseWorkOrder, bind_eq_ok, pure_eq_ok, throwWhen_eq_ok, not_not] at h
  obtain ⟨order, horder, -, hplanned, reserved, hreserved, rfl⟩ := h
  have hsame := SameDocuments.forEach (fun _ _ _ => sameDocuments_reserveComponent) hreserved
  refine ⟨order, horder, hplanned, hsame.boms, hsame.purchaseOrders, hsame.goodsReceipts, ?_,
    hsame.materialIssues, hsame.completions⟩
  rw [writeWorkOrder, writeWorkOrder, hsame.workOrders]

theorem startWorkOrder_eq_ok {id : Id} (h : db.startWorkOrder id = .ok db') :
    ∃ order, db.workOrder id = .ok order ∧ order.status = .released ∧
      db' = db.writeWorkOrder { order with status := .inProgress } := by
  simp only [startWorkOrder, bind_eq_ok, pure_eq_ok, throwWhen_eq_ok, not_not] at h
  obtain ⟨order, horder, -, hreleased, rfl⟩ := h
  exact ⟨order, horder, hreleased, rfl⟩

theorem cancelWorkOrder_eq_ok {id : Id} (h : db.cancelWorkOrder ctx id = .ok db') :
    ∃ order, db.workOrder id = .ok order ∧ order.status ≠ .completed ∧
      order.status ≠ .cancelled ∧
      SameDocuments (db.writeWorkOrder { order with status := .cancelled }) db' := by
  simp only [cancelWorkOrder, bind_eq_ok, pure_eq_ok, throwWhen_eq_ok, not_or] at h
  obtain ⟨order, horder, -, ⟨hcompleted, hcancelled⟩, released, hreleased, rfl⟩ := h
  have hsame := sameDocuments_releaseReservations hreleased
  refine ⟨order, horder, hcompleted, hcancelled, hsame.boms, hsame.purchaseOrders,
    hsame.goodsReceipts, ?_, hsame.materialIssues, hsame.completions⟩
  rw [writeWorkOrder, writeWorkOrder, hsame.workOrders]

theorem issueMaterial_eq_ok {params : IssueParams} (h : db.issueMaterial ctx params = .ok db') :
    ∃ order quantity, db.workOrder params.workOrderId = .ok order ∧
      (order.status = .released ∨ order.status = .inProgress) ∧
      Column.store params.quantity = some quantity ∧
      SameDocuments
        { db with
          materialIssues := db.materialIssues ++ [⟨order.id, params.productId, quantity⟩] }
        db' := by
  simp only [issueMaterial, bind_eq_ok, throwWhen_eq_ok, columnOf_eq_ok] at h
  obtain ⟨order, horder, -, hstatus, released, hreleased, quantity, hquantity, entered, hentered,
    logged, hlogged, costed, hcosted, h⟩ := h
  have hsame := sameDocuments_releaseForIssue hreleased
  have hissued : SameDocuments
      { db with
        materialIssues := db.materialIssues ++ [⟨order.id, params.productId, quantity⟩] }
      { released with
        materialIssues :=
          released.materialIssues ++ [⟨order.id, params.productId, quantity⟩] } :=
    ⟨hsame.boms, hsame.purchaseOrders, hsame.goodsReceipts, hsame.workOrders,
      congrArg (· ++ _) hsame.materialIssues, hsame.completions⟩
  refine ⟨order, quantity, horder, by tauto, hquantity, hissued.trans ?_⟩
  exact (sameDocuments_inWarehouse hentered).trans ((sameDocuments_logTransaction hlogged).trans
    ((sameDocuments_inCosting hcosted).trans (sameDocuments_takeFromBatch h)))

theorem completeWorkOrder_eq_ok {id : Id} (h : db.completeWorkOrder ctx id = .ok db') :
    (db.costing.hasProcessed (completeKey id) = true ∧ db' = db) ∨
      ∃ order, db.workOrder id = .ok order ∧ order.status = .inProgress ∧
        SameDocuments (db.writeWorkOrder { order with status := .completed }) db' := by
  unfold completeWorkOrder at h
  by_cases hkey : db.costing.hasProcessed (completeKey id)
  · rw [if_pos hkey] at h
    cases h
    exact Or.inl ⟨hkey, rfl⟩
  · rw [if_neg hkey] at h
    simp only [bind_eq_ok, pure_eq_ok, throwWhen_eq_ok, not_not] at h
    obtain ⟨order, horder, -, hstatus, released, hreleased, settled, hsettled, -, -, rfl⟩ := h
    refine Or.inr ⟨order, horder, hstatus, SameDocuments.trans ?_
      ((sameDocuments_releaseReservations hreleased).trans
        (sameDocuments_settleWorkOrder hsettled))⟩
    exact ⟨rfl, rfl, rfl, rfl, rfl, rfl⟩

/-- What every issue for the order keeps, a backflush keeps, as far as it comes. -/
theorem backflushComponents_invariant {I : FactoryDb → Prop} {workOrderId : Id}
    (hstep : ∀ db db' params, params.workOrderId = workOrderId → I db →
      db.issueMaterial ctx params = .ok db' → I db')
    {completedQty : Decimal} {issues : List MaterialIssue} {components : List BomComponent}
    (hdb : I db) :
    I (backflushComponents ctx workOrderId completedQty issues db components).left ∧
      ∀ db', (backflushComponents ctx workOrderId completedQty issues db components).result =
        .ok db' → I db' := by
  induction components generalizing db with
  | nil =>
    refine ⟨hdb, fun db' h => ?_⟩
    cases h
    exact hdb
  | cons component components ih =>
    dsimp only [backflushComponents]
    split_ifs with hneeded
    · split
      · next db' hissued => exact ih (hstep db db' _ rfl hdb hissued)
      · exact ⟨hdb, fun db' h => nomatch h⟩
    · exact ih hdb

theorem backflushMaterials_invariant {I : FactoryDb → Prop} {workOrderId : Id}
    (hstep : ∀ db db' params, params.workOrderId = workOrderId → I db →
      db.issueMaterial ctx params = .ok db' → I db')
    {completedQty : Decimal} (hdb : I db) :
    I (db.backflushMaterials ctx workOrderId completedQty).left ∧
      ∀ db', (db.backflushMaterials ctx workOrderId completedQty).result = .ok db' → I db' := by
  unfold backflushMaterials
  split
  · exact ⟨hdb, fun db' h => nomatch h⟩
  · split
    · exact ⟨hdb, fun db' h => nomatch h⟩
    · exact backflushComponents_invariant hstep hdb

theorem backflushComponents_of_nothing {workOrderId : Id} {completedQty : Decimal}
    {issues : List MaterialIssue} {components : List BomComponent}
    (h : ∀ component ∈ components, ¬0 < toIssue issues workOrderId completedQty component) :
    backflushComponents ctx workOrderId completedQty issues db components = ⟨db, .ok db⟩ := by
  induction components with
  | nil => rfl
  | cons component components ih =>
    dsimp only [backflushComponents]
    rw [if_neg (h component List.mem_cons_self)]
    exact ih fun c hc => h c (List.mem_cons_of_mem component hc)

theorem needsMaterial_eq_false {workOrderId : Id} {completedQty : Decimal} :
    db.needsMaterial workOrderId completedQty = false ↔
      ∀ order ∈ lookup WorkOrder.id db.workOrders workOrderId,
        ∀ component ∈ db.components order.bomId,
          ¬0 < toIssue db.materialIssues workOrderId completedQty component := by
  rw [needsMaterial, Option.any_eq_false]
  simp only [List.any_eq_false, decide_eq_true_eq, Option.mem_def]

theorem backflushMaterials_of_nothing {workOrderId : Id} {completedQty : Decimal}
    (hnothing : db.needsMaterial workOrderId completedQty = false) :
    (db.backflushMaterials ctx workOrderId completedQty).left = db ∧
      ∀ issued, (db.backflushMaterials ctx workOrderId completedQty).result = .ok issued →
        issued = db := by
  rw [needsMaterial_eq_false] at hnothing
  unfold backflushMaterials
  split
  · exact ⟨rfl, fun issued h => nomatch h⟩
  · next order horder =>
    split
    · exact ⟨rfl, fun issued h => nomatch h⟩
    · next bom hbom =>
      have hcomponents : db.components order.bomId = bom.components := by
        rw [FactoryDb.components, hbom]
        rfl
      rw [backflushComponents_of_nothing (hcomponents ▸ hnothing order horder)]
      exact ⟨rfl, fun issued h => (Except.ok.inj h).symm⟩

theorem completeReport_eq_ok {params : CompletionParams} {order : WorkOrder}
    {completion : ProductionCompletion}
    (h : db.completeReport ctx params order completion = .ok db') :
    ∃ settled : WorkOrder,
      settled = (if order.plannedQty.value ≤ order.completedQty.value then
        { order with status := .completed } else order) ∧
      SameDocuments
        ({ db with completions := db.completions ++ [completion] }.writeWorkOrder settled) db' := by
  simp only [completeReport, bind_eq_ok] at h
  obtain ⟨logged, hlogged, inspected, hinspected, scrapped, hscrapped, batched, hbatched, h⟩ := h
  have hsame := (sameDocuments_logTransaction hlogged).trans
    ((sameDocuments_inspectProduction hinspected).trans
      ((sameDocuments_scrapProduction hscrapped).trans (sameDocuments_addToBatch hbatched)))
  refine ⟨_, rfl, ?_⟩
  unfold closeWhenFull at h
  by_cases hfull : order.plannedQty.value ≤ order.completedQty.value
  · rw [if_pos hfull] at h ⊢
    simp only [bind_eq_ok] at h
    obtain ⟨settled, hsettled, h⟩ := h
    have hafter := (sameDocuments_settleWorkOrder hsettled).trans
      (sameDocuments_releaseReservations h)
    refine SameDocuments.trans ?_ hafter
    refine ⟨hsame.boms, hsame.purchaseOrders, hsame.goodsReceipts, ?_, hsame.materialIssues,
      hsame.completions⟩
    -- The row of the report is written a second time.
    change upsert WorkOrder.id batched.workOrders _ = _
    rw [hsame.workOrders]
    exact upsert_upsert rfl
  · rw [if_neg hfull] at h ⊢
    cases h
    exact hsame

/-- What holds of the tables a call leaves and of those it ends with holds after it. -/
theorem outcome_invariant {I : FactoryDb → Prop} {o : Outcome} (hleft : I o.left)
    (hresult : ∀ db', o.result = .ok db' → I db') : I (transaction o.left o.result) := by
  cases h : o.result with
  | error e => exact hleft
  | ok db' => exact hresult db' h

theorem countReport_eq_ok {params : CompletionParams} {order : WorkOrder}
    {completion : ProductionCompletion} (h : db.countReport params = .ok (order, completion)) :
    ∃ before completed scrapped completedQty scrappedQty,
      db.workOrder params.workOrderId = .ok before ∧ before.status = .inProgress ∧
      Column.store params.quantity = some completed ∧
      Column.store (before.completedQty.value + params.quantity) = some completedQty ∧
      order = { before with completedQty := completedQty, scrappedQty := scrappedQty } ∧
      completion = ⟨before.id, completed, scrapped⟩ := by
  simp only [countReport, bind_eq_ok, pure_eq_ok, throwWhen_eq_ok, columnOf_eq_ok, not_not,
    Prod.mk.injEq] at h
  obtain ⟨before, hbefore, -, hstatus, completed, hcompleted, scrapped, -, completedQty, hqty,
    scrappedQty, -, rfl, rfl⟩ := h
  exact ⟨before, completed, scrapped, completedQty, scrappedQty, hbefore, hstatus, hcompleted,
    hqty, rfl, rfl⟩

/-- A report that returns has issued nothing. -/
theorem reportProductionCompletion_eq_ok {params : CompletionParams}
    (h : (db.reportProductionCompletion ctx params).result = .ok db') :
    ∃ order completion, db.countReport params = .ok (order, completion) ∧
      db.needsMaterial params.workOrderId params.quantity = false ∧
      db.completeReport ctx params order completion = .ok db' := by
  unfold reportProductionCompletion at h
  cases hcount : db.countReport params with
  | error e =>
    rw [hcount] at h
    cases h
  | ok counted =>
    obtain ⟨order, completion⟩ := counted
    simp only [hcount] at h
    by_cases hneeds : db.needsMaterial params.workOrderId params.quantity
    · rw [if_pos hneeds] at h
      cases h
    · rw [if_neg hneeds] at h
      simp only [bind_eq_ok] at h
      obtain ⟨issued, hissued, h⟩ := h
      have hnothing := Bool.eq_false_iff.2 hneeds
      obtain rfl := (backflushMaterials_of_nothing hnothing).2 issued hissued
      exact ⟨order, completion, rfl, hnothing, h⟩

theorem reportProductionCompletion_invariant {I : FactoryDb → Prop} {params : CompletionParams}
    (hissued : db.needsMaterial params.workOrderId params.quantity = true →
      ctx.issuesOutlast = true →
      I (db.backflushMaterials ctx params.workOrderId params.quantity).left)
    (hreport : ∀ db' order completion, db.countReport params = .ok (order, completion) →
      db.needsMaterial params.workOrderId params.quantity = false →
      db.completeReport ctx params order completion = .ok db' → I db')
    (hdb : I db) :
    I (transaction (db.reportProductionCompletion ctx params).left
      (db.reportProductionCompletion ctx params).result) := by
  refine outcome_invariant ?_ fun db' h => ?_
  · unfold reportProductionCompletion
    split
    · exact hdb
    · split_ifs with hneeds hlast
      · exact hissued hneeds hlast
      · exact hdb
      · exact hdb
  · obtain ⟨order, completion, hcount, hneeds, hcomplete⟩ := reportProductionCompletion_eq_ok h
    exact hreport db' order completion hcount hneeds hcomplete

end FactoryDb

/-! ### Calls that work orders do not see -/

/-- The bills, the work orders, their issues and their reports are as they were. -/
structure SameProduction (db db' : FactoryDb) : Prop where
  boms : db'.boms = db.boms
  workOrders : db'.workOrders = db.workOrders
  materialIssues : db'.materialIssues = db.materialIssues
  completions : db'.completions = db.completions

namespace SameProduction

variable {db₁ db₂ db₃ : FactoryDb}

theorem refl (db : FactoryDb) : SameProduction db db := ⟨rfl, rfl, rfl, rfl⟩

theorem trans (h : SameProduction db₁ db₂) (h' : SameProduction db₂ db₃) :
    SameProduction db₁ db₃ where
  boms := h'.boms.trans h.boms
  workOrders := h'.workOrders.trans h.workOrders
  materialIssues := h'.materialIssues.trans h.materialIssues
  completions := h'.completions.trans h.completions

theorem of_sameDocuments (h : SameDocuments db₁ db₂) : SameProduction db₁ db₂ :=
  ⟨h.boms, h.workOrders, h.materialIssues, h.completions⟩

end SameProduction

def FactoryOp.isProduction : FactoryOp → Bool
  | .releaseWorkOrder _ | .startWorkOrder _ | .issueMaterial _ | .backflushMaterials _ _
  | .reportProductionCompletion _ | .completeWorkOrder _ | .cancelWorkOrder _ => true
  | _ => false

namespace FactoryDb

variable {ctx : FactoryContext} {db db' : FactoryDb}

theorem sameProduction_countLine {orderId : Id} {line : GoodsReceiptLine}
    (h : countLine orderId db line = .ok db') : SameProduction db db' := by
  unfold countLine at h
  split at h
  · cases h
    exact .refl db
  · split at h
    · cases h
      exact .refl db
    · simp only [bind_eq_ok, pure_eq_ok] at h
      obtain ⟨receivedQty, -, rfl⟩ := h
      exact ⟨rfl, rfl, rfl, rfl⟩

theorem sameProduction_settleOrder (orderId : Id) : SameProduction db (db.settleOrder orderId) := by
  unfold settleOrder
  split
  · exact .refl db
  · exact ⟨rfl, rfl, rfl, rfl⟩

theorem sameProduction_countOnOrder {gr : GoodsReceipt} {locationId : Id}
    (h : db.countOnOrder ctx gr locationId = .ok db') : SameProduction db db' := by
  unfold countOnOrder at h
  split at h
  · cases h
    exact .refl db
  · simp only [bind_eq_ok, pure_eq_ok] at h
    obtain ⟨costed, hcosted, counted, hcounted, rfl⟩ := h
    have hloop : SameProduction costed counted :=
      forEach_invariant (I := SameProduction costed)
        (fun _ _ _ _ hs hx => hs.trans (sameProduction_countLine hx)) hcounted (.refl costed)
    exact (SameProduction.of_sameDocuments (sameDocuments_costLines hcosted)).trans
      (hloop.trans (sameProduction_settleOrder _))

theorem sameProduction_confirmGoodsReceipt {id : Id}
    (h : db.confirmGoodsReceipt ctx id = .ok db') : SameProduction db db' := by
  unfold confirmGoodsReceipt at h
  by_cases hkey : db.costing.hasProcessed (confirmKey id)
  · rw [if_pos hkey] at h
    cases h
    exact .refl db
  · rw [if_neg hkey] at h
    simp only [bind_eq_ok] at h
    obtain ⟨gr, -, -, -, received, hreceived, h⟩ := h
    have hposted : SameProduction db ((db.stamp (confirmKey id)).postReceipt ctx gr).1 :=
      ⟨rfl, rfl, rfl, rfl⟩
    have hloop := SameDocuments.forEach (fun _ _ _ => sameDocuments_receiveLine) hreceived
    exact hposted.trans ((SameProduction.of_sameDocuments hloop).trans
      (sameProduction_countOnOrder h))

theorem sameProduction_setQcStatus {goodsReceiptId : Id} {qcStatus : GoodsReceiptQcStatus}
    (h : db.setQcStatus goodsReceiptId qcStatus = .ok db') : SameProduction db db' := by
  simp only [setQcStatus, bind_eq_ok, pure_eq_ok] at h
  obtain ⟨gr, -, rfl⟩ := h
  exact ⟨rfl, rfl, rfl, rfl⟩

theorem sameProduction_decide {inspection : QualityInspection} {status : InspectionStatus}
    (h : db.decide ctx inspection status = .ok db') : SameProduction db db' := by
  unfold FactoryDb.decide at h
  split at h
  · simp only [bind_eq_ok] at h
    obtain ⟨released, hreleased, h⟩ := h
    exact (SameProduction.of_sameDocuments (sameDocuments_releaseHolds hreleased)).trans
      (sameProduction_setQcStatus h)
  · simp only [bind_eq_ok] at h
    obtain ⟨released, hreleased, h⟩ := h
    exact (SameProduction.of_sameDocuments (sameDocuments_releaseHolds hreleased)).trans
      (sameProduction_setQcStatus h)
  · exact (SameProduction.of_sameDocuments (sameDocuments_rejectHolds _ _)).trans
      (sameProduction_setQcStatus h)
  · cases h
    exact .refl db

theorem sameProduction_updateQualityInspectionStatus {id : Id} {status : InspectionStatus}
    (h : db.updateQualityInspectionStatus ctx id status = .ok db') : SameProduction db db' := by
  simp only [updateQualityInspectionStatus, bind_eq_ok] at h
  obtain ⟨inspection, -, h⟩ := h
  refine SameProduction.trans ?_ (sameProduction_decide h)
  exact ⟨rfl, rfl, rfl, rfl⟩

theorem sameProduction_next {c : FactoryCall} (hop : c.op.isProduction = false) :
    SameProduction db (db.next c) := by
  have hrefl : SameProduction db db := .refl db
  obtain ⟨ctx, op⟩ := c
  cases op with
  | releasePurchaseOrder id =>
    refine outcome_invariant hrefl fun db' h => ?_
    change db.releasePurchaseOrder id = .ok db' at h
    simp only [releasePurchaseOrder, bind_eq_ok, pure_eq_ok] at h
    obtain ⟨po, -, -, -, rfl⟩ := h
    exact ⟨rfl, rfl, rfl, rfl⟩
  | createGoodsReceipt params =>
    refine outcome_invariant hrefl fun db' h => ?_
    change db.createGoodsReceipt params = .ok db' at h
    simp only [createGoodsReceipt, bind_eq_ok, pure_eq_ok] at h
    obtain ⟨po, -, -, -, lines, -, rfl⟩ := h
    exact ⟨rfl, rfl, rfl, rfl⟩
  | cancelPurchaseOrder id =>
    refine outcome_invariant hrefl fun db' h => ?_
    change db.cancelPurchaseOrder id = .ok db' at h
    simp only [cancelPurchaseOrder, bind_eq_ok, pure_eq_ok] at h
    obtain ⟨po, -, -, -, rfl⟩ := h
    exact ⟨rfl, rfl, rfl, rfl⟩
  | confirmGoodsReceipt id =>
    exact outcome_invariant hrefl fun _ => sameProduction_confirmGoodsReceipt
  | createInventoryTransaction params =>
    exact outcome_invariant hrefl fun _ h =>
      .of_sameDocuments (sameDocuments_createInventoryTransaction h)
  | adjustInventory params =>
    exact outcome_invariant hrefl fun _ h => .of_sameDocuments (sameDocuments_adjustInventory h)
  | transferInventory params =>
    exact outcome_invariant hrefl fun _ h => .of_sameDocuments (sameDocuments_transferInventory h)
  | updateQualityInspectionStatus id status =>
    exact outcome_invariant hrefl fun _ => sameProduction_updateQualityInspectionStatus
  | _ => cases hop

end FactoryDb

/-! ### A small factory -/

/-- A number of pieces, as a column keeps it. -/
def pieces (n : ℕ) : Qty := (Column.store n).getD .zero

/-- A tenant with one location, without profiles for its postings. -/
def plainContext : FactoryContext where
  tenantId := 1
  costing :=
    { accounting := { now := 0, findFiscalPeriod := fun _ => none, defaultCurrency := some "USD" }
      shown := fun q => toString q }
  location := some 3

/-- Its tables before the first document. -/
def plainFactory : FactoryDb := { costing := .empty (.opened []) [] }

/-- The tenant with profiles for receipts, issues and labor. -/
def workshopContext : FactoryContext := { plainContext with costing := Costing.standardContext }

def startedOrder : FactoryDb :=
  { plainFactory with
    boms := [⟨2, [⟨7, (Column.store 3).getD .zero⟩]⟩]
    workOrders :=
      [{ id := 1
         productId := 9
         bomId := some 2
         locationId := 3
         status := .inProgress
         plannedQty := pieces 10 }] }

def reportOf (quantity : Decimal) : FactoryCall :=
  ⟨workshopContext, .reportProductionCompletion { workOrderId := 1, quantity := quantity }⟩

/-- The order when fifty pieces of product 7 are in stock. -/
def stockedOrder : FactoryDb :=
  transaction startedOrder (startedOrder.recordEntry
    { key := ⟨1, 7, 3⟩, entryType := .ledgerReceipt, quantity := 50 })

end Forecast.Manufacturing
