import Forecast.Manufacturing.FactoryTables

/-!
# Goods receipts

A receipt names lines of a purchase order and keeps their products. Its confirmation
takes the goods into stock, costs them and counts them on the order.
-/

open KeyedTable DecimalColumn Transactions

namespace Forecast.Manufacturing

open Inventory (Qty StockKey EntryParams HoldParams Batch)

structure ReceiptLineParams where
  purchaseOrderLineId : Id
  quantity : Decimal
deriving DecidableEq

structure CreateReceiptParams where
  purchaseOrderId : Id
  lines : List ReceiptLineParams
deriving DecidableEq

namespace FactoryDb

variable (ctx : FactoryContext) (db : FactoryDb)

def releasePurchaseOrder (id : Id) : Except ManufacturingError FactoryDb := do
  let po ← found (db.purchaseOrder id) .purchaseOrderNotFound
  throwWhen (po.status ≠ .draft) .notDraft
  pure (db.writeOrder { po with status := .sent })

def cancelPurchaseOrder (id : Id) : Except ManufacturingError FactoryDb := do
  let po ← found (db.purchaseOrder id) .purchaseOrderNotFound
  throwWhen (po.status = .received ∨ po.status = .cancelled) .orderClosed
  pure (db.writeOrder { po with status := .cancelled })

def receiptLineProduct (po : PurchaseOrder) (purchaseOrderLineId : Id) : Option Id :=
  (((lookup PurchaseOrderLine.id po.lines purchaseOrderLineId).or po.lines.head?)).map
    PurchaseOrderLine.productId

def receiptLine (po : PurchaseOrder) (firstId : Id) (line : ReceiptLineParams × ℕ) :
    Except ManufacturingError GoodsReceiptLine := do
  let productId ← found (receiptLineProduct po line.1.purchaseOrderLineId) .refused
  let quantity ← columnOf line.1.quantity
  pure
    { id := firstId + line.2
      productId := productId
      quantity := quantity
      purchaseOrderLineId := line.1.purchaseOrderLineId }

def createGoodsReceipt (params : CreateReceiptParams) : Except ManufacturingError FactoryDb := do
  let po ← found (db.purchaseOrder params.purchaseOrderId) .purchaseOrderNotFound
  throwWhen (po.status ≠ .sent ∧ po.status ≠ .partiallyReceived) .notReleasedOrder
  let firstId := freshId ((db.goodsReceipts.flatMap GoodsReceipt.lines).map GoodsReceiptLine.id)
  let lines ← params.lines.zipIdx.mapM (receiptLine po firstId)
  pure
    { db with
      goodsReceipts := db.goodsReceipts ++
        [{ id := freshId (db.goodsReceipts.map GoodsReceipt.id)
           purchaseOrderId := some params.purchaseOrderId
           locationId := po.locationId
           lines := lines }] }

/-! ### Confirmation -/

def needsQC (po : Option PurchaseOrder) (productId : Id) : Bool :=
  ((ctx.product productId).map Product.qcRequired).getD false ||
    po.any fun po => (((ctx.supplierProducts.filter fun row =>
      row.supplierId = po.supplierId ∧ row.productId = productId).getLast?).map
        SupplierProduct.inspectionRequired).getD false

def batchFor (state : List Batch × List GoodsReceiptLine) (line : GoodsReceiptLine) :
    List Batch × List GoodsReceiptLine :=
  if ((ctx.product line.productId).map Product.batchTracked).getD false ∧ line.batchId = none then
    let id := freshId (state.1.map Batch.id)
    (state.1 ++ [⟨id, line.quantity, line.quantity⟩],
      state.2 ++ [{ line with batchId := some id }])
  else (state.1, state.2 ++ [line])

def receiptEntry (gr : GoodsReceipt) (locationId : Id) (line : GoodsReceiptLine) : EntryParams where
  key := ctx.key line.productId locationId
  entryType := .ledgerReceipt
  quantity := line.quantity.value
  referenceType := some "GOODS_RECEIPT"
  referenceId := some gr.id

def receiptTransaction (gr : GoodsReceipt) (locationId : Id) (line : GoodsReceiptLine)
    (quantity : Qty) : InventoryTransaction where
  productId := line.productId
  locationId := locationId
  transactionType := .receipt
  quantity := quantity
  referenceType := some "GOODS_RECEIPT"
  referenceId := some gr.id

def receiptHold (gr : GoodsReceipt) (locationId : Id) (line : GoodsReceiptLine) : HoldParams where
  key := ctx.key line.productId locationId
  quantity := line.quantity.value
  holdReason := "QC_INSPECTION"
  referenceType := some "GOODS_RECEIPT"
  referenceId := some gr.id

/-- The goods are held until their inspection. -/
def inspectReceipt (gr : GoodsReceipt) (locationId : Id) (line : GoodsReceiptLine) :
    Except ManufacturingError FactoryDb := do
  let db ← db.inWarehouse fun w => w.placeHold (receiptHold ctx gr locationId line)
  pure
    { db with
      inspections := db.inspections ++
        [{ id := freshId (db.inspections.map QualityInspection.id)
           productId := line.productId
           goodsReceiptId := some gr.id
           purchaseOrderId := gr.purchaseOrderId
           locationId := locationId
           inspectionType := .incoming
           inspectedQty := line.quantity }] }

def receiveLine (gr : GoodsReceipt) (po : Option PurchaseOrder) (locationId : Id)
    (db : FactoryDb) (line : GoodsReceiptLine) : Except ManufacturingError FactoryDb := do
  let db ← db.recordEntry (receiptEntry ctx gr locationId line)
  let db ← db.logTransaction (receiptTransaction gr locationId line) line.quantity.value
  if needsQC ctx po line.productId then db.inspectReceipt ctx gr locationId line else pure db

def orderLineOf (po : PurchaseOrder) (productId : Id) : Option PurchaseOrderLine :=
  po.lines.find? fun l => l.productId = productId

def receiptCost (gr : GoodsReceipt) (locationId : Id) (line : GoodsReceiptLine)
    (unitPrice : Decimal) (purchaseCurrency : String) : Costing.ReceiptCostParams where
  goodsReceiptId := gr.id
  goodsReceiptLineId := line.id
  key := ctx.key line.productId locationId
  quantity := line.quantity.value
  unitPrice := unitPrice
  purchaseCurrency := purchaseCurrency
  batchId := line.batchId

def unitPriceOf (po : PurchaseOrder) (line : GoodsReceiptLine) : Decimal :=
  ((orderLineOf po line.productId).map fun l => l.unitPrice.value).getD 0

/-- The engine opens a transaction of its own here, which is run as a part of this one. -/
def costLine (gr : GoodsReceipt) (po : PurchaseOrder) (locationId : Id) (db : FactoryDb)
    (line : GoodsReceiptLine) : Except ManufacturingError FactoryDb :=
  if 0 < unitPriceOf po line then do
    let currency ← found (po.currency.or ctx.costing.accounting.defaultCurrency) .noCurrency
    db.inCosting fun costing => Costing.calculatePurchaseReceiptCost ctx.costing costing
      (receiptCost ctx gr locationId line (unitPriceOf po line) currency)
  else pure db

def countLine (purchaseOrderId : Id) (db : FactoryDb) (line : GoodsReceiptLine) :
    Except ManufacturingError FactoryDb :=
  match db.purchaseOrder purchaseOrderId with
  | none => .ok db
  | some po =>
    match orderLineOf po line.productId with
    | none => .ok db
    | some l => do
        let receivedQty ← columnOf (l.receivedQty.value + line.quantity.value)
        pure (db.writeOrder
          { po with
            lines := upsert PurchaseOrderLine.id po.lines { l with receivedQty := receivedQty } })

def isFullyReceived (po : PurchaseOrder) : Bool :=
  po.lines.all fun l => l.quantity.value ≤ l.receivedQty.value

/-- Whatever the status of the order was. -/
def settleOrder (purchaseOrderId : Id) : FactoryDb :=
  match db.purchaseOrder purchaseOrderId with
  | none => db
  | some po =>
    db.writeOrder
      { po with status := if isFullyReceived po then .received else .partiallyReceived }

def costLines (gr : GoodsReceipt) (purchaseOrderId locationId : Id) :
    Except ManufacturingError FactoryDb :=
  match db.purchaseOrder purchaseOrderId with
  | none => .ok db
  | some po => forEach (costLine ctx gr po locationId) db gr.lines

def countOnOrder (gr : GoodsReceipt) (locationId : Id) : Except ManufacturingError FactoryDb :=
  match gr.purchaseOrderId with
  | none => .ok db
  | some purchaseOrderId => do
      let db ← db.costLines ctx gr purchaseOrderId locationId
      let db ← forEach (countLine purchaseOrderId) db gr.lines
      pure (db.settleOrder purchaseOrderId)

def postReceipt (gr : GoodsReceipt) : FactoryDb × GoodsReceipt :=
  let po := gr.purchaseOrderId.bind db.purchaseOrder
  let qcRequired := gr.lines.any fun line => needsQC ctx po line.productId
  let batched := gr.lines.foldl (batchFor ctx) (db.costing.stock.batches, [])
  let posted : GoodsReceipt :=
    { gr with
      status := .posted
      qcStatus := if qcRequired then .qcPending else .notRequired
      lines := batched.2 }
  ({ db with
      costing := { db.costing with stock := { db.costing.stock with batches := batched.1 } }
      goodsReceipts := upsert GoodsReceipt.id db.goodsReceipts posted },
    posted)

def confirmKey (id : Id) : String × String := ("GRN_CONFIRM", Costing.uuidText id)

def confirmGoodsReceipt (id : Id) : Except ManufacturingError FactoryDb :=
  if db.costing.hasProcessed (confirmKey id) then .ok db
  else do
    let gr ← found (lookup GoodsReceipt.id db.goodsReceipts id) .goodsReceiptNotFound
    throwWhen (gr.status ≠ .pending) .receiptProcessed
    let locationId := ctx.location.getD gr.locationId
    let po := gr.purchaseOrderId.bind db.purchaseOrder
    let posted := (db.stamp (confirmKey id)).postReceipt ctx gr
    let db ← forEach (receiveLine ctx posted.2 po locationId) posted.1 posted.2.lines
    db.countOnOrder ctx posted.2 locationId

end FactoryDb

end Forecast.Manufacturing
