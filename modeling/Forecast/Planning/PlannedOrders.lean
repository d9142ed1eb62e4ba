import Forecast.Planning.Boms

/-!
# Planned orders

A planned order is firmed and then released, or cancelled; a bulk update writes the
status of its action into every order it lists.
-/

open KeyedTable DecimalColumn Transactions

namespace Forecast.Planning

structure CreatePlannedOrderParams where
  productId : Id
  locationId : Id
  orderType : PlannedOrderType
  quantity : Decimal
  dueDate : Millis
  startDate : Millis
deriving DecidableEq

structure UpdatePlannedOrderParams where
  quantity : Option Decimal := none
  dueDate : Option Millis := none
  startDate : Option Millis := none
  /-- The supplier, or none to clear it. -/
  supplierId : Option (Option Id) := none
deriving DecidableEq

namespace PlanningDb

variable (db : PlanningDb)

def plannedOrder (orderId : Id) : Except PlanningError PlannedOrder :=
  found (lookup PlannedOrder.id db.plannedOrders orderId) .plannedOrderNotFound

def writeOrder (order : PlannedOrder) : PlanningDb :=
  { db with plannedOrders := upsert PlannedOrder.id db.plannedOrders order }

def createPlannedOrder (dto : CreatePlannedOrderParams) : Except PlanningError PlanningDb := do
  throwWhen (dto.productId ∉ db.products) .productNotFound
  let quantity ← columnOf dto.quantity
  let order : PlannedOrder :=
    { id := freshId (db.plannedOrders.map PlannedOrder.id)
      productId := dto.productId
      locationId := dto.locationId
      orderType := dto.orderType
      startDate := dto.startDate
      dueDate := dto.dueDate
      quantity := quantity }
  pure { db with plannedOrders := db.plannedOrders ++ [order] }

def updatePlannedOrder (orderId : Id) (dto : UpdatePlannedOrderParams) :
    Except PlanningError PlanningDb := do
  let order ← db.plannedOrder orderId
  let quantity ← columnOf (dto.quantity.getD order.quantity.value)
  pure (db.writeOrder
    { order with
      quantity := quantity
      dueDate := dto.dueDate.getD order.dueDate
      startDate := dto.startDate.getD order.startDate
      supplierId := dto.supplierId.getD order.supplierId })

def firmPlannedOrder (orderId : Id) : Except PlanningError PlanningDb := do
  let order ← db.plannedOrder orderId
  throwWhen (order.status ≠ .planned) .notPlanned
  pure (db.writeOrder { order with status := .firmed, isFirmed := true })

def releasePlannedOrder (orderId : Id) : Except PlanningError PlanningDb := do
  let order ← db.plannedOrder orderId
  throwWhen (order.status ≠ .firmed) .notFirmed
  pure (db.writeOrder { order with status := .released })

def cancelPlannedOrder (orderId : Id) : Except PlanningError PlanningDb := do
  let order ← db.plannedOrder orderId
  pure (db.writeOrder { order with status := .cancelled })

/-- `statusMap` -/
def statusOfAction (action : String) : Option PlannedOrderStatus :=
  if action = "firm" then some .firmed
  else if action = "release" then some .released
  else if action = "cancel" then some .cancelled
  else none

def setStatus (orderIds : List Id) (status : PlannedOrderStatus) : PlanningDb :=
  { db with
    plannedOrders := db.plannedOrders.map fun order =>
      if order.id ∈ orderIds then { order with status := status } else order }

def bulkUpdatePlannedOrders (orderIds : List Id) (action : String) :
    Except PlanningError PlanningDb := do
  throwWhen (action = "") .idsAndActionRequired
  let status ← found (statusOfAction action) .invalidAction
  pure (db.setStatus orderIds status)

def convertible (orderType : PlannedOrderType) (orderIds : List Id) : List PlannedOrder :=
  db.plannedOrders.filter fun order =>
    order.id ∈ orderIds ∧ order.orderType = orderType ∧ order.status = .planned

def convertPlannedOrdersToPurchaseOrders (orderIds : List Id) : Except PlanningError PlanningDb := do
  let orders := db.convertible .purchase orderIds
  throwWhen (orders = []) .noPlannedPurchaseOrders
  let converted := orders.filter fun order => order.supplierId.isSome
  pure (db.setStatus (converted.map PlannedOrder.id) .firmed)

def convertPlannedOrdersToWorkOrders (orderIds : List Id) : Except PlanningError PlanningDb := do
  let orders := db.convertible .production orderIds
  throwWhen (orders = []) .noPlannedWorkOrders
  pure (db.setStatus (orders.map PlannedOrder.id) .firmed)

end PlanningDb

/-! ### The operations of the service -/

inductive PlanningAction where
  | createBOM (dto : CreateBOMParams)
  | createBOMFromApi (dto : CreateBOMFromApiParams)
  | updateBOM (bomId : Id) (dto : UpdateBOMParams)
  | updateBOMStatus (id : Id) (status : BOMStatus)
  | copyBOM (bomId : Id) (dto : CopyBOMParams)
  | deleteBOM (bomId : Id)
  | addBOMComponent (bomId : Id) (dto : AddComponentParams)
  | updateBOMComponent (componentId : Id) (dto : UpdateComponentParams)
  | deleteBOMComponent (componentId : Id)
  | createPlannedOrder (dto : CreatePlannedOrderParams)
  | updatePlannedOrder (orderId : Id) (dto : UpdatePlannedOrderParams)
  | firmPlannedOrder (orderId : Id)
  | releasePlannedOrder (orderId : Id)
  | cancelPlannedOrder (orderId : Id)
  | bulkUpdatePlannedOrders (orderIds : List Id) (action : String)
  | convertPlannedOrdersToPurchaseOrders (orderIds : List Id)
  | convertPlannedOrdersToWorkOrders (orderIds : List Id)
deriving DecidableEq

namespace PlanningDb

def body (db : PlanningDb) : PlanningAction → Except PlanningError PlanningDb
  | .createBOM dto => db.createBOM dto
  | .createBOMFromApi dto => db.createBOMFromApi dto
  | .updateBOM bomId dto => db.updateBOM bomId dto
  | .updateBOMStatus id status => db.updateBOMStatus id status
  | .copyBOM bomId dto => db.copyBOM bomId dto
  | .deleteBOM bomId => db.deleteBOM bomId
  | .addBOMComponent bomId dto => db.addBOMComponent bomId dto
  | .updateBOMComponent componentId dto => db.updateBOMComponent componentId dto
  | .deleteBOMComponent componentId => db.deleteBOMComponent componentId
  | .createPlannedOrder dto => db.createPlannedOrder dto
  | .updatePlannedOrder orderId dto => db.updatePlannedOrder orderId dto
  | .firmPlannedOrder orderId => db.firmPlannedOrder orderId
  | .releasePlannedOrder orderId => db.releasePlannedOrder orderId
  | .cancelPlannedOrder orderId => db.cancelPlannedOrder orderId
  | .bulkUpdatePlannedOrders orderIds action => db.bulkUpdatePlannedOrders orderIds action
  | .convertPlannedOrdersToPurchaseOrders orderIds =>
    db.convertPlannedOrdersToPurchaseOrders orderIds
  | .convertPlannedOrdersToWorkOrders orderIds => db.convertPlannedOrdersToWorkOrders orderIds

/-- The tables after an operation; one that throws leaves them as they are. -/
def next (db : PlanningDb) (a : PlanningAction) : PlanningDb := transaction db (db.body a)

end PlanningDb

end Forecast.Planning
