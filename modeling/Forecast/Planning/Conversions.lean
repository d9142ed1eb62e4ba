import Forecast.Lib.ThreadPool
import Forecast.Planning.PlannedOrders

/-!
# Planned orders become purchase and work orders

A conversion reads the planned orders, creates an order for each supplier or for each of
them, and then sets them firm. A thread does one statement or one transaction a step.
-/

open KeyedTable DecimalColumn ThreadPool Transactions

namespace Forecast.Planning

structure SupplierProduct where
  supplierId : Id
  productId : Id
  unitPrice : Column 18 4
deriving DecidableEq

structure PurchaseContract where
  supplierId : Id
  status : String
  startDate : Millis
  endDate : Millis
  /-- Products and their agreed prices. -/
  lines : List (Id × Column 18 4)
deriving DecidableEq

/-- A line of a new purchase order; the order's note names the planned order of each line. -/
structure PurchaseOrderLine where
  productId : Id
  quantity : Inventory.Qty
  unitPrice : Column 18 4
  plannedOrderId : Id
deriving DecidableEq

structure PurchaseOrder where
  supplierId : Id
  locationId : Id
  expectedDate : Millis
  lines : List PurchaseOrderLine
deriving DecidableEq

/-- A new work order; its note names the planned order. -/
structure WorkOrder where
  productId : Id
  locationId : Id
  plannedQty : Inventory.Qty
  plannedStartDate : Millis
  plannedEndDate : Millis
  plannedOrderId : Id
deriving DecidableEq

structure ConversionState where
  now : Millis
  db : PlanningDb
  /-- The active locations. -/
  locations : List Id := []
  supplierProducts : List SupplierProduct := []
  contracts : List PurchaseContract := []
  /-- Products and the lead times of their inventory policies, in days. -/
  policies : List (Id × ℕ) := []
  purchaseOrders : List PurchaseOrder := []
  workOrders : List WorkOrder := []
deriving DecidableEq

def bySupplier (orders : List PlannedOrder) : List (Id × List PlannedOrder) :=
  (firstOfEach id (orders.filterMap PlannedOrder.supplierId)).map fun supplierId =>
    (supplierId, orders.filter fun order => order.supplierId = some supplierId)

def latestDate (orders : List PlannedOrder) : Millis :=
  orders.foldl (fun latest order => max latest order.dueDate)
    ((orders.head?.map PlannedOrder.dueDate).getD 0)

inductive ConversionThread where
  | readPurchase (plannedOrderIds : List Id)
  | readPrices (supplierId : Id) (orders : List PlannedOrder)
      (groups : List (Id × List PlannedOrder))
  | createPurchase (supplierId : Id) (orders : List PlannedOrder) (prices : List SupplierProduct)
      (groups : List (Id × List PlannedOrder))
  | firmOrders (orders : List PlannedOrder) (groups : List (Id × List PlannedOrder))
  | readProduction (plannedOrderIds : List Id)
  | readPolicy (order : PlannedOrder) (orders : List PlannedOrder)
  | createWork (order : PlannedOrder) (leadTimeDays : ℕ) (orders : List PlannedOrder)
  | firmOrder (order : PlannedOrder) (orders : List PlannedOrder)
  | returned
  | thrown (error : Option PlanningError)
deriving DecidableEq

namespace ConversionThread

/-- The loop over the suppliers. -/
def purchasing : List (Id × List PlannedOrder) → ConversionThread
  | [] => returned
  | group :: groups => readPrices group.1 group.2 groups

/-- The loop over the production orders. -/
def producing : List PlannedOrder → ConversionThread
  | [] => returned
  | order :: orders => readPolicy order orders

end ConversionThread

namespace ConversionState

variable (s : ConversionState)

/-- A contract in force overrides the price of the line; the last one that lists the product
counts. -/
def contractPrice (supplierId productId : Id) : Option (Column 18 4) :=
  let active := s.contracts.filter fun contract => contract.supplierId = supplierId ∧
    contract.status = "ACTIVE" ∧ contract.startDate ≤ s.now ∧ s.now ≤ contract.endDate
  (((active.flatMap PurchaseContract.lines).filter fun line => line.1 = productId).getLast?).map
    Prod.snd

def unitPrice (prices : List SupplierProduct) (supplierId productId : Id) : Column 18 4 :=
  let listed := ((prices.filter fun row => row.productId = productId).getLast?).map
    SupplierProduct.unitPrice
  ((s.contractPrice supplierId productId).or listed).getD .zero

/-- The transaction of `createPurchaseOrder`; none when there is no active location. -/
def createPurchaseOrder (supplierId : Id) (orders : List PlannedOrder)
    (prices : List SupplierProduct) : Option ConversionState :=
  s.locations.head?.map fun locationId =>
    { s with
      purchaseOrders := s.purchaseOrders ++
        [{ supplierId := supplierId
           locationId := locationId
           expectedDate := latestDate orders
           lines := orders.map fun order =>
             { productId := order.productId
               quantity := order.quantity
               unitPrice := s.unitPrice prices supplierId order.productId
               plannedOrderId := order.id } }] }

/-- The transaction of `createWorkOrder`. -/
def createWorkOrder (order : PlannedOrder) (leadTimeDays : ℕ) : Option ConversionState :=
  s.locations.head?.map fun locationId =>
    { s with
      workOrders := s.workOrders ++
        [{ productId := order.productId
           locationId := locationId
           plannedQty := order.quantity
           plannedStartDate := order.dueDate - leadTimeDays * 86400000
           plannedEndDate := order.dueDate
           plannedOrderId := order.id }] }

def setFirm (orders : List PlannedOrder) : ConversionState :=
  { s with db := s.db.setStatus (orders.map PlannedOrder.id) .firmed }

/-- `policy?.leadTimeDays || 7` -/
def leadTimeDays (productId : Id) : ℕ :=
  (((s.policies.find? fun policy => policy.1 = productId).map Prod.snd).filter (· ≠ 0)).getD 7

end ConversionState

namespace ConversionThread

variable (s : ConversionState)

/-- The next statement or transaction of a thread. -/
def succeed : ConversionThread → ConversionState × ConversionThread
  | readPurchase plannedOrderIds =>
    let orders := s.db.convertible .purchase plannedOrderIds
    if orders = [] then (s, thrown (some .noPlannedPurchaseOrders))
    else (s, purchasing (bySupplier orders))
  | readPrices supplierId orders groups =>
    let productIds := orders.map PlannedOrder.productId
    let prices := s.supplierProducts.filter fun row =>
      row.supplierId = supplierId ∧ row.productId ∈ productIds
    (s, createPurchase supplierId orders prices groups)
  | createPurchase supplierId orders prices groups =>
    match s.createPurchaseOrder supplierId orders prices with
    | some s' => (s', firmOrders orders groups)
    | none => (s, thrown none)
  | firmOrders orders groups => (s.setFirm orders, purchasing groups)
  | readProduction plannedOrderIds =>
    let orders := s.db.convertible .production plannedOrderIds
    if orders = [] then (s, thrown (some .noPlannedWorkOrders)) else (s, producing orders)
  | readPolicy order orders => (s, createWork order (s.leadTimeDays order.productId) orders)
  | createWork order leadTimeDays orders =>
    match s.createWorkOrder order leadTimeDays with
    | some s' => (s', firmOrder order orders)
    | none => (s, thrown none)
  | firmOrder order orders => (s.setFirm [order], producing orders)
  | returned => (s, returned)
  | thrown error => (s, thrown error)

end ConversionThread

inductive ConversionCall where
  | convertPlannedOrdersToPurchaseOrders (plannedOrderIds : List Id)
  | convertPlannedOrdersToWorkOrders (plannedOrderIds : List Id)
deriving DecidableEq

def ConversionCall.start : ConversionCall → ConversionThread
  | convertPlannedOrdersToPurchaseOrders plannedOrderIds => .readPurchase plannedOrderIds
  | convertPlannedOrdersToWorkOrders plannedOrderIds => .readProduction plannedOrderIds

/-- Whether a step is done; if not, the call ends there. -/
inductive ConversionFault where
  | none
  | crash
deriving DecidableEq

def ConversionThread.advance (s : ConversionState) (t : ConversionThread) :
    ConversionFault → ConversionState × ConversionThread
  | .none => t.succeed s
  | .crash => (s, .thrown none)

def ConversionState.env (s : ConversionState) : PlanningAction → ConversionState
  | .convertPlannedOrdersToPurchaseOrders _ => s
  | .convertPlannedOrdersToWorkOrders _ => s
  | a => { s with db := s.db.next a }

def conversionProgram :
    Program ConversionState ConversionThread ConversionCall ConversionFault PlanningAction where
  start _ _ call := some call.start
  advance := ConversionThread.advance
  env := ConversionState.env

abbrev ConversionPool := Config ConversionState ConversionThread

abbrev ConversionAction := Action ConversionCall ConversionFault PlanningAction

end Forecast.Planning
