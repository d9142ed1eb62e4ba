import Forecast.Costing.FiscalPeriods
import Forecast.Manufacturing.FactoryTables
import Forecast.Planning.PlanningTables

/-!
# What an MRP run reads and writes

The tables of one tenant that a run of the requirements planning reads, and the planned
orders, requirements and exceptions that it makes of them. Dates are days.
-/

open KeyedTable DecimalColumn

namespace Forecast.Mrp

open Inventory (Qty)
open Costing (Day)
open Manufacturing (PurchaseOrderStatus WorkOrderStatus)
open Planning (BOMStatus BillOfMaterial BOMComponent PlannedOrderType)

inductive LocationType where
  | warehouse
  | store
  | distributionCenter
  | plant
  | office
  | virtual
deriving DecidableEq

/-- The status of a location, a supplier or a work center. -/
inductive DimensionStatus where
  | active
  | inactive
  | archived
deriving DecidableEq

inductive JobStatus where
  | pending
  | queued
  | processing
  | completed
  | failed
  | cancelled
deriving DecidableEq

inductive MRPExceptionType where
  | pastDueOrder
  | expedite
  | defer
  | cancel
  | shortage
  | excessInventory
  | leadTimeViolation
  | lotSizeViolation
  | capacityOverload
deriving DecidableEq

inductive ExceptionSeverity where
  | critical
  | high
  | medium
  | low
deriving DecidableEq

/-! ### Rows that are read -/

structure Location where
  id : Id
  type : LocationType := .warehouse
  status : DimensionStatus := .active
deriving DecidableEq

/-- A row of `forecasts`. -/
structure ForecastRow where
  productId : Option Id
  locationId : Option Id
  periodDate : Day
  forecastQuantity : Option Qty
deriving DecidableEq

/-- A product at a location. -/
abbrev Place := Id × Id

/-- A row of `inventory_levels`, of which the run uses what is available. -/
structure InventoryLevel where
  place : Place
  availableQty : Qty
deriving DecidableEq

structure InventoryPolicy where
  place : Place
  safetyStockQty : Option Qty := none
  minOrderQty : Option Qty := none
  multipleOrderQty : Option Qty := none
  leadTimeDays : ℤ := 0
deriving DecidableEq

structure SupplierProduct where
  supplierId : Id
  supplierStatus : DimensionStatus
  productId : Id
  isPrimary : Bool
deriving DecidableEq

structure RoutingOperation where
  workCenterId : Id
  setupTime : Column 10 4
  runTimePerUnit : Column 10 6
deriving DecidableEq

/-- A routing with its operations in their sequence. -/
structure Routing where
  bomId : Id
  status : BOMStatus
  operations : List RoutingOperation
deriving DecidableEq

structure WorkCenterCapacity where
  workCenterId : Id
  workCenterStatus : DimensionStatus
  effectiveFrom : Day
  effectiveTo : Option Day
  capacityPerDay : Qty
deriving DecidableEq

/-- A purchase order with the date it is expected at. -/
structure ExistingPO extends Manufacturing.PurchaseOrder where
  expectedDate : Day
deriving DecidableEq

/-- A work order with the date it is to end at. -/
structure ExistingWO extends Manufacturing.WorkOrder where
  plannedEndDate : Day
deriving DecidableEq

structure MrpData where
  today : Day
  locations : List Location
  boms : List BillOfMaterial
  bomComponents : List BOMComponent
  forecasts : List ForecastRow := []
  inventoryLevels : List InventoryLevel := []
  policies : List InventoryPolicy := []
  supplierProducts : List SupplierProduct := []
  routings : List Routing := []
  capacities : List WorkCenterCapacity := []
  purchaseOrders : List ExistingPO := []
  workOrders : List ExistingWO := []

/-- A row of `mrp_runs`. -/
structure MRPRun where
  id : Id
  status : JobStatus := .pending
  planningHorizonDays : ℤ
  frozenPeriodDays : ℤ := 0
  locationIds : List Id := []
  productIds : List Id := []
  respectLeadTimes : Bool := true
  considerSafetyStock : Bool := true
  plannedOrderCount : Option ℕ := none
  exceptionCount : Option ℕ := none
deriving DecidableEq

/-! ### What the calculation makes of them -/

/-- A planned order before it is saved. -/
structure OrderData where
  place : Place
  orderType : PlannedOrderType
  startDate : Day
  dueDate : Day
  quantity : Decimal
  supplierId : Option Id := none
deriving DecidableEq

/-- An exception before it is saved, without its message. -/
structure ExceptionData where
  place : Place
  exceptionType : MRPExceptionType
  severity : ExceptionSeverity
  affectedDate : Day
  currentValue : Decimal
  requiredValue : Decimal
deriving DecidableEq

/-- A requirement before it is saved. -/
structure RequirementData where
  place : Place
  periodDate : Day
  grossRequirement : Decimal
  scheduledReceipts : Decimal
  projectedOnHand : Decimal
  netRequirement : Decimal
  plannedOrderReceipt : Decimal
  plannedOrderRelease : Decimal
  /-- The product whose bill the requirement comes from; no column holds it. -/
  parentProductId : Option Id := none
deriving DecidableEq

structure MrpPlan where
  plannedOrders : List OrderData := []
  exceptions : List ExceptionData := []
  requirements : List RequirementData := []
deriving DecidableEq

namespace MrpPlan

def append (a b : MrpPlan) : MrpPlan where
  plannedOrders := a.plannedOrders ++ b.plannedOrders
  exceptions := a.exceptions ++ b.exceptions
  requirements := a.requirements ++ b.requirements

instance : Append MrpPlan := ⟨append⟩

@[simp] theorem plannedOrders_append (a b : MrpPlan) :
    (a ++ b).plannedOrders = a.plannedOrders ++ b.plannedOrders := rfl

@[simp] theorem exceptions_append (a b : MrpPlan) :
    (a ++ b).exceptions = a.exceptions ++ b.exceptions := rfl

@[simp] theorem requirements_append (a b : MrpPlan) :
    (a ++ b).requirements = a.requirements ++ b.requirements := rfl

end MrpPlan

/-- The text of a row id: five groups, of which the first tells the rows apart. -/
def uuid (id : Id) : String := Costing.uuidText id ++ "-0000-4000-8000-000000000000"

/-- `q || d`: the default also stands for zero. -/
def orDefault (q : Option Decimal) (d : Decimal) : Decimal :=
  match q with
  | some v => if v = 0 then d else v
  | none => d

end Forecast.Mrp
