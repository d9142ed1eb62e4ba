import Forecast.Inventory.LedgerEntries
import Forecast.Marg.Dates

/-!
# Products, bills of material and planned orders

The tables of one tenant from which requirements are planned, and the errors of the
operations that edit them.
-/

open KeyedTable DecimalColumn Transactions

namespace Forecast.Planning

open Inventory (Qty)

inductive BOMStatus where
  | draft
  | active
  | obsolete
  | pendingApproval
deriving DecidableEq

def BOMStatus.text : BOMStatus → String
  | draft => "DRAFT"
  | active => "ACTIVE"
  | obsolete => "OBSOLETE"
  | pendingApproval => "PENDING_APPROVAL"

inductive PlannedOrderStatus where
  | planned
  | firmed
  | released
  | cancelled
deriving DecidableEq

inductive PlannedOrderType where
  | purchase
  | production
  | transfer
  | subcontract
deriving DecidableEq

/-- A row of `bills_of_material`, unique by its product and version. -/
structure BillOfMaterial where
  id : Id
  parentProductId : Id
  version : String
  status : BOMStatus
  baseQuantity : Qty
deriving DecidableEq

/-- A row of `bom_components`. -/
structure BOMComponent where
  id : Id
  bomId : Id
  componentProductId : Id
  quantity : Column 18 6
  scrapPercent : Column 5 2
deriving DecidableEq

/-- A row of `planned_orders`. -/
structure PlannedOrder where
  id : Id
  mrpRunId : Option Id := none
  productId : Id
  locationId : Id
  orderType : PlannedOrderType
  status : PlannedOrderStatus := .planned
  startDate : Millis
  dueDate : Millis
  quantity : Qty
  supplierId : Option Id := none
  isFirmed : Bool := false
deriving DecidableEq

structure PlanningDb where
  products : List Id
  boms : List BillOfMaterial
  bomComponents : List BOMComponent
  plannedOrders : List PlannedOrder
deriving DecidableEq

inductive PlanningError where
  | productIdRequired
  | productNotFound
  | productWithIdNotFound (id : Id)
  | versionExists (version : String)
  | componentOfItself
  | componentsNotFound
  | bomNotFound
  | componentProductNotFound
  | bomComponentNotFound
  | invalidTransition (current next : BOMStatus)
  | plannedOrderNotFound
  | notPlanned
  | notFirmed
  | idsAndActionRequired
  | invalidAction
  | noPlannedPurchaseOrders
  | noPlannedWorkOrders
  /-- A constraint or a column of the database refuses the row. -/
  | refused
deriving DecidableEq

/-- The message of an error; the database words its own. -/
def PlanningError.text : PlanningError → Option String
  | productIdRequired => some "productId is required"
  | productNotFound => some "Product not found"
  | productWithIdNotFound id => some ("Product with ID " ++ toString id ++ " not found")
  | versionExists version =>
    some ("BOM version " ++ version ++ " already exists for this product")
  | componentOfItself => some "A product cannot be a component of itself"
  | componentsNotFound => some "One or more component products not found"
  | bomNotFound => some "BOM not found"
  | componentProductNotFound => some "Component product not found"
  | bomComponentNotFound => some "BOM component not found"
  | invalidTransition current next =>
    some ("Invalid status transition from " ++ current.text ++ " to " ++ next.text)
  | plannedOrderNotFound => some "Planned order not found"
  | notPlanned => some "Only planned orders can be firmed"
  | notFirmed => some "Only firmed orders can be released"
  | idsAndActionRequired => some "orderIds and action are required"
  | invalidAction => some "Invalid action"
  | noPlannedPurchaseOrders => some "No valid planned purchase orders found"
  | noPlannedWorkOrders => some "No valid planned work orders found"
  | refused => none

/-- Writing to a column. -/
def columnOf {p s : ℕ} (q : Decimal) : Except PlanningError (Column p s) :=
  found (Column.store q) .refused

namespace PlanningDb

variable (db : PlanningDb)

def bom (id : Id) : Except PlanningError BillOfMaterial :=
  found (lookup BillOfMaterial.id db.boms id) .bomNotFound

def componentsOf (bomId : Id) : List BOMComponent :=
  db.bomComponents.filter fun c => c.bomId = bomId

/-- The unique key of the bills of material. -/
def hasVersion (parentProductId : Id) (version : String) : Bool :=
  db.boms.any fun b => b.parentProductId = parentProductId ∧ b.version = version

end PlanningDb

end Forecast.Planning
