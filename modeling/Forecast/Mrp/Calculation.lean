import Forecast.Mrp.MrpTables

/-!
# The calculation of an MRP run

For every location and finished good the weeks of the horizon are netted one after
another. What has to be produced is exploded through the bill of the product, one level
deep, into orders for its components. The quantities are binary64 numbers.
-/

open KeyedTable DecimalColumn

namespace Forecast.Mrp

open Inventory (Qty)
open Costing (Day)
open Planning (BOMStatus BillOfMaterial BOMComponent)

/-- An entry of `demandMap`. -/
structure Demand where
  place : Place
  periodDate : Day
  quantity : Decimal
deriving DecidableEq

def Demand.key (d : Demand) : Place × Day := (d.place, d.periodDate)

/-- What an open order is still to bring in. -/
structure Receipt where
  place : Place
  date : Day
  quantity : Decimal
deriving DecidableEq

/-- The Sunday that the week of a day begins with; day zero was a Thursday. -/
def weekStart (day : Day) : Day := day - (day + 4) % 7

def toNumber {p s : ℕ} (q : Column p s) : Decimal := Decimal.toDouble q.value

def average (existing quantity : Decimal) : Decimal :=
  Binary64.div (Binary64.add existing quantity) 2

/-- A forecast for a day that has one counts half. -/
def addDemand (demands : List Demand) (d : Demand) : List Demand :=
  upsert Demand.key demands
    (match lookup Demand.key demands d.key with
      | some existing => { d with quantity := average existing.quantity d.quantity }
      | none => d)

/-- The lot sizing rules. -/
def lotSize (minOrderQty multipleOrderQty netRequirement : Decimal) : Decimal :=
  let qty := max netRequirement minOrderQty
  if 1 < multipleOrderQty then
    Binary64.mul ⌈Binary64.div qty multipleOrderQty⌉ multipleOrderQty
  else qty

theorem lotSize_nonneg {minOrderQty multipleOrderQty net : Decimal} (h : 0 ≤ net) :
    0 ≤ lotSize minOrderQty multipleOrderQty net := by
  have hqty : 0 ≤ max net minOrderQty := h.trans (le_max_left _ _)
  unfold lotSize
  dsimp only
  split_ifs with hmultiple
  · have hpos : (0 : Decimal) ≤ multipleOrderQty := by linarith
    have hquotient : 0 ≤ Binary64.div (max net minOrderQty) multipleOrderQty :=
      Binary64.round_nonneg (div_nonneg hqty hpos)
    exact Binary64.round_nonneg (mul_nonneg (Int.cast_nonneg (Int.ceil_nonneg hquotient)) hpos)
  · exact hqty

namespace MrpData

variable (data : MrpData) (run : MRPRun)

def horizonEnd : Day := data.today + run.planningHorizonDays

def frozenEnd : Day := data.today + run.frozenPeriodDays

/-! ### The maps of the run -/

def activeBoms : List BillOfMaterial :=
  data.boms.filter fun bom => bom.status = .active ∧
    (run.productIds = [] ∨ bom.parentProductId ∈ run.productIds)

/-- A product with two active bills is here twice. -/
def finishedGoodIds : List Id := (data.activeBoms run).map BillOfMaterial.parentProductId

def bomOf (productId : Id) : Option BillOfMaterial :=
  lastWith BillOfMaterial.parentProductId (data.activeBoms run) productId

def componentsOf (bom : BillOfMaterial) : List BOMComponent :=
  data.bomComponents.filter fun c => c.bomId = bom.id

def locationIds : List Id :=
  (data.locations.filter fun l =>
    if run.locationIds = [] then l.type = .warehouse ∧ l.status = .active
    else l.id ∈ run.locationIds).map Location.id

def forecastDemand (f : ForecastRow) : Option Demand :=
  match f.productId, f.locationId with
  | some productId, some locationId =>
    if productId ∈ data.finishedGoodIds run ∧ locationId ∈ data.locationIds run ∧
        data.today ≤ f.periodDate ∧ f.periodDate ≤ data.horizonEnd run then
      some ⟨(productId, locationId), f.periodDate, (f.forecastQuantity.map toNumber).getD 0⟩
    else none
  | _, _ => none

def demandMap : List Demand := (data.forecasts.filterMap (data.forecastDemand run)).foldl addDemand []

def inventoryMap : List InventoryLevel :=
  lastOfEach InventoryLevel.place
    (data.inventoryLevels.filter fun l => l.place.2 ∈ data.locationIds run)

def availableQty (place : Place) : Decimal :=
  ((lookup InventoryLevel.place (data.inventoryMap run) place).map fun l =>
    l.availableQty.value).getD 0

def available (place : Place) : Decimal := Decimal.toDouble (data.availableQty run place)

def policy (place : Place) : Option InventoryPolicy :=
  lastWith InventoryPolicy.place
    (data.policies.filter fun p => p.place.2 ∈ data.locationIds run) place

def safetyStock (place : Place) : Decimal :=
  if run.considerSafetyStock then
    (((data.policy run place).bind InventoryPolicy.safetyStockQty).map toNumber).getD 0
  else 0

def leadTime (place : Place) : ℤ :=
  if run.respectLeadTimes then ((data.policy run place).map InventoryPolicy.leadTimeDays).getD 0
  else 0

def minOrderQty (place : Place) : Decimal :=
  orDefault (((data.policy run place).bind InventoryPolicy.minOrderQty).map toNumber) 1

def multipleOrderQty (place : Place) : Decimal :=
  orDefault (((data.policy run place).bind InventoryPolicy.multipleOrderQty).map toNumber) 1

def componentLeadTime (place : Place) : ℤ :=
  match data.policy run place with
  | some policy => if policy.leadTimeDays = 0 then 14 else policy.leadTimeDays
  | none => 14

def supplierOf (productId : Id) : Option Id :=
  (lastWith SupplierProduct.productId
    (data.supplierProducts.filter fun s => s.isPrimary ∧ s.supplierStatus = .active)
    productId).map SupplierProduct.supplierId

def routingOf (bomId : Id) : Option Routing :=
  lastWith Routing.bomId (data.routings.filter fun r => r.status = .active) bomId

/-- The minutes a day of a work center; eight hours unless a capacity is in force. -/
def capacityPerDay (workCenterId : Id) : Decimal :=
  orDefault
    ((lastWith WorkCenterCapacity.workCenterId
      (data.capacities.filter fun c => c.workCenterStatus = .active ∧
        c.effectiveFrom ≤ data.horizonEnd run ∧ (c.effectiveTo.all fun day => data.today ≤ day))
      workCenterId).map fun c => toNumber c.capacityPerDay) 480

def InHorizon (day : Day) : Prop := data.today ≤ day ∧ day ≤ data.horizonEnd run

instance (day : Day) : Decidable (data.InHorizon run day) := inferInstanceAs (Decidable (_ ∧ _))

def purchaseReceipts : List Receipt :=
  (data.purchaseOrders.filter fun po =>
    (po.status = .approved ∨ po.status = .sent ∨ po.status = .partiallyReceived) ∧
      data.InHorizon run po.expectedDate).flatMap fun po =>
    po.lines.filterMap fun line =>
      let remaining := Binary64.sub (toNumber line.quantity) (toNumber line.receivedQty)
      if 0 < remaining then some ⟨(line.productId, po.locationId), po.expectedDate, remaining⟩
      else none

def workReceipts : List Receipt :=
  (data.workOrders.filter fun wo =>
    (wo.status = .planned ∨ wo.status = .released ∨ wo.status = .inProgress) ∧
      data.InHorizon run wo.plannedEndDate).filterMap fun wo =>
    let remaining := Binary64.sub (toNumber wo.plannedQty) (toNumber wo.completedQty)
    if 0 < remaining then some ⟨(wo.productId, wo.locationId), wo.plannedEndDate, remaining⟩
    else none

def receipts : List Receipt := data.purchaseReceipts run ++ data.workReceipts run

/-- The entry of `scheduledReceiptsMap` for a place and the week that begins with a day. -/
def scheduledReceipts (place : Place) (week : Day) : Decimal :=
  Binary64.sum (((data.receipts run).filter fun r =>
    r.place = place ∧ weekStart r.date = week).map Receipt.quantity)

def buckets : List Day :=
  (List.range ((data.horizonEnd run - data.today) / 7 + 1).toNat).map fun (k : ℕ) =>
    data.today + 7 * k

/-! ### Netting -/

/-- The forecasts of the seven days from a day on. -/
def grossRequirement (place : Place) (bucket : Day) : Decimal :=
  Binary64.sum (((data.demandMap run).filter fun d =>
    d.place = place ∧ bucket ≤ d.periodDate ∧ d.periodDate < bucket + 7).map Demand.quantity)

def afterDemand (place : Place) (projectedOnHand : Decimal) (bucket : Day) : Decimal :=
  Binary64.sub (Binary64.add projectedOnHand (data.scheduledReceipts run place (weekStart bucket)))
    (data.grossRequirement run place bucket)

def netRequirement (place : Place) (projectedOnHand : Decimal) (bucket : Day) : Decimal :=
  max 0 (Binary64.sub (data.safetyStock run place)
    (data.afterDemand run place projectedOnHand bucket))

def plannedOrderQty (place : Place) (projectedOnHand : Decimal) (bucket : Day) : Decimal :=
  let net := data.netRequirement run place projectedOnHand bucket
  if 0 < net then lotSize (data.minOrderQty run place) (data.multipleOrderQty run place) net else 0

/-- The next week starts with the planned order of this one, whether it is created or not. -/
def nextOnHand (place : Place) (projectedOnHand : Decimal) (bucket : Day) : Decimal :=
  Binary64.add (data.afterDemand run place projectedOnHand bucket)
    (data.plannedOrderQty run place projectedOnHand bucket)

def IsFrozen (bucket : Day) : Prop := bucket ≤ data.frozenEnd run

instance (bucket : Day) : Decidable (data.IsFrozen run bucket) := inferInstanceAs (Decidable (_ ≤ _))

def releaseDate (place : Place) (bucket : Day) : Day := bucket - data.leadTime run place

/-! ### One bucket -/

def ownRequirement (place : Place) (projectedOnHand : Decimal) (bucket : Day) : RequirementData where
  place := place
  periodDate := bucket
  grossRequirement := data.grossRequirement run place bucket
  scheduledReceipts := data.scheduledReceipts run place (weekStart bucket)
  projectedOnHand := projectedOnHand
  netRequirement := data.netRequirement run place projectedOnHand bucket
  plannedOrderReceipt := data.plannedOrderQty run place projectedOnHand bucket
  plannedOrderRelease := data.plannedOrderQty run place projectedOnHand bucket

def frozenExceptions (place : Place) (projectedOnHand : Decimal) (bucket : Day) :
    List ExceptionData :=
  if data.IsFrozen run bucket ∧ 0 < data.netRequirement run place projectedOnHand bucket then
    [{ place := place
       exceptionType := .pastDueOrder
       severity := .high
       affectedDate := bucket
       currentValue := projectedOnHand
       requiredValue := data.grossRequirement run place bucket }]
  else []

def productionOrder (place : Place) (bucket : Day) (quantity : Decimal) : OrderData where
  place := place
  orderType := .production
  startDate := data.releaseDate run place bucket
  dueDate := bucket
  quantity := quantity

/-- The minutes that are used of the work centers in the weeks that begin with a release. -/
abbrev CapacityUsage := List ((Id × Day) × Decimal)

def useCapacity (place : Place) (bucket : Day) (quantity : Decimal)
    (state : CapacityUsage × List ExceptionData) (operation : RoutingOperation) :
    CapacityUsage × List ExceptionData :=
  let usageKey := (operation.workCenterId, data.releaseDate run place bucket)
  let required := Binary64.add (toNumber operation.setupTime)
    (Binary64.mul (toNumber operation.runTimePerUnit) quantity)
  let newUsage :=
    Binary64.add (((lookup Prod.fst state.1 usageKey).map Prod.snd).getD 0) required
  let weeklyCapacity := Binary64.mul (data.capacityPerDay run operation.workCenterId) 5
  let overload (severity : ExceptionSeverity) : ExceptionData :=
    { place := place
      exceptionType := .capacityOverload
      severity := severity
      affectedDate := bucket
      currentValue := weeklyCapacity
      requiredValue := newUsage }
  let utilizationPct := Binary64.mul (Binary64.div newUsage weeklyCapacity) 100
  (upsert Prod.fst state.1 (usageKey, newUsage),
    state.2 ++
      if weeklyCapacity < newUsage then [overload (if 150 < utilizationPct then .critical else .high)]
      else if 85 < utilizationPct then [overload .medium]
      else [])

def operationsOf (bom : BillOfMaterial) : List RoutingOperation :=
  ((data.routingOf bom.id).map Routing.operations).getD []

/-! ### Explosion -/

/-- The quantity of the component for an order, rounded up. -/
def requiredQty (quantity : Decimal) (component : BOMComponent) : Decimal :=
  let componentQty := Binary64.mul quantity (orDefault (some (toNumber component.quantity)) 1)
  let scrapFactor := Binary64.add 1 (Binary64.div (toNumber component.scrapPercent) 100)
  ⌈Binary64.mul componentQty scrapFactor⌉

/-- The whole available stock is set against every requirement. -/
def componentNetReq (place : Place) (required : Decimal) : Decimal :=
  max 0 (Binary64.sub required (data.available run place))

def componentOrder (place : Place) (due : Day) (net : Decimal) : OrderData where
  place := place
  orderType := .purchase
  startDate := max data.today (due - data.componentLeadTime run place)
  dueDate := due
  quantity := lotSize (data.minOrderQty run place) (data.multipleOrderQty run place) net
  supplierId := data.supplierOf place.1

def leadTimeExceptions (place : Place) (bucket due : Day) (required : Decimal) :
    List ExceptionData :=
  if due - data.componentLeadTime run place < data.today then
    [{ place := place
       exceptionType := .leadTimeViolation
       severity := .critical
       affectedDate := bucket
       currentValue := data.available run place
       requiredValue := required }]
  else []

def shortageExceptions (place : Place) (bucket : Day) (required : Decimal) : List ExceptionData :=
  if data.available run place < Binary64.mul required (1 / 2) then
    [{ place := place
       exceptionType := .shortage
       severity := if data.available run place = 0 then .critical else .high
       affectedDate := bucket
       currentValue := data.available run place
       requiredValue := required }]
  else []

def componentRequirement (place : Place) (bucket : Day) (required : Decimal) (parentProductId : Id) :
    RequirementData where
  place := place
  periodDate := bucket
  grossRequirement := required
  scheduledReceipts := 0
  projectedOnHand := data.available run place
  netRequirement := data.componentNetReq run place required
  plannedOrderReceipt := data.componentNetReq run place required
  plannedOrderRelease := data.componentNetReq run place required
  parentProductId := some parentProductId

def explodeComponent (parent : Place) (bucket : Day) (quantity : Decimal)
    (component : BOMComponent) : MrpPlan :=
  let place : Place := (component.componentProductId, parent.2)
  let due := data.releaseDate run parent bucket
  let required := requiredQty quantity component
  let net := data.componentNetReq run place required
  { plannedOrders := if 0 < net then [data.componentOrder run place due net] else []
    exceptions :=
      if 0 < net then
        data.leadTimeExceptions run place bucket due required ++
          data.shortageExceptions run place bucket required
      else []
    requirements := [data.componentRequirement run place bucket required parent.1] }

def explode (bom : BillOfMaterial) (parent : Place) (bucket : Day) (quantity : Decimal) : MrpPlan :=
  (data.componentsOf bom).foldl
    (fun plan component => plan ++ data.explodeComponent run parent bucket quantity component) {}

/-! ### The loops -/

structure PlanState where
  plan : MrpPlan := {}
  capacityUsage : CapacityUsage := []

def createOrder (bom : BillOfMaterial) (place : Place) (bucket : Day) (quantity : Decimal)
    (state : PlanState) : PlanState :=
  let used := (data.operationsOf bom).foldl (data.useCapacity run place bucket quantity)
    (state.capacityUsage, [])
  { plan := state.plan ++
      { plannedOrders := [data.productionOrder run place bucket quantity]
        exceptions := used.2 } ++
      data.explode run bom place bucket quantity
    capacityUsage := used.1 }

def planBucket (bom : BillOfMaterial) (place : Place) (state : PlanState × Decimal) (bucket : Day) :
    PlanState × Decimal :=
  let quantity := data.plannedOrderQty run place state.2 bucket
  let warned : PlanState :=
    { state.1 with
      plan := state.1.plan ++ { exceptions := data.frozenExceptions run place state.2 bucket } }
  let ordered :=
    if 0 < quantity ∧ ¬data.IsFrozen run bucket then data.createOrder run bom place bucket quantity warned
    else warned
  ({ ordered with
      plan := ordered.plan ++ { requirements := [data.ownRequirement run place state.2 bucket] } },
    data.nextOnHand run place state.2 bucket)

/-- `projectedInventory` -/
abbrev ProjectedInventory := List (String × Decimal)

/-- The first group of the key is taken for the id of the product. -/
def productPart (key : String) : String :=
  String.ofList ((JsText.splitChars '-' key.toList).headD [])

def placeText (place : Place) : String := uuid place.1 ++ "-" ++ uuid place.2

/-- What the levels of a location start with. -/
def initialInventory (locationId : Id) : ProjectedInventory :=
  ((data.inventoryMap run).filter fun l =>
      ("-" ++ uuid locationId).toList.isSuffixOf (placeText l.place).toList).foldl
    (fun projected l =>
      upsert Prod.fst projected (productPart (placeText l.place), toNumber l.availableQty)) []

def projectedFor (projected : ProjectedInventory) (productId : Id) : Decimal :=
  ((lookup Prod.fst projected (uuid productId)).map Prod.snd).getD 0

def planProduct (locationId : Id) (state : PlanState × ProjectedInventory) (productId : Id) :
    PlanState × ProjectedInventory :=
  match data.bomOf run productId with
  | none => state
  | some bom =>
    let planned := (data.buckets run).foldl (data.planBucket run bom (productId, locationId))
      (state.1, projectedFor state.2 productId)
    (planned.1,
      if data.buckets run = [] then state.2
      else upsert Prod.fst state.2 (uuid productId, planned.2))

def planLocation (state : PlanState) (locationId : Id) : PlanState :=
  ((data.finishedGoodIds run).foldl (data.planProduct run locationId)
    (state, data.initialInventory run locationId)).1

def calculateMRP : MrpPlan := ((data.locationIds run).foldl (data.planLocation run) {}).plan

end MrpData

end Forecast.Mrp
