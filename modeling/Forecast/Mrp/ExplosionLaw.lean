import Mathlib.Algebra.Order.Group.MinMax
import Forecast.Lib.SharedStock
import Forecast.Manufacturing.FactoryFrames
import Forecast.Mrp.Calculation

/-!
# Dependent demand

What the planned production orders of a run need of a component, over all levels of the
bills, should be covered by its stock, its open receipts and the orders that the run plans
for it, and no unit of the stock should be netted against two demands. Every quantity is
the one that its column keeps.
-/

open KeyedTable DecimalColumn

namespace Forecast.Mrp

open Costing (Day)
open Planning (BillOfMaterial BOMComponent)

def lineDemand (bom : BillOfMaterial) (component : BOMComponent) (quantity : Decimal) : Decimal :=
  quantity / bom.baseQuantity.value * component.quantity.value *
    (1 + component.scrapPercent.value / 100)

/-- What a `DECIMAL(18,4)` column of the plan keeps. -/
def storedQty (quantity : Decimal) : Decimal := roundToScale 4 quantity

namespace MrpData

variable (data : MrpData) (run : MRPRun)

/-! ### Demand and supply of a component -/

def activeBill (productId : Id) : Option BillOfMaterial :=
  lastWith BillOfMaterial.parentProductId (data.boms.filter fun bom => bom.status = .active) productId

def dependentDemand (component : Id) : ℕ → Id → Decimal → Decimal
  | 0, _, _ => 0
  | levels + 1, productId, quantity =>
    match data.activeBill productId with
    | none => 0
    | some bom =>
      ((data.componentsOf bom).map fun line =>
        (if line.componentProductId = component then lineDemand bom line quantity else 0) +
          dependentDemand component levels line.componentProductId
            (lineDemand bom line quantity)).sum

def productionOrders : List OrderData :=
  (data.calculateMRP run).plannedOrders.filter fun o => o.orderType = .production

def totalDemand (levels : ℕ) (place : Place) : Decimal :=
  (((data.productionOrders run).filter fun o => o.place.2 = place.2).map fun o =>
    data.dependentDemand place.1 levels o.place.1 (storedQty o.quantity)).sum

def receiptsOf (place : Place) : Decimal :=
  (((data.receipts run).filter fun r => r.place = place).map fun r => storedQty r.quantity).sum

/-- What the columns of the orders for a place keep. -/
def storedAt (orders : List OrderData) (place : Place) : List Decimal :=
  (orders.filter fun o => o.place = place).map fun o => storedQty o.quantity

def orderedFor (place : Place) : Decimal :=
  (storedAt (data.calculateMRP run).plannedOrders place).sum

def supply (place : Place) : Decimal :=
  data.availableQty run place + data.receiptsOf run place + data.orderedFor run place

/-- The rows of a component that come from bills of other products. -/
def requirementsOf (place : Place) : List RequirementData :=
  (data.calculateMRP run).requirements.filter fun r => r.place = place ∧ r.parentProductId.isSome

/-- What a row takes from the stock. -/
def nettedQty (r : RequirementData) : Decimal :=
  max 0 (storedQty r.grossRequirement - storedQty r.netRequirement)

/-- Dependent demand is covered, and the stock is netted once; a supply below zero counts as
none. -/
structure ExplosionLaw : Prop where
  covers : ∀ levels place, data.totalDemand run levels place ≤ max 0 (data.supply run place)
  netsOnce : ∀ place,
    ((data.requirementsOf run place).map nettedQty).sum ≤ max 0 (data.availableQty run place)

/-! ### What the production orders require -/

/-- The lines of the bill that an order is exploded with. -/
def linesOf (o : OrderData) : List BOMComponent :=
  ((data.bomOf run o.place.1).map data.componentsOf).getD []

def requiredQtys (place : Place) : List Decimal :=
  ((data.productionOrders run).filter fun o => o.place.2 = place.2).flatMap fun o =>
    ((data.linesOf run o).filter fun line => line.componentProductId = place.1).map
      (requiredQty o.quantity)

def billLines (productId : Id) : List BOMComponent :=
  ((data.activeBill productId).map data.componentsOf).getD []

/-- Of every component nothing is available, or enough for all that is required of it, or one
line of one order requires it. -/
def NetsStockOnce : Prop :=
  ∀ place, SharedStock.NetsOnce (data.availableQty run place) (data.requiredQtys run place)

/-- Below `2 ^ 34` a binary64 number tells one value of four decimals from the next. -/
def HoldsDecimals : Prop :=
  ∀ place, ∀ required ∈ data.requiredQtys run place,
    |required| < 2 ^ 34 ∧ |data.availableQty run place| < 2 ^ 34

/-- The product that is rounded up is not rounded below a whole number before. -/
def RoundsUp (quantity : Decimal) (line : BOMComponent) : Prop :=
  storedQty quantity * line.quantity.value * (1 + line.scrapPercent.value / 100) ≤
    requiredQty quantity line

/-- The bills of the planned orders are for one piece or more, and their components have no
components of their own. -/
def ExplodesOneLevel : Prop :=
  ∀ o ∈ data.productionOrders run, ∀ bom ∈ data.bomOf run o.place.1,
    1 ≤ bom.baseQuantity.value ∧
      ∀ line ∈ data.componentsOf bom,
        data.billLines line.componentProductId = [] ∧ RoundsUp o.quantity line

/-! ### A plan is its production orders and their explosions -/

def explosionOf (o : OrderData) : MrpPlan :=
  match data.bomOf run o.place.1 with
  | none => {}
  | some bom => data.explode run bom o.place o.dueDate o.quantity

def lineRequirement (o : OrderData) (line : BOMComponent) : RequirementData :=
  data.componentRequirement run (line.componentProductId, o.place.2) o.dueDate
    (requiredQty o.quantity line) o.place.1

def lineOrders (o : OrderData) (line : BOMComponent) : List OrderData :=
  let net := data.componentNetReq run (line.componentProductId, o.place.2)
    (requiredQty o.quantity line)
  if 0 < net then
    [data.componentOrder run (line.componentProductId, o.place.2)
      (data.releaseDate run o.place o.dueDate) net]
  else []

theorem foldl_explodeComponent (place : Place) (bucket : Day) (quantity : Decimal)
    (lines : List BOMComponent) (plan : MrpPlan) :
    lines.foldl (fun plan line => plan ++ data.explodeComponent run place bucket quantity line) plan =
      plan ++
        { plannedOrders := lines.flatMap fun line =>
            (data.explodeComponent run place bucket quantity line).plannedOrders
          exceptions := lines.flatMap fun line =>
            (data.explodeComponent run place bucket quantity line).exceptions
          requirements := lines.flatMap fun line =>
            (data.explodeComponent run place bucket quantity line).requirements } := by
  induction lines generalizing plan with
  | nil =>
    change plan = MrpPlan.append plan {}
    simp [MrpPlan.append]
  | cons line lines ih =>
    rw [List.foldl_cons, ih]
    change MrpPlan.append (MrpPlan.append _ _) _ = MrpPlan.append _ _
    simp [MrpPlan.append]

theorem requirements_explosionOf (o : OrderData) :
    (data.explosionOf run o).requirements =
      (data.linesOf run o).map (data.lineRequirement run o) := by
  rw [explosionOf, linesOf]
  cases data.bomOf run o.place.1 with
  | none => rfl
  | some bom =>
    dsimp only
    rw [explode, foldl_explodeComponent, MrpPlan.requirements_append, Option.map_some,
      Option.getD_some, ← List.flatMap_singleton' (List.map _ _), List.flatMap_map]
    rfl

theorem plannedOrders_explosionOf (o : OrderData) :
    (data.explosionOf run o).plannedOrders =
      (data.linesOf run o).flatMap (data.lineOrders run o) := by
  rw [explosionOf, linesOf]
  cases data.bomOf run o.place.1 with
  | none => rfl
  | some bom =>
    dsimp only
    rw [explode, foldl_explodeComponent, MrpPlan.plannedOrders_append]
    rfl

/-- A production order of a product with a bill. -/
structure IsProduction (o : OrderData) : Prop where
  production : o.orderType = .production
  quantity_pos : 0 < o.quantity
  hasBom : ∃ bom, data.bomOf run o.place.1 = some bom

/-- The plan has the given production orders, each followed by its explosion. -/
structure Exploded (plan : MrpPlan) (orders : List OrderData) : Prop where
  isProduction : ∀ o ∈ orders, data.IsProduction run o
  plannedOrders : plan.plannedOrders =
    orders.flatMap fun o => o :: (data.explosionOf run o).plannedOrders
  requirements : plan.requirements.filter (fun r => r.parentProductId.isSome) =
    orders.flatMap fun o => (data.explosionOf run o).requirements

variable {data run}

theorem Exploded.append_exceptions {plan : MrpPlan} {orders : List OrderData}
    (h : data.Exploded run plan orders) (es : List ExceptionData) :
    data.Exploded run (plan ++ { exceptions := es }) orders := by
  refine ⟨h.isProduction, ?_, ?_⟩
  · rw [MrpPlan.plannedOrders_append, List.append_nil]
    exact h.plannedOrders
  · rw [MrpPlan.requirements_append, List.append_nil]
    exact h.requirements

theorem Exploded.append_own {plan : MrpPlan} {orders : List OrderData}
    (h : data.Exploded run plan orders) (place : Place) (onHand : Decimal) (bucket : Day) :
    data.Exploded run (plan ++ { requirements := [data.ownRequirement run place onHand bucket] })
      orders := by
  refine ⟨h.isProduction, ?_, ?_⟩
  · rw [MrpPlan.plannedOrders_append, List.append_nil]
    exact h.plannedOrders
  · rw [MrpPlan.requirements_append, List.filter_append, h.requirements]
    exact List.append_nil _

/-- The rows of an explosion all come from a bill. -/
theorem filter_requirements_explosionOf (o : OrderData) :
    (data.explosionOf run o).requirements.filter (fun r => r.parentProductId.isSome) =
      (data.explosionOf run o).requirements := by
  rw [List.filter_eq_self, requirements_explosionOf]
  intro r hr
  obtain ⟨line, -, rfl⟩ := List.mem_map.1 hr
  rfl

theorem Exploded.createOrder {state : PlanState} {orders : List OrderData}
    (h : data.Exploded run state.plan orders) {bom : BillOfMaterial} {place : Place}
    (hbom : data.bomOf run place.1 = some bom) (bucket : Day) {quantity : Decimal}
    (hquantity : 0 < quantity) :
    data.Exploded run (data.createOrder run bom place bucket quantity state).plan
      (orders ++ [data.productionOrder run place bucket quantity]) := by
  have hexplosion : data.explosionOf run (data.productionOrder run place bucket quantity) =
      data.explode run bom place bucket quantity := by
    rw [explosionOf, productionOrder]
    dsimp only
    rw [hbom]
  refine ⟨?_, ?_, ?_⟩
  · intro o ho
    rcases List.mem_append.1 ho with ho | ho
    · exact h.isProduction o ho
    · rw [List.mem_singleton.1 ho]
      exact ⟨rfl, hquantity, bom, hbom⟩
  · unfold MrpData.createOrder
    dsimp only
    rw [MrpPlan.plannedOrders_append, MrpPlan.plannedOrders_append, h.plannedOrders,
      List.flatMap_append, List.flatMap_singleton, hexplosion]
    exact List.append_assoc _ _ _
  · unfold MrpData.createOrder
    dsimp only
    rw [MrpPlan.requirements_append, MrpPlan.requirements_append, List.append_nil,
      List.filter_append, h.requirements, List.flatMap_append, List.flatMap_singleton,
      ← hexplosion, filter_requirements_explosionOf]

theorem Exploded.planBucket {state : PlanState × Decimal} {orders : List OrderData}
    (h : data.Exploded run state.1.plan orders) {bom : BillOfMaterial} {place : Place}
    (hbom : data.bomOf run place.1 = some bom) (bucket : Day) :
    ∃ orders', data.Exploded run (data.planBucket run bom place state bucket).1.plan orders' := by
  unfold MrpData.planBucket
  dsimp only
  have hwarned := h.append_exceptions (data.frozenExceptions run place state.2 bucket)
  by_cases hcreate : 0 < data.plannedOrderQty run place state.2 bucket ∧ ¬data.IsFrozen run bucket
  · rw [if_pos hcreate]
    exact ⟨_, (Exploded.createOrder hwarned hbom bucket hcreate.1).append_own _ _ _⟩
  · rw [if_neg hcreate]
    exact ⟨_, hwarned.append_own _ _ _⟩

theorem Exploded.planProduct {state : PlanState × ProjectedInventory} {orders : List OrderData}
    (h : data.Exploded run state.1.plan orders) (locationId productId : Id) :
    ∃ orders', data.Exploded run (data.planProduct run locationId state productId).1.plan
      orders' := by
  unfold MrpData.planProduct
  cases hbom : data.bomOf run productId with
  | none => exact ⟨orders, h⟩
  | some bom =>
    have hfold : ∀ (days : List Day) (s : PlanState × Decimal) (os : List OrderData),
        data.Exploded run s.1.plan os → ∃ os', data.Exploded run
          (days.foldl (data.planBucket run bom (productId, locationId)) s).1.plan os' := by
      intro days
      induction days with
      | nil => exact fun _ os hos => ⟨os, hos⟩
      | cons day days ih =>
        intro s os hos
        have hplace : data.bomOf run ((productId, locationId) : Place).1 = some bom := hbom
        obtain ⟨os', hos'⟩ := Exploded.planBucket hos hplace day
        exact ih _ _ hos'
    exact hfold _ (state.1, _) orders h

theorem exploded_calculateMRP : ∃ orders, data.Exploded run (data.calculateMRP run) orders := by
  have hproducts : ∀ (locationId : Id) (ids : List Id) (s : PlanState × ProjectedInventory)
      (os : List OrderData), data.Exploded run s.1.plan os →
        ∃ os', data.Exploded run (ids.foldl (data.planProduct run locationId) s).1.plan os' := by
    intro locationId ids
    induction ids with
    | nil => exact fun _ os hos => ⟨os, hos⟩
    | cons id ids ih =>
      intro s os hos
      obtain ⟨os', hos'⟩ := hos.planProduct locationId id
      exact ih _ _ hos'
  have hlocations : ∀ (ls : List Id) (s : PlanState) (os : List OrderData),
      data.Exploded run s.plan os →
        ∃ os', data.Exploded run (ls.foldl (data.planLocation run) s).plan os' := by
    intro ls
    induction ls with
    | nil => exact fun _ os hos => ⟨os, hos⟩
    | cons l ls ih =>
      intro s os hos
      obtain ⟨os', hos'⟩ := hproducts l (data.finishedGoodIds run)
        (s, data.initialInventory run l) os hos
      exact ih _ _ hos'
  exact hlocations _ {} [] ⟨fun _ ho => absurd ho List.not_mem_nil, rfl, rfl⟩

theorem filter_plannedOrders_explosionOf (o : OrderData) :
    (data.explosionOf run o).plannedOrders.filter (fun o => o.orderType = .production) = [] := by
  rw [List.filter_eq_nil_iff, plannedOrders_explosionOf]
  intro x hx
  obtain ⟨line, -, hx⟩ := List.mem_flatMap.1 hx
  unfold lineOrders at hx
  dsimp only at hx
  split_ifs at hx
  · rw [List.mem_singleton.1 hx]
    simp [componentOrder]
  · cases hx

theorem Exploded.eq_productionOrders {orders : List OrderData}
    (h : data.Exploded run (data.calculateMRP run) orders) : orders = data.productionOrders run := by
  rw [productionOrders, h.plannedOrders, List.filter_flatMap]
  have hone : ∀ o ∈ orders, (o :: (data.explosionOf run o).plannedOrders).filter
      (fun o => o.orderType = .production) = [o] := by
    intro o ho
    rw [List.filter_cons_of_pos (by simpa using (h.isProduction o ho).production),
      filter_plannedOrders_explosionOf]
  rw [List.flatMap_congr hone, List.flatMap_singleton']

theorem exploded_productionOrders :
    data.Exploded run (data.calculateMRP run) (data.productionOrders run) := by
  obtain ⟨orders, h⟩ : ∃ orders, data.Exploded run (data.calculateMRP run) orders :=
    exploded_calculateMRP
  exact h.eq_productionOrders ▸ h

/-! ### The requirements of a component -/

theorem filter_map_lineRequirement (o : OrderData) (place : Place) (lines : List BOMComponent) :
    (lines.map (data.lineRequirement run o)).filter (fun r => r.place = place) =
      if o.place.2 = place.2 then
        (lines.filter fun line => line.componentProductId = place.1).map (data.lineRequirement run o)
      else [] := by
  rw [List.filter_map]
  by_cases hlocation : o.place.2 = place.2
  · rw [if_pos hlocation]
    congr 1
    refine List.filter_congr fun line _ => ?_
    simp [lineRequirement, componentRequirement, Prod.ext_iff, hlocation]
  · rw [if_neg hlocation, List.map_eq_nil_iff, List.filter_eq_nil_iff]
    intro line _
    simp [lineRequirement, componentRequirement, Prod.ext_iff, hlocation]

theorem requirementsOf_eq (place : Place) :
    data.requirementsOf run place =
      ((data.productionOrders run).filter fun o => o.place.2 = place.2).flatMap fun o =>
        ((data.linesOf run o).filter fun line => line.componentProductId = place.1).map
          (data.lineRequirement run o) := by
  have hand : data.requirementsOf run place =
      ((data.calculateMRP run).requirements.filter fun r => r.parentProductId.isSome).filter
        fun r => r.place = place := by
    rw [requirementsOf, List.filter_filter]
    simp
  rw [hand, exploded_productionOrders.requirements, List.filter_flatMap]
  generalize data.productionOrders run = orders
  induction orders with
  | nil => rfl
  | cons o orders ih =>
    rw [List.flatMap_cons, ih, requirements_explosionOf, filter_map_lineRequirement]
    by_cases hlocation : o.place.2 = place.2
    · rw [if_pos hlocation, List.filter_cons_of_pos (by simpa using hlocation), List.flatMap_cons]
    · rw [if_neg hlocation, List.filter_cons_of_neg (by simpa using hlocation), List.nil_append]

/-! ### What the columns keep -/

theorem requiredQty_eq_intCast (quantity : Decimal) (line : BOMComponent) :
    ∃ z : ℤ, requiredQty quantity line = z := ⟨_, rfl⟩

theorem storedQty_requiredQty (quantity : Decimal) (line : BOMComponent) :
    storedQty (requiredQty quantity line) = requiredQty quantity line := by
  obtain ⟨z, hz⟩ := requiredQty_eq_intCast quantity line
  refine OnScale.roundToScale_eq ⟨z * 10 ^ 4, ?_⟩ ?_
  · rw [hz]
    push_cast
    rfl
  · rw [sub_self, abs_zero]
    norm_num

theorem storedQty_zero : storedQty 0 = 0 := roundToScale_zero 4

theorem storedQty_nonneg {quantity : Decimal} (h : 0 ≤ quantity) : 0 ≤ storedQty quantity :=
  roundToScale_nonneg h

theorem onScale_availableQty (place : Place) : OnScale 4 (data.availableQty run place) := by
  unfold availableQty
  cases lookup InventoryLevel.place (data.inventoryMap run) place with
  | none => exact OnScale.zero
  | some l => exact l.availableQty.onScale_value

theorem onScale_net (place : Place) (quantity : Decimal) (line : BOMComponent) :
    OnScale 4 (SharedStock.net (data.availableQty run place) (requiredQty quantity line)) := by
  obtain ⟨z, hz⟩ := requiredQty_eq_intCast quantity line
  have hrequired : OnScale 4 (requiredQty quantity line) :=
    ⟨z * 10 ^ 4, by rw [hz]; push_cast; rfl⟩
  rw [SharedStock.net]
  rcases max_choice 0 (requiredQty quantity line - data.availableQty run place) with h | h
  · rw [h]
    exact OnScale.zero
  · rw [h]
    exact hrequired.sub (onScale_availableQty place)

/-- The difference of binary64 numbers below `2 ^ 34` is as good as exact. -/
theorem abs_componentNetReq_sub_le {place : Place} {required : Decimal} (hrequired : |required| < 2 ^ 34)
    (havailable : |data.availableQty run place| < 2 ^ 34) :
    |data.componentNetReq run place required -
        SharedStock.net (data.availableQty run place) required| ≤ 1 / 2 ^ 17 := by
  have hnumber : |data.available run place - data.availableQty run place| ≤ 1 / 2 ^ 20 := by
    have h := Binary64.abs_round_sub_le (k := 34) havailable
    norm_num at h ⊢
    exact h
  have hdifference : |required - data.available run place| < 2 ^ 36 := by
    rw [abs_lt] at hrequired havailable ⊢
    rw [abs_le] at hnumber
    constructor <;> linarith
  have hrounded := Binary64.abs_round_sub_le (k := 36) hdifference
  rw [componentNetReq, SharedStock.net, Binary64.sub, max_comm 0, max_comm 0]
  refine (abs_max_sub_max_le_abs _ _ 0).trans ?_
  rw [abs_le] at hnumber hrounded ⊢
  norm_num at hnumber hrounded ⊢
  constructor <;> linarith

theorem storedQty_componentNetReq {place : Place} {quantity : Decimal} {line : BOMComponent}
    (hrequired : |requiredQty quantity line| < 2 ^ 34)
    (havailable : |data.availableQty run place| < 2 ^ 34) :
    storedQty (data.componentNetReq run place (requiredQty quantity line)) =
      SharedStock.net (data.availableQty run place) (requiredQty quantity line) := by
  refine (onScale_net place quantity line).roundToScale_eq ?_
  refine (abs_componentNetReq_sub_le hrequired havailable).trans_lt ?_
  norm_num

variable (data run) in
theorem multipleOrderQty_lt (place : Place) : data.multipleOrderQty run place < 2 ^ 60 := by
  have hnumber (q : Inventory.Qty) : toNumber q < 2 ^ 60 := by
    have hvalue := q.abs_value_mul_lt
    have hmoved := abs_le.1 (Binary64.abs_round_sub_le_mul q.value)
    have hle := le_abs_self q.value
    rw [toNumber, Decimal.toDouble]
    norm_num at hvalue hmoved ⊢
    linarith
  unfold multipleOrderQty orDefault
  cases (data.policy run place).bind InventoryPolicy.multipleOrderQty with
  | none => norm_num
  | some q =>
    dsimp only [Option.map_some]
    split_ifs
    · norm_num
    · exact hnumber q

/-- A lot is hardly smaller than what it is for. -/
theorem sub_le_lotSize (minOrderQty : Decimal) {multipleOrderQty net : Decimal} (hnet : 0 ≤ net)
    (hlt : net < 2 ^ 36) (hmultiple : multipleOrderQty < 2 ^ 60) :
    net - 1 / 2 ^ 16 - 1 / 2 ^ 100 ≤ lotSize minOrderQty multipleOrderQty net := by
  unfold lotSize
  have hmax : net ≤ max net minOrderQty := le_max_left _ _
  dsimp only
  generalize max net minOrderQty = qty at hmax
  split_ifs with hone
  · have hqty : 0 ≤ qty := hnet.trans hmax
    have hpos : (0 : Decimal) < multipleOrderQty := by linarith
    have hquotient := (abs_le.1 (Binary64.abs_round_sub_le_mul (qty / multipleOrderQty))).1
    rw [abs_of_nonneg (div_nonneg hqty hpos.le), ← Binary64.div] at hquotient
    have hceil := Int.le_ceil (Binary64.div qty multipleOrderQty)
    have hlots : qty - qty / 2 ^ 53 - multipleOrderQty / 2 ^ 200 ≤
        ⌈Binary64.div qty multipleOrderQty⌉ * multipleOrderQty := by
      have hle : qty / multipleOrderQty - qty / multipleOrderQty / 2 ^ 53 - 1 / 2 ^ 200 ≤
          ⌈Binary64.div qty multipleOrderQty⌉ := by linarith
      have hmul := mul_le_mul_of_nonneg_right hle hpos.le
      have hexact : (qty / multipleOrderQty - qty / multipleOrderQty / 2 ^ 53 - 1 / 2 ^ 200) *
          multipleOrderQty = qty - qty / 2 ^ 53 - multipleOrderQty / 2 ^ 200 := by
        field_simp
      rwa [hexact] at hmul
    have hnonneg : (0 : Decimal) ≤ ⌈Binary64.div qty multipleOrderQty⌉ * multipleOrderQty :=
      mul_nonneg (Int.cast_nonneg (Int.ceil_nonneg
        (Binary64.round_nonneg (div_nonneg hqty hpos.le)))) hpos.le
    have hproduct := (abs_le.1 (Binary64.abs_round_sub_le_mul
      (⌈Binary64.div qty multipleOrderQty⌉ * multipleOrderQty))).1
    rw [abs_of_nonneg hnonneg, ← Binary64.mul] at hproduct
    norm_num at hlots hproduct hlt hmultiple ⊢
    linarith
  · have hhundred : (0 : ℚ) ≤ 1 / 2 ^ 100 := by positivity
    linarith

theorem requiredQty_mem_requiredQtys {o : OrderData} {line : BOMComponent} {place : Place}
    (ho : o ∈ data.productionOrders run) (hline : line ∈ data.linesOf run o)
    (hplace : (line.componentProductId, o.place.2) = place) :
    requiredQty o.quantity line ∈ data.requiredQtys run place := by
  subst hplace
  exact List.mem_flatMap.2 ⟨o, List.mem_filter.2 ⟨ho, by simp⟩,
    List.mem_map.2 ⟨line, List.mem_filter.2 ⟨hline, by simp⟩, rfl⟩⟩

/-- Each row nets the whole available stock. -/
theorem map_nettedQty_requirementsOf (h : data.HoldsDecimals run) (place : Place) :
    (data.requirementsOf run place).map nettedQty =
      (data.requiredQtys run place).map (SharedStock.taken (data.availableQty run place)) := by
  rw [requirementsOf_eq, requiredQtys, List.map_flatMap, List.map_flatMap]
  refine List.flatMap_congr fun o ho => ?_
  obtain ⟨ho, hlocation⟩ := List.mem_filter.1 ho
  rw [List.map_map, List.map_map]
  refine List.map_congr_left fun line hline => ?_
  obtain ⟨hline, hproduct⟩ := List.mem_filter.1 hline
  have hplace : (line.componentProductId, o.place.2) = place :=
    Prod.ext (by simpa using hproduct) (by simpa using hlocation)
  obtain ⟨hrequired, havailable⟩ := h place _ (requiredQty_mem_requiredQtys ho hline hplace)
  simp only [Function.comp_apply, nettedQty, lineRequirement, componentRequirement, hplace,
    storedQty_requiredQty, storedQty_componentNetReq hrequired havailable, SharedStock.taken]

theorem netsStockOnce_iff (h : data.HoldsDecimals run) :
    (∀ place, ((data.requirementsOf run place).map nettedQty).sum ≤
        max 0 (data.availableQty run place)) ↔ data.NetsStockOnce run := by
  refine forall_congr' fun place => ?_
  rw [map_nettedQty_requirementsOf h]
  exact SharedStock.sum_taken_le_iff

/-! ### What is planned for a component -/

theorem sum_flatMap_le {α : Type} {f g : α → List Decimal} {xs : List α}
    (h : ∀ x ∈ xs, (f x).sum ≤ (g x).sum) : (xs.flatMap f).sum ≤ (xs.flatMap g).sum := by
  induction xs with
  | nil => exact le_rfl
  | cons x xs ih =>
    rw [List.flatMap_cons, List.flatMap_cons, List.sum_append, List.sum_append]
    exact add_le_add (h x List.mem_cons_self) (ih fun y hy => h y (List.mem_cons_of_mem x hy))

theorem sum_flatMap_filter_le {α : Type} {p : α → Bool} {f g : α → List Decimal} {xs : List α}
    (h : ∀ x ∈ xs, p x → (f x).sum ≤ (g x).sum) (hg : ∀ x ∈ xs, 0 ≤ (g x).sum) :
    ((xs.filter p).flatMap f).sum ≤ (xs.flatMap g).sum := by
  induction xs with
  | nil => exact le_rfl
  | cons x xs ih =>
    have hrest := ih (fun y hy => h y (List.mem_cons_of_mem x hy))
      fun y hy => hg y (List.mem_cons_of_mem x hy)
    rw [List.flatMap_cons, List.sum_append]
    by_cases hx : p x
    · rw [List.filter_cons_of_pos hx, List.flatMap_cons, List.sum_append]
      exact add_le_add (h x List.mem_cons_self hx) hrest
    · rw [List.filter_cons_of_neg hx]
      exact hrest.trans (le_add_of_nonneg_left (hg x List.mem_cons_self))

theorem lineOrders_quantity_nonneg {o x : OrderData} {line : BOMComponent}
    (hx : x ∈ data.lineOrders run o line) : 0 ≤ x.quantity := by
  unfold lineOrders at hx
  dsimp only at hx
  split_ifs at hx with hnet
  · rw [List.mem_singleton.1 hx]
    exact lotSize_nonneg hnet.le
  · cases hx

theorem sum_storedAt_nonneg {orders : List OrderData} (h : ∀ x ∈ orders, 0 ≤ x.quantity)
    (place : Place) : 0 ≤ (storedAt orders place).sum := by
  refine List.sum_nonneg fun q hq => ?_
  obtain ⟨x, hx, rfl⟩ := List.mem_map.1 hq
  exact storedQty_nonneg (h x (List.mem_filter.1 hx).1)

theorem net_le_lineOrders (o : OrderData) {line : BOMComponent} {place : Place}
    (hplace : (line.componentProductId, o.place.2) = place)
    (hrequired : |requiredQty o.quantity line| < 2 ^ 34)
    (havailable : |data.availableQty run place| < 2 ^ 34) :
    SharedStock.net (data.availableQty run place) (requiredQty o.quantity line) ≤
      (storedAt (data.lineOrders run o line) place).sum := by
  have hkept := storedQty_componentNetReq hrequired havailable
  unfold lineOrders
  dsimp only
  rw [hplace]
  split_ifs with hnet
  · rw [storedAt, List.filter_cons_of_pos (by simp [componentOrder]), List.filter_nil,
      List.map_singleton, List.sum_singleton]
    refine (onScale_net place o.quantity line).le_roundToScale ?_
    have hnear := abs_le.1 (abs_componentNetReq_sub_le hrequired havailable)
    have hexact : SharedStock.net (data.availableQty run place) (requiredQty o.quantity line) <
        2 ^ 35 := by
      rw [abs_lt] at hrequired havailable
      refine max_lt (by positivity) ?_
      linarith
    have hlot := sub_le_lotSize (data.minOrderQty run place) hnet.le
      (by norm_num at hnear hexact ⊢; linarith) (multipleOrderQty_lt data run place)
    change _ < lotSize _ _ _
    norm_num at hlot hnear ⊢
    linarith
  · have hzero : data.componentNetReq run place (requiredQty o.quantity line) = 0 :=
      le_antisymm (not_lt.1 hnet) (le_max_left _ _)
    rw [← hkept, hzero, storedQty_zero]
    exact le_rfl

theorem sum_net_le_explosionOf (h : data.HoldsDecimals run) {o : OrderData}
    (ho : o ∈ data.productionOrders run) {place : Place} (hlocation : o.place.2 = place.2) :
    ((((data.linesOf run o).filter fun line => line.componentProductId = place.1).map
        (requiredQty o.quantity)).map (SharedStock.net (data.availableQty run place))).sum ≤
      (storedAt (data.explosionOf run o).plannedOrders place).sum := by
  rw [plannedOrders_explosionOf, storedAt, List.filter_flatMap, List.map_flatMap]
  have hsingle : (((data.linesOf run o).filter fun line => line.componentProductId = place.1).map
      (requiredQty o.quantity)).map (SharedStock.net (data.availableQty run place)) =
        ((data.linesOf run o).filter fun line => line.componentProductId = place.1).flatMap
          fun line => [SharedStock.net (data.availableQty run place) (requiredQty o.quantity line)] := by
    rw [List.map_map, ← List.flatMap_singleton' (List.map _ _), List.flatMap_map]
    rfl
  rw [hsingle]
  refine sum_flatMap_filter_le ?_ ?_
  · intro line hmem hline
    have hplace : (line.componentProductId, o.place.2) = place :=
      Prod.ext (by simpa using hline) hlocation
    obtain ⟨hrequired, havailable⟩ := h place _ (requiredQty_mem_requiredQtys ho hmem hplace)
    rw [List.sum_singleton]
    exact net_le_lineOrders o hplace hrequired havailable
  · intro line _
    exact sum_storedAt_nonneg (fun x hx => lineOrders_quantity_nonneg hx) place

theorem explosionOf_quantity_nonneg {o x : OrderData}
    (hx : x ∈ (data.explosionOf run o).plannedOrders) : 0 ≤ x.quantity := by
  rw [plannedOrders_explosionOf] at hx
  obtain ⟨line, -, hx⟩ := List.mem_flatMap.1 hx
  exact lineOrders_quantity_nonneg hx

/-- A run plans its production orders, each followed by the purchase orders for its own lines, and
every requirement of a component is one line of one production order. Nothing is planned for a
negative quantity. -/
theorem calculateMRP_eq_explosions :
    (data.calculateMRP run).plannedOrders = (data.productionOrders run).flatMap (fun o =>
        o :: (data.linesOf run o).flatMap (data.lineOrders run o)) ∧
      (data.calculateMRP run).requirements.filter (fun r => r.parentProductId.isSome) =
        (data.productionOrders run).flatMap (fun o =>
          (data.linesOf run o).map (data.lineRequirement run o)) ∧
      ∀ o ∈ (data.calculateMRP run).plannedOrders, 0 ≤ o.quantity := by
  have h : data.Exploded run (data.calculateMRP run) (data.productionOrders run) :=
    exploded_productionOrders
  refine ⟨?_, ?_, fun x hx => ?_⟩
  · simp only [h.plannedOrders, plannedOrders_explosionOf]
  · simp only [h.requirements, requirements_explosionOf]
  · rw [h.plannedOrders] at hx
    obtain ⟨o, ho, hx⟩ := List.mem_flatMap.1 hx
    rcases List.mem_cons.1 hx with rfl | hx
    · exact (h.isProduction x ho).quantity_pos.le
    · exact explosionOf_quantity_nonneg hx

/-- What is planned for a component covers what all requirements lack. -/
theorem sum_net_le_orderedFor (h : data.HoldsDecimals run) (place : Place) :
    ((data.requiredQtys run place).map (SharedStock.net (data.availableQty run place))).sum ≤
      data.orderedFor run place := by
  have hproduction : data.Exploded run (data.calculateMRP run) (data.productionOrders run) :=
    exploded_productionOrders
  rw [requiredQtys, orderedFor, hproduction.plannedOrders, storedAt, List.map_flatMap,
    List.filter_flatMap, List.map_flatMap]
  have hhead : ∀ o ∈ data.productionOrders run,
      (storedAt (data.explosionOf run o).plannedOrders place).sum ≤
        (storedAt (o :: (data.explosionOf run o).plannedOrders) place).sum := by
    intro o ho
    by_cases hplace : o.place = place
    · rw [storedAt, storedAt, List.filter_cons_of_pos (by simpa using hplace), List.map_cons,
        List.sum_cons]
      exact le_add_of_nonneg_left (storedQty_nonneg (hproduction.isProduction o ho).quantity_pos.le)
    · rw [storedAt, storedAt, List.filter_cons_of_neg (by simpa using hplace)]
  refine sum_flatMap_filter_le ?_ ?_
  · intro o ho hlocation
    exact (sum_net_le_explosionOf h ho (by simpa using hlocation)).trans (hhead o ho)
  · intro o ho
    exact (sum_storedAt_nonneg (fun x hx => explosionOf_quantity_nonneg hx) place).trans (hhead o ho)

theorem receipt_quantity_nonneg {r : Receipt} (hr : r ∈ data.receipts run) : 0 ≤ r.quantity := by
  rcases List.mem_append.1 hr with hr | hr
  · obtain ⟨po, -, hr⟩ := List.mem_flatMap.1 hr
    obtain ⟨line, -, hline⟩ := List.mem_filterMap.1 hr
    dsimp only at hline
    split_ifs at hline with hpos
    cases hline
    exact hpos.le
  · obtain ⟨wo, -, hwo⟩ := List.mem_filterMap.1 hr
    dsimp only at hwo
    split_ifs at hwo with hpos
    cases hwo
    exact hpos.le

theorem receiptsOf_nonneg (place : Place) : 0 ≤ data.receiptsOf run place := by
  refine List.sum_nonneg fun q hq => ?_
  obtain ⟨r, hr, rfl⟩ := List.mem_map.1 hq
  exact storedQty_nonneg (receipt_quantity_nonneg (List.mem_filter.1 hr).1)

/-! ### Dependent demand of one level -/

theorem dependentDemand_of_billLines_nil {productId : Id} (h : data.billLines productId = [])
    (component : Id) (levels : ℕ) (quantity : Decimal) :
    data.dependentDemand component levels productId quantity = 0 := by
  cases levels with
  | zero => rfl
  | succ levels =>
    rw [billLines] at h
    rw [dependentDemand]
    cases hbill : data.activeBill productId with
    | none => rfl
    | some bom =>
      rw [hbill, Option.map_some, Option.getD_some] at h
      dsimp only
      rw [h]
      rfl

theorem activeBill_of_bomOf {productId : Id} {bom : BillOfMaterial}
    (h : data.bomOf run productId = some bom) : data.activeBill productId = some bom := by
  have hproduct : run.productIds = [] ∨ productId ∈ run.productIds := by
    obtain ⟨hmem, hkey⟩ := lastWith_eq_some h
    have hactive := (List.mem_filter.1 hmem).2
    rw [decide_eq_true_eq] at hactive
    rw [← hkey]
    exact hactive.2
  rw [← h, activeBill, bomOf, lastWith, lastWith, activeBoms, ← List.filter_reverse,
    ← List.filter_reverse, lookup, lookup, List.find?_filter, List.find?_filter]
  congr 1
  funext b
  by_cases hb : b.parentProductId = productId
  · simp [hb, hproduct]
  · simp [hb]

theorem lineDemand_le {bom : BillOfMaterial} (hbase : 1 ≤ bom.baseQuantity.value)
    {line : BOMComponent} {quantity : Decimal} (hline : RoundsUp quantity line) :
    lineDemand bom line (storedQty quantity) ≤ max 0 (requiredQty quantity line) := by
  have hexact : lineDemand bom line (storedQty quantity) =
      storedQty quantity * line.quantity.value * (1 + line.scrapPercent.value / 100) /
        bom.baseQuantity.value := by
    rw [lineDemand]
    ring
  rw [hexact]
  rcases le_total 0 (storedQty quantity * line.quantity.value * (1 + line.scrapPercent.value / 100))
    with hpos | hneg
  · exact (div_le_self hpos hbase).trans (hline.trans (le_max_right _ _))
  · exact (div_nonpos_of_nonpos_of_nonneg hneg (by linarith)).trans (le_max_left _ _)

theorem dependentDemand_le {o : OrderData} {bom : BillOfMaterial}
    (hbom : data.bomOf run o.place.1 = some bom) (hbase : 1 ≤ bom.baseQuantity.value)
    (hlines : ∀ line ∈ data.componentsOf bom,
      data.billLines line.componentProductId = [] ∧ RoundsUp o.quantity line)
    (component : Id) (levels : ℕ) :
    data.dependentDemand component levels o.place.1 (storedQty o.quantity) ≤
      ((((data.linesOf run o).filter fun line => line.componentProductId = component).map
        (requiredQty o.quantity)).map (max 0)).sum := by
  rw [linesOf, hbom, Option.map_some, Option.getD_some]
  cases levels with
  | zero =>
    refine List.sum_nonneg fun q hq => ?_
    obtain ⟨r, -, rfl⟩ := List.mem_map.1 hq
    exact le_max_left _ _
  | succ levels =>
    rw [dependentDemand, activeBill_of_bomOf hbom]
    dsimp only
    revert hlines
    generalize data.componentsOf bom = lines
    intro hlines
    induction lines with
    | nil => exact le_rfl
    | cons line lines ih =>
      have hrest := ih fun l hl => hlines l (List.mem_cons_of_mem line hl)
      rw [List.map_cons, List.sum_cons,
        dependentDemand_of_billLines_nil (hlines line List.mem_cons_self).1, add_zero]
      by_cases hcomponent : line.componentProductId = component
      · rw [if_pos hcomponent, List.filter_cons_of_pos (by simpa using hcomponent), List.map_cons,
          List.map_cons, List.sum_cons]
        exact add_le_add (lineDemand_le hbase (hlines line List.mem_cons_self).2) hrest
      · rw [if_neg hcomponent, zero_add, List.filter_cons_of_neg (by simpa using hcomponent)]
        exact hrest

theorem totalDemand_le (h : data.ExplodesOneLevel run) (levels : ℕ) (place : Place) :
    data.totalDemand run levels place ≤ ((data.requiredQtys run place).map (max 0)).sum := by
  rw [totalDemand, requiredQtys, List.map_flatMap, ← List.flatMap_singleton' (List.map _ _),
    List.flatMap_map]
  refine sum_flatMap_le fun o ho => ?_
  have hmem := (List.mem_filter.1 ho).1
  obtain ⟨bom, hbom⟩ := (exploded_productionOrders.isProduction o hmem).hasBom
  obtain ⟨hbase, hlines⟩ := h o hmem bom hbom
  rw [List.sum_singleton]
  exact dependentDemand_le hbom hbase hlines place.1 levels

/-- As far as its numbers hold four decimals, a run that keeps the law nets the stock of every
component once; when it does and its bills have one level, it keeps the law. -/
theorem explosionLaw_of_netsStockOnce (data : MrpData) (run : MRPRun) :
    (data.HoldsDecimals run ∧ data.ExplosionLaw run → data.NetsStockOnce run) ∧
      (data.HoldsDecimals run ∧ data.NetsStockOnce run ∧ data.ExplodesOneLevel run →
        data.ExplosionLaw run) := by
  constructor
  · rintro ⟨hdecimals, hlaw⟩
    exact (netsStockOnce_iff hdecimals).1 hlaw.netsOnce
  · rintro ⟨hdecimals, honce, hlevel⟩
    refine ⟨fun levels place => ?_, (netsStockOnce_iff hdecimals).2 honce⟩
    calc data.totalDemand run levels place
        ≤ ((data.requiredQtys run place).map (max 0)).sum := totalDemand_le hlevel levels place
      _ ≤ max 0 (data.availableQty run place +
            ((data.requiredQtys run place).map
              (SharedStock.net (data.availableQty run place))).sum) :=
          SharedStock.sum_pos_le_of_netsOnce (honce place)
      _ ≤ max 0 (data.supply run place) := by
          have hordered : ((data.requiredQtys run place).map
              (SharedStock.net (data.availableQty run place))).sum ≤ data.orderedFor run place :=
            sum_net_le_orderedFor hdecimals place
          have hreceipts : 0 ≤ data.receiptsOf run place := receiptsOf_nonneg place
          rw [supply]
          exact max_le_max le_rfl (by linarith)

end MrpData

/-! ### Two weeks that use the same stock -/

def twoWeeksRun : MRPRun where
  id := 1
  planningHorizonDays := 14

/-- A product of one component, ten pieces of the component, and ten pieces of demand in each
of two weeks. -/
def twoWeeks : MrpData where
  today := 0
  locations := [{ id := 1 }]
  boms := [{ id := 1, parentProductId := 1, version := "1.0", status := .active
             baseQuantity := Manufacturing.pieces 1 }]
  bomComponents := [{ id := 1, bomId := 1, componentProductId := 2
                      quantity := (Column.store 1).getD .zero, scrapPercent := .zero }]
  forecasts :=
    [{ productId := some 1, locationId := some 1, periodDate := 7
       forecastQuantity := some (Manufacturing.pieces 10) },
     { productId := some 1, locationId := some 1, periodDate := 14
       forecastQuantity := some (Manufacturing.pieces 10) }]
  inventoryLevels := [{ place := (2, 1), availableQty := Manufacturing.pieces 10 }]

/-- Twenty pieces are needed of the component, ten are there and none is ordered. -/
theorem not_explosionLaw_twoWeeks : ¬twoWeeks.ExplosionLaw twoWeeksRun := by
  intro h
  have hcovers := h.covers 1 (2, 1)
  revert hcovers
  decide +kernel

end Forecast.Mrp
