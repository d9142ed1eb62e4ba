import Forecast.Lib.Netting
import Forecast.Manufacturing.StockEffects
import Forecast.Mrp.Calculation

/-!
# Projected balances

For a finished good and a location the stored rows should be those of one recurrence: what
is available, and then week after week the receipts that are due, the orders that the run
created and the forecasts, in the binary64 numbers of the run. Outside the frozen period
the balance should stay at the safety stock.
-/

open KeyedTable DecimalColumn

namespace Forecast.Mrp

open Costing (Day)
open Planning (BillOfMaterial BOMComponent)

theorem uuid_injective {a b : Id} (h : uuid a = uuid b) : a = b :=
  Costing.uuidText_injective ((String.append_left_inj _).1 h)

/-! ### The part of a plan that nets one place -/

namespace MrpPlan

theorem append_nil (a : MrpPlan) : a ++ ({} : MrpPlan) = a := by
  change append a {} = a
  simp [append]

theorem nil_append (a : MrpPlan) : ({} : MrpPlan) ++ a = a := rfl

theorem append_assoc (a b c : MrpPlan) : a ++ b ++ c = a ++ (b ++ c) := by
  change append (append a b) c = append a (append b c)
  simp [append]

/-- The orders and the rows of a place that do not come from another product's bill. -/
def netted (plan : MrpPlan) (place : Place) : MrpPlan where
  plannedOrders := plan.plannedOrders.filter fun o => o.place = place ∧ o.orderType = .production
  requirements := plan.requirements.filter fun r => r.place = place ∧ r.parentProductId = none

theorem netted_append (a b : MrpPlan) (place : Place) :
    (a ++ b).netted place = a.netted place ++ b.netted place := by
  change netted (append a b) place = append (netted a place) (netted b place)
  simp [netted, append, List.filter_append]

@[simp] theorem netted_exceptions (es : List ExceptionData) (place : Place) :
    ({ exceptions := es } : MrpPlan).netted place = {} := rfl

def createdOn (plan : MrpPlan) (day : Day) : Decimal :=
  ((plan.plannedOrders.filter fun o => o.dueDate = day).map OrderData.quantity).sum

theorem createdOn_append (a b : MrpPlan) (day : Day) :
    (a ++ b).createdOn day = a.createdOn day + b.createdOn day := by
  simp [createdOn, List.filter_append]

end MrpPlan

namespace MrpData

variable (data : MrpData) (run : MRPRun)

def receiptsDue (place : Place) (bucket : Day) : Decimal :=
  Binary64.sum (((data.receipts run).filter fun r =>
    r.place = place ∧ bucket ≤ r.date ∧ r.date < bucket + 7).map Receipt.quantity)

def problem (place : Place) : Netting.Problem Day Decimal where
  add := Binary64.add
  sub := Binary64.sub
  safety := data.safetyStock run place
  lot := lotSize (data.minOrderQty run place) (data.multipleOrderQty run place)
  counted := fun day => data.scheduledReceipts run place (weekStart day)
  due := data.receiptsDue run place
  demand := data.grossRequirement run place
  frozen := fun day => data.IsFrozen run day

def balances (place : Place) : List (Netting.Entry Day Decimal) :=
  (data.problem run place).recurrence ((data.calculateMRP run).netted place).createdOn
    (data.available run place) (data.buckets run)

def nettedRow (r : RequirementData) : Day × Decimal × Decimal :=
  (r.periodDate, r.projectedOnHand, r.netRequirement)

/-- The stored rows are those of the recurrence, whose balance keeps the safety stock. -/
def NettingLaw : Prop :=
  ∀ productId ∈ data.finishedGoodIds run, ∀ locationId ∈ data.locationIds run,
    (((data.calculateMRP run).netted (productId, locationId)).requirements.map nettedRow =
        (data.balances run (productId, locationId)).map Netting.Entry.row) ∧
      ∀ b ∈ data.balances run (productId, locationId), ¬data.IsFrozen run b.period →
        data.safetyStock run (productId, locationId) ≤ b.closing

/-- A place is planned once. -/
def PlansOnce (place : Place) : Prop :=
  (data.finishedGoodIds run).count place.1 = 1 ∧ (data.locationIds run).count place.2 = 1

/-- Every place is planned once and starts with nothing. Until its last week the receipts of
the calendar weeks are those that are due in the weeks of the run, and no frozen week is
short; the last week is as short with the one as with the other. Where a week is not frozen,
rounding its shortage does not take it below the safety stock. -/
def NetsFaithfully : Prop :=
  ∀ productId ∈ data.finishedGoodIds run, ∀ locationId ∈ data.locationIds run,
    data.buckets run = [] ∨
      data.PlansOnce run (productId, locationId) ∧
      data.available run (productId, locationId) = 0 ∧
      (data.problem run (productId, locationId)).Faithful 0 (data.buckets run)

instance (place : Place) : Decidable (data.PlansOnce run place) :=
  inferInstanceAs (Decidable (_ ∧ _))

instance : Decidable (data.NetsFaithfully run) :=
  inferInstanceAs (Decidable (∀ productId ∈ data.finishedGoodIds run, ∀ locationId ∈
    data.locationIds run, _ ∨ _ ∧ _ ∧ _))

/-! ### What one bucket nets -/

/-- The netting of a place over some weeks. -/
def passPlan (place : Place) : Decimal → List Day → MrpPlan
  | _, [] => {}
  | onHand, day :: days =>
    { plannedOrders :=
        if 0 < data.plannedOrderQty run place onHand day ∧ ¬data.IsFrozen run day then
          [data.productionOrder run place day (data.plannedOrderQty run place onHand day)]
        else []
      requirements := [data.ownRequirement run place onHand day] } ++
    passPlan place (data.nextOnHand run place onHand day) days

theorem netted_explodeComponent (parent place : Place) (bucket : Day) (quantity : Decimal)
    (component : BOMComponent) :
    (data.explodeComponent run parent bucket quantity component).netted place = {} := by
  unfold MrpPlan.netted explodeComponent
  dsimp only
  congr 1
  · rw [List.filter_eq_nil_iff]
    intro o ho
    split_ifs at ho
    · rw [List.mem_singleton.1 ho]
      simp [componentOrder]
    · cases ho
  · simp [componentRequirement]

theorem netted_explode (bom : BillOfMaterial) (parent place : Place) (bucket : Day)
    (quantity : Decimal) : (data.explode run bom parent bucket quantity).netted place = {} := by
  have hfold : ∀ (cs : List BOMComponent) (plan : MrpPlan), (cs.foldl (fun plan component =>
      plan ++ data.explodeComponent run parent bucket quantity component) plan).netted place =
        plan.netted place := by
    intro cs
    induction cs with
    | nil => exact fun _ => rfl
    | cons c cs ih =>
      intro plan
      rw [List.foldl_cons, ih, MrpPlan.netted_append, netted_explodeComponent, MrpPlan.append_nil]
  exact hfold _ {}

theorem netted_planBucket (bom : BillOfMaterial) (place place' : Place)
    (state : PlanState × Decimal) (bucket : Day) :
    (data.planBucket run bom place state bucket).1.plan.netted place' =
      state.1.plan.netted place' ++
        if place = place' then data.passPlan run place state.2 [bucket] else {} := by
  unfold planBucket createOrder
  dsimp only
  by_cases hcreate : 0 < data.plannedOrderQty run place state.2 bucket ∧ ¬data.IsFrozen run bucket
  · rw [if_pos hcreate]
    simp only [MrpPlan.netted_append, MrpPlan.netted_exceptions, netted_explode,
      MrpPlan.nil_append, MrpPlan.append_assoc]
    congr 1
    rw [← MrpPlan.netted_append]
    by_cases hplace : place = place'
    · rw [if_pos hplace, passPlan, passPlan, if_pos hcreate, MrpPlan.append_nil]
      simp [MrpPlan.netted, productionOrder, ownRequirement, hplace]
    · rw [if_neg hplace]
      simp [MrpPlan.netted, productionOrder, ownRequirement, hplace]
  · rw [if_neg hcreate]
    simp only [MrpPlan.netted_append, MrpPlan.netted_exceptions, MrpPlan.append_nil]
    congr 1
    by_cases hplace : place = place'
    · rw [if_pos hplace, passPlan, passPlan, if_neg hcreate, MrpPlan.append_nil]
      simp [MrpPlan.netted, ownRequirement, hplace]
    · rw [if_neg hplace]
      simp [MrpPlan.netted, ownRequirement, hplace]

theorem passPlan_cons (place : Place) (onHand : Decimal) (day : Day) (days : List Day) :
    data.passPlan run place onHand (day :: days) =
      data.passPlan run place onHand [day] ++
        data.passPlan run place (data.nextOnHand run place onHand day) days := by
  simp only [passPlan, MrpPlan.append_nil]

theorem netted_foldl_planBucket (bom : BillOfMaterial) (place place' : Place) (days : List Day)
    (state : PlanState × Decimal) :
    (days.foldl (data.planBucket run bom place) state).1.plan.netted place' =
      state.1.plan.netted place' ++
        if place = place' then data.passPlan run place state.2 days else {} := by
  induction days generalizing state with
  | nil =>
    rw [passPlan, ite_self, MrpPlan.append_nil]
    rfl
  | cons day days ih =>
    rw [List.foldl_cons, ih, netted_planBucket, MrpPlan.append_assoc]
    congr 1
    by_cases hplace : place = place'
    · rw [if_pos hplace, if_pos hplace, if_pos hplace, passPlan_cons data run place state.2 day days]
      rfl
    · rw [if_neg hplace, if_neg hplace, if_neg hplace, MrpPlan.append_nil]

theorem length_passPlan (place : Place) (onHand : Decimal) (days : List Day) :
    (data.passPlan run place onHand days).requirements.length = days.length := by
  induction days generalizing onHand with
  | nil => rfl
  | cons day days ih =>
    rw [passPlan, MrpPlan.requirements_append, List.length_append, ih, List.length_singleton,
      List.length_cons, Nat.add_comm]

/-! ### What is projected at first -/

theorem dash_mem_uuid (id : Id) : '-' ∈ (uuid id).toList := by
  rw [uuid, String.toList_append]
  exact List.mem_append_right _ (by decide)

theorem not_mem_headD_splitChars (sep : Char) (cs : List Char) :
    sep ∉ (JsText.splitChars sep cs).headD [] := by
  induction cs with
  | nil => exact List.not_mem_nil
  | cons c cs ih =>
    rw [JsText.splitChars]
    by_cases hc : c = sep
    · rw [if_pos hc]
      exact List.not_mem_nil
    · rw [if_neg hc]
      cases hparts : JsText.splitChars sep cs with
      | nil =>
        rintro (_ | ⟨_, hmem⟩)
        · exact hc rfl
        · cases hmem
      | cons part parts =>
        rw [hparts] at ih
        rintro (_ | ⟨_, hmem⟩)
        · exact hc rfl
        · exact ih hmem

theorem productPart_ne_uuid (key : String) (id : Id) : productPart key ≠ uuid id := by
  intro h
  have hdash := dash_mem_uuid id
  rw [← h, productPart, String.toList_ofList] at hdash
  exact not_mem_headD_splitChars '-' key.toList hdash

theorem projectedFor_upsert_of_ne (projected : ProjectedInventory) (productId : Id)
    {entry : String × Decimal} (h : entry.1 ≠ uuid productId) :
    projectedFor (upsert Prod.fst projected entry) productId = projectedFor projected productId := by
  rw [projectedFor, projectedFor, lookup_upsert, if_neg h]

/-- No product finds its stock. -/
theorem projectedFor_initialInventory (locationId productId : Id) :
    projectedFor (data.initialInventory run locationId) productId = 0 := by
  have hfold : ∀ (levels : List InventoryLevel) (projected : ProjectedInventory),
      projectedFor (levels.foldl (fun projected l => upsert Prod.fst projected
        (productPart (placeText l.place), toNumber l.availableQty)) projected) productId =
          projectedFor projected productId := by
    intro levels
    induction levels with
    | nil => exact fun _ => rfl
    | cons l levels ih =>
      intro projected
      rw [List.foldl_cons, ih, projectedFor_upsert_of_ne]
      exact productPart_ne_uuid _ _
  exact hfold _ []

/-! ### The loops over products and locations -/

theorem bomOf_isSome {productId : Id} (h : productId ∈ data.finishedGoodIds run) :
    ∃ bom, data.bomOf run productId = some bom := by
  cases hbom : data.bomOf run productId with
  | none => exact absurd h (lastWith_eq_none.1 hbom)
  | some bom => exact ⟨bom, rfl⟩

theorem netted_planProduct {productId : Id} (h : productId ∈ data.finishedGoodIds run)
    (locationId : Id) (state : PlanState × ProjectedInventory) (place : Place) :
    (data.planProduct run locationId state productId).1.plan.netted place =
      state.1.plan.netted place ++
        if (productId, locationId) = place then
          data.passPlan run place (projectedFor state.2 productId) (data.buckets run)
        else {} := by
  obtain ⟨bom, hbom⟩ := data.bomOf_isSome run h
  rw [planProduct, hbom]
  dsimp only
  rw [netted_foldl_planBucket]
  by_cases hplace : (productId, locationId) = place
  · rw [if_pos hplace, if_pos hplace, hplace]
  · rw [if_neg hplace, if_neg hplace]

theorem projectedFor_planProduct_of_ne {productId other : Id} (hne : other ≠ productId)
    (locationId : Id) (state : PlanState × ProjectedInventory) :
    projectedFor (data.planProduct run locationId state other).2 productId =
      projectedFor state.2 productId := by
  unfold planProduct
  cases data.bomOf run other with
  | none => rfl
  | some bom =>
    dsimp only
    split_ifs
    · rfl
    · exact projectedFor_upsert_of_ne _ _ fun heq => hne (uuid_injective heq)

section Products

variable {ids : List Id} (hids : ∀ id ∈ ids, id ∈ data.finishedGoodIds run) (locationId : Id)

include hids

theorem netted_foldl_planProduct_of_not_mem {place : Place}
    (h : locationId = place.2 → place.1 ∉ ids) (state : PlanState × ProjectedInventory) :
    (ids.foldl (data.planProduct run locationId) state).1.plan.netted place =
      state.1.plan.netted place := by
  induction ids generalizing state with
  | nil => rfl
  | cons id ids ih =>
    have hne : (id, locationId) ≠ place := by
      rintro rfl
      exact h rfl List.mem_cons_self
    rw [List.foldl_cons, ih (fun x hx => hids x (List.mem_cons_of_mem id hx))
        (fun heq hmem => h heq (List.mem_cons_of_mem id hmem)),
      netted_planProduct data run (hids id List.mem_cons_self), if_neg hne, MrpPlan.append_nil]

theorem netted_foldl_planProduct_once {productId : Id} (h : ids.count productId = 1)
    (state : PlanState × ProjectedInventory) :
    (ids.foldl (data.planProduct run locationId) state).1.plan.netted (productId, locationId) =
      state.1.plan.netted (productId, locationId) ++
        data.passPlan run (productId, locationId) (projectedFor state.2 productId)
          (data.buckets run) := by
  induction ids generalizing state with
  | nil => cases h
  | cons id ids ih =>
    have htail : ∀ x ∈ ids, x ∈ data.finishedGoodIds run :=
      fun x hx => hids x (List.mem_cons_of_mem id hx)
    rw [List.foldl_cons]
    by_cases hid : id = productId
    · subst hid
      rw [List.count_cons_self, Nat.add_eq_right] at h
      rw [netted_foldl_planProduct_of_not_mem data run htail locationId
          (fun _ => List.count_eq_zero.1 h),
        netted_planProduct data run (hids id List.mem_cons_self), if_pos rfl]
    · rw [List.count_cons_of_ne hid] at h
      have hne : (id, locationId) ≠ (productId, locationId) := by
        intro heq
        exact hid (congrArg Prod.fst heq)
      rw [ih htail h, netted_planProduct data run (hids id List.mem_cons_self), if_neg hne,
        MrpPlan.append_nil, projectedFor_planProduct_of_ne data run hid]

theorem length_foldl_planProduct (productId : Id) (state : PlanState × ProjectedInventory) :
    ((ids.foldl (data.planProduct run locationId) state).1.plan.netted
        (productId, locationId)).requirements.length =
      (state.1.plan.netted (productId, locationId)).requirements.length +
        ids.count productId * (data.buckets run).length := by
  induction ids generalizing state with
  | nil => simp
  | cons id ids ih =>
    rw [List.foldl_cons, ih fun x hx => hids x (List.mem_cons_of_mem id hx),
      netted_planProduct data run (hids id List.mem_cons_self), MrpPlan.requirements_append,
      List.length_append]
    by_cases hid : id = productId
    · subst hid
      rw [if_pos rfl, length_passPlan, List.count_cons_self, Nat.succ_mul]
      omega
    · have hne : (id, locationId) ≠ (productId, locationId) := by
        intro heq
        exact hid (congrArg Prod.fst heq)
      rw [if_neg hne, List.count_cons_of_ne hid]
      rfl

end Products

theorem netted_planLocation_of_ne {place : Place} {locationId : Id} (h : locationId ≠ place.2)
    (state : PlanState) :
    (data.planLocation run state locationId).plan.netted place = state.plan.netted place :=
  netted_foldl_planProduct_of_not_mem data run (fun _ hid => hid) locationId
    (fun heq => absurd heq h) _

theorem netted_planLocation_once {productId : Id}
    (h : (data.finishedGoodIds run).count productId = 1) (locationId : Id) (state : PlanState) :
    (data.planLocation run state locationId).plan.netted (productId, locationId) =
      state.plan.netted (productId, locationId) ++
        data.passPlan run (productId, locationId) 0 (data.buckets run) := by
  rw [planLocation, netted_foldl_planProduct_once data run (fun _ hid => hid) locationId h,
    projectedFor_initialInventory]

theorem netted_calculateMRP {place : Place} (h : data.PlansOnce run place) :
    (data.calculateMRP run).netted place = data.passPlan run place 0 (data.buckets run) := by
  obtain ⟨productId, locationId⟩ := place
  have habsent : ∀ (ls : List Id) (state : PlanState), locationId ∉ ls →
      (ls.foldl (data.planLocation run) state).plan.netted (productId, locationId) =
        state.plan.netted (productId, locationId) := by
    intro ls
    induction ls with
    | nil => exact fun _ _ => rfl
    | cons l ls ih =>
      intro state hnot
      rw [List.foldl_cons, ih _ fun hmem => hnot (List.mem_cons_of_mem l hmem),
        netted_planLocation_of_ne data run]
      rintro rfl
      exact hnot List.mem_cons_self
  have hfold : ∀ (ls : List Id) (state : PlanState), ls.count locationId = 1 →
      (ls.foldl (data.planLocation run) state).plan.netted (productId, locationId) =
        state.plan.netted (productId, locationId) ++
          data.passPlan run (productId, locationId) 0 (data.buckets run) := by
    intro ls
    induction ls with
    | nil =>
      intro _ hcount
      cases hcount
    | cons l ls ih =>
      intro state hcount
      rw [List.foldl_cons]
      by_cases hl : l = locationId
      · subst hl
        rw [List.count_cons_self, Nat.add_eq_right] at hcount
        rw [habsent _ _ (List.count_eq_zero.1 hcount), netted_planLocation_once data run h.1]
      · rw [List.count_cons_of_ne hl] at hcount
        rw [ih _ hcount, netted_planLocation_of_ne data run hl]
  rw [calculateMRP, hfold _ _ h.2]
  rfl

theorem length_netted (place : Place) :
    ((data.calculateMRP run).netted place).requirements.length =
      (data.locationIds run).count place.2 *
        ((data.finishedGoodIds run).count place.1 * (data.buckets run).length) := by
  obtain ⟨productId, locationId⟩ := place
  have hfold : ∀ (ls : List Id) (state : PlanState),
      ((ls.foldl (data.planLocation run) state).plan.netted
          (productId, locationId)).requirements.length =
        (state.plan.netted (productId, locationId)).requirements.length +
          ls.count locationId *
            ((data.finishedGoodIds run).count productId * (data.buckets run).length) := by
    intro ls
    induction ls with
    | nil => simp
    | cons l ls ih =>
      intro state
      rw [List.foldl_cons, ih]
      by_cases hl : l = locationId
      · subst hl
        rw [planLocation, length_foldl_planProduct data run (fun _ hid => hid),
          List.count_cons_self, Nat.succ_mul]
        dsimp only
        omega
      · rw [netted_planLocation_of_ne data run hl, List.count_cons_of_ne hl]
  rw [calculateMRP, hfold]
  exact Nat.zero_add _

/-! ### The netting of a place as the planner's rows -/

theorem plannedOrderQty_eq (place : Place) (onHand : Decimal) (day : Day) :
    data.plannedOrderQty run place onHand day =
      (data.problem run place).order ((data.problem run place).counts day onHand) := rfl

theorem nextOnHand_eq (place : Place) (onHand : Decimal) (day : Day) :
    data.nextOnHand run place onHand day =
      (data.problem run place).add ((data.problem run place).counts day onHand)
        ((data.problem run place).order ((data.problem run place).counts day onHand)) := rfl

theorem map_nettedRow_passPlan (place : Place) (onHand : Decimal) (days : List Day) :
    (data.passPlan run place onHand days).requirements.map nettedRow =
      (data.problem run place).planned onHand days := by
  induction days generalizing onHand with
  | nil => rfl
  | cons day days ih =>
    rw [passPlan, MrpPlan.requirements_append, List.map_append, ih, nextOnHand_eq]
    rfl

theorem plannedOrderQty_nonneg (place : Place) (onHand : Decimal) (day : Day) :
    0 ≤ data.plannedOrderQty run place onHand day := by
  unfold plannedOrderQty
  dsimp only
  split_ifs with hnet
  · exact lotSize_nonneg hnet.le
  · exact le_rfl

theorem createdOn_passPlan_of_not_mem {place : Place} {onHand : Decimal} {day : Day}
    {days : List Day} (h : day ∉ days) : (data.passPlan run place onHand days).createdOn day = 0 := by
  induction days generalizing onHand with
  | nil => rfl
  | cons d days ih =>
    rw [List.mem_cons, not_or] at h
    rw [passPlan, MrpPlan.createdOn_append, ih h.2, add_zero, MrpPlan.createdOn]
    dsimp only
    split_ifs
    · simp [productionOrder, Ne.symm h.1]
    · rfl

/-- What a week creates of a place that is planned once. -/
theorem createdOn_passPlan_cons {place : Place} {onHand : Decimal} {day : Day} {days : List Day}
    (h : day ∉ days) :
    (data.passPlan run place onHand (day :: days)).createdOn day =
      (data.problem run place).created day onHand := by
  rw [passPlan, MrpPlan.createdOn_append, createdOn_passPlan_of_not_mem data run h, add_zero,
    MrpPlan.createdOn, Netting.Problem.created, ← plannedOrderQty_eq]
  dsimp only
  by_cases hfrozen : data.IsFrozen run day
  · rw [if_neg fun hc => hc.2 hfrozen]
    simp [problem, hfrozen]
  · by_cases hpos : 0 < data.plannedOrderQty run place onHand day
    · rw [if_pos ⟨hpos, hfrozen⟩]
      simp [problem, hfrozen, productionOrder]
    · have hzero := le_antisymm (not_lt.1 hpos) (data.plannedOrderQty_nonneg run place onHand day)
      rw [if_neg fun hc => hpos hc.1]
      simp [problem, hfrozen, hzero]

theorem map_createdOn_passPlan (place : Place) (onHand : Decimal) {days : List Day}
    (hdays : days.Nodup) :
    days.map (data.passPlan run place onHand days).createdOn =
      (data.problem run place).orders onHand days := by
  induction days generalizing onHand with
  | nil => rfl
  | cons day days ih =>
    obtain ⟨hday, hdays⟩ := List.nodup_cons.1 hdays
    rw [List.map_cons, createdOn_passPlan_cons data run hday, Netting.Problem.orders,
      ← nextOnHand_eq, ← ih _ hdays]
    congr 1
    refine List.map_congr_left fun d hd => ?_
    have hne : day ≠ d := by
      rintro rfl
      exact hday hd
    rw [passPlan, MrpPlan.createdOn_append]
    refine add_eq_right.2 ?_
    rw [MrpPlan.createdOn]
    dsimp only
    split_ifs
    · simp [productionOrder, hne]
    · rfl

theorem nodup_buckets : (data.buckets run).Nodup := by
  unfold buckets
  refine List.Nodup.map ?_ List.nodup_range
  intro a b hab
  have hseven : 7 * (a : ℤ) = 7 * b := add_left_cancel hab
  omega

theorem plansOnce_of_length {place : Place} (hbuckets : data.buckets run ≠ [])
    (h : ((data.calculateMRP run).netted place).requirements.length = (data.buckets run).length) :
    data.PlansOnce run place := by
  have hpos : 0 < (data.buckets run).length := List.length_pos_iff.2 hbuckets
  rw [length_netted, ← Nat.mul_assoc] at h
  have hone := Nat.eq_of_mul_eq_mul_right hpos (h.trans (Nat.one_mul _).symm)
  exact ⟨Nat.eq_one_of_mul_eq_one_left hone, Nat.eq_one_of_mul_eq_one_right hone⟩

end MrpData

/-! ### A frozen week that is short -/

def frozenRun : MRPRun where
  id := 1
  planningHorizonDays := 7

def shortToday : MrpData where
  today := 0
  locations := [{ id := 1 }]
  boms :=
    [{ id := 1
       parentProductId := 1
       version := "1.0"
       status := .active
       baseQuantity := Manufacturing.pieces 1 }]
  bomComponents := []
  forecasts :=
    [{ productId := some 1, locationId := some 1, periodDate := 0
       forecastQuantity := some (Manufacturing.pieces 5) }]

end Forecast.Mrp
