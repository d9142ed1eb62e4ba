import Forecast.Manufacturing.FactoryFrames
import Mathlib.Algebra.BigOperators.Ring.List

/-!
# Backflushed material

What was issued of each component of a work order, against what the bill asks for
the quantity reported so far. A report nets what it needs for its own quantity against all
that was issued before, and returns only when that leaves nothing to issue: whatever it
reports beyond is never issued for.
-/

open KeyedTable DecimalColumn Transactions Runs

namespace Forecast.Manufacturing

def issuedOf (issues : List MaterialIssue) (workOrderId productId : Id) : Decimal :=
  ((issues.filter fun i => i.workOrderId = workOrderId ∧ i.productId = productId).map fun i =>
    i.quantity.value).sum

def completedOf (completions : List ProductionCompletion) (workOrderId : Id) : Decimal :=
  ((completions.filter fun c => c.workOrderId = workOrderId).map fun c => c.completedQty.value).sum

def quantityOf (components : List BomComponent) (productId : Id) : Decimal :=
  ((components.filter fun c => c.componentProductId = productId).map fun c => c.quantity.value).sum

def FactoryDb.bomOf (db : FactoryDb) (workOrderId : Id) : Option Bom :=
  (lookup WorkOrder.id db.workOrders workOrderId).bind fun order =>
    order.bomId.bind (lookup Bom.id db.boms)

/-- Nothing is issued for the order, neither by hand nor by a report that throws, and a report
that finds its need issued is of a quantity for which the bill asks nothing. -/
def FactoryDb.AsksNothing (workOrderId : Id) (bom : Bom) (db : FactoryDb) (c : FactoryCall) :
    Prop :=
  match c.op with
  | .issueMaterial params => params.workOrderId ≠ workOrderId
  | .backflushMaterials id completedQty => id = workOrderId →
      db.needsMaterial workOrderId completedQty = false
  | .reportProductionCompletion params => params.workOrderId = workOrderId →
      ∀ order ∈ lookup WorkOrder.id db.workOrders workOrderId, order.status = .inProgress →
        if db.needsMaterial workOrderId params.quantity then c.ctx.issuesOutlast = false
        else ∀ completed : Inventory.Qty, Column.store params.quantity = some completed →
          ∀ component ∈ bom.components, component.quantity.value * completed.value = 0
  | _ => True

instance (workOrderId : Id) (bom : Bom) (db : FactoryDb) :
    DecidablePred (db.AsksNothing workOrderId bom)
  | ⟨_, .reportProductionCompletion _⟩ | ⟨_, .backflushMaterials _ _⟩ =>
    inferInstanceAs (Decidable (_ → _))
  | ⟨_, .issueMaterial _⟩ => inferInstanceAs (Decidable (_ ≠ _))
  | ⟨_, .releasePurchaseOrder _⟩ | ⟨_, .createGoodsReceipt _⟩ | ⟨_, .confirmGoodsReceipt _⟩
  | ⟨_, .cancelPurchaseOrder _⟩ | ⟨_, .createInventoryTransaction _⟩ | ⟨_, .adjustInventory _⟩
  | ⟨_, .transferInventory _⟩ | ⟨_, .releaseWorkOrder _⟩ | ⟨_, .startWorkOrder _⟩
  | ⟨_, .completeWorkOrder _⟩ | ⟨_, .cancelWorkOrder _⟩
  | ⟨_, .updateQualityInspectionStatus _ _⟩ => inferInstanceAs (Decidable True)

namespace FactoryDb

variable {ctx : FactoryContext} {db db' db'' : FactoryDb} {workOrderId : Id} {bom : Bom}

/-! ### What other calls leave -/

theorem issuedOf_append (issues : List MaterialIssue) (issue : MaterialIssue) (productId : Id) :
    issuedOf (issues ++ [issue]) workOrderId productId = issuedOf issues workOrderId productId +
      if issue.workOrderId = workOrderId ∧ issue.productId = productId then issue.quantity.value
      else 0 := by
  unfold issuedOf
  rw [List.filter_append, List.map_append, List.sum_append]
  by_cases h : issue.workOrderId = workOrderId ∧ issue.productId = productId <;> simp [h]

theorem completedOf_append (completions : List ProductionCompletion)
    (completion : ProductionCompletion) :
    completedOf (completions ++ [completion]) workOrderId = completedOf completions workOrderId +
      if completion.workOrderId = workOrderId then completion.completedQty.value else 0 := by
  unfold completedOf
  rw [List.filter_append, List.map_append, List.sum_append]
  by_cases h : completion.workOrderId = workOrderId <;> simp [h]

theorem bomOf_writeWorkOrder {order order' : WorkOrder} {id : Id}
    (h : lookup WorkOrder.id db.workOrders id = some order) (hid : order'.id = order.id)
    (hbom : order'.bomId = order.bomId) :
    (db.writeWorkOrder order').bomOf workOrderId = db.bomOf workOrderId := by
  obtain ⟨-, rfl⟩ := lookup_eq_some h
  unfold bomOf
  change (lookup WorkOrder.id (upsert WorkOrder.id db.workOrders order') workOrderId).bind _ = _
  rw [lookup_upsert, hid]
  by_cases hsame : order.id = workOrderId
  · subst hsame
    rw [if_pos rfl, h, Option.bind_some, Option.bind_some, hbom]
    rfl
  · rw [if_neg hsame]
    rfl

/-- The bill of the order, its issues and its reports are as they were. -/
structure SameUse (workOrderId : Id) (db db' : FactoryDb) : Prop where
  bomOf : db'.bomOf workOrderId = db.bomOf workOrderId
  issued : ∀ productId, issuedOf db'.materialIssues workOrderId productId =
    issuedOf db.materialIssues workOrderId productId
  completed : completedOf db'.completions workOrderId = completedOf db.completions workOrderId

namespace SameUse

theorem refl (db : FactoryDb) : SameUse workOrderId db db := ⟨rfl, fun _ => rfl, rfl⟩

theorem trans (h : SameUse workOrderId db db') (h' : SameUse workOrderId db' db'') :
    SameUse workOrderId db db'' where
  bomOf := h'.bomOf.trans h.bomOf
  issued productId := (h'.issued productId).trans (h.issued productId)
  completed := h'.completed.trans h.completed

theorem of_eq (hboms : db'.boms = db.boms) (hworkOrders : db'.workOrders = db.workOrders)
    (hmaterialIssues : db'.materialIssues = db.materialIssues)
    (hcompletions : db'.completions = db.completions) : SameUse workOrderId db db' where
  bomOf := by rw [FactoryDb.bomOf, hworkOrders, hboms]; rfl
  issued productId := by rw [hmaterialIssues]
  completed := by rw [hcompletions]

theorem of_sameDocuments (h : SameDocuments db db') : SameUse workOrderId db db' :=
  .of_eq h.boms h.workOrders h.materialIssues h.completions

theorem writeWorkOrder {order order' : WorkOrder} {id : Id} (h : db.workOrder id = .ok order)
    (hid : order'.id = order.id) (hbom : order'.bomId = order.bomId) :
    SameUse workOrderId db (db.writeWorkOrder order') :=
  ⟨bomOf_writeWorkOrder (workOrder_eq_ok.1 h) hid hbom, fun _ => rfl, rfl⟩

end SameUse

theorem sameUse_issueMaterial {params : IssueParams} (hother : params.workOrderId ≠ workOrderId)
    (h : db.issueMaterial ctx params = .ok db') : SameUse workOrderId db db' := by
  obtain ⟨order, quantity, horder, -, -, hsame⟩ := issueMaterial_eq_ok h
  have hid : order.id = params.workOrderId := (lookup_eq_some (workOrder_eq_ok.1 horder)).2
  refine SameUse.trans ?_ (.of_sameDocuments hsame)
  refine ⟨rfl, fun productId => ?_, rfl⟩
  rw [issuedOf_append, if_neg fun h => hother (hid ▸ h.1), add_zero]

theorem sameUse_completeReport {params : CompletionParams} {before order : WorkOrder}
    {completion : ProductionCompletion} {id : Id} (hbefore : db.workOrder id = .ok before)
    (h : db.completeReport ctx params order completion = .ok db') (hid : order.id = before.id)
    (hbom : order.bomId = before.bomId) :
    SameUse workOrderId { db with completions := db.completions ++ [completion] } db' := by
  obtain ⟨settled, hsettled, hsame⟩ := completeReport_eq_ok h
  refine SameUse.trans ?_ (.of_sameDocuments hsame)
  have hlookup : ({ db with completions := db.completions ++ [completion] } : FactoryDb).workOrder
      id = .ok before := hbefore
  apply SameUse.writeWorkOrder hlookup
  · rw [hsettled]
    split_ifs <;> exact hid
  · rw [hsettled]
    split_ifs <;> exact hbom

theorem sameUse_backflushMaterials {completedQty : Decimal} {id : Id} (hother : id ≠ workOrderId) :
    SameUse workOrderId db (db.backflushMaterials ctx id completedQty).left ∧
      ∀ db', (db.backflushMaterials ctx id completedQty).result = .ok db' →
        SameUse workOrderId db db' :=
  backflushMaterials_invariant (I := SameUse workOrderId db)
    (fun _ _ _ hid hs h => hs.trans (sameUse_issueMaterial (hid ▸ hother) h)) (.refl db)

theorem sameUse_reportProductionCompletion {params : CompletionParams}
    (hother : params.workOrderId ≠ workOrderId) :
    SameUse workOrderId db (transaction (db.reportProductionCompletion ctx params).left
      (db.reportProductionCompletion ctx params).result) := by
  apply reportProductionCompletion_invariant (I := SameUse workOrderId db)
  · exact fun _ _ => (sameUse_backflushMaterials hother).1
  · intro db' order completion hcount _ h
    obtain ⟨before, completed, scrapped, completedQty, scrappedQty, hbefore, -, -, -, rfl, rfl⟩ :=
      countReport_eq_ok hcount
    have hkept : before.id = params.workOrderId := (lookup_eq_some (workOrder_eq_ok.1 hbefore)).2
    refine SameUse.trans ?_ (sameUse_completeReport hbefore h rfl rfl)
    refine ⟨rfl, fun _ => rfl, ?_⟩
    rw [completedOf_append, if_neg (hkept ▸ hother), add_zero]
  · exact .refl db

theorem sameUse_writeWorkOrder {order order' : WorkOrder} {id : Id}
    (horder : db.workOrder id = .ok order) (hsame : SameDocuments (db.writeWorkOrder order') db')
    (hid : order'.id = order.id) (hbom : order'.bomId = order.bomId) : SameUse workOrderId db db' :=
  (SameUse.writeWorkOrder horder hid hbom).trans (.of_sameDocuments hsame)

theorem sameUse_next {c : FactoryCall}
    (hissue : ∀ params, c.op = .issueMaterial params → params.workOrderId ≠ workOrderId)
    (hbackflush : ∀ id completedQty, c.op = .backflushMaterials id completedQty →
      id = workOrderId → db.needsMaterial workOrderId completedQty = false)
    (hreport : ∀ params, c.op = .reportProductionCompletion params →
      params.workOrderId ≠ workOrderId) : SameUse workOrderId db (db.next c) := by
  have hrefl : SameUse workOrderId db db := .refl db
  by_cases hop : c.op.isProduction = true
  · obtain ⟨ctx, op⟩ := c
    cases op with
    | releaseWorkOrder id =>
      refine outcome_invariant hrefl fun db' h => ?_
      obtain ⟨order, horder, -, hsame⟩ := releaseWorkOrder_eq_ok h
      exact sameUse_writeWorkOrder horder hsame rfl rfl
    | startWorkOrder id =>
      refine outcome_invariant hrefl fun db' h => ?_
      obtain ⟨order, horder, -, rfl⟩ := startWorkOrder_eq_ok h
      exact sameUse_writeWorkOrder horder (.refl _) rfl rfl
    | issueMaterial params =>
      exact outcome_invariant hrefl fun _ => sameUse_issueMaterial (hissue params rfl)
    | backflushMaterials id completedQty =>
      by_cases hid : id = workOrderId
      · obtain ⟨hleft, hresult⟩ :=
          backflushMaterials_of_nothing (hid ▸ hbackflush id completedQty rfl hid)
        refine outcome_invariant ?_ fun db' h => ?_
        · change SameUse workOrderId db (db.backflushMaterials ctx id completedQty).left
          rw [hleft]
          exact hrefl
        · obtain rfl := hresult db' h
          exact hrefl
      · obtain ⟨hleft, hresult⟩ := sameUse_backflushMaterials hid
        exact outcome_invariant hleft hresult
    | reportProductionCompletion params =>
      exact sameUse_reportProductionCompletion (hreport params rfl)
    | completeWorkOrder id =>
      refine outcome_invariant hrefl fun db' h => ?_
      rcases completeWorkOrder_eq_ok h with ⟨-, rfl⟩ | ⟨order, horder, -, hsame⟩
      · exact hrefl
      · exact sameUse_writeWorkOrder horder hsame rfl rfl
    | cancelWorkOrder id =>
      refine outcome_invariant hrefl fun db' h => ?_
      obtain ⟨order, horder, -, -, hsame⟩ := cancelWorkOrder_eq_ok h
      exact sameUse_writeWorkOrder horder hsame rfl rfl
    | _ => cases hop
  · have hsame : SameProduction db (db.next c) :=
      sameProduction_next (Bool.eq_false_iff.2 hop)
    exact .of_eq hsame.boms hsame.workOrders hsame.materialIssues hsame.completions

/-! ### A report on the order -/

/-- What is issued for the order is what its bill asks for the quantity reported on it. -/
structure Backflushed (workOrderId : Id) (bom : Bom) (db : FactoryDb) : Prop where
  bomOf : db.bomOf workOrderId = some bom
  issued : ∀ component ∈ bom.components,
    issuedOf db.materialIssues workOrderId component.componentProductId =
      quantityOf bom.components component.componentProductId *
        completedOf db.completions workOrderId

theorem Backflushed.same (hdb : Backflushed workOrderId bom db)
    (h : SameUse workOrderId db db') : Backflushed workOrderId bom db' where
  bomOf := h.bomOf.trans hdb.bomOf
  issued component hcomponent := by
    rw [h.issued, h.completed]
    exact hdb.issued component hcomponent

/-- A bill whose lines ask nothing for a quantity asks nothing of a product. -/
theorem quantityOf_mul_eq_zero {components : List BomComponent} {q : Decimal}
    (h : ∀ component ∈ components, component.quantity.value * q = 0) (productId : Id) :
    quantityOf components productId * q = 0 := by
  rw [quantityOf, ← List.sum_map_mul_right]
  apply List.sum_eq_zero
  intro asked hasked
  obtain ⟨component, hcomponent, rfl⟩ := List.mem_map.1 hasked
  exact h component (List.mem_filter.1 hcomponent).1

theorem Backflushed.reportProductionCompletion (hdb : Backflushed workOrderId bom db)
    {params : CompletionParams} (hid : params.workOrderId = workOrderId)
    (hsound : db.AsksNothing workOrderId bom ⟨ctx, .reportProductionCompletion params⟩) :
    Backflushed workOrderId bom (db.next ⟨ctx, .reportProductionCompletion params⟩) := by
  subst hid
  unfold next outcome
  dsimp only
  cases hcount : db.countReport params with
  | error e =>
    simp only [FactoryDb.reportProductionCompletion, hcount]
    exact hdb
  | ok counted =>
    obtain ⟨order, completion⟩ := counted
    obtain ⟨before, completed, scrapped, completedQty, scrappedQty, hbefore, hstatus, hcompleted,
      -, rfl, rfl⟩ := countReport_eq_ok hcount
    have hfound := workOrder_eq_ok.1 hbefore
    have hkept : before.id = params.workOrderId := (lookup_eq_some hfound).2
    have hasked := hsound rfl before hfound hstatus
    apply reportProductionCompletion_invariant (I := Backflushed params.workOrderId bom)
    · intro hneeds hlast
      rw [if_pos hneeds, hlast] at hasked
      cases hasked
    · intro db' order completion hcount' hneeds h
      rw [hcount] at hcount'
      cases hcount'
      rw [if_neg (Bool.eq_false_iff.1 hneeds)] at hasked
      have hsame : SameUse params.workOrderId
          { db with completions := db.completions ++ [⟨before.id, completed, scrapped⟩] } db' :=
        sameUse_completeReport hbefore h rfl rfl
      refine ⟨hsame.bomOf.trans hdb.bomOf, fun component hcomponent => ?_⟩
      rw [hsame.issued, hsame.completed, completedOf_append, if_pos hkept, mul_add,
        quantityOf_mul_eq_zero (hasked completed hcompleted), add_zero,
        hdb.issued component hcomponent]
    · exact hdb

end FactoryDb

/-! ### Runs -/

open FactoryDb (next Backflushed)

/-- At every time the issues of the order are what its bill asks for what was reported. -/
def BackflushLaw (workOrderId : Id) (bom : Bom) (start : FactoryDb) (calls : List FactoryCall) :
    Prop :=
  ∀ k, ∀ component ∈ bom.components,
    issuedOf (stateAt next start calls k).materialIssues workOrderId
        component.componentProductId =
      quantityOf bom.components component.componentProductId *
        completedOf (stateAt next start calls k).completions workOrderId

theorem FactoryDb.Backflushed.next {workOrderId : Id} {bom : Bom} {db : FactoryDb}
    (hdb : Backflushed workOrderId bom db) {c : FactoryCall}
    (hsound : db.AsksNothing workOrderId bom c) : Backflushed workOrderId bom (db.next c) := by
  obtain ⟨ctx, op⟩ := c
  by_cases hreport : ∃ params, op = .reportProductionCompletion params ∧
      params.workOrderId = workOrderId
  · obtain ⟨params, rfl, hid⟩ := hreport
    exact hdb.reportProductionCompletion hid hsound
  · refine hdb.same (sameUse_next ?_ ?_ ?_)
    · rintro params rfl
      exact hsound
    · rintro id completedQty rfl hid
      exact hsound hid
    · rintro params rfl hid
      exact hreport ⟨params, rfl, hid⟩

/-- The bill of the order: three pieces of product 7 each. -/
def threePieces : Bom := ⟨2, [⟨7, (Column.store 3).getD .zero⟩]⟩

def reportedTwice : List FactoryCall :=
  [⟨workshopContext, .backflushMaterials 1 1⟩, reportOf 1, reportOf 1]

end Forecast.Manufacturing
