import Forecast.Manufacturing.OutputLaw
import Forecast.Manufacturing.RecordsLaw

/-!
# What an operation moves

A receipt brings its lines, an issue takes its quantity, and a finished order brings what was
completed. The costing engine writes a row of its own for a receipt with a price and for every
issue, so that these are moved twice.
-/

open KeyedTable DecimalColumn Transactions Runs

namespace Forecast.Manufacturing

open Inventory (Qty calculateDeltas)

namespace FactoryDb

/-- What a backflush moves: of each component what is needed and was not issued before. -/
def backflushed (db : FactoryDb) (order : WorkOrder) (completedQty : Decimal) : Movement :=
  ((db.components order.bomId).map fun component =>
    Movement.single component.componentProductId order.locationId
      (-max 0 (toIssue db.materialIssues order.id completedQty component))).sum

/-- What a report moves: the components, its scrap, and the finished goods when it completes the
order. -/
def reported (db : FactoryDb) (order : WorkOrder) (params : CompletionParams) : Movement :=
  db.backflushed order params.quantity +
    .single order.productId order.locationId (-max 0 (params.scrapQuantity.getD 0)) +
    .single order.productId order.locationId
      (if order.plannedQty.value ≤ order.completedQty.value + params.quantity then
        order.completedQty.value + params.quantity
      else 0)

/-- The physical quantity of a call; an operation that was done before moves nothing. -/
def physical (db : FactoryDb) (c : FactoryCall) : Movement :=
  match c.op with
  | .confirmGoodsReceipt id =>
    if db.costing.hasProcessed (confirmKey id) then 0
    else ((lookup GoodsReceipt.id db.goodsReceipts id).map fun gr =>
      received (c.ctx.location.getD gr.locationId) gr.lines).getD 0
  | .issueMaterial params =>
    ((lookup WorkOrder.id db.workOrders params.workOrderId).map fun order =>
      Movement.single params.productId order.locationId (-params.quantity)).getD 0
  | .backflushMaterials id completedQty =>
    ((lookup WorkOrder.id db.workOrders id).map fun order =>
      db.backflushed order completedQty).getD 0
  | .reportProductionCompletion params =>
    ((lookup WorkOrder.id db.workOrders params.workOrderId).map fun order =>
      db.reported order params).getD 0
  | .completeWorkOrder id =>
    if db.costing.hasProcessed (completeKey id) then 0
    else ((lookup WorkOrder.id db.workOrders id).map fun order =>
      Movement.single order.productId order.locationId order.completedQty.value).getD 0
  | _ => 0

/-- The engine has not yet taken the order into stock, and has something to take. -/
def Settles (db : FactoryDb) (workOrderId : Id) (completedQty : Decimal) : Prop :=
  0 ≤ completedQty ∧ db.costing.hasProcessed (settleKey workOrderId) = false

def MovesOnce (db : FactoryDb) (c : FactoryCall) : Prop :=
  match c.op with
  | .confirmGoodsReceipt id => db.costing.hasProcessed (confirmKey id) = false →
      ∀ gr ∈ lookup GoodsReceipt.id db.goodsReceipts id, ∀ line ∈ gr.lines, db.PlainLine gr line
  | .issueMaterial params => params.quantity = 0
  | .backflushMaterials id completedQty => db.needsMaterial id completedQty = false
  | .reportProductionCompletion params =>
    ∀ order ∈ lookup WorkOrder.id db.workOrders params.workOrderId,
      OnScale 4 params.quantity ∧ OnScale 4 (params.scrapQuantity.getD 0) ∧
      (order.plannedQty.value ≤ order.completedQty.value + params.quantity →
        db.Settles order.id (order.completedQty.value + params.quantity))
  | .completeWorkOrder id => db.costing.hasProcessed (completeKey id) = false →
      ∀ order ∈ lookup WorkOrder.id db.workOrders id, db.Settles order.id order.completedQty.value
  | _ => True

end FactoryDb

/-- The operations that the stock is moved by here. -/
def FactoryOp.movesGoods : FactoryOp → Bool
  | .confirmGoodsReceipt _ | .issueMaterial _ | .backflushMaterials _ _
  | .reportProductionCompletion _ | .completeWorkOrder _ => true
  | _ => false

namespace FactoryDb

variable {tenantId : Id} {ctx : FactoryContext} {db db' : FactoryDb}

/-! ### Steps of a completion -/

theorem moves_settleWorkOrder {order : WorkOrder} (htenant : ctx.tenantId = tenantId)
    (hsettles : db.Settles order.id order.completedQty.value)
    (h : db.settleWorkOrder ctx order = .ok db') :
    Moves tenantId db db' (.single order.productId order.locationId order.completedQty.value) := by
  subst htenant
  obtain ⟨hnonneg, hunsettled⟩ := hsettles
  obtain ⟨costing, result, hcosting, rfl⟩ := inCosting_eq_ok.1 h
  rcases completionCost_recordEntry hcosting with ⟨hprocessed, -⟩ | ⟨-, wipPerUnit, id, hstock⟩
  · change db.costing.hasProcessed (settleKey order.id) = true at hprocessed
    rw [hunsettled] at hprocessed
    cases hprocessed
  · have hmoves : Moves ctx.tenantId db { db with costing := costing } _ :=
      .of_recordEntry hstock order.completedQty.onScale_value
    rw [movementOf_key ctx.tenantId rfl] at hmoves
    change Moves ctx.tenantId db { db with costing := costing }
      (.single order.productId order.locationId |order.completedQty.value|) at hmoves
    rwa [abs_of_nonneg hnonneg] at hmoves

theorem moves_scrapProduction {order : WorkOrder} {completionId : Id} {scrapQuantity : Decimal}
    (htenant : ctx.tenantId = tenantId) (hscale : OnScale 4 scrapQuantity)
    (h : db.scrapProduction ctx order completionId scrapQuantity = .ok db') :
    Moves tenantId db db'
      (.single order.productId order.locationId (-max 0 scrapQuantity)) := by
  subst htenant
  unfold scrapProduction at h
  split_ifs at h with hpos
  · obtain ⟨costing, result, hcosting, rfl⟩ := inCosting_eq_ok.1 h
    obtain ⟨cost, hstock⟩ := scrapCost_recordEntry hcosting
    have hmoves : Moves ctx.tenantId db { db with costing := costing } _ :=
      .of_recordEntry hstock hscale.neg
    rw [movementOf_key ctx.tenantId rfl] at hmoves
    change Moves ctx.tenantId db { db with costing := costing }
      (.single order.productId order.locationId (-|(-scrapQuantity)|)) at hmoves
    rwa [abs_neg, abs_of_pos hpos, ← max_eq_right hpos.le] at hmoves
  · cases h
    rw [max_eq_left (not_lt.1 hpos), neg_zero, Movement.single_zero]
    exact .refl ctx.tenantId _

theorem quiet_inspectProduction {order : WorkOrder} {quantity : Decimal}
    (h : db.inspectProduction ctx order quantity = .ok db') : Quiet tenantId db db' := by
  unfold inspectProduction at h
  split_ifs at h
  · simp only [bind_eq_ok, pure_eq_ok] at h
    obtain ⟨held, hheld, inspectedQty, -, rfl⟩ := h
    exact (Quiet.placeHold hheld).trans (.of_eq rfl rfl)
  · cases h
    exact .refl tenantId _

theorem quiet_addToBatch {order : WorkOrder} {params : CompletionParams}
    (h : db.addToBatch ctx order params = .ok db') : Quiet tenantId db db' := by
  unfold addToBatch at h
  by_cases htracked : ((ctx.product order.productId).map Product.batchTracked).getD false
  · rw [if_pos htracked] at h
    split at h
    · cases h
      exact .refl tenantId _
    · simp only [bind_eq_ok, pure_eq_ok] at h
      obtain ⟨quantity, -, availableQty, -, rfl⟩ := h
      exact ⟨.of_eq rfl rfl, .of_eq rfl⟩
  · rw [if_neg htracked] at h
    cases h
    exact .refl tenantId _

theorem hasProcessed_inspectProduction {order : WorkOrder} {quantity : Decimal}
    (h : db.inspectProduction ctx order quantity = .ok db') (key : String × String) :
    db'.costing.hasProcessed key = db.costing.hasProcessed key := by
  unfold inspectProduction at h
  split_ifs at h
  · simp only [bind_eq_ok, pure_eq_ok] at h
    obtain ⟨held, hheld, inspectedQty, -, rfl⟩ := h
    obtain ⟨w, -, rfl⟩ := inWarehouse_eq_ok.1 hheld
    rfl
  · cases h
    rfl

/-- A report that reaches the planned quantity takes all that was completed into stock. -/
theorem moves_closeWhenFull {order : WorkOrder} (htenant : ctx.tenantId = tenantId)
    (hsettles : order.plannedQty.value ≤ order.completedQty.value →
      db.Settles order.id order.completedQty.value)
    (h : db.closeWhenFull ctx order = .ok db') :
    Moves tenantId db db' (.single order.productId order.locationId
      (if order.plannedQty.value ≤ order.completedQty.value then order.completedQty.value
      else 0)) := by
  unfold closeWhenFull at h
  split_ifs at h ⊢ with hfull
  · simp only [bind_eq_ok] at h
    obtain ⟨settled, hsettled, h⟩ := h
    have hwritten : Moves tenantId db (db.writeWorkOrder { order with status := .completed }) 0 :=
      .of_eq rfl rfl
    exact (hwritten.zero_then (moves_settleWorkOrder htenant (hsettles hfull) hsettled)).then_zero
      (quiet_releaseReservations h).moves
  · cases h
    rw [Movement.single_zero]
    exact .refl tenantId _

theorem moves_completeReport {params : CompletionParams} {order : WorkOrder}
    {completion : ProductionCompletion} (htenant : ctx.tenantId = tenantId)
    (hscrap : OnScale 4 (params.scrapQuantity.getD 0))
    (hsettles : order.plannedQty.value ≤ order.completedQty.value →
      db.Settles order.id order.completedQty.value)
    (h : db.completeReport ctx params order completion = .ok db') :
    Moves tenantId db db'
      (.single order.productId order.locationId (-max 0 (params.scrapQuantity.getD 0)) +
        .single order.productId order.locationId
          (if order.plannedQty.value ≤ order.completedQty.value then order.completedQty.value
          else 0)) := by
  simp only [completeReport, bind_eq_ok] at h
  obtain ⟨logged, hlogged, inspected, hinspected, scrapped, hscrapped, batched, hbatched, h⟩ := h
  have hwritten : Moves tenantId db
      ({ db with completions := db.completions ++ [completion] }.writeWorkOrder order) 0 :=
    .of_eq rfl rfl
  have hreported : Moves tenantId db inspected 0 :=
    (hwritten.then_zero (.logTransaction hlogged)).then_zero
      (quiet_inspectProduction hinspected).moves
  have hunsettled : db.costing.hasProcessed (settleKey order.id) = false →
      batched.costing.hasProcessed (settleKey order.id) = false := by
    intro hkey
    refine (keeps_addToBatch hbatched).unsettled ((keeps_scrapProduction hscrapped).unsettled ?_)
    rw [hasProcessed_inspectProduction hinspected]
    exact (keeps_logTransaction hlogged).unsettled hkey
  refine (hreported.zero_then (moves_scrapProduction htenant hscrap hscrapped)).trans
    (Moves.zero_then (quiet_addToBatch hbatched).moves (moves_closeWhenFull htenant ?_ h))
  exact fun hfull => ⟨(hsettles hfull).1, hunsettled (hsettles hfull).2⟩

theorem backflushed_of_nothing {completedQty : Decimal} {order : WorkOrder} {id : Id}
    (horder : lookup WorkOrder.id db.workOrders id = some order)
    (hnothing : db.needsMaterial id completedQty = false) :
    db.backflushed order completedQty = 0 := by
  obtain ⟨-, rfl⟩ := lookup_eq_some horder
  apply List.sum_eq_zero
  intro m hm
  obtain ⟨component, hcomponent, rfl⟩ := List.mem_map.1 hm
  have hneed := needsMaterial_eq_false.1 hnothing order horder component hcomponent
  rw [max_eq_left (not_lt.1 hneed), neg_zero, Movement.single_zero]

/-! ### The operations -/

theorem moves_reportProductionCompletion {params : CompletionParams}
    (honce : db.MovesOnce ⟨ctx, .reportProductionCompletion params⟩)
    (h : (db.reportProductionCompletion ctx params).result = .ok db') :
    Moves ctx.tenantId db db' (db.physical ⟨ctx, .reportProductionCompletion params⟩) := by
  obtain ⟨order, completion, hcount, hnothing, h⟩ := reportProductionCompletion_eq_ok h
  obtain ⟨before, completed, scrapped, completedQty, scrappedQty, hbefore, -, -, hqty, rfl, -⟩ :=
    countReport_eq_ok hcount
  have hfound := workOrder_eq_ok.1 hbefore
  obtain ⟨hscale, hscrap, hsettles⟩ := honce before hfound
  have hvalue := Column.value_of_store hqty (before.completedQty.onScale_value.add hscale)
  have hmoves := moves_completeReport rfl hscrap
    (fun hfull => by rw [hvalue] at hfull ⊢; exact hsettles hfull) h
  rw [hvalue] at hmoves
  have hphysical : db.physical ⟨ctx, .reportProductionCompletion params⟩ =
      db.reported before params := by
    simp only [physical, hfound]
    rfl
  rw [hphysical, reported, backflushed_of_nothing hfound hnothing, zero_add]
  exact hmoves

theorem moves_backflushMaterials {id : Id} {completedQty : Decimal}
    (hnothing : db.needsMaterial id completedQty = false)
    (h : (db.backflushMaterials ctx id completedQty).result = .ok db') :
    Moves ctx.tenantId db db' (db.physical ⟨ctx, .backflushMaterials id completedQty⟩) := by
  obtain rfl := (backflushMaterials_of_nothing hnothing).2 db' h
  have hphysical : db'.physical ⟨ctx, .backflushMaterials id completedQty⟩ = 0 := by
    dsimp only [physical]
    cases horder : lookup WorkOrder.id db'.workOrders id with
    | none => rfl
    | some order =>
      rw [Option.map_some, Option.getD_some]
      exact backflushed_of_nothing horder hnothing
  rw [hphysical]
  exact .refl ctx.tenantId _

theorem moves_completeWorkOrder {id : Id} (honce : db.MovesOnce ⟨ctx, .completeWorkOrder id⟩)
    (h : db.completeWorkOrder ctx id = .ok db') :
    Moves ctx.tenantId db db' (db.physical ⟨ctx, .completeWorkOrder id⟩) := by
  unfold completeWorkOrder at h
  dsimp only [physical]
  by_cases hkey : db.costing.hasProcessed (completeKey id)
  · rw [if_pos hkey] at h ⊢
    cases h
    exact .refl ctx.tenantId _
  · rw [if_neg hkey] at h ⊢
    simp only [bind_eq_ok, pure_eq_ok, throwWhen_eq_ok] at h
    obtain ⟨order, horder, -, -, written, hwritten, settled, hsettled, -, -, rfl⟩ := h
    have hfound := workOrder_eq_ok.1 horder
    change lookup WorkOrder.id db.workOrders id = some order at hfound
    obtain ⟨hnonneg, hunsettled⟩ := honce (Bool.eq_false_iff.2 hkey) order hfound
    have hkeeps : Keeps order.id db written :=
      (Keeps.complete id _).trans (keeps_releaseReservations hwritten)
    have hstamped : Moves ctx.tenantId db
        ((db.stamp (completeKey id)).writeWorkOrder { order with status := .completed }) 0 :=
      .of_eq rfl rfl
    rw [hfound]
    exact (hstamped.then_zero (quiet_releaseReservations hwritten).moves).zero_then
      (moves_settleWorkOrder rfl ⟨hnonneg, hkeeps.unsettled hunsettled⟩ hsettled)

theorem moves_of_movesOnce {c : FactoryCall} (hgoods : c.op.movesGoods = true)
    (honce : db.MovesOnce c) (h : (db.outcome c).result = .ok db') :
    Moves c.ctx.tenantId db db' (db.physical c) := by
  obtain ⟨ctx, op⟩ := c
  cases op with
  | confirmGoodsReceipt id =>
    dsimp only [physical]
    rcases moves_confirmGoodsReceipt rfl honce h with
      ⟨hkey, rfl⟩ | ⟨hkey, gr, hgr, hmoves, -⟩
    · rw [if_pos hkey]
      exact .refl ctx.tenantId _
    · rw [if_neg (Bool.eq_false_iff.1 hkey), hgr]
      exact hmoves
  | issueMaterial params =>
    have hzero : params.quantity = 0 := honce
    have hphysical : db.physical ⟨ctx, .issueMaterial params⟩ = 0 := by
      dsimp only [physical]
      rw [hzero, neg_zero]
      cases lookup WorkOrder.id db.workOrders params.workOrderId <;> simp
    rw [hphysical]
    exact (quiet_issueMaterial_zero hzero h).moves
  | backflushMaterials id completedQty => exact moves_backflushMaterials honce h
  | reportProductionCompletion params => exact moves_reportProductionCompletion honce h
  | completeWorkOrder id => exact moves_completeWorkOrder honce h
  | _ => cases hgoods

end FactoryDb

/-! ### Runs -/

open FactoryDb

/-- Whatever was called before: a receipt, an issue, a report and a completion that return move
the stock on hand and the ledger by their physical quantity. -/
def MovementLaw (start : FactoryDb) (calls : List FactoryCall) : Prop :=
  ∀ k c db', calls[k]? = some c → c.op.movesGoods = true →
    ((stateAt next start calls k).outcome c).result = .ok db' →
      FactoryDb.Moves c.ctx.tenantId (stateAt next start calls k)
        (stateAt next start calls (k + 1)) ((stateAt next start calls k).physical c)

/-- A call that returns moves its physical quantity once. -/
def FactoryDb.ReturnsOnce (db : FactoryDb) (c : FactoryCall) : Prop :=
  (db.outcome c).result.isOk = true → db.MovesOnce c

theorem movementLaw_of_movesOnce {start : FactoryDb} {calls : List FactoryCall}
    (honce : Always next ReturnsOnce start calls) : MovementLaw start calls := by
  intro k c db' hc hgoods hresult
  have hnext : stateAt next start calls (k + 1) = db' := by
    rw [stateAt_succ next start hc, next, hresult, transaction_ok]
  rw [hnext]
  exact moves_of_movesOnce hgoods (honce.at hc (by rw [hresult]; rfl)) hresult

/-! ### Two runs -/

instance (db : FactoryDb) (workOrderId : Id) (completedQty : Decimal) :
    Decidable (db.Settles workOrderId completedQty) :=
  inferInstanceAs (Decidable (_ ∧ _))

instance (db : FactoryDb) : DecidablePred db.MovesOnce
  | ⟨_, .confirmGoodsReceipt _⟩ => inferInstanceAs (Decidable (_ → _))
  | ⟨_, .issueMaterial _⟩ | ⟨_, .backflushMaterials _ _⟩ => inferInstanceAs (Decidable (_ = _))
  | ⟨_, .reportProductionCompletion _⟩ => inferInstanceAs (Decidable (∀ order ∈ _, _))
  | ⟨_, .completeWorkOrder _⟩ => inferInstanceAs (Decidable (_ → _))
  | ⟨_, .createInventoryTransaction _⟩ | ⟨_, .adjustInventory _⟩ | ⟨_, .transferInventory _⟩
  | ⟨_, .releasePurchaseOrder _⟩ | ⟨_, .createGoodsReceipt _⟩ | ⟨_, .cancelPurchaseOrder _⟩
  | ⟨_, .releaseWorkOrder _⟩ | ⟨_, .startWorkOrder _⟩ | ⟨_, .cancelWorkOrder _⟩
  | ⟨_, .updateQualityInspectionStatus _ _⟩ => inferInstanceAs (Decidable True)

instance (db : FactoryDb) (c : FactoryCall) : Decidable (db.ReturnsOnce c) :=
  inferInstanceAs (Decidable (_ → _))

/-- The order when its material was issued, beside a sent purchase order. -/
def suppliedAndSent : FactoryDb :=
  { suppliedOrder with purchaseOrders := (sentOrder 8).purchaseOrders }

/-- A receipt without a price, and two reports that reach the planned quantity. -/
def assembled : List FactoryCall :=
  [receiptOf [⟨11, 10⟩, ⟨12, 2⟩], ⟨plainContext, .confirmGoodsReceipt 1⟩,
    reportIn productionContext 4, reportIn productionContext 6,
    ⟨productionContext, .completeWorkOrder 1⟩]

theorem movementLaw_assembled :
    (run next suppliedAndSent assembled).onHand 1 9 3 = 10 ∧ MovementLaw suppliedAndSent assembled :=
  ⟨by decide +kernel, movementLaw_of_movesOnce (by decide +kernel)⟩

/-- The engine issues the two pieces again. -/
theorem not_movementLaw_twoIssued : ¬MovementLaw stockedOrder [twoIssued] := by
  intro h
  have hreturns : (stockedOrder.outcome twoIssued).result.isOk = true := by decide +kernel
  obtain ⟨db', hresult⟩ := exists_of_isOk hreturns
  have hmoves := congrFun (congrFun (h 0 twoIssued db' rfl rfl hresult).onHand 7) 3
  revert hmoves
  decide +kernel

end Forecast.Manufacturing
