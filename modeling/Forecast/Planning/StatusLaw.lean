import Forecast.Lib.Runs
import Forecast.Planning.PlannedOrders

/-!
# The statuses of bills and planned orders

A bill moves along the transitions that its status update declares and an order is
released after it was firmed, as long as the operations that write a status unchecked
write one that the order or the bill may take.
-/

open KeyedTable DecimalColumn Transactions Runs

namespace Forecast.Planning

namespace PlanningDb

def bomStatus (db : PlanningDb) (id : Id) : Option BOMStatus :=
  (lookup BillOfMaterial.id db.boms id).map BillOfMaterial.status

def orderStatus (db : PlanningDb) (id : Id) : Option PlannedOrderStatus :=
  (lookup PlannedOrder.id db.plannedOrders id).map PlannedOrder.status

/-- What the unchecked writers of a status may be asked. -/
def WritesLawfully (db : PlanningDb) : PlanningAction → Prop
  | .updateBOM bomId dto => ∀ status ∈ dto.status, ∀ current ∈ db.bomStatus bomId,
      status = current ∨ status ∈ validTransitions current
  | .bulkUpdatePlannedOrders orderIds action =>
    (action = "firm" → ∀ id ∈ orderIds, db.orderStatus id ≠ some .cancelled) ∧
      (action = "release" → ∀ id ∈ orderIds, ∀ status ∈ db.orderStatus id,
        status = .firmed ∨ status = .released)
  | _ => True

instance (db : PlanningDb) (a : PlanningAction) : Decidable (db.WritesLawfully a) := by
  unfold WritesLawfully
  cases a <;> infer_instance

variable {db db' : PlanningDb} {a : PlanningAction}

/-! ### The statuses after a write -/

theorem bomStatus_writeBOM (db : PlanningDb) (bom : BillOfMaterial) (id : Id) :
    (db.writeBOM bom).bomStatus id = if bom.id = id then some bom.status else db.bomStatus id := by
  unfold bomStatus writeBOM
  rw [lookup_upsert]
  split_ifs <;> rfl

theorem bomStatus_append {boms rows : List BillOfMaterial} {id : Id} {status : BOMStatus}
    (h : (lookup BillOfMaterial.id boms id).map BillOfMaterial.status = some status) :
    (lookup BillOfMaterial.id (boms ++ rows) id).map BillOfMaterial.status = some status := by
  obtain ⟨bom, hbom, hstatus⟩ := Option.map_eq_some_iff.1 h
  rw [lookup_append, hbom]
  exact congrArg some hstatus

theorem bomStatus_of_bom {bomId : Id} {bom : BillOfMaterial} (h : db.bom bomId = .ok bom) :
    bom.id = bomId ∧ db.bomStatus bomId = some bom.status := by
  have hfound := found_eq_ok.1 h
  exact ⟨(lookup_eq_some hfound).2, by rw [bomStatus, hfound, Option.map_some]⟩

theorem orderStatus_writeOrder (db : PlanningDb) (order : PlannedOrder) (id : Id) :
    (db.writeOrder order).orderStatus id =
      if order.id = id then some order.status else db.orderStatus id := by
  unfold orderStatus writeOrder
  rw [lookup_upsert]
  split_ifs <;> rfl

theorem orderStatus_of_plannedOrder {orderId : Id} {order : PlannedOrder}
    (h : db.plannedOrder orderId = .ok order) :
    order.id = orderId ∧ db.orderStatus orderId = some order.status := by
  have hfound := found_eq_ok.1 h
  exact ⟨(lookup_eq_some hfound).2, by rw [orderStatus, hfound, Option.map_some]⟩

theorem orderStatus_setStatus (db : PlanningDb) (orderIds : List Id) (status : PlannedOrderStatus)
    (id : Id) : (db.setStatus orderIds status).orderStatus id =
      if id ∈ orderIds then (db.orderStatus id).map fun _ => status else db.orderStatus id := by
  unfold orderStatus setStatus
  have hkeeps : ∀ order : PlannedOrder,
      (if order.id ∈ orderIds then { order with status := status } else order).id = order.id := by
    intro order
    split_ifs <;> rfl
  rw [lookup_map hkeeps, Option.map_map]
  cases hfound : lookup PlannedOrder.id db.plannedOrders id with
  | none => simp
  | some order =>
    obtain rfl := (lookup_eq_some hfound).2
    by_cases hid : order.id ∈ orderIds <;> simp [hid]

/-! ### One operation -/

/-- A bill keeps its status, moves along a transition, or is gone. -/
def BomMoves (db db' : PlanningDb) : Prop :=
  ∀ id status status', db.bomStatus id = some status → db'.bomStatus id = some status' →
    status' = status ∨ status' ∈ validTransitions status

theorem bomMoves_of_eq (h : db'.boms = db.boms) : BomMoves db db' := by
  intro id status status' hbefore hafter
  rw [bomStatus, h, ← bomStatus, hbefore] at hafter
  exact Or.inl (Option.some.inj hafter).symm

theorem bomMoves_append {rows : List BillOfMaterial} (h : db'.boms = db.boms ++ rows) :
    BomMoves db db' := by
  intro id status status' hbefore hafter
  rw [bomStatus, h, bomStatus_append hbefore] at hafter
  exact Or.inl (Option.some.inj hafter).symm

theorem bomMoves_writeBOM {bomId : Id} {bom bom' : BillOfMaterial} (hbom : db.bom bomId = .ok bom)
    (hid : bom'.id = bom.id)
    (hmove : bom'.status = bom.status ∨ bom'.status ∈ validTransitions bom.status) :
    BomMoves db (db.writeBOM bom') := by
  intro id status status' hbefore hafter
  obtain ⟨hbomId, hstatus⟩ := bomStatus_of_bom hbom
  rw [bomStatus_writeBOM, hid, hbomId] at hafter
  split_ifs at hafter with hsame
  · subst hsame
    rw [hstatus] at hbefore
    rw [← Option.some.inj hbefore, ← Option.some.inj hafter]
    exact hmove
  · rw [hbefore] at hafter
    exact Or.inl (Option.some.inj hafter).symm

theorem bomMoves_deleteBOM (db : PlanningDb) (bomId : Id) :
    BomMoves db { db with boms := db.boms.filter fun b => b.id ≠ bomId } := by
  intro id status status' hbefore hafter
  obtain ⟨bom, hbom, rfl⟩ := Option.map_eq_some_iff.1 hbefore
  obtain ⟨bom', hbom', rfl⟩ := Option.map_eq_some_iff.1 hafter
  -- a bill that is left is the one that was found before
  have hne : id ≠ bomId := by
    have hmem := (List.mem_filter.1 (lookup_eq_some hbom').1).2
    rw [(lookup_eq_some hbom').2] at hmem
    simpa using hmem
  have hsame : lookup BillOfMaterial.id (db.boms.filter fun b => b.id ≠ bomId) id =
      lookup BillOfMaterial.id db.boms id := by
    unfold lookup
    rw [List.find?_filter]
    refine congrArg (fun p => db.boms.find? p) (funext fun b => ?_)
    by_cases hb : b.id = id
    · simp [hb, hne]
    · simp [hb]
  rw [hsame, hbom] at hbom'
  exact Or.inl (congrArg BillOfMaterial.status (Option.some.inj hbom')).symm

/-- An order keeps its status or takes one that it may take; a new one is planned. -/
def OrderMoves (db db' : PlanningDb) : Prop :=
  ∀ id, db'.orderStatus id = db.orderStatus id ∨ db'.orderStatus id = some .cancelled ∨
    (db.orderStatus id = none ∧ db'.orderStatus id = some .planned) ∨
      (db.orderStatus id ≠ some .cancelled ∧ db'.orderStatus id = some .firmed) ∨
        (db.orderStatus id = some .firmed ∧ db'.orderStatus id = some .released)

theorem orderMoves_of_eq (h : db'.plannedOrders = db.plannedOrders) : OrderMoves db db' := by
  intro id
  left
  rw [orderStatus, h, orderStatus]

theorem orderMoves_append {order : PlannedOrder} (hstatus : order.status = .planned) :
    OrderMoves db { db with plannedOrders := db.plannedOrders ++ [order] } := by
  intro id
  unfold orderStatus
  rw [lookup_append]
  cases hbefore : lookup PlannedOrder.id db.plannedOrders id with
  | some before => exact Or.inl rfl
  | none =>
    rw [Option.none_or, lookup_cons]
    split_ifs
    · exact Or.inr (Or.inr (Or.inl ⟨rfl, congrArg some hstatus⟩))
    · exact Or.inl rfl

theorem orderMoves_writeOrder {orderId : Id} {order order' : PlannedOrder}
    (horder : db.plannedOrder orderId = .ok order) (hid : order'.id = order.id)
    (hmove : order'.status = order.status ∨ order'.status = .cancelled ∨
      (order.status = .planned ∧ order'.status = .firmed) ∨
        (order.status = .firmed ∧ order'.status = .released)) :
    OrderMoves db (db.writeOrder order') := by
  intro id
  obtain ⟨horderId, hstatus⟩ := orderStatus_of_plannedOrder horder
  rw [orderStatus_writeOrder, hid, horderId]
  split_ifs with hsame
  · subst hsame
    rw [hstatus]
    rcases hmove with h | h | ⟨h, h'⟩ | ⟨h, h'⟩
    · exact Or.inl (congrArg some h)
    · exact Or.inr (Or.inl (congrArg some h))
    · exact Or.inr (Or.inr (Or.inr (Or.inl ⟨by simp [h], congrArg some h'⟩)))
    · exact Or.inr (Or.inr (Or.inr (Or.inr ⟨congrArg some h, congrArg some h'⟩)))
  · exact Or.inl rfl

theorem orderMoves_setStatus {orderIds : List Id} {status : PlannedOrderStatus}
    (h : ∀ id ∈ orderIds, ∀ before ∈ db.orderStatus id, status = before ∨ status = .cancelled ∨
      (before ≠ .cancelled ∧ status = .firmed) ∨ (before = .firmed ∧ status = .released)) :
    OrderMoves db (db.setStatus orderIds status) := by
  intro id
  rw [orderStatus_setStatus]
  split_ifs with hid
  · cases hbefore : db.orderStatus id with
    | none => exact Or.inl rfl
    | some before =>
      rcases h id hid before hbefore with rfl | rfl | ⟨hne, rfl⟩ | ⟨rfl, rfl⟩
      · exact Or.inl rfl
      · exact Or.inr (Or.inl rfl)
      · exact Or.inr (Or.inr (Or.inr (Or.inl ⟨by simpa using hne, rfl⟩)))
      · exact Or.inr (Or.inr (Or.inr (Or.inr ⟨rfl, rfl⟩)))
  · exact Or.inl rfl

/-- The primary key of the planned orders. -/
def OrdersKeyed (db : PlanningDb) : Prop := (db.plannedOrders.map PlannedOrder.id).Nodup

instance (db : PlanningDb) : Decidable db.OrdersKeyed := inferInstanceAs (Decidable (List.Nodup _))

theorem ordersKeyed_of_eq (hkeyed : db.OrdersKeyed) (h : db'.plannedOrders = db.plannedOrders) :
    db'.OrdersKeyed := by
  rwa [OrdersKeyed, h]

theorem OrdersKeyed.writeOrder (hkeyed : db.OrdersKeyed) (order : PlannedOrder) :
    (db.writeOrder order).OrdersKeyed := nodup_keys_upsert hkeyed

theorem OrdersKeyed.setStatus (hkeyed : db.OrdersKeyed) (orderIds : List Id)
    (status : PlannedOrderStatus) : (db.setStatus orderIds status).OrdersKeyed := by
  unfold OrdersKeyed PlanningDb.setStatus
  rw [List.map_map]
  have hids : PlannedOrder.id ∘ (fun order : PlannedOrder =>
      if order.id ∈ orderIds then { order with status := status } else order) =
        PlannedOrder.id := by
    funext order
    rw [Function.comp_apply]
    split_ifs <;> rfl
  rw [hids]
  exact hkeyed

theorem orderStatus_of_convertible (hkeyed : db.OrdersKeyed) {orderType : PlannedOrderType}
    {orderIds : List Id} {order : PlannedOrder} (h : order ∈ db.convertible orderType orderIds) :
    db.orderStatus order.id = some .planned := by
  obtain ⟨hmem, hplanned⟩ := List.mem_filter.1 h
  rw [decide_eq_true_iff] at hplanned
  rw [orderStatus, lookup_of_mem hkeyed hmem, Option.map_some, hplanned.2.2]

theorem orderMoves_convert (hkeyed : db.OrdersKeyed) {orderType : PlannedOrderType}
    {orderIds : List Id} {orders : List PlannedOrder}
    (h : orders ⊆ db.convertible orderType orderIds) :
    OrderMoves db (db.setStatus (orders.map PlannedOrder.id) .firmed) := by
  refine orderMoves_setStatus fun id hid before hbefore => ?_
  obtain ⟨order, horder, rfl⟩ := List.mem_map.1 hid
  rw [orderStatus_of_convertible hkeyed (h horder), Option.mem_some_iff] at hbefore
  subst hbefore
  exact Or.inr (Or.inr (Or.inl ⟨by simp, rfl⟩))

theorem body_spec_createBOM {dto : CreateBOMParams} (h : db.createBOM dto = .ok db') :
    db'.plannedOrders = db.plannedOrders ∧ ∃ rows, db'.boms = db.boms ++ rows := by
  simp only [createBOM, bind_eq_ok] at h
  obtain ⟨-, -, -, -, h⟩ := h
  split_ifs at h <;> simp only [bind_eq_ok, pure_eq_ok] at h
  · obtain ⟨-, -, -, -, -, -, rfl⟩ := h
    exact ⟨rfl, _, rfl⟩
  · obtain ⟨-, -, -, -, rfl⟩ := h
    exact ⟨rfl, _, rfl⟩

/-- What a lawful operation does to the statuses. -/
theorem body_spec (hkeyed : db.OrdersKeyed) (hlawful : db.WritesLawfully a)
    (h : db.body a = .ok db') : BomMoves db db' ∧ OrderMoves db db' ∧ db'.OrdersKeyed := by
  cases a with
  | createBOM dto =>
    obtain ⟨horders, rows, hboms⟩ := body_spec_createBOM h
    exact ⟨bomMoves_append hboms, orderMoves_of_eq horders, ordersKeyed_of_eq hkeyed horders⟩
  | createBOMFromApi dto =>
    simp only [body, createBOMFromApi, bind_eq_ok] at h
    obtain ⟨productId, -, -, -, h⟩ := h
    obtain ⟨horders, rows, hboms⟩ := body_spec_createBOM h
    exact ⟨bomMoves_append hboms, orderMoves_of_eq horders, ordersKeyed_of_eq hkeyed horders⟩
  | updateBOM bomId dto =>
    simp only [body, updateBOM, bind_eq_ok, pure_eq_ok] at h
    obtain ⟨bom, hbom, -, -, quantity, -, rfl⟩ := h
    refine ⟨bomMoves_writeBOM hbom rfl ?_, orderMoves_of_eq rfl, hkeyed⟩
    cases hstatus : dto.status with
    | none => exact Or.inl rfl
    | some status => exact hlawful status hstatus bom.status (bomStatus_of_bom hbom).2
  | updateBOMStatus id status =>
    simp only [body, updateBOMStatus, bind_eq_ok, pure_eq_ok, throwWhen_eq_ok, not_not] at h
    obtain ⟨bom, hbom, -, hvalid, rfl⟩ := h
    exact ⟨bomMoves_writeBOM hbom rfl (Or.inr hvalid), orderMoves_of_eq rfl, hkeyed⟩
  | copyBOM bomId dto =>
    simp only [body, copyBOM, bind_eq_ok, pure_eq_ok] at h
    obtain ⟨bom, hbom, -, -, -, -, rfl⟩ := h
    exact ⟨bomMoves_append rfl, orderMoves_of_eq rfl, hkeyed⟩
  | deleteBOM bomId =>
    simp only [body, deleteBOM, bind_eq_ok, pure_eq_ok] at h
    obtain ⟨bom, hbom, rfl⟩ := h
    exact ⟨bomMoves_deleteBOM db bom.id, orderMoves_of_eq rfl, hkeyed⟩
  | addBOMComponent bomId dto =>
    simp only [body, addBOMComponent, bind_eq_ok, pure_eq_ok] at h
    obtain ⟨bom, hbom, -, -, amount, -, quantity, -, scrapPercent, -, rfl⟩ := h
    exact ⟨bomMoves_of_eq rfl, orderMoves_of_eq rfl, hkeyed⟩
  | updateBOMComponent componentId dto =>
    simp only [body, updateBOMComponent, bind_eq_ok, pure_eq_ok] at h
    obtain ⟨component, -, -, -, quantity, -, scrapPercent, -, rfl⟩ := h
    exact ⟨bomMoves_of_eq rfl, orderMoves_of_eq rfl, hkeyed⟩
  | deleteBOMComponent componentId =>
    simp only [body, deleteBOMComponent, bind_eq_ok, pure_eq_ok] at h
    obtain ⟨component, -, rfl⟩ := h
    exact ⟨bomMoves_of_eq rfl, orderMoves_of_eq rfl, hkeyed⟩
  | createPlannedOrder dto =>
    simp only [body, createPlannedOrder, bind_eq_ok, pure_eq_ok] at h
    obtain ⟨-, -, quantity, -, rfl⟩ := h
    refine ⟨bomMoves_of_eq rfl, orderMoves_append rfl, ?_⟩
    unfold OrdersKeyed
    rw [List.map_append]
    refine hkeyed.append (List.nodup_singleton _) fun id hold hnew => ?_
    rw [List.map_singleton, List.mem_singleton] at hnew
    subst hnew
    exact freshId_not_mem _ hold
  | updatePlannedOrder orderId dto =>
    simp only [body, updatePlannedOrder, bind_eq_ok, pure_eq_ok] at h
    obtain ⟨order, horder, quantity, -, rfl⟩ := h
    exact ⟨bomMoves_of_eq rfl, orderMoves_writeOrder horder rfl (Or.inl rfl), hkeyed.writeOrder _⟩
  | firmPlannedOrder orderId =>
    simp only [body, firmPlannedOrder, bind_eq_ok, pure_eq_ok, throwWhen_eq_ok, not_not] at h
    obtain ⟨order, horder, -, hplanned, rfl⟩ := h
    exact ⟨bomMoves_of_eq rfl, orderMoves_writeOrder horder rfl
      (Or.inr (Or.inr (Or.inl ⟨hplanned, rfl⟩))), hkeyed.writeOrder _⟩
  | releasePlannedOrder orderId =>
    simp only [body, releasePlannedOrder, bind_eq_ok, pure_eq_ok, throwWhen_eq_ok, not_not] at h
    obtain ⟨order, horder, -, hfirmed, rfl⟩ := h
    exact ⟨bomMoves_of_eq rfl, orderMoves_writeOrder horder rfl
      (Or.inr (Or.inr (Or.inr ⟨hfirmed, rfl⟩))), hkeyed.writeOrder _⟩
  | cancelPlannedOrder orderId =>
    simp only [body, cancelPlannedOrder, bind_eq_ok, pure_eq_ok] at h
    obtain ⟨order, horder, rfl⟩ := h
    exact ⟨bomMoves_of_eq rfl, orderMoves_writeOrder horder rfl (Or.inr (Or.inl rfl)),
      hkeyed.writeOrder _⟩
  | bulkUpdatePlannedOrders orderIds action =>
    simp only [body, bulkUpdatePlannedOrders, bind_eq_ok, pure_eq_ok, found_eq_ok] at h
    obtain ⟨-, -, status, hstatus, rfl⟩ := h
    refine ⟨bomMoves_of_eq rfl, orderMoves_setStatus fun id hid before hbefore => ?_,
      hkeyed.setStatus _ _⟩
    unfold statusOfAction at hstatus
    split_ifs at hstatus with hfirm hrelease hcancel
    · have hlive := hlawful.1 hfirm id hid
      rw [Option.mem_def.1 hbefore] at hlive
      exact Or.inr (Or.inr (Or.inl ⟨fun h => hlive (congrArg some h),
        (Option.some.inj hstatus).symm⟩))
    · rcases hlawful.2 hrelease id hid before hbefore with rfl | rfl
      · exact Or.inr (Or.inr (Or.inr ⟨rfl, (Option.some.inj hstatus).symm⟩))
      · exact Or.inl (Option.some.inj hstatus).symm
    · exact Or.inr (Or.inl (Option.some.inj hstatus).symm)
  | convertPlannedOrdersToPurchaseOrders orderIds =>
    simp only [body, convertPlannedOrdersToPurchaseOrders, bind_eq_ok, pure_eq_ok] at h
    obtain ⟨-, -, rfl⟩ := h
    exact ⟨bomMoves_of_eq rfl, orderMoves_convert hkeyed (List.filter_subset_self _),
      hkeyed.setStatus _ _⟩
  | convertPlannedOrdersToWorkOrders orderIds =>
    simp only [body, convertPlannedOrdersToWorkOrders, bind_eq_ok, pure_eq_ok] at h
    obtain ⟨-, -, rfl⟩ := h
    exact ⟨bomMoves_of_eq rfl, orderMoves_convert hkeyed (List.Subset.refl _),
      hkeyed.setStatus _ _⟩

theorem next_spec (hkeyed : db.OrdersKeyed) (hlawful : db.WritesLawfully a) :
    BomMoves db (db.next a) ∧ OrderMoves db (db.next a) ∧ (db.next a).OrdersKeyed := by
  unfold next
  cases hbody : db.body a with
  | error e => exact ⟨bomMoves_of_eq rfl, orderMoves_of_eq rfl, hkeyed⟩
  | ok db' => exact body_spec hkeyed hlawful hbody

theorem OrderMoves.cancelled (h : OrderMoves db db') {id : Id}
    (hcancelled : db.orderStatus id = some .cancelled) :
    db'.orderStatus id = some .cancelled := by
  rcases h id with h | h | ⟨h, -⟩ | ⟨h, -⟩ | ⟨h, -⟩
  · rw [h, hcancelled]
  · exact h
  · rw [hcancelled] at h
    cases h
  · exact absurd hcancelled h
  · rw [hcancelled] at h
    cases h

theorem OrderMoves.released (h : OrderMoves db db') {id : Id}
    (hreleased : db'.orderStatus id = some .released) :
    db.orderStatus id = some .released ∨ db.orderStatus id = some .firmed := by
  rcases h id with h | h | ⟨-, h⟩ | ⟨-, h⟩ | ⟨h, -⟩
  · exact Or.inl (h ▸ hreleased)
  · rw [hreleased] at h
    cases h
  · rw [hreleased] at h
    cases h
  · rw [hreleased] at h
    cases h
  · exact Or.inr h

end PlanningDb

open PlanningDb

/-- The statuses along a run of operations. -/
structure StatusLaw (start : PlanningDb) (actions : List PlanningAction) : Prop where
  /-- A bill moves along the declared transitions, of which none leaves `OBSOLETE`. -/
  transitions : ∀ k a id status status', actions[k]? = some a →
    (stateAt next start actions k).bomStatus id = some status →
      (stateAt next start actions (k + 1)).bomStatus id = some status' →
        status' = status ∨ status' ∈ validTransitions status
  /-- An order that is released was so from the start or was firmed before. -/
  released : ∀ k id, k ≤ actions.length →
    (stateAt next start actions k).orderStatus id = some .released →
      start.orderStatus id = some .released ∨
        ∃ j < k, (stateAt next start actions j).orderStatus id = some .firmed
  /-- A cancelled order stays cancelled. -/
  cancelled : ∀ k a id, actions[k]? = some a →
    (stateAt next start actions k).orderStatus id = some .cancelled →
      (stateAt next start actions (k + 1)).orderStatus id = some .cancelled

theorem statusLaw_of_writesLawfully (start : PlanningDb) (actions : List PlanningAction)
    (hkeyed : start.OrdersKeyed) (h : Always next WritesLawfully start actions) :
    StatusLaw start actions := by
  have hkeys : ∀ k, (stateAt next start actions k).OrdersKeyed := fun k =>
    h.invariant_at (I := OrdersKeyed) (fun _ _ hk hlawful => (next_spec hk hlawful).2.2) hkeyed k
  have hstep : ∀ k a, actions[k]? = some a →
      BomMoves (stateAt next start actions k) (stateAt next start actions (k + 1)) ∧
        OrderMoves (stateAt next start actions k) (stateAt next start actions (k + 1)) := by
    intro k a ha
    rw [stateAt_succ next start ha]
    have hspec := next_spec (hkeys k) (h.at ha)
    exact ⟨hspec.1, hspec.2.1⟩
  constructor
  · intro k a id status status' ha
    exact (hstep k a ha).1 id status status'
  · intro k id hk hreleased
    induction k with
    | zero => exact Or.inl hreleased
    | succ k ih =>
      have ha : actions[k]? = some actions[k] := List.getElem?_eq_getElem hk
      rcases (hstep k _ ha).2.released hreleased with hbefore | hfirmed
      · rcases ih (Nat.le_of_succ_le hk) hbefore with hstart | ⟨j, hj, hfirmed⟩
        · exact Or.inl hstart
        · exact Or.inr ⟨j, Nat.lt_succ_of_lt hj, hfirmed⟩
      · exact Or.inr ⟨k, Nat.lt_succ_self k, hfirmed⟩
  · intro k a id ha
    exact (hstep k a ha).2.cancelled

/-- Two products and nothing else. -/
def twoProducts : PlanningDb := ⟨[1, 2], [], [], []⟩

def billAndOrder : List PlanningAction :=
  [.createBOM { parentProductId := 1, components := some [⟨2, 3, none⟩] },
    .createPlannedOrder ⟨1, 5, .production, 2, 7, 0⟩]

def approvedAndReleased : List PlanningAction :=
  billAndOrder ++ [.updateBOM 1 { status := some .active }, .bulkUpdatePlannedOrders [1] "firm",
    .bulkUpdatePlannedOrders [1] "release"]

theorem statusLaw_approvedAndReleased : StatusLaw twoProducts approvedAndReleased :=
  statusLaw_of_writesLawfully _ _ (by decide) (by decide +kernel)

/-- The bulk update releases an order that is only planned. -/
theorem not_statusLaw_bulkRelease :
    ¬StatusLaw twoProducts (billAndOrder ++ [.bulkUpdatePlannedOrders [1] "release"]) := by
  intro h
  have hnever : ∀ j < 3, (stateAt next twoProducts
      (billAndOrder ++ [.bulkUpdatePlannedOrders [1] "release"]) j).orderStatus 1 ≠
        some .firmed := by decide +kernel
  rcases h.released 3 1 (by decide) (by decide +kernel) with hstart | ⟨j, hj, hfirmed⟩
  · revert hstart
    decide
  · exact hnever j hj hfirmed

end Forecast.Planning
