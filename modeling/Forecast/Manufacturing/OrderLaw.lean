import Forecast.Manufacturing.FactoryFrames

/-!
# Purchase orders and their receipts

What was received on the lines of an order against the receipts that were confirmed for
them. A receipt names lines of the order but keeps their products, and is counted on the
first line of each product, whatever the order has become by then.
-/

open KeyedTable DecimalColumn Transactions Runs

namespace Forecast.Manufacturing

def GoodsReceipt.quantityFor (gr : GoodsReceipt) (lineId : Id) : Decimal :=
  ((gr.lines.filter fun line => line.purchaseOrderLineId = lineId).map fun line =>
    line.quantity.value).sum

def GoodsReceipt.confirmedFor (orderId lineId : Id) (gr : GoodsReceipt) : Decimal :=
  if gr.status = .posted ∧ gr.purchaseOrderId = some orderId then gr.quantityFor lineId else 0

def FactoryDb.confirmedQty (db : FactoryDb) (orderId lineId : Id) : Decimal :=
  (db.goodsReceipts.map (GoodsReceipt.confirmedFor orderId lineId)).sum

/-- The order at a time: what its lines received, and its status. -/
structure PurchaseOrder.Counted (db : FactoryDb) (po : PurchaseOrder) : Prop where
  received : ∀ l ∈ po.lines, l.receivedQty.value = db.confirmedQty po.id l.id
  covered : ∀ l ∈ po.lines, l.receivedQty.value ≤ l.quantity.value
  status : po.status = .received ↔ ∀ l ∈ po.lines, l.quantity.value ≤ l.receivedQty.value

/-- The rows have keys of their own, and every order is counted. -/
structure FactoryDb.Counted (db : FactoryDb) : Prop where
  receipts : (db.goodsReceipts.map GoodsReceipt.id).Nodup
  lines : ∀ id, ∀ po ∈ db.purchaseOrder id, (po.lines.map PurchaseOrderLine.id).Nodup
  orders : ∀ id, ∀ po ∈ db.purchaseOrder id, po.Counted db

namespace FactoryDb

/-- A receipt is confirmed for an order that was not cancelled; its lines name the first
line of their product and bring no more than is open on it. -/
def Receivable (db : FactoryDb) (po : PurchaseOrder) (gr : GoodsReceipt) : Prop :=
  po.status ≠ .cancelled ∧
    (∀ line ∈ gr.lines, line.quantity.value ≠ 0 →
      (orderLineOf po line.productId).map PurchaseOrderLine.id = some line.purchaseOrderLineId) ∧
    ∀ l ∈ po.lines, db.confirmedQty po.id l.id + gr.quantityFor l.id ≤ l.quantity.value

instance (db : FactoryDb) (po : PurchaseOrder) (gr : GoodsReceipt) :
    Decidable (db.Receivable po gr) := inferInstanceAs (Decidable (_ ∧ _ ∧ _))

def ReceivesOpenLines (db : FactoryDb) (c : FactoryCall) : Prop :=
  match c.op with
  | .confirmGoodsReceipt id => db.costing.hasProcessed (confirmKey id) = false →
      ∀ gr ∈ lookup GoodsReceipt.id db.goodsReceipts id, gr.status = .pending →
        ∀ orderId ∈ gr.purchaseOrderId, ∀ po ∈ db.purchaseOrder orderId, db.Receivable po gr
  | _ => True

instance (db : FactoryDb) : DecidablePred db.ReceivesOpenLines
  | ⟨_, .confirmGoodsReceipt _⟩ => inferInstanceAs (Decidable (_ → _))
  | ⟨_, .releasePurchaseOrder _⟩ | ⟨_, .createGoodsReceipt _⟩ | ⟨_, .cancelPurchaseOrder _⟩
  | ⟨_, .createInventoryTransaction _⟩ | ⟨_, .adjustInventory _⟩ | ⟨_, .transferInventory _⟩
  | ⟨_, .releaseWorkOrder _⟩ | ⟨_, .startWorkOrder _⟩ | ⟨_, .issueMaterial _⟩
  | ⟨_, .backflushMaterials _ _⟩ | ⟨_, .reportProductionCompletion _⟩ | ⟨_, .completeWorkOrder _⟩ | ⟨_, .cancelWorkOrder _⟩
  | ⟨_, .updateQualityInspectionStatus _ _⟩ => inferInstanceAs (Decidable True)

end FactoryDb

/-! ### Counting a receipt on its order -/

def PurchaseOrderLine.terms (l : PurchaseOrderLine) : PurchaseOrderLine :=
  { l with receivedQty := .zero }

namespace PurchaseOrder

def countedOn (po : PurchaseOrder) (lines : List GoodsReceiptLine) (lineId : Id) : Decimal :=
  (lines.map fun line =>
    if (FactoryDb.orderLineOf po line.productId).map PurchaseOrderLine.id = some lineId then
      line.quantity.value
    else 0).sum

/-- The order after quantities were added to its lines. -/
structure Receives (po : PurchaseOrder) (added : Id → Decimal) (po' : PurchaseOrder) : Prop where
  id : po'.id = po.id
  status : po'.status = po.status
  lines : po'.lines.map (fun l => (l.terms, l.receivedQty.value)) =
    po.lines.map fun l => (l.terms, l.receivedQty.value + added l.id)

namespace Receives

variable {po po' po'' : PurchaseOrder} {added added' : Id → Decimal}

theorem refl (po : PurchaseOrder) : po.Receives (fun _ => 0) po :=
  ⟨rfl, rfl, by simp only [add_zero]⟩

theorem terms (h : po.Receives added po') :
    po'.lines.map PurchaseOrderLine.terms = po.lines.map PurchaseOrderLine.terms := by
  have hlines := congrArg (List.map Prod.fst) h.lines
  rwa [List.map_map, List.map_map] at hlines

theorem trans (h : po.Receives added po') (h' : po'.Receives added' po'') :
    po.Receives (fun id => added id + added' id) po'' := by
  refine ⟨h'.id.trans h.id, h'.status.trans h.status, h'.lines.trans ?_⟩
  have hlines := congrArg
    (List.map fun p : PurchaseOrderLine × Decimal => (p.1, p.2 + added' p.1.id)) h.lines
  simp only [List.map_map, Function.comp_def] at hlines
  simpa only [PurchaseOrderLine.terms, add_assoc] using hlines

theorem lineIds (h : po.Receives added po') :
    po'.lines.map PurchaseOrderLine.id = po.lines.map PurchaseOrderLine.id := by
  have hids := congrArg (List.map PurchaseOrderLine.id) h.terms
  rwa [List.map_map, List.map_map] at hids

theorem exists_line (h : po.Receives added po') {l' : PurchaseOrderLine} (hl' : l' ∈ po'.lines) :
    ∃ l ∈ po.lines, l'.id = l.id ∧ l'.quantity = l.quantity ∧
      l'.receivedQty.value = l.receivedQty.value + added l.id := by
  have hmem := List.mem_map_of_mem (f := fun l : PurchaseOrderLine =>
    (l.terms, l.receivedQty.value)) hl'
  rw [h.lines, List.mem_map] at hmem
  obtain ⟨l, hl, heq⟩ := hmem
  rw [Prod.mk.injEq] at heq
  have hterms := heq.1
  exact ⟨l, hl, (congrArg PurchaseOrderLine.id hterms).symm,
    (congrArg PurchaseOrderLine.quantity hterms).symm, heq.2.symm⟩

theorem orderLineOf (h : po.Receives added po') (productId : Id) :
    (FactoryDb.orderLineOf po' productId).map PurchaseOrderLine.id =
      (FactoryDb.orderLineOf po productId).map PurchaseOrderLine.id := by
  have hfind : ∀ p : PurchaseOrder, (FactoryDb.orderLineOf p productId).map PurchaseOrderLine.id =
      ((p.lines.map PurchaseOrderLine.terms).find? fun l => l.productId = productId).map
        PurchaseOrderLine.id := by
    intro p
    rw [FactoryDb.orderLineOf, List.find?_map, Option.map_map]
    rfl
  rw [hfind, hfind, h.terms]

theorem countedOn (h : po.Receives added po') (lines : List GoodsReceiptLine) (lineId : Id) :
    po'.countedOn lines lineId = po.countedOn lines lineId := by
  simp only [PurchaseOrder.countedOn, h.orderLineOf]

end Receives

theorem receives_upsert {po : PurchaseOrder} (hunique : (po.lines.map PurchaseOrderLine.id).Nodup)
    {l : PurchaseOrderLine} (hl : l ∈ po.lines) {q : Decimal} {receivedQty : Inventory.Qty}
    (hq : receivedQty.value = l.receivedQty.value + q) :
    po.Receives (fun id => if l.id = id then q else 0)
      { po with
        lines := upsert PurchaseOrderLine.id po.lines { l with receivedQty := receivedQty } } := by
  refine ⟨rfl, rfl, ?_⟩
  change (upsert PurchaseOrderLine.id po.lines _).map _ = _
  have hmem : ({ l with receivedQty := receivedQty } : PurchaseOrderLine).id ∈
      po.lines.map PurchaseOrderLine.id := List.mem_map.2 ⟨l, hl, rfl⟩
  rw [upsert_eq_map hunique hmem, List.map_map]
  apply List.map_congr_left
  intro y hy
  by_cases hid : y.id = l.id
  · obtain rfl := List.inj_on_of_nodup_map hunique hy hl hid
    simp only [Function.comp_apply, if_true, hq]
    rfl
  · simp only [Function.comp_apply, if_neg hid, if_neg (Ne.symm hid), add_zero]

end PurchaseOrder

namespace FactoryDb

variable {ctx : FactoryContext} {db db' db'' : FactoryDb} {po po' : PurchaseOrder}

/-- One order is written, and no receipt. -/
structure WritesOrder (db : FactoryDb) (po : PurchaseOrder) (db' : FactoryDb) : Prop where
  order : db'.purchaseOrder po.id = some po
  others : ∀ id, id ≠ po.id → db'.purchaseOrder id = db.purchaseOrder id
  goodsReceipts : db'.goodsReceipts = db.goodsReceipts

namespace WritesOrder

theorem of_lookup {orderId : Id} (h : db.purchaseOrder orderId = some po) :
    db.WritesOrder po db := by
  obtain ⟨-, rfl⟩ := lookup_eq_some h
  exact ⟨h, fun _ _ => rfl, rfl⟩

theorem writeOrder (db : FactoryDb) (po : PurchaseOrder) :
    db.WritesOrder po (db.writeOrder po) where
  order := by
    change lookup PurchaseOrder.id (upsert PurchaseOrder.id db.purchaseOrders po) po.id = some po
    rw [lookup_upsert, if_pos rfl]
  others := by
    intro id hid
    change lookup PurchaseOrder.id (upsert PurchaseOrder.id db.purchaseOrders po) id = _
    rw [lookup_upsert, if_neg (Ne.symm hid)]
    rfl
  goodsReceipts := rfl

theorem trans (h : db.WritesOrder po db') (h' : db'.WritesOrder po' db'') (hid : po'.id = po.id) :
    db.WritesOrder po' db'' where
  order := h'.order
  others := fun id hne => (h'.others id hne).trans (h.others id (hid ▸ hne))
  goodsReceipts := h'.goodsReceipts.trans h.goodsReceipts

end WritesOrder

theorem countLine_eq_ok {orderId : Id} {line : GoodsReceiptLine}
    (h : countLine orderId db line = .ok db') (hpo : db.purchaseOrder orderId = some po)
    (hunique : (po.lines.map PurchaseOrderLine.id).Nodup) :
    ∃ po', po.Receives (po.countedOn [line]) po' ∧ db.WritesOrder po' db' := by
  simp only [countLine, hpo] at h
  cases hline : orderLineOf po line.productId with
  | none =>
    simp only [hline] at h
    cases h
    refine ⟨po, ?_, .of_lookup hpo⟩
    have hnone : po.countedOn [line] = fun _ => 0 := by
      funext lineId
      simp [PurchaseOrder.countedOn, hline]
    exact hnone ▸ .refl po
  | some l =>
    simp only [hline, bind_eq_ok, pure_eq_ok, columnOf_eq_ok] at h
    obtain ⟨receivedQty, hreceived, rfl⟩ := h
    have hq : receivedQty.value = l.receivedQty.value + line.quantity.value :=
      Column.value_of_store hreceived (l.receivedQty.onScale_value.add line.quantity.onScale_value)
    have hsome : po.countedOn [line] =
        fun lineId => if l.id = lineId then line.quantity.value else 0 := by
      funext lineId
      simp [PurchaseOrder.countedOn, hline]
    exact ⟨_, hsome ▸ PurchaseOrder.receives_upsert hunique (List.mem_of_find?_eq_some hline) hq,
      .writeOrder db _⟩

theorem countLines_eq_ok {orderId : Id} {lines : List GoodsReceiptLine}
    (h : forEach (countLine orderId) db lines = .ok db')
    (hpo : db.purchaseOrder orderId = some po)
    (hunique : (po.lines.map PurchaseOrderLine.id).Nodup) :
    ∃ po', po.Receives (po.countedOn lines) po' ∧ db.WritesOrder po' db' := by
  induction lines generalizing db po with
  | nil =>
    cases h
    exact ⟨po, .refl po, .of_lookup hpo⟩
  | cons line lines ih =>
    obtain ⟨m, hm, h⟩ := forEach_cons_eq_ok.1 h
    obtain ⟨po₁, hreceives, hwrites⟩ := countLine_eq_ok hm hpo hunique
    have hid : po₁.id = orderId := hreceives.id.trans (lookup_eq_some hpo).2
    obtain ⟨po₂, hreceives', hwrites'⟩ := ih h (hid ▸ hwrites.order) (hreceives.lineIds ▸ hunique)
    refine ⟨po₂, ?_, hwrites.trans hwrites' hreceives'.id⟩
    have hsum : po.countedOn (line :: lines) =
        fun lineId => po.countedOn [line] lineId + po₁.countedOn lines lineId := by
      funext lineId
      rw [hreceives.countedOn]
      simp [PurchaseOrder.countedOn]
    exact hsum ▸ hreceives.trans hreceives'

theorem countLines_of_none {orderId : Id} {lines : List GoodsReceiptLine}
    (h : forEach (countLine orderId) db lines = .ok db')
    (hpo : db.purchaseOrder orderId = none) : db' = db := by
  induction lines with
  | nil =>
    cases h
    rfl
  | cons line lines ih =>
    obtain ⟨m, hm, h⟩ := forEach_cons_eq_ok.1 h
    simp only [countLine, hpo] at hm
    cases hm
    exact ih h

/-! ### Confirming a receipt -/

end FactoryDb

def GoodsReceiptLine.unbatched (line : GoodsReceiptLine) : GoodsReceiptLine :=
  { line with batchId := none }

/-- The receipt as it is posted: its lines may have got batches. -/
structure GoodsReceipt.PostedAs (gr posted : GoodsReceipt) : Prop where
  id : posted.id = gr.id
  purchaseOrderId : posted.purchaseOrderId = gr.purchaseOrderId
  status : posted.status = .posted
  lines : posted.lines.map GoodsReceiptLine.unbatched = gr.lines.map GoodsReceiptLine.unbatched

namespace GoodsReceipt.PostedAs

variable {gr posted : GoodsReceipt}

theorem quantityFor (h : gr.PostedAs posted) (lineId : Id) :
    posted.quantityFor lineId = gr.quantityFor lineId := by
  have hmap : ∀ r : GoodsReceipt, r.quantityFor lineId =
      (((r.lines.map GoodsReceiptLine.unbatched).filter fun line =>
        line.purchaseOrderLineId = lineId).map fun line => line.quantity.value).sum := by
    intro r
    rw [GoodsReceipt.quantityFor, List.filter_map, List.map_map]
    rfl
  rw [hmap, hmap, h.lines]

theorem countedOn (h : gr.PostedAs posted) (po : PurchaseOrder) (lineId : Id) :
    po.countedOn posted.lines lineId = po.countedOn gr.lines lineId := by
  have hmap : ∀ r : GoodsReceipt, po.countedOn r.lines lineId =
      po.countedOn (r.lines.map GoodsReceiptLine.unbatched) lineId := by
    intro r
    rw [PurchaseOrder.countedOn, PurchaseOrder.countedOn, List.map_map]
    rfl
  rw [hmap, hmap, h.lines]

end GoodsReceipt.PostedAs

namespace FactoryDb

variable {ctx : FactoryContext} {db db' db'' : FactoryDb} {po po' : PurchaseOrder}

theorem unbatched_batchFor (lines : List GoodsReceiptLine)
    (state : List Inventory.Batch × List GoodsReceiptLine) :
    (lines.foldl (batchFor ctx) state).2.map GoodsReceiptLine.unbatched =
      state.2.map GoodsReceiptLine.unbatched ++ lines.map GoodsReceiptLine.unbatched := by
  induction lines generalizing state with
  | nil => simp
  | cons line lines ih =>
    rw [List.foldl_cons, ih, batchFor]
    split_ifs <;> simp [GoodsReceiptLine.unbatched]

theorem postedAs_postReceipt (gr : GoodsReceipt) : gr.PostedAs (db.postReceipt ctx gr).2 where
  id := rfl
  purchaseOrderId := rfl
  status := rfl
  lines := by
    have hlines : (gr.lines.foldl (batchFor ctx) (db.costing.stock.batches, [])).2.map
        GoodsReceiptLine.unbatched = _ := unbatched_batchFor gr.lines _
    rwa [List.map_nil, List.nil_append] at hlines

theorem countOnOrder_eq_ok {gr : GoodsReceipt} {locationId : Id}
    (h : db.countOnOrder ctx gr locationId = .ok db') :
    (gr.purchaseOrderId = none ∧ db' = db) ∨
      ∃ orderId costed counted, gr.purchaseOrderId = some orderId ∧ SameDocuments db costed ∧
        forEach (countLine orderId) costed gr.lines = .ok counted ∧
        db' = counted.settleOrder orderId := by
  unfold countOnOrder at h
  cases horder : gr.purchaseOrderId with
  | none =>
    simp only [horder] at h
    cases h
    exact Or.inl ⟨rfl, rfl⟩
  | some orderId =>
    simp only [horder, bind_eq_ok, pure_eq_ok] at h
    obtain ⟨costed, hcosted, counted, hcounted, rfl⟩ := h
    exact Or.inr ⟨orderId, costed, counted, rfl, sameDocuments_costLines hcosted, hcounted, rfl⟩

theorem confirmGoodsReceipt_eq_ok {id : Id} (h : db.confirmGoodsReceipt ctx id = .ok db') :
    (db.costing.hasProcessed (confirmKey id) = true ∧ db' = db) ∨
      ∃ gr posted received, db.costing.hasProcessed (confirmKey id) = false ∧
        lookup GoodsReceipt.id db.goodsReceipts id = some gr ∧ gr.status = .pending ∧
        gr.PostedAs posted ∧
        SameDocuments
          { db with goodsReceipts := upsert GoodsReceipt.id db.goodsReceipts posted } received ∧
        received.countOnOrder ctx posted (ctx.location.getD gr.locationId) = .ok db' := by
  unfold confirmGoodsReceipt at h
  by_cases hkey : db.costing.hasProcessed (confirmKey id)
  · rw [if_pos hkey] at h
    cases h
    exact Or.inl ⟨hkey, rfl⟩
  · rw [if_neg hkey] at h
    simp only [bind_eq_ok, found_eq_ok, throwWhen_eq_ok, not_not] at h
    obtain ⟨gr, hgr, -, hpending, received, hreceived, h⟩ := h
    refine Or.inr ⟨gr, _, received, Bool.eq_false_iff.2 hkey, hgr, hpending,
      postedAs_postReceipt gr, SameDocuments.trans ?_
        (.forEach (fun _ _ _ => sameDocuments_receiveLine) hreceived), h⟩
    exact ⟨rfl, rfl, rfl, rfl, rfl, rfl⟩

/-! ### What every call keeps -/

theorem confirmedQty_of_goodsReceipts (h : db'.goodsReceipts = db.goodsReceipts)
    (orderId lineId : Id) : db'.confirmedQty orderId lineId = db.confirmedQty orderId lineId := by
  rw [confirmedQty, confirmedQty, h]

/-- The orders are the same, and so is what was confirmed for them. -/
structure SameReceived (db db' : FactoryDb) : Prop where
  purchaseOrder : ∀ id, db'.purchaseOrder id = db.purchaseOrder id
  confirmedQty : ∀ orderId lineId, db'.confirmedQty orderId lineId = db.confirmedQty orderId lineId
  receipts : (db.goodsReceipts.map GoodsReceipt.id).Nodup →
    (db'.goodsReceipts.map GoodsReceipt.id).Nodup

namespace SameReceived

theorem of_eq (hpurchaseOrders : db'.purchaseOrders = db.purchaseOrders)
    (hgoodsReceipts : db'.goodsReceipts = db.goodsReceipts) : db.SameReceived db' where
  purchaseOrder id := by rw [FactoryDb.purchaseOrder, hpurchaseOrders]; rfl
  confirmedQty := confirmedQty_of_goodsReceipts hgoodsReceipts
  receipts h := hgoodsReceipts ▸ h

theorem of_sameDocuments (h : SameDocuments db db') : db.SameReceived db' :=
  of_eq h.purchaseOrders h.goodsReceipts

theorem trans (h : db.SameReceived db') (h' : db'.SameReceived db'') : db.SameReceived db'' where
  purchaseOrder id := (h'.purchaseOrder id).trans (h.purchaseOrder id)
  confirmedQty orderId lineId :=
    (h'.confirmedQty orderId lineId).trans (h.confirmedQty orderId lineId)
  receipts hunique := h'.receipts (h.receipts hunique)

end SameReceived

theorem Counted.same (hdb : db.Counted) (h : db.SameReceived db') : db'.Counted where
  receipts := h.receipts hdb.receipts
  lines id po hpo := hdb.lines id po (h.purchaseOrder id ▸ hpo)
  orders id po hpo := by
    have hcounted := hdb.orders id po (h.purchaseOrder id ▸ hpo)
    refine ⟨fun l hl => ?_, hcounted.covered, hcounted.status⟩
    rw [hcounted.received l hl, h.confirmedQty]

theorem sameReceived_createGoodsReceipt {params : CreateReceiptParams}
    (h : db.createGoodsReceipt params = .ok db') : db.SameReceived db' := by
  simp only [createGoodsReceipt, bind_eq_ok, pure_eq_ok] at h
  obtain ⟨po, -, -, -, lines, -, rfl⟩ := h
  refine ⟨fun _ => rfl, fun orderId lineId => ?_, fun hunique => ?_⟩
  · simp [confirmedQty, GoodsReceipt.confirmedFor]
  · simp only [List.map_append, List.map_singleton]
    exact hunique.append (List.nodup_singleton _)
      (List.disjoint_singleton.2 (freshId_not_mem _))

theorem sameReceived_setQcStatus {goodsReceiptId : Id} {qcStatus : GoodsReceiptQcStatus}
    (h : db.setQcStatus goodsReceiptId qcStatus = .ok db') : db.SameReceived db' := by
  simp only [setQcStatus, bind_eq_ok, pure_eq_ok, found_eq_ok] at h
  obtain ⟨gr, hgr, rfl⟩ := h
  obtain ⟨-, rfl⟩ := lookup_eq_some hgr
  refine ⟨fun _ => rfl, fun orderId lineId => ?_, nodup_keys_upsert⟩
  have hsum := sum_map_upsert (x := { gr with qcStatus := qcStatus })
    (GoodsReceipt.confirmedFor orderId lineId) hgr
  refine hsum.trans ?_
  have hsame : GoodsReceipt.confirmedFor orderId lineId { gr with qcStatus := qcStatus } =
      GoodsReceipt.confirmedFor orderId lineId gr := rfl
  rw [hsame, sub_self, add_zero]
  rfl

theorem sameReceived_decide {inspection : QualityInspection} {status : InspectionStatus}
    (h : db.decide ctx inspection status = .ok db') : db.SameReceived db' := by
  unfold FactoryDb.decide at h
  split at h
  · simp only [bind_eq_ok] at h
    obtain ⟨released, hreleased, h⟩ := h
    exact (SameReceived.of_sameDocuments (sameDocuments_releaseHolds hreleased)).trans
      (sameReceived_setQcStatus h)
  · simp only [bind_eq_ok] at h
    obtain ⟨released, hreleased, h⟩ := h
    exact (SameReceived.of_sameDocuments (sameDocuments_releaseHolds hreleased)).trans
      (sameReceived_setQcStatus h)
  · exact (SameReceived.of_sameDocuments (sameDocuments_rejectHolds _ _)).trans
      (sameReceived_setQcStatus h)
  · cases h
    exact .of_eq rfl rfl

theorem sameReceived_updateQualityInspectionStatus {id : Id} {status : InspectionStatus}
    (h : db.updateQualityInspectionStatus ctx id status = .ok db') : db.SameReceived db' := by
  simp only [updateQualityInspectionStatus, bind_eq_ok] at h
  obtain ⟨inspection, -, h⟩ := h
  refine SameReceived.trans ?_ (sameReceived_decide h)
  exact .of_eq rfl rfl

theorem sameReceived_issueMaterial {params : IssueParams}
    (h : db.issueMaterial ctx params = .ok db') : db.SameReceived db' := by
  obtain ⟨order, quantity, -, -, -, hsame⟩ := issueMaterial_eq_ok h
  exact .of_eq hsame.purchaseOrders hsame.goodsReceipts

theorem sameReceived_backflushMaterials {id : Id} {completedQty : Decimal} :
    db.SameReceived (db.backflushMaterials ctx id completedQty).left ∧
      ∀ db', (db.backflushMaterials ctx id completedQty).result = .ok db' →
        db.SameReceived db' :=
  backflushMaterials_invariant (I := db.SameReceived)
    (fun _ _ _ _ hs h => hs.trans (sameReceived_issueMaterial h)) (.of_eq rfl rfl)

theorem sameReceived_reportProductionCompletion {params : CompletionParams} :
    db.SameReceived (transaction (db.reportProductionCompletion ctx params).left
      (db.reportProductionCompletion ctx params).result) := by
  apply reportProductionCompletion_invariant (I := db.SameReceived)
  · exact fun _ _ => sameReceived_backflushMaterials.1
  · intro db' order completion _ _ h
    obtain ⟨settled, -, hsame⟩ := completeReport_eq_ok h
    exact .of_eq hsame.purchaseOrders hsame.goodsReceipts
  · exact .of_eq rfl rfl

/-- The calls that write no order, and no receipt but to open or to inspect it. -/
def WritesNoOrder : FactoryOp → Bool
  | .releasePurchaseOrder _ | .confirmGoodsReceipt _ | .cancelPurchaseOrder _ => false
  | _ => true

theorem sameReceived_next {c : FactoryCall} (h : WritesNoOrder c.op = true) :
    db.SameReceived (db.next c) := by
  have hrefl : db.SameReceived db := .of_eq rfl rfl
  obtain ⟨ctx, op⟩ := c
  cases op with
  | releasePurchaseOrder id => cases h
  | confirmGoodsReceipt id => cases h
  | cancelPurchaseOrder id => cases h
  | createGoodsReceipt params =>
    exact outcome_invariant hrefl fun _ => sameReceived_createGoodsReceipt
  | createInventoryTransaction params =>
    exact outcome_invariant hrefl fun _ h =>
      .of_sameDocuments (sameDocuments_createInventoryTransaction h)
  | adjustInventory params =>
    exact outcome_invariant hrefl fun _ h => .of_sameDocuments (sameDocuments_adjustInventory h)
  | transferInventory params =>
    exact outcome_invariant hrefl fun _ h => .of_sameDocuments (sameDocuments_transferInventory h)
  | releaseWorkOrder id =>
    refine outcome_invariant hrefl fun db' h => ?_
    obtain ⟨order, -, -, hsame⟩ := releaseWorkOrder_eq_ok h
    exact .of_eq hsame.purchaseOrders hsame.goodsReceipts
  | startWorkOrder id =>
    refine outcome_invariant hrefl fun db' h => ?_
    obtain ⟨order, -, -, rfl⟩ := startWorkOrder_eq_ok h
    exact .of_eq rfl rfl
  | issueMaterial params =>
    exact outcome_invariant hrefl fun _ => sameReceived_issueMaterial
  | backflushMaterials id completedQty =>
    obtain ⟨hleft, hresult⟩ := sameReceived_backflushMaterials
    exact outcome_invariant hleft hresult
  | reportProductionCompletion params => exact sameReceived_reportProductionCompletion
  | completeWorkOrder id =>
    refine outcome_invariant hrefl fun db' h => ?_
    rcases completeWorkOrder_eq_ok h with ⟨-, rfl⟩ | ⟨order, -, -, hsame⟩
    · exact hrefl
    · exact .of_eq hsame.purchaseOrders hsame.goodsReceipts
  | cancelWorkOrder id =>
    refine outcome_invariant hrefl fun db' h => ?_
    obtain ⟨order, -, -, -, hsame⟩ := cancelWorkOrder_eq_ok h
    exact .of_eq hsame.purchaseOrders hsame.goodsReceipts
  | updateQualityInspectionStatus id status =>
    exact outcome_invariant hrefl fun _ => sameReceived_updateQualityInspectionStatus

/-! ### The calls that write orders -/

theorem Counted.writeStatus (hdb : db.Counted) {id : Id} (hpo : db.purchaseOrder id = some po)
    (hreceived : po.status ≠ .received) {status : PurchaseOrderStatus}
    (hstatus : status ≠ .received) : (db.writeOrder { po with status := status }).Counted := by
  have hwrites := WritesOrder.writeOrder db { po with status := status }
  obtain ⟨-, rfl⟩ := lookup_eq_some hpo
  have hcounted := hdb.orders po.id po hpo
  refine ⟨hdb.receipts, fun id po' hpo' => ?_, fun id po' hpo' => ?_⟩
  · by_cases hid : id = po.id
    · subst hid
      cases hwrites.order.symm.trans hpo'
      exact hdb.lines po.id po hpo
    · rw [hwrites.others id hid] at hpo'
      exact hdb.lines id po' hpo'
  · by_cases hid : id = po.id
    · subst hid
      cases hwrites.order.symm.trans hpo'
      refine ⟨hcounted.received, hcounted.covered, iff_of_false hstatus ?_⟩
      exact fun hfull => hreceived (hcounted.status.2 hfull)
    · rw [hwrites.others id hid] at hpo'
      have hother := hdb.orders id po' hpo'
      exact ⟨hother.received, hother.covered, hother.status⟩

theorem Receivable.countedOn {gr : GoodsReceipt} (h : db.Receivable po gr) (lineId : Id) :
    po.countedOn gr.lines lineId = gr.quantityFor lineId := by
  have hnamed := h.2.1
  unfold PurchaseOrder.countedOn GoodsReceipt.quantityFor
  generalize gr.lines = lines at hnamed ⊢
  induction lines with
  | nil => rfl
  | cons line lines ih =>
    have hrest := ih fun line' hline' => hnamed line' (List.mem_cons_of_mem line hline')
    have hline := hnamed line List.mem_cons_self
    rw [List.map_cons, List.sum_cons, hrest]
    by_cases hzero : line.quantity.value = 0
    · by_cases hid : line.purchaseOrderLineId = lineId <;> simp [hid, hzero]
    · rw [hline hzero]
      by_cases hid : line.purchaseOrderLineId = lineId <;> simp [hid]

theorem confirmedQty_upsert {gr posted : GoodsReceipt} {id : Id}
    (hgr : lookup GoodsReceipt.id db.goodsReceipts id = some gr) (hpending : gr.status = .pending)
    (hposted : gr.PostedAs posted)
    (hdb' : db'.goodsReceipts = upsert GoodsReceipt.id db.goodsReceipts posted)
    (orderId lineId : Id) :
    db'.confirmedQty orderId lineId = db.confirmedQty orderId lineId +
      if gr.purchaseOrderId = some orderId then gr.quantityFor lineId else 0 := by
  obtain ⟨-, rfl⟩ := lookup_eq_some hgr
  have hsum := sum_map_upsert (x := posted) (GoodsReceipt.confirmedFor orderId lineId)
    (hposted.id ▸ hgr)
  have hbefore : gr.confirmedFor orderId lineId = 0 := by
    simp [GoodsReceipt.confirmedFor, hpending]
  have hafter : posted.confirmedFor orderId lineId =
      if gr.purchaseOrderId = some orderId then gr.quantityFor lineId else 0 := by
    simp [GoodsReceipt.confirmedFor, hposted.status, hposted.purchaseOrderId,
      hposted.quantityFor]
  rw [confirmedQty, hdb', hsum, hbefore, hafter, sub_zero]
  rfl

theorem countOnOrder_eq_ok_of_some {gr posted : GoodsReceipt} {orderId locationId : Id}
    (h : db.countOnOrder ctx posted locationId = .ok db')
    (horder : posted.purchaseOrderId = some orderId) (hpo : db.purchaseOrder orderId = some po)
    (hunique : (po.lines.map PurchaseOrderLine.id).Nodup) (hposted : gr.PostedAs posted) :
    ∃ po₁, po.Receives (po.countedOn gr.lines) po₁ ∧
      db.WritesOrder
        { po₁ with status := if isFullyReceived po₁ then .received else .partiallyReceived }
        db' := by
  rcases countOnOrder_eq_ok h with
    ⟨hnone, -⟩ | ⟨orderId', costed, counted, hsome, hcosted, hcounted, rfl⟩
  · rw [horder] at hnone
    cases hnone
  · cases horder.symm.trans hsome
    rw [← hcosted.purchaseOrder] at hpo
    obtain ⟨po₁, hreceives, hwrites⟩ := countLines_eq_ok hcounted hpo hunique
    have hid : po₁.id = orderId := hreceives.id.trans (lookup_eq_some hpo).2
    have hsame : po.countedOn posted.lines = po.countedOn gr.lines :=
      funext (hposted.countedOn po)
    have hcostedWrites : db.WritesOrder po₁ counted :=
      ⟨hwrites.order, fun id hne => (hwrites.others id hne).trans (hcosted.purchaseOrder id),
        hwrites.goodsReceipts.trans hcosted.goodsReceipts⟩
    have hsettle : counted.settleOrder orderId = counted.writeOrder
        { po₁ with status := if isFullyReceived po₁ then .received else .partiallyReceived } := by
      rw [settleOrder, ← hid, hwrites.order]
    rw [hsettle]
    exact ⟨po₁, hsame ▸ hreceives, hcostedWrites.trans (.writeOrder counted _) rfl⟩

theorem countOnOrder_eq_ok_of_none {posted : GoodsReceipt} {locationId : Id}
    (h : db.countOnOrder ctx posted locationId = .ok db')
    (hnone : ∀ orderId, posted.purchaseOrderId = some orderId → db.purchaseOrder orderId = none) :
    SameDocuments db db' := by
  rcases countOnOrder_eq_ok h with
    ⟨-, rfl⟩ | ⟨orderId, costed, counted, hsome, hcosted, hcounted, rfl⟩
  · exact .refl db'
  · have hpo : costed.purchaseOrder orderId = none :=
      (hcosted.purchaseOrder orderId).trans (hnone orderId hsome)
    rw [countLines_of_none hcounted hpo, settleOrder, hpo]
    exact hcosted

theorem isFullyReceived_eq_true :
    isFullyReceived po = true ↔ ∀ l ∈ po.lines, l.quantity.value ≤ l.receivedQty.value := by
  simp [isFullyReceived]

theorem Counted.receive (hdb : db.Counted) {gr posted : GoodsReceipt} {id orderId : Id}
    {received : FactoryDb} {po₁ : PurchaseOrder}
    (hgr : lookup GoodsReceipt.id db.goodsReceipts id = some gr) (hpending : gr.status = .pending)
    (hposted : gr.PostedAs posted)
    (hsame : SameDocuments
      { db with goodsReceipts := upsert GoodsReceipt.id db.goodsReceipts posted } received)
    (horder : gr.purchaseOrderId = some orderId) (hpo : db.purchaseOrder orderId = some po)
    (hreceivable : db.Receivable po gr) (hreceives : po.Receives (po.countedOn gr.lines) po₁)
    (hwrites : received.WritesOrder
      { po₁ with status := if isFullyReceived po₁ then .received else .partiallyReceived } db') :
    db'.Counted := by
  obtain ⟨-, rfl⟩ := lookup_eq_some hpo
  have hreceipts : db'.goodsReceipts = upsert GoodsReceipt.id db.goodsReceipts posted :=
    hwrites.goodsReceipts.trans hsame.goodsReceipts
  have hqty := confirmedQty_upsert hgr hpending hposted hreceipts
  have hid : po₁.id = po.id := hreceives.id
  refine ⟨hreceipts ▸ nodup_keys_upsert hdb.receipts, fun id' po' hpo' => ?_,
    fun id' po' hpo' => ?_⟩
  · by_cases hid' : id' = po₁.id
    · subst hid'
      cases hwrites.order.symm.trans hpo'
      exact hreceives.lineIds ▸ hdb.lines po.id po hpo
    · rw [hwrites.others id' hid', hsame.purchaseOrder] at hpo'
      exact hdb.lines id' po' hpo'
  · by_cases hid' : id' = po₁.id
    · subst hid'
      cases hwrites.order.symm.trans hpo'
      have hcounted := hdb.orders po.id po hpo
      have hlines : ∀ l' ∈ po₁.lines, l'.receivedQty.value = db'.confirmedQty po.id l'.id ∧
          l'.receivedQty.value ≤ l'.quantity.value := by
        intro l' hl'
        obtain ⟨l, hl, hlineId, hquantity, hreceived⟩ := hreceives.exists_line hl'
        rw [hreceivable.countedOn, hcounted.received l hl] at hreceived
        refine ⟨?_, ?_⟩
        · rw [hreceived, hqty, if_pos horder, hlineId]
        · rw [hreceived, hquantity]
          exact hreceivable.2.2 l hl
      refine ⟨fun l' hl' => hid ▸ (hlines l' hl').1, fun l' hl' => (hlines l' hl').2, ?_⟩
      rw [← isFullyReceived_eq_true]
      change (if isFullyReceived po₁ then _ else _) = _ ↔ isFullyReceived po₁ = true
      split_ifs with hfull <;> simp [hfull]
    · rw [hwrites.others id' hid', hsame.purchaseOrder] at hpo'
      have hother := hdb.orders id' po' hpo'
      have hne : gr.purchaseOrderId ≠ some po'.id := by
        rw [horder, (lookup_eq_some hpo').2]
        exact fun h => hid' (hid.trans (Option.some.inj h)).symm
      refine ⟨fun l hl => ?_, hother.covered, hother.status⟩
      rw [hother.received l hl, hqty, if_neg hne, add_zero]

theorem Counted.receiveNone (hdb : db.Counted) {gr posted : GoodsReceipt} {id : Id}
    (hgr : lookup GoodsReceipt.id db.goodsReceipts id = some gr) (hpending : gr.status = .pending)
    (hposted : gr.PostedAs posted)
    (hsame : SameDocuments
      { db with goodsReceipts := upsert GoodsReceipt.id db.goodsReceipts posted } db')
    (hnone : ∀ orderId, gr.purchaseOrderId = some orderId → db.purchaseOrder orderId = none) :
    db'.Counted := by
  have hqty := confirmedQty_upsert hgr hpending hposted hsame.goodsReceipts
  refine ⟨hsame.goodsReceipts ▸ nodup_keys_upsert hdb.receipts, fun id' po' hpo' => ?_,
    fun id' po' hpo' => ?_⟩
  · rw [hsame.purchaseOrder] at hpo'
    exact hdb.lines id' po' hpo'
  · rw [hsame.purchaseOrder] at hpo'
    have hother := hdb.orders id' po' hpo'
    have hne : gr.purchaseOrderId ≠ some po'.id := by
      intro h
      rw [(lookup_eq_some hpo').2] at h
      exact Option.some_ne_none po' (hpo'.symm.trans (hnone id' h))
    refine ⟨fun l hl => ?_, hother.covered, hother.status⟩
    rw [hother.received l hl, hqty, if_neg hne, add_zero]

/-- An order that was cancelled stays so. -/
def KeepsCancelled (db db' : FactoryDb) : Prop :=
  ∀ id, ∀ po ∈ db.purchaseOrder id, po.status = .cancelled →
    ∀ po' ∈ db'.purchaseOrder id, po'.status = .cancelled

theorem SameReceived.keepsCancelled (h : db.SameReceived db') : db.KeepsCancelled db' := by
  intro id po hpo hcancelled po' hpo'
  rw [h.purchaseOrder] at hpo'
  cases hpo.symm.trans hpo'
  exact hcancelled

theorem WritesOrder.keepsCancelled (h : db.WritesOrder po' db')
    (hpo : db.purchaseOrder po'.id = some po)
    (hstatus : po.status = .cancelled → po'.status = .cancelled) : db.KeepsCancelled db' := by
  intro id po₁ hpo₁ hcancelled po₂ hpo₂
  by_cases hid : id = po'.id
  · subst hid
    cases hpo.symm.trans hpo₁
    cases h.order.symm.trans hpo₂
    exact hstatus hcancelled
  · rw [h.others id hid] at hpo₂
    cases hpo₁.symm.trans hpo₂
    exact hcancelled

theorem keepsCancelled_writeStatus {id : Id} (hpo : db.purchaseOrder id = some po)
    {status : PurchaseOrderStatus} (h : po.status = .cancelled → status = .cancelled) :
    db.KeepsCancelled (db.writeOrder { po with status := status }) := by
  obtain ⟨-, rfl⟩ := lookup_eq_some hpo
  exact (WritesOrder.writeOrder db { po with status := status }).keepsCancelled hpo h

theorem Counted.confirmGoodsReceipt (hdb : db.Counted) {id : Id}
    (h : db.confirmGoodsReceipt ctx id = .ok db')
    (hsound : db.ReceivesOpenLines ⟨ctx, .confirmGoodsReceipt id⟩) :
    db'.Counted ∧ db.KeepsCancelled db' := by
  rcases confirmGoodsReceipt_eq_ok h with ⟨-, rfl⟩ |
    ⟨gr, posted, received, hkey, hgr, hpending, hposted, hsame, h⟩
  · exact ⟨hdb, SameReceived.keepsCancelled (.of_eq rfl rfl)⟩
  by_cases hexists : ∃ orderId po, gr.purchaseOrderId = some orderId ∧
      db.purchaseOrder orderId = some po
  · obtain ⟨orderId, po, horder, hpo⟩ := hexists
    have hreceivable := hsound hkey gr hgr hpending orderId horder po hpo
    obtain ⟨po₁, hreceives, hwrites⟩ := countOnOrder_eq_ok_of_some h
      (hposted.purchaseOrderId.trans horder) ((hsame.purchaseOrder orderId).trans hpo)
      (hdb.lines orderId po hpo) hposted
    refine ⟨hdb.receive hgr hpending hposted hsame horder hpo hreceivable hreceives hwrites, ?_⟩
    intro id' po' hpo' hcancelled
    refine hwrites.keepsCancelled ?_ (fun hc => absurd hc hreceivable.1) id' po'
      ((hsame.purchaseOrder id').trans hpo') hcancelled
    change received.purchaseOrder po₁.id = some po
    rw [hreceives.id, (lookup_eq_some hpo).2]
    exact (hsame.purchaseOrder orderId).trans hpo
  · have hnone : ∀ orderId, gr.purchaseOrderId = some orderId →
        db.purchaseOrder orderId = none := by
      intro orderId horder
      by_contra hsome
      obtain ⟨po, hpo⟩ := Option.ne_none_iff_exists'.1 hsome
      exact hexists ⟨orderId, po, horder, hpo⟩
    have hafter := countOnOrder_eq_ok_of_none h fun orderId horder =>
      (hsame.purchaseOrder orderId).trans (hnone orderId (hposted.purchaseOrderId ▸ horder))
    have hall := hsame.trans hafter
    refine ⟨hdb.receiveNone hgr hpending hposted hall hnone, ?_⟩
    intro id' po' hpo' hcancelled po₁ hpo₁
    rw [hall.purchaseOrder] at hpo₁
    cases hpo'.symm.trans hpo₁
    exact hcancelled

theorem Counted.releasePurchaseOrder (hdb : db.Counted) {id : Id}
    (h : db.releasePurchaseOrder id = .ok db') : db'.Counted ∧ db.KeepsCancelled db' := by
  simp only [FactoryDb.releasePurchaseOrder, bind_eq_ok, pure_eq_ok, found_eq_ok,
    throwWhen_eq_ok, not_not] at h
  obtain ⟨po, hpo, -, hdraft, rfl⟩ := h
  have hnot : po.status ≠ .received := by
    rw [hdraft]
    decide
  have hsent : PurchaseOrderStatus.sent ≠ .received := by decide
  refine ⟨hdb.writeStatus hpo hnot hsent, keepsCancelled_writeStatus hpo fun hcancelled => ?_⟩
  rw [hdraft] at hcancelled
  cases hcancelled

theorem Counted.cancelPurchaseOrder (hdb : db.Counted) {id : Id}
    (h : db.cancelPurchaseOrder id = .ok db') : db'.Counted ∧ db.KeepsCancelled db' := by
  simp only [FactoryDb.cancelPurchaseOrder, bind_eq_ok, pure_eq_ok, found_eq_ok,
    throwWhen_eq_ok, not_or] at h
  obtain ⟨po, hpo, -, ⟨hreceived, -⟩, rfl⟩ := h
  have hcancelled : PurchaseOrderStatus.cancelled ≠ .received := by decide
  exact ⟨hdb.writeStatus hpo hreceived hcancelled, keepsCancelled_writeStatus hpo fun _ => rfl⟩

theorem Counted.next (hdb : db.Counted) {c : FactoryCall} (hsound : db.ReceivesOpenLines c) :
    (db.next c).Counted ∧ db.KeepsCancelled (db.next c) := by
  have hrefl : db.Counted ∧ db.KeepsCancelled db :=
    ⟨hdb, SameReceived.keepsCancelled (.of_eq rfl rfl)⟩
  by_cases hop : WritesNoOrder c.op = true
  · have hsame : db.SameReceived (db.next c) := sameReceived_next hop
    exact ⟨hdb.same hsame, hsame.keepsCancelled⟩
  · obtain ⟨ctx, op⟩ := c
    cases op with
    | releasePurchaseOrder id =>
      exact outcome_invariant (I := fun s => s.Counted ∧ db.KeepsCancelled s) hrefl
        fun _ h => hdb.releasePurchaseOrder h
    | confirmGoodsReceipt id =>
      exact outcome_invariant (I := fun s => s.Counted ∧ db.KeepsCancelled s) hrefl
        fun _ h => hdb.confirmGoodsReceipt h hsound
    | cancelPurchaseOrder id =>
      exact outcome_invariant (I := fun s => s.Counted ∧ db.KeepsCancelled s) hrefl
        fun _ h => hdb.cancelPurchaseOrder h
    | _ => exact absurd rfl hop

end FactoryDb

/-! ### Runs -/

open FactoryDb (next)

/-- What holds of the orders at every time of a run. -/
structure OrderLaw (start : FactoryDb) (calls : List FactoryCall) : Prop where
  received : ∀ k id, ∀ po ∈ (stateAt next start calls k).purchaseOrder id, ∀ l ∈ po.lines,
    l.receivedQty.value = (stateAt next start calls k).confirmedQty id l.id
  covered : ∀ k id, ∀ po ∈ (stateAt next start calls k).purchaseOrder id, ∀ l ∈ po.lines,
    l.receivedQty.value ≤ l.quantity.value
  status : ∀ k id, ∀ po ∈ (stateAt next start calls k).purchaseOrder id,
    (po.status = .received ↔ ∀ l ∈ po.lines, l.quantity.value ≤ l.receivedQty.value)
  cancelled : ∀ k c id, calls[k]? = some c →
    ∀ po ∈ (stateAt next start calls k).purchaseOrder id, po.status = .cancelled →
      ∀ po' ∈ (stateAt next start calls (k + 1)).purchaseOrder id, po'.status = .cancelled

/-- Orders whose lines have ids of their own, still have something to receive and have received
nothing, before the first receipt. -/
structure FactoryDb.Opened (db : FactoryDb) : Prop where
  goodsReceipts : db.goodsReceipts = []
  lines : ∀ po ∈ db.purchaseOrders, (po.lines.map PurchaseOrderLine.id).Nodup
  received : ∀ po ∈ db.purchaseOrders, ∀ l ∈ po.lines, l.receivedQty.value = 0
  quantity : ∀ po ∈ db.purchaseOrders, ∀ l ∈ po.lines, 0 ≤ l.quantity.value
  wanted : ∀ po ∈ db.purchaseOrders, ∃ l ∈ po.lines, 0 < l.quantity.value
  status : ∀ po ∈ db.purchaseOrders, po.status ≠ .received

theorem FactoryDb.Opened.counted {db : FactoryDb} (h : db.Opened) : db.Counted where
  receipts := by simp [h.goodsReceipts]
  lines id po hpo := h.lines po (lookup_eq_some hpo).1
  orders id po hpo := by
    have hmem := (lookup_eq_some hpo).1
    refine ⟨fun l hl => ?_, fun l hl => ?_, iff_of_false (h.status po hmem) fun hfull => ?_⟩
    · rw [h.received po hmem l hl, FactoryDb.confirmedQty, h.goodsReceipts]
      rfl
    · rw [h.received po hmem l hl]
      exact h.quantity po hmem l hl
    · obtain ⟨l, hl, hpos⟩ := h.wanted po hmem
      have hle := hfull l hl
      rw [h.received po hmem l hl] at hle
      exact absurd hpos (not_lt.2 hle)

theorem orderLaw_of_receivesOpenLines {start : FactoryDb} {calls : List FactoryCall}
    (hstart : start.Opened) (h : Always next FactoryDb.ReceivesOpenLines start calls) :
    OrderLaw start calls := by
  have hcounted : ∀ k, (stateAt next start calls k).Counted :=
    h.invariant_at (I := FactoryDb.Counted) (fun _ _ hdb hc => (hdb.next hc).1) hstart.counted
  constructor
  · intro k id po hpo l hl
    rw [((hcounted k).orders id po hpo).received l hl, (lookup_eq_some hpo).2]
  · exact fun k id po hpo => ((hcounted k).orders id po hpo).covered
  · exact fun k id po hpo => ((hcounted k).orders id po hpo).status
  · intro k c id hc po hpo hcancelled po' hpo'
    rw [stateAt_succ next start hc] at hpo'
    exact ((hcounted k).next (h.at hc)).2 id po hpo hcancelled po' hpo'

instance (db : FactoryDb) : Decidable db.Opened :=
  decidable_of_iff
    (db.goodsReceipts = [] ∧
      (∀ po ∈ db.purchaseOrders, (po.lines.map PurchaseOrderLine.id).Nodup) ∧
      (∀ po ∈ db.purchaseOrders, ∀ l ∈ po.lines, l.receivedQty.value = 0) ∧
      (∀ po ∈ db.purchaseOrders, ∀ l ∈ po.lines, 0 ≤ l.quantity.value) ∧
      (∀ po ∈ db.purchaseOrders, ∃ l ∈ po.lines, 0 < l.quantity.value) ∧
      ∀ po ∈ db.purchaseOrders, po.status ≠ .received)
    ⟨fun ⟨h₁, h₂, h₃, h₄, h₅, h₆⟩ => ⟨h₁, h₂, h₃, h₄, h₅, h₆⟩,
      fun h => ⟨h.goodsReceipts, h.lines, h.received, h.quantity, h.wanted, h.status⟩⟩

/-- An order of ten pieces of one product and five of another. -/
def sentOrder (secondProductId : Id) : FactoryDb :=
  { plainFactory with
    purchaseOrders :=
      [{ id := 1
         supplierId := 4
         locationId := 3
         status := .sent
         lines :=
           [{ id := 11, productId := 7, quantity := pieces 10 },
             { id := 12, productId := secondProductId, quantity := pieces 5 }] }] }

def receiptOf (lines : List ReceiptLineParams) : FactoryCall :=
  ⟨plainContext, .createGoodsReceipt ⟨1, lines⟩⟩

def twoReceipts : List FactoryCall :=
  [receiptOf [⟨11, 10⟩, ⟨12, 2⟩], ⟨plainContext, .confirmGoodsReceipt 1⟩, receiptOf [⟨12, 3⟩],
    ⟨plainContext, .confirmGoodsReceipt 2⟩, ⟨plainContext, .cancelPurchaseOrder 1⟩]

theorem orderLaw_twoReceipts :
    ((run next (sentOrder 8) twoReceipts).purchaseOrder 1).map PurchaseOrder.status =
        some .received ∧
      OrderLaw (sentOrder 8) twoReceipts :=
  ⟨by decide +kernel, orderLaw_of_receivesOpenLines (by decide +kernel) (by decide +kernel)⟩

/-- A receipt of the second of two lines of one product. -/
def secondLine : List FactoryCall :=
  [receiptOf [⟨12, 5⟩], ⟨plainContext, .confirmGoodsReceipt 1⟩]

/-- The receipt is counted on the first line. -/
theorem not_orderLaw_secondLine : ¬OrderLaw (sentOrder 7) secondLine := by
  intro h
  have hreceived := h.received 2 1
  revert hreceived
  decide +kernel

end Forecast.Manufacturing
