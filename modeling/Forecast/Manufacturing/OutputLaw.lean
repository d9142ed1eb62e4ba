import Forecast.Manufacturing.BackflushLaw
import Forecast.Manufacturing.StockEffects

/-!
# What a work order puts into stock

Finished goods are reported piece by piece and taken into stock by the costing engine when
the order is completed. An order that is cancelled in between never takes them in, and a
report of a product under quality control holds goods that are not there yet.
-/

open KeyedTable DecimalColumn Transactions Runs

namespace Forecast.Manufacturing

open Inventory (Qty StockDb EntryParams LedgerEntry WarehouseDb InventoryError InventoryHold)
open Costing (CostingDb CostingError CostResult)

/-- A row that takes finished goods of the order into stock. -/
def receivesFor (workOrderId : Id) (entry : LedgerEntry) : Bool :=
  entry.entryType = .ledgerProductionReceipt ∧ entry.referenceType = some "WORK_ORDER" ∧
    entry.referenceId = some workOrderId

def receivedQty (workOrderId : Id) (ledger : List LedgerEntry) : Decimal :=
  ((ledger.filter (receivesFor workOrderId)).map fun entry => entry.quantity.value).sum

def isHoldFor (workOrderId : Id) (hold : InventoryHold) : Bool :=
  hold.referenceType = some "WORK_ORDER" ∧ hold.referenceId = some workOrderId

namespace FactoryDb

def ledger (db : FactoryDb) : List LedgerEntry := db.costing.stock.ledger

/-- A row that puts goods on hold for a hold of the order. -/
def holdsFor (db : FactoryDb) (workOrderId : Id) (entry : LedgerEntry) : Bool :=
  entry.entryType = .ledgerHold ∧
    (entry.referenceId.bind fun id => db.holds[id]?).any (isHoldFor workOrderId)

def heldQty (db : FactoryDb) (workOrderId : Id) (ledger : List LedgerEntry) : Decimal :=
  ((ledger.filter (db.holdsFor workOrderId)).map fun entry => entry.quantity.value).sum

/-- A call on work orders; a report on the order is of a quantity on the scale of the column and
of a product without quality control, and the order is cancelled before the first report. -/
def TakesOutput (workOrderId : Id) (db : FactoryDb) (c : FactoryCall) : Prop :=
  match c.op with
  | .reportProductionCompletion params => params.workOrderId = workOrderId →
      0 ≤ params.quantity ∧ OnScale 4 params.quantity ∧
        ∀ order ∈ lookup WorkOrder.id db.workOrders workOrderId,
          params.quantity ≠ 0 → qcRequired c.ctx order = false
  | .cancelWorkOrder id => id = workOrderId →
      ∀ order ∈ lookup WorkOrder.id db.workOrders workOrderId,
        order.status = .completed ∨ order.completedQty.value = 0
  | op => op.isProduction = true

instance (workOrderId : Id) (db : FactoryDb) : DecidablePred (db.TakesOutput workOrderId)
  | ⟨_, .reportProductionCompletion _⟩ | ⟨_, .cancelWorkOrder _⟩ =>
    inferInstanceAs (Decidable (_ → _))
  | ⟨_, .issueMaterial _⟩ | ⟨_, .backflushMaterials _ _⟩ | ⟨_, .releasePurchaseOrder _⟩
  | ⟨_, .createGoodsReceipt _⟩
  | ⟨_, .confirmGoodsReceipt _⟩ | ⟨_, .cancelPurchaseOrder _⟩
  | ⟨_, .createInventoryTransaction _⟩ | ⟨_, .adjustInventory _⟩
  | ⟨_, .transferInventory _⟩ | ⟨_, .releaseWorkOrder _⟩ | ⟨_, .startWorkOrder _⟩
  | ⟨_, .completeWorkOrder _⟩ | ⟨_, .updateQualityInspectionStatus _ _⟩ =>
    inferInstanceAs (Decidable (_ = true))

def settleKey (workOrderId : Id) : String × String :=
  ("WO_COST_COMPLETE", "WO_COST_COMPLETE:" ++ Costing.uuidText workOrderId)

/-- Every row of a hold names one of the holds, and nothing is on hold for the order. -/
structure HoldsNothing (workOrderId : Id) (db : FactoryDb) : Prop where
  known : ∀ entry ∈ db.ledger, entry.entryType = .ledgerHold →
    ∃ id, entry.referenceId = some id ∧ id < db.holds.length
  zero : ∀ entry ∈ db.ledger, db.holdsFor workOrderId entry = true → entry.quantity.value = 0

/-- Nothing is received for the order or put on hold for it, and it is not settled. -/
structure Keeps (workOrderId : Id) (db db' : FactoryDb) : Prop where
  received : db'.ledger.filter (receivesFor workOrderId) =
    db.ledger.filter (receivesFor workOrderId)
  held : db.HoldsNothing workOrderId → db'.HoldsNothing workOrderId
  unsettled : db.costing.hasProcessed (settleKey workOrderId) = false →
    db'.costing.hasProcessed (settleKey workOrderId) = false

variable {ctx : FactoryContext} {db db' db'' : FactoryDb} {workOrderId : Id}

theorem HoldsNothing.append {entry : LedgerEntry} (h : db.HoldsNothing workOrderId)
    (hledger : db'.ledger = db.ledger ++ [entry]) (hholds : db'.holds = db.holds)
    (htype : entry.entryType ≠ .ledgerHold) : db'.HoldsNothing workOrderId := by
  refine ⟨fun e he hhold => ?_, fun e he hhold => ?_⟩
  · rw [hledger, List.mem_append, List.mem_singleton] at he
    rcases he with he | rfl
    · exact hholds ▸ h.known e he hhold
    · exact absurd hhold htype
  · rw [hledger, List.mem_append, List.mem_singleton] at he
    unfold holdsFor at hhold
    rw [hholds] at hhold
    rcases he with he | rfl
    · exact h.zero e he hhold
    · rw [decide_eq_true_eq] at hhold
      exact absurd hhold.1 htype

namespace Keeps

theorem refl (db : FactoryDb) : Keeps workOrderId db db := ⟨rfl, fun h => h, fun h => h⟩

theorem trans (h : Keeps workOrderId db db') (h' : Keeps workOrderId db' db'') :
    Keeps workOrderId db db'' where
  received := h'.received.trans h.received
  held hdb := h'.held (h.held hdb)
  unsettled hdb := h'.unsettled (h.unsettled hdb)

theorem forEach {α : Type} {f : FactoryDb → α → Except ManufacturingError FactoryDb}
    (hstep : ∀ db db' x, f db x = .ok db' → Keeps workOrderId db db') {xs : List α}
    (h : Transactions.forEach f db xs = .ok db') : Keeps workOrderId db db' :=
  forEach_invariant (I := Keeps workOrderId db) (fun _ _ x _ hs hx => hs.trans (hstep _ _ x hx)) h
    (refl db)

theorem of_eq (hledger : db'.ledger = db.ledger) (hholds : db'.holds = db.holds)
    (hkeys : db'.costing.idempotencyKeys = db.costing.idempotencyKeys) :
    Keeps workOrderId db db' where
  received := by rw [hledger]
  held h := by
    refine ⟨?_, ?_⟩
    · rw [hledger, hholds]
      exact h.known
    · unfold holdsFor
      rw [hledger, hholds]
      exact h.zero
  unsettled h := by rw [CostingDb.hasProcessed, hkeys]; exact h

/-- A row that neither receives for the order nor holds anything. -/
theorem of_entry {entry : LedgerEntry} (hledger : db'.ledger = db.ledger ++ [entry])
    (hholds : db'.holds = db.holds) (hreceives : receivesFor workOrderId entry = false)
    (htype : entry.entryType ≠ .ledgerHold)
    (hkeys : db.costing.hasProcessed (settleKey workOrderId) = false →
      db'.costing.hasProcessed (settleKey workOrderId) = false) : Keeps workOrderId db db' where
  received := by
    rw [hledger, List.filter_append]
    simp [hreceives]
  held h := h.append hledger hholds htype
  unsettled := hkeys

theorem of_recordEntry {params : EntryParams}
    (h : db.costing.stock.recordEntry params = .ok db'.costing.stock)
    (hholds : db'.holds = db.holds)
    (hreceives : params.entryType = .ledgerProductionReceipt →
      params.referenceId ≠ some workOrderId)
    (htype : params.entryType ≠ .ledgerHold)
    (hkeys : db.costing.hasProcessed (settleKey workOrderId) = false →
      db'.costing.hasProcessed (settleKey workOrderId) = false) : Keeps workOrderId db db' := by
  obtain ⟨entry, hentry, hledger⟩ := exists_isFor h
  refine of_entry hledger hholds ?_ (hentry.entryType ▸ htype) hkeys
  rw [receivesFor, decide_eq_false_iff_not, hentry.entryType, hentry.referenceId]
  exact fun hall => hreceives hall.1 hall.2.2

end Keeps

/-! ### Steps that keep what was received -/

theorem keeps_releaseReservation {params : Inventory.ReleaseReservationParams}
    (h : (db.inWarehouse fun w => w.releaseReservation params) = .ok db') :
    Keeps workOrderId db db' := by
  obtain ⟨w, hw, rfl⟩ := inWarehouse_eq_ok.1 h
  obtain ⟨r, -, hstock, hholds⟩ := releaseReservation_eq_ok hw
  exact .of_recordEntry hstock hholds nofun nofun fun hkey => hkey

theorem keeps_reserveComponent {order : WorkOrder} {component : BomComponent}
    (h : reserveComponent ctx order db component = .ok db') : Keeps workOrderId db db' := by
  dsimp only [reserveComponent] at h
  split_ifs at h
  · simp only [bind_eq_ok] at h
    obtain ⟨-, -, h⟩ := h
    obtain ⟨w, hw, rfl⟩ := inWarehouse_eq_ok.1 h
    obtain ⟨hstock, hholds⟩ := createReservation_eq_ok hw
    exact .of_recordEntry hstock hholds nofun nofun fun hkey => hkey
  · cases h
    exact .refl db

theorem keeps_releaseReservations {id : Id} (h : db.releaseReservations ctx id = .ok db') :
    Keeps workOrderId db db' :=
  .forEach (fun _ _ _ hstep => keeps_releaseReservation (releaseFor_eq_ok hstep)) h

theorem keeps_releaseForIssue {params : IssueParams} (h : db.releaseForIssue params = .ok db') :
    Keeps workOrderId db db' := by
  dsimp only [releaseForIssue] at h
  split at h
  · cases h
    exact .refl db
  · split_ifs at h
    · exact keeps_releaseReservation h
    · cases h
      exact .refl db

theorem keeps_logTransaction {row : Qty → InventoryTransaction} {quantity : Decimal}
    (h : db.logTransaction row quantity = .ok db') : Keeps workOrderId db db' := by
  obtain ⟨stored, -, rfl⟩ := logTransaction_eq_ok.1 h
  exact .of_eq rfl rfl rfl

theorem keeps_takeFromBatch {batchId : Option Id} {quantity : Decimal}
    (h : db.takeFromBatch batchId quantity = .ok db') : Keeps workOrderId db db' := by
  unfold takeFromBatch at h
  split at h
  · cases h
    exact .refl db
  · simp only [bind_eq_ok, pure_eq_ok] at h
    obtain ⟨availableQty, -, rfl⟩ := h
    exact .of_eq rfl rfl rfl

theorem keeps_addToBatch {order : WorkOrder} {params : CompletionParams}
    (h : db.addToBatch ctx order params = .ok db') : Keeps workOrderId db db' := by
  unfold addToBatch at h
  by_cases htracked : ((ctx.product order.productId).map Product.batchTracked).getD false
  · rw [if_pos htracked] at h
    split at h
    · cases h
      exact .refl db
    · simp only [bind_eq_ok, pure_eq_ok] at h
      obtain ⟨quantity, -, availableQty, -, rfl⟩ := h
      exact .of_eq rfl rfl rfl
  · rw [if_neg htracked] at h
    cases h
    exact .refl db

theorem unsettled_of_addsKey {costing costing' : CostingDb} {key : String × String}
    (h : AddsKey costing costing' key) (hkey : key ≠ settleKey workOrderId)
    (hunsettled : costing.hasProcessed (settleKey workOrderId) = false) :
    costing'.hasProcessed (settleKey workOrderId) = false := by
  rw [CostingDb.hasProcessed, decide_eq_false_iff_not] at hunsettled ⊢
  intro hmem
  rcases h _ hmem with hold | hnew
  · exact hunsettled hold
  · exact hkey hnew.symm

theorem settleKey_injective {id : Id} (h : settleKey id = settleKey workOrderId) :
    id = workOrderId := by
  simp only [settleKey, Prod.mk.injEq, true_and, String.append_right_inj] at h
  exact Costing.uuidText_injective h

theorem keeps_issueCost {params : Costing.IssueCostParams}
    (h : (db.inCosting fun costing => Costing.issueMaterialCost ctx.costing costing params) =
      .ok db') : Keeps workOrderId db db' := by
  obtain ⟨costing, result, hcosting, rfl⟩ := inCosting_eq_ok.1 h
  have hkeys : db.costing.hasProcessed (settleKey workOrderId) = false →
      costing.hasProcessed (settleKey workOrderId) = false := unsettled_of_addsKey
    (addsKey_issueMaterialCost hcosting) (by simp [Costing.IssueCostParams.idempKey, settleKey])
  rcases issueCost_recordEntry hcosting with rfl | ⟨cost, journalEntryId, hstock⟩
  · exact .of_eq rfl rfl rfl
  · exact .of_recordEntry hstock rfl nofun nofun hkeys

theorem keeps_scrapProduction {order : WorkOrder} {completionId : Id} {scrapQuantity : Decimal}
    (h : db.scrapProduction ctx order completionId scrapQuantity = .ok db') :
    Keeps workOrderId db db' := by
  unfold scrapProduction at h
  split_ifs at h
  · obtain ⟨costing, result, hcosting, rfl⟩ := inCosting_eq_ok.1 h
    obtain ⟨cost, hstock⟩ := scrapCost_recordEntry hcosting
    refine .of_recordEntry hstock rfl nofun nofun fun hkey => ?_
    rw [CostingDb.hasProcessed] at hkey ⊢
    rw [addsKey_costScrap hcosting]
    exact hkey
  · cases h
    exact .refl db

theorem keeps_issueMaterial {params : IssueParams} (h : db.issueMaterial ctx params = .ok db') :
    Keeps workOrderId db db' := by
  simp only [issueMaterial, bind_eq_ok] at h
  obtain ⟨order, -, -, -, released, hreleased, quantity, -, entered, hentered, logged, hlogged,
    costed, hcosted, h⟩ := h
  refine (keeps_releaseForIssue hreleased).trans ?_
  have hissued : Keeps workOrderId released
      { released with
        materialIssues :=
          released.materialIssues ++ [⟨order.id, params.productId, quantity⟩] } :=
    .of_eq rfl rfl rfl
  have hrecorded : Keeps workOrderId
      { released with
        materialIssues :=
          released.materialIssues ++ [⟨order.id, params.productId, quantity⟩] } entered := by
    obtain ⟨w, hw, rfl⟩ := inWarehouse_eq_ok.1 hentered
    obtain ⟨hstock, -, hholds⟩ := recordEntry_eq_ok hw
    have hreceives : Inventory.LedgerEntryType.ledgerIssue ≠ .ledgerProductionReceipt := by decide
    have hholding : Inventory.LedgerEntryType.ledgerIssue ≠ .ledgerHold := by decide
    exact .of_recordEntry hstock hholds (fun htype => absurd htype hreceives) hholding
      fun hkey => hkey
  exact hissued.trans (hrecorded.trans ((keeps_logTransaction hlogged).trans
    ((keeps_issueCost hcosted).trans (keeps_takeFromBatch h))))

theorem keeps_settleWorkOrder {order : WorkOrder} (hother : order.id ≠ workOrderId)
    (h : db.settleWorkOrder ctx order = .ok db') : Keeps workOrderId db db' := by
  obtain ⟨costing, result, hcosting, rfl⟩ := inCosting_eq_ok.1 h
  have hkeys : db.costing.hasProcessed (settleKey workOrderId) = false →
      costing.hasProcessed (settleKey workOrderId) = false := unsettled_of_addsKey
    (addsKey_completeWorkOrderCost hcosting) (fun hkey => hother (settleKey_injective hkey))
  rcases completionCost_recordEntry hcosting with ⟨-, rfl⟩ | ⟨-, wipPerUnit, id, hstock⟩
  · exact .of_eq rfl rfl rfl
  · exact .of_recordEntry hstock rfl (fun _ hid => hother (Option.some.inj hid)) nofun hkeys

/-- The hold of a report is not one of the order, or it is empty. -/
theorem keeps_inspectProduction {order : WorkOrder} {quantity : Decimal}
    (h : db.inspectProduction ctx order quantity = .ok db')
    (hquiet : order.id = workOrderId → quantity ≠ 0 → qcRequired ctx order = false) :
    Keeps workOrderId db db' := by
  unfold inspectProduction at h
  by_cases hqc : qcRequired ctx order
  · rw [if_pos hqc] at h
    simp only [bind_eq_ok, pure_eq_ok] at h
    obtain ⟨held, hheld, inspectedQty, -, rfl⟩ := h
    obtain ⟨w, hw, rfl⟩ := inWarehouse_eq_ok.1 hheld
    obtain ⟨heldQty, -, hstock, -, hholds⟩ := placeHold_eq_ok hw
    obtain ⟨entry, hentry, hledger⟩ := exists_isFor hstock
    have hnew : w.holds = db.holds ++
        [(productionHold ctx order quantity).row db.holds.length heldQty] := hholds
    have hrows : w.stock.ledger = db.ledger ++ [entry] := hledger
    have hid : entry.referenceId = some db.holds.length := hentry.referenceId
    refine ⟨?_, fun hdb => ⟨fun e he hhold => ?_, fun e he hhold => ?_⟩, fun hkey => hkey⟩
    · change w.stock.ledger.filter _ = _
      have hother : receivesFor workOrderId entry = false := by
        rw [receivesFor, decide_eq_false_iff_not, hentry.entryType]
        exact fun h => nomatch h.1
      rw [hrows, List.filter_append]
      simp [hother]
    · change e ∈ w.stock.ledger at he
      change ∃ id, _ ∧ id < w.holds.length
      rw [hrows, List.mem_append, List.mem_singleton] at he
      rw [hnew, List.length_append]
      rcases he with he | rfl
      · obtain ⟨id, hreference, hlt⟩ := hdb.known e he hhold
        exact ⟨id, hreference, Nat.lt_add_right 1 hlt⟩
      · exact ⟨db.holds.length, hid, Nat.lt_succ_self _⟩
    · change e ∈ w.stock.ledger at he
      unfold holdsFor at hhold
      rw [decide_eq_true_eq] at hhold
      obtain ⟨htype, hany⟩ := hhold
      change (e.referenceId.bind fun id => w.holds[id]?).any _ = true at hany
      rw [hrows, List.mem_append, List.mem_singleton] at he
      rw [hnew] at hany
      rcases he with he | rfl
      · obtain ⟨id, hreference, hlt⟩ := hdb.known e he htype
        refine hdb.zero e he (decide_eq_true ⟨htype, ?_⟩)
        rw [hreference, Option.bind_some] at hany ⊢
        rwa [List.getElem?_append_left hlt] at hany
      · rw [hid, Option.bind_some, List.getElem?_concat_length, Option.any_some, isHoldFor,
          decide_eq_true_eq] at hany
        have horder : order.id = workOrderId := Option.some.inj hany.2
        have hzero : quantity = 0 := by
          by_contra hne
          exact absurd hqc (by rw [hquiet horder hne]; exact Bool.false_ne_true)
        have hquantity : Column.store quantity = some e.quantity := hentry.quantity
        rw [hzero] at hquantity
        exact Column.value_of_store hquantity OnScale.zero
  · rw [if_neg hqc] at h
    cases h
    exact .refl db

/-- The engine takes what was reported into stock when the order was not settled before. -/
theorem settleWorkOrder_eq_ok {order : WorkOrder} (h : db.settleWorkOrder ctx order = .ok db')
    (hunsettled : db.costing.hasProcessed (settleKey order.id) = false) :
    (∃ entry : LedgerEntry, entry.quantity.value = order.completedQty.value ∧
      db'.ledger.filter (receivesFor order.id) =
        db.ledger.filter (receivesFor order.id) ++ [entry]) ∧
      (db.HoldsNothing order.id → db'.HoldsNothing order.id) := by
  obtain ⟨costing, result, hcosting, rfl⟩ := inCosting_eq_ok.1 h
  rcases completionCost_recordEntry hcosting with ⟨hprocessed, -⟩ | ⟨-, wipPerUnit, id, hstock⟩
  · have hnot : ¬db.costing.hasProcessed (settleKey order.id) = true := by simp [hunsettled]
    exact absurd hprocessed hnot
  obtain ⟨entry, hentry, hledger⟩ := exists_isFor hstock
  have hreceives : receivesFor order.id entry = true := by
    rw [receivesFor, decide_eq_true_eq]
    exact ⟨hentry.entryType, hentry.referenceType, hentry.referenceId⟩
  have htype : entry.entryType ≠ .ledgerHold := by
    rw [hentry.entryType]
    nofun
  refine ⟨⟨entry, ?_, ?_⟩, fun hdb => hdb.append hledger rfl htype⟩
  · exact Column.value_of_store hentry.quantity order.completedQty.onScale_value
  · change costing.stock.ledger.filter _ = _
    rw [hledger, List.filter_append]
    simp only [List.filter_cons, hreceives]
    rfl

/-! ### What every call keeps -/

/-- What was reported on an order is in stock when the order is completed, and not before. -/
structure YieldsFor (workOrderId : Id) (db : FactoryDb) (order : WorkOrder) : Prop where
  reported : order.completedQty.value = completedOf db.completions workOrderId
  nonneg : 0 ≤ order.completedQty.value
  completed : order.status = .completed → ∃ entry : LedgerEntry,
    db.ledger.filter (receivesFor workOrderId) = [entry] ∧
      entry.quantity.value = order.completedQty.value
  unreceived : order.status ≠ .completed → db.ledger.filter (receivesFor workOrderId) = [] ∧
    db.costing.hasProcessed (settleKey workOrderId) = false
  cancelled : order.status = .cancelled → order.completedQty.value = 0

structure Yields (workOrderId : Id) (db : FactoryDb) : Prop where
  holds : db.HoldsNothing workOrderId
  order : ∀ order ∈ lookup WorkOrder.id db.workOrders workOrderId, db.YieldsFor workOrderId order
  absent : lookup WorkOrder.id db.workOrders workOrderId = none →
    db.ledger.filter (receivesFor workOrderId) = []

theorem YieldsFor.keeps {order : WorkOrder} (h : db.YieldsFor workOrderId order)
    (hkeeps : Keeps workOrderId db db')
    (hcompleted : completedOf db'.completions workOrderId =
      completedOf db.completions workOrderId) :
    db'.YieldsFor workOrderId order where
  reported := h.reported.trans hcompleted.symm
  nonneg := h.nonneg
  completed hstatus := by
    rw [hkeeps.received]
    exact h.completed hstatus
  unreceived hstatus := by
    rw [hkeeps.received]
    exact (h.unreceived hstatus).imp_right hkeeps.unsettled
  cancelled := h.cancelled

theorem Yields.same (h : Yields workOrderId db) (hkeeps : Keeps workOrderId db db')
    (hlookup : lookup WorkOrder.id db'.workOrders workOrderId =
      lookup WorkOrder.id db.workOrders workOrderId)
    (hcompleted : completedOf db'.completions workOrderId =
      completedOf db.completions workOrderId) :
    Yields workOrderId db' where
  holds := hkeeps.held h.holds
  order order horder := (h.order order (hlookup ▸ horder)).keeps hkeeps hcompleted
  absent hnone := hkeeps.received.trans (h.absent (hlookup ▸ hnone))

theorem lookup_writeWorkOrder (db : FactoryDb) (order : WorkOrder) (id : Id) :
    lookup WorkOrder.id (db.writeWorkOrder order).workOrders id =
      if order.id = id then some order else lookup WorkOrder.id db.workOrders id :=
  lookup_upsert db.workOrders order id

theorem Yields.writeStatus (h : Yields workOrderId db) {order : WorkOrder} {id : Id}
    {status : WorkOrderStatus} (horder : db.workOrder id = .ok order)
    (hsame : SameDocuments (db.writeWorkOrder { order with status := status }) db')
    (hkeeps : Keeps workOrderId db db') (hbefore : order.status ≠ .completed)
    (hafter : status ≠ .completed)
    (hcancelled : id = workOrderId → status = .cancelled → order.completedQty.value = 0) :
    Yields workOrderId db' := by
  obtain ⟨hmem, hid⟩ := lookup_eq_some (workOrder_eq_ok.1 horder)
  have hlookup := lookup_writeWorkOrder db { order with status := status } workOrderId
  rw [← hsame.workOrders] at hlookup
  have hcompleted : completedOf db'.completions workOrderId =
      completedOf db.completions workOrderId := by rw [hsame.completions]; rfl
  by_cases hother : order.id = workOrderId
  · rw [if_pos hother] at hlookup
    have hrow := h.order order (hother ▸ hid ▸ workOrder_eq_ok.1 horder)
    have hkept := hrow.keeps hkeeps hcompleted
    refine ⟨hkeeps.held h.holds, fun order' horder' => ?_, fun hnone => ?_⟩
    · cases hlookup.symm.trans horder'
      exact ⟨hkept.reported, hkept.nonneg, fun hstatus => absurd hstatus hafter,
        fun _ => hkept.unreceived hbefore, hcancelled (hid.symm.trans hother)⟩
    · rw [hlookup] at hnone
      cases hnone
  · rw [if_neg hother] at hlookup
    exact h.same hkeeps hlookup hcompleted

theorem Yields.settle (h : Yields workOrderId db) {order : WorkOrder}
    (hlookup : lookup WorkOrder.id db.workOrders workOrderId = some order)
    (hstatus : order.status ≠ .completed) {written settled : FactoryDb}
    (hsame : SameDocuments (db.writeWorkOrder { order with status := .completed }) written)
    (hkeeps : Keeps workOrderId db written)
    (hsettled : written.settleWorkOrder ctx order = .ok settled) :
    Yields workOrderId settled := by
  obtain ⟨-, rfl⟩ := lookup_eq_some hlookup
  have hrow := h.order order hlookup
  obtain ⟨hnone, hkey⟩ := hrow.unreceived hstatus
  obtain ⟨⟨entry, hquantity, hledger⟩, hholds⟩ :=
    settleWorkOrder_eq_ok hsettled (hkeeps.unsettled hkey)
  have hdocuments := hsame.trans (sameDocuments_settleWorkOrder hsettled)
  have hafter := lookup_writeWorkOrder db { order with status := .completed } order.id
  rw [if_pos rfl, ← hdocuments.workOrders] at hafter
  have hcompleted : completedOf settled.completions order.id =
      completedOf db.completions order.id := by rw [hdocuments.completions]; rfl
  refine ⟨hholds (hkeeps.held h.holds), fun order' horder' => ?_, fun hnone' => ?_⟩
  · cases hafter.symm.trans horder'
    refine ⟨hrow.reported.trans hcompleted.symm, hrow.nonneg, fun _ => ⟨entry, ?_, hquantity⟩,
      fun h => absurd rfl h, nofun⟩
    rw [hledger, hkeeps.received, hnone, List.nil_append]
  · rw [hafter] at hnone'
    cases hnone'

/-! ### The calls -/

theorem Keeps.writeWorkOrder (db : FactoryDb) (order : WorkOrder) :
    Keeps workOrderId db (db.writeWorkOrder order) := .of_eq rfl rfl rfl

theorem keeps_releaseWorkOrder {id : Id} (h : db.releaseWorkOrder ctx id = .ok db') :
    Keeps workOrderId db db' := by
  simp only [releaseWorkOrder, bind_eq_ok, pure_eq_ok] at h
  obtain ⟨order, -, -, -, reserved, hreserved, rfl⟩ := h
  have hloop : Keeps workOrderId db reserved :=
    .forEach (fun _ _ _ => keeps_reserveComponent) hreserved
  exact hloop.trans (.writeWorkOrder reserved _)

theorem keeps_cancelWorkOrder {id : Id} (h : db.cancelWorkOrder ctx id = .ok db') :
    Keeps workOrderId db db' := by
  simp only [cancelWorkOrder, bind_eq_ok, pure_eq_ok] at h
  obtain ⟨order, -, -, -, released, hreleased, rfl⟩ := h
  exact (keeps_releaseReservations hreleased).trans (.writeWorkOrder released _)

theorem Keeps.complete (id : Id) (order : WorkOrder) :
    Keeps workOrderId db ((db.stamp (completeKey id)).writeWorkOrder order) := by
  refine ⟨rfl, fun hdb => ⟨hdb.known, hdb.zero⟩, fun hkey => ?_⟩
  rw [CostingDb.hasProcessed, decide_eq_false_iff_not] at hkey ⊢
  intro hmem
  rcases List.mem_append.1 hmem with hold | hnew
  · exact hkey hold
  · simp [settleKey, completeKey] at hnew

/-- A completion that is not repeated, up to the engine's part in it. -/
theorem completeWorkOrder_settles {id : Id} (h : db.completeWorkOrder ctx id = .ok db') :
    db' = db ∨ ∃ order written, db.workOrder id = .ok order ∧ order.status = .inProgress ∧
      SameDocuments (db.writeWorkOrder { order with status := .completed }) written ∧
      (∀ workOrderId, Keeps workOrderId db written) ∧
      written.settleWorkOrder ctx order = .ok db' := by
  unfold completeWorkOrder at h
  by_cases hkey : db.costing.hasProcessed (completeKey id)
  · rw [if_pos hkey] at h
    cases h
    exact Or.inl rfl
  · rw [if_neg hkey] at h
    simp only [bind_eq_ok, pure_eq_ok, throwWhen_eq_ok, not_not] at h
    obtain ⟨order, horder, -, hstatus, written, hwritten, settled, hsettled, -, -, rfl⟩ := h
    refine Or.inr ⟨order, written, horder, hstatus, ?_, fun workOrderId => ?_, hsettled⟩
    · refine SameDocuments.trans ?_ (sameDocuments_releaseReservations hwritten)
      exact ⟨rfl, rfl, rfl, rfl, rfl, rfl⟩
    · exact (Keeps.complete id _).trans (keeps_releaseReservations hwritten)

theorem Yields.completeWorkOrder (h : Yields workOrderId db) {id : Id}
    (hcompleted : db.completeWorkOrder ctx id = .ok db') : Yields workOrderId db' := by
  rcases completeWorkOrder_settles hcompleted with rfl |
    ⟨order, written, horder, hstatus, hsame, hkeeps, hsettled⟩
  · exact h
  have hid := (lookup_eq_some (workOrder_eq_ok.1 horder)).2
  by_cases hother : order.id = workOrderId
  · refine h.settle (hother ▸ hid ▸ workOrder_eq_ok.1 horder) ?_ hsame (hkeeps workOrderId) hsettled
    rw [hstatus]
    nofun
  · have hdocuments := hsame.trans (sameDocuments_settleWorkOrder hsettled)
    refine h.same ((hkeeps workOrderId).trans (keeps_settleWorkOrder hother hsettled)) ?_ ?_
    · rw [hdocuments.workOrders, lookup_writeWorkOrder, if_neg hother]
    · rw [hdocuments.completions]
      rfl

theorem Yields.issueMaterial (h : Yields workOrderId db) {params : IssueParams}
    (hissued : db.issueMaterial ctx params = .ok db') : Yields workOrderId db' := by
  obtain ⟨order, quantity, -, -, -, hsame⟩ := issueMaterial_eq_ok hissued
  refine h.same (keeps_issueMaterial hissued) ?_ ?_
  · rw [hsame.workOrders]
  · rw [hsame.completions]

theorem Yields.backflushMaterials (h : Yields workOrderId db) {id : Id} {completedQty : Decimal} :
    Yields workOrderId (db.backflushMaterials ctx id completedQty).left ∧
      ∀ db', (db.backflushMaterials ctx id completedQty).result = .ok db' →
        Yields workOrderId db' :=
  backflushMaterials_invariant (I := Yields workOrderId)
    (fun _ _ _ _ hs hissued => hs.issueMaterial hissued) h

theorem completeReport_closes {params : CompletionParams} {order : WorkOrder}
    {completion : ProductionCompletion}
    (h : db.completeReport ctx params order completion = .ok db')
    (hquiet : order.id = workOrderId → params.quantity ≠ 0 → qcRequired ctx order = false) :
    ∃ reported,
      SameDocuments
        ({ db with completions := db.completions ++ [completion] }.writeWorkOrder order) reported ∧
      Keeps workOrderId db reported ∧ reported.closeWhenFull ctx order = .ok db' := by
  simp only [completeReport, bind_eq_ok] at h
  obtain ⟨logged, hlogged, inspected, hinspected, scrapped, hscrapped, batched, hbatched, h⟩ := h
  refine ⟨batched, (sameDocuments_logTransaction hlogged).trans
    ((sameDocuments_inspectProduction hinspected).trans
      ((sameDocuments_scrapProduction hscrapped).trans (sameDocuments_addToBatch hbatched))),
    ?_, h⟩
  have hwritten : Keeps workOrderId db
      ({ db with completions := db.completions ++ [completion] }.writeWorkOrder order) :=
    .of_eq rfl rfl rfl
  exact hwritten.trans ((keeps_logTransaction hlogged).trans
    ((keeps_inspectProduction hinspected hquiet).trans ((keeps_scrapProduction hscrapped).trans
      (keeps_addToBatch hbatched))))

theorem closeWhenFull_eq_ok {order : WorkOrder} (h : db.closeWhenFull ctx order = .ok db') :
    db' = db ∨ ∃ settled,
      (db.writeWorkOrder { order with status := .completed }).settleWorkOrder ctx order =
        .ok settled ∧ settled.releaseReservations ctx order.id = .ok db' := by
  unfold closeWhenFull at h
  split_ifs at h
  · simp only [bind_eq_ok] at h
    exact Or.inr h
  · cases h
    exact Or.inl rfl

theorem Yields.releaseReservations (h : Yields workOrderId db) {id : Id}
    (hreleased : db.releaseReservations ctx id = .ok db') : Yields workOrderId db' := by
  have hsame := sameDocuments_releaseReservations hreleased
  refine h.same (keeps_releaseReservations hreleased) ?_ ?_
  · rw [hsame.workOrders]
  · rw [hsame.completions]

theorem Yields.closeWhenFull (h : Yields workOrderId db) {order : WorkOrder}
    (hlookup : lookup WorkOrder.id db.workOrders order.id = some order)
    (hstatus : order.status ≠ .completed) (hclosed : db.closeWhenFull ctx order = .ok db') :
    Yields workOrderId db' := by
  rcases closeWhenFull_eq_ok hclosed with rfl | ⟨settled, hsettled, hreleased⟩
  · exact h
  refine Yields.releaseReservations ?_ hreleased
  by_cases hother : order.id = workOrderId
  · exact h.settle (hother ▸ hlookup) hstatus (.refl _) (.writeWorkOrder db _) hsettled
  · have hsame := sameDocuments_settleWorkOrder hsettled
    refine h.same ((Keeps.writeWorkOrder db _).trans (keeps_settleWorkOrder hother hsettled)) ?_ ?_
    · rw [hsame.workOrders, lookup_writeWorkOrder, if_neg hother]
    · rw [hsame.completions]
      rfl

theorem Yields.completeReport (h : Yields workOrderId db) {params : CompletionParams}
    {before order : WorkOrder} {completed scrapped completedQty scrappedQty : Qty}
    (hbefore : db.workOrder params.workOrderId = .ok before) (hstatus : before.status = .inProgress)
    (hcompleted : Column.store params.quantity = some completed)
    (hqty : Column.store (before.completedQty.value + params.quantity) = some completedQty)
    (horder : order = { before with completedQty := completedQty, scrappedQty := scrappedQty })
    (hsound : params.workOrderId = workOrderId → 0 ≤ params.quantity ∧
      OnScale 4 params.quantity ∧ (params.quantity ≠ 0 → qcRequired ctx before = false))
    (hreported : db.completeReport ctx params order ⟨before.id, completed, scrapped⟩ = .ok db') :
    Yields workOrderId db' := by
  have hid : before.id = params.workOrderId := (lookup_eq_some (workOrder_eq_ok.1 hbefore)).2
  have horderId : order.id = before.id := by rw [horder]
  have hquiet : order.id = workOrderId → params.quantity ≠ 0 → qcRequired ctx order = false := by
    intro hsame hne
    subst horder
    exact (hsound (hid.symm.trans hsame)).2.2 hne
  obtain ⟨reported, hsame, hkeeps, hclosed⟩ := completeReport_closes hreported hquiet
  have hlookup : ∀ id, lookup WorkOrder.id reported.workOrders id =
      if order.id = id then some order else lookup WorkOrder.id db.workOrders id := by
    intro id
    rw [hsame.workOrders, lookup_writeWorkOrder]
  have hcompletions : completedOf reported.completions workOrderId =
      completedOf db.completions workOrderId +
        if before.id = workOrderId then completed.value else 0 := by
    rw [hsame.completions]
    exact completedOf_append db.completions _
  have hrunning : order.status ≠ .completed := by
    rw [horder]
    exact fun h => nomatch hstatus.symm.trans h
  refine Yields.closeWhenFull ?_ (by rw [hlookup, if_pos rfl]) hrunning hclosed
  by_cases hother : before.id = workOrderId
  · obtain ⟨hnonneg, hscale, -⟩ := hsound (hid.symm.trans hother)
    have hrow := h.order before (hother ▸ hid ▸ workOrder_eq_ok.1 hbefore)
    have hcount : order.completedQty.value = before.completedQty.value + params.quantity := by
      rw [horder]
      exact Column.value_of_store hqty (before.completedQty.onScale_value.add hscale)
    have hfound : lookup WorkOrder.id reported.workOrders workOrderId = some order := by
      rw [hlookup, if_pos (horderId.trans hother)]
    obtain ⟨hnone, hkey⟩ := hrow.unreceived fun h => nomatch hstatus.symm.trans h
    refine ⟨hkeeps.held h.holds, fun order' horder' => ?_, fun hempty => ?_⟩
    · cases hfound.symm.trans horder'
      refine ⟨?_, ?_, fun h => absurd h hrunning,
        fun _ => ⟨hkeeps.received.trans hnone, hkeeps.unsettled hkey⟩, fun h => ?_⟩
      · rw [hcompletions, if_pos hother, hcount, hrow.reported,
          Column.value_of_store hcompleted hscale]
      · rw [hcount]
        exact add_nonneg hrow.nonneg hnonneg
      · rw [horder] at h
        exact nomatch hstatus.symm.trans h
    · rw [hfound] at hempty
      cases hempty
  · refine h.same hkeeps ?_ ?_
    · rw [hlookup, if_neg (horderId ▸ hother)]
    · rw [hcompletions, if_neg hother, add_zero]

theorem Yields.reportProductionCompletion (h : Yields workOrderId db) {params : CompletionParams}
    (hsound : db.TakesOutput workOrderId ⟨ctx, .reportProductionCompletion params⟩) :
    Yields workOrderId (db.next ⟨ctx, .reportProductionCompletion params⟩) := by
  apply reportProductionCompletion_invariant (I := Yields workOrderId)
  · exact fun _ _ => h.backflushMaterials.1
  · intro db' order completion hcount _ hreported
    obtain ⟨before, completed, scrapped, completedQty, scrappedQty, hbefore, hstatus, hcompleted,
      hqty, rfl, rfl⟩ := countReport_eq_ok hcount
    refine h.completeReport hbefore hstatus hcompleted hqty rfl (fun hid => ?_) hreported
    obtain ⟨hnonneg, hscale, hqc⟩ := hsound hid
    exact ⟨hnonneg, hscale, hqc before (hid ▸ workOrder_eq_ok.1 hbefore)⟩
  · exact h

end FactoryDb

/-! ### Runs -/

open FactoryDb (next)

/-- What holds of the goods of a work order at every time of a run. -/
structure OutputLaw (workOrderId : Id) (start : FactoryDb) (calls : List FactoryCall) : Prop where
  received : ∀ k, ∀ order ∈
    lookup WorkOrder.id (stateAt next start calls k).workOrders workOrderId,
      order.status = .completed ∨ order.status = .cancelled →
        receivedQty workOrderId (stateAt next start calls k).ledger =
          completedOf (stateAt next start calls k).completions workOrderId
  once : ∀ k, ((stateAt next start calls k).ledger.filter (receivesFor workOrderId)).length ≤ 1
  held : ∀ k n, (stateAt next start calls k).heldQty workOrderId
      ((stateAt next start calls k).ledger.take n) ≤
    receivedQty workOrderId ((stateAt next start calls k).ledger.take n)

/-- The order before its first report. -/
structure FactoryDb.Unreported (workOrderId : Id) (db : FactoryDb) : Prop where
  order : ∀ order ∈ lookup WorkOrder.id db.workOrders workOrderId,
    order.status ≠ .completed ∧ order.completedQty.value = 0
  completions : ∀ c ∈ db.completions, c.workOrderId ≠ workOrderId
  received : ∀ entry ∈ db.ledger, receivesFor workOrderId entry = false
  unsettled : db.costing.hasProcessed (FactoryDb.settleKey workOrderId) = false
  known : ∀ entry ∈ db.ledger, entry.entryType = .ledgerHold →
    ∃ id, entry.referenceId = some id ∧ id < db.holds.length
  held : ∀ entry ∈ db.ledger, db.holdsFor workOrderId entry = false

namespace FactoryDb

variable {db : FactoryDb} {workOrderId : Id}

instance (workOrderId : Id) (db : FactoryDb) : Decidable (db.Unreported workOrderId) :=
  decidable_of_iff
    ((∀ order ∈ lookup WorkOrder.id db.workOrders workOrderId,
        order.status ≠ .completed ∧ order.completedQty.value = 0) ∧
      (∀ c ∈ db.completions, c.workOrderId ≠ workOrderId) ∧
      (∀ entry ∈ db.ledger, receivesFor workOrderId entry = false) ∧
      db.costing.hasProcessed (settleKey workOrderId) = false ∧
      (∀ entry ∈ db.ledger, entry.entryType = .ledgerHold →
        ∃ id ∈ entry.referenceId, id < db.holds.length) ∧
      ∀ entry ∈ db.ledger, db.holdsFor workOrderId entry = false)
    ⟨fun ⟨h₁, h₂, h₃, h₄, h₅, h₆⟩ => ⟨h₁, h₂, h₃, h₄, h₅, h₆⟩,
      fun h => ⟨h.order, h.completions, h.received, h.unsettled, h.known, h.held⟩⟩

theorem Unreported.yields (h : db.Unreported workOrderId) : Yields workOrderId db where
  holds := by
    refine ⟨h.known, fun entry hentry hheld => ?_⟩
    rw [h.held entry hentry] at hheld
    cases hheld
  order := by
    intro order horder
    obtain ⟨hstatus, hzero⟩ := h.order order horder
    have hnone : (db.completions.filter fun c => c.workOrderId = workOrderId) = [] :=
      List.filter_eq_nil_iff.2 fun c hc => by simp [h.completions c hc]
    have hreceived : db.ledger.filter (receivesFor workOrderId) = [] :=
      List.filter_eq_nil_iff.2 fun entry hentry => by simp [h.received entry hentry]
    refine ⟨?_, hzero.ge, fun h => absurd h hstatus, fun _ => ⟨hreceived, h.unsettled⟩,
      fun _ => hzero⟩
    rw [hzero, completedOf, hnone]
    rfl
  absent _ := List.filter_eq_nil_iff.2 fun entry hentry => by simp [h.received entry hentry]

theorem Yields.next (h : Yields workOrderId db) {c : FactoryCall}
    (hsound : db.TakesOutput workOrderId c) : Yields workOrderId (db.next c) := by
  obtain ⟨ctx, op⟩ := c
  cases op with
  | releaseWorkOrder id =>
    refine outcome_invariant h fun db' hreleased => ?_
    obtain ⟨order, horder, hplanned, hsame⟩ := releaseWorkOrder_eq_ok hreleased
    exact h.writeStatus horder hsame (keeps_releaseWorkOrder hreleased)
      (fun hs => nomatch hplanned.symm.trans hs) nofun nofun
  | startWorkOrder id =>
    refine outcome_invariant h fun db' hstarted => ?_
    obtain ⟨order, horder, hreleased, rfl⟩ := startWorkOrder_eq_ok hstarted
    exact h.writeStatus horder (.refl _) (.writeWorkOrder db _)
      (fun hs => nomatch hreleased.symm.trans hs) nofun nofun
  | issueMaterial params => exact outcome_invariant h fun _ => h.issueMaterial
  | backflushMaterials id completedQty =>
    exact outcome_invariant h.backflushMaterials.1 h.backflushMaterials.2
  | reportProductionCompletion params => exact h.reportProductionCompletion hsound
  | completeWorkOrder id => exact outcome_invariant h fun _ => h.completeWorkOrder
  | cancelWorkOrder id =>
    refine outcome_invariant h fun db' hcancelled => ?_
    obtain ⟨order, horder, hrunning, -, hsame⟩ := cancelWorkOrder_eq_ok hcancelled
    refine h.writeStatus horder hsame (keeps_cancelWorkOrder hcancelled) hrunning nofun ?_
    intro hid _
    exact (hsound hid order (hid ▸ workOrder_eq_ok.1 horder)).resolve_left hrunning
  | _ => cases hsound

/-- The rows that receive for the order: none, or one of what was reported. -/
theorem Yields.received_nonneg (h : Yields workOrderId db) :
    ∀ entry ∈ db.ledger.filter (receivesFor workOrderId), 0 ≤ entry.quantity.value := by
  intro entry hentry
  cases hlookup : lookup WorkOrder.id db.workOrders workOrderId with
  | none =>
    rw [h.absent hlookup] at hentry
    cases hentry
  | some order =>
    have hrow := h.order order hlookup
    by_cases hstatus : order.status = .completed
    · obtain ⟨row, hrows, hquantity⟩ := hrow.completed hstatus
      rw [hrows, List.mem_singleton] at hentry
      rw [hentry, hquantity]
      exact hrow.nonneg
    · rw [(hrow.unreceived hstatus).1] at hentry
      cases hentry

theorem HoldsNothing.heldQty_take (h : db.HoldsNothing workOrderId) (n : ℕ) :
    db.heldQty workOrderId (db.ledger.take n) = 0 := by
  apply List.sum_eq_zero
  intro q hq
  obtain ⟨entry, hentry, rfl⟩ := List.mem_map.1 hq
  obtain ⟨hmem, hheld⟩ := List.mem_filter.1 hentry
  exact h.zero entry (List.mem_of_mem_take hmem) hheld

end FactoryDb

open FactoryDb (Yields)

theorem outputLaw_of_takesOutput {workOrderId : Id} {start : FactoryDb}
    {calls : List FactoryCall} (hstart : start.Unreported workOrderId)
    (h : Always next (FactoryDb.TakesOutput workOrderId) start calls) :
    OutputLaw workOrderId start calls := by
  have hyields : ∀ k, Yields workOrderId (stateAt next start calls k) :=
    h.invariant_at (I := Yields workOrderId) (fun _ _ hdb hc => hdb.next hc) hstart.yields
  constructor
  · intro k order horder hended
    have hrow := (hyields k).order order horder
    by_cases hstatus : order.status = .completed
    · obtain ⟨entry, hrows, hquantity⟩ := hrow.completed hstatus
      rw [receivedQty, hrows, ← hrow.reported, ← hquantity]
      simp
    · rw [receivedQty, (hrow.unreceived hstatus).1, ← hrow.reported,
        hrow.cancelled (hended.resolve_left hstatus)]
      rfl
  · intro k
    cases hlookup : lookup WorkOrder.id (stateAt next start calls k).workOrders workOrderId with
    | none =>
      rw [(hyields k).absent hlookup]
      exact Nat.zero_le 1
    | some order =>
      have hrow := (hyields k).order order hlookup
      by_cases hstatus : order.status = .completed
      · obtain ⟨entry, hrows, -⟩ := hrow.completed hstatus
        rw [hrows]
        exact le_rfl
      · rw [(hrow.unreceived hstatus).1]
        exact Nat.zero_le 1
  · intro k n
    rw [(hyields k).holds.heldQty_take]
    apply List.sum_nonneg
    intro q hq
    obtain ⟨entry, hentry, rfl⟩ := List.mem_map.1 hq
    obtain ⟨hmem, hreceives⟩ := List.mem_filter.1 hentry
    exact (hyields k).received_nonneg entry
      (List.mem_filter.2 ⟨List.mem_of_mem_take hmem, hreceives⟩)

/-- A tenant with profiles for all that a work order posts. -/
def productionContext : FactoryContext :=
  { plainContext with
    costing :=
      { Costing.standardContext with
        itemCostProfiles := [⟨9, some 3, .movingAverage, Column.store 10⟩]
        postingProfiles := Costing.standardContext.postingProfiles ++
          [{ transactionType := .productionReceipt, debitAccountId := 1, creditAccountId := 3 },
            { transactionType := .costVariance, debitAccountId := 5, creditAccountId := 3 }] } }

/-- The order when material for six pieces was issued, which is what no report exceeds. -/
def suppliedOrder : FactoryDb :=
  stockedOrder.next
    ⟨productionContext, .issueMaterial { workOrderId := 1, productId := 7, quantity := 18 }⟩

def reportIn (ctx : FactoryContext) (quantity : Decimal) : FactoryCall :=
  ⟨ctx, .reportProductionCompletion { workOrderId := 1, quantity := quantity }⟩

/-- Two reports that reach the planned quantity, and a completion that comes too late. -/
def twoReports : List FactoryCall :=
  [reportIn productionContext 4, reportIn productionContext 6,
    ⟨productionContext, .completeWorkOrder 1⟩]

theorem outputLaw_twoReports :
    receivedQty 1 (run next suppliedOrder twoReports).ledger = 10 ∧
      OutputLaw 1 suppliedOrder twoReports :=
  ⟨by decide +kernel, outputLaw_of_takesOutput (by decide +kernel) (by decide +kernel)⟩

def cancelledAfterReport : List FactoryCall :=
  [reportIn productionContext 4, ⟨productionContext, .cancelWorkOrder 1⟩]

/-- The four pieces never come into stock. -/
theorem not_outputLaw_cancelledAfterReport : ¬OutputLaw 1 suppliedOrder cancelledAfterReport := by
  intro h
  have hreceived := h.received 2
  revert hreceived
  decide +kernel

end Forecast.Manufacturing
