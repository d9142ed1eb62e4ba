import Forecast.Inventory.LedgerBalance
import Forecast.Manufacturing.StockEffects

/-!
# What the steps of an operation move

The stock on hand, the ledger and `inventory_transactions` keep one account each of every
product at every location. A step of an operation adds one quantity to the first two and
one of its own to the third.
-/

open KeyedTable DecimalColumn Transactions

namespace Forecast.Manufacturing

open Inventory (Qty StockDb EntryParams LedgerEntry LedgerEntryType StockKey calculateDeltas
  recorded_of_recordEntry entriesOf_append)

/-- A quantity of each product at each location. -/
abbrev Movement := Id → Id → Decimal

def Movement.single (productId locationId : Id) (quantity : Decimal) : Movement :=
  fun p l => if p = productId ∧ l = locationId then quantity else 0

@[simp]
theorem Movement.single_zero (productId locationId : Id) : single productId locationId 0 = 0 := by
  funext p l
  simp [single]

theorem Movement.single_add (productId locationId : Id) (a b : Decimal) :
    single productId locationId (a + b) =
      single productId locationId a + single productId locationId b := by
  funext p l
  simp only [single, Pi.add_apply]
  split_ifs <;> simp

namespace FactoryDb

def onHand (db : FactoryDb) (tenantId : Id) : Movement := fun p l =>
  (db.costing.stock.balances ⟨tenantId, p, l⟩).onHand

def ledgerTotal (db : FactoryDb) (tenantId : Id) : Movement := fun p l =>
  ((db.costing.stock.entriesOf ⟨tenantId, p, l⟩).map LedgerEntry.reconciledQty).sum

/-- The rows of `inventory_transactions` carry their sign. -/
def transactionTotal (db : FactoryDb) : Movement := fun p l =>
  ((db.transactions.filter fun row => row.productId = p ∧ row.locationId = l).map fun row =>
    row.quantity.value).sum

/-- A step moves the stock on hand and the ledger by `m`. -/
structure Moves (tenantId : Id) (db db' : FactoryDb) (m : Movement) : Prop where
  onHand : db'.onHand tenantId = db.onHand tenantId + m
  ledger : db'.ledgerTotal tenantId = db.ledgerTotal tenantId + m

/-- A step adds rows of `m` to `inventory_transactions`. -/
def Logs (db db' : FactoryDb) (m : Movement) : Prop :=
  db'.transactionTotal = db.transactionTotal + m

variable {tenantId : Id} {ctx : FactoryContext} {db db' db'' : FactoryDb} {m m' : Movement}

theorem Moves.trans (h : Moves tenantId db db' m) (h' : Moves tenantId db' db'' m') :
    Moves tenantId db db'' (m + m') where
  onHand := by rw [h'.onHand, h.onHand, add_assoc]
  ledger := by rw [h'.ledger, h.ledger, add_assoc]

theorem Logs.trans (h : Logs db db' m) (h' : Logs db' db'' m') : Logs db db'' (m + m') := by
  unfold Logs at *
  rw [h', h, add_assoc]

theorem Moves.then_zero (h : Moves tenantId db db' m) (h' : Moves tenantId db' db'' 0) :
    Moves tenantId db db'' m := by
  have hboth := h.trans h'
  rwa [add_zero] at hboth

theorem Moves.zero_then (h : Moves tenantId db db' 0) (h' : Moves tenantId db' db'' m) :
    Moves tenantId db db'' m := by
  have hboth := h.trans h'
  rwa [zero_add] at hboth

theorem Logs.then_zero (h : Logs db db' m) (h' : Logs db' db'' 0) : Logs db db'' m := by
  have hboth := h.trans h'
  rwa [add_zero] at hboth

theorem Logs.zero_then (h : Logs db db' 0) (h' : Logs db' db'' m) : Logs db db'' m := by
  have hboth := h.trans h'
  rwa [zero_add] at hboth

theorem Moves.of_eq (hlevels : db'.costing.stock.levels = db.costing.stock.levels)
    (hledger : db'.costing.stock.ledger = db.costing.stock.ledger) : Moves tenantId db db' 0 where
  onHand := by
    funext p l
    simp [FactoryDb.onHand, StockDb.balances, StockDb.findLevel, hlevels]
  ledger := by
    funext p l
    simp [ledgerTotal, StockDb.entriesOf, hledger]

theorem Moves.refl (tenantId : Id) (db : FactoryDb) : Moves tenantId db db 0 := .of_eq rfl rfl

theorem Logs.of_eq (h : db'.transactions = db.transactions) : Logs db db' 0 := by
  rw [Logs, add_zero]
  unfold transactionTotal
  rw [h]

theorem Logs.refl (db : FactoryDb) : Logs db db 0 := .of_eq rfl

/-- A step that none of the three accounts shows. -/
structure Quiet (tenantId : Id) (db db' : FactoryDb) : Prop where
  moves : Moves tenantId db db' 0
  logs : Logs db db' 0

theorem Quiet.trans (h : Quiet tenantId db db') (h' : Quiet tenantId db' db'') :
    Quiet tenantId db db'' := ⟨h.moves.then_zero h'.moves, h.logs.then_zero h'.logs⟩

theorem Quiet.of_eq (hcosting : db'.costing = db.costing)
    (hrows : db'.transactions = db.transactions) : Quiet tenantId db db' :=
  ⟨.of_eq (by rw [hcosting]) (by rw [hcosting]), .of_eq hrows⟩

theorem Quiet.refl (tenantId : Id) (db : FactoryDb) : Quiet tenantId db db := .of_eq rfl rfl

/-! ### Loops -/

section Loops

variable {α : Type} {f : FactoryDb → α → Except ManufacturingError FactoryDb} {g : α → Movement}
  {xs : List α}

theorem Moves.forEach
    (hstep : ∀ x ∈ xs, ∀ db db', f db x = .ok db' → Moves tenantId db db' (g x))
    (h : Transactions.forEach f db xs = .ok db') : Moves tenantId db db' (xs.map g).sum := by
  induction xs generalizing db with
  | nil =>
    cases h
    exact .refl tenantId _
  | cons x xs ih =>
    obtain ⟨next, hnext, h⟩ := forEach_cons_eq_ok.1 h
    rw [List.map_cons, List.sum_cons]
    exact (hstep x List.mem_cons_self db next hnext).trans
      (ih (fun y hy => hstep y (List.mem_cons_of_mem x hy)) h)

theorem Logs.forEach (hstep : ∀ x ∈ xs, ∀ db db', f db x = .ok db' → Logs db db' (g x))
    (h : Transactions.forEach f db xs = .ok db') : Logs db db' (xs.map g).sum := by
  induction xs generalizing db with
  | nil =>
    cases h
    exact .refl _
  | cons x xs ih =>
    obtain ⟨next, hnext, h⟩ := forEach_cons_eq_ok.1 h
    rw [List.map_cons, List.sum_cons]
    exact (hstep x List.mem_cons_self db next hnext).trans
      (ih (fun y hy => hstep y (List.mem_cons_of_mem x hy)) h)

theorem Quiet.forEach
    (hstep : ∀ x ∈ xs, ∀ db db', f db x = .ok db' → Quiet tenantId db db')
    (h : Transactions.forEach f db xs = .ok db') : Quiet tenantId db db' :=
  forEach_invariant (I := Quiet tenantId db)
    (fun s s' x hx hs hnext => hs.trans (hstep x hx s s' hnext)) h (.refl tenantId db)

end Loops

/-! ### One row -/

theorem onHand_of_idle {stock stock' : StockDb} {params : EntryParams}
    (h : stock.recordEntry params = .ok stock')
    (hidle : (calculateDeltas params.entryType params.quantity).onHandDelta = 0)
    (key : StockKey) : (stock'.balances key).onHand = (stock.balances key).onHand := by
  simp only [StockDb.recordEntry, Inventory.Balances.toLevel, bind_eq_ok, pure_eq_ok,
    Inventory.stored_eq_ok] at h
  obtain ⟨-, -, entry, -, level, ⟨onHandQty, honHand, -, -, -, -, -, -, rfl⟩, batches, -, rfl⟩ := h
  have hstored : (stock.balances params.key).Stored := Inventory.Balances.stored_ofLevel _
  have hmoved : ((stock.balances params.key).moved
      (calculateDeltas params.entryType params.quantity)).onHand =
        (stock.balances params.key).onHand := by
    change Decimal.plus _ _ = _
    rw [hidle, hstored.onHand.plus_eq Inventory.Fits.zero (by norm_num), add_zero]
  rw [hmoved] at honHand
  have hvalue := Column.value_of_store honHand hstored.onHand.onScale
  unfold StockDb.balances StockDb.findLevel
  rw [lookup_upsert]
  split_ifs with hkey
  · change onHandQty.value = _
    rw [hvalue, ← hkey]
    rfl
  · rfl

/-- What a call of the stock service moves. -/
def movementOf (tenantId : Id) (params : EntryParams) : Movement := fun p l =>
  if params.key = ⟨tenantId, p, l⟩ then
    (calculateDeltas params.entryType params.quantity).onHandDelta
  else 0

theorem movementOf_key {params : EntryParams} {productId locationId : Id} (tenantId : Id)
    (hkey : params.key = ⟨tenantId, productId, locationId⟩) :
    movementOf tenantId params = .single productId locationId
      (calculateDeltas params.entryType params.quantity).onHandDelta := by
  funext p l
  unfold movementOf Movement.single
  simp [hkey, eq_comm]

theorem movementOf_eq_zero {params : EntryParams}
    (h : (calculateDeltas params.entryType params.quantity).onHandDelta = 0) :
    movementOf tenantId params = 0 := by
  funext p l
  simp [movementOf, h]

/-- A call of the stock service moves the level and writes its row. -/
theorem Moves.of_recordEntry {params : EntryParams}
    (h : db.costing.stock.recordEntry params = .ok db'.costing.stock)
    (hscale : OnScale 4 params.quantity) :
    Moves tenantId db db' (movementOf tenantId params) := by
  have hrecorded := recorded_of_recordEntry h hscale
  obtain ⟨entry, hentry, hledger⟩ := hrecorded.ledger
  have hquantity : entry.reconciledQty =
      (calculateDeltas params.entryType params.quantity).onHandDelta := by
    rw [entry.reconciledQty_eq_onHandDelta, LedgerEntry.deltas, hentry.entryType, hentry.quantity]
  constructor
  · funext p l
    rw [Pi.add_apply, Pi.add_apply]
    unfold FactoryDb.onHand movementOf
    by_cases hkey : params.key = ⟨tenantId, p, l⟩
    · rw [if_pos hkey, ← hkey, hrecorded.balances]
      rfl
    · rw [if_neg hkey, add_zero, hrecorded.others _ (Ne.symm hkey)]
  · funext p l
    rw [Pi.add_apply, Pi.add_apply]
    unfold ledgerTotal movementOf
    rw [entriesOf_append hledger, hentry.key]
    by_cases hkey : params.key = ⟨tenantId, p, l⟩
    · rw [if_pos hkey, if_pos hkey, List.map_append, List.sum_append, List.map_singleton,
        List.sum_singleton, hquantity]
    · rw [if_neg hkey, if_neg hkey, List.append_nil, add_zero]

theorem Moves.of_recordEntry_zero {params : EntryParams}
    (h : db.costing.stock.recordEntry params = .ok db'.costing.stock)
    (hzero : params.quantity = 0) : Moves tenantId db db' 0 := by
  have hmoves : Moves tenantId db db' _ := .of_recordEntry h (hzero ▸ OnScale.zero)
  have hdelta : (calculateDeltas params.entryType params.quantity).onHandDelta = 0 := by
    rw [hzero]
    cases params.entryType <;> simp [calculateDeltas]
  rwa [movementOf_eq_zero hdelta] at hmoves

theorem Moves.recordEntry {params : EntryParams} (h : db.recordEntry params = .ok db')
    (hscale : OnScale 4 params.quantity) : Moves tenantId db db' (movementOf tenantId params) := by
  obtain ⟨w, hw, rfl⟩ := inWarehouse_eq_ok.1 h
  exact .of_recordEntry (recordEntry_eq_ok hw).1 hscale

theorem Moves.recordEntry_zero {params : EntryParams} (h : db.recordEntry params = .ok db')
    (hzero : params.quantity = 0) : Moves tenantId db db' 0 := by
  obtain ⟨w, hw, rfl⟩ := inWarehouse_eq_ok.1 h
  exact .of_recordEntry_zero (recordEntry_eq_ok hw).1 hzero

theorem Moves.logTransaction {row : Qty → InventoryTransaction} {quantity : Decimal}
    (h : db.logTransaction row quantity = .ok db') : Moves tenantId db db' 0 := by
  obtain ⟨stored, -, rfl⟩ := logTransaction_eq_ok.1 h
  exact .of_eq rfl rfl

theorem Logs.logTransaction {row : Qty → InventoryTransaction} {quantity : Decimal}
    {productId locationId : Id} (h : db.logTransaction row quantity = .ok db')
    (hscale : OnScale 4 quantity) (hproduct : ∀ q, (row q).productId = productId)
    (hlocation : ∀ q, (row q).locationId = locationId) (hquantity : ∀ q, (row q).quantity = q) :
    Logs db db' (.single productId locationId quantity) := by
  obtain ⟨stored, hstored, rfl⟩ := logTransaction_eq_ok.1 h
  funext p l
  rw [Pi.add_apply, Pi.add_apply]
  unfold transactionTotal Movement.single
  rw [List.filter_append, List.map_append, List.sum_append]
  congr 1
  have hvalue := Column.value_of_store hstored hscale
  by_cases hplace : p = productId ∧ l = locationId
  · obtain ⟨rfl, rfl⟩ := hplace
    simp [hproduct, hlocation, hquantity, hvalue]
  · have hother : ¬(productId = p ∧ locationId = l) := fun h => hplace ⟨h.1.symm, h.2.symm⟩
    simp [hproduct, hlocation, hplace, hother]

/-! ### Calls of the other services -/

theorem Logs.inWarehouse {f : Inventory.WarehouseDb →
      Except Inventory.InventoryError Inventory.WarehouseDb}
    (h : db.inWarehouse f = .ok db') : Logs db db' 0 := by
  obtain ⟨w, -, rfl⟩ := inWarehouse_eq_ok.1 h
  exact .of_eq rfl

theorem Logs.inCosting {f : Costing.CostingDb →
      Except Costing.CostingError (Costing.CostingDb × Costing.CostResult)}
    (h : db.inCosting f = .ok db') : Logs db db' 0 := by
  obtain ⟨costing, result, -, rfl⟩ := inCosting_eq_ok.1 h
  exact .of_eq rfl

/-- A row that holds, reserves or gives back moves no stock, whatever its quantity. -/
theorem Moves.of_idle {params : EntryParams}
    (h : db.costing.stock.recordEntry params = .ok db'.costing.stock)
    (hidle : params.entryType.movesOnHand = false) : Moves tenantId db db' 0 := by
  have hdelta : ∀ q, (calculateDeltas params.entryType q).onHandDelta = 0 := by
    intro q
    cases htype : params.entryType <;> rw [htype] at hidle <;> first | rfl | cases hidle
  obtain ⟨entry, hentry, hledger⟩ := exists_isFor h
  have hquantity : entry.reconciledQty = 0 := by
    rw [entry.reconciledQty_eq_onHandDelta, LedgerEntry.deltas, hentry.entryType]
    exact hdelta _
  constructor
  · funext p l
    rw [add_zero]
    exact onHand_of_idle h (hdelta _) _
  · funext p l
    rw [add_zero]
    unfold ledgerTotal
    rw [entriesOf_append hledger]
    split_ifs <;> simp [hquantity]

theorem Quiet.inWarehouse
    {f : Inventory.WarehouseDb → Except Inventory.InventoryError Inventory.WarehouseDb}
    (h : db.inWarehouse f = .ok db')
    (hidle : ∀ w w', f w = .ok w' → ∃ params : EntryParams,
      w.stock.recordEntry params = .ok w'.stock ∧ params.entryType.movesOnHand = false) :
    Quiet tenantId db db' := by
  refine ⟨?_, .inWarehouse h⟩
  obtain ⟨w, hw, rfl⟩ := inWarehouse_eq_ok.1 h
  obtain ⟨params, hstock, htype⟩ := hidle _ _ hw
  exact .of_idle hstock htype

theorem Quiet.createReservation {params : Inventory.ReservationParams}
    (h : (db.inWarehouse fun w => w.createReservation params) = .ok db') :
    Quiet tenantId db db' :=
  .inWarehouse h fun _ _ hw => ⟨params.entry, (createReservation_eq_ok hw).1, rfl⟩

theorem Quiet.releaseReservation {params : Inventory.ReleaseReservationParams}
    (h : (db.inWarehouse fun w => w.releaseReservation params) = .ok db') :
    Quiet tenantId db db' := by
  refine .inWarehouse h fun w w' hw => ?_
  obtain ⟨r, -, hstock, -⟩ := releaseReservation_eq_ok hw
  exact ⟨_, hstock, rfl⟩

theorem Quiet.placeHold {params : Inventory.HoldParams}
    (h : (db.inWarehouse fun w => w.placeHold params) = .ok db') : Quiet tenantId db db' := by
  refine .inWarehouse h fun w w' hw => ?_
  obtain ⟨heldQty, -, hstock, -, -⟩ := placeHold_eq_ok hw
  exact ⟨_, hstock, rfl⟩

theorem Quiet.releaseHold {params : Inventory.ReleaseHoldParams}
    (h : (db.inWarehouse fun w => w.releaseHold params) = .ok db') : Quiet tenantId db db' := by
  refine .inWarehouse h fun w w' hw => ?_
  obtain ⟨hold, released, -, -, -, hstock, -, -⟩ := releaseHold_eq_ok hw
  exact ⟨_, hstock, rfl⟩

/-! ### Steps of the operations that are quiet -/

theorem quiet_reserveComponent {order : WorkOrder} {component : BomComponent}
    (h : reserveComponent ctx order db component = .ok db') : Quiet tenantId db db' := by
  dsimp only [reserveComponent] at h
  split_ifs at h
  · simp only [bind_eq_ok] at h
    exact .createReservation h.choose_spec.2
  · cases h
    exact .refl tenantId _

theorem quiet_releaseReservations {workOrderId : Id}
    (h : db.releaseReservations ctx workOrderId = .ok db') : Quiet tenantId db db' :=
  .forEach (fun _ _ _ _ hstep => .releaseReservation (releaseFor_eq_ok hstep)) h

theorem quiet_releaseForIssue {params : IssueParams} (h : db.releaseForIssue params = .ok db') :
    Quiet tenantId db db' := by
  dsimp only [releaseForIssue] at h
  split at h
  · cases h
    exact .refl tenantId _
  · split_ifs at h
    · exact .releaseReservation h
    · cases h
      exact .refl tenantId _

theorem quiet_takeFromBatch {batchId : Option Id} {quantity : Decimal}
    (h : db.takeFromBatch batchId quantity = .ok db') : Quiet tenantId db db' := by
  unfold takeFromBatch at h
  split at h
  · cases h
    exact .refl tenantId _
  · simp only [bind_eq_ok, pure_eq_ok] at h
    obtain ⟨availableQty, -, rfl⟩ := h
    exact ⟨.of_eq rfl rfl, .of_eq rfl⟩

theorem quiet_inspectReceipt {gr : GoodsReceipt} {locationId : Id} {line : GoodsReceiptLine}
    (h : db.inspectReceipt ctx gr locationId line = .ok db') : Quiet tenantId db db' := by
  simp only [inspectReceipt, bind_eq_ok, pure_eq_ok] at h
  obtain ⟨held, hheld, rfl⟩ := h
  exact (Quiet.placeHold hheld).trans (.of_eq rfl rfl)

theorem quiet_countLine {orderId : Id} {line : GoodsReceiptLine}
    (h : countLine orderId db line = .ok db') : Quiet tenantId db db' := by
  unfold countLine at h
  split at h
  · cases h
    exact .refl tenantId _
  · split at h
    · cases h
      exact .refl tenantId _
    · simp only [bind_eq_ok, pure_eq_ok] at h
      obtain ⟨receivedQty, -, rfl⟩ := h
      exact .of_eq rfl rfl

theorem quiet_settleOrder (orderId : Id) : Quiet tenantId db (db.settleOrder orderId) := by
  unfold settleOrder
  split <;> exact .of_eq rfl rfl

end FactoryDb

end Forecast.Manufacturing
