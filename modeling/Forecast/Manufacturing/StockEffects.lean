import Forecast.Manufacturing.FactoryFrames

/-!
# What the steps of an operation write to the ledger

Every call of the stock service and of the costing engine writes one row to the ledger, or
none when the engine did it before. The rows are read off from the calls once.
-/

open KeyedTable DecimalColumn Transactions

namespace Forecast.Manufacturing

open Inventory (Qty StockDb EntryParams LedgerEntry LedgerEntryType WarehouseDb InventoryError
  ReservationParams HoldParams ReleaseReservationParams ReleaseHoldParams InventoryReservation
  InventoryHold DecimalInput stored_eq_ok)
open Costing (CostingDb CostingContext CostingError CostResult mapError_eq_ok)

/-! ### One row of the ledger -/

/-- The row that a call writes. -/
structure IsFor (params : EntryParams) (entry : LedgerEntry) : Prop where
  key : entry.key = params.key
  entryType : entry.entryType = params.entryType
  quantity : Column.store params.quantity = some entry.quantity
  referenceType : entry.referenceType = params.referenceType
  referenceId : entry.referenceId = params.referenceId

theorem exists_isFor {stock stock' : StockDb} {params : EntryParams}
    (h : stock.recordEntry params = .ok stock') :
    ∃ entry, IsFor params entry ∧ stock'.ledger = stock.ledger ++ [entry] := by
  simp only [StockDb.recordEntry, EntryParams.toEntry, bind_eq_ok, pure_eq_ok, stored_eq_ok] at h
  obtain ⟨-, -, entry, ⟨quantity, hquantity, -, -, -, -, -, -, rfl⟩, -, -, -, -, rfl⟩ := h
  exact ⟨_, ⟨rfl, rfl, hquantity, rfl, rfl⟩, rfl⟩

/-! ### Calls of the stock service -/

section Warehouse

variable {w w' : WarehouseDb}

theorem recordEntry_eq_ok {params : EntryParams} (h : w.recordEntry params = .ok w') :
    w.stock.recordEntry params = .ok w'.stock ∧ w'.reservations = w.reservations ∧
      w'.holds = w.holds := by
  simp only [WarehouseDb.recordEntry, bind_eq_ok, pure_eq_ok] at h
  obtain ⟨stock, hstock, rfl⟩ := h
  exact ⟨hstock, rfl, rfl⟩

theorem createReservation_eq_ok {params : ReservationParams}
    (h : w.createReservation params = .ok w') :
    w.stock.recordEntry params.entry = .ok w'.stock ∧ w'.holds = w.holds := by
  simp only [WarehouseDb.createReservation, bind_eq_ok] at h
  obtain ⟨-, -, reservedQty, -, h⟩ := h
  obtain ⟨hstock, -, hholds⟩ := recordEntry_eq_ok h
  exact ⟨hstock, hholds⟩

theorem releaseReservation_eq_ok {params : ReleaseReservationParams}
    (h : w.releaseReservation params = .ok w') :
    ∃ r : InventoryReservation, w.reservations[params.reservationId]? = some r ∧
      w.stock.recordEntry
        (r.releaseEntry (DecimalInput.orElse params.fulfilledQty r.reservedQty)) = .ok w'.stock ∧
      w'.holds = w.holds := by
  simp only [WarehouseDb.releaseReservation, bind_eq_ok, found_eq_ok] at h
  obtain ⟨r, hr, -, -, -, -, fulfilledQty, -, h⟩ := h
  obtain ⟨hstock, -, hholds⟩ := recordEntry_eq_ok h
  exact ⟨r, hr, hstock, hholds⟩

theorem placeHold_eq_ok {params : HoldParams} (h : w.placeHold params = .ok w') :
    ∃ heldQty, Column.store params.quantity = some heldQty ∧
      w.stock.recordEntry (params.entry w.holds.length) = .ok w'.stock ∧
      w'.reservations = w.reservations ∧
      w'.holds = w.holds ++ [params.row w.holds.length heldQty] := by
  simp only [WarehouseDb.placeHold, bind_eq_ok, stored_eq_ok] at h
  obtain ⟨heldQty, hheld, h⟩ := h
  obtain ⟨hstock, hreservations, hholds⟩ := recordEntry_eq_ok h
  exact ⟨heldQty, hheld, hstock, hreservations, hholds⟩

theorem releaseHold_eq_ok {params : ReleaseHoldParams} (h : w.releaseHold params = .ok w') :
    ∃ hold released : InventoryHold, w.holds[params.holdId]? = some hold ∧
      hold.status = .active ∧
      hold.release (DecimalInput.orElse params.releasedQty hold.heldQty) = .ok released ∧
      w.stock.recordEntry
        (hold.releaseEntry (DecimalInput.orElse params.releasedQty hold.heldQty)) = .ok w'.stock ∧
      w'.reservations = w.reservations ∧
      w'.holds = w.holds.modify params.holdId fun _ => released := by
  simp only [WarehouseDb.releaseHold, bind_eq_ok, found_eq_ok, throwWhen_eq_ok, not_not] at h
  obtain ⟨hold, hhold, -, -, -, hactive, released, hreleased, h⟩ := h
  obtain ⟨hstock, hreservations, hholds⟩ := recordEntry_eq_ok h
  exact ⟨hold, released, hhold, hactive, hreleased, hstock, hreservations, hholds⟩

end Warehouse

/-! ### Calls of the costing engine -/

section Engine

variable {ctx : CostingContext} {db db' : CostingDb} {result : CostResult}

theorem receiptCost_recordEntry {params : Costing.ReceiptCostParams}
    (h : Costing.calculatePurchaseReceiptCost ctx db params = .ok (db', result)) :
    db' = db ∨ ∃ baseCurrency journalEntryId,
      db.stock.recordEntry (params.entry baseCurrency journalEntryId) = .ok db'.stock := by
  rcases Costing.receipt_eq_ok h with ⟨-, rfl⟩ | ⟨baseCurrency, posted, -, -, -, -, hstock, -⟩
  · exact Or.inl rfl
  · exact Or.inr ⟨baseCurrency, posted.2.id, mapError_eq_ok.1 hstock⟩

theorem issueCost_recordEntry {params : Costing.IssueCostParams}
    (h : Costing.issueMaterialCost ctx db params = .ok (db', result)) :
    db' = db ∨ ∃ cost journalEntryId,
      db.stock.recordEntry (params.entry cost journalEntryId) = .ok db'.stock := by
  rcases Costing.issue_eq_ok h with ⟨-, rfl⟩ | ⟨issued, posted, -, -, -, -, hstock, -⟩
  · exact Or.inl rfl
  · exact Or.inr ⟨issued.2, posted.2.id, mapError_eq_ok.1 hstock⟩

theorem scrapCost_recordEntry {params : Costing.ScrapCostParams}
    (h : Costing.costScrap ctx db params = .ok (db', result)) :
    ∃ cost, db.stock.recordEntry (params.entry cost) = .ok db'.stock := by
  obtain ⟨scrapped, posted, -, -, -, -, hstock, -⟩ := Costing.scrap_eq_ok h
  exact ⟨scrapped.2, mapError_eq_ok.1 hstock⟩

theorem completionCost_recordEntry {params : Costing.CompletionParams}
    (h : Costing.completeWorkOrderCost ctx db params = .ok (db', result)) :
    (db.hasProcessed params.idempKey = true ∧ db' = db) ∨
      db.hasProcessed params.idempKey = false ∧ ∃ wipPerUnit journalEntryId,
        db.stock.recordEntry (params.entry wipPerUnit journalEntryId) = .ok db'.stock := by
  by_cases hkey : db.hasProcessed params.idempKey = true
  · simp only [Costing.completeWorkOrderCost, if_pos hkey] at h
    cases h
    exact Or.inl ⟨hkey, rfl⟩
  · refine Or.inr ⟨Bool.eq_false_iff.2 hkey, ?_⟩
    rcases Costing.completion_eq_ok h with ⟨rfl, -⟩ |
      ⟨wipPerUnit, -, posted, -, -, -, -, -, hstock, -⟩
    · simp only [Costing.completeWorkOrderCost, if_neg hkey, bind_eq_ok, pure_eq_ok] at h
      obtain ⟨-, -, -, -, rate, -, totals, -, books, -, posted, -, scrapped, -, stock, -, journal,
        -, wip, -, heq⟩ := h
      cases heq
    · exact ⟨wipPerUnit, posted.2.id, mapError_eq_ok.1 hstock⟩

/-- The keys that a call adds are its own. -/
def AddsKey (db db' : CostingDb) (key : String × String) : Prop :=
  ∀ k ∈ db'.idempotencyKeys, k ∈ db.idempotencyKeys ∨ k = key

theorem addsKey_issueMaterialCost {params : Costing.IssueCostParams}
    (h : Costing.issueMaterialCost ctx db params = .ok (db', result)) :
    AddsKey db db' params.idempKey := by
  simp only [Costing.issueMaterialCost, bind_eq_ok] at h
  obtain ⟨-, -, h⟩ := h
  intro k hk
  by_cases hkey : db.hasProcessed params.idempKey
  · rw [if_pos hkey] at h
    cases h
    exact Or.inl hk
  · rw [if_neg hkey] at h
    simp only [bind_eq_ok, pure_eq_ok] at h
    obtain ⟨-, -, -, -, issued, -, books, -, wip, -, posted, -, stock, -, heq⟩ := h
    cases heq
    simpa using hk

theorem addsKey_completeWorkOrderCost {params : Costing.CompletionParams}
    (h : Costing.completeWorkOrderCost ctx db params = .ok (db', result)) :
    AddsKey db db' params.idempKey := by
  unfold Costing.completeWorkOrderCost at h
  intro k hk
  by_cases hkey : db.hasProcessed params.idempKey
  · rw [if_pos hkey] at h
    cases h
    exact Or.inl hk
  · rw [if_neg hkey] at h
    simp only [bind_eq_ok, pure_eq_ok] at h
    obtain ⟨-, -, -, -, rate, -, totals, -, books, -, posted, -, scrapped, -, stock, -, journal, -,
      wip, -, heq⟩ := h
    cases heq
    simpa using hk

theorem addsKey_costScrap {params : Costing.ScrapCostParams}
    (h : Costing.costScrap ctx db params = .ok (db', result)) :
    db'.idempotencyKeys = db.idempotencyKeys := by
  simp only [Costing.costScrap, bind_eq_ok, pure_eq_ok] at h
  obtain ⟨-, -, scrapped, -, wip, -, posted, -, -, -, stock, -, heq⟩ := h
  cases heq
  rfl

end Engine

end Forecast.Manufacturing
