import Forecast.Marg.FamilyColumn
import Forecast.Marg.LedgerProjection
import Forecast.Marg.StockReconciliation
import Forecast.Marg.SyncRun

/-!
# On-hand stock in COMPUTED mode

A run deletes ledger rows, computes levels and batches and then projects the staged
lines onto the ledger. The levels add up the ledger as it stands before that last
step, so they are right only where the step leaves the sum of a scope as it was.
-/

open JsText KeyedTable

namespace Forecast

/-- The rows of a statement, held below the bind limit. -/
def computeSafeBatchSize (requested columnsPerRow : ℕ) : ℕ :=
  max 1 (min (max 1 requested) ((32767 - 767) / max 1 columnsPerRow))

structure ProjectionSettings where
  platform : Platform
  transformBatchSize : ℕ
  stagingBatchSize : ℕ

def ProjectionSettings.pageSize (settings : ProjectionSettings) : ℕ :=
  max 200 settings.transformBatchSize

/-- What of a run decides its inventory projections. -/
structure InventoryRun where
  request : SyncRequest
  receivedStockSnapshot : Bool
  now : Millis

namespace InventoryRun

variable (run : InventoryRun)

def shouldResetInventoryProjection (platform : Platform) : Bool :=
  run.request.runsInventory &&
    (run.request.mode == .reproject || (run.request.window platform).isSome)

def shouldApplyStockProjection : Bool :=
  run.request.isUnbounded && (!run.request.fetches || run.receivedStockSnapshot)

def computesLevels : Bool := run.request.runsInventory && run.shouldApplyStockProjection

end InventoryRun

structure InventoryTables where
  levels : List InventoryLevel
  batches : List Batch
  ledger : Ledger

section Run

variable (settings : ProjectionSettings) (m : LinkedMasters) (docs : MargDocuments)
  (stock : StagedStock) (run : InventoryRun)

/-- The ledger that the levels are computed from. -/
def InventoryRun.ledgerBefore (ledger : Ledger) : Ledger :=
  if run.shouldResetInventoryProjection settings.platform then
    ledger.reset (run.request.window settings.platform)
  else ledger

def InventoryRun.preAffectedScopes (ledger : Ledger) : List Scope :=
  if run.shouldResetInventoryProjection settings.platform then
    (ledger.inWindow (run.request.window settings.platform)).map LedgerRow.scope
  else []

def projectStock (ledger : Ledger) (tables : InventoryTables) :
    Option (List InventoryLevel × List Batch) :=
  if run.shouldApplyStockProjection then
    (stock.transformStockToBatches m run.now settings.pageSize
      (computeSafeBatchSize settings.stagingBatchSize 12) tables.batches).map fun batches =>
        (stock.transformStockToInventoryLevels m .computed ledger.margQty tables.levels, batches)
  else some (tables.levels, tables.batches)

def InventoryRun.ledgerDecisions : List LedgerDecision :=
  if run.request.runsInventory then
    (allLedgerStatements settings.platform m docs.vouchers (run.request.window settings.platform)
      (run.shouldResetInventoryProjection settings.platform) settings.pageSize
      (computeSafeBatchSize settings.stagingBatchSize 1)
      (computeSafeBatchSize settings.stagingBatchSize 16) docs.lines).flatten
  else []

/-- The inventory projections of `runSync` in their order; an error ends the run. -/
def runInventoryProjections (tables : InventoryTables) : Option InventoryTables :=
  if run.request.runsInventory then do
    let ledger := run.ledgerBefore settings tables.ledger
    let (levels, batches) ← projectStock settings m stock run ledger tables
    let projected ← transformTransactionsToInventoryLedger settings.platform m docs
      (run.request.window settings.platform)
      (run.shouldResetInventoryProjection settings.platform) settings.pageSize
      (computeSafeBatchSize settings.stagingBatchSize 1)
      (computeSafeBatchSize settings.stagingBatchSize 16) batches
      (run.preAffectedScopes settings tables.ledger) ledger
    pure ⟨levels, batches, projected⟩
  else some tables

end Run

namespace StagedStock

variable (m : LinkedMasters) (stock : StagedStock)

def openingIn (scope : Scope) : ℚ := ((stock.liveIn m scope).map MargStock.openingQty).sum

def onHandQty (levels : List InventoryLevel) (scope : Scope) : Option ℚ :=
  (lookup InventoryLevel.scope levels scope).map InventoryLevel.onHandQty

/-- Every scope with staged stock holds its opening stock and the movements of the ledger. -/
def ComputedLaw (tables : InventoryTables) : Prop :=
  ∀ scope ∈ stock.scopes m,
    onHandQty tables.levels scope = some (stock.openingIn m scope + tables.ledger.margQty scope)

variable (settings : ProjectionSettings) (docs : MargDocuments) (run : InventoryRun)

/-- The ledger keeps, over its projection, what the levels were computed from; where no level is
computed, the old one fits what the projection leaves. -/
def LevelsKeepUp (tables : InventoryTables) : Prop :=
  ∀ scope ∈ stock.scopes m,
    let ledger := run.ledgerBefore settings tables.ledger
    let decisions := run.ledgerDecisions settings m docs
    if run.computesLevels then
      if scope ∈ stock.activeScopes m then
        ledger.replacedQty decisions scope = Ledger.writtenQty decisions scope
      else ledger.remainingQty decisions scope + Ledger.writtenQty decisions scope = 0
    else
      onHandQty tables.levels scope =
        some (stock.openingIn m scope + ledger.remainingQty decisions scope +
          Ledger.writtenQty decisions scope)

variable {m stock settings docs run}

theorem openingIn_eq_zero {scope : Scope} (hactive : scope ∉ stock.activeScopes m) :
    stock.openingIn m scope = 0 := by
  rw [openingIn, liveIn_eq_nil hactive]
  rfl

theorem onHandQty_projectStock {ledger : Ledger} {tables : InventoryTables}
    {projected : List InventoryLevel × List Batch}
    (h : projectStock settings m stock run ledger tables = some projected) {scope : Scope}
    (hscope : scope ∈ stock.scopes m) :
    onHandQty projected.1 scope =
      if run.shouldApplyStockProjection then
        some (if scope ∈ stock.activeScopes m then
          stock.openingIn m scope + ledger.margQty scope else 0)
      else onHandQty tables.levels scope := by
  unfold projectStock at h
  by_cases happly : run.shouldApplyStockProjection = true
  · rw [if_pos happly] at h ⊢
    obtain ⟨batches, -, rfl⟩ := Option.map_eq_some_iff.1 h
    exact onHandQty_transformStockToInventoryLevels hscope
  · rw [if_neg happly] at h ⊢
    obtain rfl := Option.some.inj h
    rfl

end StagedStock

section Run

variable {settings : ProjectionSettings} {m : LinkedMasters} {docs : MargDocuments}
  {stock : StagedStock} {run : InventoryRun} {tables after : InventoryTables}

theorem ledgerBefore_of_not_runsInventory (h : run.request.runsInventory = false)
    (ledger : Ledger) : run.ledgerBefore settings ledger = ledger := by
  unfold InventoryRun.ledgerBefore InventoryRun.shouldResetInventoryProjection
  rw [h]
  rfl

theorem onHandQty_runInventoryProjections
    (h : runInventoryProjections settings m docs stock run tables = some after) {scope : Scope}
    (hscope : scope ∈ stock.scopes m) :
    StagedStock.onHandQty after.levels scope =
      if run.computesLevels then
        some (if scope ∈ stock.activeScopes m then
          stock.openingIn m scope + (run.ledgerBefore settings tables.ledger).margQty scope else 0)
      else StagedStock.onHandQty tables.levels scope := by
  unfold runInventoryProjections at h
  unfold InventoryRun.computesLevels
  by_cases hruns : run.request.runsInventory = true
  · rw [if_pos hruns] at h
    obtain ⟨projected, hstock, hrest⟩ := Option.bind_eq_some_iff.1 h
    obtain ⟨ledger, -, hafter⟩ := Option.bind_eq_some_iff.1 hrest
    obtain rfl := Option.some.inj hafter
    rw [hruns, Bool.true_and]
    exact StagedStock.onHandQty_projectStock hstock hscope
  · rw [if_neg hruns] at h
    obtain rfl := Option.some.inj h
    rw [Bool.eq_false_of_not_eq_true hruns]
    rfl

/-- The ledger of a run is what its last step leaves and writes. -/
theorem margQty_runInventoryProjections
    (h : runInventoryProjections settings m docs stock run tables = some after) (scope : Scope) :
    after.ledger.margQty scope =
      (run.ledgerBefore settings tables.ledger).remainingQty
        (run.ledgerDecisions settings m docs) scope +
      Ledger.writtenQty (run.ledgerDecisions settings m docs) scope := by
  unfold runInventoryProjections at h
  unfold InventoryRun.ledgerDecisions
  by_cases hruns : run.request.runsInventory = true
  · rw [if_pos hruns] at h ⊢
    obtain ⟨projected, -, hrest⟩ := Option.bind_eq_some_iff.1 h
    obtain ⟨ledger, hledger, hafter⟩ := Option.bind_eq_some_iff.1 hrest
    obtain rfl := Option.some.inj hafter
    exact margQty_transformTransactionsToInventoryLedger hledger scope
  · rw [if_neg hruns] at h ⊢
    obtain rfl := Option.some.inj h
    rw [ledgerBefore_of_not_runsInventory (Bool.eq_false_of_not_eq_true hruns),
      tables.ledger.margQty_eq_remainingQty_add_replacedQty []]
    simp [Ledger.replacedQty, Ledger.writtenQty, margLedgerQty, lastOfEach, upsertAll]

/-- A completed run leaves opening stock and movements on hand exactly when the levels keep up. -/
theorem computedLaw_iff_levelsKeepUp (settings : ProjectionSettings) (m : LinkedMasters)
    (docs : MargDocuments) (stock : StagedStock) (run : InventoryRun)
    (tables after : InventoryTables)
    (h : runInventoryProjections settings m docs stock run tables = some after) :
    stock.ComputedLaw m after ↔ stock.LevelsKeepUp m settings docs run tables := by
  apply forall₂_congr
  intro scope hscope
  dsimp only
  rw [onHandQty_runInventoryProjections h hscope, margQty_runInventoryProjections h]
  have hledger := (run.ledgerBefore settings tables.ledger).margQty_eq_remainingQty_add_replacedQty
    (run.ledgerDecisions settings m docs) scope
  by_cases hcomputes : run.computesLevels = true
  · rw [if_pos hcomputes, if_pos hcomputes, Option.some.injEq]
    by_cases hactive : scope ∈ stock.activeScopes m
    · rw [if_pos hactive, if_pos hactive, hledger, add_right_inj, add_right_inj]
    · rw [if_neg hactive, if_neg hactive, StagedStock.openingIn_eq_zero hactive, zero_add]
      exact eq_comm
  · rw [if_neg hcomputes, if_neg hcomputes, add_assoc]

end Run

def oneProduct : LinkedMasters where
  products := productTableA
  staged := [⟨1, "P1", "A", some 7⟩]
  linked := by decide +kernel
  branches := [⟨1, some 3⟩]

def stockOfOneProduct : StagedStock where
  rows := [{ stockOfPid "P1" "B1" 9 with opening := some 10 }]
  keys_nodup := by decide +kernel
  companyId_pos := by decide +kernel

def oneInvoice : MargDocuments where
  vouchers := [invoiceHeader "I;GST"]
  vouchers_nodup := nodup_invoiceHeader "I;GST"
  lines := [invoiceLine "I;GST"]
  lines_nodup := nodup_invoiceLine "I;GST"

/-- The first full run of a tenant, with a sale of one and an opening stock of ten. -/
def firstRun : Option InventoryTables :=
  runInventoryProjections ⟨asciiPlatform, 2000, 5000⟩ oneProduct oneInvoice stockOfOneProduct
    ⟨{}, true, 0⟩ ⟨[], [], ⟨[], by decide⟩⟩

theorem firstRun_isSome : firstRun.isSome = true := by decide +kernel

theorem computedLaw_firstRun :
    stockOfOneProduct.ComputedLaw oneProduct (firstRun.get firstRun_isSome) ↔
      stockOfOneProduct.LevelsKeepUp oneProduct ⟨asciiPlatform, 2000, 5000⟩ oneInvoice
        ⟨{}, true, 0⟩ ⟨[], [], ⟨[], by decide⟩⟩ :=
  computedLaw_iff_levelsKeepUp _ _ _ _ _ _ _ (Option.some_get firstRun_isSome).symm

/-- The sale is in the ledger, and the level was computed without it. -/
theorem not_computedLaw_firstRun :
    ¬stockOfOneProduct.ComputedLaw oneProduct (firstRun.get firstRun_isSome) := by
  intro h
  have hlevel := h (7, 3) (by decide +kernel)
  revert hlevel
  decide +kernel

end Forecast
