import Forecast.Marg.StockBatches

/-!
# Reconciliation of staged and projected stock

After a run the pids that it touched are compared with the level of their scope
and with the batches of their numbers. Levels and batches are kept by product,
the comparison goes by pid, and the three agree only where no second pid shares
the product or the batch.
-/

open JsText KeyedTable

namespace Forecast

/-- What a reconciliation is told of the run. -/
structure MargSyncRunContext where
  id : Id
  startedAt : Millis

inductive StockIssue
  | unresolvedScope (pid : StockPid)
  | inventoryLevelMismatch (pid : StockPid) (expectedInventoryQty actualInventoryQty : ℚ)
  | batchQtyMismatch (pid : StockPid) (batch : Trimmed) (expectedBatchQty actualBatchQty : ℚ)
  | batchStatusMismatch (pid : StockPid) (batch : Trimmed) (actualStatus : BatchStatus)
deriving DecidableEq

/-- `STOCK_RECONCILIATION_TOLERANCE` -/
def stockReconciliationTolerance : ℚ := 1 / 10000

/-- A deleted row counts for nothing. -/
def MargStock.expectedQty (s : MargStock) : ℚ := if s.sourceDeleted then 0 else s.stockQty

namespace StagedStock

section Reconciliation

variable (m : LinkedMasters) (run : MargSyncRunContext) (stock : StagedStock)

def touchedPids : List StockPid :=
  pidsOf (stock.rows.filter fun s =>
    s.lastSeenSyncLogId = some run.id || run.startedAt ≤ s.updatedAt)

def rowsOfPid (pid : StockPid) : List MargStock := stock.rows.filter fun s => s.stockPid = pid

/-- The rows are added up as binary64 numbers, in their order. -/
def expectedInventoryQty (pid : StockPid) : ℚ :=
  Binary64.sum (((stock.rowsOfPid pid).filter fun s => !s.sourceDeleted).map fun s =>
    Decimal.toDouble s.stockQty)

def namedBatches (pid : StockPid) : List Trimmed :=
  firstOfEach id (((stock.rowsOfPid pid).filter fun s => !s.isPlaceholderBatch).map MargStock.batch)

def expectedBatchQty (pid : StockPid) (batch : Trimmed) : ℚ :=
  Binary64.sum (((stock.rowsOfPid pid).filter fun s => s.batch = batch).map fun s =>
    Decimal.toDouble s.expectedQty)

def batchIssues (batches : List Batch) (pid : StockPid) (scope : Scope) (batch : Trimmed) :
    List StockIssue :=
  let expected := stock.expectedBatchQty pid batch
  let found := (lookup Batch.key batches (scope, leftText 50 batch.text)).map Batch.reading
  let actual := (found.map Prod.fst).getD 0
  (if isWithinTolerance expected actual stockReconciliationTolerance then []
    else [.batchQtyMismatch pid batch expected actual]) ++
  match found with
  | some (_, status) =>
    if isWithinTolerance expected 0 stockReconciliationTolerance ∧ status ≠ .consumed then
      [.batchStatusMismatch pid batch status]
    else []
  | none => []

def pidIssues (levels : List InventoryLevel) (batches : List Batch) (pid : StockPid) :
    List StockIssue :=
  match m.scopeOf pid with
  | none => [.unresolvedScope pid]
  | some scope =>
    let expected := stock.expectedInventoryQty pid
    let actual :=
      ((lookup InventoryLevel.scope levels scope).map InventoryLevel.onHandQty).getD 0
    (if isWithinTolerance expected actual stockReconciliationTolerance then []
      else [.inventoryLevelMismatch pid expected actual]) ++
    (stock.namedBatches pid).flatMap (stock.batchIssues batches pid scope)

def runStockReconciliation (levels : List InventoryLevel) (batches : List Batch) :
    List StockIssue :=
  (stock.touchedPids run).flatMap (stock.pidIssues m levels batches)

end Reconciliation

/-! ### The law and when it holds -/

section Law

variable (m : LinkedMasters) (now : Millis) (pageSize insertBatchSize : ℕ)
  (run : MargSyncRunContext) (stock : StagedStock)

/-- Levels and Marg batches hold the live stock of each scope, and reconciliation finds no issue. -/
structure StockLaw (levels : List InventoryLevel) (batches : List Batch) : Prop where
  onHand : ∀ scope ∈ stock.scopes m,
    (lookup InventoryLevel.scope levels scope).map InventoryLevel.onHandQty =
      some ((stock.liveIn m scope).map MargStock.stockQty).sum
  batchQty : ∀ scope ∈ stock.scopes m,
    margBatchQty batches scope = ((stock.liveIn m scope).map MargStock.stockQty).sum
  reconciled : stock.runStockReconciliation m run levels batches = []

def ProjectsStock (levels : List InventoryLevel) (batches : List Batch) : Prop :=
  ∃ after, stock.transformStockToBatches m now pageSize insertBatchSize batches = some after ∧
    stock.StockLaw m run
      (stock.transformStockToInventoryLevels m .stock (fun _ => 0) levels) after

/-- A batch of this quantity gives no issue when so much is expected. -/
def StockAgrees (expected quantity : ℚ) : Prop :=
  isWithinTolerance expected quantity stockReconciliationTolerance ∧
    (isWithinTolerance expected 0 stockReconciliationTolerance → quantity ≤ 0)

/-- No statement fails, what is overwritten makes up for what is left open, and each touched pid
has its product and its batches for itself, up to the tolerance as binary64 numbers show it. -/
structure PidsApart (batches : List Batch) : Prop where
  statements : ∀ chunk ∈ stock.batchChunks m now pageSize insertBatchSize,
    (chunk.map BatchDecision.key).Nodup
  balanced : ∀ scope ∈ stock.scopes m,
    stock.overwrittenQty m now scope = stock.leftoverQty m now batches scope
  resolved : ∀ pid ∈ stock.touchedPids run, ∃ scope, m.scopeOf pid = some scope ∧
    isWithinTolerance (stock.expectedInventoryQty pid)
      ((stock.liveIn m scope).map MargStock.stockQty).sum stockReconciliationTolerance
  batchesRead : ∀ pid ∈ stock.touchedPids run, ∀ scope, m.scopeOf pid = some scope →
    ∀ batch ∈ stock.namedBatches pid, ∀ d,
      lastWith BatchDecision.key (stock.batchDecisions m now) (scope, leftText 50 batch.text) =
        some d →
      StockAgrees (stock.expectedBatchQty pid batch) d.quantity

end Law

variable {m : LinkedMasters} {now : Millis} {pageSize insertBatchSize : ℕ}
  {run : MargSyncRunContext} {stock : StagedStock}

theorem exists_row_of_touched {pid : StockPid} (h : pid ∈ stock.touchedPids run) :
    ∃ s ∈ stock.rows, s.stockPid = pid := by
  obtain ⟨s, hs, hpid⟩ := mem_pidsOf.1 h
  exact ⟨s, (List.mem_filter.1 hs).1, hpid⟩

theorem mem_namedBatches {pid : StockPid} {batch : Trimmed} :
    batch ∈ stock.namedBatches pid ↔
      ∃ s ∈ stock.rows, s.stockPid = pid ∧ s.isPlaceholderBatch = false ∧ s.batch = batch := by
  rw [namedBatches, mem_firstOfEach_id, List.mem_map]
  constructor
  · rintro ⟨s, hs, hbatch⟩
    obtain ⟨hrow, hnamed⟩ := List.mem_filter.1 hs
    obtain ⟨hmem, hpid⟩ := List.mem_filter.1 hrow
    exact ⟨s, hmem, of_decide_eq_true hpid, by simpa using hnamed, hbatch⟩
  · rintro ⟨s, hs, hpid, hnamed, hbatch⟩
    refine ⟨s, List.mem_filter.2 ⟨List.mem_filter.2 ⟨hs, decide_eq_true hpid⟩, ?_⟩, hbatch⟩
    rw [hnamed]
    rfl

/-! ### Levels -/

theorem levels_transform (levels : List InventoryLevel) {scope : Scope}
    (hscope : scope ∈ stock.scopes m) :
    (lookup InventoryLevel.scope
      (stock.transformStockToInventoryLevels m .stock (fun _ => 0) levels) scope).map
        InventoryLevel.onHandQty = some ((stock.liveIn m scope).map MargStock.stockQty).sum := by
  rw [onHandQty_transformStockToInventoryLevels hscope]
  by_cases hactive : scope ∈ stock.activeScopes m
  · rw [if_pos hactive]
    rfl
  · rw [if_neg hactive, liveIn_eq_nil hactive]
    rfl

/-! ### Batches -/

theorem status_of_batchDecision {s : MargStock} {d : BatchDecision}
    (h : batchDecision m now s = some d) : d.status = .consumed ↔ d.quantity ≤ 0 := by
  unfold batchDecision at h
  obtain ⟨scope, -, hd⟩ := Option.bind_eq_some_iff.1 h
  split_ifs at hd
  rw [Option.some.injEq] at hd
  rw [← hd]
  change s.batchStatus now = .consumed ↔ s.stockQty ≤ 0
  unfold MargStock.batchStatus
  by_cases hqty : s.stockQty ≤ 0
  · simp [hqty]
  · rw [if_neg hqty]
    split_ifs <;> simp [hqty]

/-- A live row with a named batch writes the batch with its number. -/
theorem written_of_live {s : MargStock} {scope : Scope} (hs : s ∈ stock.live)
    (hnamed : s.isPlaceholderBatch = false) (hscope : m.scopeOf s.stockPid = some scope) :
    (scope, leftText 50 s.batch.text) ∈ (stock.batchDecisions m now).map BatchDecision.key := by
  have hnumber : s.batchNumber = leftText 50 s.batch.text := by simp [MargStock.batchNumber, hnamed]
  have hd : ∃ d, batchDecision m now s = some d ∧ d.key = (scope, leftText 50 s.batch.text) := by
    unfold batchDecision
    rw [hscope, Option.bind_some, if_neg (by simp [hnamed]), ← hnumber]
    exact ⟨_, rfl, rfl⟩
  obtain ⟨d, hd, hkey⟩ := hd
  rw [← hkey]
  exact List.mem_map_of_mem (List.mem_filterMap.2 ⟨s, hs, hd⟩)

/-- A named batch that no live row writes is expected to hold nothing. -/
theorem expectedBatchQty_of_not_written {pid : StockPid} {scope : Scope} {batch : Trimmed}
    (hscope : m.scopeOf pid = some scope) (hbatch : batch ∈ stock.namedBatches pid)
    (hnone : lastWith BatchDecision.key (stock.batchDecisions m now)
      (scope, leftText 50 batch.text) = none) : stock.expectedBatchQty pid batch = 0 := by
  obtain ⟨r, -, -, hrnamed, rfl⟩ := mem_namedBatches.1 hbatch
  rw [lastWith_eq_none] at hnone
  apply Binary64.sum_eq_zero
  intro q hq
  obtain ⟨s, hs, rfl⟩ := List.mem_map.1 hq
  obtain ⟨hrow, hsbatch⟩ := List.mem_filter.1 hs
  obtain ⟨hmem, hpid⟩ := List.mem_filter.1 hrow
  rw [decide_eq_true_eq] at hsbatch hpid
  have hnamed : s.isPlaceholderBatch = false := by
    rw [MargStock.isPlaceholderBatch, hsbatch]
    exact hrnamed
  cases hdeleted : s.sourceDeleted with
  | true => simp [MargStock.expectedQty, hdeleted, Decimal.toDouble]
  | false =>
    refine absurd (written_of_live (List.mem_filter.2 ⟨hmem, by simp [hdeleted]⟩) hnamed ?_)
      (hsbatch ▸ hnone)
    rw [hpid, hscope]

/-- The batch of a staged row is closed when no live row writes it. -/
theorem closes_of_named {pid : StockPid} {scope : Scope} {batch : Trimmed}
    (hscope : m.scopeOf pid = some scope) (hbatch : batch ∈ stock.namedBatches pid)
    (hnone : lastWith BatchDecision.key (stock.batchDecisions m now)
      (scope, leftText 50 batch.text) = none) :
    stock.closes m now (scope, leftText 50 batch.text) = true := by
  obtain ⟨s, hs, rfl, hnamed, rfl⟩ := mem_namedBatches.1 hbatch
  rw [lastWith_eq_none] at hnone
  have hdefault : s.batch.text ≠ "_default" := by
    intro heq
    simp [MargStock.isPlaceholderBatch, heq] at hnamed
  rw [closes, Bool.and_eq_true, decide_eq_true_eq, List.any_eq_true]
  refine ⟨hnone, s, hs, ?_⟩
  rw [hscope]
  simp [hdefault]

theorem batchIssues_batchesAfter_eq_nil {batches : List Batch} {pid : StockPid} {scope : Scope}
    {batch : Trimmed} (hscope : m.scopeOf pid = some scope)
    (hbatch : batch ∈ stock.namedBatches pid) :
    stock.batchIssues (stock.batchesAfter m now batches) pid scope batch = [] ↔
      ∀ d, lastWith BatchDecision.key (stock.batchDecisions m now)
          (scope, leftText 50 batch.text) = some d →
        StockAgrees (stock.expectedBatchQty pid batch) d.quantity := by
  unfold batchIssues StockAgrees
  dsimp only
  rw [lookup_batchesAfter]
  cases hlast : lastWith BatchDecision.key (stock.batchDecisions m now)
      (scope, leftText 50 batch.text) with
  | some d =>
    obtain ⟨hd, -⟩ := lastWith_eq_some hlast
    obtain ⟨s, -, hdecision⟩ := List.mem_filterMap.1 hd
    have hstatus := status_of_batchDecision hdecision
    simp only [Option.map_some, Option.some_or, Option.getD_some, List.append_eq_nil_iff,
      Option.some.injEq, forall_eq']
    by_cases hqty : isWithinTolerance (stock.expectedBatchQty pid batch) d.quantity
        stockReconciliationTolerance = true
    · by_cases hzero : isWithinTolerance (stock.expectedBatchQty pid batch) 0
          stockReconciliationTolerance = true
      · simpa [hqty, hzero] using hstatus
      · simp [hqty, hzero]
    · simp [hqty]
  | none =>
    have hexpected := expectedBatchQty_of_not_written hscope hbatch hlast
    have hcloses := closes_of_named hscope hbatch hlast
    have hzero : isWithinTolerance 0 0 stockReconciliationTolerance = true := by decide +kernel
    cases lookup Batch.key batches (scope, leftText 50 batch.text) with
    | none => simp [hexpected, hzero]
    | some b => simp [hexpected, hcloses, hzero]

theorem pidIssues_eq_nil (m : LinkedMasters) (now : Millis) (levels : List InventoryLevel)
    (batches : List Batch) {pid : StockPid} (htouched : pid ∈ stock.touchedPids run) :
    stock.pidIssues m (stock.transformStockToInventoryLevels m .stock (fun _ => 0) levels)
      (stock.batchesAfter m now batches) pid = [] ↔
    (∃ scope, m.scopeOf pid = some scope ∧
      isWithinTolerance (stock.expectedInventoryQty pid)
        ((stock.liveIn m scope).map MargStock.stockQty).sum stockReconciliationTolerance) ∧
    ∀ scope, m.scopeOf pid = some scope → ∀ batch ∈ stock.namedBatches pid, ∀ d,
      lastWith BatchDecision.key (stock.batchDecisions m now) (scope, leftText 50 batch.text) =
        some d →
      StockAgrees (stock.expectedBatchQty pid batch) d.quantity := by
  unfold pidIssues
  cases hscope : m.scopeOf pid with
  | none => simp
  | some scope =>
    obtain ⟨s, hs, hspid⟩ := exists_row_of_touched htouched
    have hmem : scope ∈ stock.scopes m := mem_scopes.2 ⟨s, hs, hspid ▸ hscope⟩
    have hbatches : (stock.namedBatches pid).flatMap
        (stock.batchIssues (stock.batchesAfter m now batches) pid scope) = [] ↔
        ∀ batch ∈ stock.namedBatches pid, ∀ d,
          lastWith BatchDecision.key (stock.batchDecisions m now)
            (scope, leftText 50 batch.text) = some d →
          StockAgrees (stock.expectedBatchQty pid batch) d.quantity := by
      rw [List.flatMap_eq_nil_iff]
      apply forall₂_congr
      intro batch hbatch
      exact batchIssues_batchesAfter_eq_nil hscope hbatch
    dsimp only
    rw [levels_transform levels hmem, Option.getD_some, List.append_eq_nil_iff, hbatches]
    by_cases hlevel : isWithinTolerance (stock.expectedInventoryQty pid)
        ((stock.liveIn m scope).map MargStock.stockQty).sum stockReconciliationTolerance = true
    · simp [hlevel]
    · simp [hlevel]

end StagedStock

/-- The batches of a tenant. -/
structure BatchTable where
  rows : List Batch
  keys_nodup : (rows.map Batch.key).Nodup

/-- The transforms keep the stock of each scope exactly when the touched pids are apart. -/
theorem projectsStock_iff_pidsApart (m : LinkedMasters) (now : Millis)
    (pageSize insertBatchSize : ℕ) (run : MargSyncRunContext) (stock : StagedStock)
    (levels : List InventoryLevel) (batches : BatchTable) :
    stock.ProjectsStock m now pageSize insertBatchSize run levels batches.rows ↔
      stock.PidsApart m now pageSize insertBatchSize run batches.rows := by
  have hqty := StagedStock.margBatchQty_batchesAfter m now stock batches.keys_nodup
  constructor
  · rintro ⟨after, hafter, hlaw⟩
    obtain ⟨hstatements, rfl⟩ := StagedStock.transformStockToBatches_eq_some.1 hafter
    have hissues : ∀ pid ∈ stock.touchedPids run, _ :=
      fun pid hpid => (StagedStock.pidIssues_eq_nil m now levels batches.rows hpid).1
        (List.flatMap_eq_nil_iff.1 hlaw.reconciled pid hpid)
    refine ⟨hstatements, ?_, ?_, ?_⟩
    · intro scope hscope
      have hbatch := hlaw.batchQty scope hscope
      rw [← StagedStock.batchesAfter, hqty scope] at hbatch
      linarith
    · exact fun pid hpid => (hissues pid hpid).1
    · exact fun pid hpid => (hissues pid hpid).2
  · intro h
    refine ⟨_, StagedStock.transformStockToBatches_eq_some.2 ⟨h.statements, rfl⟩, ?_, ?_, ?_⟩
    · exact fun scope hscope => StagedStock.levels_transform levels hscope
    · intro scope hscope
      rw [← StagedStock.batchesAfter, hqty scope, h.balanced scope hscope]
      ring
    · rw [StagedStock.runStockReconciliation, List.flatMap_eq_nil_iff]
      intro pid hpid
      exact (StagedStock.pidIssues_eq_nil m now levels batches.rows hpid).2
        ⟨h.resolved pid hpid, h.batchesRead pid hpid⟩

def productTableA : ProductTable := ⟨[⟨7, .cut "MARG-A"⟩], 8, by decide, by decide, by decide⟩

def twoPids : LinkedMasters where
  products := productTableA
  staged := [⟨1, "P1", "A", some 7⟩, ⟨1, "P2", "A", some 7⟩]
  linked := by decide +kernel
  branches := [⟨1, some 3⟩]

def stockOfPid (pid batch : String) (qty : ℚ) : MargStock where
  companyId := 1
  pid := .of pid
  batch := .of batch
  batDate := none
  expiry := none
  opening := none
  stock := some qty
  lpRate := none
  pRate := none
  sourceDeleted := false
  lastSeenSyncLogId := some 5
  updatedAt := 0

def stockOfTwoPids : StagedStock where
  rows := [stockOfPid "P1" "B1" 10, stockOfPid "P2" "B2" 5]
  keys_nodup := by decide +kernel
  companyId_pos := by decide +kernel

/-- The level of both pids is compared with the stock of each. -/
theorem not_projectsStock_twoPids :
    ¬stockOfTwoPids.ProjectsStock twoPids 0 200 100 ⟨5, 0⟩ [] [] := by
  rintro ⟨after, hafter, hlaw⟩
  obtain ⟨-, rfl⟩ := StagedStock.transformStockToBatches_eq_some.1 hafter
  have hreconciled := hlaw.reconciled
  revert hreconciled
  decide +kernel

end Forecast
