import Forecast.Marg.DocumentFamily
import Forecast.Marg.StockBatches

/-!
# The inventory ledger of staged lines

`transformTransactionsToInventoryLedger` pages through the staged lines that have
a quantity. A line that moves stock is written under its idempotency key; for one
that does not, the row of its key is removed. The running balances of the scopes
it met are rebuilt at the end.
-/

open JsText KeyedTable WrittenTable

namespace Forecast

/-- `MARG_SOURCE_SYSTEM` -/
def margSourceSystem : String := "MARG_EDE"

/-- A row of `inventory_ledger`. -/
structure LedgerRow where
  id : ℕ
  sequenceNumber : ℕ
  transactionDate : Millis
  productId : ℕ
  locationId : ℕ
  batchId : Option ℕ
  entryType : LedgerEntryType
  quantity : ℚ
  unitCost : ℚ
  totalCost : ℚ
  referenceType : Option String
  referenceNumber : Option String
  idempotencyKey : Option String
  lotNumber : Option String
  runningBalance : Option ℚ
deriving DecidableEq

/-- What a row is unique by: its idempotency key, if it has one. -/
inductive LedgerKey
  | idempotency (key : String)
  | row (id : ℕ)
deriving DecidableEq

namespace LedgerRow

def key (r : LedgerRow) : LedgerKey :=
  match r.idempotencyKey with
  | some key => .idempotency key
  | none => .row r.id

def scope (r : LedgerRow) : Scope := (r.productId, r.locationId)

def isMarg (r : LedgerRow) : Bool := r.referenceType = some margSourceSystem

/-- The order of the running balance: date, then sequence, then id. -/
def before (a b : LedgerRow) : Bool :=
  a.transactionDate < b.transactionDate ||
    (a.transactionDate = b.transactionDate &&
      (a.sequenceNumber < b.sequenceNumber ||
        (a.sequenceNumber = b.sequenceNumber && a.id ≤ b.id)))

end LedgerRow

/-- The columns that the projection writes; the batch is found by its number. -/
structure LedgerEntry where
  transactionDate : Millis
  scope : Scope
  batchNumber : String
  entryType : LedgerEntryType
  quantity : ℚ
  unitCost : ℚ
  totalCost : ℚ
  referenceNumber : String
  lotNumber : Option String
deriving DecidableEq

/-- What the projection decides for a line; without an entry the row of the key is removed. -/
structure LedgerDecision where
  idempotencyKey : String
  scope : Option Scope
  entry : Option LedgerEntry
deriving DecidableEq

namespace LedgerDecision

def key (d : LedgerDecision) : LedgerKey := .idempotency d.idempotencyKey

/-- A row that is there keeps its id, its sequence number and its balance until the rebuild. -/
def row (batches : List Batch) (ledger : List LedgerRow) (d : LedgerDecision) :
    Option LedgerRow :=
  let old := lookup LedgerRow.key ledger d.key
  d.entry.map fun e =>
    { id := (old.map LedgerRow.id).getD (freshId (ledger.map LedgerRow.id))
      sequenceNumber := (old.map LedgerRow.sequenceNumber).getD
        (freshId (ledger.map LedgerRow.sequenceNumber))
      transactionDate := e.transactionDate
      productId := e.scope.1
      locationId := e.scope.2
      batchId := if e.batchNumber = "" then none
        else (lookup Batch.key batches (e.scope, e.batchNumber)).map Batch.id
      entryType := e.entryType
      quantity := e.quantity
      unitCost := e.unitCost
      totalCost := e.totalCost
      referenceType := some margSourceSystem
      referenceNumber := some e.referenceNumber
      idempotencyKey := some d.idempotencyKey
      lotNumber := e.lotNumber
      runningBalance := old.bind LedgerRow.runningBalance }

end LedgerDecision

/-! ### The decision for a line -/

def MargTransaction.ledgerIdempotencyKey (line : MargTransaction) : String :=
  leftText 100 ("MARG_LEDGER:" ++ line.sourceKey)

def MargTransaction.referenceNumber (line : MargTransaction) : String :=
  leftText 50 ("MARG-" ++ line.sourceKey)

/-- The unit and the total cost, zero where they are unknown. -/
def resolveMargEffectiveCostMetrics (amount : Option ℚ) (effectiveQty : ℚ) : ℚ × ℚ :=
  match amount with
  | none => (0, 0)
  | some amount => (if 0 < |effectiveQty| then |amount| / |effectiveQty| else 0, |amount|)

section Decisions

variable (platform : Platform) (m : LinkedMasters) (vouchers : List MargVoucher)

/-- A line without a scope is passed over: nothing is written or removed for it. -/
def ledgerDecision (line : MargTransaction) : Option LedgerDecision :=
  if line.pid.text = "" then some ⟨line.ledgerIdempotencyKey, none, none⟩
  else do
    let productId ← m.resolveProductId line.companyId line.pid.text
    let locationId ← m.locationOf line.companyId
    let scope : Scope := (productId, locationId)
    let decision := lineDecision platform vouchers line line.amount
    match decision.shouldProjectInventory, decision.ledgerEntryType with
    | true, some entryType =>
      if decision.ledgerQuantity = 0 then some ⟨line.ledgerIdempotencyKey, some scope, none⟩
      else
        let cost := resolveMargEffectiveCostMetrics line.amount
          (resolveMargEffectiveQuantity line.qty line.free)
        some
          { idempotencyKey := line.ledgerIdempotencyKey
            scope := some scope
            entry := some
              { transactionDate := line.date
                scope := scope
                batchNumber := leftText 50 line.batch.text
                entryType := entryType
                quantity := decision.ledgerQuantity
                unitCost := cost.1
                totalCost := cost.2
                referenceNumber := line.referenceNumber
                lotNumber := if line.batch.text = "" then none else some line.batch.text } }
    | _, _ => some ⟨line.ledgerIdempotencyKey, some scope, none⟩

variable (dateWindow : Option DateWindow) (projectionWindowReset : Bool)
  (pageSize deleteBatchSize insertBatchSize : ℕ)

/-- The lines that the loop reads, in the order of their ids. -/
def ledgerLines (lines : List MargTransaction) : List MargTransaction :=
  lines.filter fun line =>
    (line.qty.isSome || line.free.isSome) && isInDateWhere dateWindow line.date

/-- The statements for a page: the removals, unless the window was reset, and then the rows. -/
def ledgerStatements (page : List MargTransaction) : List (List LedgerDecision) :=
  let decisions := page.filterMap (ledgerDecision platform m vouchers)
  (if projectionWindowReset then []
    else Paging.pages deleteBatchSize (decisions.filter fun d => d.entry.isNone)) ++
  Paging.pages insertBatchSize (decisions.filter fun d => d.entry.isSome)

def allLedgerStatements (lines : List MargTransaction) : List (List LedgerDecision) :=
  (Paging.pages pageSize (ledgerLines dateWindow lines)).flatMap
    (ledgerStatements platform m vouchers projectionWindowReset deleteBatchSize insertBatchSize)

end Decisions

/-! ### The ledger -/

/-- The ledger of a tenant. -/
@[ext]
structure Ledger where
  rows : List LedgerRow
  keys_nodup : (rows.map LedgerRow.key).Nodup

/-- The rows of the scope up to this one, summed. -/
def balanceUpTo (rows : List LedgerRow) (r : LedgerRow) : ℚ :=
  ((rows.filter fun a => a.scope = r.scope && a.before r).map LedgerRow.quantity).sum

def LedgerRow.rebalanced (scopes : List Scope) (rows : List LedgerRow) (r : LedgerRow) :
    LedgerRow :=
  if r.scope ∈ scopes then { r with runningBalance := some (balanceUpTo rows r) } else r

theorem LedgerRow.key_rebalanced (scopes : List Scope) (rows : List LedgerRow) (r : LedgerRow) :
    (r.rebalanced scopes rows).key = r.key := by
  unfold LedgerRow.rebalanced
  by_cases h : r.scope ∈ scopes
  · rw [if_pos h]
    rfl
  · rw [if_neg h]

namespace Ledger

def changeAll (batches : List Batch) (ledger : Ledger) (decisions : List LedgerDecision) :
    Ledger where
  rows := WrittenTable.changeAll LedgerRow.key LedgerDecision.key (LedgerDecision.row batches)
    ledger.rows decisions
  keys_nodup := nodup_keys_changeAll ledger.keys_nodup decisions

/-- One statement; writing one key twice makes it fail. -/
def run (batches : List Batch) (ledger : Ledger) (statement : List LedgerDecision) :
    Option Ledger :=
  if ((statement.filter fun d => d.entry.isSome).map LedgerDecision.key).Nodup then
    some (ledger.changeAll batches statement)
  else none

/-- `rebuildMargLedgerRunningBalances` -/
def rebuildRunningBalances (scopes : List Scope) (ledger : Ledger) : Ledger where
  rows := ledger.rows.map (LedgerRow.rebalanced scopes ledger.rows)
  keys_nodup := by
    have hkeys : LedgerRow.key ∘ LedgerRow.rebalanced scopes ledger.rows = LedgerRow.key :=
      funext (LedgerRow.key_rebalanced scopes ledger.rows)
    rw [List.map_map, hkeys]
    exact ledger.keys_nodup

/-- The Marg rows in the window; the column holds a time. -/
def inWindow (ledger : Ledger) (dateWindow : Option DateWindow) : List LedgerRow :=
  ledger.rows.filter fun r => r.isMarg && isWithinDateWindow r.transactionDate dateWindow

/-- What `resetMargInventoryProjectionWindow` leaves of the ledger. -/
def reset (ledger : Ledger) (dateWindow : Option DateWindow) : Ledger where
  rows := ledger.rows.filter fun r => !(r.isMarg && isWithinDateWindow r.transactionDate dateWindow)
  keys_nodup := ledger.keys_nodup.sublist (List.filter_sublist.map LedgerRow.key)

end Ledger

section Projection

variable (platform : Platform) (m : LinkedMasters) (docs : MargDocuments)
  (dateWindow : Option DateWindow) (projectionWindowReset : Bool)
  (pageSize deleteBatchSize insertBatchSize : ℕ)

/-- The scopes of all the lines that were decided. -/
def affectedScopes : List Scope :=
  ((ledgerLines dateWindow docs.lines).filterMap
    (ledgerDecision platform m docs.vouchers)).filterMap LedgerDecision.scope

def transformTransactionsToInventoryLedger (batches : List Batch) (preAffectedScopes : List Scope)
    (ledger : Ledger) : Option Ledger :=
  ((allLedgerStatements platform m docs.vouchers dateWindow projectionWindowReset pageSize
    deleteBatchSize insertBatchSize docs.lines).foldlM (Ledger.run batches) ledger).map
      (Ledger.rebuildRunningBalances
        (preAffectedScopes ++ affectedScopes platform m docs dateWindow))

end Projection

/-! ### What the projection sums to -/

def margLedgerQty (rows : List LedgerRow) (scope : Scope) : ℚ :=
  ((rows.filter fun r => r.isMarg && r.scope = scope).map LedgerRow.quantity).sum

def LedgerDecision.qtyIn (scope : Scope) (d : LedgerDecision) : ℚ :=
  match d.entry with
  | some e => if e.scope = scope then e.quantity else 0
  | none => 0

namespace Ledger

def margQty (ledger : Ledger) (scope : Scope) : ℚ := margLedgerQty ledger.rows scope

theorem margQty_rebuildRunningBalances (scopes : List Scope) (ledger : Ledger) (scope : Scope) :
    (ledger.rebuildRunningBalances scopes).margQty scope = ledger.margQty scope := by
  unfold margQty rebuildRunningBalances
  rw [margLedgerQty, margLedgerQty, Grouping.sum_map_filter, Grouping.sum_map_filter, List.map_map]
  congr 1
  apply List.map_congr_left
  intro r _
  rw [Function.comp_apply]
  unfold LedgerRow.rebalanced
  by_cases h : r.scope ∈ scopes
  · simp only [if_pos h]
    rfl
  · simp only [if_neg h]

variable {batches : List Batch}

theorem changeAll_nil (ledger : Ledger) : ledger.changeAll batches [] = ledger :=
  rfl

theorem changeAll_append (ledger : Ledger) (ds es : List LedgerDecision) :
    ledger.changeAll batches (ds ++ es) = (ledger.changeAll batches ds).changeAll batches es :=
  Ledger.ext (WrittenTable.changeAll_append ledger.rows ds es)

/-- The statements succeed together when no one writes a key twice. -/
theorem foldlM_run (statements : List (List LedgerDecision)) (ledger : Ledger) :
    statements.foldlM (run batches) ledger =
      if ∀ statement ∈ statements,
        ((statement.filter fun d => d.entry.isSome).map LedgerDecision.key).Nodup then
        some (ledger.changeAll batches statements.flatten)
      else none := by
  induction statements generalizing ledger with
  | nil => simp [changeAll_nil]
  | cons statement statements ih =>
    rw [List.foldlM_cons, run]
    by_cases h : ((statement.filter fun d => d.entry.isSome).map LedgerDecision.key).Nodup
    · rw [if_pos h, Option.bind_eq_bind, Option.bind_some, ih, List.flatten_cons, changeAll_append]
      simp only [List.forall_mem_cons, h, true_and]
    · rw [if_neg h, if_neg]
      · rfl
      · exact fun hall => h (hall statement List.mem_cons_self)

theorem key_row {rows : List LedgerRow} {d : LedgerDecision} {r : LedgerRow}
    (h : d.row batches rows = some r) : r.key = d.key := by
  unfold LedgerDecision.row at h
  obtain ⟨e, -, rfl⟩ := Option.map_eq_some_iff.1 h
  rfl

/-- What the rows hold that no decision is about. -/
def remainingQty (ledger : Ledger) (decisions : List LedgerDecision) (scope : Scope) : ℚ :=
  margLedgerQty (ledger.rows.filter fun r => r.key ∉ decisions.map LedgerDecision.key) scope

def replacedQty (ledger : Ledger) (decisions : List LedgerDecision) (scope : Scope) : ℚ :=
  margLedgerQty (ledger.rows.filter fun r => r.key ∈ decisions.map LedgerDecision.key) scope

theorem margQty_eq_remainingQty_add_replacedQty (ledger : Ledger)
    (decisions : List LedgerDecision) (scope : Scope) :
    ledger.margQty scope =
      ledger.remainingQty decisions scope + ledger.replacedQty decisions scope := by
  unfold margQty remainingQty replacedQty margLedgerQty
  rw [Grouping.sum_map_filter, Grouping.sum_map_filter, Grouping.sum_map_filter,
    Grouping.sum_map_filter, Grouping.sum_map_filter, ← List.sum_map_add]
  congr 1
  apply List.map_congr_left
  intro r _
  by_cases hkey : r.key ∈ decisions.map LedgerDecision.key
  · simp [hkey]
  · simp [hkey]

def writtenQty (decisions : List LedgerDecision) (scope : Scope) : ℚ :=
  ((lastOfEach LedgerDecision.key decisions).map (LedgerDecision.qtyIn scope)).sum

theorem margQty_changeAll (ledger : Ledger) (decisions : List LedgerDecision) (scope : Scope) :
    (ledger.changeAll batches decisions).margQty scope =
      ledger.remainingQty decisions scope + writtenQty decisions scope := by
  unfold margQty changeAll remainingQty writtenQty
  rw [margLedgerQty, margLedgerQty, Grouping.sum_map_filter, Grouping.sum_map_filter]
  apply sum_changeAll (fun _ _ _ h => key_row h) ledger.keys_nodup
  · intro rows d _
    unfold LedgerDecision.row LedgerDecision.qtyIn
    cases d.entry with
    | none => rfl
    | some e => simp [LedgerRow.isMarg, LedgerRow.scope]
  · exact fun r => decide_eq_true_iff

end Ledger

/-- A projection that succeeds leaves what no decision is about and what the decisions write. -/
theorem margQty_transformTransactionsToInventoryLedger {platform : Platform} {m : LinkedMasters}
    {docs : MargDocuments} {batches : List Batch} {dateWindow : Option DateWindow}
    {projectionWindowReset : Bool} {pageSize deleteBatchSize insertBatchSize : ℕ}
    {preAffectedScopes : List Scope} {ledger after : Ledger}
    (h : transformTransactionsToInventoryLedger platform m docs dateWindow projectionWindowReset
      pageSize deleteBatchSize insertBatchSize batches preAffectedScopes ledger = some after)
    (scope : Scope) :
    after.margQty scope =
      ledger.remainingQty (allLedgerStatements platform m docs.vouchers dateWindow
        projectionWindowReset pageSize deleteBatchSize insertBatchSize docs.lines).flatten scope +
      Ledger.writtenQty (allLedgerStatements platform m docs.vouchers dateWindow
        projectionWindowReset pageSize deleteBatchSize insertBatchSize docs.lines).flatten scope := by
  unfold transformTransactionsToInventoryLedger at h
  rw [Ledger.foldlM_run] at h
  obtain ⟨changed, hchanged, rfl⟩ := Option.map_eq_some_iff.1 h
  rw [Ledger.margQty_rebuildRunningBalances]
  split_ifs at hchanged
  obtain rfl := Option.some.inj hchanged
  exact Ledger.margQty_changeAll ledger _ scope

end Forecast
