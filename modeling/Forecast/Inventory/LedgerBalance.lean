import Forecast.Inventory.LedgerEntries
import Forecast.Lib.RunningLedger
import Forecast.Lib.Runs

/-!
# Levels and the ledger agree

The level is moved by the deltas of each call; reconciliation sums the rows by
rules of its own. Both give one balance through every sequence of calls whose
quantities are on the scale of their column.
-/

open KeyedTable DecimalColumn Transactions Runs

namespace Forecast.Inventory

def record (db : StockDb) (call : EntryParams) : StockDb := transaction db (db.recordEntry call)

namespace LedgerEntry

/-- What the row did to its level. -/
def deltas (entry : LedgerEntry) : Deltas := calculateDeltas entry.entryType entry.quantity.value

/-- The rules of the level and of reconciliation agree on the stock on hand. -/
theorem reconciledQty_eq_onHandDelta (entry : LedgerEntry) :
    entry.reconciledQty = entry.deltas.onHandDelta := by
  unfold reconciledQty deltas
  cases entry.entryType <;> rfl

/-- The row in a ledger that runs through its balances. -/
def step (entry : LedgerEntry) : RunningLedger.Entry ℚ where
  amount := entry.reconciledQty
  before := entry.runningBalance.value - entry.reconciledQty
  after := entry.runningBalance.value

end LedgerEntry

/-- A level holds what the rows of its product and location add up to. -/
structure KeepsLevel (db : StockDb) (key : StockKey) : Prop where
  onHand : RunningLedger.Runs 0 ((db.entriesOf key).map LedgerEntry.step) (db.balances key).onHand
  reserved : (db.balances key).reserved =
    ((db.entriesOf key).map fun entry => entry.deltas.reservedDelta).sum
  quarantine : (db.balances key).quarantine =
    ((db.entriesOf key).map fun entry => entry.deltas.quarantineDelta).sum
  available : (db.balances key).available =
    (db.balances key).onHand - (db.balances key).reserved - (db.balances key).quarantine

theorem keepsLevel_opened (batches : List Batch) (key : StockKey) :
    KeepsLevel (.opened batches) key := by
  constructor
  · exact rfl
  · rfl
  · rfl
  · change (0 : ℚ) = 0 - 0 - 0
    norm_num

theorem entriesOf_append {db db' : StockDb} {entry : LedgerEntry}
    (h : db'.ledger = db.ledger ++ [entry]) (key : StockKey) :
    db'.entriesOf key = db.entriesOf key ++ if entry.key = key then [entry] else [] := by
  unfold StockDb.entriesOf
  rw [h, List.filter_append]
  by_cases hkey : entry.key = key <;> simp [hkey]

theorem KeepsLevel.recorded {db db' : StockDb} {call : EntryParams} {key : StockKey}
    (h : KeepsLevel db key) (hrecorded : Recorded db call db') : KeepsLevel db' key := by
  obtain ⟨entry, hentry, hledger⟩ := hrecorded.ledger
  have hrows := entriesOf_append hledger key
  by_cases hkey : call.key = key
  · subst hkey
    rw [if_pos hentry.key] at hrows
    have hdeltas : entry.deltas = calculateDeltas call.entryType call.quantity := by
      rw [LedgerEntry.deltas, hentry.entryType, hentry.quantity]
    have hbalances := hrecorded.balances
    have hafter : (db'.balances call.key).onHand =
        (db.balances call.key).onHand + entry.reconciledQty := by
      rw [hbalances, entry.reconciledQty_eq_onHandDelta, hdeltas]
      rfl
    constructor
    · rw [hrows, List.map_append, List.map_singleton, RunningLedger.runs_append_entry]
      refine ⟨(db.balances call.key).onHand, h.onHand, ?_, ?_, ?_⟩
      · change entry.runningBalance.value - entry.reconciledQty = _
        rw [hentry.runningBalance, hafter, add_sub_cancel_right]
      · exact (sub_add_cancel _ _).symm
      · exact hentry.runningBalance.symm
    · rw [hrows, List.map_append, List.sum_append, ← h.reserved, List.map_singleton,
        List.sum_singleton, hdeltas, hbalances]
      rfl
    · rw [hrows, List.map_append, List.sum_append, ← h.quarantine, List.map_singleton,
        List.sum_singleton, hdeltas, hbalances]
      rfl
    · rw [hbalances]
      rfl
  · rw [if_neg (fun h => hkey (hentry.key.symm.trans h)), List.append_nil] at hrows
    have hsame := hrecorded.others key (Ne.symm hkey)
    constructor
    · rw [hrows, hsame]
      exact h.onHand
    · rw [hrows, hsame]
      exact h.reserved
    · rw [hrows, hsame]
      exact h.quarantine
    · rw [hsame]
      exact h.available

theorem KeepsLevel.record {db : StockDb} {call : EntryParams} {key : StockKey}
    (h : KeepsLevel db key) (hscale : OnScale 4 call.quantity) :
    KeepsLevel (record db call) key := by
  unfold Inventory.record
  cases hresult : db.recordEntry call with
  | error error => exact h
  | ok db' => exact h.recorded (recorded_of_recordEntry hresult hscale)

theorem KeepsLevel.isConsistent {db : StockDb} {key : StockKey} (h : KeepsLevel db key) :
    (reconcileBalance db key).isConsistent = true := by
  have hsum := h.onHand.eq_add_sum
  rw [List.map_map, zero_add] at hsum
  unfold reconcileBalance
  change decide (Decimal.minus ((db.entriesOf key).map LedgerEntry.reconciledQty).sum
    (db.balances key).onHand = 0) = true
  rw [hsum]
  simp [Decimal.minus, Function.comp_def, LedgerEntry.step]

theorem onHand_neg_record {db : StockDb} {call : EntryParams} {key : StockKey}
    (hscale : OnScale 4 call.quantity) (hbefore : 0 ≤ (db.balances key).onHand)
    (hafter : ((record db call).balances key).onHand < 0) :
    call.key = key ∧ call.entryType = .ledgerAdjustment := by
  unfold record at hafter
  cases hresult : db.recordEntry call with
  | error error =>
    rw [hresult, transaction_error] at hafter
    exact absurd hbefore (not_le.2 hafter)
  | ok db' =>
    rw [hresult, transaction_ok] at hafter
    have hrecorded := recorded_of_recordEntry hresult hscale
    by_cases hkey : call.key = key
    · subst hkey
      exact ⟨rfl, hrecorded.covered.resolve_left (not_le.2 hafter)⟩
    · rw [hrecorded.others key (Ne.symm hkey)] at hafter
      exact absurd hbefore (not_le.2 hafter)

/-- What holds of levels and ledger before, between and after the calls. -/
structure LedgerLaw (start : StockDb) (calls : List EntryParams) : Prop where
  consistent : ∀ k key, (reconcileBalance (stateAt record start calls k) key).isConsistent = true
  running : ∀ k key entry, ((stateAt record start calls k).entriesOf key).getLast? = some entry →
    entry.runningBalance.value = ((stateAt record start calls k).balances key).onHand
  levels : ∀ k key, KeepsLevel (stateAt record start calls k) key
  negative : ∀ k call key, calls[k]? = some call →
    0 ≤ ((stateAt record start calls k).balances key).onHand →
      ((stateAt record start calls (k + 1)).balances key).onHand < 0 →
        call.key = key ∧ call.entryType = .ledgerAdjustment
  thrown : ∀ k call error, calls[k]? = some call →
    (stateAt record start calls k).recordEntry call = .error error →
      stateAt record start calls (k + 1) = stateAt record start calls k

theorem ledgerLaw_opened (batches : List Batch) (calls : List EntryParams)
    (hscale : ∀ call ∈ calls, OnScale 4 call.quantity) : LedgerLaw (.opened batches) calls := by
  have hcalls : Always record (fun _ call => OnScale 4 call.quantity) (.opened batches) calls :=
    always_iff.2 fun k call hcall => hscale call (List.mem_of_getElem? hcall)
  have hlevels : ∀ k key, KeepsLevel (stateAt record (.opened batches) calls k) key := by
    intro k key
    exact hcalls.invariant_at (I := fun db => KeepsLevel db key) (fun _ _ h hs => h.record hs)
      (keepsLevel_opened batches key) k
  constructor
  · exact fun k key => (hlevels k key).isConsistent
  · intro k key entry hlast
    apply (hlevels k key).onHand.after_getLast (e := entry.step)
    rw [List.getLast?_map, hlast]
    rfl
  · exact hlevels
  · intro k call key hcall hbefore hafter
    rw [stateAt_succ record _ hcall] at hafter
    exact onHand_neg_record (hscale call (List.mem_of_getElem? hcall)) hbefore hafter
  · intro k call error hcall hthrown
    rw [stateAt_succ record _ hcall, record, hthrown]
    rfl

def stockKey : StockKey := ⟨1, 7, 3⟩

def firstMovements : List EntryParams :=
  [{ key := stockKey, entryType := .ledgerReceipt, quantity := 10 },
    { key := stockKey, entryType := .ledgerReservation, quantity := 4 },
    { key := stockKey, entryType := .ledgerIssue, quantity := 21 / 2 },
    { key := stockKey, entryType := .ledgerAdjustment, quantity := -12 }]

theorem ledgerLaw_firstMovements : LedgerLaw (.opened []) firstMovements :=
  ledgerLaw_opened [] firstMovements (by decide +kernel)

end Forecast.Inventory
