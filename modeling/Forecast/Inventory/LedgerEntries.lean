import Forecast.Billing.Schema
import Forecast.Lib.DecimalColumn
import Forecast.Lib.KeyedTable
import Forecast.Lib.Transactions

/-!
# The inventory ledger

Every movement of stock is a row of the ledger. The level of a product at a
location is kept beside it and moves with each row; a call that throws leaves
its transaction without effect.
-/

open KeyedTable DecimalColumn Transactions

namespace Forecast.Inventory

/-- A `DECIMAL(18,4)` column. -/
abbrev Qty := Column 18 4

inductive LedgerEntryType where
  | ledgerReceipt
  | ledgerIssue
  | ledgerTransferOut
  | ledgerTransferIn
  | ledgerAdjustment
  | ledgerScrap
  | ledgerReturn
  | ledgerProductionReceipt
  | ledgerProductionIssue
  | ledgerHold
  | ledgerRelease
  | ledgerReservation
  | ledgerUnreservation
deriving DecidableEq

inductive InventoryStatus where
  | invAvailable
  | invReserved
  | invOnHold
  | invQuarantine
  | invInTransit
deriving DecidableEq

/-- The unique key of a level. -/
structure StockKey where
  tenantId : Id
  productId : Id
  locationId : Id
deriving DecidableEq

/-- A row of `inventory_levels`. -/
structure InventoryLevel where
  key : StockKey
  onHandQty : Qty
  reservedQty : Qty
  quarantineQty : Qty
  availableQty : Qty
deriving DecidableEq

/-- A row of `inventory_ledger`. -/
structure LedgerEntry where
  key : StockKey
  batchId : Option Id
  entryType : LedgerEntryType
  quantity : Qty
  unitCost : Qty
  totalCost : Qty
  referenceType : Option String
  referenceId : Option Id
  referenceNumber : Option String
  inventoryStatus : InventoryStatus
  runningBalance : Qty
  journalEntryId : Option Id
deriving DecidableEq

/-- A row of `batches`. -/
structure Batch where
  id : Id
  quantity : Qty
  availableQty : Qty
deriving DecidableEq

structure StockDb where
  levels : List InventoryLevel
  levels_nodup : (levels.map InventoryLevel.key).Nodup
  /-- In the order of the sequence numbers. -/
  ledger : List LedgerEntry
  batches : List Batch
deriving DecidableEq

structure EntryParams where
  key : StockKey
  batchId : Option Id := none
  entryType : LedgerEntryType
  quantity : Decimal
  unitCost : Option Decimal := none
  referenceType : Option String := none
  referenceId : Option Id := none
  referenceNumber : Option String := none
  inventoryStatus : Option InventoryStatus := none
  journalEntryId : Option Id := none
deriving DecidableEq

inductive InventoryError where
  | insufficientOnHand (current requested : Decimal) (productId : Id)
  | insufficientAvailable (available requested : Decimal)
  | reservationNotFound
  | reservationNotActive
  | holdNotFound
  | holdNotActive
  /-- The database finds no row for `findUniqueOrThrow` or `update`. -/
  | recordNotFound
  /-- A value has more digits than its column. -/
  | numericOverflow
deriving DecidableEq

/-- What the service throws; the database words its own two errors. -/
def InventoryError.text (shown : Decimal → String) (uuid : Id → String) :
    InventoryError → Option String
  | insufficientOnHand current requested productId =>
    some ("Insufficient on-hand quantity. Current: " ++ shown current ++ ", Requested: " ++
      shown requested ++ ", Product: " ++ uuid productId)
  | insufficientAvailable available requested =>
    some ("Insufficient available quantity for reservation. Available: " ++ shown available ++
      ", Requested: " ++ shown requested)
  | reservationNotFound => some "Reservation not found"
  | reservationNotActive => some "Reservation is not active"
  | holdNotFound => some "Hold not found"
  | holdNotActive => some "Hold is not active"
  | recordNotFound => none
  | numericOverflow => none

structure Deltas where
  onHandDelta : Decimal
  reservedDelta : Decimal
  quarantineDelta : Decimal
deriving DecidableEq

def calculateDeltas (entryType : LedgerEntryType) (quantity : Decimal) : Deltas :=
  match entryType with
  | .ledgerReceipt | .ledgerProductionReceipt | .ledgerReturn | .ledgerTransferIn =>
    ⟨|quantity|, 0, 0⟩
  | .ledgerIssue | .ledgerProductionIssue | .ledgerScrap | .ledgerTransferOut =>
    ⟨-|quantity|, 0, 0⟩
  | .ledgerAdjustment => ⟨quantity, 0, 0⟩
  | .ledgerReservation => ⟨0, |quantity|, 0⟩
  | .ledgerUnreservation => ⟨0, -|quantity|, 0⟩
  | .ledgerHold => ⟨0, 0, |quantity|⟩
  | .ledgerRelease => ⟨0, 0, -|quantity|⟩

def isNegativeAllowed (entryType : LedgerEntryType) : Bool := entryType = .ledgerAdjustment

/-- The quantities of a level as the service reads them. -/
structure Balances where
  onHand : Decimal
  reserved : Decimal
  quarantine : Decimal
  available : Decimal
deriving DecidableEq

namespace Balances

/-- A level that is not there yet holds nothing. -/
def ofLevel (level : Option InventoryLevel) : Balances :=
  match level with
  | some l => ⟨l.onHandQty.value, l.reservedQty.value, l.quarantineQty.value, l.availableQty.value⟩
  | none => ⟨0, 0, 0, 0⟩

def moved (b : Balances) (d : Deltas) : Balances :=
  let newOnHand := b.onHand.plus d.onHandDelta
  let newReserved := b.reserved.plus d.reservedDelta
  let newQuarantine := b.quarantine.plus d.quarantineDelta
  ⟨newOnHand, newReserved, newQuarantine, (newOnHand.minus newReserved).minus newQuarantine⟩

end Balances

def stored (q : Decimal) : Except InventoryError Qty := found (Column.store q) .numericOverflow

def Balances.toLevel (b : Balances) (key : StockKey) : Except InventoryError InventoryLevel := do
  let onHandQty ← stored b.onHand
  let reservedQty ← stored b.reserved
  let quarantineQty ← stored b.quarantine
  let availableQty ← stored b.available
  pure ⟨key, onHandQty, reservedQty, quarantineQty, availableQty⟩

def EntryParams.toEntry (params : EntryParams) (newOnHand : Decimal) :
    Except InventoryError LedgerEntry := do
  let cost := params.unitCost.getD 0
  let quantity ← stored params.quantity
  let unitCost ← stored cost
  let totalCost ← stored (Decimal.times |params.quantity| cost)
  let runningBalance ← stored newOnHand
  pure
    { key := params.key
      batchId := params.batchId
      entryType := params.entryType
      quantity := quantity
      unitCost := unitCost
      totalCost := totalCost
      referenceType := params.referenceType
      referenceId := params.referenceId
      referenceNumber := params.referenceNumber
      inventoryStatus := params.inventoryStatus.getD .invAvailable
      runningBalance := runningBalance
      journalEntryId := params.journalEntryId }

def Batch.increment (batch : Batch) (quantity availableQty : Decimal) :
    Except InventoryError Batch := do
  let quantity ← stored (batch.quantity.value + quantity)
  let availableQty ← stored (batch.availableQty.value + availableQty)
  pure { batch with quantity := quantity, availableQty := availableQty }

/-- A batch moves with the stock on hand. -/
def updateBatch (batches : List Batch) (batchId : Option Id) (d : Deltas) :
    Except InventoryError (List Batch) :=
  match batchId with
  | none => .ok batches
  | some id =>
    if d.onHandDelta = 0 then .ok batches
    else do
      let batch ← found (lookup Batch.id batches id) .recordNotFound
      let batch ← batch.increment d.onHandDelta (d.onHandDelta.minus d.reservedDelta)
      pure (upsert Batch.id batches batch)

namespace StockDb

/-- The stock before its first movement. -/
def opened (batches : List Batch) : StockDb := ⟨[], List.nodup_nil, [], batches⟩

def findLevel (db : StockDb) (key : StockKey) : Option InventoryLevel :=
  lookup InventoryLevel.key db.levels key

def balances (db : StockDb) (key : StockKey) : Balances := .ofLevel (db.findLevel key)

/-- The row of the level is locked from its read to its write, so its version is the one read. -/
def recordEntry (db : StockDb) (params : EntryParams) : Except InventoryError StockDb := do
  let current := db.balances params.key
  let deltas := calculateDeltas params.entryType params.quantity
  let next := current.moved deltas
  throwWhen (next.onHand < 0 ∧ !isNegativeAllowed params.entryType)
    (.insufficientOnHand current.onHand |params.quantity| params.key.productId)
  let entry ← params.toEntry next.onHand
  let level ← next.toLevel params.key
  let batches ← updateBatch db.batches params.batchId deltas
  pure
    { levels := upsert InventoryLevel.key db.levels level
      levels_nodup := nodup_keys_upsert db.levels_nodup
      ledger := db.ledger ++ [entry]
      batches := batches }

/-- The rows of a product at a location. -/
def entriesOf (db : StockDb) (key : StockKey) : List LedgerEntry :=
  db.ledger.filter fun entry => entry.key = key

end StockDb

/-- A row's share in the sum of `reconcileBalance`. -/
def LedgerEntry.reconciledQty (entry : LedgerEntry) : ℚ :=
  match entry.entryType with
  | .ledgerReceipt | .ledgerProductionReceipt | .ledgerReturn | .ledgerTransferIn =>
    |entry.quantity.value|
  | .ledgerIssue | .ledgerProductionIssue | .ledgerScrap | .ledgerTransferOut =>
    -|entry.quantity.value|
  | .ledgerAdjustment => entry.quantity.value
  | .ledgerHold | .ledgerRelease | .ledgerReservation | .ledgerUnreservation => 0

structure Reconciliation where
  ledgerBalance : Decimal
  materializedBalance : Decimal
  discrepancy : Decimal
  isConsistent : Bool
deriving DecidableEq

def reconcileBalance (db : StockDb) (key : StockKey) : Reconciliation :=
  let ledgerBalance := ((db.entriesOf key).map LedgerEntry.reconciledQty).sum
  let materializedBalance := (db.balances key).onHand
  let discrepancy := Decimal.minus ledgerBalance materializedBalance
  ⟨ledgerBalance, materializedBalance, discrepancy, discrepancy = 0⟩

/-! ### What a recorded entry does -/

theorem stored_eq_ok {q : Decimal} {c : Qty} : stored q = .ok c ↔ Column.store q = some c :=
  found_eq_ok

/-- A number on the scale of the quantities, of fewer units than `m` columns hold. -/
structure Fits (m : ℕ) (q : ℚ) : Prop where
  onScale : OnScale 4 q
  lt : |q| * 10 ^ 4 < m * 10 ^ 18

namespace Fits

variable {m n : ℕ} {a b : Decimal}

theorem value (c : Qty) : Fits 1 c.value :=
  ⟨c.onScale_value, by simpa using c.abs_value_mul_lt⟩

theorem of_stored {c : Qty} (ha : OnScale 4 a) (h : stored a = .ok c) : Fits 1 a := by
  rw [← Column.value_of_store (stored_eq_ok.1 h) ha]
  exact value c

theorem zero : Fits 1 0 := ⟨OnScale.zero, by norm_num⟩

theorem neg (ha : Fits m a) : Fits m (-a) := ⟨ha.onScale.neg, by simpa using ha.lt⟩

theorem abs (ha : Fits m a) : Fits m |a| := ⟨ha.onScale.abs, by simpa using ha.lt⟩

theorem add (ha : Fits m a) (hb : Fits n b) : Fits (m + n) (a + b) := by
  refine ⟨ha.onScale.add hb.onScale, ?_⟩
  have hle := mul_le_mul_of_nonneg_right (abs_add_le a b) (by norm_num : (0 : ℚ) ≤ 10 ^ 4)
  have hlt := add_lt_add ha.lt hb.lt
  push_cast
  linarith

theorem sub (ha : Fits m a) (hb : Fits n b) : Fits (m + n) (a - b) := by
  rw [sub_eq_add_neg]
  exact ha.add hb.neg

theorem toSignificant_eq (ha : Fits m a) (hm : m ≤ 100) :
    GridRounding.toSignificant Decimal.precision a = a := by
  apply ha.onScale.toSignificant_eq_self
  have hcast : (m : ℚ) ≤ 100 := by exact_mod_cast hm
  have hlt := ha.lt
  norm_num [Decimal.precision] at hlt ⊢
  linarith

theorem plus_eq (ha : Fits m a) (hb : Fits n b) (hmn : m + n ≤ 100) : a.plus b = a + b :=
  (ha.add hb).toSignificant_eq hmn

theorem minus_eq (ha : Fits m a) (hb : Fits n b) (hmn : m + n ≤ 100) : a.minus b = a - b :=
  (ha.sub hb).toSignificant_eq hmn

end Fits

/-- The quantities after a movement, without rounding. -/
def Balances.shifted (b : Balances) (d : Deltas) : Balances where
  onHand := b.onHand + d.onHandDelta
  reserved := b.reserved + d.reservedDelta
  quarantine := b.quarantine + d.quarantineDelta
  available := b.onHand + d.onHandDelta - (b.reserved + d.reservedDelta) -
    (b.quarantine + d.quarantineDelta)

/-- A level's quantities, or none. -/
structure Balances.Stored (b : Balances) : Prop where
  onHand : Fits 1 b.onHand
  reserved : Fits 1 b.reserved
  quarantine : Fits 1 b.quarantine

theorem Balances.stored_ofLevel (level : Option InventoryLevel) : (ofLevel level).Stored := by
  cases level with
  | none => exact ⟨Fits.zero, Fits.zero, Fits.zero⟩
  | some l => exact ⟨Fits.value _, Fits.value _, Fits.value _⟩

structure Deltas.Fit (d : Deltas) : Prop where
  onHand : Fits 1 d.onHandDelta
  reserved : Fits 1 d.reservedDelta
  quarantine : Fits 1 d.quarantineDelta

theorem calculateDeltas_fit (entryType : LedgerEntryType) {quantity : Decimal}
    (h : Fits 1 quantity) : (calculateDeltas entryType quantity).Fit := by
  cases entryType <;>
    exact ⟨by first | exact h.abs | exact h.abs.neg | exact h | exact Fits.zero,
      by first | exact h.abs | exact h.abs.neg | exact Fits.zero,
      by first | exact h.abs | exact h.abs.neg | exact Fits.zero⟩

theorem Balances.moved_eq_shifted {b : Balances} {d : Deltas} (hb : b.Stored) (hd : d.Fit) :
    b.moved d = b.shifted d := by
  have honHand := hb.onHand.plus_eq hd.onHand (by norm_num)
  have hreserved := hb.reserved.plus_eq hd.reserved (by norm_num)
  have hquarantine := hb.quarantine.plus_eq hd.quarantine (by norm_num)
  have hfree := (hb.onHand.add hd.onHand).sub (hb.reserved.add hd.reserved)
  unfold Balances.moved Balances.shifted
  simp only [honHand, hreserved, hquarantine]
  rw [(hb.onHand.add hd.onHand).minus_eq (hb.reserved.add hd.reserved) (by norm_num),
    hfree.minus_eq (hb.quarantine.add hd.quarantine) (by norm_num)]

/-- The row that a call writes. -/
structure LedgerEntry.Records (entry : LedgerEntry) (params : EntryParams) (balance : Decimal) :
    Prop where
  key : entry.key = params.key
  batchId : entry.batchId = params.batchId
  entryType : entry.entryType = params.entryType
  quantity : entry.quantity.value = params.quantity
  referenceType : entry.referenceType = params.referenceType
  referenceId : entry.referenceId = params.referenceId
  runningBalance : entry.runningBalance.value = balance

/-- What a call that does not throw did, for a quantity on the scale of its column. -/
structure Recorded (db : StockDb) (params : EntryParams) (db' : StockDb) : Prop where
  balances : db'.balances params.key =
    (db.balances params.key).shifted (calculateDeltas params.entryType params.quantity)
  others : ∀ key, key ≠ params.key → db'.balances key = db.balances key
  ledger : ∃ entry : LedgerEntry, entry.Records params (db'.balances params.key).onHand ∧
    db'.ledger = db.ledger ++ [entry]
  covered : 0 ≤ (db'.balances params.key).onHand ∨ params.entryType = .ledgerAdjustment
  fits : Fits 1 params.quantity

theorem Balances.ofLevel_toLevel {b : Balances} {key : StockKey} {level : InventoryLevel}
    (h : b.toLevel key = .ok level) (hon : OnScale 4 b.onHand) (hres : OnScale 4 b.reserved)
    (hqua : OnScale 4 b.quarantine) (hava : OnScale 4 b.available) :
    level.key = key ∧ Balances.ofLevel (some level) = b := by
  simp only [Balances.toLevel, bind_eq_ok, pure_eq_ok, stored_eq_ok] at h
  obtain ⟨onHandQty, h₁, reservedQty, h₂, quarantineQty, h₃, availableQty, h₄, rfl⟩ := h
  refine ⟨rfl, ?_⟩
  unfold Balances.ofLevel
  simp only [Column.value_of_store h₁ hon, Column.value_of_store h₂ hres,
    Column.value_of_store h₃ hqua, Column.value_of_store h₄ hava]

theorem EntryParams.fits_of_toEntry {params : EntryParams} {balance : Decimal}
    {entry : LedgerEntry} (h : params.toEntry balance = .ok entry)
    (hscale : OnScale 4 params.quantity) : Fits 1 params.quantity := by
  simp only [EntryParams.toEntry, bind_eq_ok] at h
  obtain ⟨quantity, hquantity, -⟩ := h
  exact Fits.of_stored hscale hquantity

theorem EntryParams.records_toEntry {params : EntryParams} {balance : Decimal}
    {entry : LedgerEntry} (h : params.toEntry balance = .ok entry)
    (hscale : OnScale 4 params.quantity) (hbalance : OnScale 4 balance) :
    entry.Records params balance := by
  simp only [EntryParams.toEntry, bind_eq_ok, pure_eq_ok, stored_eq_ok] at h
  obtain ⟨quantity, hquantity, -, -, -, -, running, hrunning, rfl⟩ := h
  exact ⟨rfl, rfl, rfl, Column.value_of_store hquantity hscale, rfl, rfl,
    Column.value_of_store hrunning hbalance⟩

theorem Balances.onScale_moved {b : Balances} {d : Deltas} (hb : b.Stored) (hd : d.Fit) :
    OnScale 4 (b.moved d).onHand ∧ OnScale 4 (b.moved d).reserved ∧
      OnScale 4 (b.moved d).quarantine ∧ OnScale 4 (b.moved d).available := by
  have honHand := hb.onHand.onScale.add hd.onHand.onScale
  have hreserved := hb.reserved.onScale.add hd.reserved.onScale
  have hquarantine := hb.quarantine.onScale.add hd.quarantine.onScale
  rw [moved_eq_shifted hb hd]
  exact ⟨honHand, hreserved, hquarantine, (honHand.sub hreserved).sub hquarantine⟩

theorem recorded_of_recordEntry {db db' : StockDb} {params : EntryParams}
    (h : db.recordEntry params = .ok db') (hscale : OnScale 4 params.quantity) :
    Recorded db params db' := by
  simp only [StockDb.recordEntry, bind_eq_ok, pure_eq_ok, throwWhen_eq_ok] at h
  obtain ⟨-, hcovered, entry, hentry, level, hlevel, batches, -, rfl⟩ := h
  have hb : (db.balances params.key).Stored := Balances.stored_ofLevel _
  have hfits := EntryParams.fits_of_toEntry hentry hscale
  have hd := calculateDeltas_fit params.entryType hfits
  obtain ⟨hon, hres, hqua, hava⟩ := Balances.onScale_moved hb hd
  obtain ⟨hkey, hnew⟩ := Balances.ofLevel_toLevel hlevel hon hres hqua hava
  have hrecords := EntryParams.records_toEntry hentry hscale hon
  have hfound : ∀ key, lookup InventoryLevel.key (upsert InventoryLevel.key db.levels level) key =
      if params.key = key then some level else db.findLevel key := by
    intro key
    rw [lookup_upsert, hkey]
    rfl
  have hafter : Balances.ofLevel (lookup InventoryLevel.key
      (upsert InventoryLevel.key db.levels level) params.key) =
        (db.balances params.key).moved (calculateDeltas params.entryType params.quantity) := by
    rw [hfound, if_pos rfl, hnew]
  constructor
  · rw [StockDb.balances, StockDb.findLevel, hafter, Balances.moved_eq_shifted hb hd]
  · intro key hne
    rw [StockDb.balances, StockDb.findLevel, hfound, if_neg (Ne.symm hne)]
    rfl
  · refine ⟨entry, ?_, rfl⟩
    rw [StockDb.balances, StockDb.findLevel, hafter]
    exact hrecords
  · rw [StockDb.balances, StockDb.findLevel, hafter]
    by_contra hneither
    push Not at hneither
    obtain ⟨hnegative, htype⟩ := hneither
    exact hcovered ⟨hnegative, by simp [isNegativeAllowed, htype]⟩
  · exact hfits

end Forecast.Inventory
