import Forecast.Inventory.LedgerEntries

/-!
# Reservations and holds of stock

A reservation moves stock from available to reserved, a hold to quarantine. Each
has a row of its own beside the ledger row that moves the level.
-/

open KeyedTable DecimalColumn Transactions RowTable

namespace Forecast.Inventory

inductive ReservationStatus where
  | active
  | released
deriving DecidableEq

/-- A row of `inventory_reservations`; its id is its position. -/
structure InventoryReservation where
  tenantId : Id
  key : StockKey
  batchId : Option Id
  reservedQty : Qty
  fulfilledQty : Qty := .zero
  status : ReservationStatus := .active
  referenceType : String
  referenceId : Id
deriving DecidableEq

inductive HoldStatus where
  | active
  | released
  | rejected
deriving DecidableEq

/-- A row of `inventory_holds`; its id is its position. -/
structure InventoryHold where
  id : Id
  tenantId : Id
  key : StockKey
  batchId : Option Id
  /-- What is still held: a partial release lowers it. -/
  heldQty : Qty
  releasedQty : Qty := .zero
  status : HoldStatus := .active
  holdReason : String
  referenceType : Option String
  referenceId : Option Id
  inspectionId : Option Id := none
deriving DecidableEq

structure WarehouseDb where
  stock : StockDb
  reservations : List InventoryReservation
  holds : List InventoryHold
deriving DecidableEq

/-- A quantity as a caller gives it. -/
inductive DecimalInput where
  | number (q : Decimal)
  | decimal (q : Decimal)
deriving DecidableEq

/-- `given ? new Decimal(given) : otherwise`: the number zero counts as none, a decimal never. -/
def DecimalInput.orElse (given : Option DecimalInput) (otherwise : Qty) : Decimal :=
  match given with
  | some (.number q) => if q = 0 then otherwise.value else q
  | some (.decimal q) => q
  | none => otherwise.value

structure ReservationParams where
  key : StockKey
  batchId : Option Id := none
  quantity : Decimal
  referenceType : String
  referenceId : Id
deriving DecidableEq

structure ReleaseReservationParams where
  reservationId : Id
  tenantId : Option Id := none
  fulfilledQty : Option DecimalInput := none
deriving DecidableEq

structure HoldParams where
  key : StockKey
  batchId : Option Id := none
  quantity : Decimal
  holdReason : String
  referenceType : Option String := none
  referenceId : Option Id := none
deriving DecidableEq

structure ReleaseHoldParams where
  holdId : Id
  tenantId : Option Id := none
  releasedQty : Option DecimalInput := none
deriving DecidableEq

namespace ReservationParams

variable (params : ReservationParams)

def row (reservedQty : Qty) : InventoryReservation where
  tenantId := params.key.tenantId
  key := params.key
  batchId := params.batchId
  reservedQty := reservedQty
  referenceType := params.referenceType
  referenceId := params.referenceId

def entry : EntryParams where
  key := params.key
  batchId := params.batchId
  entryType := .ledgerReservation
  quantity := params.quantity
  inventoryStatus := some .invReserved
  referenceType := some params.referenceType
  referenceId := some params.referenceId

end ReservationParams

def InventoryReservation.release (fulfilledQty : Qty) (row : InventoryReservation) :
    InventoryReservation :=
  { row with status := .released, fulfilledQty := fulfilledQty }

def InventoryReservation.releaseEntry (row : InventoryReservation) (releaseQty : Decimal) :
    EntryParams where
  key := row.key
  batchId := row.batchId
  entryType := .ledgerUnreservation
  quantity := releaseQty
  inventoryStatus := some .invAvailable
  referenceType := some row.referenceType
  referenceId := some row.referenceId

namespace HoldParams

variable (params : HoldParams) (holdId : Id)

def row (heldQty : Qty) : InventoryHold where
  id := holdId
  tenantId := params.key.tenantId
  key := params.key
  batchId := params.batchId
  heldQty := heldQty
  holdReason := params.holdReason
  referenceType := params.referenceType
  referenceId := params.referenceId

def entry : EntryParams where
  key := params.key
  batchId := params.batchId
  entryType := .ledgerHold
  quantity := params.quantity
  inventoryStatus := some .invQuarantine
  referenceType := some "HOLD"
  referenceId := some holdId

end HoldParams

namespace InventoryHold

variable (hold : InventoryHold) (releaseQty : Decimal)

/-- A partial release keeps the hold active. -/
def release : Except InventoryError InventoryHold :=
  if releaseQty < hold.heldQty.value then do
    let heldQty ← stored (Decimal.minus hold.heldQty.value releaseQty)
    let releasedQty ← stored (Decimal.plus hold.releasedQty.value releaseQty)
    pure { hold with heldQty := heldQty, releasedQty := releasedQty }
  else do
    let releasedQty ← stored releaseQty
    pure { hold with status := .released, releasedQty := releasedQty }

def releaseEntry : EntryParams where
  key := hold.key
  batchId := hold.batchId
  entryType := .ledgerRelease
  quantity := releaseQty
  inventoryStatus := some .invAvailable
  referenceType := some "HOLD"
  referenceId := some hold.id

end InventoryHold

namespace WarehouseDb

def opened (batches : List Batch) : WarehouseDb := ⟨.opened batches, [], []⟩

/-- An entry in the same transaction. -/
def recordEntry (db : WarehouseDb) (params : EntryParams) : Except InventoryError WarehouseDb := do
  let stock ← db.stock.recordEntry params
  pure { db with stock := stock }

def createReservation (db : WarehouseDb) (params : ReservationParams) :
    Except InventoryError WarehouseDb := do
  let available := (db.stock.balances params.key).available
  throwWhen (available < params.quantity) (.insufficientAvailable available params.quantity)
  let reservedQty ← stored params.quantity
  let db := { db with reservations := db.reservations ++ [params.row reservedQty] }
  db.recordEntry params.entry

def releaseReservation (db : WarehouseDb) (params : ReleaseReservationParams) :
    Except InventoryError WarehouseDb := do
  let reservation ← found db.reservations[params.reservationId]? .recordNotFound
  throwWhen (∃ tenantId ∈ params.tenantId, reservation.tenantId ≠ tenantId) .reservationNotFound
  throwWhen (reservation.status ≠ .active) .reservationNotActive
  let releaseQty := DecimalInput.orElse params.fulfilledQty reservation.reservedQty
  let fulfilledQty ← stored releaseQty
  let reservations := db.reservations.modify params.reservationId
    (InventoryReservation.release fulfilledQty)
  let db := { db with reservations := reservations }
  db.recordEntry (reservation.releaseEntry releaseQty)

def placeHold (db : WarehouseDb) (params : HoldParams) : Except InventoryError WarehouseDb := do
  let heldQty ← stored params.quantity
  let holdId := db.holds.length
  let db := { db with holds := db.holds ++ [params.row holdId heldQty] }
  db.recordEntry (params.entry holdId)

def releaseHold (db : WarehouseDb) (params : ReleaseHoldParams) :
    Except InventoryError WarehouseDb := do
  let hold ← found db.holds[params.holdId]? .recordNotFound
  throwWhen (∃ tenantId ∈ params.tenantId, hold.tenantId ≠ tenantId) .holdNotFound
  throwWhen (hold.status ≠ .active) .holdNotActive
  let releaseQty := DecimalInput.orElse params.releasedQty hold.heldQty
  let released ← hold.release releaseQty
  let db := { db with holds := db.holds.modify params.holdId fun _ => released }
  db.recordEntry (hold.releaseEntry releaseQty)

end WarehouseDb

/-- The entries that callers record themselves: those that move the stock on hand. -/
def LedgerEntryType.movesOnHand : LedgerEntryType → Bool
  | .ledgerHold | .ledgerRelease | .ledgerReservation | .ledgerUnreservation => false
  | _ => true

inductive StockCall where
  | record (params : EntryParams) (moves : params.entryType.movesOnHand = true)
  | createReservation (params : ReservationParams)
  | releaseReservation (params : ReleaseReservationParams)
  | placeHold (params : HoldParams)
  | releaseHold (params : ReleaseHoldParams)
deriving DecidableEq

namespace WarehouseDb

def body (db : WarehouseDb) : StockCall → Except InventoryError WarehouseDb
  | .record params _ => db.recordEntry params
  | .createReservation params => db.createReservation params
  | .releaseReservation params => db.releaseReservation params
  | .placeHold params => db.placeHold params
  | .releaseHold params => db.releaseHold params

def call (db : WarehouseDb) (c : StockCall) : WarehouseDb := transaction db (db.body c)

end WarehouseDb

end Forecast.Inventory
