import Forecast.Manufacturing.FactoryTables

/-!
# Transactions, adjustments and transfers

Each writes the movement twice, into the ledger and into `inventory_transactions`, by
rules of its own for the sign and the type. Where no user is given the row is signed with the
tenant's id, which is no user's as a rule, and the call fails.
-/

open KeyedTable DecimalColumn Transactions

namespace Forecast.Manufacturing

open Inventory (Qty StockKey EntryParams LedgerEntryType)

structure TransactionParams where
  productId : Id
  transactionType : String
  quantity : Decimal
  locationId : Option Id := none
  toLocationId : Option Id := none
  referenceType : Option String := none
  referenceId : Option Id := none
  userId : Option Id := none
  uom : Option String := none
deriving DecidableEq

/-- The body of the endpoint has neither a user nor a unit, and is refused with one. -/
def TransactionParams.Accepted (params : TransactionParams) : Prop :=
  params.userId = none ∧ params.uom = none

structure AdjustmentParams where
  productId : Id
  quantity : Decimal
deriving DecidableEq

structure TransferParams where
  productId : Id
  quantity : Decimal
  fromLocation : Id
  toLocation : Id
deriving DecidableEq

/-- The values of the enumeration that the column accepts. -/
def TransactionType.ofText (text : String) : Option TransactionType :=
  if text = "RECEIPT" then some .receipt
  else if text = "ISSUE" then some .issue
  else if text = "TRANSFER" then some .transfer
  else if text = "ADJUSTMENT_IN" then some .adjustmentIn
  else if text = "ADJUSTMENT_OUT" then some .adjustmentOut
  else if text = "SCRAP" then some .scrap
  else if text = "RETURN" then some .return
  else if text = "PRODUCTION_RECEIPT" then some .productionReceipt
  else if text = "PRODUCTION_ISSUE" then some .productionIssue
  else none

/-- `ledgerTypeMap` -/
def ledgerTypeOf (transactionType : String) (effectiveQuantity : Decimal) :
    Option LedgerEntryType :=
  if transactionType = "RECEIPT" then some .ledgerReceipt
  else if transactionType = "PRODUCTION_RECEIPT" then some .ledgerProductionReceipt
  else if transactionType = "ISSUE" then some .ledgerIssue
  else if transactionType = "PRODUCTION_ISSUE" then some .ledgerProductionIssue
  else if transactionType = "ADJUSTMENT" then some .ledgerAdjustment
  else if transactionType = "TRANSFER" then
    some (if 0 < effectiveQuantity then .ledgerTransferIn else .ledgerTransferOut)
  else if transactionType = "SCRAP" then some .ledgerScrap
  else if transactionType = "RETURN" then some .ledgerReturn
  else none

namespace FactoryContext

variable (ctx : FactoryContext)

def conversion (fromUom toUom : String) (productId : Option Id) : Option UomConversion :=
  ctx.conversions.find? fun c => c.fromUom = fromUom ∧ c.toUom = toUom ∧ c.productId = productId

/-- The row that is read first: the product's, when there is a product, else the general one. -/
def directRow (fromUom toUom : String) (productId : Option Id) : Option UomConversion :=
  (productId.bind fun id => ctx.conversion fromUom toUom (some id)).or
    (ctx.conversion fromUom toUom none)

/-- `1 / Number(factor)`; none is infinite. -/
def inverse (factor : ℚ) : Option ℚ := if factor = 0 then none else some (Binary64.div 1 factor)

/-- The factor that `convertUom` takes; the row in the other direction has the same product
column. Without a row it throws. -/
def uomFactor (fromUom toUom : String) (productId : Option Id) : Option (Option ℚ) :=
  match ctx.directRow fromUom toUom productId with
  | some c => some (some (Decimal.toDouble c.factor))
  | none => (ctx.conversion toUom fromUom productId).map fun c =>
      inverse (Decimal.toDouble c.factor)

/-- The result of a conversion; none is no finite number. -/
def convertUom (fromUom toUom : String) (quantity : ℚ) (productId : Option Id) :
    Option (Option ℚ) :=
  (ctx.uomFactor fromUom toUom productId).map fun factor => factor.map (Binary64.mul quantity)

def uomOf (productId : Id) : String :=
  match ctx.product productId with
  | some product => if product.unitOfMeasure = "" then "EA" else product.unitOfMeasure
  | none => "EA"

/-- The unit that a transaction is sent in. -/
def transactionUom (params : TransactionParams) : String :=
  (params.uom.filter (· ≠ "")).getD (ctx.uomOf params.productId)

/-- The quantity in the unit of the product, as it is when it cannot be converted; none is no
finite number. -/
def effectiveQuantity (params : TransactionParams) : Option Decimal :=
  let productUom := ctx.uomOf params.productId
  let transactionUom := ctx.transactionUom params
  if transactionUom = productUom then some params.quantity
  else
    match ctx.convertUom transactionUom productUom (Decimal.toDouble |params.quantity|)
        (some params.productId) with
    | some converted => converted.map fun q => if 0 < params.quantity then q else -q
    | none => some params.quantity

end FactoryContext

namespace FactoryDb

variable (ctx : FactoryContext) (db : FactoryDb)

def transactionEntry (params : TransactionParams) (quantity : Decimal) (locationId : Id)
    (entryType : LedgerEntryType) : EntryParams where
  key := ctx.key params.productId locationId
  entryType := entryType
  quantity := |quantity|
  referenceType := params.referenceType
  referenceId := params.referenceId

/-- A type that the map does not know writes no entry. -/
def recordTransaction (params : TransactionParams) (quantity : Decimal) (locationId : Id) :
    Except ManufacturingError FactoryDb :=
  match ledgerTypeOf params.transactionType quantity with
  | some entryType => db.recordEntry (transactionEntry ctx params quantity locationId entryType)
  | none => .ok db

def createInventoryTransaction (params : TransactionParams) :
    Except ManufacturingError FactoryDb := do
  let locationId ← found (params.locationId.or ctx.location) .noLocationForTransaction
  let quantity ← found (ctx.effectiveQuantity params) .refused
  let db ← db.recordTransaction ctx params quantity locationId
  throwWhen ((params.userId.getD ctx.tenantId) ∉ ctx.userIds) .refused
  let transactionType ← found (TransactionType.ofText params.transactionType) .refused
  db.logTransaction
    (fun quantity =>
      { productId := params.productId
        locationId := locationId
        transactionType := transactionType
        quantity := quantity
        toLocationId := params.toLocationId
        referenceType := params.referenceType
        referenceId := params.referenceId })
    quantity

def adjustmentEntry (params : AdjustmentParams) (locationId : Id) : EntryParams where
  key := ctx.key params.productId locationId
  entryType := .ledgerAdjustment
  quantity := |params.quantity|

def adjustInventory (params : AdjustmentParams) : Except ManufacturingError FactoryDb := do
  let locationId ← found ctx.location .noActiveLocation
  let db ← db.recordEntry (adjustmentEntry ctx params locationId)
  ctx.signedByTenant
  db.logTransaction
    (fun quantity =>
      { productId := params.productId
        locationId := locationId
        transactionType := if 0 ≤ params.quantity then .adjustmentIn else .adjustmentOut
        quantity := quantity })
    params.quantity

/-- One side of a transfer. -/
def transferEntry (params : TransferParams) (locationId : Id) (entryType : LedgerEntryType) :
    EntryParams where
  key := ctx.key params.productId locationId
  entryType := entryType
  quantity := params.quantity

def transferRow (params : TransferParams) (locationId : Id) (quantity : Qty) :
    InventoryTransaction where
  productId := params.productId
  locationId := locationId
  transactionType := .transfer
  quantity := quantity
  toLocationId := some params.toLocation

def transferInventory (params : TransferParams) : Except ManufacturingError FactoryDb := do
  let db ← db.recordEntry (transferEntry ctx params params.fromLocation .ledgerTransferOut)
  let db ← db.recordEntry (transferEntry ctx params params.toLocation .ledgerTransferIn)
  ctx.signedByTenant
  let db ← db.logTransaction (transferRow params params.fromLocation) (-params.quantity)
  db.logTransaction (transferRow params params.toLocation) params.quantity

end FactoryDb

end Forecast.Manufacturing
