import Forecast.Costing.CostTables

/-!
# Average costs and cost layers

An item costed by average has one row with its quantity, value and unit cost; an item
costed by layers is depleted layer by layer, each at its own unit cost.
-/

open KeyedTable Transactions

namespace Forecast.Costing

open Inventory (Qty StockKey)

/-! ### Average costs -/

namespace Books

variable (books : Books)

def findItemCost (key : StockKey) : Option ItemCost := lookup ItemCost.key books.itemCosts key

def getMovingAverageCost (key : StockKey) : Decimal :=
  match books.findItemCost key with
  | some row => row.currentUnitCost.value
  | none => 0

def writeItemCost (row : ItemCost) : Books :=
  { books with itemCosts := upsert ItemCost.key books.itemCosts row }

/-- The first row of an item. -/
def createItemCost (key : StockKey) (incomingQty incomingUnitCost : Decimal) :
    Except CostingError ItemCost := do
  let unitCost := if 0 < incomingQty then incomingUnitCost else 0
  let currentUnitCost ← columnOf unitCost
  let currentTotalQty ← columnOf incomingQty
  let currentTotalValue ← columnOf (Decimal.times |incomingQty| incomingUnitCost)
  let lastReceiptCost ← columnOf unitCost
  pure
    { id := books.itemCosts.length
      key := key
      currentUnitCost := currentUnitCost
      currentTotalQty := currentTotalQty
      currentTotalValue := currentTotalValue
      lastReceiptCost := lastReceiptCost }

end Books

/-- A row after a quantity came in; one that goes out is negative. -/
def ItemCost.averaged (row : ItemCost) (incomingQty incomingUnitCost : Decimal) :
    Except CostingError ItemCost := do
  let incomingValue := incomingQty.times incomingUnitCost
  let newQty := Decimal.plus row.currentTotalQty.value incomingQty
  let newValue := Decimal.plus row.currentTotalValue.value incomingValue
  let newUnitCost := if 0 < newQty then newValue.dividedBy newQty else row.currentUnitCost.value
  let currentUnitCost ← columnOf newUnitCost
  let currentTotalQty ← columnOf newQty
  let currentTotalValue ← columnOf newValue
  let lastReceiptCost ← columnOf (if 0 < incomingQty then incomingUnitCost else row.lastReceiptCost.value)
  pure
    { row with
      currentUnitCost := currentUnitCost
      currentTotalQty := currentTotalQty
      currentTotalValue := currentTotalValue
      lastReceiptCost := lastReceiptCost }

/-- A row whose value was adjusted; stock that is gone has no unit cost. -/
def ItemCost.adjusted (row : ItemCost) (valueAdjustment : Decimal) :
    Except CostingError ItemCost := do
  let qty := row.currentTotalQty.value
  let newValue := Decimal.plus row.currentTotalValue.value valueAdjustment
  let currentUnitCost ← columnOf (if 0 < qty then newValue.dividedBy qty else 0)
  let currentTotalValue ← columnOf newValue
  pure { row with currentUnitCost := currentUnitCost, currentTotalValue := currentTotalValue }

def ItemCost.revalued (row : ItemCost) (newCost newTotalValue : Decimal) :
    Except CostingError ItemCost := do
  let currentUnitCost ← columnOf newCost
  let currentTotalValue ← columnOf newTotalValue
  pure { row with currentUnitCost := currentUnitCost, currentTotalValue := currentTotalValue }

namespace Books

variable (books : Books)

/-- The row of an item, or its first, after a quantity came in. -/
def averagedItemCost (key : StockKey) (incomingQty incomingUnitCost : Decimal) :
    Except CostingError ItemCost :=
  match books.findItemCost key with
  | none => books.createItemCost key incomingQty incomingUnitCost
  | some row => row.averaged incomingQty incomingUnitCost

def updateMovingAverage (key : StockKey) (incomingQty incomingUnitCost : Decimal) :
    Except CostingError Books := do
  let row ← books.averagedItemCost key incomingQty incomingUnitCost
  pure (books.writeItemCost row)

/-- Without a row there is nothing to adjust. -/
def adjustMovingAverageValue (key : StockKey) (valueAdjustment : Decimal) :
    Except CostingError Books :=
  match books.findItemCost key with
  | none => .ok books
  | some row => do
      let row ← row.adjusted valueAdjustment
      pure (books.writeItemCost row)

def updateLastIssueCost (key : StockKey) (unitCost : Decimal) : Except CostingError Books :=
  match books.findItemCost key with
  | none => .ok books
  | some row => do
      let lastIssueCost ← columnOf unitCost
      pure (books.writeItemCost { row with lastIssueCost := some lastIssueCost })

end Books

/-! ### Cost layers -/

structure LayerParams where
  key : StockKey
  batchId : Option Id
  costingMethod : CostingMethod
  layerDate : Millis
  referenceType : String
  referenceId : Id
  referenceNumber : Option Id := none
  qty : Decimal
  unitCost : Decimal
  totalCost : Decimal
  fiscalPeriodId : Option Id

def LayerParams.layer (params : LayerParams) (id : Id) : Except CostingError CostLayer := do
  let qty ← columnOf params.qty
  let unitCost ← columnOf params.unitCost
  let totalCost ← columnOf params.totalCost
  pure
    { id := id
      key := params.key
      batchId := params.batchId
      costingMethod := params.costingMethod
      layerDate := params.layerDate
      referenceType := params.referenceType
      referenceId := params.referenceId
      referenceNumber := params.referenceNumber
      originalQty := qty
      remainingQty := qty
      unitCost := unitCost
      totalCost := totalCost
      fiscalPeriodId := params.fiscalPeriodId }

def CostLayer.addLandedCost (layer : CostLayer) (amount : Decimal) :
    Except CostingError CostLayer := do
  let landedCost ← columnOf (layer.landedCost.value + amount)
  let totalCost ← columnOf (layer.totalCost.value + amount)
  pure { layer with landedCost := landedCost, totalCost := totalCost }

/-- The layers a depletion reads, in the order in which it takes from them. -/
def openLayers (layers : List CostLayer) (method : CostingMethod) (key : StockKey) :
    List CostLayer :=
  let matching := layers.filter fun l => l.key = key ∧ l.status = .opened ∧ 0 < l.remainingQty.value
  if method = .fifo then
    matching.insertionSort fun a b =>
      a.layerDate < b.layerDate ∨ a.layerDate = b.layerDate ∧ a.id ≤ b.id
  else
    matching.insertionSort fun a b =>
      b.layerDate < a.layerDate ∨ b.layerDate = a.layerDate ∧ b.id ≤ a.id

structure DepletionReference where
  referenceType : String
  referenceId : Id

/-- The depletion on its way through the layers. -/
structure DepletionState where
  books : Books
  remaining : Decimal
  totalCost : Decimal

def DepletionState.start (books : Books) (quantity : Decimal) : DepletionState := ⟨books, quantity, 0⟩

def CostLayer.left (layer : CostLayer) (remainingQty : Qty) (newRemaining : Decimal) : CostLayer :=
  { layer with
    remainingQty := remainingQty
    status := if newRemaining ≤ 0 then .depleted else .opened }

def DepletionReference.depletion (reference : DepletionReference) (layer : CostLayer)
    (depletedQty totalCost : Qty) : CostLayerDepletion where
  costLayerId := layer.id
  depletedQty := depletedQty
  unitCost := layer.unitCost
  totalCost := totalCost
  referenceType := reference.referenceType
  referenceId := reference.referenceId

def depleteLayer (reference : DepletionReference) (s : DepletionState) (layer : CostLayer) :
    Except CostingError DepletionState :=
  if s.remaining ≤ 0 then .ok s
  else do
    let layerQty := layer.remainingQty.value
    let depleteQty := min s.remaining layerQty
    let depletionCost := depleteQty.times layer.unitCost.value
    let newRemaining := Decimal.minus layerQty depleteQty
    let remainingQty ← columnOf newRemaining
    let depletedQty ← columnOf depleteQty
    let totalCost ← columnOf depletionCost
    pure
      { books :=
          { s.books with
            costLayers :=
              upsert CostLayer.id s.books.costLayers (layer.left remainingQty newRemaining)
            depletions := s.books.depletions ++ [reference.depletion layer depletedQty totalCost] }
        remaining := s.remaining.minus depleteQty
        totalCost := s.totalCost.plus depletionCost }

namespace Books

variable (books : Books)

def addLayer (params : LayerParams) : Except CostingError Books := do
  let layer ← params.layer books.costLayers.length
  pure { books with costLayers := books.costLayers ++ [layer] }

def depleteCostLayers (key : StockKey) (quantity : Decimal) (method : CostingMethod)
    (reference : DepletionReference) : Except CostingError (Books × Decimal) := do
  let s ← forEach (depleteLayer reference) (.start books quantity)
    (openLayers books.costLayers method key)
  throwWhen (0 < s.remaining) (.insufficientLayers method quantity (quantity.minus s.remaining))
  pure (s.books, s.totalCost)

def landOnLayer (costLayerId : Option Id) (key : StockKey) (amount : Decimal) :
    Except CostingError Books :=
  match costLayerId with
  | none => .ok books
  | some id => do
      let layer ← found ((lookup CostLayer.id books.costLayers id).filter fun l => l.key = key)
        (.invalidCostLayer id key.productId key.locationId)
      let layer ← layer.addLandedCost amount
      pure { books with costLayers := upsert CostLayer.id books.costLayers layer }

end Books

end Forecast.Costing
