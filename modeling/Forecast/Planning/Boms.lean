import Forecast.Planning.PlanningTables

/-!
# Bills of material

A bill is created as a draft and edited whatever its status; its components are
checked against its product only when it is created.
-/

open KeyedTable DecimalColumn Transactions

namespace Forecast.Planning

/-- A component of a new bill; none for what the request leaves out. -/
structure ComponentParams where
  componentProductId : Id
  quantity : Decimal
  scrapPercent : Option Decimal := none
deriving DecidableEq

structure CreateBOMParams where
  parentProductId : Id
  version : Option String := none
  baseQuantity : Option Decimal := none
  components : Option (List ComponentParams) := none
deriving DecidableEq

structure ApiComponentParams where
  componentProductId : Id
  quantityPer : Option Decimal := none
  quantity : Option Decimal := none
  wastagePercent : Option Decimal := none
  scrapPercent : Option Decimal := none
deriving DecidableEq

def ApiComponentParams.toParams (c : ApiComponentParams) : ComponentParams where
  componentProductId := c.componentProductId
  quantity := (c.quantityPer.or c.quantity).getD 1
  scrapPercent := c.wastagePercent.or c.scrapPercent

structure CreateBOMFromApiParams where
  productId : Option Id := none
  parentProductId : Option Id := none
  revision : Option String := none
  version : Option String := none
  baseQuantity : Option Decimal := none
  components : Option (List ApiComponentParams) := none
deriving DecidableEq

structure UpdateBOMParams where
  revision : Option String := none
  version : Option String := none
  status : Option BOMStatus := none
  baseQuantity : Option Decimal := none
deriving DecidableEq

structure AddComponentParams where
  componentProductId : Id
  quantity : Option Decimal := none
  scrapPercent : Option Decimal := none
deriving DecidableEq

structure UpdateComponentParams where
  componentProductId : Option Id := none
  quantity : Option Decimal := none
  scrapPercent : Option Decimal := none
  wastagePercent : Option Decimal := none
deriving DecidableEq

structure CopyBOMParams where
  targetProductId : Option Id := none
  newRevision : Option String := none
  copyComponents : Option Bool := none
deriving DecidableEq

/-- A number that is given and not zero. -/
def nonzero (q : Option Decimal) : Option Decimal := q.filter (· ≠ 0)

namespace PlanningDb

variable (db : PlanningDb)

/-- The rows of new components of a bill. -/
def newComponents (bomId : Id) (components : List ComponentParams) :
    Except PlanningError (List BOMComponent) :=
  components.zipIdx.mapM fun c => do
    let quantity ← columnOf c.1.quantity
    let scrapPercent ← columnOf ((nonzero c.1.scrapPercent).getD 0)
    pure ⟨freshId (db.bomComponents.map BOMComponent.id) + c.2, bomId, c.1.componentProductId,
      quantity, scrapPercent⟩

def checkComponents (parentProductId : Id) (components : List ComponentParams) :
    Except PlanningError Unit := do
  let componentIds := components.map ComponentParams.componentProductId
  throwWhen (parentProductId ∈ componentIds) .componentOfItself
  throwWhen ((db.products.filter (· ∈ componentIds)).length ≠ componentIds.length)
    .componentsNotFound

def createBOM (dto : CreateBOMParams) : Except PlanningError PlanningDb := do
  throwWhen (dto.parentProductId ∉ db.products) (.productWithIdNotFound dto.parentProductId)
  let version := (given dto.version).getD "1.0"
  throwWhen (db.hasVersion dto.parentProductId version) (.versionExists version)
  let components := dto.components.getD []
  if components ≠ [] then db.checkComponents dto.parentProductId components
  let id := freshId (db.boms.map BillOfMaterial.id)
  let baseQuantity ← columnOf ((nonzero dto.baseQuantity).getD 1)
  let rows ← db.newComponents id components
  pure
    { db with
      boms := db.boms ++ [⟨id, dto.parentProductId, version, .draft, baseQuantity⟩]
      bomComponents := db.bomComponents ++ rows }

def createBOMFromApi (dto : CreateBOMFromApiParams) : Except PlanningError PlanningDb := do
  let productId ← found (dto.productId.or dto.parentProductId) .productIdRequired
  throwWhen (productId ∉ db.products) .productNotFound
  db.createBOM
    { parentProductId := productId
      version := (given dto.revision).or dto.version
      baseQuantity := dto.baseQuantity
      components := dto.components.map (List.map ApiComponentParams.toParams) }

def writeBOM (bom : BillOfMaterial) : PlanningDb :=
  { db with boms := upsert BillOfMaterial.id db.boms bom }

/-- The status of the request is written as it is. -/
def updateBOM (bomId : Id) (dto : UpdateBOMParams) : Except PlanningError PlanningDb := do
  let bom ← db.bom bomId
  let version := ((given dto.version).or (given dto.revision)).getD bom.version
  throwWhen (version ≠ bom.version ∧ db.hasVersion bom.parentProductId version) .refused
  let baseQuantity ← columnOf ((nonzero dto.baseQuantity).getD bom.baseQuantity.value)
  pure (db.writeBOM
    { bom with
      version := version
      status := dto.status.getD bom.status
      baseQuantity := baseQuantity })

def deleteBOM (bomId : Id) : Except PlanningError PlanningDb := do
  let bom ← db.bom bomId
  pure
    { db with
      boms := db.boms.filter fun b => b.id ≠ bom.id
      bomComponents := db.bomComponents.filter fun c => c.bomId ≠ bom.id }

def addBOMComponent (bomId : Id) (dto : AddComponentParams) : Except PlanningError PlanningDb := do
  let bom ← db.bom bomId
  throwWhen (dto.componentProductId ∉ db.products) .componentProductNotFound
  let amount ← found dto.quantity .refused
  let quantity ← columnOf amount
  let scrapPercent ← columnOf (dto.scrapPercent.getD 0)
  let row := ⟨freshId (db.bomComponents.map BOMComponent.id), bom.id, dto.componentProductId,
    quantity, scrapPercent⟩
  pure { db with bomComponents := db.bomComponents ++ [row] }

def updateBOMComponent (componentId : Id) (dto : UpdateComponentParams) :
    Except PlanningError PlanningDb := do
  let component ← found (lookup BOMComponent.id db.bomComponents componentId) .bomComponentNotFound
  let componentProductId := dto.componentProductId.getD component.componentProductId
  throwWhen (dto.componentProductId.isSome ∧ componentProductId ∉ db.products) .refused
  let quantity ← columnOf (dto.quantity.getD component.quantity.value)
  let scrapPercent ←
    columnOf ((dto.wastagePercent.or dto.scrapPercent).getD component.scrapPercent.value)
  pure
    { db with
      bomComponents := upsert BOMComponent.id db.bomComponents
        ⟨component.id, component.bomId, componentProductId, quantity, scrapPercent⟩ }

def deleteBOMComponent (componentId : Id) : Except PlanningError PlanningDb := do
  let component ← found (lookup BOMComponent.id db.bomComponents componentId) .bomComponentNotFound
  pure { db with bomComponents := db.bomComponents.filter fun c => c.id ≠ component.id }

/-- `DRAFT → PENDING_APPROVAL → ACTIVE → OBSOLETE`, and the two shortcuts. -/
def validTransitions : BOMStatus → List BOMStatus
  | .draft => [.pendingApproval, .active]
  | .pendingApproval => [.active, .draft]
  | .active => [.obsolete]
  | .obsolete => []

def updateBOMStatus (id : Id) (status : BOMStatus) : Except PlanningError PlanningDb := do
  let bom ← db.bom id
  throwWhen (status ∉ validTransitions bom.status) (.invalidTransition bom.status status)
  pure (db.writeBOM { bom with status := status })

def copyBOM (bomId : Id) (dto : CopyBOMParams) : Except PlanningError PlanningDb := do
  let source ← db.bom bomId
  let parentProductId := dto.targetProductId.getD source.parentProductId
  throwWhen (parentProductId ∉ db.products) .refused
  let version := (given dto.newRevision).getD (source.version ++ "-COPY")
  throwWhen (db.hasVersion parentProductId version) .refused
  let id := freshId (db.boms.map BillOfMaterial.id)
  let copied := if dto.copyComponents = some false then [] else db.componentsOf bomId
  let rows := copied.zipIdx.map fun c =>
    { c.1 with id := freshId (db.bomComponents.map BOMComponent.id) + c.2, bomId := id }
  pure
    { db with
      boms := db.boms ++ [⟨id, parentProductId, version, .draft, source.baseQuantity⟩]
      bomComponents := db.bomComponents ++ rows }

end PlanningDb

end Forecast.Planning
