import Forecast.Planning.PlanningTables

/-!
# Exploded bills of material

An explosion lists the components of a bill and of the active bills of its components, down to
some level, and does not open a product twice. The components of the first bill are those of its
response, where the quantity of a component is called `quantityPer`.
-/

open KeyedTable DecimalColumn Transactions

namespace Forecast.ExplodedBoms

open Inventory (Qty)
open Planning (BOMStatus)

inductive SupplyType where
  | stock
  | directPurchase
  | subcontract
  | transfer
deriving DecidableEq

structure Product where
  id : Id
  code : String
  name : String
  standardCost : Option Decimal
  unitOfMeasure : String
deriving DecidableEq

/-- A row of `bom_components`. -/
structure BomComponent where
  id : Id
  componentProductId : Id
  sequence : ℕ
  quantity : Column 18 6
  uom : String
  scrapPercent : Column 5 2
  isPhantom : Bool
  supplyType : SupplyType
deriving DecidableEq

/-- A bill with its components in their sequence. -/
structure BillOfMaterial where
  id : Id
  parentProductId : Id
  status : BOMStatus
  baseQuantity : Qty
  components : List BomComponent
deriving DecidableEq

/-- The products and bills of one tenant. The product of a component is there by its foreign
key. -/
structure BomTables where
  products : List Product
  boms : List BillOfMaterial
  hasProduct : ∀ bom ∈ boms, ∀ c ∈ bom.components,
    c.componentProductId ∈ products.map Product.id

/-- A number of JavaScript; none is `NaN`. -/
abbrev Number := Option Decimal

def times (a b : Number) : Number := Option.map₂ (· * ·) a b

def plus (a b : Number) : Number := Option.map₂ (· + ·) a b

structure BomComponentResponse where
  id : Id
  bomId : Id
  componentProductId : Id
  componentProduct : Option Product
  quantityPer : Decimal
  uom : String
  isPhantom : Bool
  position : ℕ
  wastagePercent : Decimal
deriving DecidableEq

structure BomResponse where
  id : Id
  productId : Id
  product : Option Product
  status : BOMStatus
  components : List BomComponentResponse
deriving DecidableEq

/-- What the explosion reads of a component, of whatever type; a property that is not there has
no value. -/
structure AnyComponent where
  componentProductId : Id
  componentProduct : Option Product
  quantity : Number
  uom : String
  supplyType : Option SupplyType

/-- A response has neither a `quantity` nor a `supplyType`. -/
def BomComponentResponse.read (c : BomComponentResponse) : AnyComponent where
  componentProductId := c.componentProductId
  componentProduct := c.componentProduct
  quantity := none
  uom := c.uom
  supplyType := none

structure ExplodedComponent where
  level : ℕ
  productId : Id
  productCode : String
  productName : String
  quantity : Number
  extendedQuantity : Number
  uom : String
  supplyType : Option SupplyType
  /-- None when the product has no standard cost. -/
  totalCost : Option Number
deriving DecidableEq

/-- What the recursion fills. -/
structure Explosion where
  exploded : List ExplodedComponent := []
  visited : List Id := []
deriving DecidableEq

structure ExplodedBom where
  bom : BomResponse
  components : List ExplodedComponent
  totalLevels : ℕ
  totalComponents : ℕ
  uniqueComponents : ℕ
  totalCost : Decimal
deriving DecidableEq

inductive BomError where
  | bomNotFound (id : Id)
deriving DecidableEq

def BomError.text (shown : Id → String) : BomError → String
  | bomNotFound id => "BOM with ID " ++ shown id ++ " not found"

def explodedComponent (level : ℕ) (parentQty : Number) (comp : AnyComponent) (product : Product) :
    ExplodedComponent :=
  let extendedQty := times comp.quantity parentQty
  { level
    productId := comp.componentProductId
    productCode := product.code
    productName := product.name
    quantity := comp.quantity
    extendedQuantity := extendedQty
    uom := if comp.uom = "" then product.unitOfMeasure else comp.uom
    supplyType := comp.supplyType
    totalCost := product.standardCost.map fun cost => times (some cost) extendedQty }

namespace BomTables

variable (tables : BomTables)

def mapBOMComponentResponse (bom : BillOfMaterial) (c : BomComponent) : BomComponentResponse where
  id := c.id
  bomId := bom.id
  componentProductId := c.componentProductId
  componentProduct := lookup Product.id tables.products c.componentProductId
  quantityPer := c.quantity.value
  uom := c.uom
  isPhantom := c.isPhantom
  position := c.sequence
  wastagePercent := c.scrapPercent.value

def mapBOMResponse (bom : BillOfMaterial) : BomResponse where
  id := bom.id
  productId := bom.parentProductId
  product := lookup Product.id tables.products bom.parentProductId
  status := bom.status
  components := bom.components.map (tables.mapBOMComponentResponse bom)

def getBOM (bomId : Id) : Except BomError BomResponse := do
  let bom ← found (lookup BillOfMaterial.id tables.boms bomId) (.bomNotFound bomId)
  return tables.mapBOMResponse bom

def activeBom (productId : Id) : Option BillOfMaterial :=
  tables.boms.find? fun bom => bom.parentProductId = productId ∧ bom.status = .active

def enriched (productId : Id) : List AnyComponent :=
  (((tables.activeBom productId).map BillOfMaterial.components).getD []).map fun c =>
    { componentProductId := c.componentProductId
      componentProduct := lookup Product.id tables.products c.componentProductId
      quantity := some c.quantity.value
      uom := c.uom
      supplyType := some c.supplyType }

/-- The first argument is the number of levels up to `maxLevels`. -/
def explode : ℕ → ℕ → Number → List AnyComponent → Explosion → Explosion
  | 0, _, _, _, st => st
  | levels + 1, level, parentQty, components, st =>
    components.foldl (fun st comp =>
      match comp.componentProduct with
      | none => st
      | some product =>
        let entry := explodedComponent level parentQty comp product
        let exploded := st.exploded ++ [entry]
        if comp.componentProductId ∈ st.visited then { st with exploded }
        else
          explode levels (level + 1) entry.extendedQuantity
            (tables.enriched comp.componentProductId)
            { exploded, visited := st.visited ++ [comp.componentProductId] }) st

def explodeBOM (bomId : Id) (maxLevels : ℕ) : Except BomError ExplodedBom := do
  let bom ← tables.getBOM bomId
  let components := bom.components.map BomComponentResponse.read
  let exploded := (tables.explode maxLevels 1 (some 1) components {}).exploded
  return {
    bom
    components := exploded
    totalLevels := (exploded.map ExplodedComponent.level).foldr max 0
    totalComponents := exploded.length
    uniqueComponents := (exploded.map ExplodedComponent.productId).dedup.length
    totalCost := (exploded.map fun c => c.totalCost.join.getD 0).sum }

end BomTables

/-- The extended quantities of a product, summed over its occurrences. -/
def ExplodedBom.extendedQuantity (result : ExplodedBom) (productId : Id) : Number :=
  ((result.components.filter fun c => c.productId = productId).map
    ExplodedComponent.extendedQuantity).foldr plus (some 0)

/-! ### What is needed of each product -/

namespace BomTables

variable (tables : BomTables)

/-- Every path from a bill, with the product that it ends at and the units of it that are needed:
along each line the quantity for one unit of the bill's own product. -/
def paths : ℕ → Decimal → BillOfMaterial → List (Id × Decimal)
  | 0, _, _ => []
  | levels + 1, units, bom => bom.components.flatMap fun c =>
    let required := units * (c.quantity.value / bom.baseQuantity.value)
    (c.componentProductId, required) ::
      (tables.activeBom c.componentProductId).elim [] (paths levels required)

def requiredQuantity (levels : ℕ) (bom : BillOfMaterial) (productId : Id) : Decimal :=
  (((tables.paths levels 1 bom).filter fun path => path.1 = productId).map Prod.snd).sum

/-- A product that is not made of others. -/
def IsLeaf (productId : Id) : Prop := tables.enriched productId = []

instance (productId : Id) : Decidable (tables.IsLeaf productId) :=
  match h : tables.enriched productId with
  | [] => isTrue h
  | _ :: _ => isFalse fun hleaf => by rw [IsLeaf, h] at hleaf; cases hleaf

def standardCost (productId : Id) : Decimal :=
  ((lookup Product.id tables.products productId).bind Product.standardCost).getD 0

def purchasedCost (levels : ℕ) (bom : BillOfMaterial) : Decimal :=
  (((tables.paths levels 1 bom).filter fun path => tables.IsLeaf path.1).map
    fun path => tables.standardCost path.1 * path.2).sum

/-- No path has more than that many lines, so none comes back to a product either. -/
def DepthWithin : ℕ → BillOfMaterial → Prop
  | 0, bom => bom.components = []
  | levels + 1, bom => ∀ c ∈ bom.components, ∀ child ∈ tables.activeBom c.componentProductId,
      DepthWithin levels child

/-- The explosion says what is needed of each product, and what its purchased leaves cost. -/
structure ExplodesInto (levels : ℕ) (bom : BillOfMaterial) (result : ExplodedBom) : Prop where
  quantities : ∀ productId,
    result.extendedQuantity productId = some (tables.requiredQuantity levels bom productId)
  cost : result.totalCost = tables.purchasedCost levels bom

variable {tables}

/-- What the recursion adds comes after what was there. -/
theorem prefix_explode (levels level : ℕ) (parentQty : Number) (components : List AnyComponent)
    (st : Explosion) :
    st.exploded <+: (tables.explode levels level parentQty components st).exploded := by
  induction levels generalizing level parentQty components st with
  | zero => exact List.prefix_rfl
  | succ levels ih =>
    rw [explode]
    induction components generalizing st with
    | nil => exact List.prefix_rfl
    | cons comp components ihcomponents =>
      rw [List.foldl_cons]
      refine List.IsPrefix.trans ?_ (ihcomponents _)
      cases comp.componentProduct with
      | none => exact List.prefix_rfl
      | some product =>
        dsimp only
        split_ifs
        · exact List.prefix_append _ _
        · exact (List.prefix_append _ _).trans
            (ih _ _ _ ⟨st.exploded ++ [explodedComponent level parentQty comp product],
              st.visited ++ [comp.componentProductId]⟩)

theorem explode_nan (levels level : ℕ) {parentQty : Number} {components : List AnyComponent}
    (hcomponents : ∀ c ∈ components, times c.quantity parentQty = none) {st : Explosion}
    (h : ∀ e ∈ st.exploded, e.extendedQuantity = none) :
    ∀ e ∈ (tables.explode levels level parentQty components st).exploded,
      e.extendedQuantity = none := by
  induction levels generalizing level parentQty components st with
  | zero => exact h
  | succ levels ih =>
    rw [explode]
    induction components generalizing st with
    | nil => exact h
    | cons comp components ihcomponents =>
      have hcomp := hcomponents comp List.mem_cons_self
      rw [List.foldl_cons]
      refine ihcomponents (fun c hc => hcomponents c (List.mem_cons_of_mem comp hc)) ?_
      cases comp.componentProduct with
      | none => exact h
      | some product =>
        have hentries : ∀ e ∈ st.exploded ++ [explodedComponent level parentQty comp product],
            e.extendedQuantity = none := by
          intro e he
          rcases List.mem_append.1 he with he | he
          · exact h e he
          · rw [List.mem_singleton.1 he]
            exact hcomp
        dsimp only
        split_ifs
        · exact hentries
        · refine ih _ (fun c _ => ?_) hentries
          have hparent : (explodedComponent level parentQty comp product).extendedQuantity = none :=
            hcomp
          rw [hparent, times, Option.map₂_none_right]

theorem explode_cons (levels level : ℕ) (parentQty : Number) (comp : AnyComponent)
    (components : List AnyComponent) (st : Explosion) :
    tables.explode (levels + 1) level parentQty (comp :: components) st =
      tables.explode (levels + 1) level parentQty components
        (tables.explode (levels + 1) level parentQty [comp] st) := by
  rw [explode, explode, explode, List.foldl_cons, List.foldl_cons, List.foldl_nil]

theorem exploded_ne_nil {levels level : ℕ} {parentQty : Number} {comp : AnyComponent}
    {components : List AnyComponent} {product : Product}
    (hproduct : comp.componentProduct = some product) :
    (tables.explode (levels + 1) level parentQty (comp :: components) {}).exploded ≠ [] := by
  have hfirst : [explodedComponent level parentQty comp product] <+:
      (tables.explode (levels + 1) level parentQty [comp] {}).exploded := by
    rw [explode, List.foldl_cons, List.foldl_nil, hproduct]
    dsimp only
    rw [if_neg List.not_mem_nil]
    exact prefix_explode _ _ _ _
      ⟨[explodedComponent level parentQty comp product], [comp.componentProductId]⟩
  rw [explode_cons]
  exact List.ne_nil_of_mem ((hfirst.trans (prefix_explode _ _ _ _ _)).subset
    List.mem_cons_self)

theorem explodeBOM_eq {bom : BillOfMaterial} (hbom : lookup BillOfMaterial.id tables.boms bom.id =
    some bom) (maxLevels : ℕ) :
    ∃ result, tables.explodeBOM bom.id maxLevels = .ok result ∧
      result.components = (tables.explode maxLevels 1 (some 1)
        (bom.components.map fun c => (tables.mapBOMComponentResponse bom c).read) {}).exploded ∧
      result.totalCost = (result.components.map fun c => c.totalCost.join.getD 0).sum := by
  have hget : tables.getBOM bom.id = .ok (tables.mapBOMResponse bom) := by
    rw [getBOM, hbom]
    rfl
  refine ⟨_, by rw [explodeBOM, hget]; rfl, ?_, rfl⟩
  rw [mapBOMResponse]
  dsimp only
  rw [List.map_map]
  rfl

theorem extendedQuantity_eq_none {bom : BillOfMaterial} {maxLevels : ℕ} {e : ExplodedComponent}
    (he : e ∈ (tables.explode maxLevels 1 (some 1)
      (bom.components.map fun c => (tables.mapBOMComponentResponse bom c).read) {}).exploded) :
    e.extendedQuantity = none := by
  refine explode_nan maxLevels 1 (fun c hc => ?_) (fun e he => absurd he List.not_mem_nil) e he
  obtain ⟨row, -, rfl⟩ := List.mem_map.1 hc
  rfl

theorem foldr_plus_eq_none {quantities : List Number} (h : none ∈ quantities) :
    quantities.foldr plus (some 0) = none := by
  induction quantities with
  | nil => cases h
  | cons q quantities ih =>
    rw [List.foldr_cons]
    rcases List.mem_cons.1 h with rfl | h
    · exact Option.map₂_none_left _ _
    · rw [ih h, plus, Option.map₂_none_right]

/-- The explosion says what is needed exactly when the bill has no components. -/
theorem explodesInto_iff (tables : BomTables) {bom : BillOfMaterial} {maxLevels : ℕ}
    (hbom : lookup BillOfMaterial.id tables.boms bom.id = some bom)
    (hdepth : tables.DepthWithin maxLevels bom) :
    (∃ result, tables.explodeBOM bom.id maxLevels = .ok result ∧
      tables.ExplodesInto maxLevels bom result) ↔ bom.components = [] := by
  obtain ⟨result, hresult, hcomponents, hcost⟩ := explodeBOM_eq hbom maxLevels
  constructor
  · rintro ⟨result', hresult', hexplodes⟩
    obtain rfl : result = result' := Except.ok.inj (hresult.symm.trans hresult')
    cases hlines : bom.components with
    | nil => rfl
    | cons c components =>
      cases maxLevels with
      | zero => exact absurd hdepth (by rw [DepthWithin, hlines]; exact List.cons_ne_nil _ _)
      | succ levels =>
        have hmem : c ∈ bom.components := hlines ▸ List.mem_cons_self
        have hproduct := tables.hasProduct bom (lookup_eq_some hbom).1 c hmem
        cases hfound : lookup Product.id tables.products c.componentProductId with
        | none => exact absurd hproduct (lookup_eq_none.1 hfound)
        | some product =>
          have hsome : result.components ≠ [] := by
            rw [hcomponents, hlines]
            exact exploded_ne_nil hfound
          obtain ⟨e, he⟩ := List.exists_mem_of_ne_nil _ hsome
          have hnan : e.extendedQuantity = none := extendedQuantity_eq_none (hcomponents ▸ he)
          have hsum : result.extendedQuantity e.productId = none := by
            refine foldr_plus_eq_none ?_
            rw [← hnan]
            exact List.mem_map_of_mem (List.mem_filter.2 ⟨he, decide_eq_true rfl⟩)
          have hquantity := hexplodes.quantities e.productId
          rw [hsum] at hquantity
          cases hquantity
  · intro hlines
    have hnone : result.components = [] := by
      rw [hcomponents, hlines]
      cases maxLevels <;> rfl
    have hpaths : tables.paths maxLevels 1 bom = [] := by
      cases maxLevels with
      | zero => rfl
      | succ levels => rw [paths, hlines, List.flatMap_nil]
    refine ⟨result, hresult, fun productId => ?_, ?_⟩
    · rw [ExplodedBom.extendedQuantity, hnone, requiredQuantity, hpaths]
      rfl
    · rw [hcost, hnone, purchasedCost, hpaths]
      rfl

def billOf (id : Id) (components : List BomComponent) : BillOfMaterial :=
  ⟨id, 1, .active, (Column.store 1).getD .zero, components⟩

/-- A kit of two screws. -/
def kit : BillOfMaterial :=
  billOf 1 [⟨1, 2, 10, (Column.store 2).getD .zero, "EA", .zero, false, .stock⟩]

def kitProducts : List Product :=
  [⟨1, "KIT", "Kit", none, "EA"⟩, ⟨2, "SCREW", "Screw", some (1 / 2), "EA"⟩]

theorem hasProduct_kit : ∀ bom ∈ [kit, billOf 2 []], ∀ c ∈ bom.components,
    c.componentProductId ∈ kitProducts.map Product.id := by decide

def kits : BomTables := ⟨kitProducts, [kit, billOf 2 []], hasProduct_kit⟩

/-- A bill that nothing was added to yet. -/
theorem explodesInto_emptyBill :
    kits.DepthWithin 10 (billOf 2 []) ∧ ∃ result, kits.explodeBOM 2 10 = .ok result ∧
      kits.ExplodesInto 10 (billOf 2 []) result := by
  have hdepth : kits.DepthWithin 10 (billOf 2 []) := fun c hc => absurd hc List.not_mem_nil
  exact ⟨hdepth, (explodesInto_iff kits (by decide +kernel) hdepth).2 rfl⟩

/-- The two screws of a kit are no number of screws. -/
theorem not_explodesInto_kit :
    ¬∃ result, kits.explodeBOM 1 10 = .ok result ∧ kits.ExplodesInto 10 kit result := by
  rintro ⟨result, hresult, h⟩
  have hnan : (kits.explodeBOM 1 10).toOption.map (·.extendedQuantity 2) = some none := by
    decide +kernel
  rw [hresult] at hnan
  have hquantity := h.quantities 2
  have hscrews : result.extendedQuantity 2 = none := Option.some.inj hnan
  rw [hscrews] at hquantity
  cases hquantity

end BomTables

end Forecast.ExplodedBoms
