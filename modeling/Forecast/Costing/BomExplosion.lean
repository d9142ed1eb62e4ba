import Forecast.Costing.CostTables
import Forecast.Lib.AcyclicRelation
import Forecast.Planning.PlanningTables

/-!
# Phantom components of a rollup

Both services roll up the material of a product over its active BOM. A phantom line is
exploded into the BOM of its own product; a set of the products visited so far and a bound on
the depth guard the recursion. The lines of one BOM share one set, and each phantom's own
explosion starts from a copy of it.
-/

open AcyclicRelation DecimalColumn Relation Transactions

namespace Forecast.Costing

open Inventory (Qty)
open Planning (BOMStatus)

inductive CostType where
  | standard
  | actual
  | budget
  | planned
deriving DecidableEq

/-- The place of a cost type in the order of the enumeration. -/
def CostType.rank : CostType → ℕ
  | standard => 0
  | actual => 1
  | budget => 2
  | planned => 3

/-- A row of `product_costings` with its kind of cost. -/
structure TypedCosting extends ProductCosting where
  costType : CostType
deriving DecidableEq

/-- A row of `bom_components`. -/
structure BomLine where
  componentProductId : Id
  quantity : Column 18 6
  scrapPercent : Column 5 2
  isPhantom : Bool
deriving DecidableEq

/-- A row of `bills_of_material` with its components, in the order the query returns them. -/
structure BillWithComponents where
  parentProductId : Id
  status : BOMStatus
  effectiveFrom : Millis
  effectiveTo : Option Millis
  baseQuantity : Qty
  components : List BomLine
deriving DecidableEq

/-- What a rollup reads. The product of a component is there by its foreign key. -/
structure RollupContext where
  now : Millis
  boms : List BillWithComponents
  costings : List TypedCosting := []
  standardCost : Id → Option Qty
  code : Id → String

inductive RollupError where
  | noActiveBom (productId : Id)
  | depthExceeded
  | circular (productId : Id)
deriving DecidableEq

/-- The two services that roll up standard costs. -/
inductive CostService where
  | costing
  | costingEngine
deriving DecidableEq

def RollupError.text (ctx : RollupContext) : CostService → RollupError → String
  | _, noActiveBom productId => "No active BOM found for product " ++ uuidText productId
  | .costing, depthExceeded => "BOM recursion depth exceeded — possible circular reference"
  | .costingEngine, depthExceeded => "BOM recursion depth exceeded — circular reference"
  | .costing, circular productId =>
    "Circular BOM detected: product " ++ ctx.code productId ++
      " appears multiple times in the BOM tree"
  | .costingEngine, circular productId => "Circular BOM: " ++ ctx.code productId

namespace RollupContext

variable (ctx : RollupContext) (date : Millis)

def activeBom (productId : Id) : Option BillWithComponents :=
  ctx.boms.find? fun bom => bom.parentProductId = productId ∧ bom.status = .active ∧
    bom.effectiveFrom ≤ date ∧ ∀ effectiveTo ∈ bom.effectiveTo, date ≤ effectiveTo

variable {ctx date} in
theorem mem_boms_of_activeBom {productId : Id} {bom : BillWithComponents}
    (h : ctx.activeBom date productId = some bom) :
    bom ∈ ctx.boms ∧ bom.parentProductId = productId := by
  have hfound := List.find?_some h
  simp only [decide_eq_true_eq] at hfound
  exact ⟨List.mem_of_find?_eq_some h, hfound.1⟩

def inForce (productId : Id) : List TypedCosting :=
  ctx.costings.filter fun c => c.productId = productId ∧ c.effectiveFrom ≤ date ∧
    ∀ effectiveTo ∈ c.effectiveTo, date ≤ effectiveTo

def getEffectiveCostInTx (productId : Id) : Decimal :=
  let sorted := (ctx.inForce date productId).insertionSort fun c d =>
    c.costType.rank < d.costType.rank ∨
      (c.costType = d.costType ∧ d.effectiveFrom ≤ c.effectiveFrom)
  match sorted.head? with
  | some costing => costing.totalCost.value
  | none => ((ctx.standardCost productId).getD .zero).value

def getStandardCost (productId : Id) : Decimal :=
  let sorted := ((ctx.inForce ctx.now productId).filter (·.costType = .standard)).insertionSort
    fun c d => d.effectiveFrom ≤ c.effectiveFrom
  match sorted.head? with
  | some costing => costing.totalCost.value
  | none => ((ctx.standardCost productId).getD .zero).value

/-- The unit cost that a service takes for a line that is not a phantom. -/
def leafCost : CostService → Id → Decimal
  | .costing => ctx.getEffectiveCostInTx date
  | .costingEngine => ctx.getStandardCost

end RollupContext

namespace BomLine

def extendedQty (line : BomLine) : Decimal :=
  Decimal.times line.quantity.value
    (Decimal.plus 1 (Decimal.dividedBy line.scrapPercent.value 100))

end BomLine

/-! ### The explosion -/

section Explosion

variable (bomOf : Id → Option BillWithComponents) (costOf : Id → Decimal)

/-- The loop over the lines of one BOM; `explode` is the call for the BOM of a phantom. -/
def explodeLines (explode : List Id → List BomLine → Except RollupError Decimal) :
    List Id → Decimal → List BomLine → Except RollupError Decimal
  | _, total, [] => .ok total
  | visited, total, line :: rest =>
    if line.isPhantom then
      if line.componentProductId ∈ visited then .error (.circular line.componentProductId)
      else
        match bomOf line.componentProductId with
        | none => explodeLines explode (line.componentProductId :: visited) total rest
        | some childBom =>
          match explode (line.componentProductId :: visited) childBom.components with
          | .error e => .error e
          | .ok childCost =>
            explodeLines explode (line.componentProductId :: visited)
              (total.plus (line.extendedQty.times childCost)) rest
    else
      explodeLines explode visited
        (total.plus (line.extendedQty.times (costOf line.componentProductId))) rest

/-- `recursiveMaterialCost`; of the depths up to 20 there are `levels` left, so that no level
is left where the depth exceeds 20. -/
def materialCost : ℕ → List Id → List BomLine → Except RollupError Decimal
  | 0, _, _ => .error .depthExceeded
  | levels + 1, visited, components =>
    explodeLines bomOf costOf (materialCost levels) visited 0 components

/-- The cost of one unit when a BOM makes `baseQty`. -/
def perUnit (baseQty total : Decimal) : Decimal :=
  if 0 < baseQty then total.dividedBy baseQty else total

def rollUp (productId : Id) : Except RollupError Decimal := do
  let bom ← found (bomOf productId) (.noActiveBom productId)
  let total ← materialCost bomOf costOf 21 [productId] bom.components
  pure (perUnit bom.baseQuantity.value total)

end Explosion

/-- `rollUpStandardCost` of a service, as far as the material goes. -/
def RollupContext.unitMaterial (ctx : RollupContext) (service : CostService) (date : Millis)
    (productId : Id) : Except RollupError Decimal :=
  rollUp (ctx.activeBom date) (ctx.leafCost date service) productId

/-! ### One BOM -/

def phantomsOf (lines : List BomLine) : List Id :=
  (lines.filter (·.isPhantom)).map BomLine.componentProductId

def visitedAfter (visited : List Id) (lines : List BomLine) : List Id :=
  (phantomsOf lines).reverse ++ visited

theorem visitedAfter_cons_phantom {line : BomLine} (hline : line.isPhantom = true)
    (visited : List Id) (lines : List BomLine) :
    visitedAfter visited (line :: lines) =
      visitedAfter (line.componentProductId :: visited) lines := by
  simp [visitedAfter, phantomsOf, hline]

theorem visitedAfter_cons_leaf {line : BomLine} (hline : line.isPhantom = false)
    (visited : List Id) (lines : List BomLine) :
    visitedAfter visited (line :: lines) = visitedAfter visited lines := by
  simp [visitedAfter, phantomsOf, hline]

/-- Every phantom line names a product not visited before it, and the BOM of that product
satisfies `P` with what has been visited then. -/
def EveryPhantom (bomOf : Id → Option BillWithComponents)
    (P : List Id → BomLine → BillWithComponents → Prop) (visited : List Id)
    (lines : List BomLine) : Prop :=
  ∀ before line after, lines = before ++ line :: after → line.isPhantom = true →
    line.componentProductId ∉ visitedAfter visited before ∧
      ∀ bom, bomOf line.componentProductId = some bom →
        P (line.componentProductId :: visitedAfter visited before) line bom

section EveryPhantom

variable {bomOf : Id → Option BillWithComponents}
variable {P Q : List Id → BomLine → BillWithComponents → Prop}
variable {visited : List Id} {line : BomLine} {lines : List BomLine}

theorem everyPhantom_nil : EveryPhantom bomOf P visited [] := by
  intro before line after hsplit
  simp at hsplit

theorem everyPhantom_cons_leaf (hline : line.isPhantom = false) :
    EveryPhantom bomOf P visited (line :: lines) ↔ EveryPhantom bomOf P visited lines := by
  constructor
  · intro h before other after hsplit hother
    have hall := h (line :: before) other after (by rw [hsplit, List.cons_append]) hother
    rwa [visitedAfter_cons_leaf hline] at hall
  · intro h before other after hsplit hother
    cases before with
    | nil =>
      rw [List.nil_append, List.cons.injEq] at hsplit
      rw [← hsplit.1, hline] at hother
      cases hother
    | cons first before =>
      rw [List.cons_append, List.cons.injEq] at hsplit
      obtain ⟨rfl, hsplit⟩ := hsplit
      rw [visitedAfter_cons_leaf hline]
      exact h before other after hsplit hother

theorem everyPhantom_cons_phantom (hline : line.isPhantom = true) :
    EveryPhantom bomOf P visited (line :: lines) ↔
      (line.componentProductId ∉ visited ∧
        ∀ bom, bomOf line.componentProductId = some bom →
          P (line.componentProductId :: visited) line bom) ∧
      EveryPhantom bomOf P (line.componentProductId :: visited) lines := by
  constructor
  · intro h
    constructor
    · exact h [] line lines rfl hline
    · intro before other after hsplit hother
      have hall := h (line :: before) other after (by rw [hsplit, List.cons_append]) hother
      rwa [visitedAfter_cons_phantom hline] at hall
  · rintro ⟨hfirst, h⟩ before other after hsplit hother
    cases before with
    | nil =>
      rw [List.nil_append, List.cons.injEq] at hsplit
      obtain ⟨rfl, -⟩ := hsplit
      exact hfirst
    | cons first before =>
      rw [List.cons_append, List.cons.injEq] at hsplit
      obtain ⟨rfl, hsplit⟩ := hsplit
      rw [visitedAfter_cons_phantom hline]
      exact h before other after hsplit hother

end EveryPhantom

section Lines

variable {bomOf : Id → Option BillWithComponents} {costOf : Id → Decimal}
variable {explode : List Id → List BomLine → Except RollupError Decimal}

/-- The unit cost of a line, `u` being that of a phantom; one without a BOM has none. -/
def lineCost (bomOf : Id → Option BillWithComponents) (costOf u : Id → Decimal)
    (line : BomLine) : Option Decimal :=
  if line.isPhantom then (bomOf line.componentProductId).map fun _ => u line.componentProductId
  else some (costOf line.componentProductId)

def totalFrom (bomOf : Id → Option BillWithComponents) (costOf u : Id → Decimal)
    (total : Decimal) (lines : List BomLine) : Decimal :=
  lines.foldl (fun sum line => match lineCost bomOf costOf u line with
    | some cost => sum.plus (line.extendedQty.times cost)
    | none => sum) total

/-- The loop returns exactly when the call for every phantom does. -/
theorem exists_explodeLines_eq_ok_iff {visited : List Id} (total : Decimal)
    {lines : List BomLine} :
    (∃ r, explodeLines bomOf costOf explode visited total lines = .ok r) ↔
      EveryPhantom bomOf (fun v _ bom => ∃ c, explode v bom.components = .ok c) visited lines := by
  induction lines generalizing visited total with
  | nil => exact iff_of_true ⟨total, rfl⟩ everyPhantom_nil
  | cons line rest ih =>
    cases hline : line.isPhantom with
    | false =>
      rw [everyPhantom_cons_leaf hline,
        ← ih (total.plus (line.extendedQty.times (costOf line.componentProductId)))]
      simp only [explodeLines, hline, Bool.false_eq_true, if_false]
    | true =>
      rw [everyPhantom_cons_phantom hline]
      by_cases hmem : line.componentProductId ∈ visited
      · simp only [explodeLines, hline, if_true, hmem, not_true_eq_false, false_and,
          reduceCtorEq, exists_false]
      cases hbom : bomOf line.componentProductId with
      | none =>
        rw [← ih total]
        simp [explodeLines, hline, hmem, hbom]
      | some childBom =>
        cases hcall : explode (line.componentProductId :: visited) childBom.components with
        | error e => simp [explodeLines, hline, hmem, hbom, hcall]
        | ok childCost =>
          rw [← ih (total.plus (line.extendedQty.times childCost))]
          simp [explodeLines, hline, hmem, hbom, hcall]

/-- Where the calls return `u`, the loop returns the total of the lines at these costs. -/
theorem explodeLines_eq_totalFrom {u : Id → Decimal} {visited : List Id} (total : Decimal)
    {lines : List BomLine}
    (h : EveryPhantom bomOf
      (fun v line bom => explode v bom.components = .ok (u line.componentProductId))
      visited lines) :
    explodeLines bomOf costOf explode visited total lines =
      .ok (totalFrom bomOf costOf u total lines) := by
  induction lines generalizing visited total with
  | nil => rfl
  | cons line rest ih =>
    cases hline : line.isPhantom with
    | false =>
      have hrest := ih (total.plus (line.extendedQty.times
        (costOf line.componentProductId))) ((everyPhantom_cons_leaf hline).1 h)
      simp only [explodeLines, hline, Bool.false_eq_true, if_false, hrest]
      simp only [totalFrom, List.foldl_cons, lineCost, hline, Bool.false_eq_true, if_false]
    | true =>
      obtain ⟨⟨hfresh, hchild⟩, hlines⟩ := (everyPhantom_cons_phantom hline).1 h
      cases hbom : bomOf line.componentProductId with
      | none =>
        have hrest := ih total hlines
        simp only [explodeLines, hline, if_true, if_neg hfresh, hbom, hrest]
        simp only [totalFrom, List.foldl_cons, lineCost, hline, if_true, hbom, Option.map_none]
      | some childBom =>
        have hrest := ih (total.plus (line.extendedQty.times
          (u line.componentProductId))) hlines
        have hcall := hchild childBom hbom
        simp only [explodeLines, hline, if_true, if_neg hfresh, hbom, hcall, hrest]
        simp only [totalFrom, List.foldl_cons, lineCost, hline, if_true, hbom, Option.map_some]

end Lines

end Forecast.Costing
