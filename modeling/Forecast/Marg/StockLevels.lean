import Forecast.Marg.StockScopes

/-!
# Inventory levels from staged stock

`transformStockToInventoryLevels` sums the live rows of each pid, adds up the pids
of each scope and writes one level for it. Afterwards the levels of scopes that
have staged rows but no live one are set to zero.
-/

open JsText KeyedTable Grouping

namespace Forecast

inductive StockProjectionMode
  | stock
  | opening
  | computed
deriving DecidableEq

def InventoryLevel.scope (l : InventoryLevel) : Scope := (l.productId, l.locationId)

/-- The inputs of a level, summed over the pids of its scope. -/
structure LevelInputs where
  scope : Scope
  sumStock : ℚ
  sumOpening : ℚ
  costValueSum : ℚ
  costQtySum : ℚ

namespace LevelInputs

def totalQty (mode : StockProjectionMode) (movements : Scope → ℚ) (i : LevelInputs) : ℚ :=
  match mode with
  | .stock => i.sumStock
  | .opening => i.sumOpening
  | .computed => i.sumOpening + movements i.scope

def averageCost (i : LevelInputs) : Option ℚ :=
  if 0 < i.costQtySum then some (i.costValueSum / i.costQtySum) else none

def level (mode : StockProjectionMode) (movements : Scope → ℚ) (i : LevelInputs) :
    InventoryLevel where
  productId := i.scope.1
  locationId := i.scope.2
  onHandQty := i.totalQty mode movements
  availableQty := i.totalQty mode movements
  averageCost := i.averageCost
  inventoryValue := i.averageCost.map fun cost => i.totalQty mode movements * cost

end LevelInputs

def zeroLevel (scope : Scope) : InventoryLevel where
  productId := scope.1
  locationId := scope.2
  onHandQty := 0
  availableQty := 0
  averageCost := none
  inventoryValue := some 0

namespace MargStock

def stockQty (s : MargStock) : ℚ := s.stock.getD 0

def openingQty (s : MargStock) : ℚ := s.opening.getD 0

/-- `stock > 0 AND p_rate > 0` -/
def isCosted (s : MargStock) : Bool := 0 < s.stockQty && 0 < s.pRate.getD 0

def costValue (s : MargStock) : ℚ := s.stockQty * s.pRate.getD 0

end MargStock

namespace StagedStock

variable (m : LinkedMasters) (stock : StagedStock)

def activeScopes : List Scope := firstOfEach id ((pidsOf stock.live).filterMap m.scopeOf)

/-- A measure of the rows, first summed for each pid of the scope. -/
def pidSum (rows : List MargStock) (f : MargStock → ℚ) (scope : Scope) : ℚ :=
  (((pidsOf rows).filter fun key => m.scopeOf key = some scope).map
    (matchedSum (fun key s => decide (s.stockPid = key)) f rows)).sum

def levelInputs : List LevelInputs :=
  (stock.activeScopes m).map fun scope =>
    { scope := scope
      sumStock := pidSum m stock.live MargStock.stockQty scope
      sumOpening := pidSum m stock.live MargStock.openingQty scope
      costValueSum := pidSum m (stock.live.filter MargStock.isCosted) MargStock.costValue scope
      costQtySum := pidSum m (stock.live.filter MargStock.isCosted) MargStock.stockQty scope }

/-- `zeroOutMissingMargInventoryLevels` -/
def zeroOutMissing (levels : List InventoryLevel) : List InventoryLevel :=
  upsertAll InventoryLevel.scope levels
    (((stock.scopes m).filter fun scope => scope ∉ stock.activeScopes m).map zeroLevel)

def transformStockToInventoryLevels (mode : StockProjectionMode) (movements : Scope → ℚ)
    (levels : List InventoryLevel) : List InventoryLevel :=
  stock.zeroOutMissing m
    (upsertAll InventoryLevel.scope levels
      ((stock.levelInputs m).map (LevelInputs.level mode movements)))

variable {m stock}

theorem mem_activeScopes {scope : Scope} :
    scope ∈ stock.activeScopes m ↔ ∃ s, s ∈ stock.liveIn m scope := by
  rw [activeScopes, mem_firstOfEach_id, List.mem_filterMap]
  constructor
  · rintro ⟨key, hkey, hscope⟩
    obtain ⟨s, hs, rfl⟩ := mem_pidsOf.1 hkey
    exact ⟨s, List.mem_filter.2 ⟨hs, decide_eq_true hscope⟩⟩
  · rintro ⟨s, hs⟩
    obtain ⟨hlive, hscope⟩ := List.mem_filter.1 hs
    exact ⟨s.stockPid, mem_pidsOf.2 ⟨s, hlive, rfl⟩, of_decide_eq_true hscope⟩

theorem nodup_activeScopes : (stock.activeScopes m).Nodup :=
  nodup_firstOfEach_id ((pidsOf stock.live).filterMap m.scopeOf)

/-- A row of an active scope is found in the levels as it was computed. -/
theorem lastWith_levels (mode : StockProjectionMode) (movements : Scope → ℚ) {scope : Scope}
    (hactive : scope ∈ stock.activeScopes m) :
    ∃ i ∈ stock.levelInputs m, i.scope = scope ∧
      lastWith InventoryLevel.scope ((stock.levelInputs m).map (LevelInputs.level mode movements))
        scope = some (i.level mode movements) := by
  have hscopes : ((stock.levelInputs m).map (LevelInputs.level mode movements)).map
      InventoryLevel.scope = stock.activeScopes m := by
    rw [levelInputs, List.map_map, List.map_map]
    exact List.map_id _
  have hunique : (((stock.levelInputs m).map (LevelInputs.level mode movements)).map
      InventoryLevel.scope).Nodup := hscopes ▸ nodup_activeScopes
  obtain ⟨i, hi, hscope⟩ : ∃ i ∈ stock.levelInputs m, i.scope = scope := by
    unfold levelInputs
    exact ⟨_, List.mem_map_of_mem hactive, rfl⟩
  refine ⟨i, hi, hscope, ?_⟩
  have hfound := lastWith_of_mem hunique (List.mem_map_of_mem hi)
  rw [← hscope]
  exact hfound

theorem lookup_transformStockToInventoryLevels (mode : StockProjectionMode) (movements : Scope → ℚ)
    (levels : List InventoryLevel) {scope : Scope} (hscope : scope ∈ stock.scopes m) :
    (∃ i ∈ stock.levelInputs m, i.scope = scope ∧
      lookup InventoryLevel.scope
        (stock.transformStockToInventoryLevels m mode movements levels) scope =
          some (i.level mode movements)) ∨
    (scope ∉ stock.activeScopes m ∧
      lookup InventoryLevel.scope
        (stock.transformStockToInventoryLevels m mode movements levels) scope =
          some (zeroLevel scope)) := by
  rw [transformStockToInventoryLevels, zeroOutMissing, lookup_upsertAll]
  by_cases hactive : scope ∈ stock.activeScopes m
  · obtain ⟨i, hi, hiscope, hfound⟩ := lastWith_levels mode movements hactive
    have hnone : lastWith InventoryLevel.scope
        (((stock.scopes m).filter fun s => s ∉ stock.activeScopes m).map zeroLevel) scope = none := by
      rw [lastWith_eq_none, List.map_map]
      intro hmem
      obtain ⟨s, hs, rfl⟩ := List.mem_map.1 hmem
      exact of_decide_eq_true (List.mem_filter.1 hs).2 hactive
    refine Or.inl ⟨i, hi, hiscope, ?_⟩
    rw [hnone, lookup_upsertAll, hfound]
    rfl
  · refine Or.inr ⟨hactive, ?_⟩
    cases hfound : lastWith InventoryLevel.scope
        (((stock.scopes m).filter fun s => s ∉ stock.activeScopes m).map zeroLevel) scope with
    | some found =>
      obtain ⟨hmem, hkey⟩ := lastWith_eq_some hfound
      obtain ⟨s, -, rfl⟩ := List.mem_map.1 hmem
      obtain rfl : s = scope := hkey
      rfl
    | none =>
      rw [lastWith_eq_none, List.map_map] at hfound
      refine absurd ?_ hfound
      exact List.mem_map.2 ⟨scope, List.mem_filter.2 ⟨hscope, decide_eq_true hactive⟩, rfl⟩

def modeQty (m : LinkedMasters) (stock : StagedStock) (mode : StockProjectionMode)
    (movements : Scope → ℚ) (scope : Scope) : ℚ :=
  match mode with
  | .stock => ((stock.liveIn m scope).map MargStock.stockQty).sum
  | .opening => ((stock.liveIn m scope).map MargStock.openingQty).sum
  | .computed => ((stock.liveIn m scope).map MargStock.openingQty).sum + movements scope

theorem totalQty_levelInputs {mode : StockProjectionMode} {movements : Scope → ℚ} {i : LevelInputs}
    (hi : i ∈ stock.levelInputs m) :
    i.totalQty mode movements = stock.modeQty m mode movements i.scope := by
  obtain ⟨scope, -, rfl⟩ := List.mem_map.1 hi
  cases mode with
  | stock => exact sum_pids_eq_sum_rows MargStock.stockQty stock.live scope
  | opening => exact sum_pids_eq_sum_rows MargStock.openingQty stock.live scope
  | computed =>
    exact congrArg (· + movements scope)
      (sum_pids_eq_sum_rows MargStock.openingQty stock.live scope)

/-- The level of a scope with staged rows is the quantity of its live rows, or zero without any. -/
theorem onHandQty_transformStockToInventoryLevels {mode : StockProjectionMode}
    {movements : Scope → ℚ} {levels : List InventoryLevel} {scope : Scope}
    (hscope : scope ∈ stock.scopes m) :
    (lookup InventoryLevel.scope
      (stock.transformStockToInventoryLevels m mode movements levels) scope).map
        InventoryLevel.onHandQty =
      some (if scope ∈ stock.activeScopes m then stock.modeQty m mode movements scope else 0) := by
  obtain ⟨i, hi, rfl, hfound⟩ | ⟨hactive, hfound⟩ :=
    lookup_transformStockToInventoryLevels mode movements levels hscope
  · have hactive : i.scope ∈ stock.activeScopes m := by
      obtain ⟨scope, hmem, rfl⟩ := List.mem_map.1 hi
      exact hmem
    rw [hfound, if_pos hactive, ← totalQty_levelInputs hi]
    rfl
  · rw [hfound, if_neg hactive]
    rfl

/-- Without live rows the live rows sum to nothing. -/
theorem liveIn_eq_nil {scope : Scope} (hactive : scope ∉ stock.activeScopes m) :
    stock.liveIn m scope = [] := by
  apply List.eq_nil_iff_forall_not_mem.2
  intro s hs
  exact hactive (mem_activeScopes.2 ⟨s, hs⟩)

end StagedStock

end Forecast
