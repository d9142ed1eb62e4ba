import Forecast.Costing.JournalPostings

/-!
# The running average of an item

The row of an item keeps its quantity and its value: receipts and issues move both, landed
cost and revaluations the value. Each write moves a column by what its scale cuts off.
-/

open KeyedTable DecimalColumn Transactions Runs GridRounding

namespace Forecast.Costing

open Inventory (Qty StockKey StockDb)

/-! ### Columns -/

theorem slack_value_add (c : Qty) (q : ℚ) : slack 4 (c.value + q) = slack 4 q := by
  have h : OnScale 4 (c.value + q) ↔ OnScale 4 q := by
    constructor
    · intro h
      simpa using h.sub c.onScale_value
    · exact c.onScale_value.add
  simp only [slack, h]

theorem times_neg (p q : Decimal) : Decimal.times (-p) q = -p.times q := by
  rw [Decimal.times, neg_mul, toSignificant_neg]
  rfl

/-- A column that a rounded sum was written to. -/
theorem close_of_plus {c c' : Qty} {q : Decimal}
    (h : Column.store (Decimal.plus c.value q) = some c') :
    |c'.value - (c.value + q)| ≤ slack 4 q := by
  rw [← slack_value_add c q]
  exact abs_value_sub_le_slack h

/-! ### Rows -/

/-- The unit cost times the quantity is the value, up to a digit of each column. -/
def ItemCost.UnitAgrees (row : ItemCost) : Prop :=
  0 < row.currentTotalQty.value →
    |row.currentUnitCost.value * row.currentTotalQty.value - row.currentTotalValue.value| ≤
      (row.currentTotalQty.value + |row.currentUnitCost.value| + 2) / 10 ^ 4

instance (row : ItemCost) : Decidable row.UnitAgrees := by
  unfold ItemCost.UnitAgrees
  infer_instance

/-- Three numbers that are each off by a digit of their column. -/
theorem abs_mul_sub_le {u q v u' q' v' : ℚ} (hexact : u * q = v) (hu : |u' - u| ≤ 1 / 10 ^ 4)
    (hq : |q' - q| ≤ 1 / 10 ^ 4 / 2) (hv : |v' - v| ≤ 1 / 10 ^ 4) (hpos : 0 < q') :
    |u' * q' - v'| ≤ (q' + |u'| + 2) / 10 ^ 4 := by
  have hsplit : u' * q' - v' = (u' - u) * q' + (u' * (q' - q) - (u' - u) * (q' - q)) - (v' - v) := by
    rw [← hexact]
    ring
  have h₁ : |(u' - u) * q'| ≤ 1 / 10 ^ 4 * q' := by
    rw [abs_mul, abs_of_pos hpos]
    exact mul_le_mul_of_nonneg_right hu hpos.le
  have h₂ : |u' * (q' - q)| ≤ |u'| * (1 / 10 ^ 4 / 2) := by
    rw [abs_mul]
    exact mul_le_mul_of_nonneg_left hq (abs_nonneg _)
  have h₃ : |(u' - u) * (q' - q)| ≤ 1 / 10 ^ 4 * (1 / 10 ^ 4 / 2) := by
    rw [abs_mul]
    exact mul_le_mul hu hq (abs_nonneg _) (by norm_num)
  have habs := abs_nonneg u'
  rw [hsplit]
  calc |(u' - u) * q' + (u' * (q' - q) - (u' - u) * (q' - q)) - (v' - v)|
      ≤ |(u' - u) * q'| + (|u' * (q' - q)| + |(u' - u) * (q' - q)|) + |v' - v| :=
        (abs_sub _ _).trans (add_le_add ((abs_add_le _ _).trans
          (add_le_add le_rfl (abs_sub _ _))) le_rfl)
    _ ≤ 1 / 10 ^ 4 * q' + (|u'| * (1 / 10 ^ 4 / 2) + 1 / 10 ^ 4 * (1 / 10 ^ 4 / 2)) + 1 / 10 ^ 4 :=
        add_le_add (add_le_add h₁ (add_le_add h₂ h₃)) hv
    _ ≤ (q' + |u'| + 2) / 10 ^ 4 := by
        norm_num
        linarith

/-- A stored positive quantity was positive before. -/
theorem pos_of_store {q : ℚ} {c : Qty} (h : Column.store q = some c) (hc : 0 < c.value) : 0 < q := by
  by_contra hq
  have hunits := Column.store_eq_some.1 h
  have hneg : roundHalfAway (q * 10 ^ 4) ≤ 0 :=
    roundHalfAway_nonpos (mul_nonpos_of_nonpos_of_nonneg (not_lt.1 hq) (by norm_num))
  have hvalue := c.value_mul
  rw [hunits] at hvalue
  have hcast : ((roundHalfAway (q * 10 ^ 4) : ℤ) : ℚ) ≤ 0 := by exact_mod_cast hneg
  have : 0 < c.value * 10 ^ 4 := by positivity
  linarith

theorem unitAgrees_of_dividedBy {u q v : Qty} {newQty newValue : Decimal}
    (hu : Column.store (newValue.dividedBy newQty) = some u) (hq : Column.store newQty = some q)
    (hv : Column.store newValue = some v) (hpos : 0 < q.value) :
    |u.value * q.value - v.value| ≤ (q.value + |u.value| + 2) / 10 ^ 4 := by
  have hnew := pos_of_store hq hpos
  have hunit := (abs_value_sub_le_slack hu).trans (slack_le 4 _)
  have hvalue := Column.abs_value_sub_le hv
  exact abs_mul_sub_le (div_mul_cancel₀ newValue hnew.ne') hunit (Column.abs_value_sub_le hq)
    (by linarith) hpos

theorem unitAgrees_of_times {u q v : Qty} {newQty newCost : Decimal}
    (hu : Column.store newCost = some u) (hq : Column.store newQty = some q)
    (hv : Column.store (newQty.times newCost) = some v) (hpos : 0 < q.value) :
    |u.value * q.value - v.value| ≤ (q.value + |u.value| + 2) / 10 ^ 4 := by
  have hunit := Column.abs_value_sub_le hu
  have hvalue := (abs_value_sub_le_slack hv).trans (slack_le 4 _)
  exact abs_mul_sub_le (mul_comm newCost newQty) (by linarith) (Column.abs_value_sub_le hq)
    hvalue hpos

namespace ItemCost

variable {row row' : ItemCost}

theorem averaged_eq_ok {q c : Decimal} (h : row.averaged q c = .ok row') :
    row'.key = row.key ∧
      |row'.currentTotalQty.value - (row.currentTotalQty.value + q)| ≤ slack 4 q ∧
      |row'.currentTotalValue.value - (row.currentTotalValue.value + q.times c)| ≤
        slack 4 (q.times c) ∧ row'.UnitAgrees := by
  simp only [averaged, bind_eq_ok, pure_eq_ok, columnOf_eq_ok] at h
  obtain ⟨unit, hunit, qty, hqty, value, hvalue, receipt, -, rfl⟩ := h
  refine ⟨rfl, close_of_plus hqty, close_of_plus hvalue, ?_⟩
  intro hpos
  have hnew := pos_of_store hqty hpos
  rw [if_pos hnew] at hunit
  exact unitAgrees_of_dividedBy hunit hqty hvalue hpos

theorem adjusted_eq_ok {amount : Decimal} (h : row.adjusted amount = .ok row') :
    row'.key = row.key ∧ row'.currentTotalQty = row.currentTotalQty ∧
      |row'.currentTotalValue.value - (row.currentTotalValue.value + amount)| ≤ slack 4 amount ∧
      row'.UnitAgrees := by
  simp only [adjusted, bind_eq_ok, pure_eq_ok, columnOf_eq_ok] at h
  obtain ⟨unit, hunit, value, hvalue, rfl⟩ := h
  refine ⟨rfl, rfl, close_of_plus hvalue, ?_⟩
  intro hpos
  rw [if_pos hpos] at hunit
  exact unitAgrees_of_dividedBy hunit (Column.store_value row.currentTotalQty) hvalue hpos

theorem revalued_eq_ok {c : Decimal}
    (h : row.revalued c (Decimal.times row.currentTotalQty.value c) = .ok row') :
    row'.key = row.key ∧ row'.currentTotalQty = row.currentTotalQty ∧
      Column.store (Decimal.times row.currentTotalQty.value c) = some row'.currentTotalValue ∧
      row'.UnitAgrees := by
  simp only [revalued, bind_eq_ok, pure_eq_ok, columnOf_eq_ok] at h
  obtain ⟨unit, hunit, value, hvalue, rfl⟩ := h
  refine ⟨rfl, rfl, hvalue, ?_⟩
  exact unitAgrees_of_times hunit (Column.store_value row.currentTotalQty) hvalue

end ItemCost

theorem Books.createItemCost_eq_ok {books : Books} {key : StockKey} {q c : Decimal}
    {row : ItemCost} (h : books.createItemCost key q c = .ok row) (hfirst : 0 ≤ q ∨ c = 0) :
    row.key = key ∧ |row.currentTotalQty.value - q| ≤ slack 4 q ∧
      |row.currentTotalValue.value - q.times c| ≤ slack 4 (q.times c) ∧ row.UnitAgrees := by
  simp only [createItemCost, bind_eq_ok, pure_eq_ok, columnOf_eq_ok] at h
  obtain ⟨unit, hunit, qty, hqty, value, hvalue, receipt, -, rfl⟩ := h
  have hcost : Decimal.times |q| c = q.times c := by
    rcases hfirst with hq | rfl
    · rw [abs_of_nonneg hq]
    · simp [Decimal.times]
  rw [hcost] at hvalue
  refine ⟨rfl, Column.abs_value_sub_le_slack hqty, Column.abs_value_sub_le_slack hvalue, ?_⟩
  intro hpos
  rw [if_pos (pos_of_store hqty hpos)] at hunit
  exact unitAgrees_of_times hunit hqty hvalue hpos

/-! ### The books at an item -/

namespace Books

def totalQty (books : Books) (key : StockKey) : ℚ :=
  (books.findItemCost key).elim 0 fun row => row.currentTotalQty.value

def totalValue (books : Books) (key : StockKey) : ℚ :=
  (books.findItemCost key).elim 0 fun row => row.currentTotalValue.value

/-- The item's quantity and value moved by `q` and `v`, up to the errors. -/
structure Moved (key : StockKey) (books books' : Books) (q v qErr vErr : ℚ) : Prop where
  qty : |books'.totalQty key - (books.totalQty key + q)| ≤ qErr
  value : |books'.totalValue key - (books.totalValue key + v)| ≤ vErr
  unit : (∀ row ∈ books.findItemCost key, row.UnitAgrees) →
    ∀ row ∈ books'.findItemCost key, row.UnitAgrees
  row : (books.findItemCost key).isSome → (books'.findItemCost key).isSome

variable {key : StockKey} {books books' books'' : Books} {q v qErr vErr q' v' qErr' vErr' : ℚ}

theorem Moved.of_same (h : books'.findItemCost key = books.findItemCost key) :
    Moved key books books' 0 0 0 0 := by
  constructor
  · rw [totalQty, totalQty, h]
    simp
  · rw [totalValue, totalValue, h]
    simp
  · rw [h]
    exact id
  · rw [h]
    exact id

theorem Moved.refl (key : StockKey) (books : Books) : Moved key books books 0 0 0 0 := .of_same rfl

theorem Moved.trans (h : Moved key books books' q v qErr vErr)
    (h' : Moved key books' books'' q' v' qErr' vErr') :
    Moved key books books'' (q + q') (v + v') (qErr + qErr') (vErr + vErr') where
  qty := by
    have hsplit : books''.totalQty key - (books.totalQty key + (q + q')) =
        books'.totalQty key - (books.totalQty key + q) +
          (books''.totalQty key - (books'.totalQty key + q')) := by ring
    rw [hsplit]
    exact (abs_add_le _ _).trans (add_le_add h.qty h'.qty)
  value := by
    have hsplit : books''.totalValue key - (books.totalValue key + (v + v')) =
        books'.totalValue key - (books.totalValue key + v) +
          (books''.totalValue key - (books'.totalValue key + v')) := by ring
    rw [hsplit]
    exact (abs_add_le _ _).trans (add_le_add h.value h'.value)
  unit := fun hunit => h'.unit (h.unit hunit)
  row := fun hrow => h'.row (h.row hrow)

theorem findItemCost_writeItemCost (row : ItemCost) :
    (books.writeItemCost row).findItemCost key =
      if row.key = key then some row else books.findItemCost key :=
  lookup_upsert books.itemCosts row key

theorem moved_writeItemCost_of_ne {row : ItemCost} (h : row.key ≠ key) :
    Moved key books (books.writeItemCost row) 0 0 0 0 := by
  apply Moved.of_same
  rw [findItemCost_writeItemCost, if_neg h]

theorem moved_writeItemCost {row : ItemCost} (hkey : row.key = key) (hunit : row.UnitAgrees)
    (hqty : |row.currentTotalQty.value - (books.totalQty key + q)| ≤ qErr)
    (hvalue : |row.currentTotalValue.value - (books.totalValue key + v)| ≤ vErr) :
    Moved key books (books.writeItemCost row) q v qErr vErr := by
  have hrow : (books.writeItemCost row).findItemCost key = some row := by
    rw [findItemCost_writeItemCost, if_pos hkey]
  constructor
  · rw [totalQty, hrow]
    exact hqty
  · rw [totalValue, hrow]
    exact hvalue
  · intro _ row' hrow'
    rw [hrow] at hrow'
    cases hrow'
    exact hunit
  · rw [hrow]
    exact fun _ => rfl

theorem totalQty_of_some {row : ItemCost} (h : books.findItemCost key = some row) :
    books.totalQty key = row.currentTotalQty.value := by
  rw [totalQty, h]
  rfl

theorem totalValue_of_some {row : ItemCost} (h : books.findItemCost key = some row) :
    books.totalValue key = row.currentTotalValue.value := by
  rw [totalValue, h]
  rfl

theorem key_of_findItemCost {row : ItemCost} (h : books.findItemCost key = some row) :
    row.key = key := (lookup_eq_some h).2

theorem moved_updateMovingAverage {q c : Decimal}
    (h : books.updateMovingAverage key q c = .ok books')
    (hfirst : books.findItemCost key = none → 0 ≤ q ∨ c = 0) :
    Moved key books books' q (q.times c) (slack 4 q) (slack 4 (q.times c)) := by
  simp only [updateMovingAverage, averagedItemCost, bind_eq_ok, pure_eq_ok] at h
  obtain ⟨row', hrow', rfl⟩ := h
  cases hrow : books.findItemCost key with
  | none =>
    rw [hrow] at hrow'
    obtain ⟨hkey, hqty, hvalue, hunit⟩ := createItemCost_eq_ok hrow' (hfirst hrow)
    apply moved_writeItemCost hkey hunit
    · simpa [totalQty, hrow] using hqty
    · simpa [totalValue, hrow] using hvalue
  | some row =>
    rw [hrow] at hrow'
    obtain ⟨hkey, hqty, hvalue, hunit⟩ := ItemCost.averaged_eq_ok hrow'
    apply moved_writeItemCost (hkey.trans (key_of_findItemCost hrow)) hunit
    · rwa [totalQty_of_some hrow]
    · rwa [totalValue_of_some hrow]

theorem moved_updateMovingAverage_of_ne {key' : StockKey} {q c : Decimal}
    (h : books.updateMovingAverage key' q c = .ok books') (hne : key' ≠ key) :
    Moved key books books' 0 0 0 0 := by
  simp only [updateMovingAverage, averagedItemCost, bind_eq_ok, pure_eq_ok] at h
  obtain ⟨row', hrow', rfl⟩ := h
  apply moved_writeItemCost_of_ne
  cases hrow : books.findItemCost key' with
  | none =>
    rw [hrow] at hrow'
    simp only [createItemCost, bind_eq_ok, pure_eq_ok] at hrow'
    obtain ⟨-, -, -, -, -, -, -, -, rfl⟩ := hrow'
    exact hne
  | some row =>
    rw [hrow] at hrow'
    obtain ⟨hkey, -⟩ := ItemCost.averaged_eq_ok hrow'
    rw [hkey, key_of_findItemCost hrow]
    exact hne

theorem moved_adjustMovingAverageValue {amount : Decimal}
    (h : books.adjustMovingAverageValue key amount = .ok books')
    (hsome : (books.findItemCost key).isSome) :
    Moved key books books' 0 amount 0 (slack 4 amount) := by
  obtain ⟨row, hrow⟩ := Option.isSome_iff_exists.1 hsome
  simp only [adjustMovingAverageValue, hrow, bind_eq_ok, pure_eq_ok] at h
  obtain ⟨row', hrow', rfl⟩ := h
  obtain ⟨hkey, hqty, hvalue, hunit⟩ := ItemCost.adjusted_eq_ok hrow'
  apply moved_writeItemCost (hkey.trans (key_of_findItemCost hrow)) hunit
  · rw [totalQty_of_some hrow, hqty]
    simp
  · rwa [totalValue_of_some hrow]

theorem moved_adjustMovingAverageValue_of_ne {key' : StockKey} {amount : Decimal}
    (h : books.adjustMovingAverageValue key' amount = .ok books') (hne : key' ≠ key) :
    Moved key books books' 0 0 0 0 := by
  unfold adjustMovingAverageValue at h
  cases hrow : books.findItemCost key' with
  | none =>
    rw [hrow] at h
    cases h
    exact Moved.refl key books
  | some row =>
    simp only [hrow, bind_eq_ok, pure_eq_ok] at h
    obtain ⟨row', hrow', rfl⟩ := h
    apply moved_writeItemCost_of_ne
    rw [(ItemCost.adjusted_eq_ok hrow').1, key_of_findItemCost hrow]
    exact hne

theorem moved_updateLastIssueCost {key' : StockKey} {unitCost : Decimal}
    (h : books.updateLastIssueCost key' unitCost = .ok books') : Moved key books books' 0 0 0 0 := by
  unfold updateLastIssueCost at h
  cases hrow : books.findItemCost key' with
  | none =>
    rw [hrow] at h
    cases h
    exact Moved.refl key books
  | some row =>
    simp only [hrow, bind_eq_ok, pure_eq_ok] at h
    obtain ⟨lastIssueCost, -, rfl⟩ := h
    by_cases hkey : key' = key
    · subst hkey
      have hwritten : (books.writeItemCost { row with lastIssueCost := some lastIssueCost }).findItemCost
          key' = some { row with lastIssueCost := some lastIssueCost } := by
        rw [findItemCost_writeItemCost, if_pos (key_of_findItemCost hrow)]
      constructor
      · rw [totalQty_of_some hrow, totalQty_of_some hwritten]
        simp
      · rw [totalValue_of_some hrow, totalValue_of_some hwritten]
        simp
      · intro hunit row' hrow'
        rw [hwritten] at hrow'
        cases hrow'
        exact hunit row hrow
      · rw [hwritten]
        exact fun _ => rfl
    · apply moved_writeItemCost_of_ne
      rw [key_of_findItemCost hrow]
      exact hkey

end Books

/-! ### Books that are only layered -/

theorem Books.moved_addLayer {key : StockKey} {books books' : Books} {params : LayerParams}
    (h : books.addLayer params = .ok books') : Moved key books books' 0 0 0 0 := by
  simp only [Books.addLayer, bind_eq_ok, pure_eq_ok] at h
  obtain ⟨layer, -, rfl⟩ := h
  exact Moved.of_same rfl

theorem Books.moved_landOnLayer {key key' : StockKey} {books books' : Books}
    {costLayerId : Option Id} {amount : Decimal}
    (h : books.landOnLayer costLayerId key' amount = .ok books') :
    Moved key books books' 0 0 0 0 := by
  unfold Books.landOnLayer at h
  cases costLayerId with
  | none =>
    cases h
    exact Moved.refl key books
  | some id =>
    simp only [bind_eq_ok, pure_eq_ok] at h
    obtain ⟨-, -, layer, -, rfl⟩ := h
    exact Moved.of_same rfl

theorem depleteLayer_itemCosts {reference : DepletionReference} {s s' : DepletionState}
    {l : CostLayer} (h : depleteLayer reference s l = .ok s') :
    s'.books.itemCosts = s.books.itemCosts := by
  unfold depleteLayer at h
  by_cases hrest : s.remaining ≤ 0
  · rw [if_pos hrest] at h
    cases h
    rfl
  · rw [if_neg hrest] at h
    simp only [bind_eq_ok, pure_eq_ok] at h
    obtain ⟨-, -, -, -, -, -, rfl⟩ := h
    rfl

theorem Books.moved_depleteCostLayers {key key' : StockKey} {books : Books} {quantity : Decimal}
    {method : CostingMethod} {reference : DepletionReference} {depleted : Books × Decimal}
    (h : books.depleteCostLayers key' quantity method reference = .ok depleted) :
    Moved key books depleted.1 0 0 0 0 := by
  simp only [Books.depleteCostLayers, bind_eq_ok, pure_eq_ok] at h
  obtain ⟨s, hs, -, -, rfl⟩ := h
  have hitems := forEach_invariant (I := fun s => s.books.itemCosts = books.itemCosts)
    (fun _ _ _ _ hs hstep => (depleteLayer_itemCosts hstep).trans hs) hs rfl
  apply Moved.of_same
  rw [Books.findItemCost, hitems]
  rfl

/-! ### The operations -/

def CostResult.cost : CostResult → Decimal
  | alreadyProcessed => 0
  | costed totalCost => totalCost
  | revalued revaluationAmount => revaluationAmount
  | completed fgCost _ _ => fgCost

namespace CostOp

variable (key : StockKey)

/-- The quantity that a first-time operation brings to the item. -/
def qtyMove (result : CostResult) (op : CostOp) : ℚ :=
  if result = .alreadyProcessed then 0
  else match op with
    | receipt params => if params.key = key then params.quantity else 0
    | issue params => if params.key = key then -params.quantity else 0
    | scrap params => if params.key = key then -params.quantity else 0
    | completion params => if params.key = key then params.completedQty else 0
    | landedCost _ | labor _ | overhead _ | revaluation _ => 0

def landedAmounts (lines : List LandedCostLine) : List ℚ :=
  (lines.filter fun line => line.key = key).map LandedCostLine.amount

/-- The value that it brings. -/
def valueMove (result : CostResult) (op : CostOp) : ℚ :=
  if result = .alreadyProcessed then 0
  else match op with
    | receipt params => if params.key = key then result.cost else 0
    | landedCost params => (landedAmounts key params.allocations).sum
    | issue params => if params.key = key then -result.cost else 0
    | scrap params => if params.key = key then -result.cost else 0
    | completion params => if params.key = key then result.cost else 0
    | revaluation params => if params.key = key then result.cost else 0
    | labor _ | overhead _ => 0

/-- What the column of the value cuts off, at each write of the operation. -/
def valueSlack (books : Books) (result : CostResult) (op : CostOp) : ℚ :=
  if result = .alreadyProcessed then 0
  else match op with
    | landedCost params => ((landedAmounts key params.allocations).map (slack 4)).sum
    | revaluation params =>
      if params.key = key then slack 4 (Decimal.times (books.totalQty key) params.newUnitCost)
      else 0
    | _ => slack 4 (op.valueMove key result)

end CostOp

theorem slack_zero : slack 4 0 = 0 := slack_eq_zero OnScale.zero

section Operations

variable {ctx : CostingContext} {key : StockKey} {books books' : Books}

theorem ReceiptCostParams.moved {params : ReceiptCostParams} {baseCurrency : String}
    (h : params.enterBooks ctx baseCurrency books = .ok books') (hkey : params.key = key)
    (hmethod : ctx.resolveMethod key = .movingAverage)
    (hfirst : books.findItemCost key = none → 0 ≤ params.quantity) :
    Books.Moved key books books' params.quantity (params.totalCost baseCurrency)
      (slack 4 params.quantity) (slack 4 (params.totalCost baseCurrency)) := by
  subst hkey
  simp only [ReceiptCostParams.enterBooks, hmethod] at h
  exact Books.moved_updateMovingAverage h fun hnone => Or.inl (hfirst hnone)

theorem ReceiptCostParams.moved_of_ne {params : ReceiptCostParams} {baseCurrency : String}
    (h : params.enterBooks ctx baseCurrency books = .ok books') (hkey : params.key ≠ key) :
    Books.Moved key books books' 0 0 0 0 := by
  unfold ReceiptCostParams.enterBooks at h
  cases hmethod : ctx.resolveMethod params.key <;> rw [hmethod] at h
  · exact Books.moved_updateMovingAverage_of_ne h hkey
  · exact Books.moved_updateMovingAverage_of_ne h hkey
  · exact Books.moved_addLayer h
  · exact Books.moved_addLayer h
  · cases h
    exact Books.Moved.refl key books

theorem CompletionParams.moved {params : CompletionParams} {wipPerUnit : Decimal}
    (h : params.enterBooks ctx books wipPerUnit = .ok books') (hkey : params.key = key)
    (hmethod : ctx.resolveMethod key = .movingAverage)
    (hfirst : books.findItemCost key = none → 0 ≤ params.completedQty) :
    Books.Moved key books books' params.completedQty (params.completedQty.times wipPerUnit)
      (slack 4 params.completedQty) (slack 4 (params.completedQty.times wipPerUnit)) := by
  subst hkey
  simp only [CompletionParams.enterBooks, hmethod] at h
  exact Books.moved_updateMovingAverage h fun hnone => Or.inl (hfirst hnone)

theorem CompletionParams.moved_of_ne {params : CompletionParams} {wipPerUnit : Decimal}
    (h : params.enterBooks ctx books wipPerUnit = .ok books') (hkey : params.key ≠ key) :
    Books.Moved key books books' 0 0 0 0 := by
  unfold CompletionParams.enterBooks at h
  cases hmethod : ctx.resolveMethod params.key <;> rw [hmethod] at h
  · exact Books.moved_updateMovingAverage_of_ne h hkey
  · exact Books.moved_updateMovingAverage_of_ne h hkey
  · exact Books.moved_addLayer h
  · exact Books.moved_addLayer h
  · exact Books.moved_updateMovingAverage_of_ne h hkey

theorem IssueCostParams.moved {params : IssueCostParams} {issued : Books × Decimal}
    (h : params.leaveBooks ctx books = .ok issued) (hkey : params.key = key)
    (hmethod : ctx.resolveMethod key = .movingAverage) :
    Books.Moved key books issued.1 (-params.quantity) (-issued.2) (slack 4 (-params.quantity))
      (slack 4 (-issued.2)) := by
  subst hkey
  simp only [IssueCostParams.leaveBooks, hmethod, bind_eq_ok, pure_eq_ok] at h
  obtain ⟨books', hbooks, rfl⟩ := h
  rw [← times_neg]
  apply Books.moved_updateMovingAverage hbooks
  intro hnone
  right
  rw [Books.getMovingAverageCost, hnone]

theorem IssueCostParams.moved_of_ne {params : IssueCostParams} {issued : Books × Decimal}
    (h : params.leaveBooks ctx books = .ok issued) (hkey : params.key ≠ key) :
    Books.Moved key books issued.1 0 0 0 0 := by
  unfold IssueCostParams.leaveBooks at h
  cases hmethod : ctx.resolveMethod params.key <;> rw [hmethod] at h
  · simp only [bind_eq_ok, pure_eq_ok] at h
    obtain ⟨-, -, rfl⟩ := h
    exact Books.Moved.refl key books
  · simp only [bind_eq_ok, pure_eq_ok] at h
    obtain ⟨books', hbooks, rfl⟩ := h
    exact Books.moved_updateMovingAverage_of_ne hbooks hkey
  · exact Books.moved_depleteCostLayers h
  · exact Books.moved_depleteCostLayers h
  · simp only [bind_eq_ok, pure_eq_ok] at h
    obtain ⟨-, -, rfl⟩ := h
    exact Books.Moved.refl key books

theorem ScrapCostParams.moved_of_ne {params : ScrapCostParams} {scrapped : Books × Decimal}
    (h : params.leaveBooks ctx books = .ok scrapped) :
    Books.Moved key books scrapped.1 0 0 0 0 := by
  unfold ScrapCostParams.leaveBooks at h
  cases hmethod : ctx.resolveMethod params.key <;> rw [hmethod] at h
  · cases h
    exact Books.Moved.refl key books
  · cases h
    exact Books.Moved.refl key books
  · exact Books.moved_depleteCostLayers h
  · exact Books.moved_depleteCostLayers h
  · cases h
    exact Books.Moved.refl key books

theorem LandedCostLine.moved {line : LandedCostLine}
    (h : line.enterBooks ctx books = .ok books') (hkey : line.key = key)
    (hmethod : ctx.resolveMethod key = .movingAverage) (hsome : (books.findItemCost key).isSome) :
    Books.Moved key books books' 0 line.amount 0 (slack 4 line.amount) := by
  subst hkey
  simp only [LandedCostLine.enterBooks, bind_eq_ok, hmethod, if_true] at h
  obtain ⟨landed, hlanded, h⟩ := h
  have hland : Books.Moved line.key books landed 0 0 0 0 := Books.moved_landOnLayer hlanded
  simpa using hland.trans (Books.moved_adjustMovingAverageValue h (hland.row hsome))

theorem LandedCostLine.moved_of_ne {line : LandedCostLine}
    (h : line.enterBooks ctx books = .ok books') (hkey : line.key ≠ key) :
    Books.Moved key books books' 0 0 0 0 := by
  simp only [LandedCostLine.enterBooks, bind_eq_ok] at h
  obtain ⟨landed, hlanded, h⟩ := h
  have hland : Books.Moved key books landed 0 0 0 0 := Books.moved_landOnLayer hlanded
  by_cases hmethod : ctx.resolveMethod line.key = .movingAverage
  · rw [if_pos hmethod] at h
    simpa using hland.trans (Books.moved_adjustMovingAverageValue_of_ne h hkey)
  · rw [if_neg hmethod] at h
    cases h
    exact hland

theorem moved_allocateLines {params : LandedCostParams} {lines : List LandedCostLine}
    {s s' : LandedState} (h : forEach (allocateLine ctx params) s lines = .ok s')
    (hmethod : ctx.resolveMethod key = .movingAverage)
    (hsome : ∀ line ∈ lines, line.key = key → (s.books.findItemCost key).isSome) :
    Books.Moved key s.books s'.books 0 (CostOp.landedAmounts key lines).sum 0
      ((CostOp.landedAmounts key lines).map (slack 4)).sum := by
  induction lines generalizing s with
  | nil =>
    cases h
    exact Books.Moved.refl key _
  | cons line lines ih =>
    obtain ⟨m, hm, hrun⟩ := forEach_cons_eq_ok.1 h
    simp only [allocateLine, bind_eq_ok, pure_eq_ok] at hm
    obtain ⟨-, -, allocatedAmount, -, books, hentered, rfl⟩ := hm
    by_cases hkey : line.key = key
    · have hrow := hsome line List.mem_cons_self hkey
      have hline := line.moved hentered hkey hmethod hrow
      have hrest := ih hrun fun _ _ _ => hline.row hrow
      have hamounts : CostOp.landedAmounts key (line :: lines) =
          line.amount :: CostOp.landedAmounts key lines := by
        simp [CostOp.landedAmounts, hkey]
      rw [hamounts, List.map_cons, List.sum_cons, List.sum_cons]
      simpa using hline.trans hrest
    · have hline := line.moved_of_ne hentered hkey
      have hrest := ih hrun fun l hl hlkey => hline.row (hsome l (List.mem_cons_of_mem line hl) hlkey)
      have hamounts : CostOp.landedAmounts key (line :: lines) = CostOp.landedAmounts key lines := by
        simp [CostOp.landedAmounts, hkey]
      rw [hamounts]
      simpa using hline.trans hrest

/-- The value of a revalued row is what it was and the reported amount. -/
theorem abs_revalued_sub_le {Q v v' : Qty} {c : Decimal}
    (h : Column.store (Decimal.times Q.value c) = some v') :
    |v'.value - (v.value + (Decimal.times Q.value c).minus v.value)| ≤
      slack 4 (Decimal.times Q.value c) := by
  have hmoved := Column.abs_value_sub_le h
  have hv' := v'.abs_value_mul_lt
  have hv := v.abs_value_mul_lt
  generalize Decimal.times Q.value c = N at h hmoved ⊢
  have htriangle := abs_sub_abs_le_abs_sub N v'.value
  rw [abs_sub_comm] at htriangle
  have hdiff := abs_sub N v.value
  have hlt : |N - v.value| < 10 ^ 15 := by
    norm_num at hv hv' hmoved ⊢
    linarith
  by_cases hN : OnScale 4 N
  · have hscale := hN.sub v.onScale_value
    have hexact : N.minus v.value = N - v.value := by
      apply hscale.toSignificant_eq_self
      norm_num [Decimal.precision] at hlt ⊢
      linarith
    rw [slack_eq_zero hN, hexact, Column.value_of_store h hN]
    simp
  · have hrounded : |N.minus v.value - (N - v.value)| ≤ 10 ^ ((15 : ℤ) - 20) / 2 :=
      abs_toSignificant_sub_le (k := 15) hlt
    have hsplit : v'.value - (v.value + N.minus v.value) =
        v'.value - N - (N.minus v.value - (N - v.value)) := by ring
    have hsub := abs_sub (v'.value - N) (N.minus v.value - (N - v.value))
    rw [hsplit, slack, if_neg hN]
    norm_num at hrounded hmoved ⊢
    linarith

theorem RevaluationParams.moved {params : RevaluationParams} {row revalued : ItemCost}
    (hrow : books.findItemCost params.key = some row)
    (h : row.revalued params.newUnitCost
      (Decimal.times row.currentTotalQty.value params.newUnitCost) = .ok revalued)
    (hkey : params.key = key) :
    Books.Moved key books (books.writeItemCost revalued) 0 (params.revalAmount row) 0
      (slack 4 (Decimal.times (books.totalQty key) params.newUnitCost)) := by
  subst hkey
  obtain ⟨hrowKey, hqty, hvalue, hunit⟩ := ItemCost.revalued_eq_ok h
  apply Books.moved_writeItemCost (hrowKey.trans (Books.key_of_findItemCost hrow)) hunit
  · rw [Books.totalQty_of_some hrow, hqty]
    simp
  · rw [Books.totalQty_of_some hrow, Books.totalValue_of_some hrow]
    exact abs_revalued_sub_le hvalue

theorem RevaluationParams.moved_of_ne {params : RevaluationParams} {row revalued : ItemCost}
    (hrow : books.findItemCost params.key = some row)
    (h : row.revalued params.newUnitCost
      (Decimal.times row.currentTotalQty.value params.newUnitCost) = .ok revalued)
    (hkey : params.key ≠ key) :
    Books.Moved key books (books.writeItemCost revalued) 0 0 0 0 := by
  apply Books.moved_writeItemCost_of_ne
  rw [(ItemCost.revalued_eq_ok h).1, Books.key_of_findItemCost hrow]
  exact hkey

end Operations

def CostCall.AveragesSoundly (key : StockKey) (db : CostingDb) (c : CostCall) : Prop :=
  match c.op with
  | .receipt params =>
    params.key = key → db.books.findItemCost key = none → 0 ≤ params.quantity
  | .landedCost params =>
    ∀ line ∈ params.allocations, line.key = key → (db.books.findItemCost key).isSome
  | .completion params =>
    params.key = key → db.books.findItemCost key = none → 0 ≤ params.completedQty
  | .scrap params => params.key ≠ key
  | .issue _ | .labor _ | .overhead _ | .revaluation _ => True

instance (key : StockKey) (db : CostingDb) (c : CostCall) :
    Decidable (c.AveragesSoundly key db) := by
  unfold CostCall.AveragesSoundly
  cases c.op <;> infer_instance

/-- A first-time call moves the item by what it brings. -/
theorem CostCall.moved {key : StockKey} {db db' : CostingDb} {c : CostCall} {result : CostResult}
    (h : c.body db = .ok (db', result)) (hmethod : c.ctx.resolveMethod key = .movingAverage)
    (hsound : c.AveragesSoundly key db) :
    Books.Moved key db.books db'.books (c.op.qtyMove key result) (c.op.valueMove key result)
      (slack 4 (c.op.qtyMove key result)) (c.op.valueSlack key db.books result) := by
  have hrepeated : Repeated db db' result →
      Books.Moved key db.books db'.books (c.op.qtyMove key result) (c.op.valueMove key result)
        (slack 4 (c.op.qtyMove key result)) (c.op.valueSlack key db.books result) := by
    rintro ⟨rfl, rfl⟩
    simpa [CostOp.qtyMove, CostOp.valueMove, CostOp.valueSlack, slack_zero] using
      Books.Moved.refl key db'.books
  obtain ⟨ctx, op⟩ := c
  cases op with
  | receipt params =>
    rcases receipt_eq_ok h with hrep | ⟨baseCurrency, posted, -, hbooks, -, -, -, rfl⟩
    · exact hrepeated hrep
    · by_cases hkey : params.key = key
      · simpa [CostOp.qtyMove, CostOp.valueMove, CostOp.valueSlack, hkey, CostResult.cost] using
          params.moved hbooks hkey hmethod (hsound hkey)
      · simpa [CostOp.qtyMove, CostOp.valueMove, CostOp.valueSlack, hkey, slack_zero] using
          params.moved_of_ne hbooks hkey
  | landedCost params =>
    rcases landedCost_eq_ok h with hrep | ⟨s, hs, hbooks, -, -, rfl⟩
    · exact hrepeated hrep
    · rw [hbooks]
      simpa [CostOp.qtyMove, CostOp.valueMove, CostOp.valueSlack, slack_zero] using
        moved_allocateLines hs hmethod hsound
  | issue params =>
    rcases issue_eq_ok h with hrep | ⟨issued, posted, hissued, hbooks, -, -, -, rfl⟩
    · exact hrepeated hrep
    · by_cases hkey : params.key = key
      · simpa [CostOp.qtyMove, CostOp.valueMove, CostOp.valueSlack, hkey, CostResult.cost] using
          (params.moved hissued hkey hmethod).trans (Books.moved_updateLastIssueCost hbooks)
      · simpa [CostOp.qtyMove, CostOp.valueMove, CostOp.valueSlack, hkey, slack_zero] using
          (params.moved_of_ne hissued hkey).trans (Books.moved_updateLastIssueCost hbooks)
  | labor params =>
    rcases labor_eq_ok h with hrep | ⟨posted, -, -, hbooks, -, rfl⟩
    · exact hrepeated hrep
    · rw [hbooks]
      simpa [CostOp.qtyMove, CostOp.valueMove, CostOp.valueSlack, slack_zero] using
        Books.Moved.refl key db.books
  | overhead params =>
    rcases overhead_eq_ok h with hrep | ⟨posted, -, -, hbooks, -, rfl⟩
    · exact hrepeated hrep
    · rw [hbooks]
      simpa [CostOp.qtyMove, CostOp.valueMove, CostOp.valueSlack, slack_zero] using
        Books.Moved.refl key db.books
  | completion params =>
    rcases completion_eq_ok h with
      hrep | ⟨wipPerUnit, totalVariance, posted, journal, hbooks, -, -, -, -, rfl⟩
    · exact hrepeated hrep
    · by_cases hkey : params.key = key
      · simpa [CostOp.qtyMove, CostOp.valueMove, CostOp.valueSlack, hkey, CostResult.cost] using
          params.moved hbooks hkey hmethod (hsound hkey)
      · simpa [CostOp.qtyMove, CostOp.valueMove, CostOp.valueSlack, hkey, slack_zero] using
          params.moved_of_ne hbooks hkey
  | revaluation params =>
    obtain ⟨row, revalued, posted, hrow, hrevalued, hbooks, -, -, -, rfl⟩ := revaluation_eq_ok h
    rw [hbooks]
    by_cases hkey : params.key = key
    · simpa [CostOp.qtyMove, CostOp.valueMove, CostOp.valueSlack, hkey, CostResult.cost,
        slack_zero] using params.moved hrow hrevalued hkey
    · simpa [CostOp.qtyMove, CostOp.valueMove, CostOp.valueSlack, hkey, slack_zero] using
        params.moved_of_ne hrow hrevalued hkey
  | scrap params =>
    obtain ⟨scrapped, posted, hscrapped, hbooks, -, -, -, rfl⟩ := scrap_eq_ok h
    have hkey : params.key ≠ key := hsound
    rw [hbooks]
    simpa [CostOp.qtyMove, CostOp.valueMove, CostOp.valueSlack, hkey, slack_zero] using
      params.moved_of_ne hscrapped

/-! ### Runs -/

namespace CostCall

variable (key : StockKey) (db : CostingDb) (c : CostCall)

/-- What a call that succeeds brings to the item, and what the columns cut off. -/
def qtyMove : ℚ :=
  match c.body db with
  | .ok (_, result) => c.op.qtyMove key result
  | .error _ => 0

def valueMove : ℚ :=
  match c.body db with
  | .ok (_, result) => c.op.valueMove key result
  | .error _ => 0

def valueSlack : ℚ :=
  match c.body db with
  | .ok (_, result) => c.op.valueSlack key db.books result
  | .error _ => 0

end CostCall

theorem CostingDb.moved_call {key : StockKey} {db : CostingDb} {c : CostCall}
    (hmethod : c.ctx.resolveMethod key = .movingAverage) (hsound : c.AveragesSoundly key db) :
    Books.Moved key db.books (db.call c).books (c.qtyMove key db) (c.valueMove key db)
      (slack 4 (c.qtyMove key db)) (c.valueSlack key db) := by
  unfold CostCall.qtyMove CostCall.valueMove CostCall.valueSlack
  cases h : c.body db with
  | error e =>
    rw [CostingDb.call_of_error h]
    dsimp only
    rw [slack_zero]
    exact Books.Moved.refl key db.books
  | ok r =>
    rw [CostingDb.call_of_ok h]
    exact CostCall.moved h hmethod hsound

/-- In every state of the run the row of the item has the quantity that the operations brought
and the value that they brought, each up to what its column cut off at the writes, and its unit
cost times its quantity is its value. -/
structure AverageLaw (key : StockKey) (start : CostingDb) (calls : List CostCall) : Prop where
  qty : ∀ k, |(stateAt CostingDb.call start calls k).books.totalQty key -
      sumAlong CostingDb.call (fun db c => c.qtyMove key db) start (calls.take k)| ≤
    sumAlong CostingDb.call (fun db c => slack 4 (c.qtyMove key db)) start (calls.take k)
  value : ∀ k, |(stateAt CostingDb.call start calls k).books.totalValue key -
      sumAlong CostingDb.call (fun db c => c.valueMove key db) start (calls.take k)| ≤
    sumAlong CostingDb.call (fun db c => c.valueSlack key db) start (calls.take k)
  unit : ∀ k, ∀ row ∈ (stateAt CostingDb.call start calls k).books.findItemCost key, row.UnitAgrees

theorem averageLaw_of_sound (key : StockKey) (start : CostingDb) (calls : List CostCall)
    (hstart : start.books.findItemCost key = none)
    (hmethod : ∀ c ∈ calls, c.ctx.resolveMethod key = .movingAverage)
    (hsound : Always CostingDb.call (fun db c => c.AveragesSoundly key db) start calls) :
    AverageLaw key start calls := by
  have hmoved : Always CostingDb.call (fun db c => Books.Moved key db.books (db.call c).books
      (c.qtyMove key db) (c.valueMove key db) (slack 4 (c.qtyMove key db)) (c.valueSlack key db))
      start calls := by
    rw [always_iff] at hsound ⊢
    intro k c hc
    exact CostingDb.moved_call (hmethod c (List.mem_of_getElem? hc)) (hsound k c hc)
  constructor
  · intro k
    have hle := (hmoved.take k).abs_sub_sumAlong_le (g := fun db => db.books.totalQty key)
      (w := fun db c => c.qtyMove key db) (e := fun db c => slack 4 (c.qtyMove key db))
      (fun _ _ h => h.qty)
    have hzero : start.books.totalQty key = 0 := by rw [Books.totalQty, hstart]; rfl
    rw [hzero, zero_add] at hle
    exact hle
  · intro k
    have hle := (hmoved.take k).abs_sub_sumAlong_le (g := fun db => db.books.totalValue key)
      (w := fun db c => c.valueMove key db) (e := fun db c => c.valueSlack key db)
      (fun _ _ h => h.value)
    have hzero : start.books.totalValue key = 0 := by rw [Books.totalValue, hstart]; rfl
    rw [hzero, zero_add] at hle
    exact hle
  · apply hmoved.invariant_at (I := fun db => ∀ row ∈ db.books.findItemCost key, row.UnitAgrees)
    · exact fun _ _ hunit h => h.unit hunit
    · intro row hrow
      rw [hstart] at hrow
      cases hrow

/-- A tenant whose product is costed by moving average. -/
def averageContext : CostingContext :=
  { standardContext with
    itemCostProfiles := [⟨7, some 3, .movingAverage, none⟩]
    postingProfiles := standardContext.postingProfiles ++
      [{ transactionType := .scrap, debitAccountId := 5, creditAccountId := 1 },
       { transactionType := .inventoryAdjustment, debitAccountId := 1, creditAccountId := 6 }] }

def averageReceipt (goodsReceiptId : Id) (quantity unitPrice : Decimal) : CostCall where
  ctx := averageContext
  op := .receipt
    { goodsReceiptId := goodsReceiptId
      goodsReceiptLineId := goodsReceiptId
      key := ⟨1, 7, 3⟩
      quantity := quantity
      unitPrice := unitPrice
      purchaseCurrency := "USD" }

/-- Two receipts at different prices, landed cost, an issue of one piece and a revaluation. -/
def averagedRun : List CostCall :=
  [averageReceipt 5 10 3, averageReceipt 6 2 4,
    ⟨averageContext, .landedCost
      { goodsReceiptId := 5
        allocations := [{ goodsReceiptLineId := 51, key := ⟨1, 7, 3⟩, costCategory := "FREIGHT",
                          amount := 2 }]
        allocationMethod := "BY_VALUE" }⟩,
    ⟨averageContext, .issue
      { workOrderId := 8, materialIssueId := 9, key := ⟨1, 7, 3⟩, quantity := 1, uom := "EA" }⟩,
    ⟨averageContext, .revaluation { key := ⟨1, 7, 3⟩, newUnitCost := 4 }⟩]

theorem averageLaw_averagedRun :
    (run CostingDb.call (.empty (.opened []) []) averagedRun).books.totalValue ⟨1, 7, 3⟩ = 44 ∧
      AverageLaw ⟨1, 7, 3⟩ (.empty (.opened []) []) averagedRun :=
  ⟨by decide +kernel, averageLaw_of_sound _ _ _ rfl (by decide +kernel) (by decide +kernel)⟩

/-- A receipt of ten and scrap of four. -/
def receiptAndScrap : List CostCall :=
  [averageReceipt 5 10 3,
    ⟨averageContext, .scrap { key := ⟨1, 7, 3⟩, quantity := 4, uom := "EA", referenceId := 12 }⟩]

/-- The scrap is costed and leaves the quantity at ten. -/
theorem not_averageLaw_receiptAndScrap :
    ¬AverageLaw ⟨1, 7, 3⟩ (.empty (.opened []) []) receiptAndScrap := by
  intro h
  have hqty := h.qty 2
  revert hqty
  decide +kernel

end Forecast.Costing
