import Forecast.Costing.JournalPostings
import Forecast.Lib.Joins

/-!
# Valuation of a period

`snapshotPeriodValuation` values what is on hand with one query: every level is joined with its
maintained unit cost, with every profile of its product at its location or at none, and with
the number of its open layers. One row is recorded after the other, and their values add up.
-/

open KeyedTable DecimalColumn LeftJoin Transactions

namespace Forecast.Costing

open Inventory (Qty StockKey InventoryLevel)

/-- A row of `period_valuation_snapshots`. -/
structure PeriodValuationSnapshot where
  fiscalPeriodId : Id
  key : StockKey
  onHandQty : Qty
  unitCost : Qty
  totalValue : Qty
  costingMethod : CostingMethod
  openLayerCount : ℕ
  currency : String
deriving DecidableEq

def PeriodValuationSnapshot.rowKey (row : PeriodValuationSnapshot) : Id × StockKey :=
  (row.fiscalPeriodId, row.key)

/-- A row of `period_close_checkpoints` with the totals of the snapshot. -/
structure ValuationCheckpoint where
  fiscalPeriodId : Id
  status : PeriodCloseStatus
  inventoryValuationTotal : Qty
  glInventoryTotal : Qty
  discrepancy : Qty
deriving DecidableEq

structure ValuationDb where
  costing : CostingDb
  snapshots : List PeriodValuationSnapshot := []
  checkpoints : List ValuationCheckpoint := []

/-- What the snapshot reads and does not change. -/
structure ValuationContext where
  tenantId : Id
  costing : CostingContext
  /-- The accounts with `is_inventory_asset`. -/
  inventoryAccounts : List Id := []

structure ValuationResult where
  fiscalPeriodId : Id
  inventoryValuationTotal : Decimal
  wipBalance : Decimal
  glInventoryTotal : Decimal
  discrepancy : Decimal
  isReconciled : Bool
  snapshotCount : ℕ

/-! ### The query -/

/-- A row of the query. -/
structure ValuationRow where
  level : InventoryLevel
  unitCost : Decimal
  totalValue : Decimal
  costingMethod : CostingMethod
  openLayerCount : ℕ

def CostingContext.joinedProfiles (ctx : CostingContext) (key : StockKey) :
    List ItemCostProfile :=
  ctx.itemCostProfiles.filter fun icp =>
    icp.productId = key.productId ∧ (icp.locationId = some key.locationId ∨ icp.locationId = none)

def Books.openLayerCount (books : Books) (key : StockKey) : ℕ :=
  books.costLayers.countP fun layer => layer.key = key ∧ layer.status = .opened

/-- A level with one of the profiles that it is joined with; its row of `item_costs` is unique,
and without one the unit cost is zero. -/
def valuationRow (books : Books) (level : InventoryLevel) (icp : Option ItemCostProfile) :
    ValuationRow where
  level := level
  unitCost := books.getMovingAverageCost level.key
  totalValue := level.onHandQty.value * books.getMovingAverageCost level.key
  costingMethod := (icp.map ItemCostProfile.costingMethod).getD .standard
  openLayerCount := books.openLayerCount level.key

def levelRows (ctx : CostingContext) (books : Books) (level : InventoryLevel) :
    List ValuationRow :=
  (leftJoin (ctx.joinedProfiles level.key)).map (valuationRow books level)

namespace ValuationContext

variable (ctx : ValuationContext)

def levels (db : CostingDb) : List InventoryLevel :=
  db.stock.levels.filter fun level => level.key.tenantId = ctx.tenantId

def snapshotRows (db : CostingDb) : List ValuationRow :=
  ((ctx.levels db).filter fun level => 0 < level.onHandQty.value).flatMap
    (levelRows ctx.costing db.books)

def glTotal (db : CostingDb) : Decimal :=
  ((db.journal.filter fun entry => entry.status = .posted).map fun entry =>
    ((entry.lines.filter fun line => line.glAccountId ∈ ctx.inventoryAccounts).map fun line =>
      line.debitAmount - line.creditAmount).sum).sum

end ValuationContext

def CostingDb.wipTotal (db : CostingDb) : Decimal :=
  (db.wip.map fun row => row.accumulatedAmount.value - row.absorbedAmount.value).sum

/-! ### The snapshot -/

def ValuationRow.snapshot (row : ValuationRow) (fiscalPeriodId : Id) (baseCurrency : String) :
    Except CostingError PeriodValuationSnapshot := do
  let unitCost ← columnOf row.unitCost
  let totalValue ← columnOf row.totalValue
  pure
    { fiscalPeriodId := fiscalPeriodId
      key := row.level.key
      onHandQty := row.level.onHandQty
      unitCost := unitCost
      totalValue := totalValue
      costingMethod := row.costingMethod
      openLayerCount := row.openLayerCount
      currency := baseCurrency }

/-- One round of the loop: the row's value is added, and its snapshot written. -/
def recordRow (fiscalPeriodId : Id) (baseCurrency : String)
    (s : List PeriodValuationSnapshot × Decimal) (row : ValuationRow) :
    Except CostingError (List PeriodValuationSnapshot × Decimal) := do
  let snapshot ← row.snapshot fiscalPeriodId baseCurrency
  pure (upsert PeriodValuationSnapshot.rowKey s.1 snapshot, Decimal.plus s.2 row.totalValue)

def snapshotPeriodValuation (ctx : ValuationContext) (db : ValuationDb) (fiscalPeriodId : Id) :
    Except CostingError (ValuationDb × ValuationResult) := do
  throwWhen (lookup FiscalPeriod.id ctx.costing.accounting.fiscalPeriods fiscalPeriodId = none)
    (.periodNotFound fiscalPeriodId)
  let baseCurrency ← ctx.costing.resolveBaseCurrency
  let snapshotRows := ctx.snapshotRows db.costing
  let (snapshots, inventoryValuationTotal) ←
    forEach (recordRow fiscalPeriodId baseCurrency) (db.snapshots, 0) snapshotRows
  let glInventoryTotal := ctx.glTotal db.costing
  let wipBalance := db.costing.wipTotal
  let totalSubledgerValue := Decimal.plus inventoryValuationTotal wipBalance
  let discrepancy := Decimal.minus totalSubledgerValue glInventoryTotal
  let storedTotal ← columnOf totalSubledgerValue
  let storedGl ← columnOf glInventoryTotal
  let storedDiscrepancy ← columnOf discrepancy
  let checkpoint : ValuationCheckpoint :=
    { fiscalPeriodId := fiscalPeriodId
      status := .closing
      inventoryValuationTotal := storedTotal
      glInventoryTotal := storedGl
      discrepancy := storedDiscrepancy }
  pure
    ({ db with
        snapshots := snapshots
        checkpoints := upsert ValuationCheckpoint.fiscalPeriodId db.checkpoints checkpoint },
      { fiscalPeriodId := fiscalPeriodId
        inventoryValuationTotal := inventoryValuationTotal
        wipBalance := wipBalance
        glInventoryTotal := glInventoryTotal
        discrepancy := discrepancy
        isReconciled := |discrepancy| < 1 / 100
        snapshotCount := snapshotRows.length })

/-! ### What a level is worth -/

def Books.layerValue (books : Books) (key : StockKey) : Decimal :=
  ((books.costLayers.filter fun layer => layer.key = key ∧ 0 < layer.remainingQty.value).map
    fun layer => layer.remainingQty.value * layer.unitCost.value).sum

/-- The value of a level by the method of its item: the remaining layers, or the maintained
unit cost. -/
def valueOf (ctx : CostingContext) (books : Books) (level : InventoryLevel) : Decimal :=
  match ctx.resolveMethod level.key with
  | .fifo | .lifo => books.layerValue level.key
  | .movingAverage | .standard | .actualJobCosting =>
    level.onHandQty.value * books.getMovingAverageCost level.key

/-- The row that is left of a level: valued by its method, and under it. -/
structure RecordedAs (ctx : CostingContext) (books : Books) (level : InventoryLevel)
    (fiscalPeriodId : Id) (row : ValuationRow) (snapshots : List PeriodValuationSnapshot) :
    Prop where
  method : row.costingMethod = ctx.resolveMethod level.key
  value : row.totalValue = valueOf ctx books level
  snapshot : ∃ snapshot baseCurrency, row.snapshot fiscalPeriodId baseCurrency = .ok snapshot ∧
    lookup PeriodValuationSnapshot.rowKey snapshots (fiscalPeriodId, level.key) = some snapshot

/-- Every level is recorded once, and the total is the sum of what the levels are worth. -/
structure ValuationLaw (ctx : ValuationContext) (db : CostingDb) (fiscalPeriodId : Id)
    (snapshots : List PeriodValuationSnapshot) (result : ValuationResult) : Prop where
  levels : ∀ level ∈ ctx.levels db, ∃ row,
    (ctx.snapshotRows db).filter (fun row => row.level.key = level.key) = [row] ∧
      RecordedAs ctx.costing db.books level fiscalPeriodId row snapshots
  count : result.snapshotCount = (ctx.levels db).length
  total : result.inventoryValuationTotal =
    ((ctx.levels db).map (valueOf ctx.costing db.books)).foldl Decimal.plus 0

/-- The query values the level as its item's method does: it is in stock, it is joined with no
profile but one of its method, and its layers are worth what its unit cost makes of it. -/
structure ValuedRight (ctx : CostingContext) (books : Books) (level : InventoryLevel) : Prop where
  inStock : 0 < level.onHandQty.value
  profiles : (ctx.joinedProfiles level.key).length ≤ 1
  method : ∀ icp ∈ ctx.joinedProfiles level.key, icp.costingMethod = ctx.resolveMethod level.key
  layers : ctx.resolveMethod level.key = .fifo ∨ ctx.resolveMethod level.key = .lifo →
    books.layerValue level.key = level.onHandQty.value * books.getMovingAverageCost level.key

/-! ### The rows of a level -/

section Rows

variable {ctx : CostingContext} {books : Books} {level : InventoryLevel} {row : ValuationRow}

theorem levelRows_eq_singleton :
    levelRows ctx books level = [row] ↔ (ctx.joinedProfiles level.key).length ≤ 1 ∧
      valuationRow books level (ctx.joinedProfiles level.key).head? = row := by
  unfold levelRows
  constructor
  · intro h
    obtain ⟨o, ho, rfl⟩ := List.map_eq_singleton_iff.1 h
    obtain ⟨hlength, rfl⟩ := leftJoin_eq_singleton.1 ho
    exact ⟨hlength, rfl⟩
  · rintro ⟨hlength, rfl⟩
    rw [leftJoin_eq_singleton.2 ⟨hlength, rfl⟩, List.map_singleton]

theorem level_of_mem_levelRows (h : row ∈ levelRows ctx books level) : row.level = level := by
  obtain ⟨o, -, rfl⟩ := List.mem_map.1 h
  rfl

theorem itemCostProfile_mem {key : StockKey} {icp : ItemCostProfile}
    (h : ctx.itemCostProfile key = some icp) : icp ∈ ctx.joinedProfiles key := by
  have hp := List.find?_some h
  rw [decide_eq_true_eq] at hp
  exact List.mem_filter.2
    ⟨List.mem_of_find?_eq_some h, decide_eq_true ⟨hp.1, Or.inl hp.2⟩⟩

theorem ValuedRight.costingMethod_eq (h : ValuedRight ctx books level) :
    (valuationRow books level (ctx.joinedProfiles level.key).head?).costingMethod =
      ctx.resolveMethod level.key := by
  cases hhead : (ctx.joinedProfiles level.key).head? with
  | some icp => exact h.method icp (List.mem_of_mem_head? hhead)
  | none =>
    have hnone : ctx.itemCostProfile level.key = none := by
      rw [Option.eq_none_iff_forall_ne_some]
      intro icp hicp
      have hmem := itemCostProfile_mem hicp
      rw [List.head?_eq_none_iff.1 hhead] at hmem
      cases hmem
    rw [CostingContext.resolveMethod, hnone]
    rfl

theorem ValuedRight.value_eq (h : ValuedRight ctx books level) :
    level.onHandQty.value * books.getMovingAverageCost level.key = valueOf ctx books level := by
  unfold valueOf
  cases hmethod : ctx.resolveMethod level.key with
  | fifo => exact (h.layers (Or.inl hmethod)).symm
  | lifo => exact (h.layers (Or.inr hmethod)).symm
  | movingAverage => rfl
  | standard => rfl
  | actualJobCosting => rfl

end Rows

/-! ### The loop -/

section Loop

variable {fiscalPeriodId : Id} {baseCurrency : String} {rows : List ValuationRow}
  {s s' : List PeriodValuationSnapshot × Decimal}

theorem recordRow_eq_ok {row : ValuationRow} :
    recordRow fiscalPeriodId baseCurrency s row = .ok s' ↔
      ∃ snapshot, row.snapshot fiscalPeriodId baseCurrency = .ok snapshot ∧
        s' = (upsert PeriodValuationSnapshot.rowKey s.1 snapshot,
          Decimal.plus s.2 row.totalValue) := by
  simp only [recordRow, bind_eq_ok, pure_eq_ok, @eq_comm _ s']

theorem rowKey_snapshot {row : ValuationRow} {snapshot : PeriodValuationSnapshot}
    (h : row.snapshot fiscalPeriodId baseCurrency = .ok snapshot) :
    snapshot.rowKey = (fiscalPeriodId, row.level.key) := by
  simp only [ValuationRow.snapshot, bind_eq_ok, pure_eq_ok] at h
  obtain ⟨_, -, _, -, rfl⟩ := h
  rfl

theorem total_forEach (h : forEach (recordRow fiscalPeriodId baseCurrency) s rows = .ok s') :
    s'.2 = (rows.map ValuationRow.totalValue).foldl Decimal.plus s.2 := by
  induction rows generalizing s with
  | nil =>
    cases h
    rfl
  | cons row rows ih =>
    obtain ⟨m, hm, h⟩ := forEach_cons_eq_ok.1 h
    obtain ⟨snapshot, -, rfl⟩ := recordRow_eq_ok.1 hm
    exact ih h

theorem lookup_forEach_of_notMem {key : StockKey}
    (h : forEach (recordRow fiscalPeriodId baseCurrency) s rows = .ok s')
    (hkey : key ∉ rows.map fun row => row.level.key) :
    lookup PeriodValuationSnapshot.rowKey s'.1 (fiscalPeriodId, key) =
      lookup PeriodValuationSnapshot.rowKey s.1 (fiscalPeriodId, key) := by
  induction rows generalizing s with
  | nil =>
    cases h
    rfl
  | cons row rows ih =>
    obtain ⟨m, hm, h⟩ := forEach_cons_eq_ok.1 h
    obtain ⟨snapshot, hsnapshot, rfl⟩ := recordRow_eq_ok.1 hm
    rw [List.map_cons, List.mem_cons, not_or] at hkey
    have hne : snapshot.rowKey ≠ (fiscalPeriodId, key) := by
      rw [rowKey_snapshot hsnapshot]
      exact fun heq => hkey.1 (Prod.mk.inj heq).2.symm
    rw [ih h hkey.2, lookup_upsert, if_neg hne]

theorem lookup_forEach {row : ValuationRow}
    (h : forEach (recordRow fiscalPeriodId baseCurrency) s rows = .ok s')
    (hnodup : (rows.map fun row => row.level.key).Nodup) (hrow : row ∈ rows) :
    ∃ snapshot, row.snapshot fiscalPeriodId baseCurrency = .ok snapshot ∧
      lookup PeriodValuationSnapshot.rowKey s'.1 (fiscalPeriodId, row.level.key) =
        some snapshot := by
  induction rows generalizing s with
  | nil => cases hrow
  | cons first rows ih =>
    obtain ⟨m, hm, h⟩ := forEach_cons_eq_ok.1 h
    rw [List.map_cons, List.nodup_cons] at hnodup
    rcases List.mem_cons.1 hrow with rfl | hrow
    · obtain ⟨snapshot, hsnapshot, rfl⟩ := recordRow_eq_ok.1 hm
      refine ⟨snapshot, hsnapshot, ?_⟩
      rw [lookup_forEach_of_notMem h hnodup.1, lookup_upsert, if_pos (rowKey_snapshot hsnapshot)]
    · exact ih h hnodup.2 hrow

end Loop

/-! ### The snapshot of a period -/

section Snapshot

variable {ctx : ValuationContext} {db db' : ValuationDb} {fiscalPeriodId : Id}
  {result : ValuationResult}

theorem snapshotPeriodValuation_eq_ok
    (h : snapshotPeriodValuation ctx db fiscalPeriodId = .ok (db', result)) :
    ∃ baseCurrency, forEach (recordRow fiscalPeriodId baseCurrency) (db.snapshots, 0)
        (ctx.snapshotRows db.costing) = .ok (db'.snapshots, result.inventoryValuationTotal) ∧
      result.snapshotCount = (ctx.snapshotRows db.costing).length := by
  simp only [snapshotPeriodValuation, bind_eq_ok, pure_eq_ok] at h
  obtain ⟨-, -, baseCurrency, -, recorded, hrecorded, _, -, _, -, _, -, heq⟩ := h
  cases heq
  exact ⟨baseCurrency, hrecorded, rfl⟩

theorem nodup_levels (ctx : ValuationContext) (db : CostingDb) :
    ((ctx.levels db).map InventoryLevel.key).Nodup :=
  db.stock.levels_nodup.sublist (List.filter_sublist.map _)

theorem snapshotRows_filter {db : CostingDb} {level : InventoryLevel}
    (hlevel : level ∈ ctx.levels db) :
    (ctx.snapshotRows db).filter (fun row => row.level.key = level.key) =
      if 0 < level.onHandQty.value then levelRows ctx.costing db.books level else [] := by
  have hkeys : ∀ l ∈ (ctx.levels db).filter (fun l => 0 < l.onHandQty.value),
      ∀ row ∈ levelRows ctx.costing db.books l, row.level.key = l.key := fun l _ row hrow => by
    rw [level_of_mem_levelRows hrow]
  have hnodup : (((ctx.levels db).filter fun l => 0 < l.onHandQty.value).map
      InventoryLevel.key).Nodup := (nodup_levels ctx db).sublist (List.filter_sublist.map _)
  split_ifs with hstock
  · exact filter_flatMap_of_mem hkeys hnodup
      (List.mem_filter.2 ⟨hlevel, decide_eq_true hstock⟩)
  · refine filter_flatMap_of_notMem hkeys fun hmem => hstock ?_
    obtain ⟨other, hother, hkey⟩ := List.mem_map.1 hmem
    obtain ⟨hotherMem, hpositive⟩ := List.mem_filter.1 hother
    obtain rfl := List.inj_on_of_nodup_map (nodup_levels ctx db) hotherMem hlevel hkey
    exact of_decide_eq_true hpositive

theorem snapshotRows_eq_map {db : CostingDb}
    (h : ∀ level ∈ ctx.levels db, ValuedRight ctx.costing db.books level) :
    ctx.snapshotRows db = (ctx.levels db).map fun level =>
      valuationRow db.books level (ctx.costing.joinedProfiles level.key).head? := by
  have hall : (ctx.levels db).filter (fun level => 0 < level.onHandQty.value) = ctx.levels db :=
    List.filter_eq_self.2 fun level hlevel => decide_eq_true (h level hlevel).inStock
  rw [ValuationContext.snapshotRows, hall, List.map_eq_flatMap]
  apply List.flatMap_congr
  intro level hlevel
  exact levelRows_eq_singleton.2 ⟨(h level hlevel).profiles, rfl⟩

theorem valuationLaw_iff (h : snapshotPeriodValuation ctx db fiscalPeriodId = .ok (db', result)) :
    ValuationLaw ctx db.costing fiscalPeriodId db'.snapshots result ↔
      ∀ level ∈ ctx.levels db.costing, ValuedRight ctx.costing db.costing.books level := by
  obtain ⟨baseCurrency, hloop, hcount⟩ := snapshotPeriodValuation_eq_ok h
  constructor
  · intro hlaw level hlevel
    obtain ⟨row, hrows, hrecorded⟩ := hlaw.levels level hlevel
    rw [snapshotRows_filter hlevel] at hrows
    split_ifs at hrows with hstock
    obtain ⟨hprofiles, rfl⟩ := levelRows_eq_singleton.1 hrows
    refine ⟨hstock, hprofiles, fun icp hicp => ?_, fun hlayers => ?_⟩
    · have hhead : (ctx.costing.joinedProfiles level.key).head? = some icp := by
        obtain ⟨before, after, hsplit⟩ := List.append_of_mem hicp
        rw [hsplit] at hprofiles ⊢
        rw [List.length_append, List.length_cons] at hprofiles
        obtain rfl : before = [] := List.eq_nil_of_length_eq_zero (by omega)
        rfl
      rw [← hrecorded.method, hhead]
      rfl
    · have hvalue := hrecorded.value
      unfold valueOf at hvalue
      rcases hlayers with hmethod | hmethod
      · rw [hmethod] at hvalue
        exact hvalue.symm
      · rw [hmethod] at hvalue
        exact hvalue.symm
  · intro hright
    have hrows := snapshotRows_eq_map hright
    refine ⟨fun level hlevel => ?_, ?_, ?_⟩
    · have hlevelRight := hright level hlevel
      refine ⟨valuationRow db.costing.books level (ctx.costing.joinedProfiles level.key).head?, ?_,
        hlevelRight.costingMethod_eq, hlevelRight.value_eq, ?_⟩
      · rw [snapshotRows_filter hlevel, if_pos hlevelRight.inStock]
        exact levelRows_eq_singleton.2 ⟨hlevelRight.profiles, rfl⟩
      · obtain ⟨snapshot, hsnapshot, hlookup⟩ := lookup_forEach hloop
          (by rw [hrows, List.map_map]; exact nodup_levels ctx db.costing)
          (by rw [hrows]; exact List.mem_map_of_mem hlevel)
        exact ⟨snapshot, baseCurrency, hsnapshot, hlookup⟩
    · rw [hcount, hrows, List.length_map]
    · have htotal := total_forEach hloop
      rw [hrows, List.map_map] at htotal
      rw [show result.inventoryValuationTotal = _ from htotal]
      congr 1
      apply List.map_congr_left
      intro level hlevel
      exact (hright level hlevel).value_eq

end Snapshot

/-! ### Ten pieces at three each -/

def closingContext (method : CostingMethod) : ValuationContext where
  tenantId := 1
  costing :=
    { standardContext with
      itemCostProfiles := [⟨7, some 3, method, none⟩]
      accounting :=
        { standardContext.accounting with fiscalPeriods := [⟨5, "May", false, false⟩] } }
  inventoryAccounts := [1]

/-- Ten pieces were received at three each. -/
def tenValued (method : CostingMethod) : ValuationDb where
  costing := CostingDb.call (.empty (.opened []) [])
    { ctx := (closingContext method).costing
      op := .receipt
        { goodsReceiptId := 51
          goodsReceiptLineId := 51
          key := ⟨1, 7, 3⟩
          quantity := 10
          unitPrice := 3
          purchaseCurrency := "USD" } }

theorem valuationLaw_iff_average :
    ∃ db' result,
      snapshotPeriodValuation (closingContext .movingAverage) (tenValued .movingAverage) 5 =
        .ok (db', result) ∧
      (ValuationLaw (closingContext .movingAverage) (tenValued .movingAverage).costing 5
        db'.snapshots result ↔
          ∀ level ∈ (closingContext .movingAverage).levels (tenValued .movingAverage).costing,
            ValuedRight (closingContext .movingAverage).costing
              (tenValued .movingAverage).costing.books level) := by
  obtain ⟨⟨db', result⟩, h⟩ := exists_of_isOk
    (x := snapshotPeriodValuation (closingContext .movingAverage) (tenValued .movingAverage) 5)
    (by decide +kernel)
  exact ⟨db', result, h, valuationLaw_iff h⟩

/-- The layer of ten pieces is worth thirty, and the snapshot values it at nothing. -/
theorem not_valuationLaw_fifo :
    ∃ db' result, snapshotPeriodValuation (closingContext .fifo) (tenValued .fifo) 5 =
        .ok (db', result) ∧
      ¬ValuationLaw (closingContext .fifo) (tenValued .fifo).costing 5 db'.snapshots result := by
  obtain ⟨⟨db', result⟩, h, htotal⟩ := exists_of_toOption
    (f := fun recorded => recorded.2.inventoryValuationTotal)
    (x := snapshotPeriodValuation (closingContext .fifo) (tenValued .fifo) 5) (b := 0)
    (by decide +kernel)
  refine ⟨db', result, h, fun hlaw => ?_⟩
  have hworth : (((closingContext .fifo).levels (tenValued .fifo).costing).map
      (valueOf (closingContext .fifo).costing (tenValued .fifo).costing.books)).foldl
        Decimal.plus 0 = 30 := by
    decide +kernel
  have hsum := hlaw.total
  rw [hworth, htotal] at hsum
  norm_num at hsum

end Forecast.Costing
