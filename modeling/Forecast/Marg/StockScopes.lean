import Forecast.Lib.Grouping
import Forecast.Marg.LegacyMerge
import Forecast.Marg.VoucherRows

/-!
# Staged stock and its scopes

The rows of `marg_stocks` are one for each batch of an item of a company.
A pid of a company stands for a product, and a company for a location. The two
together are the scope in which inventory is kept. Several pids, and several
companies, may have one scope.
-/

open JsText KeyedTable Grouping

namespace Forecast

/-- A row of `marg_stocks`. -/
structure MargStock where
  companyId : ℤ
  pid : Trimmed
  batch : Trimmed
  batDate : Option Millis
  expiry : Option Millis
  opening : Option ℚ
  stock : Option ℚ
  lpRate : Option ℚ
  pRate : Option ℚ
  sourceDeleted : Bool
  lastSeenSyncLogId : Option Id
  updatedAt : Millis
deriving DecidableEq

/-- The unique columns. -/
def MargStock.key (s : MargStock) : ℤ × Trimmed × Trimmed := (s.companyId, s.pid, s.batch)

/-- A product at a location. -/
abbrev Scope := ℕ × ℕ

instance instLawfulBEqScope : LawfulBEq Scope := inferInstance

/-- A row of `marg_branches`. -/
structure MargBranch where
  companyId : ℤ
  locationId : Option ℕ
deriving DecidableEq

/-- The staged masters after their transforms: every staged product has its product. -/
structure LinkedMasters where
  products : ProductTable
  staged : List MargProduct
  linked : ∀ mp ∈ staged, ∃ p ∈ products.rows, mp.productId = some p.id
  branches : List MargBranch

/-- What stock is staged for: a company and a pid. -/
abbrev StockPid := ℤ × Trimmed

def MargStock.stockPid (s : MargStock) : StockPid := (s.companyId, s.pid)

namespace LinkedMasters

variable (m : LinkedMasters)

def resolveProductId (companyId : ℤ) (pid : String) : Option ℕ :=
  if pid = "" then none
  else (m.staged.find? fun mp => mp.companyId = companyId ∧ mp.pid = pid).bind MargProduct.productId

/-- The location of a company, as the caches of the transforms hold it. -/
def locationOf (companyId : ℤ) : Option ℕ :=
  (m.branches.find? fun b => b.companyId = companyId).bind MargBranch.locationId

def resolveLocationId (companyId : ℤ) : Option ℕ :=
  if companyId ≤ 0 then none else m.locationOf companyId

def scopeOf (key : StockPid) : Option Scope :=
  (m.resolveProductId key.1 key.2.text).bind fun productId =>
    (m.resolveLocationId key.1).map fun locationId => (productId, locationId)

end LinkedMasters

/-- The staged stock of a tenant. -/
structure StagedStock where
  rows : List MargStock
  keys_nodup : (rows.map MargStock.key).Nodup
  companyId_pos : ∀ s ∈ rows, 0 < s.companyId

namespace StagedStock

variable (m : LinkedMasters) (stock : StagedStock)

def live : List MargStock := stock.rows.filter fun s => !s.sourceDeleted

/-- The distinct pids of some rows. -/
def pidsOf (rows : List MargStock) : List StockPid := firstOfEach id (rows.map MargStock.stockPid)

def liveIn (scope : Scope) : List MargStock :=
  stock.live.filter fun s => m.scopeOf s.stockPid = some scope

def scopes : List Scope := (pidsOf stock.rows).filterMap m.scopeOf

variable {m stock}

theorem mem_pidsOf {rows : List MargStock} {key : StockPid} :
    key ∈ pidsOf rows ↔ ∃ s ∈ rows, s.stockPid = key := by
  rw [pidsOf, mem_firstOfEach_id, List.mem_map]

theorem nodup_pidsOf (rows : List MargStock) : (pidsOf rows).Nodup :=
  nodup_firstOfEach_id (rows.map MargStock.stockPid)

theorem mem_scopes {scope : Scope} :
    scope ∈ stock.scopes m ↔ ∃ s ∈ stock.rows, m.scopeOf s.stockPid = some scope := by
  unfold scopes
  rw [List.mem_filterMap]
  constructor
  · rintro ⟨key, hkey, hscope⟩
    obtain ⟨s, hs, rfl⟩ := mem_pidsOf.1 hkey
    exact ⟨s, hs, hscope⟩
  · rintro ⟨s, hs, hscope⟩
    exact ⟨s.stockPid, mem_pidsOf.2 ⟨s, hs, rfl⟩, hscope⟩

theorem sum_pids_eq_sum_rows (f : MargStock → ℚ) (rows : List MargStock) (scope : Scope) :
    (((pidsOf rows).filter fun key => m.scopeOf key = some scope).map
      (matchedSum (fun key s => decide (s.stockPid = key)) f rows)).sum =
      ((rows.filter fun s => m.scopeOf s.stockPid = some scope).map f).sum := by
  rw [sum_matchedSum_of_countP_le_one]
  · congr 2
    apply List.filter_congr
    intro s hs
    rw [Bool.eq_iff_iff, List.any_eq_true, decide_eq_true_eq]
    constructor
    · rintro ⟨key, hkey, hs⟩
      obtain ⟨-, hscope⟩ := List.mem_filter.1 hkey
      rw [decide_eq_true_eq] at hs hscope
      rw [hs, hscope]
    · intro hscope
      exact ⟨s.stockPid, List.mem_filter.2 ⟨mem_pidsOf.2 ⟨s, hs, rfl⟩, decide_eq_true hscope⟩,
        decide_eq_true rfl⟩
  · intro s _
    rw [countP_le_one_iff ((nodup_pidsOf rows).filter _)]
    intro a _ b _ ha hb
    rw [decide_eq_true_eq] at ha hb
    exact ha.symm.trans hb

end StagedStock

end Forecast
