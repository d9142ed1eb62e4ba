import Forecast.Marg.Staging
import Mathlib

/-!
# Staging a page in a run and in a resume

The staging blocks of `runSync` and the copy of them in `replayStagingForPage`.
They stage the same rows, and a replayed page leaves rows from newer pages alone,
exactly when the page has nothing in the sections that the two treat differently
and no newer page has staged a row with one of its keys.
-/

open KeyedTable

namespace Forecast

inductive MargSyncScope where
  | full
  | accounting
deriving DecidableEq

/-- `apiType`: inventory pages are '2', accounting pages '1'. -/
inductive ApiType where
  | accounting
  | inventory
deriving DecidableEq

structure MargParsedPayload where
  details : List MargRow := []
  masters : List MargRow := []
  mDis : List MargRow := []
  party : List MargRow := []
  product : List MargRow := []
  saleType : List MargRow := []
  stock : List MargRow := []
  acGroup : List MargRow := []
  account : List MargRow := []
  acBal : List MargRow := []
  pBal : List MargRow := []
  outstanding : List MargRow := []
  index : ℚ := 0
  dataStatus : ℚ := 0
  dateTime : String := ""
deriving DecidableEq

section Dispatch

variable (platform : Platform) (dateWindow : Option DateWindow) (syncLogId : Id)

/-- The inventory staging blocks of `runSync`; a section without rows stages nothing. -/
def stageInventoryPage (shouldProcessStockSnapshot : Bool) (syncedBranchCompanyIds : List ℤ)
    (payload : MargParsedPayload) : List StagedRow :=
  syncBranches (takeUnseenMargBranchRows payload.masters syncedBranchCompanyIds).1 ++
    syncProducts payload.product ++
    syncParties (canonicalizeMargParties platform payload.party) ++
    syncTransactions platform dateWindow payload.details ++
    (if shouldProcessStockSnapshot then syncStockData syncLogId payload.stock else []) ++
    syncVouchers platform dateWindow payload.mDis ++
    syncSaleTypes payload.saleType

/-- The accounting staging blocks of `runSync`. -/
def stageAccountingPage (shouldRunInventory : Bool) (payload : MargParsedPayload) :
    List StagedRow :=
  (if shouldRunInventory then [] else syncVouchers platform dateWindow payload.mDis) ++
    syncAccountGroups platform payload.acGroup ++
    syncAccountPostings platform dateWindow payload.account ++
    syncAccountGroupBalances platform payload.acBal ++
    syncPartyBalances platform (canonicalizeMargPartyBalances platform payload.pBal) ++
    syncOutstandings platform dateWindow syncLogId payload.outstanding

def replayStagingForPage (apiType : ApiType) (payload : MargParsedPayload) : List StagedRow :=
  match apiType with
  | .inventory =>
    syncBranches (takeUnseenMargBranchRows payload.masters []).1 ++
      syncProducts payload.product ++
      syncParties (canonicalizeMargParties platform payload.party) ++
      syncTransactions platform dateWindow payload.details ++
      syncStockData syncLogId payload.stock ++
      syncVouchers platform dateWindow payload.mDis ++
      syncSaleTypes payload.saleType
  | .accounting =>
    syncVouchers platform dateWindow payload.mDis ++
      syncAccountGroups platform payload.acGroup ++
      syncAccountPostings platform dateWindow payload.account ++
      syncAccountGroupBalances platform payload.acBal ++
      syncPartyBalances platform (canonicalizeMargPartyBalances platform payload.pBal) ++
      syncOutstandings platform dateWindow syncLogId payload.outstanding

end Dispatch

/-- The parameters of a run that its sync log records. -/
structure SyncLogParameters where
  syncLogId : Id
  syncScope : MargSyncScope
  fromDate : Option String
  endDate : Option String

namespace SyncLogParameters

variable (platform : Platform) (log : SyncLogParameters)

/-- The window that the run and the resume both build; a run with an invalid one saves no page. -/
def dateWindow : Option DateWindow :=
  match buildDateWindow platform log.fromDate log.endDate with
  | .ok window => window
  | .error _ => none

def stagedByRun (syncedBranchCompanyIds : List ℤ) (apiType : ApiType)
    (payload : MargParsedPayload) : List StagedRow :=
  match apiType with
  | .inventory => stageInventoryPage platform (log.dateWindow platform) log.syncLogId
      (given log.endDate).isNone syncedBranchCompanyIds payload
  | .accounting => stageAccountingPage platform (log.dateWindow platform) log.syncLogId
      (log.syncScope == .full) payload

def stagedByResume (apiType : ApiType) (payload : MargParsedPayload) : List StagedRow :=
  replayStagingForPage platform (log.dateWindow platform) log.syncLogId apiType payload

end SyncLogParameters

/-- A staging table whose rows remember which page they came from, pages being numbered in the
order in which they were fetched. -/
structure PagedTable where
  rows : List (StagedRow × ℕ)
  unique : (rows.map fun row => row.1.rowKey).Nodup

def PagedTable.write (table : PagedTable) (page : ℕ) (rows : List StagedRow) :
    List (StagedRow × ℕ) :=
  upsertAll (fun row => row.1.rowKey) table.rows (rows.map fun row => (row, page))

/-- A resume stages from a page what the run would have staged, and replaces no row that came
from a newer page. -/
structure ReplayLaw (platform : Platform) (log : SyncLogParameters)
    (syncedBranchCompanyIds : List ℤ) (apiType : ApiType) (payload : MargParsedPayload)
    (table : PagedTable) (page : ℕ) : Prop where
  same : ∀ row, row ∈ log.stagedByResume platform apiType payload ↔
    row ∈ log.stagedByRun platform syncedBranchCompanyIds apiType payload
  keepsNewer : ∀ row ∈ table.rows, page < row.2 →
    row ∈ table.write page (log.stagedByResume platform apiType payload)

/-- Of an inventory page: no branch row is of a company that the run had staged before, and
with an end date no stock row passes its checks. Of an accounting page: with full scope no
voucher row passes its checks. -/
def SectionsAgree (platform : Platform) (log : SyncLogParameters)
    (syncedBranchCompanyIds : List ℤ) (apiType : ApiType) (payload : MargParsedPayload) : Prop :=
  match apiType with
  | .inventory =>
    (∀ row ∈ payload.masters, 0 < row.companyId → row.companyId ∉ syncedBranchCompanyIds) ∧
      ((given log.endDate).isSome → ∀ row ∈ payload.stock, prepareStock row = none)
  | .accounting =>
    log.syncScope = .full →
      ∀ row ∈ payload.mDis, prepareVoucher platform (log.dateWindow platform) row = none

/-- No newer page has staged a row with the key of one that the run would stage. -/
def NothingNewer (staged : List StagedRow) (table : PagedTable) (page : ℕ) : Prop :=
  ∀ row ∈ table.rows, page < row.2 → row.1.rowKey ∉ staged.map StagedRow.rowKey

theorem table_of_mem_stageLast {table : MargTable} {lastSeen : Option Id}
    {prepare : MargRow → Option PreparedRow} {rows : List MargRow} {row : StagedRow}
    (h : row ∈ stageLast table lastSeen prepare rows) : row.table = table := by
  obtain ⟨prepared, -, rfl⟩ := List.mem_map.1 h
  rfl

theorem stageLast_eq_nil {table : MargTable} {lastSeen : Option Id}
    {prepare : MargRow → Option PreparedRow} {rows : List MargRow} :
    stageLast table lastSeen prepare rows = [] ↔ ∀ row ∈ rows, prepare row = none := by
  rw [stageLast, List.map_eq_nil_iff, ← List.filterMap_eq_nil_iff]
  constructor
  · intro h
    rw [List.eq_nil_iff_forall_not_mem]
    intro prepared hprepared
    have hkey : prepared.dedupKey ∈ ((lastOfEach PreparedRow.dedupKey
        (rows.filterMap prepare)).map PreparedRow.dedupKey) :=
      mem_keys_lastOfEach.2 (List.mem_map_of_mem hprepared)
    rw [h] at hkey
    cases hkey
  · intro h
    rw [h]
    rfl

theorem takeUnseen_congr {rows : List MargRow} {seen seen' : List ℤ}
    (h : ∀ row ∈ rows, 0 < row.companyId → (row.companyId ∈ seen ↔ row.companyId ∈ seen')) :
    (takeUnseenMargBranchRows rows seen).1 = (takeUnseenMargBranchRows rows seen').1 := by
  induction rows generalizing seen seen' with
  | nil => rfl
  | cons row rows ih =>
    have hrow := h row List.mem_cons_self
    have hrest : ∀ other ∈ rows, 0 < other.companyId →
        (other.companyId ∈ seen ↔ other.companyId ∈ seen') :=
      fun other hother => h other (List.mem_cons_of_mem _ hother)
    by_cases hpos : row.companyId ≤ 0
    · simp only [takeUnseenMargBranchRows, hpos, true_or, if_true]
      exact ih hrest
    · have hiff := hrow (not_le.1 hpos)
      by_cases hseen : row.companyId ∈ seen
      · simp only [takeUnseenMargBranchRows, hseen, hiff.1 hseen, or_true, if_true]
        exact ih hrest
      · have hseen' : row.companyId ∉ seen' := fun h => hseen (hiff.2 h)
        simp only [takeUnseenMargBranchRows, hpos, hseen, hseen', or_self, if_false]
        rw [ih]
        intro other hother hother0
        rw [List.mem_append, List.mem_append, hrest other hother hother0]

/-- The companies whose rows are taken: those that occur and were not seen. -/
theorem mem_companies_takeUnseen {rows : List MargRow} {seen : List ℤ} {company : ℤ} :
    company ∈ (takeUnseenMargBranchRows rows seen).1.map MargRow.companyId ↔
      0 < company ∧ company ∉ seen ∧ company ∈ rows.map MargRow.companyId := by
  induction rows generalizing seen with
  | nil => simp [takeUnseenMargBranchRows]
  | cons row rows ih =>
    rw [takeUnseenMargBranchRows]
    split_ifs with hskip
    · rw [ih, List.map_cons, List.mem_cons]
      constructor
      · rintro ⟨hpos, hseen, hmem⟩
        exact ⟨hpos, hseen, Or.inr hmem⟩
      · rintro ⟨hpos, hseen, rfl | hmem⟩
        · rcases hskip with hskip | hskip
          · exact absurd hpos (not_lt.2 hskip)
          · exact absurd hskip hseen
        · exact ⟨hpos, hseen, hmem⟩
    · rw [not_or, not_le] at hskip
      simp only [List.map_cons, List.mem_cons, ih, List.mem_append, List.not_mem_nil, or_false]
      constructor
      · rintro (rfl | ⟨hpos, hseen, hmem⟩)
        · exact ⟨hskip.1, hskip.2, Or.inl rfl⟩
        · exact ⟨hpos, fun h => hseen (Or.inl h), Or.inr hmem⟩
      · rintro ⟨hpos, hseen, hmem⟩
        by_cases hcompany : company = row.companyId
        · exact Or.inl hcompany
        · exact Or.inr ⟨hpos, not_or.2 ⟨hseen, hcompany⟩, hmem.resolve_left hcompany⟩

theorem prepareBranch_eq_some {row : MargRow} {prepared : PreparedRow} :
    prepareBranch row = some prepared ↔
      0 < row.companyId ∧ prepared = ⟨row.companyId, [], dedupText row.companyId [], row⟩ := by
  unfold prepareBranch prepareRow
  split_ifs with h
  · simp only [List.not_mem_nil, or_false] at h
    simp [h]
  · simp only [List.not_mem_nil, or_false, not_le] at h
    simp [h, eq_comm]

theorem mem_companies_syncBranches {rows : List MargRow} {company : ℤ} :
    company ∈ (syncBranches rows).map StagedRow.companyId ↔
      0 < company ∧ company ∈ rows.map MargRow.companyId := by
  have hprepared : ∀ prepared ∈ rows.filterMap prepareBranch,
      0 < prepared.companyId ∧ prepared.companyId ∈ rows.map MargRow.companyId ∧
        prepared.dedupKey = toString prepared.companyId := by
    intro prepared h
    obtain ⟨row, hrow, hprepared⟩ := List.mem_filterMap.1 h
    obtain ⟨hpos, rfl⟩ := prepareBranch_eq_some.1 hprepared
    exact ⟨hpos, List.mem_map_of_mem hrow, rfl⟩
  constructor
  · intro h
    obtain ⟨staged, hstaged, rfl⟩ := List.mem_map.1 h
    obtain ⟨prepared, hmem, rfl⟩ := List.mem_map.1 hstaged
    obtain ⟨hpos, hcompany, -⟩ := hprepared prepared (lastOfEach_subset hmem)
    exact ⟨hpos, hcompany⟩
  · rintro ⟨hpos, hcompany⟩
    obtain ⟨row, hrow, rfl⟩ := List.mem_map.1 hcompany
    have hsome := prepareBranch_eq_some.2 ⟨hpos, rfl⟩
    have hkey : toString row.companyId ∈ (lastOfEach PreparedRow.dedupKey
        (rows.filterMap prepareBranch)).map PreparedRow.dedupKey :=
      mem_keys_lastOfEach.2 (List.mem_map.2 ⟨_, List.mem_filterMap.2 ⟨row, hrow, hsome⟩, rfl⟩)
    obtain ⟨prepared, hmem, hdedup⟩ := List.mem_map.1 hkey
    obtain ⟨-, -, hname⟩ := hprepared prepared (lastOfEach_subset hmem)
    have hsame : prepared.companyId = row.companyId := Int.repr_injective (hname.symm.trans hdedup)
    exact List.mem_map.2 ⟨_, List.mem_map_of_mem hmem, hsame⟩

theorem syncBranches_agree_iff {rows : List MargRow} {seen : List ℤ} :
    (∀ row, row ∈ syncBranches (takeUnseenMargBranchRows rows []).1 ↔
      row ∈ syncBranches (takeUnseenMargBranchRows rows seen).1) ↔
    ∀ row ∈ rows, 0 < row.companyId → row.companyId ∉ seen := by
  constructor
  · intro h row hrow hpos hseen
    have hreplayed : row.companyId ∈
        (syncBranches (takeUnseenMargBranchRows rows []).1).map StagedRow.companyId :=
      mem_companies_syncBranches.2 ⟨hpos, mem_companies_takeUnseen.2
        ⟨hpos, by simp, List.mem_map_of_mem hrow⟩⟩
    obtain ⟨staged, hstaged, hcompany⟩ := List.mem_map.1 hreplayed
    have hrun : row.companyId ∈
        (syncBranches (takeUnseenMargBranchRows rows seen).1).map StagedRow.companyId :=
      List.mem_map.2 ⟨staged, (h staged).1 hstaged, hcompany⟩
    exact (mem_companies_takeUnseen.1 (mem_companies_syncBranches.1 hrun).2).2.1 hseen
  · intro h row
    rw [takeUnseen_congr]
    intro other hother hpos
    exact iff_of_false (by simp) (h other hother hpos)

/-- Two stagings that differ in one optional section agree when it is done or stages nothing. -/
theorem mem_ite_agree_iff {staged : List StagedRow} {done : Bool} :
    (∀ row, row ∈ staged ↔ row ∈ if done then staged else []) ↔ (done = false → staged = []) := by
  cases done with
  | true => simp
  | false =>
    simp only [Bool.false_eq_true, if_false, List.not_mem_nil, iff_false, forall_const]
    exact List.eq_nil_iff_forall_not_mem.symm

theorem sections_agree_iff (table : MargTable) {a a' r r' : StagedRow → Prop}
    (ha : ∀ row, a row → row.table = table) (ha' : ∀ row, a' row → row.table = table)
    (hr : ∀ row, r row → row.table ≠ table) (hr' : ∀ row, r' row → row.table ≠ table) :
    (∀ row, a row ∨ r row ↔ a' row ∨ r' row) ↔
      (∀ row, a row ↔ a' row) ∧ ∀ row, r row ↔ r' row := by
  constructor
  · intro h
    refine ⟨fun row => ⟨fun hrow => ?_, fun hrow => ?_⟩, fun row => ⟨fun hrow => ?_, fun hrow => ?_⟩⟩
    · exact ((h row).1 (Or.inl hrow)).resolve_right fun hother => hr' row hother (ha row hrow)
    · exact ((h row).2 (Or.inl hrow)).resolve_right fun hother => hr row hother (ha' row hrow)
    · exact ((h row).1 (Or.inr hrow)).resolve_left fun hother => hr row hrow (ha' row hother)
    · exact ((h row).2 (Or.inr hrow)).resolve_left fun hother => hr' row hrow (ha row hother)
  · rintro ⟨hleft, hright⟩ row
    rw [hleft, hright]

theorem section_agree_iff (table : MargTable) {a a' r : StagedRow → Prop}
    (ha : ∀ row, a row → row.table = table) (ha' : ∀ row, a' row → row.table = table)
    (hr : ∀ row, r row → row.table ≠ table) :
    (∀ row, a row ∨ r row ↔ a' row ∨ r row) ↔ ∀ row, a row ↔ a' row := by
  rw [sections_agree_iff table ha ha' hr hr]
  exact and_iff_left fun _ => Iff.rfl

section Sections

variable (platform : Platform) (dateWindow : Option DateWindow) (syncLogId : Id)
  (payload : MargParsedPayload)

/-- The inventory sections that a run and a resume stage alike. -/
def sharedInventorySections : List StagedRow :=
  syncProducts payload.product ++
    syncParties (canonicalizeMargParties platform payload.party) ++
    syncTransactions platform dateWindow payload.details ++
    syncVouchers platform dateWindow payload.mDis ++
    syncSaleTypes payload.saleType

def sharedAccountingSections : List StagedRow :=
  syncAccountGroups platform payload.acGroup ++
    syncAccountPostings platform dateWindow payload.account ++
    syncAccountGroupBalances platform payload.acBal ++
    syncPartyBalances platform (canonicalizeMargPartyBalances platform payload.pBal) ++
    syncOutstandings platform dateWindow syncLogId payload.outstanding

variable {platform dateWindow syncLogId payload}

theorem table_of_mem_syncTransactions {rows : List MargRow} {row : StagedRow}
    (h : row ∈ syncTransactions platform dateWindow rows) : row.table = .transactions := by
  obtain ⟨prepared, -, rfl⟩ := List.mem_map.1 h
  rfl

theorem table_of_mem_sharedInventorySections {row : StagedRow}
    (h : row ∈ sharedInventorySections platform dateWindow payload) :
    row.table ∈ [MargTable.products, .parties, .transactions, .vouchers, .saleTypes] := by
  simp only [sharedInventorySections, List.mem_append] at h
  rcases h with (((h | h) | h) | h) | h
  · simp [table_of_mem_stageLast h]
  · simp [table_of_mem_stageLast h]
  · simp [table_of_mem_syncTransactions h]
  · simp [table_of_mem_stageLast h]
  · simp [table_of_mem_stageLast h]

theorem table_of_mem_sharedAccountingSections {row : StagedRow}
    (h : row ∈ sharedAccountingSections platform dateWindow syncLogId payload) :
    row.table ≠ .vouchers := by
  simp only [sharedAccountingSections, List.mem_append] at h
  rcases h with (((h | h) | h) | h) | h <;> simp [table_of_mem_stageLast h]

theorem mem_stageInventoryPage {done : Bool} {seen : List ℤ} {row : StagedRow} :
    row ∈ stageInventoryPage platform dateWindow syncLogId done seen payload ↔
      row ∈ syncBranches (takeUnseenMargBranchRows payload.masters seen).1 ∨
        (row ∈ if done then syncStockData syncLogId payload.stock else []) ∨
        row ∈ sharedInventorySections platform dateWindow payload := by
  simp only [stageInventoryPage, sharedInventorySections, List.mem_append]
  tauto

theorem mem_stageAccountingPage {inventory : Bool} {row : StagedRow} :
    row ∈ stageAccountingPage platform dateWindow syncLogId inventory payload ↔
      (row ∈ if !inventory then syncVouchers platform dateWindow payload.mDis else []) ∨
        row ∈ sharedAccountingSections platform dateWindow syncLogId payload := by
  cases inventory <;>
    simp only [stageAccountingPage, sharedAccountingSections, List.mem_append, Bool.not_true,
      Bool.not_false, if_true, Bool.false_eq_true, if_false] <;> tauto

/-- A replayed page is staged as by a run that does every section for the first time. -/
theorem replayStagingForPage_eq {apiType : ApiType} :
    replayStagingForPage platform dateWindow syncLogId apiType payload =
      match apiType with
      | .inventory => stageInventoryPage platform dateWindow syncLogId true [] payload
      | .accounting => stageAccountingPage platform dateWindow syncLogId false payload := by
  cases apiType <;> rfl

end Sections

theorem table_of_mem_ite {table : MargTable} {done : Bool} {staged : List StagedRow}
    (h : ∀ row ∈ staged, row.table = table) {row : StagedRow}
    (hrow : row ∈ if done then staged else []) : row.table = table := by
  cases done with
  | true => exact h row hrow
  | false => cases hrow

theorem same_iff_sectionsAgree (platform : Platform) (log : SyncLogParameters) (seen : List ℤ)
    (apiType : ApiType) (payload : MargParsedPayload) :
    (∀ row, row ∈ log.stagedByResume platform apiType payload ↔
      row ∈ log.stagedByRun platform seen apiType payload) ↔
    SectionsAgree platform log seen apiType payload := by
  unfold SyncLogParameters.stagedByResume SyncLogParameters.stagedByRun
  rw [replayStagingForPage_eq]
  cases apiType with
  | inventory =>
    have hbranches : ∀ (rows : List MargRow) (row : StagedRow), row ∈ syncBranches rows →
        row.table = .branches := fun _ _ => table_of_mem_stageLast
    have hstocks : ∀ (done : Bool) (row : StagedRow),
        (row ∈ if done then syncStockData log.syncLogId payload.stock else []) →
        row.table = .stocks :=
      fun done row => table_of_mem_ite fun _ => table_of_mem_stageLast
    have hstocksOrRest : ∀ (done : Bool) (row : StagedRow),
        (row ∈ if done then syncStockData log.syncLogId payload.stock else []) ∨
          row ∈ sharedInventorySections platform (log.dateWindow platform) payload →
        row.table ≠ .branches := by
      rintro done row (h | h)
      · rw [hstocks done row h]
        decide
      · have := table_of_mem_sharedInventorySections h
        rintro hbranch
        simp [hbranch] at this
    have hrest : ∀ row,
        row ∈ sharedInventorySections platform (log.dateWindow platform) payload →
        row.table ≠ .stocks := by
      intro row h hstock
      have := table_of_mem_sharedInventorySections h
      simp [hstock] at this
    rw [forall_congr' fun row => iff_congr mem_stageInventoryPage mem_stageInventoryPage,
      sections_agree_iff .branches (hbranches _) (hbranches _) (hstocksOrRest _)
      (hstocksOrRest _), section_agree_iff .stocks (hstocks _) (hstocks _) hrest,
      syncBranches_agree_iff]
    simp only [if_true]
    rw [mem_ite_agree_iff, syncStockData, stageLast_eq_nil]
    cases hend : given log.endDate <;> simp [SectionsAgree, hend]
  | accounting =>
    have hvouchers : ∀ (done : Bool) (row : StagedRow),
        (row ∈ if done then syncVouchers platform (log.dateWindow platform) payload.mDis
          else []) → row.table = .vouchers :=
      fun done row => table_of_mem_ite fun _ => table_of_mem_stageLast
    rw [forall_congr' fun row => iff_congr mem_stageAccountingPage mem_stageAccountingPage,
      section_agree_iff .vouchers (hvouchers _) (hvouchers _)
      fun _ => table_of_mem_sharedAccountingSections]
    simp only [Bool.not_false, if_true]
    rw [mem_ite_agree_iff, syncVouchers, stageLast_eq_nil]
    cases hscope : log.syncScope <;> simp [SectionsAgree, hscope]

/-- A row from a newer page is not among the rows of this one, so it stays exactly when its key
is not written. -/
theorem keepsNewer_iff_nothingNewer (staged : List StagedRow) (table : PagedTable) (page : ℕ) :
    (∀ row ∈ table.rows, page < row.2 → row ∈ table.write page staged) ↔
      NothingNewer staged table page := by
  refine forall_congr' fun row => forall_congr' fun hrow => forall_congr' fun hnewer => ?_
  have hother : row ∉ staged.map fun row => (row, page) := by
    intro h
    obtain ⟨other, -, rfl⟩ := List.mem_map.1 h
    exact lt_irrefl page hnewer
  rw [PagedTable.write, mem_upsertAll_iff table.unique hrow hother, List.map_map]
  rfl

/-- A resume stages what the run would have staged and keeps newer rows exactly when the two
dispatches agree on the page's sections and no newer page has staged a row with one of the keys. -/
theorem replayLaw_iff_sectionsAgree (platform : Platform) (log : SyncLogParameters)
    (syncedBranchCompanyIds : List ℤ) (apiType : ApiType) (payload : MargParsedPayload)
    (table : PagedTable) (page : ℕ) :
    ReplayLaw platform log syncedBranchCompanyIds apiType payload table page ↔
      SectionsAgree platform log syncedBranchCompanyIds apiType payload ∧
        NothingNewer (log.stagedByRun platform syncedBranchCompanyIds apiType payload) table
          page := by
  have hkeys : (∀ row, row ∈ log.stagedByResume platform apiType payload ↔
        row ∈ log.stagedByRun platform syncedBranchCompanyIds apiType payload) →
      (NothingNewer (log.stagedByResume platform apiType payload) table page ↔
        NothingNewer (log.stagedByRun platform syncedBranchCompanyIds apiType payload) table
          page) := by
    intro h
    simp only [NothingNewer, List.mem_map, h]
  constructor
  · rintro ⟨hsame, hkeeps⟩
    exact ⟨(same_iff_sectionsAgree platform log _ apiType payload).1 hsame,
      (hkeys hsame).1 ((keepsNewer_iff_nothingNewer _ _ _).1 hkeeps)⟩
  · rintro ⟨hagree, hnothing⟩
    have hsame := (same_iff_sectionsAgree platform log _ apiType payload).2 hagree
    exact ⟨hsame, (keepsNewer_iff_nothingNewer _ _ _).2 ((hkeys hsame).2 hnothing)⟩

def asciiPlatform : Platform := ⟨String.map Char.toUpper, fun _ => none⟩

def backfillUntilMarch : SyncLogParameters := ⟨1, .full, none, some "2026-03-31"⟩

def pageWithStock : MargParsedPayload :=
  { stock := [⟨[("CompanyID", .number 1 "1"), ("PID", .text "P1"), ("Batch", .text "B1")]⟩] }

/-- A run with an end date skips the stock of a page; its resume stages it. -/
theorem not_replayLaw_stockOfBackfill :
    ¬ ReplayLaw asciiPlatform backfillUntilMarch [] .inventory pageWithStock ⟨[], by decide⟩ 0 := by
  intro h
  have hreplayed : ∃ row,
      row ∈ backfillUntilMarch.stagedByResume asciiPlatform .inventory pageWithStock := by
    refine List.exists_mem_of_ne_nil _ ?_
    decide +kernel
  obtain ⟨row, hrow⟩ := hreplayed
  have hrun : backfillUntilMarch.stagedByRun asciiPlatform [] .inventory pageWithStock = [] := by
    decide +kernel
  have hstaged := (h.same row).1 hrow
  rw [hrun] at hstaged
  cases hstaged

end Forecast
