import Forecast.Lib.Deduplication
import Forecast.Lib.Transactions
import Forecast.Marg.Staging

/-!
# Staging page by page

The rows of a section arrive in pages, and each page is written in batches. The table
that results is the one that an upsert of row after row gives, for every way to cut the
rows, when rows that a page takes for duplicates have the same unique columns.
-/

open KeyedTable Transactions

namespace Forecast

namespace MargTable

section Sections

variable (platform : Platform) (dateWindow : Option DateWindow) (syncLogId : Id)

/-- The rows that the section's stager writes for a page. -/
def sync : MargTable → List MargRow → List StagedRow
  | branches => syncBranches
  | products => syncProducts
  | parties => syncParties
  | transactions => syncTransactions platform dateWindow
  | stocks => syncStockData syncLogId
  | vouchers => syncVouchers platform dateWindow
  | accountGroups => syncAccountGroups platform
  | accountPostings => syncAccountPostings platform dateWindow
  | accountGroupBalances => syncAccountGroupBalances platform
  | partyBalances => syncPartyBalances platform
  | outstandings => syncOutstandings platform dateWindow syncLogId
  | saleTypes => syncSaleTypes

/-- The checks of the section. -/
def prepare : MargTable → MargRow → Option PreparedRow
  | branches => prepareBranch
  | products => prepareProduct
  | parties => prepareParty
  | transactions => prepareTransaction platform dateWindow
  | stocks => prepareStock
  | vouchers => prepareVoucher platform dateWindow
  | accountGroups => prepareAccountGroup platform
  | accountPostings => prepareAccountPosting platform dateWindow
  | accountGroupBalances => prepareAccountGroupBalance platform
  | partyBalances => preparePartyBalance platform
  | outstandings => prepareOutstanding platform dateWindow
  | saleTypes => prepareSaleType

/-- The sync that is written into the rows of the section. -/
def seenBy : MargTable → Option Id
  | stocks | outstandings => some syncLogId
  | _ => none

/-- What a page keeps of the rows that it takes for duplicates. -/
def dedup : MargTable → List PreparedRow → List PreparedRow
  | transactions => firstOfEach PreparedRow.dedupKey
  | _ => lastOfEach PreparedRow.dedupKey

def prepared (table : MargTable) (rows : List MargRow) : List PreparedRow :=
  rows.filterMap (table.prepare platform dateWindow)

/-- The row as it is written. -/
def stage (table : MargTable) (row : PreparedRow) : StagedRow := row.staged table (table.seenBy syncLogId)

theorem sync_eq (table : MargTable) (rows : List MargRow) :
    table.sync platform dateWindow syncLogId rows =
      (table.dedup (table.prepared platform dateWindow rows)).map (table.stage syncLogId) := by
  cases table <;> rfl

end Sections

end MargTable

/-! ### Writing -/

inductive StagingError where
  /-- `ON CONFLICT DO UPDATE command cannot affect row a second time` -/
  | affectsRowTwice
deriving DecidableEq

/-- One `INSERT … ON CONFLICT DO UPDATE`. -/
def insertBatch (t : List StagedRow) (batch : List StagedRow) :
    Except StagingError (List StagedRow) := do
  throwWhen (¬(batch.map StagedRow.rowKey).Nodup) .affectsRowTwice
  pure (upsertAll StagedRow.rowKey t batch)

section Pages

variable (platform : Platform) (dateWindow : Option DateWindow) (syncLogId : Id)
variable (split : List StagedRow → List (List StagedRow)) (table : MargTable)

/-- A page is written in the batches that `split` makes of its rows. -/
def stagePage (t : List StagedRow) (page : List MargRow) : Except StagingError (List StagedRow) :=
  forEach insertBatch t (split (table.sync platform dateWindow syncLogId page))

def stagePages (t : List StagedRow) (pages : List (List MargRow)) :
    Except StagingError (List StagedRow) :=
  forEach (stagePage platform dateWindow syncLogId split table) t pages

/-- Every row upserted on its own, in the order of the source. -/
def stageOneByOne (t : List StagedRow) (rows : List MargRow) : List StagedRow :=
  upsertAll StagedRow.rowKey t
    ((table.prepared platform dateWindow rows).map (table.stage syncLogId))

end Pages

/-! ### The keys of a page -/

def PreparedRow.uniqueKey (row : PreparedRow) : ℤ × List String := (row.companyId, row.key)

theorem dedupKey_of_prepareRow {row : MargRow} {companyId : ℤ} {key : List String}
    {r : PreparedRow} (h : prepareRow row companyId key = some r) :
    r.dedupKey = dedupText r.companyId r.key := by
  unfold prepareRow at h
  split_ifs at h
  cases h
  rfl

section Law

variable {platform : Platform} {dateWindow : Option DateWindow} {syncLogId : Id}
variable {table : MargTable} {rows : List MargRow}

theorem dedupKey_of_prepareCoded {field : String} {row : MargRow} {r : PreparedRow}
    (h : prepareCoded platform field row = some r) : r.dedupKey = dedupText r.companyId r.key := by
  unfold prepareCoded at h
  split_ifs at h
  exact dedupKey_of_prepareRow h

/-- The string by which a section finds duplicates. -/
def MargTable.dedupOf : MargTable → ℤ × List String → String
  | .transactions, (companyId, key) => toString companyId ++ key.headD ""
  | _, (companyId, key) => dedupText companyId key

/-- Duplicates are found by a string that the unique columns make up. -/
theorem dedupKey_of_prepare {row : MargRow} {r : PreparedRow}
    (h : table.prepare platform dateWindow row = some r) :
    r.dedupKey = table.dedupOf r.uniqueKey := by
  cases table with
  | transactions =>
    simp only [MargTable.prepare, prepareTransaction] at h
    split_ifs at h
    obtain ⟨-, -, rfl⟩ := Option.map_eq_some_iff.1 h
    rfl
  | vouchers =>
    simp only [MargTable.prepare, prepareVoucher] at h
    split_ifs at h
    obtain ⟨-, -, rfl⟩ := Option.map_eq_some_iff.1 h
    rfl
  | accountPostings =>
    simp only [MargTable.prepare, prepareAccountPosting] at h
    split_ifs at h
    obtain ⟨-, -, h⟩ := Option.bind_eq_some_iff.1 h
    exact dedupKey_of_prepareRow h
  | outstandings =>
    simp only [MargTable.prepare, prepareOutstanding] at h
    split_ifs at h
    obtain ⟨-, -, h⟩ := Option.bind_eq_some_iff.1 h
    exact dedupKey_of_prepareRow h
  | accountGroups => exact dedupKey_of_prepareCoded h
  | accountGroupBalances => exact dedupKey_of_prepareCoded h
  | partyBalances => exact dedupKey_of_prepareCoded h
  | branches => exact dedupKey_of_prepareRow h
  | products => exact dedupKey_of_prepareRow h
  | parties => exact dedupKey_of_prepareRow h
  | stocks => exact dedupKey_of_prepareRow h
  | saleTypes => exact dedupKey_of_prepareRow h

theorem dedupKey_of_mem_prepared {r : PreparedRow}
    (h : r ∈ table.prepared platform dateWindow rows) : r.dedupKey = table.dedupOf r.uniqueKey := by
  obtain ⟨row, -, hrow⟩ := List.mem_filterMap.1 h
  exact dedupKey_of_prepare hrow

theorem dedup_subset {rs : List PreparedRow} {r : PreparedRow} (h : r ∈ table.dedup rs) :
    r ∈ rs := by
  unfold MargTable.dedup at h
  cases table <;> first | exact lastOfEach_subset h | exact firstOfEach_subset h

theorem nodup_dedupKeys_dedup (rs : List PreparedRow) :
    ((table.dedup rs).map PreparedRow.dedupKey).Nodup := by
  unfold MargTable.dedup
  cases table <;>
    first | exact nodup_keys_upsertAll List.nodup_nil | exact nodup_keys_firstOfEach rs

/-- What a page writes has distinct unique columns, so that no statement refuses it. -/
theorem nodup_rowKeys_sync (page : List MargRow) :
    ((table.sync platform dateWindow syncLogId page).map StagedRow.rowKey).Nodup := by
  rw [MargTable.sync_eq, List.map_map]
  have hdedup : ((table.dedup (table.prepared platform dateWindow page)).map
      PreparedRow.dedupKey).Nodup := nodup_dedupKeys_dedup _
  refine List.Nodup.map_on ?_ (List.Nodup.of_map _ hdedup)
  intro r hr r' hr' hkey
  have hunique : r.uniqueKey = r'.uniqueKey := congrArg Prod.snd hkey
  refine List.inj_on_of_nodup_map hdedup hr hr' ?_
  rw [dedupKey_of_mem_prepared (dedup_subset hr), dedupKey_of_mem_prepared (dedup_subset hr'),
    hunique]

/-! ### What the batches write -/

theorem upsertAll_append (t xs ys : List StagedRow) :
    upsertAll StagedRow.rowKey t (xs ++ ys) =
      upsertAll StagedRow.rowKey (upsertAll StagedRow.rowKey t xs) ys := List.foldl_append

theorem forEach_insertBatch {t : List StagedRow} {batches : List (List StagedRow)}
    (h : (batches.flatten.map StagedRow.rowKey).Nodup) :
    forEach insertBatch t batches = .ok (upsertAll StagedRow.rowKey t batches.flatten) := by
  induction batches generalizing t with
  | nil => rfl
  | cons batch batches ih =>
    rw [List.flatten_cons, List.map_append] at h
    have hbatch : insertBatch t batch = .ok (upsertAll StagedRow.rowKey t batch) := by
      simp [insertBatch, throwWhen, h.of_append_left]
    rw [forEach, hbatch, List.flatten_cons, upsertAll_append]
    exact ih h.of_append_right

theorem stagePage_eq {split : List StagedRow → List (List StagedRow)}
    (hsplit : ∀ staged, (split staged).flatten = staged) (t : List StagedRow)
    (page : List MargRow) :
    stagePage platform dateWindow syncLogId split table t page =
      .ok (upsertAll StagedRow.rowKey t (table.sync platform dateWindow syncLogId page)) := by
  have hnodup : ((table.sync platform dateWindow syncLogId page).map StagedRow.rowKey).Nodup :=
    nodup_rowKeys_sync page
  rw [← hsplit (table.sync platform dateWindow syncLogId page)] at hnodup
  rw [stagePage, forEach_insertBatch hnodup, hsplit]

theorem stagePages_eq {split : List StagedRow → List (List StagedRow)}
    (hsplit : ∀ staged, (split staged).flatten = staged) (t : List StagedRow)
    (pages : List (List MargRow)) :
    stagePages platform dateWindow syncLogId split table t pages =
      .ok (pages.foldl (fun t page => upsertAll StagedRow.rowKey t
        (table.sync platform dateWindow syncLogId page)) t) := by
  induction pages generalizing t with
  | nil => rfl
  | cons page pages ih =>
    rw [stagePages, forEach, stagePage_eq hsplit]
    exact ih _

/-! ### The law -/

variable (platform dateWindow syncLogId) in
/-- However the rows are cut into pages and batches, no statement fails and the table is the
one that upserts of row after row leave. -/
def PageLaw (table : MargTable) (rows : List MargRow) : Prop :=
  ∀ (t : List StagedRow) (pages : List (List MargRow))
    (split : List StagedRow → List (List StagedRow)),
    pages.flatten = rows → (∀ staged, (split staged).flatten = staged) →
      ∃ t', stagePages platform dateWindow syncLogId split table t pages = .ok t' ∧
        ∀ k, lookup StagedRow.rowKey t' k = lookup StagedRow.rowKey
          (stageOneByOne platform dateWindow syncLogId table t rows) k

/-- What two rows that a page takes for duplicates must have in common: where the first of
them is kept, they are one row, and elsewhere they have the same unique columns. -/
def MargTable.Agree : MargTable → PreparedRow → PreparedRow → Prop
  | .transactions, r, r' => r = r'
  | _, r, r' => r.uniqueKey = r'.uniqueKey

variable (platform dateWindow) in
def DuplicatesAgree (table : MargTable) (rows : List MargRow) : Prop :=
  ∀ r ∈ table.prepared platform dateWindow rows, ∀ r' ∈ table.prepared platform dateWindow rows,
    r.dedupKey = r'.dedupKey → table.Agree r r'

instance (r r' : PreparedRow) : Decidable (table.Agree r r') := by
  cases table <;> exact inferInstanceAs (Decidable (_ = _))

instance : Decidable (DuplicatesAgree platform dateWindow table rows) :=
  inferInstanceAs (Decidable (∀ r ∈ _, ∀ r' ∈ _, _ → _))

theorem uniqueKey_eq_iff_rowKey_eq {r r' : PreparedRow} :
    (table.stage syncLogId r).rowKey = (table.stage syncLogId r').rowKey ↔
      r.uniqueKey = r'.uniqueKey :=
  ⟨fun h => congrArg Prod.snd h, fun h => congrArg (Prod.mk table) h⟩

theorem dedupKey_eq_of_rowKey_eq {r r' : PreparedRow}
    (hr : r ∈ table.prepared platform dateWindow rows)
    (hr' : r' ∈ table.prepared platform dateWindow rows)
    (h : (table.stage syncLogId r).rowKey = (table.stage syncLogId r').rowKey) :
    r.dedupKey = r'.dedupKey := by
  rw [dedupKey_of_mem_prepared hr, dedupKey_of_mem_prepared hr', uniqueKey_eq_iff_rowKey_eq.1 h]

/-- A page writes last for each key what the rows of the page end with. -/
theorem lastWith_sync (h : DuplicatesAgree platform dateWindow table rows) (k : StagedKey) :
    lastWith StagedRow.rowKey (table.sync platform dateWindow syncLogId rows) k =
      lastWith StagedRow.rowKey
        ((table.prepared platform dateWindow rows).map (table.stage syncLogId)) k := by
  rw [MargTable.sync_eq, lastWith_map, lastWith_map]
  congr 1
  have hkey : ∀ x ∈ table.prepared platform dateWindow rows,
      ∀ y ∈ table.prepared platform dateWindow rows,
      (table.stage syncLogId y).rowKey = (table.stage syncLogId x).rowKey →
        y.dedupKey = x.dedupKey := fun x hx y hy => dedupKey_eq_of_rowKey_eq hy hx
  by_cases htable : table = .transactions
  · subst htable
    exact lastWith_firstOfEach hkey (fun x hx y hy hdup => h y hy x hx hdup) k
  · have hdedup : ∀ rs, table.dedup rs = lastOfEach PreparedRow.dedupKey rs := by
      cases table <;> first | exact absurd rfl htable | exact fun rs => rfl
    have hagree : ∀ r r', table.Agree r r' ↔ r.uniqueKey = r'.uniqueKey := by
      cases table <;> first | exact absurd rfl htable | exact fun r r' => Iff.rfl
    rw [hdedup]
    refine lastWith_lastOfEach (fun x hx y hy => ⟨hkey x hx y hy, fun hdup => ?_⟩) k
    exact uniqueKey_eq_iff_rowKey_eq.2 ((hagree y x).1 (h y hy x hx hdup))

theorem DuplicatesAgree.of_subset {part : List MargRow}
    (h : DuplicatesAgree platform dateWindow table rows) (hpart : part ⊆ rows) :
    DuplicatesAgree platform dateWindow table part := by
  have hmem : ∀ r ∈ table.prepared platform dateWindow part,
      r ∈ table.prepared platform dateWindow rows := by
    intro r hr
    obtain ⟨row, hrow, hprepare⟩ := List.mem_filterMap.1 hr
    exact List.mem_filterMap.2 ⟨row, hpart hrow, hprepare⟩
  exact fun r hr r' hr' => h r (hmem r hr) r' (hmem r' hr')

theorem lookup_pages {pages : List (List MargRow)}
    (h : ∀ page ∈ pages, DuplicatesAgree platform dateWindow table page) (t : List StagedRow)
    (k : StagedKey) :
    lookup StagedRow.rowKey (pages.foldl (fun t page => upsertAll StagedRow.rowKey t
        (table.sync platform dateWindow syncLogId page)) t) k =
      lookup StagedRow.rowKey
        (stageOneByOne platform dateWindow syncLogId table t pages.flatten) k := by
  induction pages generalizing t with
  | nil => rfl
  | cons page pages ih =>
    rw [List.foldl_cons, ih (fun p hp => h p (List.mem_cons_of_mem page hp)), List.flatten_cons]
    unfold stageOneByOne
    rw [MargTable.prepared, MargTable.prepared, List.filterMap_append, List.map_append,
      upsertAll_append, lookup_upsertAll, lookup_upsertAll, lookup_upsertAll, lookup_upsertAll,
      lastWith_sync (h page List.mem_cons_self)]
    rfl

theorem PageLaw.lookup_pages (h : PageLaw platform dateWindow syncLogId table rows)
    {pages : List (List MargRow)} (hpages : pages.flatten = rows) (k : StagedKey) :
    lookup StagedRow.rowKey (pages.foldl (fun t page => upsertAll StagedRow.rowKey t
        (table.sync platform dateWindow syncLogId page)) []) k =
      lastWith StagedRow.rowKey
        ((table.prepared platform dateWindow rows).map (table.stage syncLogId)) k := by
  have hsplit : ∀ staged : List StagedRow, [staged].flatten = staged := fun _ => List.flatten_singleton
  obtain ⟨t', ht', hlookup⟩ := h [] pages (fun staged => [staged]) hpages hsplit
  rw [stagePages_eq hsplit] at ht'
  obtain rfl := Except.ok.inj ht'
  rw [hlookup, stageOneByOne, lookup_upsertAll]
  simp [lookup]

theorem PageLaw.uniqueKey_eq (h : PageLaw platform dateWindow syncLogId table rows)
    {r r' : PreparedRow} (hr : r ∈ table.prepared platform dateWindow rows)
    (hr' : r' ∈ table.prepared platform dateWindow rows) (hdup : r.dedupKey = r'.dedupKey) :
    r.uniqueKey = r'.uniqueKey := by
  have hkept : ∀ x ∈ table.prepared platform dateWindow rows,
      (table.stage syncLogId x).rowKey ∈
        (table.dedup (table.prepared platform dateWindow rows)).map
          fun y => (table.stage syncLogId y).rowKey := by
    intro x hx
    have hflat : [rows].flatten = rows := List.flatten_singleton
    have hpage := h.lookup_pages hflat (table.stage syncLogId x).rowKey
    rw [List.foldl_cons, List.foldl_nil, lookup_upsertAll, MargTable.sync_eq] at hpage
    by_contra hgone
    have hnone : lastWith StagedRow.rowKey
        ((table.dedup (table.prepared platform dateWindow rows)).map (table.stage syncLogId))
        (table.stage syncLogId x).rowKey = none := by
      rw [lastWith_eq_none, List.map_map]
      exact hgone
    rw [hnone, eq_comm] at hpage
    refine lastWith_eq_none.1 hpage ?_
    exact List.mem_map_of_mem (List.mem_map_of_mem hx)
  refine uniqueKey_eq_iff_rowKey_eq.1 (key_eq_of_keys_kept (fun x hx => dedup_subset hx)
    (nodup_dedupKeys_dedup _) (fun x hx y hy => dedupKey_eq_of_rowKey_eq hy hx) hkept hr hr' hdup)

/-- When the page begins with a transaction, this is the one that is written. -/
theorem PageLaw.stage_eq (h : PageLaw platform dateWindow syncLogId .transactions rows)
    {r : PreparedRow} (hr : r ∈ MargTable.transactions.prepared platform dateWindow rows) :
    some (MargTable.transactions.stage syncLogId r) = lastWith StagedRow.rowKey
      ((MargTable.transactions.prepared platform dateWindow rows).map
        (MargTable.transactions.stage syncLogId))
      (MargTable.transactions.stage syncLogId r).rowKey := by
  obtain ⟨row, hrow, hprepare⟩ := List.mem_filterMap.1 hr
  obtain ⟨before, after, rfl⟩ := List.append_of_mem hrow
  have hpages : [before, row :: after].flatten = before ++ row :: after := by simp
  rw [← h.lookup_pages hpages, List.foldl_cons, List.foldl_cons, List.foldl_nil, lookup_upsertAll]
  have hfirst : r ∈ MargTable.transactions.dedup
      (MargTable.transactions.prepared platform dateWindow (row :: after)) := by
    rw [MargTable.prepared, List.filterMap_cons_some hprepare]
    exact mem_firstOfEach_cons r _
  have hmem : MargTable.transactions.stage syncLogId r ∈
      MargTable.transactions.sync platform dateWindow syncLogId (row :: after) := by
    rw [MargTable.sync_eq]
    exact List.mem_map_of_mem hfirst
  rw [lastWith_of_mem (nodup_rowKeys_sync _) hmem]
  rfl

theorem PageLaw.duplicatesAgree (h : PageLaw platform dateWindow syncLogId table rows) :
    DuplicatesAgree platform dateWindow table rows := by
  intro r hr r' hr' hdup
  have hunique : r.uniqueKey = r'.uniqueKey := h.uniqueKey_eq hr hr' hdup
  cases table with
  | transactions =>
    have hkeys : (MargTable.transactions.stage syncLogId r).rowKey =
        (MargTable.transactions.stage syncLogId r').rowKey := uniqueKey_eq_iff_rowKey_eq.2 hunique
    have hstage := h.stage_eq hr
    rw [hkeys, ← h.stage_eq hr'] at hstage
    have hraw : r.rawData = r'.rawData := congrArg StagedRow.rawData (Option.some.inj hstage)
    obtain ⟨companyId, key, dedupKey, rawData⟩ := r
    obtain ⟨companyId', key', dedupKey', rawData'⟩ := r'
    obtain ⟨rfl, rfl⟩ := Prod.mk.inj hunique
    obtain rfl : rawData = rawData' := hraw
    obtain rfl : dedupKey = dedupKey' := hdup
    rfl
  | _ => exact hunique

theorem DuplicatesAgree.pageLaw (h : DuplicatesAgree platform dateWindow table rows) :
    PageLaw platform dateWindow syncLogId table rows := by
  intro t pages split hpages hsplit
  subst hpages
  refine ⟨_, stagePages_eq hsplit t pages, lookup_pages (fun page hpage => ?_) t⟩
  exact h.of_subset fun row hrow => List.mem_flatten.2 ⟨page, hpage, hrow⟩

/-- Staging by pages is staging row after row exactly when duplicates agree. -/
theorem pageLaw_iff_duplicatesAgree (platform : Platform) (dateWindow : Option DateWindow)
    (syncLogId : Id) (table : MargTable) (rows : List MargRow) :
    PageLaw platform dateWindow syncLogId table rows ↔
      DuplicatesAgree platform dateWindow table rows :=
  ⟨PageLaw.duplicatesAgree, DuplicatesAgree.pageLaw⟩

end Law

/-- A corrected line of one voucher: the same identity, first with two units and then with
three. -/
def correctedLine : List MargRow :=
  ["2", "3"].map fun qty =>
    ⟨[("CompanyID", .number 1 "1"), ("ID", .number 5 "5"), ("Voucher", .text "V1"),
      ("Date", .text "01/03/2024"), ("Qty", .text qty)]⟩

/-- On one page the later version of the line is dropped. -/
theorem not_pageLaw_correctedLine :
    ¬PageLaw ⟨id, fun _ => none⟩ none 0 .transactions correctedLine := by
  intro h
  have hagree := h.duplicatesAgree
  revert hagree
  decide +kernel

end Forecast
