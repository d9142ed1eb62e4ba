import Forecast.Marg.ComputedStock

/-!
# Running balances over the syncs of a ledger

A sync writes and removes rows by key and rebuilds the balances of the scopes that it
met: those of the rows that the reset removed, and those that the staged lines have now.
A row that a line takes to another scope leaves one that the sync need not have met.
-/

open JsText KeyedTable Runs

namespace Forecast

namespace Ledger

/-- Every Marg row has the sum of its scope up to it. -/
def Balanced (ledger : Ledger) : Prop :=
  ∀ r ∈ ledger.rows, r.isMarg → r.runningBalance = some (balanceUpTo ledger.rows r)

instance (ledger : Ledger) : Decidable ledger.Balanced :=
  inferInstanceAs (Decidable (∀ r ∈ ledger.rows, _))

/-- The statements up to the first that fails. -/
def runUntilFailure (batches : List Batch) (ledger : Ledger) :
    List (List LedgerDecision) → Ledger
  | [] => ledger
  | statement :: statements =>
    match ledger.run batches statement with
    | some changed => changed.runUntilFailure batches statements
    | none => ledger

end Ledger

/-- A call of `transformTransactionsToInventoryLedger` by a sync, with what it reads. -/
structure LedgerSync where
  settings : ProjectionSettings
  masters : LinkedMasters
  docs : MargDocuments
  batches : List Batch
  dateWindow : Option DateWindow
  /-- `resetMargInventoryProjectionWindow` was called first. -/
  projectionWindowReset : Bool
  /-- How many statements were executed when the database failed, if it did. -/
  failedAfter : Option ℕ

namespace LedgerSync

variable (sync : LedgerSync)

def statements : List (List LedgerDecision) :=
  allLedgerStatements sync.settings.platform sync.masters sync.docs.vouchers sync.dateWindow
    sync.projectionWindowReset sync.settings.pageSize
    (computeSafeBatchSize sync.settings.stagingBatchSize 1)
    (computeSafeBatchSize sync.settings.stagingBatchSize 16) sync.docs.lines

/-- The ledger that the call finds. -/
def found (ledger : Ledger) : Ledger :=
  if sync.projectionWindowReset then ledger.reset sync.dateWindow else ledger

def preAffectedScopes (ledger : Ledger) : List Scope :=
  if sync.projectionWindowReset then (ledger.inWindow sync.dateWindow).map LedgerRow.scope
  else []

/-- The scopes whose balances are rebuilt. -/
def affectedInventoryScopes (ledger : Ledger) : List Scope :=
  sync.preAffectedScopes ledger ++
    affectedScopes sync.settings.platform sync.masters sync.docs sync.dateWindow

def transform (ledger : Ledger) : Option Ledger :=
  transformTransactionsToInventoryLedger sync.settings.platform sync.masters sync.docs
    sync.dateWindow sync.projectionWindowReset sync.settings.pageSize
    (computeSafeBatchSize sync.settings.stagingBatchSize 1)
    (computeSafeBatchSize sync.settings.stagingBatchSize 16) sync.batches
    (sync.preAffectedScopes ledger) (sync.found ledger)

def ledgerAfter (ledger : Ledger) (sync : LedgerSync) : Ledger :=
  match sync.failedAfter with
  | some executed =>
    (sync.found ledger).runUntilFailure sync.batches (sync.statements.take executed)
  | none =>
    (sync.transform ledger).getD
      ((sync.found ledger).runUntilFailure sync.batches sync.statements)

/-- The database does not fail, and no statement writes a key twice. -/
def Completes : Prop :=
  sync.failedAfter = none ∧ ∀ statement ∈ sync.statements,
    ((statement.filter fun d => d.entry.isSome).map LedgerDecision.key).Nodup

instance : Decidable sync.Completes :=
  inferInstanceAs (Decidable (sync.failedAfter = none ∧ _))

def changed (ledger : Ledger) : Ledger :=
  (sync.found ledger).changeAll sync.batches sync.statements.flatten

/-- The keys that the statements write or remove. -/
def decidedKeys : List LedgerKey := sync.statements.flatten.map LedgerDecision.key

def keptRows (ledger : Ledger) : List LedgerRow :=
  (sync.found ledger).rows.filter fun r => r.key ∉ sync.decidedKeys

/-- The rows that are removed or written anew, each as it was. -/
def takenRows (ledger : Ledger) : List LedgerRow :=
  (sync.found ledger).rows.filter fun r => r.key ∈ sync.decidedKeys

/-- What is taken from before a row that keeps its balance sums to zero. -/
def KeepsBalances (ledger : Ledger) : Prop :=
  ∀ r ∈ sync.keptRows ledger, r.isMarg → r.scope ∉ sync.affectedInventoryScopes ledger →
    balanceUpTo (sync.takenRows ledger) r = 0

end LedgerSync

/-! ### The scopes of the decisions -/

section Decisions

variable {platform : Platform} {m : LinkedMasters} {vouchers : List MargVoucher}

/-- A line is written to the scope that it counts as affected. -/
theorem scope_of_entry {line : MargTransaction} {d : LedgerDecision} {e : LedgerEntry}
    (h : ledgerDecision platform m vouchers line = some d) (he : d.entry = some e) :
    d.scope = some e.scope := by
  unfold ledgerDecision at h
  by_cases hpid : line.pid.text = ""
  · rw [if_pos hpid] at h
    obtain rfl := Option.some.inj h
    cases he
  · rw [if_neg hpid] at h
    obtain ⟨productId, -, h⟩ := Option.bind_eq_some_iff.1 h
    obtain ⟨locationId, -, h⟩ := Option.bind_eq_some_iff.1 h
    dsimp only at h
    split at h
    · by_cases hzero : (lineDecision platform vouchers line line.amount).ledgerQuantity = 0
      · rw [if_pos hzero] at h
        obtain rfl := Option.some.inj h
        cases he
      · rw [if_neg hzero] at h
        obtain rfl := Option.some.inj h
        obtain rfl := Option.some.inj he
        rfl
    · obtain rfl := Option.some.inj h
      cases he

theorem exists_line_of_mem_statements {dateWindow : Option DateWindow} {reset : Bool}
    {pageSize deleteBatchSize insertBatchSize : ℕ} {lines : List MargTransaction}
    {d : LedgerDecision}
    (h : d ∈ (allLedgerStatements platform m vouchers dateWindow reset pageSize deleteBatchSize
      insertBatchSize lines).flatten) :
    ∃ line ∈ ledgerLines dateWindow lines, ledgerDecision platform m vouchers line = some d := by
  obtain ⟨statement, hstatement, hd⟩ := List.mem_flatten.1 h
  obtain ⟨page, hpage, hstatement⟩ := List.mem_flatMap.1 hstatement
  have hdecided : d ∈ page.filterMap (ledgerDecision platform m vouchers) := by
    rcases List.mem_append.1 hstatement with hdelete | hinsert
    · split_ifs at hdelete
      · cases hdelete
      · have hmem := List.mem_flatten.2 ⟨statement, hdelete, hd⟩
        rw [Paging.flatten_pages] at hmem
        exact List.mem_of_mem_filter hmem
    · have hmem := List.mem_flatten.2 ⟨statement, hinsert, hd⟩
      rw [Paging.flatten_pages] at hmem
      exact List.mem_of_mem_filter hmem
  obtain ⟨line, hline, hdecision⟩ := List.mem_filterMap.1 hdecided
  refine ⟨line, ?_, hdecision⟩
  rw [← Paging.flatten_pages pageSize (ledgerLines dateWindow lines)]
  exact List.mem_flatten.2 ⟨page, hpage, hline⟩

end Decisions

/-! ### Sums up to a row -/

section BalanceUpTo

variable {rows : List LedgerRow} {r : LedgerRow}

theorem balanceUpTo_eq_sum (rows : List LedgerRow) (r : LedgerRow) :
    balanceUpTo rows r =
      (rows.map fun a => if a.scope = r.scope && a.before r then a.quantity else 0).sum := by
  rw [balanceUpTo, Grouping.sum_map_filter]

/-- Rows of other scopes count for nothing. -/
theorem balanceUpTo_filter {p : LedgerRow → Bool}
    (h : ∀ a ∈ rows, a.scope = r.scope → p a = true) :
    balanceUpTo (rows.filter p) r = balanceUpTo rows r := by
  unfold balanceUpTo
  rw [List.filter_filter]
  congr 2
  apply List.filter_congr
  intro a ha
  by_cases hscope : a.scope = r.scope
  · rw [h a ha hscope, Bool.and_true]
  · simp [hscope]

/-- A rebuild changes the balance and nothing else. -/
theorem exists_rebalanced_eq (scopes : List Scope) (rows : List LedgerRow) (r : LedgerRow) :
    ∃ balance, r.rebalanced scopes rows = { r with runningBalance := balance } := by
  unfold LedgerRow.rebalanced
  by_cases h : r.scope ∈ scopes
  · rw [if_pos h]
    exact ⟨_, rfl⟩
  · rw [if_neg h]
    exact ⟨r.runningBalance, rfl⟩

theorem balanceUpTo_rebalanced (scopes : List Scope) (rows : List LedgerRow) (r : LedgerRow) :
    balanceUpTo (rows.map (LedgerRow.rebalanced scopes rows)) (r.rebalanced scopes rows) =
      balanceUpTo rows r := by
  rw [balanceUpTo_eq_sum, balanceUpTo_eq_sum, List.map_map]
  congr 1
  apply List.map_congr_left
  intro a _
  obtain ⟨b, ha⟩ := exists_rebalanced_eq scopes rows a
  obtain ⟨c, hr⟩ := exists_rebalanced_eq scopes rows r
  rw [Function.comp_apply, ha, hr]
  rfl

end BalanceUpTo

/-! ### One sync -/

section Step

variable {sync : LedgerSync} {ledger : Ledger}

theorem balanceUpTo_keptRows_add_takenRows (r : LedgerRow) :
    balanceUpTo (sync.keptRows ledger) r + balanceUpTo (sync.takenRows ledger) r =
      balanceUpTo (sync.found ledger).rows r := by
  unfold LedgerSync.keptRows LedgerSync.takenRows
  rw [balanceUpTo_eq_sum, balanceUpTo_eq_sum, balanceUpTo_eq_sum, Grouping.sum_map_filter,
    Grouping.sum_map_filter, ← List.sum_map_add]
  congr 1
  apply List.map_congr_left
  intro a _
  by_cases hkey : a.key ∈ sync.decidedKeys
  · simp [hkey]
  · simp [hkey]

theorem balanceUpTo_found {r : LedgerRow} (hr : r.scope ∉ sync.affectedInventoryScopes ledger) :
    balanceUpTo (sync.found ledger).rows r = balanceUpTo ledger.rows r := by
  unfold LedgerSync.found
  by_cases hreset : sync.projectionWindowReset = true
  · rw [if_pos hreset]
    apply balanceUpTo_filter
    intro a ha hscope
    rw [Bool.not_eq_true', Bool.eq_false_iff]
    intro hwindow
    apply hr
    rw [LedgerSync.affectedInventoryScopes, LedgerSync.preAffectedScopes, if_pos hreset,
      ← hscope]
    apply List.mem_append_left
    exact List.mem_map_of_mem (List.mem_filter.2 ⟨ha, hwindow⟩)
  · rw [if_neg hreset]

theorem mem_of_mem_found {r : LedgerRow} (hr : r ∈ (sync.found ledger).rows) :
    r ∈ ledger.rows := by
  unfold LedgerSync.found at hr
  by_cases hreset : sync.projectionWindowReset = true
  · rw [if_pos hreset] at hr
    exact List.mem_of_mem_filter hr
  · rwa [if_neg hreset] at hr

theorem scope_mem_affected {d : LedgerDecision} (hd : d ∈ sync.statements.flatten)
    {rows : List LedgerRow} {r : LedgerRow} (hr : d.row sync.batches rows = some r) :
    r.scope ∈ sync.affectedInventoryScopes ledger := by
  unfold LedgerDecision.row at hr
  obtain ⟨e, he, rfl⟩ := Option.map_eq_some_iff.1 hr
  obtain ⟨line, hline, hdecision⟩ := exists_line_of_mem_statements hd
  apply List.mem_append_right
  apply List.mem_filterMap.2
  exact ⟨d, List.mem_filterMap.2 ⟨line, hline, hdecision⟩, scope_of_entry hdecision he⟩

theorem mem_changed {r : LedgerRow} (hr : r.scope ∉ sync.affectedInventoryScopes ledger) :
    r ∈ (sync.changed ledger).rows ↔ r ∈ sync.keptRows ledger := by
  have hkey : ∀ (rows : List LedgerRow) (d : LedgerDecision) (x : LedgerRow),
      d.row sync.batches rows = some x → x.key = d.key :=
    fun _ _ _ h => Ledger.key_row h
  rw [LedgerSync.keptRows, List.mem_filter, decide_eq_true_eq]
  constructor
  · intro hmem
    rcases WrittenTable.mem_changeAll hkey (sync.found ledger).keys_nodup hmem with
      hkept | ⟨d, hd, rows, hmade⟩
    · exact hkept
    · exact absurd (scope_mem_affected hd hmade) hr
  · rintro ⟨hmem, hothers⟩
    exact WrittenTable.mem_changeAll_of_not_mem_keys hkey hmem hothers

theorem balanceUpTo_changed {r : LedgerRow} (hr : r.scope ∉ sync.affectedInventoryScopes ledger) :
    balanceUpTo (sync.changed ledger).rows r = balanceUpTo (sync.keptRows ledger) r := by
  have hwritten : ∀ (rows : List LedgerRow), ∀ d ∈ sync.statements.flatten,
      ((d.row sync.batches rows).map fun a =>
        if a.scope = r.scope && a.before r then a.quantity else 0).getD 0 = 0 := by
    intro rows d hd
    cases hmade : d.row sync.batches rows with
    | none => rfl
    | some x =>
      have hscope : x.scope ≠ r.scope := fun h => hr (h ▸ scope_mem_affected hd hmade)
      simp [hscope]
  have hsum := WrittenTable.sum_changeAll (fun _ _ _ h => Ledger.key_row h)
    (sync.found ledger).keys_nodup sync.statements.flatten (g := fun _ => 0) hwritten
    (fun a => a.key ∉ sync.decidedKeys) (fun a => decide_eq_true_iff)
  rw [balanceUpTo_eq_sum, balanceUpTo_eq_sum]
  refine hsum.trans ?_
  rw [List.map_const', List.sum_replicate, smul_zero, add_zero]
  rfl

theorem ledgerAfter_of_completes (hc : sync.Completes) :
    LedgerSync.ledgerAfter ledger sync =
      (sync.changed ledger).rebuildRunningBalances (sync.affectedInventoryScopes ledger) := by
  obtain ⟨hfailed, hkeys⟩ := hc
  have hrun : sync.statements.foldlM (Ledger.run sync.batches) (sync.found ledger) =
      some (sync.changed ledger) := by
    rw [Ledger.foldlM_run, if_pos hkeys]
    rfl
  have htransform : sync.transform ledger =
      some ((sync.changed ledger).rebuildRunningBalances
        (sync.affectedInventoryScopes ledger)) := by
    unfold LedgerSync.transform transformTransactionsToInventoryLedger
    rw [LedgerSync.statements] at hrun
    rw [hrun]
    rfl
  rw [LedgerSync.ledgerAfter, hfailed]
  dsimp only
  rw [htransform, Option.getD_some]

theorem balanced_rebuildRunningBalances_iff (scopes : List Scope) :
    (ledger.rebuildRunningBalances scopes).Balanced ↔
      ∀ r ∈ ledger.rows, r.isMarg → r.scope ∉ scopes →
        r.runningBalance = some (balanceUpTo ledger.rows r) := by
  unfold Ledger.Balanced Ledger.rebuildRunningBalances
  rw [List.forall_mem_map]
  apply forall₂_congr
  intro r _
  rw [balanceUpTo_rebalanced]
  have hmarg : (r.rebalanced scopes ledger.rows).isMarg = r.isMarg := by
    obtain ⟨b, hb⟩ := exists_rebalanced_eq scopes ledger.rows r
    rw [hb]
    rfl
  rw [hmarg]
  apply imp_congr_right
  intro _
  unfold LedgerRow.rebalanced
  by_cases hscope : r.scope ∈ scopes
  · simp [hscope]
  · simp [hscope]

/-- A sync that completes keeps the balances exactly where nothing is taken from before a row
that keeps its own. -/
theorem balanced_ledgerAfter_iff (hb : ledger.Balanced) (hc : sync.Completes) :
    (LedgerSync.ledgerAfter ledger sync).Balanced ↔ sync.KeepsBalances ledger := by
  rw [ledgerAfter_of_completes hc, balanced_rebuildRunningBalances_iff]
  have hrow : ∀ r ∈ sync.keptRows ledger, r.isMarg →
      r.scope ∉ sync.affectedInventoryScopes ledger →
      (r.runningBalance = some (balanceUpTo (sync.changed ledger).rows r) ↔
        balanceUpTo (sync.takenRows ledger) r = 0) := by
    intro r hr hmarg hscope
    have hold := hb r (mem_of_mem_found (List.mem_of_mem_filter hr)) hmarg
    rw [hold, Option.some.injEq, ← balanceUpTo_found hscope, balanceUpTo_changed hscope,
      ← balanceUpTo_keptRows_add_takenRows, add_eq_left]
  constructor
  · intro h r hr hmarg hscope
    exact (hrow r hr hmarg hscope).1 (h r ((mem_changed hscope).2 hr) hmarg hscope)
  · intro h r hr hmarg hscope
    have hkept := (mem_changed hscope).1 hr
    exact (hrow r hkept hmarg hscope).2 (h r hkept hmarg hscope)

end Step

/-! ### Every run of syncs -/

/-- Over syncs that complete the balances hold in every ledger left behind exactly where each
sync takes nothing from before a row that keeps its balance. -/
theorem balanced_stateAt_iff_keepsBalances {ledger : Ledger} {syncs : List LedgerSync}
    (hb : ledger.Balanced) (hc : ∀ sync ∈ syncs, sync.Completes) :
    (∀ k, (stateAt LedgerSync.ledgerAfter ledger syncs k).Balanced) ↔
      Always LedgerSync.ledgerAfter (fun ledger sync => sync.KeepsBalances ledger) ledger syncs :=
  forall_stateAt_iff_always
    (fun _ sync hsync hbalanced => balanced_ledgerAfter_iff hbalanced (hc sync hsync)) hb

def twoProducts : LinkedMasters where
  products := ⟨[⟨7, .cut "MARG-A"⟩, ⟨8, .cut "MARG-B"⟩], 9, by decide, by decide, by decide⟩
  staged := [⟨1, "P1", "A", some 7⟩, ⟨1, "P2", "B", some 8⟩]
  linked := by decide +kernel
  branches := [⟨1, some 3⟩]

/-- Two sales, the first of a pid at a date, the second of the first product on the 21st day. -/
def twoSales (pid : String) (date : Millis) : List MargTransaction :=
  [{ invoiceLine "I;GST" with pid := .of pid, date := date },
    { invoiceLine "I;GST" with sourceKey := "marg:1:11", margId := 11, date := 20 * 86400000 }]

theorem nodup_twoSales (pid : String) (date : Millis) :
    ((twoSales pid date).map fun l => (l.companyId, l.sourceKey)).Nodup := by
  change [((1 : ℤ), "marg:1:10"), (1, "marg:1:11")].Nodup
  decide

def syncOfTwoSales (pid : String) (date : Millis) (dateWindow : Option DateWindow) :
    LedgerSync where
  settings := ⟨asciiPlatform, 2000, 5000⟩
  masters := twoProducts
  docs := ⟨[invoiceHeader "I;GST"], nodup_invoiceHeader "I;GST", twoSales pid date,
    nodup_twoSales pid date⟩
  batches := []
  dateWindow := dateWindow
  projectionWindowReset := dateWindow.isSome
  failedAfter := none

/-- A full sync, and one of the second month in which the first sale has moved to it and to
the second product. -/
def movedSale : List LedgerSync :=
  [syncOfTwoSales "P1" 0 none,
    syncOfTwoSales "P2" (40 * 86400000) (some ⟨some (31 * 86400000), some (58 * 86400000)⟩)]

def emptyLedger : Ledger := ⟨[], List.nodup_nil⟩

theorem balanced_stateAt_iff_keepsBalances_movedSale :
    (∀ k, (stateAt LedgerSync.ledgerAfter emptyLedger movedSale k).Balanced) ↔
      Always LedgerSync.ledgerAfter (fun ledger sync => sync.KeepsBalances ledger) emptyLedger
        movedSale :=
  balanced_stateAt_iff_keepsBalances (by decide) (by decide +kernel)

/-- The second sale keeps a balance that still counts the first. -/
theorem not_balanced_movedSale :
    emptyLedger.Balanced ∧ (∀ sync ∈ movedSale, sync.Completes) ∧
      ¬(run LedgerSync.ledgerAfter emptyLedger movedSale).Balanced := by
  decide +kernel

end Forecast
