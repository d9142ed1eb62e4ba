import Forecast.Accounting.TrialBalance

/-!
# What the trial balance adds up

The second join keeps every line, so an account's totals are those of all its
lines. They are the totals of the lines that were asked for exactly when the
lines that were not asked for add up to nothing.
-/

open DecimalColumn OuterJoin

namespace Forecast.Accounting

theorem totalDebits_trialBalanceRow (group : TrialBalanceKey × List JoinedRow) :
    (trialBalanceRow group).totalDebits = (group.2.map debit?).reduceOption.sum := getD_sum _

theorem totalCredits_trialBalanceRow (group : TrialBalanceKey × List JoinedRow) :
    (trialBalanceRow group).totalCredits = (group.2.map credit?).reduceOption.sum := getD_sum _

namespace Books

variable {books : Books} {tenantId : Id} {filters : TrialBalanceFilters}

variable (books tenantId filters) in
/-- A line has one entry, so at most one entry is joined to it. -/
theorem map_fst_joined : (books.joined tenantId filters).map Prod.fst = books.accountLines := by
  apply map_fst_leftJoin
  rintro ⟨ga, partner⟩ -
  cases partner with
  | none =>
    have hnone : books.entries.filter (onEntry tenantId filters (ga, none)) = [] :=
      List.filter_eq_nil_iff.2 fun _ _ => by simp [onEntry]
    rw [hnone]
    exact Nat.zero_le 1
  | some jl =>
    have hsub : (books.entries.filter (onEntry tenantId filters (ga, some jl))).Sublist
        (books.entries.filter fun je => je.id = jl.journalEntryId) := by
      apply List.monotone_filter_right
      intro je hje
      exact (Bool.and_eq_true_iff.1 hje).1
    refine hsub.length_le.trans ?_
    have hnodup := books.entryIds
    rw [List.nodup_iff_count_le_one] at hnodup
    have hcount := hnodup jl.journalEntryId
    rw [List.count, List.countP_map, List.countP_eq_length_filter] at hcount
    exact hcount

theorem key_inj {ga gb : GLAccount} (ha : ga ∈ books.accounts) (hb : gb ∈ books.accounts)
    (h : ga.id = gb.id) : ga = gb :=
  List.inj_on_of_nodup_map books.accountIds ha hb h

theorem mem_reportedAccounts {ga : GLAccount} :
    ga ∈ books.reportedAccounts tenantId ↔ ga ∈ books.accounts ∧ isReported tenantId ga = true :=
  List.mem_filter

theorem selected_map_fst :
    (books.selected tenantId filters).map Prod.fst =
      books.accountLines.filter fun row => isReported tenantId row.1 := by
  rw [selected, ← map_fst_joined books tenantId filters, List.filter_map]
  rfl

theorem mem_keys_selected {k : TrialBalanceKey} :
    k ∈ (books.selected tenantId filters).map (fun row => row.1.1.key) ↔
      k ∈ (books.reportedAccounts tenantId).map GLAccount.key := by
  have hmap : (books.selected tenantId filters).map (fun row => row.1.1.key) =
      (((books.selected tenantId filters).map Prod.fst).map Prod.fst).map GLAccount.key := by
    rw [List.map_map, List.map_map]
    rfl
  rw [hmap, selected_map_fst, List.mem_map, List.mem_map]
  apply exists_congr
  intro ga
  have hjoined : ga ∈ books.accountLines.map Prod.fst ↔ ga ∈ books.accounts := mem_map_fst_leftJoin
  rw [mem_reportedAccounts, ← hjoined]
  simp only [List.mem_map, List.mem_filter]
  constructor
  · rintro ⟨⟨row, ⟨hrow, hreported⟩, rfl⟩, hk⟩
    exact ⟨⟨⟨row, hrow, rfl⟩, hreported⟩, hk⟩
  · rintro ⟨⟨⟨row, hrow, rfl⟩, hreported⟩, hk⟩
    exact ⟨⟨row, ⟨hrow, hreported⟩, rfl⟩, hk⟩

theorem reduceOption_selected {ga : GLAccount} (hga : ga ∈ books.reportedAccounts tenantId)
    (f : JournalEntryLine → ℚ) :
    ((((books.selected tenantId filters).filter fun row => row.1.1.key = ga.key).map
      fun row => row.1.2.map f).reduceOption) = (books.linesOf ga).map f := by
  obtain ⟨hmem, hreported⟩ := mem_reportedAccounts.1 hga
  have hrows : ((books.selected tenantId filters).filter fun row => row.1.1.key = ga.key).map
      (fun row => row.1.2.map f) =
        ((books.accountLines.filter fun row => decide (row.1 = ga)).map fun row => row.2.map f) := by
    have hfst : ((books.selected tenantId filters).filter fun row => row.1.1.key = ga.key).map
        Prod.fst = books.accountLines.filter fun row => decide (row.1 = ga) := by
      have hpush := List.filter_map (f := Prod.fst) (l := books.selected tenantId filters)
        (p := fun row : GLAccount × Option JournalEntryLine => decide (row.1.key = ga.key))
      rw [show ((fun row : GLAccount × Option JournalEntryLine => decide (row.1.key = ga.key)) ∘
        Prod.fst : JoinedRow → Bool) = fun row => decide (row.1.1.key = ga.key) from rfl] at hpush
      rw [← hpush, selected_map_fst, List.filter_filter]
      apply List.filter_congr
      intro row hrow
      have haccount : row.1 ∈ books.accounts :=
        mem_map_fst_leftJoin.1 (List.mem_map_of_mem (f := Prod.fst) hrow)
      by_cases heq : row.1 = ga
      · simp [heq, hreported]
      · have hkey : row.1.key ≠ ga.key := fun h =>
          heq (key_inj haccount hmem (congrArg TrialBalanceKey.id h))
        simp [heq, hkey]
    rw [← hfst, List.map_map]
    rfl
  have hsingle : books.accounts.filter (fun gb => decide (gb = ga)) = [ga] := by
    have hnodup := List.Nodup.of_map _ books.accountIds
    rw [List.filter_eq, List.count_eq_one_of_mem hnodup hmem]
    rfl
  rw [hrows, accountLines, reduceOption_leftJoin (fun gb => decide (gb = ga)) f, hsingle]
  exact List.append_nil _

theorem exists_of_mem_getTrialBalance {row : TrialBalanceRow}
    (h : row ∈ books.getTrialBalance tenantId filters) :
    ∃ ga ∈ books.reportedAccounts tenantId, row.id = ga.id ∧
      row.totalDebits = debits (books.linesOf ga) ∧
      row.totalCredits = credits (books.linesOf ga) := by
  rw [getTrialBalance, List.mem_mergeSort] at h
  obtain ⟨group, hgroup, rfl⟩ := List.mem_map.1 h
  obtain ⟨hkey, hrows⟩ := mem_groupBy hgroup
  obtain ⟨ga, hga, hgakey⟩ := List.mem_map.1 (mem_keys_selected.1 hkey)
  rw [← hgakey] at hrows
  refine ⟨ga, hga, ?_, ?_, ?_⟩
  · rw [trialBalanceRow, ← hgakey]
    rfl
  · rw [totalDebits_trialBalanceRow, hrows]
    exact congrArg List.sum (reduceOption_selected hga _)
  · rw [totalCredits_trialBalanceRow, hrows]
    exact congrArg List.sum (reduceOption_selected hga _)

theorem ids_getTrialBalance :
    ((books.getTrialBalance tenantId filters).map TrialBalanceRow.id).Perm
      ((books.reportedAccounts tenantId).map GLAccount.id) := by
  have hnodup : ((books.reportedAccounts tenantId).map GLAccount.key).Nodup := by
    have hids : ((books.reportedAccounts tenantId).map GLAccount.id).Nodup :=
      books.accountIds.sublist (List.filter_sublist.map _)
    apply List.Nodup.of_map TrialBalanceKey.id
    rw [List.map_map]
    exact hids
  have hkeys : ((books.selected tenantId filters).map fun row => row.1.1.key).dedup.Perm
      ((books.reportedAccounts tenantId).map GLAccount.key) := by
    apply (List.perm_ext_iff_of_nodup (List.nodup_dedup _) hnodup).2
    intro k
    rw [List.mem_dedup]
    exact mem_keys_selected
  have hsorted := (List.mergeSort_perm
    ((groupBy (fun row : JoinedRow => row.1.1.key) (books.selected tenantId filters)).map
      trialBalanceRow) fun r s => r.accountNumber ≤ s.accountNumber).map TrialBalanceRow.id
  refine hsorted.trans ?_
  have hgroups := map_fst_groupBy (fun row : JoinedRow => row.1.1.key)
    (books.selected tenantId filters)
  have hids := hkeys.map TrialBalanceKey.id
  rw [← hgroups, List.map_map, List.map_map] at hids
  rw [List.map_map]
  exact hids

variable (books tenantId filters) in
/-- The lines of an account are those that were asked for and the others. -/
theorem sum_linesOf (ga : GLAccount) (f : JournalEntryLine → ℚ) :
    ((books.linesOf ga).map f).sum =
      ((books.requestedLines tenantId filters ga).map f).sum +
        ((books.excludedLines tenantId filters ga).map f).sum := by
  rw [← List.sum_append, ← List.map_append]
  exact ((List.filter_append_perm _ _).map f).sum_eq.symm

end Books

/-- The trial balance is that of the lines that were asked for when and only when the lines of
each account that were not asked for add up to nothing. -/
theorem trialBalanceLaw_iff_excludesNothing (books : Books) (tenantId : Id)
    (filters : TrialBalanceFilters) :
    books.TrialBalanceLaw tenantId filters ↔ books.ExcludesNothing tenantId filters := by
  constructor
  · intro hlaw ga hga
    obtain ⟨hmem, -⟩ := Books.mem_reportedAccounts.1 hga
    obtain ⟨row, hrow, hid⟩ : ∃ row ∈ books.getTrialBalance tenantId filters, row.id = ga.id := by
      have hids := (hlaw.rows.mem_iff (a := ga.id)).2 (List.mem_map_of_mem hga)
      exact List.mem_map.1 hids
    obtain ⟨gb, hgb, hgbid, hdebits, hcredits⟩ := Books.exists_of_mem_getTrialBalance hrow
    obtain rfl : gb = ga :=
      Books.key_inj (Books.mem_reportedAccounts.1 hgb).1 hmem (hgbid.symm.trans hid)
    obtain ⟨hdebitsLaw, hcreditsLaw⟩ := hlaw.totals row hrow gb hmem hid.symm
    have hdebitsSplit := Books.sum_linesOf books tenantId filters gb
      fun jl => jl.debitAmount.value
    have hcreditsSplit := Books.sum_linesOf books tenantId filters gb
      fun jl => jl.creditAmount.value
    unfold debits at hdebits hdebitsLaw
    unfold credits at hcredits hcreditsLaw
    constructor
    · unfold debits
      linarith
    · unfold credits
      linarith
  · intro hnothing
    refine ⟨Books.ids_getTrialBalance, fun row hrow ga hmem hid => ?_⟩
    obtain ⟨gb, hgb, hgbid, hdebits, hcredits⟩ := Books.exists_of_mem_getTrialBalance hrow
    obtain rfl : gb = ga :=
      Books.key_inj (Books.mem_reportedAccounts.1 hgb).1 hmem (hgbid.symm.trans hid.symm)
    obtain ⟨hdebitsOut, hcreditsOut⟩ := hnothing gb hgb
    constructor
    · rw [hdebits, debits, Books.sum_linesOf books tenantId filters]
      exact (congrArg _ hdebitsOut).trans (add_zero _)
    · rw [hcredits, credits, Books.sum_linesOf books tenantId filters]
      exact (congrArg _ hcreditsOut).trans (add_zero _)

/-! ### A line from before the period -/

theorem hundred_bound : |(1000000 : ℤ)| < 10 ^ 18 := by decide

def cashBooks : Books where
  accounts := [⟨1, 1, "1000", "Cash", .asset, .debit, true⟩]
  entries := [⟨1, 1, 10, none, .posted⟩]
  lines := [⟨1, 1, ⟨1000000, hundred_bound⟩, .zero⟩]
  accountIds := by decide
  entryIds := by decide

/-- Asked for the days from the twentieth on, the report still shows the debit. -/
theorem not_trialBalanceLaw_lineBeforeFromDate :
    ¬ cashBooks.TrialBalanceLaw 1 { fromDate := some (midnight 20) } := by
  intro hlaw
  have hrow : ∃ row ∈ cashBooks.getTrialBalance 1 { fromDate := some (midnight 20) },
      row.id = 1 ∧ row.totalDebits = 100 := by decide +kernel
  obtain ⟨row, hmem, hid, hdebits⟩ := hrow
  have htotal := (hlaw.totals row hmem ⟨1, 1, "1000", "Cash", .asset, .debit, true⟩
    List.mem_cons_self hid.symm).1
  have hnone : cashBooks.requestedLines 1 { fromDate := some (midnight 20) }
      ⟨1, 1, "1000", "Cash", .asset, .debit, true⟩ = [] := by decide +kernel
  rw [hdebits, hnone] at htotal
  norm_num [debits] at htotal

end Forecast.Accounting
