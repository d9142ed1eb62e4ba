import Forecast.Accounting.JournalEntries
import Forecast.Lib.DecimalColumn
import Forecast.Lib.Joins
import Mathlib.Data.List.Sort

/-!
# The trial balance

`getTrialBalance` joins the accounts of a tenant with their journal lines and
those with their entries, and adds up the lines of each account. Its filters are
conditions of the second join, so they take a line's entry away but not the line.
-/

open DecimalColumn OuterJoin

namespace Forecast.Accounting

/-- An amount of a `DECIMAL(18, 4)` column. -/
abbrev Amount := Column 18 4

inductive GLAccountType where
  | asset
  | liability
  | equity
  | revenue
  | expense
  | contraAsset
deriving DecidableEq

inductive NormalBalance where
  | debit
  | credit
deriving DecidableEq

/-- A row of `gl_accounts`. -/
structure GLAccount where
  id : Id
  tenantId : Id
  accountNumber : String
  name : String
  accountType : GLAccountType
  normalBalance : NormalBalance
  isActive : Bool
deriving DecidableEq

/-- A row of `journal_entries`; the date is a number of days since the epoch. -/
structure JournalEntry where
  id : Id
  tenantId : Id
  entryDate : ℤ
  fiscalPeriodId : Option Id
  status : JournalEntryStatus
deriving DecidableEq

/-- A row of `journal_entry_lines`. -/
structure JournalEntryLine where
  journalEntryId : Id
  glAccountId : Id
  debitAmount : Amount
  creditAmount : Amount
deriving DecidableEq

structure Books where
  accounts : List GLAccount
  entries : List JournalEntry
  lines : List JournalEntryLine
  accountIds : (accounts.map GLAccount.id).Nodup
  entryIds : (entries.map JournalEntry.id).Nodup

structure TrialBalanceFilters where
  fromDate : Option Millis := none
  toDate : Option Millis := none
  fiscalPeriodId : Option Id := none

structure TrialBalanceRow where
  id : Id
  accountNumber : String
  name : String
  accountType : GLAccountType
  normalBalance : NormalBalance
  totalDebits : ℚ
  totalCredits : ℚ
  netBalance : ℚ
deriving DecidableEq

/-- A date compared with a moment stands for its midnight. -/
def midnight (day : ℤ) : Millis := day * 86400000

namespace TrialBalanceFilters

variable (filters : TrialBalanceFilters)

def dateFilter (je : JournalEntry) : Bool :=
  match filters.fromDate, filters.toDate with
  | some fromDate, some toDate => fromDate ≤ midnight je.entryDate ∧ midnight je.entryDate ≤ toDate
  | some fromDate, none => fromDate ≤ midnight je.entryDate
  | none, some toDate => midnight je.entryDate ≤ toDate
  | none, none => true

def periodFilter (je : JournalEntry) : Bool :=
  match filters.fiscalPeriodId with
  | some fiscalPeriodId => je.fiscalPeriodId = some fiscalPeriodId
  | none => true

/-- The conditions that the second join puts on an entry. -/
def covers (tenantId : Id) (je : JournalEntry) : Bool :=
  je.tenantId = tenantId && je.status = .posted && filters.dateFilter je && filters.periodFilter je

end TrialBalanceFilters

/-- The columns of `gl_accounts` that the report groups by. -/
structure TrialBalanceKey where
  id : Id
  accountNumber : String
  name : String
  accountType : GLAccountType
  normalBalance : NormalBalance
deriving DecidableEq

def GLAccount.key (ga : GLAccount) : TrialBalanceKey :=
  ⟨ga.id, ga.accountNumber, ga.name, ga.accountType, ga.normalBalance⟩

abbrev JoinedRow := (GLAccount × Option JournalEntryLine) × Option JournalEntry

namespace Books

variable (books : Books) (tenantId : Id) (filters : TrialBalanceFilters)

/-- `gl_accounts` with their lines -/
def accountLines : List (GLAccount × Option JournalEntryLine) :=
  leftJoin (fun ga jl => jl.glAccountId = ga.id) books.accounts books.lines

/-- `je.id = jl.journal_entry_id` and the filters, which come after it in the same condition. -/
def onEntry (row : GLAccount × Option JournalEntryLine) (je : JournalEntry) : Bool :=
  row.2.any fun jl => je.id = jl.journalEntryId && filters.covers tenantId je

def joined : List JoinedRow := leftJoin (onEntry tenantId filters) books.accountLines books.entries

def isReported (ga : GLAccount) : Bool := ga.tenantId = tenantId && ga.isActive

def selected : List JoinedRow :=
  (books.joined tenantId filters).filter fun row => isReported tenantId row.1.1

end Books

def debit? (row : JoinedRow) : Option ℚ := row.1.2.map fun jl => jl.debitAmount.value

def credit? (row : JoinedRow) : Option ℚ := row.1.2.map fun jl => jl.creditAmount.value

def trialBalanceRow (group : TrialBalanceKey × List JoinedRow) : TrialBalanceRow :=
  let totalDebits := (sum (group.2.map debit?)).getD 0
  let totalCredits := (sum (group.2.map credit?)).getD 0
  { id := group.1.id
    accountNumber := group.1.accountNumber
    name := group.1.name
    accountType := group.1.accountType
    normalBalance := group.1.normalBalance
    totalDebits := totalDebits
    totalCredits := totalCredits
    netBalance := totalDebits - totalCredits }

def Books.getTrialBalance (books : Books) (tenantId : Id) (filters : TrialBalanceFilters) :
    List TrialBalanceRow :=
  ((groupBy (fun row : JoinedRow => row.1.1.key) (books.selected tenantId filters)).map
    trialBalanceRow).mergeSort fun r s => r.accountNumber ≤ s.accountNumber

/-! ### What the report is to say -/

/-- The entry is posted, of the tenant, and within every filter that is set. -/
structure IsRequested (tenantId : Id) (filters : TrialBalanceFilters) (je : JournalEntry) :
    Prop where
  tenant : je.tenantId = tenantId
  posted : je.status = .posted
  since : ∀ fromDate ∈ filters.fromDate, fromDate ≤ midnight je.entryDate
  upTo : ∀ toDate ∈ filters.toDate, midnight je.entryDate ≤ toDate
  period : ∀ fiscalPeriodId ∈ filters.fiscalPeriodId, je.fiscalPeriodId = some fiscalPeriodId

theorem covers_iff {tenantId : Id} {filters : TrialBalanceFilters} {je : JournalEntry} :
    filters.covers tenantId je = true ↔ IsRequested tenantId filters je := by
  have hdate : filters.dateFilter je = true ↔
      (∀ fromDate ∈ filters.fromDate, fromDate ≤ midnight je.entryDate) ∧
        ∀ toDate ∈ filters.toDate, midnight je.entryDate ≤ toDate := by
    unfold TrialBalanceFilters.dateFilter
    cases filters.fromDate <;> cases filters.toDate <;> simp
  have hperiod : filters.periodFilter je = true ↔
      ∀ fiscalPeriodId ∈ filters.fiscalPeriodId, je.fiscalPeriodId = some fiscalPeriodId := by
    unfold TrialBalanceFilters.periodFilter
    cases filters.fiscalPeriodId <;> simp
  rw [TrialBalanceFilters.covers, Bool.and_eq_true, Bool.and_eq_true, Bool.and_eq_true, hdate,
    hperiod, decide_eq_true_iff, decide_eq_true_iff]
  constructor
  · rintro ⟨⟨⟨htenant, hposted⟩, hsince, huntil⟩, hperiod⟩
    exact ⟨htenant, hposted, hsince, huntil, hperiod⟩
  · rintro ⟨htenant, hposted, hsince, huntil, hperiod⟩
    exact ⟨⟨⟨htenant, hposted⟩, hsince, huntil⟩, hperiod⟩

instance (tenantId : Id) (filters : TrialBalanceFilters) (je : JournalEntry) :
    Decidable (IsRequested tenantId filters je) := decidable_of_iff _ covers_iff

def debits (lines : List JournalEntryLine) : ℚ :=
  (lines.map fun jl => jl.debitAmount.value).sum

def credits (lines : List JournalEntryLine) : ℚ :=
  (lines.map fun jl => jl.creditAmount.value).sum

/-! ### Entries in the tables -/

def rowOf (tenantId : Id) (entry : Forecast.JournalEntry) : JournalEntry where
  id := entry.id
  tenantId := tenantId
  entryDate := entry.entryDate / 86400000
  fiscalPeriodId := entry.fiscalPeriodId
  status := entry.status

theorem midnight_rowOf (tenantId : Id) (entry : Forecast.JournalEntry) :
    midnight (rowOf tenantId entry).entryDate = dateColumn entry.entryDate := rfl

def lineRow (journalEntryId : Id) (line : Forecast.JournalEntryLine) :
    Option JournalEntryLine := do
  let debitAmount ← Column.store line.debitAmount
  let creditAmount ← Column.store line.creditAmount
  pure ⟨journalEntryId, line.glAccountId, debitAmount, creditAmount⟩

section Rows

variable {journalEntryId : Id} {lines : List Forecast.JournalEntryLine}
  {rows : List JournalEntryLine}

theorem totals_of_lineRow
    (hrows : List.Forall₂ (fun line row => lineRow journalEntryId line = some row) lines rows)
    (hscale : ∀ line ∈ lines, OnScale 4 line.debitAmount ∧ OnScale 4 line.creditAmount) :
    debits rows = (lines.map Forecast.JournalEntryLine.debitAmount).sum ∧
      credits rows = (lines.map Forecast.JournalEntryLine.creditAmount).sum := by
  induction hrows with
  | nil => exact ⟨rfl, rfl⟩
  | @cons line row lines rows hrow _ ih =>
    obtain ⟨hdebits, hcredits⟩ := ih fun line hline => hscale line (List.mem_cons_of_mem _ hline)
    obtain ⟨hdebit, hcredit⟩ := hscale line List.mem_cons_self
    obtain ⟨debitAmount, hdebitAmount, hrow⟩ := Option.bind_eq_some_iff.1 hrow
    obtain ⟨creditAmount, hcreditAmount, hrow⟩ := Option.bind_eq_some_iff.1 hrow
    obtain rfl := Option.some.inj hrow
    rw [debits, credits] at *
    simp only [List.map_cons, List.sum_cons, hdebits, hcredits,
      Column.value_of_store hdebitAmount hdebit, Column.value_of_store hcreditAmount hcredit,
      and_self]

/-- The rows of a new entry have equal totals when its amounts have no more than four decimals. -/
theorem debits_eq_credits_of_created {context : AccountingContext}
    {entries : List Forecast.JournalEntry} {params : JournalParams}
    {created : List Forecast.JournalEntry × Forecast.JournalEntry}
    (h : createJournalEntry context entries params = .ok created)
    (hnew : findByIdempotencyKey entries params.idempotencyKey = none)
    (hscale : ∀ line ∈ params.lines, OnScale 4 line.debitAmount ∧ OnScale 4 line.creditAmount)
    (hrows : List.Forall₂ (fun line row => lineRow created.2.id line = some row)
      created.2.lines rows) : debits rows = credits rows := by
  obtain ⟨-, -, currency, hentry⟩ := createJournalEntry_eq_ok h hnew
  have hlines : created.2.lines = params.lines := by rw [hentry, JournalParams.entry]
  rw [hlines] at hrows
  obtain ⟨hdebits, hcredits⟩ := totals_of_lineRow hrows hscale
  rw [hdebits, hcredits]
  exact totalDebit_eq_of_created h hnew

end Rows

namespace Books

variable (books : Books) (tenantId : Id) (filters : TrialBalanceFilters)

def linesOf (ga : GLAccount) : List JournalEntryLine :=
  books.lines.filter fun jl => jl.glAccountId = ga.id

/-- The line belongs to an entry that is asked for. -/
def isRequestedLine (jl : JournalEntryLine) : Bool :=
  decide (∃ je ∈ books.entries, je.id = jl.journalEntryId ∧ IsRequested tenantId filters je)

def requestedLines (ga : GLAccount) : List JournalEntryLine :=
  (books.linesOf ga).filter (books.isRequestedLine tenantId filters)

def excludedLines (ga : GLAccount) : List JournalEntryLine :=
  (books.linesOf ga).filter fun jl => !books.isRequestedLine tenantId filters jl

def reportedAccounts : List GLAccount := books.accounts.filter (isReported tenantId)

/-- One row for each account, with the totals of the lines that are asked for. -/
structure TrialBalanceLaw : Prop where
  rows : ((books.getTrialBalance tenantId filters).map TrialBalanceRow.id).Perm
    ((books.reportedAccounts tenantId).map GLAccount.id)
  totals : ∀ row ∈ books.getTrialBalance tenantId filters, ∀ ga ∈ books.accounts, ga.id = row.id →
    row.totalDebits = debits (books.requestedLines tenantId filters ga) ∧
      row.totalCredits = credits (books.requestedLines tenantId filters ga)

/-- What the filters leave out of each account adds up to nothing. -/
def ExcludesNothing : Prop :=
  ∀ ga ∈ books.reportedAccounts tenantId,
    debits (books.excludedLines tenantId filters ga) = 0 ∧
      credits (books.excludedLines tenantId filters ga) = 0

end Books

end Forecast.Accounting
