import Forecast.Billing.Schema
import Forecast.Lib.KeyedTable
import Forecast.Marg.Dates

/-!
# Journal entries

The double-entry ledger: an entry is created once for its idempotency key, in an
open period and balanced; a reversal is a mirror entry that marks the original.
-/

open KeyedTable

namespace Forecast

inductive JournalEntryStatus where
  | posted
  | reversed
deriving DecidableEq

structure JournalEntryLine where
  glAccountId : Id
  debitAmount : ℚ
  creditAmount : ℚ
  productId : Option Id := none
  locationId : Option Id := none
  costCenterId : Option Id := none
  description : Option String
deriving DecidableEq

/-- A row of `journal_entries` with its lines, in the order of their numbers. -/
structure JournalEntry where
  id : Id
  entryDate : Millis
  fiscalPeriodId : Option Id
  referenceType : String
  referenceId : Option Id
  reversalOfId : Option Id := none
  isReversed : Bool := false
  status : JournalEntryStatus := .posted
  totalDebit : ℚ
  totalCredit : ℚ
  currency : String
  description : Option String
  idempotencyKey : Option String
  lines : List JournalEntryLine
deriving DecidableEq

structure FiscalPeriod where
  id : Id
  periodName : String
  isLocked : Bool
  isClosed : Bool
deriving DecidableEq

/-- What the service reads besides the entries. -/
structure AccountingContext where
  now : Millis
  /-- The period that contains a date, as the service finds it. -/
  findFiscalPeriod : Millis → Option FiscalPeriod
  fiscalPeriods : List FiscalPeriod := []
  defaultCurrency : Option String := none

inductive JournalError where
  | periodLocked (periodName : String)
  | periodClosed (periodName : String)
  | unbalanced (totalDebit totalCredit : ℚ)
  | zeroAmounts
  | noCurrency
  | notFound
  | alreadyReversed
  | isReversal
deriving DecidableEq

def JournalError.text (shown : ℚ → String) (tenantId : String) : JournalError → String
  | periodLocked periodName =>
    s!"Fiscal period {periodName} is locked. Cannot post entries to a locked period."
  | periodClosed periodName => s!"Fiscal period {periodName} is closed."
  | unbalanced totalDebit totalCredit =>
    "Journal entry must balance. Debits: " ++ shown totalDebit ++ ", Credits: " ++ shown totalCredit
  | zeroAmounts => "Journal entry must have non-zero amounts"
  | noCurrency =>
    s!"Tenant {tenantId} has no default currency configured. " ++
      "Set tenant.defaultCurrency before posting journal entries."
  | notFound => "Journal entry not found"
  | alreadyReversed => "Journal entry has already been reversed"
  | isReversal => "Cannot reverse a reversal entry"

structure JournalParams where
  entryDate : Millis
  referenceType : String
  referenceId : Option Id := none
  description : Option String := none
  idempotencyKey : Option String := none
  fiscalPeriodId : Option Id := none
  currency : Option String := none
  lines : List JournalEntryLine
deriving DecidableEq

namespace JournalParams

variable (params : JournalParams)

def totalDebit : ℚ := (params.lines.map JournalEntryLine.debitAmount).sum

def totalCredit : ℚ := (params.lines.map JournalEntryLine.creditAmount).sum

def periodId (context : AccountingContext) : Option Id :=
  match params.fiscalPeriodId with
  | some id => (context.fiscalPeriods.find? fun period => period.id = id).map FiscalPeriod.id
  | none => (context.findFiscalPeriod params.entryDate).map FiscalPeriod.id

/-- The entry that is created when every check passes. -/
def entry (context : AccountingContext) (id : Id) (currency : String) : JournalEntry where
  id := id
  entryDate := params.entryDate
  fiscalPeriodId := params.periodId context
  referenceType := params.referenceType
  referenceId := params.referenceId
  totalDebit := params.totalDebit
  totalCredit := params.totalCredit
  currency := currency
  description := params.description
  idempotencyKey := params.idempotencyKey
  lines := params.lines

end JournalParams

def nextJournalId (entries : List JournalEntry) : Id := freshId (entries.map JournalEntry.id)

section Service

variable (context : AccountingContext)

def validatePeriodOpen (entryDate : Millis) : Except JournalError Unit :=
  match context.findFiscalPeriod entryDate with
  | none => .ok ()
  | some period =>
    if period.isLocked then .error (.periodLocked period.periodName)
    else if period.isClosed then .error (.periodClosed period.periodName)
    else .ok ()

def findByIdempotencyKey (entries : List JournalEntry) (key : Option String) :
    Option JournalEntry :=
  (given key).bind fun key => entries.find? fun entry => entry.idempotencyKey = some key

def createJournalEntry (entries : List JournalEntry) (params : JournalParams) :
    Except JournalError (List JournalEntry × JournalEntry) :=
  match findByIdempotencyKey entries params.idempotencyKey with
  | some existing => .ok (entries, existing)
  | none => do
      validatePeriodOpen context params.entryDate
      if params.totalDebit ≠ params.totalCredit then
        throw (.unbalanced params.totalDebit params.totalCredit)
      if params.totalDebit = 0 then throw .zeroAmounts
      match (given params.currency).or (given context.defaultCurrency) with
      | none => throw .noCurrency
      | some currency =>
        let entry := params.entry context (nextJournalId entries) currency
        pure (entries ++ [entry], entry)

def JournalEntryLine.mirrored (line : JournalEntryLine) : JournalEntryLine :=
  { line with
    debitAmount := line.creditAmount
    creditAmount := line.debitAmount
    description := some ("Reversal: " ++ line.description.getD "") }

def JournalEntry.reversal (original : JournalEntry) (id : Id) (reason : String) : JournalEntry where
  id := id
  entryDate := context.now
  fiscalPeriodId := (context.findFiscalPeriod context.now).map FiscalPeriod.id
  referenceType := "REVERSAL"
  referenceId := some original.id
  reversalOfId := some original.id
  totalDebit := original.totalCredit
  totalCredit := original.totalDebit
  currency := original.currency
  description := some reason
  idempotencyKey := none
  lines := original.lines.map JournalEntryLine.mirrored

def JournalEntry.markedReversed (id : Id) (entry : JournalEntry) : JournalEntry :=
  if entry.id = id then { entry with isReversed := true } else entry

def reverseJournalEntry (entries : List JournalEntry) (journalEntryId : Id) (reason : String) :
    Except JournalError (List JournalEntry) :=
  match lookup JournalEntry.id entries journalEntryId with
  | none => throw .notFound
  | some original => do
      if original.isReversed then throw .alreadyReversed
      if original.status = .reversed then throw .isReversal
      validatePeriodOpen context context.now
      pure ((entries ++ [original.reversal context (nextJournalId entries) reason]).map
        (JournalEntry.markedReversed original.id))

end Service

/-! ### What the two operations do -/

theorem nextJournalId_not_mem (entries : List JournalEntry) :
    nextJournalId entries ∉ entries.map JournalEntry.id :=
  freshId_not_mem _

def AccountingContext.IsOpen (context : AccountingContext) (date : Millis) : Prop :=
  ∀ period, context.findFiscalPeriod date = some period →
    period.isLocked = false ∧ period.isClosed = false

theorem validatePeriodOpen_eq_ok {context : AccountingContext} {date : Millis} {u : Unit} :
    validatePeriodOpen context date = .ok u ↔ context.IsOpen date := by
  unfold validatePeriodOpen AccountingContext.IsOpen
  cases hperiod : context.findFiscalPeriod date with
  | none => simp
  | some period => cases hlocked : period.isLocked <;> cases hclosed : period.isClosed <;> simp_all

theorem id_markedReversed (id : Id) (j : JournalEntry) : (j.markedReversed id).id = j.id := by
  unfold JournalEntry.markedReversed
  by_cases h : j.id = id
  · rw [if_pos h]
  · rw [if_neg h]

/-- What it takes for new parameters to be posted. -/
structure JournalParams.Postable (context : AccountingContext) (params : JournalParams) : Prop where
  opened : context.IsOpen params.entryDate
  balanced : params.totalDebit = params.totalCredit
  nonzero : params.totalDebit ≠ 0

theorem createJournalEntry_of_new {context : AccountingContext} {entries : List JournalEntry}
    (params : JournalParams) (currency : String)
    (hnew : findByIdempotencyKey entries params.idempotencyKey = none)
    (hpostable : params.Postable context) (hcurrency : given params.currency = some currency) :
    createJournalEntry context entries params =
      .ok (entries ++ [params.entry context (nextJournalId entries) currency],
        params.entry context (nextJournalId entries) currency) := by
  unfold createJournalEntry
  rw [hnew]
  simp only [(validatePeriodOpen_eq_ok (u := ())).2 hpostable.opened, hcurrency, hpostable.balanced,
    Option.some_or]
  have hnonzero : params.totalCredit ≠ 0 := hpostable.balanced ▸ hpostable.nonzero
  simp [hnonzero]

theorem reverseJournalEntry_of_live {context : AccountingContext} {entries : List JournalEntry}
    {original : JournalEntry} {reason : String}
    (hfound : lookup JournalEntry.id entries original.id = some original)
    (hlive : original.isReversed = false) (hstatus : original.status = .posted)
    (hopened : context.IsOpen context.now) :
    reverseJournalEntry context entries original.id reason =
      .ok ((entries ++ [original.reversal context (nextJournalId entries) reason]).map
        (JournalEntry.markedReversed original.id)) := by
  unfold reverseJournalEntry
  rw [hfound]
  simp only [hlive, hstatus, (validatePeriodOpen_eq_ok (u := ())).2 hopened]
  rfl

/-- A new entry is dated in an open period and appended. -/
theorem createJournalEntry_eq_ok {context : AccountingContext} {entries : List JournalEntry}
    {params : JournalParams} {created : List JournalEntry × JournalEntry}
    (h : createJournalEntry context entries params = .ok created)
    (hnew : findByIdempotencyKey entries params.idempotencyKey = none) :
    context.IsOpen params.entryDate ∧ created.1 = entries ++ [created.2] ∧
      ∃ currency, created.2 = params.entry context (nextJournalId entries) currency := by
  unfold createJournalEntry at h
  rw [hnew] at h
  simp only [bind_eq_ok, validatePeriodOpen_eq_ok] at h
  obtain ⟨-, hopened, h⟩ := h
  refine ⟨hopened, ?_⟩
  cases hcurrency : (given params.currency).or (given context.defaultCurrency) with
  | none =>
    rw [hcurrency] at h
    split_ifs at h <;> cases h
  | some currency =>
    rw [hcurrency] at h
    split_ifs at h <;> cases h
    exact ⟨rfl, currency, rfl⟩

theorem totalDebit_eq_of_created {context : AccountingContext} {entries : List JournalEntry}
    {params : JournalParams} {created : List JournalEntry × JournalEntry}
    (h : createJournalEntry context entries params = .ok created)
    (hnew : findByIdempotencyKey entries params.idempotencyKey = none) :
    params.totalDebit = params.totalCredit := by
  by_contra hne
  simp only [createJournalEntry, hnew, bind_eq_ok, if_pos hne] at h
  obtain ⟨-, -, _, hthrown, -⟩ := h
  cases hthrown

theorem reverseJournalEntry_eq_ok {context : AccountingContext} {entries entries' : List JournalEntry}
    {journalEntryId : Id} {reason : String}
    (h : reverseJournalEntry context entries journalEntryId reason = .ok entries') :
    context.IsOpen context.now ∧ ∃ original : JournalEntry,
      entries' = (entries ++ [original.reversal context (nextJournalId entries) reason]).map
        (JournalEntry.markedReversed original.id) := by
  unfold reverseJournalEntry at h
  cases hfound : lookup JournalEntry.id entries journalEntryId with
  | none =>
    rw [hfound] at h
    cases h
  | some original =>
    rw [hfound] at h
    by_cases hreversed : original.isReversed
    · simp [hreversed] at h
      cases h
    · by_cases hstatus : original.status = .reversed
      · simp [hreversed, hstatus] at h
        cases h
      · simp only [hreversed, hstatus, Bool.false_eq_true, if_false, bind_eq_ok, pure_eq_ok,
          validatePeriodOpen_eq_ok] at h
        obtain ⟨-, hopened, hentries⟩ := h
        exact ⟨hopened, original, hentries.symm⟩

end Forecast
