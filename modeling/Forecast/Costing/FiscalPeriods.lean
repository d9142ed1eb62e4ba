import Forecast.Costing.CostTables
import Forecast.Lib.ReadThrough

/-!
# Fiscal periods

A period is locked and unlocked by hand, and closed and reopened by the costing engine.
A posting looks the period of its date up through two maps that its process fills at
the first lookup and never clears.
-/

open KeyedTable Transactions ReadThrough

namespace Forecast.Costing

/-- A date without its time, counted from the epoch. -/
abbrev Day := ℤ

def utcDay (date : Millis) : Day := date / 86400000

structure FiscalCalendar where
  id : Id
  isDefault : Bool
deriving DecidableEq

/-- A row of `fiscal_periods`. -/
structure FiscalPeriodRow extends FiscalPeriod where
  calendarId : Id
  startDate : Day
  endDate : Day
deriving DecidableEq

def FiscalPeriodRow.Contains (row : FiscalPeriodRow) (day : Day) : Prop :=
  row.startDate ≤ day ∧ day ≤ row.endDate

instance (row : FiscalPeriodRow) (day : Day) : Decidable (row.Contains day) :=
  inferInstanceAs (Decidable (_ ∧ _))

/-- The tables of one tenant that periods and their postings touch. -/
structure FiscalDb where
  calendars : List FiscalCalendar
  periods : List FiscalPeriodRow
  periods_nodup : (periods.map fun row => row.id).Nodup
  checkpoints : List PeriodCloseCheckpoint
  costLayers : List CostLayer
  entries : List JournalEntry
  defaultCurrency : Option String

inductive PeriodError where
  | notFound
  | notClosing
  | notClosed
  | costing (e : CostingError)
deriving DecidableEq

def PeriodError.text (shown : Decimal → String) (tenantId : String) : PeriodError → Option String
  | notFound => some "Fiscal period not found"
  | notClosing => some "Period must be in CLOSING status. Run valuation snapshot first."
  | notClosed => some "Period must be CLOSED to reopen."
  | costing e => e.text shown tenantId

namespace FiscalDb

variable (db : FiscalDb)

def updatePeriod (id : Id) (f : FiscalPeriod → FiscalPeriod) (hf : ∀ p, (f p).id = p.id) :
    FiscalDb where
  calendars := db.calendars
  periods := db.periods.map fun row =>
    if row.id = id then { row with toFiscalPeriod := f row.toFiscalPeriod } else row
  periods_nodup := by
    have hids : ∀ row : FiscalPeriodRow,
        (if row.id = id then { row with toFiscalPeriod := f row.toFiscalPeriod } else row).id =
          row.id := by
      intro row
      by_cases h : row.id = id
      · rw [if_pos h]
        exact hf _
      · rw [if_neg h]
    simpa [Function.comp_def, hids] using db.periods_nodup
  checkpoints := db.checkpoints
  costLayers := db.costLayers
  entries := db.entries
  defaultCurrency := db.defaultCurrency

def setLocked (id : Id) (isLocked : Bool) : FiscalDb :=
  db.updatePeriod id (fun p => { p with isLocked := isLocked }) fun _ => rfl

def hasPeriod (id : Id) : Bool := db.periods.any fun row => row.id = id

def checkpointStatus (fiscalPeriodId : Id) : Option PeriodCloseStatus :=
  (lookup PeriodCloseCheckpoint.fiscalPeriodId db.checkpoints fiscalPeriodId).map
    PeriodCloseCheckpoint.status

def setCheckpoint (fiscalPeriodId : Id) (status : PeriodCloseStatus) : FiscalDb :=
  { db with
    checkpoints := upsert PeriodCloseCheckpoint.fiscalPeriodId db.checkpoints
      ⟨fiscalPeriodId, status⟩ }

/-! ### Locking and closing -/

def lockFiscalPeriod (periodId : Id) : Except PeriodError FiscalDb := do
  throwWhen (!db.hasPeriod periodId) .notFound
  pure (db.setLocked periodId true)

def unlockFiscalPeriod (periodId : Id) : Except PeriodError FiscalDb := do
  throwWhen (!db.hasPeriod periodId) .notFound
  pure (db.setLocked periodId false)

def toggleFiscalPeriodStatus (periodId : Id) : Except PeriodError FiscalDb := do
  throwWhen (!db.hasPeriod periodId) .notFound
  pure (db.updatePeriod periodId (fun p => { p with isClosed := !p.isClosed }) fun _ => rfl)

/-- The valuation of a period, which takes its checkpoint to `CLOSING` from any status. -/
def snapshotPeriodValuation (fiscalPeriodId : Id) : Except PeriodError FiscalDb := do
  throwWhen (!db.hasPeriod fiscalPeriodId) (.costing (.periodNotFound fiscalPeriodId))
  throwWhen db.defaultCurrency.isNone (.costing .recordNotFound)
  pure (db.setCheckpoint fiscalPeriodId .closing)

/-- The layers of a period are open, or frozen while it is closed. -/
def withLayers (fiscalPeriodId : Id) (f : CostLayer → CostLayer) : FiscalDb :=
  { db with
    costLayers := db.costLayers.map fun layer =>
      if layer.fiscalPeriodId = some fiscalPeriodId then f layer else layer }

def closePeriod (fiscalPeriodId : Id) : Except PeriodError FiscalDb := do
  throwWhen (db.checkpointStatus fiscalPeriodId ≠ some .closing) .notClosing
  throwWhen (!db.hasPeriod fiscalPeriodId) (.costing (.periodNotFound fiscalPeriodId))
  let frozen := (db.setLocked fiscalPeriodId true).withLayers fiscalPeriodId fun layer =>
    if layer.status = .opened then { layer with status := .frozen } else layer
  pure (frozen.setCheckpoint fiscalPeriodId .closed)

def reopenPeriod (fiscalPeriodId : Id) : Except PeriodError FiscalDb := do
  throwWhen (db.checkpointStatus fiscalPeriodId ≠ some .closed) .notClosed
  throwWhen (!db.hasPeriod fiscalPeriodId) (.costing (.periodNotFound fiscalPeriodId))
  let thawed := (db.setLocked fiscalPeriodId false).withLayers fiscalPeriodId fun layer =>
    if layer.status = .frozen ∧ 0 < layer.remainingQty.value then { layer with status := .opened }
    else layer
  pure (thawed.setCheckpoint fiscalPeriodId .reopened)

/-! ### The lookups of a posting -/

def defaultCalendarId : Option Id :=
  (db.calendars.find? FiscalCalendar.isDefault).map FiscalCalendar.id

def periodIn (calendarId : Id) (day : Day) : Option FiscalPeriod :=
  (db.periods.find? fun row => row.calendarId = calendarId ∧ row.Contains day).map
    FiscalPeriodRow.toFiscalPeriod

end FiscalDb

/-- What one process of the service remembers of the tables. -/
structure FiscalCaches where
  fiscalCalendarIdCache : Cache Unit (Option Id) := fun _ => none
  fiscalPeriodCache : Cache Day (Option FiscalPeriod) := fun _ => none

namespace FiscalCaches

variable (caches : FiscalCaches) (db : FiscalDb)

def calendarId : Option Id := read caches.fiscalCalendarIdCache (fun _ => db.defaultCalendarId) ()

def findFiscalPeriod (day : Day) : Option FiscalPeriod :=
  match caches.calendarId db with
  | none => none
  | some calendarId => read caches.fiscalPeriodCache (db.periodIn calendarId) day

/-- The maps after a lookup. -/
def afterFind (day : Day) : FiscalCaches where
  fiscalCalendarIdCache := fill caches.fiscalCalendarIdCache (fun _ => db.defaultCalendarId) ()
  fiscalPeriodCache :=
    match caches.calendarId db with
    | none => caches.fiscalPeriodCache
    | some calendarId => fill caches.fiscalPeriodCache (db.periodIn calendarId) day

end FiscalCaches

/-! ### The service and its processes -/

structure FiscalSystem where
  db : FiscalDb
  /-- The maps of each process. -/
  caches : Id → FiscalCaches := fun _ => {}

inductive FiscalAction where
  | lockFiscalPeriod (periodId : Id)
  | unlockFiscalPeriod (periodId : Id)
  | toggleFiscalPeriodStatus (periodId : Id)
  | snapshotPeriodValuation (fiscalPeriodId : Id)
  | closePeriod (fiscalPeriodId : Id)
  | reopenPeriod (fiscalPeriodId : Id)
  | createJournalEntry (process : Id) (params : JournalParams)
  /-- A posting of the costing engine, which asks first whether its period is open. -/
  | postCosted (process : Id) (params : JournalParams)
  | reverseJournalEntry (process : Id) (now : Millis) (journalEntryId : Id) (reason : String)

namespace FiscalSystem

variable (s : FiscalSystem)

def context (process : Id) (now : Millis) : CostingContext where
  accounting :=
    { now := now
      findFiscalPeriod := fun date => (s.caches process).findFiscalPeriod s.db (utcDay date)
      fiscalPeriods := s.db.periods.map FiscalPeriodRow.toFiscalPeriod
      defaultCurrency := s.db.defaultCurrency }
  checkpoints := s.db.checkpoints
  shown := fun _ => ""

def withEntries (entries : List JournalEntry) : FiscalSystem :=
  { s with db := { s.db with entries := entries } }

/-- The maps keep what a lookup found, also when its transaction is rolled back. -/
def looked (process : Id) (day : Day) : FiscalSystem :=
  { s with
    caches := Function.update s.caches process ((s.caches process).afterFind s.db day) }

def createJournalEntry (process : Id) (params : JournalParams) : FiscalSystem :=
  match findByIdempotencyKey s.db.entries params.idempotencyKey with
  | some _ => s
  | none =>
    transaction (s.looked process (utcDay params.entryDate))
      ((Forecast.createJournalEntry (s.context process params.entryDate).accounting s.db.entries
        params).map fun created =>
          (s.looked process (utcDay params.entryDate)).withEntries created.1)

def postCosted (process : Id) (params : JournalParams) : FiscalSystem :=
  match (s.context process params.entryDate).assertPeriodOpen params.fiscalPeriodId with
  | .error _ => s
  | .ok _ => s.createJournalEntry process params

/-- The checks of a reversal that come before its lookup. -/
def isReversible (journalEntryId : Id) : Bool :=
  (lookup JournalEntry.id s.db.entries journalEntryId).any fun original =>
    !original.isReversed && original.status ≠ .reversed

def reverseJournalEntry (process : Id) (now : Millis) (journalEntryId : Id) (reason : String) :
    FiscalSystem :=
  if s.isReversible journalEntryId then
    transaction (s.looked process (utcDay now))
      ((Forecast.reverseJournalEntry (s.context process now).accounting s.db.entries journalEntryId
        reason).map (s.looked process (utcDay now)).withEntries)
  else s

def withDb (db : FiscalDb) : FiscalSystem := { s with db := db }

def next (s : FiscalSystem) : FiscalAction → FiscalSystem
  | .lockFiscalPeriod periodId => transaction s ((s.db.lockFiscalPeriod periodId).map s.withDb)
  | .unlockFiscalPeriod periodId => transaction s ((s.db.unlockFiscalPeriod periodId).map s.withDb)
  | .toggleFiscalPeriodStatus periodId =>
    transaction s ((s.db.toggleFiscalPeriodStatus periodId).map s.withDb)
  | .snapshotPeriodValuation id =>
    transaction s ((s.db.snapshotPeriodValuation id).map s.withDb)
  | .closePeriod id => transaction s ((s.db.closePeriod id).map s.withDb)
  | .reopenPeriod id => transaction s ((s.db.reopenPeriod id).map s.withDb)
  | .createJournalEntry process params => s.createJournalEntry process params
  | .postCosted process params => s.postCosted process params
  | .reverseJournalEntry process now journalEntryId reason =>
    s.reverseJournalEntry process now journalEntryId reason

end FiscalSystem

end Forecast.Costing
