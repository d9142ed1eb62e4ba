import Forecast.Marg.AccountPostings
import Forecast.Marg.SyncLock

/-!
# Journals of account postings

`transformAccountPostingsToJournalEntries` finds the groups with a row that the
run touched, loads each group whole and posts its journal: a group whose content
has the hash of its projection is left alone, else its journal is reversed and a
new one is created under a key made of the group and the hash.
-/

open JsText KeyedTable

namespace Forecast

/-- `MARG_ACCOUNTING_REFERENCE_TYPE` -/
def margAccountingReferenceType : String := "MARG_EDE_ACCOUNT"

/-- A row of `marg_account_journal_projections`. -/
structure MargAccountJournalProjection where
  id : Id
  groupKey : String
  contentHash : String
  journalEntryId : Option Id
deriving DecidableEq

/-- What the content hash is computed from; a line is an account, its debit and its credit. -/
structure JournalPayload where
  groupKey : String
  voucher : Option String
  book : Option String
  entryDate : String
  lines : List (Id × ℚ × ℚ)
deriving DecidableEq

structure ProjectionPlatform where
  platform : Platform
  /-- The SHA-256 digest of the JSON text of a payload. -/
  digest : JournalPayload → String

/-- What a completed run brings to the projection. -/
structure AccountingRun where
  mode : MargSyncMode := .fetch
  dateWindow : Option DateWindow := none
  rules : List MargGLMappingRule
  hasPostingUser : Bool := true
  findFiscalPeriod : Millis → Option FiscalPeriod := fun _ => none
  /-- The transaction of a group fails for a reason outside the code. -/
  fails : String → Bool := fun _ => false

structure MargBooks where
  projections : List MargAccountJournalProjection
  journals : List JournalEntry
deriving DecidableEq

inductive AccountingProjectionError where
  | noPostingUser
  | transactionFailed
  | journal (error : JournalError)
deriving DecidableEq

structure AccountingProjectionResult where
  books : MargBooks
  journalEntriesSynced : ℕ := 0
  skippedGroups : List (String × GroupSkipReason) := []
  error : Option AccountingProjectionError := none
deriving DecidableEq

/-! ### The journal of a group -/

/-- `buildMargAccountJournalDescription` -/
def MargAccountPostingGroup.description (group : MargAccountPostingGroup) : String :=
  let voucher := (group.voucher.map ("Voucher " ++ ·)).getD "Voucherless posting group"
  let book := (group.book.map ("Book " ++ ·)).getD "Book NA"
  leftText 255 ("Marg accounting journal - " ++ voucher ++ " - " ++ book ++ " - " ++
    isoDate group.date)

def journalPayload (groupKey : String) (group : MargAccountPostingGroup)
    (lines : List MargJournalLineDraft) : JournalPayload where
  groupKey := groupKey
  voucher := group.voucher
  book := group.book
  entryDate := isoDate group.date
  lines := (lines.map fun line =>
      (line.glAccountId, normalizeMargAccountingAmount line.debitAmount,
        normalizeMargAccountingAmount line.creditAmount)).insertionSort fun a b =>
    a.1 < b.1 ∨ (a.1 = b.1 ∧ a.2.1 ≤ b.2.1)

def buildMargAccountJournalIdempotencyKey (groupKey contentHash : String) : String :=
  leftText 100 ("MARG_JE:" ++ groupKey ++ ":" ++ contentHash)

section Projection

variable (settings : ProjectionPlatform)

def contentHash (groupKey : String) (group : MargAccountPostingGroup)
    (lines : List MargJournalLineDraft) : String :=
  settings.digest (journalPayload groupKey group lines)

def margJournalParams (projectionId : Id) (groupKey : String) (group : MargAccountPostingGroup)
    (lines : List MargJournalLineDraft) : JournalParams where
  entryDate := group.date
  referenceType := margAccountingReferenceType
  referenceId := some projectionId
  description := some group.description
  idempotencyKey := some (buildMargAccountJournalIdempotencyKey groupKey
    (contentHash settings groupKey group lines))
  currency := some "INR"
  lines := lines.map MargJournalLineDraft.journalLine

def reverseProjected (context : AccountingContext) (journals : List JournalEntry)
    (projection : MargAccountJournalProjection) : Except JournalError (List JournalEntry) :=
  match projection.journalEntryId.bind (lookup JournalEntry.id journals) with
  | some existing =>
    if !existing.isReversed && existing.status ≠ .reversed then
      reverseJournalEntry context journals existing.id
        ("Marg account projection refreshed for " ++ projection.groupKey)
    else .ok journals
  | none => .ok journals

/-- The projection that is there, or a new one without a journal. -/
def projectionOf (books : MargBooks) (groupKey hash : String) : MargAccountJournalProjection :=
  (lookup MargAccountJournalProjection.groupKey books.projections groupKey).getD
    { id := freshId (books.projections.map MargAccountJournalProjection.id)
      groupKey := groupKey
      contentHash := hash
      journalEntryId := none }

/-- The transaction of a group; the flag says whether it posted. -/
def postGroup (context : AccountingContext) (groupKey : String) (group : MargAccountPostingGroup)
    (lines : List MargJournalLineDraft) (books : MargBooks) :
    Except JournalError (MargBooks × Bool) :=
  let hash := contentHash settings groupKey group lines
  let projection := projectionOf books groupKey hash
  if projection.contentHash = hash ∧ projection.journalEntryId.isSome then .ok (books, false)
  else do
    let journals ← reverseProjected context books.journals projection
    let (journals, journal) ← createJournalEntry context journals
      (margJournalParams settings projection.id groupKey group lines)
    pure ({ projections := upsert MargAccountJournalProjection.groupKey books.projections
              { projection with contentHash := hash, journalEntryId := some journal.id }
            journals := journals }, true)

variable (run : AccountingRun) (postings : List MargAccountPosting)

def groupLines (group : MargAccountPostingGroup) : Except GroupSkipReason (List MargJournalLineDraft) :=
  draftGroup settings.platform run.rules (groupRows postings group)

def projectGroups (context : AccountingContext) :
    List (String × MargAccountPostingGroup) → AccountingProjectionResult →
      AccountingProjectionResult
  | [], result => result
  | (groupKey, group) :: groups, result =>
    match groupLines settings run postings group with
    | .error reason =>
      projectGroups context groups
        { result with skippedGroups := result.skippedGroups ++ [(groupKey, reason)] }
    | .ok lines =>
      if run.fails groupKey then { result with error := some .transactionFailed }
      else
        match postGroup settings context groupKey group lines result.books with
        | .error error => { result with error := some (.journal error) }
        | .ok (books, posted) =>
          projectGroups context groups
            { result with
              books := books
              journalEntriesSynced :=
                result.journalEntriesSynced + if posted then 1 else 0 }

/-- `buildMargChangedSinceWhere` and the window. -/
def isTouched (startedAt : Millis) (p : MargAccountPosting) : Bool :=
  (run.mode == .reproject || decide (startedAt ≤ p.updatedAt)) &&
    isInDateWhere run.dateWindow p.date

def touchedGroups (startedAt : Millis) : List (String × MargAccountPostingGroup) :=
  firstOfEach Prod.fst ((postings.filter (isTouched run startedAt)).map fun p =>
    (p.groupKey settings.platform, p.group))

def transformAccountPostingsToJournalEntries (now startedAt : Millis) (books : MargBooks) :
    AccountingProjectionResult :=
  if run.rules = [] then { books := books, skippedGroups := [("GLOBAL", .noMappingRules)] }
  else if run.hasPostingUser then
    projectGroups settings run postings ⟨now, run.findFiscalPeriod, [], none⟩
      (touchedGroups settings run postings startedAt) { books := books }
  else { books := books, error := some .noPostingUser }

end Projection

end Forecast
