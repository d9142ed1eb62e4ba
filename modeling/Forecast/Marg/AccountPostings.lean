import Forecast.Accounting.JournalEntries
import Forecast.Marg.Products
import Forecast.Marg.VoucherRows
import Mathlib.Data.List.Sort

/-!
# Staged account postings and the journals of their groups

The rows of a company, date, book and voucher are a group, and a row without a
voucher is one by itself. A group whose rows are distinct, mapped and balanced
has a journal: one line for each account and side.
-/

open JsText KeyedTable

namespace Forecast

/-- A row of `marg_account_postings`. -/
structure MargAccountPosting where
  companyId : ℤ
  margId : ℤ
  voucher : Trimmed
  date : Millis
  code : String
  amount : ℚ
  book : Trimmed
  code1 : String
  gCode : String
  remark : Trimmed
  updatedAt : Millis
  /-- The width of the column. -/
  book_le : book.text.length ≤ 20
deriving DecidableEq

def MargAccountPosting.key (p : MargAccountPosting) : ℤ × ℤ := (p.companyId, p.margId)

/-! ### Texts -/

/-- The empty text stands for `null` here and in `normalizeOptionalText`. -/
def normalizeOptionalText (value : String) (maxLength : ℕ) : Option String :=
  if trim value = "" then none else some (leftText maxLength (trim value))

/-- The year as `toISOString` prints it. -/
def isoYear (year : ℤ) : String :=
  let digits := toString year.natAbs
  let padded := fun width => String.ofList (List.replicate (width - digits.length) '0') ++ digits
  if 0 ≤ year ∧ year ≤ 9999 then padded 4
  else (if year < 0 then "-" else "+") ++ padded 6

/-- `date.toISOString().slice(0, 10)` -/
def isoDate (date : Millis) : String :=
  -- years that begin in March, counted in eras of 400
  let day := date / 86400000 + 719468
  let era := day / 146097
  let dayOfEra := day % 146097
  let yearOfEra := (dayOfEra - dayOfEra / 1460 + dayOfEra / 36524 - dayOfEra / 146096) / 365
  let dayOfYear := dayOfEra - (365 * yearOfEra + yearOfEra / 4 - yearOfEra / 100)
  let shifted := (5 * dayOfYear + 2) / 153
  let month := if shifted < 10 then shifted + 3 else shifted - 9
  let year := era * 400 + yearOfEra + if month ≤ 2 then 1 else 0
  let twoDigits := fun n : ℤ => (if n < 10 then "0" else "") ++ toString n
  leftText 10 (isoYear year ++ "-" ++ twoDigits month ++ "-" ++
    twoDigits (dayOfYear - (153 * shifted + 2) / 5 + 1))

/-- `[A-Za-z0-9._-]` -/
def isGroupPartChar (c : Char) : Bool :=
  ('A' ≤ c && c ≤ 'Z') || ('a' ≤ c && c ≤ 'z') || ('0' ≤ c && c ≤ '9') ||
    c = '.' || c = '_' || c = '-'

/-- `replace(/[^A-Za-z0-9._-]+/g, '_')`; `inRun` when the last character was replaced. -/
def replaceRuns (inRun : Bool) : List Char → List Char
  | [] => []
  | c :: cs =>
    if isGroupPartChar c then c :: replaceRuns false cs
    else if inRun then replaceRuns true cs
    else '_' :: replaceRuns true cs

def sanitizeMargGroupPart (value : String) (maxLength : ℕ) : String :=
  let normalized := String.ofList (replaceRuns false (trimChars value.toList))
  leftText maxLength (if normalized = "" then "NA" else normalized)

/-! ### Groups -/

structure MargAccountPostingGroup where
  companyId : ℤ
  voucher : Option String
  date : Millis
  book : Option String
  sourceMargId : Option ℤ
deriving DecidableEq

namespace MargAccountPosting

variable (platform : Platform) (p : MargAccountPosting)

def normalizeCode (value : String) : String := leftText 20 (platform.toUpperCase (trim value))

/-- `buildMargAccountJournalGroupKey` -/
def groupKey : String :=
  let voucherPart := sanitizeMargGroupPart
    ((normalizeOptionalText p.voucher.text 50).getD ("ROW-" ++ toString p.margId)) 80
  let bookPart := sanitizeMargGroupPart (normalizeCode platform p.book.text) 30
  "acct:" ++ toString p.companyId ++ ":" ++ isoDate p.date ++ ":" ++ bookPart ++ ":" ++ voucherPart

/-- `buildMargAccountPostingGroup` -/
def group : MargAccountPostingGroup where
  companyId := p.companyId
  voucher := normalizeOptionalText p.voucher.text 50
  date := p.date
  book := normalizeOptionalText p.book.text 20
  sourceMargId := if (normalizeOptionalText p.voucher.text 50).isSome then none else some p.margId

/-- `buildMargAccountPostingGroupWhere` -/
def isInGroup (group : MargAccountPostingGroup) : Bool :=
  match group.voucher, group.sourceMargId.filter fun margId => decide (0 < margId) with
  | none, some margId => p.companyId = group.companyId ∧ p.margId = margId
  | _, _ => p.companyId = group.companyId ∧ p.date = group.date ∧
      group.book = (if p.book.text = "" then none else some p.book.text) ∧
      group.voucher = (if p.voucher.text = "" then none else some p.voucher.text)

end MargAccountPosting

/-- The rows of a group, in the order of their ids. -/
def groupRows (postings : List MargAccountPosting) (group : MargAccountPostingGroup) :
    List MargAccountPosting :=
  (postings.filter fun p => p.isInGroup group).insertionSort fun a b => a.margId ≤ b.margId

/-! ### The mapping rules -/

/-- A row of `marg_gl_mapping_rules`; an empty code matches any. -/
structure MargGLMappingRule where
  companyId : Option ℤ
  bookCode : String
  groupCode : String
  partyCode : String
  counterpartyCode : String
  remarkContains : String
  glAccountId : Id
  priority : ℤ
deriving DecidableEq

namespace MargGLMappingRule

variable (platform : Platform) (rule : MargGLMappingRule) (p : MargAccountPosting)

def applies : Bool :=
  let code := MargAccountPosting.normalizeCode platform
  let remark := (normalizeOptionalText p.remark.text 255).map platform.toUpperCase
  rule.companyId.all (· = p.companyId) &&
    (rule.bookCode = "" || rule.bookCode = code p.book.text) &&
    (rule.groupCode = "" || rule.groupCode = code p.gCode) &&
    (rule.partyCode = "" || rule.partyCode = code p.code) &&
    (rule.counterpartyCode = "" || rule.counterpartyCode = code p.code1) &&
    (rule.remarkContains = "" ||
      remark.any fun remark => decide (rule.remarkContains.toList <:+: remark.toList))

def specificity : ℕ :=
  (if rule.companyId.isSome then 8 else 0) + (if rule.bookCode = "" then 0 else 4) +
    (if rule.groupCode = "" then 0 else 4) + (if rule.partyCode = "" then 0 else 3) +
    (if rule.counterpartyCode = "" then 0 else 3) + (if rule.remarkContains = "" then 0 else 1)

end MargGLMappingRule

def resolveMargGlMappingRule (platform : Platform) (rules : List MargGLMappingRule)
    (p : MargAccountPosting) : Option MargGLMappingRule :=
  (rules.filter fun rule => rule.applies platform p).foldl (fun best rule =>
    match best with
    | none => some rule
    | some other =>
      if other.specificity < rule.specificity ∨
          (rule.specificity = other.specificity ∧ other.priority < rule.priority) then some rule
      else some other) none

/-! ### The lines of a group -/

/-- An amount of four places stands for the binary64 number that prints as it. -/
def normalizeMargAccountingAmount (value : ℚ) : ℚ := GridRounding.roundTo (1 / 10 ^ 4) value

/-- `toFixed(4)` -/
def toFixed4 (value : ℚ) : String :=
  let units := (GridRounding.roundHalfAway (|value| * 10 ^ 4)).natAbs
  let fraction := toString (units % 10000)
  (if value < 0 then "-" else "") ++ toString (units / 10000) ++ "." ++
    String.ofList (List.replicate (4 - fraction.length) '0') ++ fraction

inductive JournalSide where
  | debit
  | credit
deriving DecidableEq

structure MargJournalLineDraft where
  glAccountId : Id
  side : JournalSide
  amount : ℚ
  description : String
deriving DecidableEq

namespace MargJournalLineDraft

def debitAmount (line : MargJournalLineDraft) : ℚ := if line.side = .debit then line.amount else 0

def creditAmount (line : MargJournalLineDraft) : ℚ := if line.side = .credit then line.amount else 0

def key (line : MargJournalLineDraft) : Id × JournalSide := (line.glAccountId, line.side)

def addTo (line : MargJournalLineDraft) : List MargJournalLineDraft → List MargJournalLineDraft
  | [] => [line]
  | other :: lines =>
    if other.key = line.key then
      { other with amount := normalizeMargAccountingAmount (other.amount + line.amount) } :: lines
    else other :: line.addTo lines

def journalLine (line : MargJournalLineDraft) : JournalEntryLine where
  glAccountId := line.glAccountId
  debitAmount := line.debitAmount
  creditAmount := line.creditAmount
  description := some line.description

end MargJournalLineDraft

/-- `ACCOUNTING_RECONCILIATION_TOLERANCE` -/
def accountingReconciliationTolerance : ℚ := 1 / 100

/-- The running total of one side, rounded at each step. -/
def sideTotal (amounts : List ℚ) : ℚ :=
  amounts.foldl (fun total amount => normalizeMargAccountingAmount (total + amount)) 0

def largestLine (side : JournalSide) (lines : List MargJournalLineDraft) :
    Option MargJournalLineDraft :=
  (lines.filter fun line => line.side = side && 0 < line.amount).foldl (fun best line =>
    match best with
    | none => some line
    | some other => if other.amount < line.amount then some line else some other) none

def normalizeMargJournalLines (lines : List MargJournalLineDraft) : List MargJournalLineDraft :=
  let normalized := lines.map fun line =>
    { line with amount := normalizeMargAccountingAmount line.amount }
  let debitTotal := sideTotal (normalized.map MargJournalLineDraft.debitAmount)
  let creditTotal := sideTotal (normalized.map MargJournalLineDraft.creditAmount)
  let delta := normalizeMargAccountingAmount |debitTotal - creditTotal|
  if debitTotal = creditTotal ∨
      ¬isWithinTolerance debitTotal creditTotal accountingReconciliationTolerance ∨ delta = 0 then
    normalized
  else
    match largestLine (if debitTotal < creditTotal then .debit else .credit) normalized with
    | none => normalized
    | some candidate => normalized.map fun line =>
      if line.key = candidate.key then
        { line with amount := normalizeMargAccountingAmount (line.amount + delta) }
      else line

inductive GroupSkipReason where
  | noMappingRules
  | duplicates
  | unmapped
  | insufficientLines
  | unbalanced
deriving DecidableEq

def GroupSkipReason.text : GroupSkipReason → String
  | noMappingRules => "No active Marg GL mapping rules configured"
  | duplicates => "Duplicate account postings detected"
  | unmapped => "Unmapped account postings"
  | insufficientLines => "Insufficient mapped lines to create a journal entry"
  | unbalanced => "Source account postings are not balanced"

namespace MargAccountPosting

variable (platform : Platform) (p : MargAccountPosting)

def fingerprint : String :=
  "|".intercalate [toString p.companyId, (normalizeOptionalText p.voucher.text 50).getD "",
    isoDate p.date, (normalizeOptionalText p.book.text 20).getD "", normalizeCode platform p.code,
    normalizeCode platform p.code1, normalizeCode platform p.gCode, toFixed4 p.amount,
    ((normalizeOptionalText p.remark.text 255).map platform.toUpperCase).getD ""]

/-- `buildMargJournalLineDescription` -/
def lineDescription : String :=
  let labelled := fun label text => if text = "" then "" else label ++ text
  let components := [labelled "Book " p.book.text, labelled "Voucher " p.voucher.text,
    labelled "Code " p.code, labelled "Code1 " p.code1, p.remark.text].filter fun text =>
      decide (text ≠ "")
  let description := leftText 255 (" | ".intercalate components)
  if description = "" then "Marg account posting" else description

def normalizedAmount : ℚ := normalizeMargAccountingAmount p.amount

/-- The line of a row that a rule maps. -/
def lineDraft (rule : MargGLMappingRule) : MargJournalLineDraft where
  glAccountId := rule.glAccountId
  side := if 0 < p.normalizedAmount then .debit else .credit
  amount := normalizeMargAccountingAmount |p.normalizedAmount|
  description := p.lineDescription

end MargAccountPosting

section Draft

variable (platform : Platform) (rules : List MargGLMappingRule)

def draftLines (rows : List MargAccountPosting) : Option (List MargJournalLineDraft) :=
  (rows.filter fun p => p.normalizedAmount ≠ 0).mapM fun p =>
    (resolveMargGlMappingRule platform rules p).map p.lineDraft

/-- The lines by account and side, positive, in the order of their accounts and balanced. -/
def mergeLines (drafts : List MargJournalLineDraft) : List MargJournalLineDraft :=
  let merged := drafts.foldl (fun lines line => line.addTo lines) []
  normalizeMargJournalLines ((merged.filter fun line => 0 < line.amount).insertionSort fun a b =>
    a.glAccountId ≤ b.glAccountId)

/-- What the loop of the projection makes of the rows of a group. -/
def draftGroup (rows : List MargAccountPosting) :
    Except GroupSkipReason (List MargJournalLineDraft) :=
  if ¬(rows.map (MargAccountPosting.fingerprint platform)).Nodup then .error .duplicates
  else
    match draftLines platform rules rows with
    | none => .error .unmapped
    | some drafts =>
      let lines := mergeLines drafts
      let stagedDebit := sideTotal (drafts.map MargJournalLineDraft.debitAmount)
      let stagedCredit := sideTotal (drafts.map MargJournalLineDraft.creditAmount)
      if lines.length < 2 then .error .insufficientLines
      else if ¬isWithinTolerance stagedDebit stagedCredit accountingReconciliationTolerance then
        .error .unbalanced
      else .ok lines

end Draft

/-! ### What the groups have in common -/

theorem leftText_book (p : MargAccountPosting) : leftText 20 p.book.text = p.book.text :=
  leftText_eq_self p.book_le

theorem groupKey_eq_of_group_eq {platform : Platform} {p q : MargAccountPosting}
    (h : p.group = q.group) : p.groupKey platform = q.groupKey platform := by
  simp only [MargAccountPosting.group, MargAccountPostingGroup.mk.injEq] at h
  obtain ⟨hcompany, hvoucher, hdate, hbook, hmargId⟩ := h
  have hbooks : p.book.text = q.book.text := by
    unfold normalizeOptionalText at hbook
    rw [p.book.trim_text, q.book.trim_text, leftText_book, leftText_book] at hbook
    split_ifs at hbook with hp hq
    · rw [hp, hq]
    · exact Option.some.inj hbook
  unfold MargAccountPosting.groupKey
  rw [hcompany, hdate, hbooks, hvoucher]
  cases hq : normalizeOptionalText q.voucher.text 50 with
  | some voucher => rfl
  | none =>
    rw [hvoucher, hq] at hmargId
    rw [Option.some.inj hmargId]

end Forecast
