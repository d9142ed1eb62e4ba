import Forecast.Billing.Schema
import Forecast.Lib.KeyedTable
import Forecast.Marg.Dates

/-!
# Staging a page of Marg rows

Each section of a page has a table of its own. A stager drops the rows that fail
its checks, removes duplicates within the page and upserts what is left; the
columns of a staged row are computed from the raw row it carries.
-/

open JsText KeyedTable

namespace Forecast

inductive MargTable where
  | branches
  | products
  | parties
  | transactions
  | stocks
  | vouchers
  | accountGroups
  | accountPostings
  | accountGroupBalances
  | partyBalances
  | outstandings
  | saleTypes
deriving DecidableEq

/-- A row of a staging table; its unique columns are the company and the key. -/
structure StagedRow where
  table : MargTable
  companyId : ℤ
  key : List String
  rawData : MargRow
  lastSeenSyncLogId : Option Id
  sourceDeleted : Bool
deriving DecidableEq

abbrev StagedKey := MargTable × ℤ × List String

def StagedRow.rowKey (row : StagedRow) : StagedKey := (row.table, row.companyId, row.key)

/-- A row that passed the checks of its section. -/
structure PreparedRow where
  companyId : ℤ
  key : List String
  /-- The string by which duplicates within a page are found. -/
  dedupKey : String
  rawData : MargRow
deriving DecidableEq

/-- `${companyId}:${part}:…` -/
def dedupText (companyId : ℤ) (parts : List String) : String :=
  ":".intercalate (toString companyId :: parts)

/-- A row with its unique columns, unless its company or one of the columns is missing. -/
def prepareRow (row : MargRow) (companyId : ℤ) (key : List String) : Option PreparedRow :=
  if companyId ≤ 0 ∨ "" ∈ key then none
  else some ⟨companyId, key, dedupText companyId key, row⟩

section Stagers

variable (platform : Platform) (dateWindow : Option DateWindow)

def prepareBranch (row : MargRow) : Option PreparedRow := prepareRow row row.companyId []

def prepareProduct (row : MargRow) : Option PreparedRow :=
  prepareRow row (row.readFirstDefined ["CompanyID", "CompanyId", "companyId"]).toInt32
    [row.readMargString ["PID", "Pid", "pid", "Code", "CODE", "code"] 20]

def prepareParty (row : MargRow) : Option PreparedRow :=
  prepareRow row row.companyId [(row.get "CID").trimmed]

def dateWithin (row : MargRow) : Option Millis :=
  (parseMargDate platform (row.get "Date")).filter fun date => isWithinDateWindow date dateWindow

def prepareTransaction (row : MargRow) : Option PreparedRow :=
  if row.companyId ≤ 0 ∨ (row.get "ID").toBigInt ≤ 0 ∨ (row.get "Voucher").trimmed = "" then none
  else (dateWithin platform dateWindow row).map fun _ =>
    ⟨row.companyId, [row.buildSourceKey], toString row.companyId ++ row.buildSourceKey, row⟩

/-- A batch without a name is the default one. -/
def prepareStock (row : MargRow) : Option PreparedRow :=
  let batch := (row.get "Batch").trimmed
  prepareRow row row.companyId [(row.get "PID").trimmed, if batch = "" then "_default" else batch]

def prepareVoucher (row : MargRow) : Option PreparedRow :=
  let voucher := (row.get "Voucher").trimmed
  let type := (row.get "Type").trimmed
  if row.companyId ≤ 0 ∨ voucher = "" then none
  else (dateWithin platform dateWindow row).map fun _ =>
    ⟨row.companyId, [voucher, type], dedupText row.companyId [voucher, type], row⟩

/-- Account groups, account group balances and party balances: an id and a code. -/
def prepareCoded (field : String) (row : MargRow) : Option PreparedRow :=
  if (row.get "ID").toBigInt ≤ 0 then none
  else prepareRow row row.companyId [(row.get field).normalizeMargCode platform]

def prepareAccountGroup (row : MargRow) : Option PreparedRow := prepareCoded platform "AID" row

def prepareAccountPosting (row : MargRow) : Option PreparedRow :=
  let margId := (row.get "ID").toBigInt
  if margId ≤ 0 then none
  else (dateWithin platform dateWindow row).bind fun _ =>
    prepareRow row row.companyId [toString margId]

def prepareAccountGroupBalance (row : MargRow) : Option PreparedRow :=
  prepareCoded platform "AID" row

def preparePartyBalance (row : MargRow) : Option PreparedRow := prepareCoded platform "CID" row

def prepareOutstanding (row : MargRow) : Option PreparedRow :=
  let margId := (row.get "ID").toBigInt
  if margId ≤ 0 ∨ (row.get "ORD").normalizeMargCode platform = "" then none
  else (dateWithin platform dateWindow row).bind fun _ =>
    prepareRow row row.companyId [toString margId]

def prepareSaleType (row : MargRow) : Option PreparedRow :=
  prepareRow row row.companyId [(row.get "SGCode").trimmed, (row.get "SCode").trimmed]

/-- The row a stager writes. -/
def PreparedRow.staged (table : MargTable) (lastSeenSyncLogId : Option Id) (row : PreparedRow) :
    StagedRow :=
  ⟨table, row.companyId, row.key, row.rawData, lastSeenSyncLogId, false⟩

/-- A stager that lets the last of several duplicates win. -/
def stageLast (table : MargTable) (lastSeenSyncLogId : Option Id)
    (prepare : MargRow → Option PreparedRow) (rows : List MargRow) : List StagedRow :=
  (lastOfEach PreparedRow.dedupKey (rows.filterMap prepare)).map (·.staged table lastSeenSyncLogId)

def syncBranches (rows : List MargRow) : List StagedRow :=
  stageLast .branches none prepareBranch rows

def syncProducts (rows : List MargRow) : List StagedRow :=
  stageLast .products none prepareProduct rows

def syncParties (rows : List MargRow) : List StagedRow :=
  stageLast .parties none prepareParty rows

/-- Here the first of several duplicates wins. -/
def syncTransactions (rows : List MargRow) : List StagedRow :=
  (firstOfEach PreparedRow.dedupKey (rows.filterMap (prepareTransaction platform dateWindow))).map
    (·.staged .transactions none)

def syncStockData (syncLogId : Id) (rows : List MargRow) : List StagedRow :=
  stageLast .stocks (some syncLogId) prepareStock rows

def syncVouchers (rows : List MargRow) : List StagedRow :=
  stageLast .vouchers none (prepareVoucher platform dateWindow) rows

def syncAccountGroups (rows : List MargRow) : List StagedRow :=
  stageLast .accountGroups none (prepareAccountGroup platform) rows

def syncAccountPostings (rows : List MargRow) : List StagedRow :=
  stageLast .accountPostings none (prepareAccountPosting platform dateWindow) rows

def syncAccountGroupBalances (rows : List MargRow) : List StagedRow :=
  stageLast .accountGroupBalances none (prepareAccountGroupBalance platform) rows

def syncPartyBalances (rows : List MargRow) : List StagedRow :=
  stageLast .partyBalances none (preparePartyBalance platform) rows

def syncOutstandings (syncLogId : Id) (rows : List MargRow) : List StagedRow :=
  stageLast .outstandings (some syncLogId) (prepareOutstanding platform dateWindow) rows

def syncSaleTypes (rows : List MargRow) : List StagedRow :=
  stageLast .saleTypes none prepareSaleType rows

end Stagers

def takeUnseenMargBranchRows : List MargRow → List ℤ → List MargRow × List ℤ
  | [], seen => ([], seen)
  | row :: rows, seen =>
    if row.companyId ≤ 0 ∨ row.companyId ∈ seen then takeUnseenMargBranchRows rows seen
    else
      let (next, seenAfter) := takeUnseenMargBranchRows rows (seen ++ [row.companyId])
      (row :: next, seenAfter)

/-! ### The row that stands for several of one party -/

/-- A piece of a name pattern. -/
inductive PatternPiece where
  | char (c : Char)
  | optional (c : Char)
  | spaces

def literal (text : String) : List PatternPiece := text.toList.map .char

/-- What may follow a match at the start of the characters. -/
def matchPieces : List PatternPiece → List Char → List (List Char)
  | [], cs => [cs]
  | .char c :: pieces, d :: cs => if c = d then matchPieces pieces cs else []
  | .char _ :: _, [] => []
  | .optional c :: pieces, cs =>
    matchPieces pieces cs ++
      match cs with
      | d :: rest => if c = d then matchPieces pieces rest else []
      | [] => []
  | .spaces :: pieces, cs => matchPieces pieces (cs.dropWhile isTrimmed)

def isWordChar (c : Char) : Bool := c.isAlphanum || c = '_'

def isWordBoundary (before after : Option Char) : Bool :=
  before.any isWordChar != after.any isWordChar

/-- `PSEUDO_PARTY_NAME_PATTERN` -/
def pseudoPartyNames : List (List PatternPiece) :=
  ["SUSPENSE", "SURCHARGE", "TDS", "TCS", "CGST", "SGST", "IGST", "GST", "VAT", "CESS", "ROUNDOFF",
    "DISCOUNT", "REBATE", "FREIGHT"].map literal ++
  [literal "ROUND" ++ .spaces :: literal "OFF",
    literal "BANK" ++ .spaces :: literal "CHARGE" ++ [.optional 'S'],
    [.char 'C', .optional '.', .char 'S', .optional '.', .char 'T', .optional '.']]

def isPseudoNameAt (cs : List Char) : Bool :=
  pseudoPartyNames.any fun pieces => (matchPieces pieces cs).any fun rest =>
    isWordBoundary cs[cs.length - rest.length - 1]? rest.head?

def hasPseudoName (before : Option Char) : List Char → Bool
  | [] => false
  | c :: cs => (isWordBoundary before (some c) && isPseudoNameAt (c :: cs)) || hasPseudoName (some c) cs

def hasInfix (needle : List Char) : List Char → Bool
  | [] => needle.isEmpty
  | c :: cs => needle.isPrefixOf (c :: cs) || hasInfix needle cs

/-- Runs of white space become one blank. -/
def collapseSpaces : List Char → List Char
  | [] => []
  | [c] => [if isTrimmed c then ' ' else c]
  | c :: d :: cs =>
    if isTrimmed c && isTrimmed d then collapseSpaces (d :: cs)
    else (if isTrimmed c then ' ' else c) :: collapseSpaces (d :: cs)

section Parties

variable (platform : Platform)

def normalizePartyName (value : MargValue) : String :=
  platform.toUpperCase (String.ofList (collapseSpaces (trimChars value.orEmpty.toList)))

def countGiven (row : MargRow) (names : List String) : ℕ :=
  (names.filter fun name => (row.get name).trimmed ≠ "").length

def countPresent (row : MargRow) (names : List String) : ℕ :=
  (names.filter fun name => row.get name ≠ .missing).length

def customerSignalFields : List String :=
  ["PARADD", "ParAdd1", "ParAdd2", "GSTNo", "Phone1", "Phone2", "Phone3", "Phone4", "Rout", "Area"]

def hasCustomerSignals (row : MargRow) : Bool :=
  0 < countGiven row customerSignalFields + countPresent row ["Credit", "CRDays"]

def isProjectableCustomerParty (row : MargRow) : Bool :=
  let name := (normalizePartyName platform (row.get "ParNam")).toList
  let isDeleted := (row.get "Is_Deleted").toText = "1" ∨ row.get "Is_Deleted" = .flag true
  if (row.get "CID").trimmed = "" ∨ name = [] ∨ isDeleted then false
  else if hasInfix "SUSPENSE".toList name then false
  else !(hasPseudoName none name && !hasCustomerSignals row)

def countTruthyPartySignals (row : MargRow) : ℕ :=
  countGiven row (customerSignalFields ++ ["DlNo", "Pin", "Lat", "Lng"]) +
    countPresent row ["Credit", "CRDays"]

/-- The head of a stable sort by a comparison that puts better rows first. -/
def selectBest (better : MargRow → MargRow → Bool) : List MargRow → Option MargRow
  | [] => none
  | row :: rows => some (rows.foldl (fun best next => if better next best then next else best) row)

def betterPartyRow (left right : MargRow) : Bool :=
  let leftProjectable := isProjectableCustomerParty platform left
  let rightProjectable := isProjectableCustomerParty platform right
  if leftProjectable ≠ rightProjectable then leftProjectable
  else if countTruthyPartySignals left ≠ countTruthyPartySignals right then
    countTruthyPartySignals right < countTruthyPartySignals left
  else (right.get "ID").toInt32 < (left.get "ID").toInt32

/-- `Math.abs(Number(value ?? 0))`; none when it is not a number. -/
def magnitude (value : MargValue) : Option ℚ :=
  if value = .missing then some 0 else value.toNumber.map abs

def balanceMagnitude (row : MargRow) : Option ℚ := do
  let opening ← magnitude (row.get "Opening")
  let balance ← magnitude (row.get "Balance")
  pure (Decimal.toDouble (opening + balance))

/-- A magnitude that is not a number compares as equal. -/
def betterPartyBalanceRow (left right : MargRow) : Bool :=
  match balanceMagnitude left, balanceMagnitude right with
  | some l, some r => if l ≠ r then r < l else (right.get "ID").toInt32 < (left.get "ID").toInt32
  | _, _ => false

def canonicalize (code : MargRow → String) (better : MargRow → MargRow → Bool)
    (rows : List MargRow) : List MargRow :=
  let coded := rows.filter fun row => 0 < row.companyId ∧ code row ≠ ""
  let key := fun row : MargRow => (row.companyId, code row)
  (firstOfEach key coded).filterMap fun row =>
    selectBest better (coded.filter fun other => key other = key row)

def canonicalizeMargParties (rows : List MargRow) : List MargRow :=
  canonicalize (fun row => platform.toUpperCase (row.get "CID").trimmed) (betterPartyRow platform) rows

def canonicalizeMargPartyBalances (rows : List MargRow) : List MargRow :=
  canonicalize (fun row => (row.get "CID").normalizeMargCode platform) betterPartyBalanceRow rows

end Parties

end Forecast
