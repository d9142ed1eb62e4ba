import Forecast.Lib.JsText
import Mathlib.Algebra.Order.Floor.Ring
import Mathlib.Data.Rat.Floor

/-!
# The semantic catalog and the queries over it

Filters come from a language model, so an operator is a text until it is validated and a value is
any JSON value. The lists of the catalog are read through maps built from them, in which a later
entry replaces an earlier one of the same id.
-/

namespace Forecast.Reporting

/-- A value of a filter. In an object with a `from` or a `to`, the one that is missing is null. -/
inductive Value where
  | null
  | text (s : String)
  | number (n : ℚ)
  | bool (b : Bool)
  | list (values : List Value)
  | range (low high : Value)
  | relativeDate (token : String)
  | object

inductive Operator where
  | eq
  | neq
  | inList
  | notInList
  | ilike
  | notIlike
  | between
  | gte
  | lte
  | gt
  | lt
  | isDistinctFrom
deriving DecidableEq

namespace Operator

def text : Operator → String
  | eq => "="
  | neq => "!="
  | inList => "IN"
  | notInList => "NOT IN"
  | ilike => "ILIKE"
  | notIlike => "NOT ILIKE"
  | between => "BETWEEN"
  | gte => ">="
  | lte => "<="
  | gt => ">"
  | lt => "<"
  | isDistinctFrom => "IS DISTINCT FROM"

/-- `VALID_OPERATORS`. -/
def valid : List Operator :=
  [eq, neq, inList, notInList, ilike, notIlike, between, gte, lte, gt, lt, isDistinctFrom]

def ofText? (s : String) : Option Operator := valid.find? fun o => o.text = s

end Operator

/-! ### Texts -/

def toUpperCase (s : String) : String := String.ofList (s.toList.map Char.toUpper)

def toLowerCase (s : String) : String := String.ofList (s.toList.map Char.toLower)

/-- `\w` of a regular expression. -/
def isWordChar (c : Char) : Bool := c.isAlphanum || c = '_'

/-- `/^[a-z][a-z0-9_]*$/i` -/
def isIdentifier (s : String) : Bool :=
  match s.toList with
  | [] => false
  | c :: cs => c.isAlpha && cs.all isWordChar

def wordsOf : List Char → List (List Char)
  | [] => [[]]
  | c :: cs =>
    match isWordChar c, wordsOf cs with
    | true, w :: ws => (c :: w) :: ws
    | _, ws => [] :: ws

/-- The longest runs of word characters; `\bword\b` is found when it is one of them. -/
def words (s : String) : List String := (wordsOf s.toList).map String.ofList

/-- A text that counts as true. -/
def truthy (s : Option String) : Option String := s.filter (· ≠ "")

def isHex (c : Char) : Bool := c.isDigit || ('a' ≤ c && c ≤ 'f') || ('A' ≤ c && c ≤ 'F')

def isUuid (s : String) : Bool :=
  match JsText.splitChars '-' s.toList with
  | [a, b, c, d, e] =>
    ([a, b, c, d, e].map List.length = [8, 4, 4, 4, 12]) && [a, b, c, d, e].all (·.all isHex) &&
      "12345".toList.contains (c.headD '0') && "89abAB".toList.contains (d.headD '0')
  | _ => false

/-- The digits behind the point, until nothing is left. -/
def fractionDigits : ℕ → ℚ → List Char
  | 0, _ => []
  | fuel + 1, r =>
    if r = 0 then []
    else Nat.digitChar (10 * r).floor.toNat :: fractionDigits fuel (10 * r - (10 * r).floor)

def numberText (n : ℚ) : String :=
  if n.den = 1 then toString n.num
  else
    (if n < 0 then "-" else "") ++ toString |n|.floor ++ "." ++
      String.ofList (fractionDigits 17 (|n| - |n|.floor))

namespace Value

def isNull : Value → Bool
  | null => true
  | _ => false

/-- `value ?? other` -/
def orElse (value other : Value) : Value :=
  match value with
  | null => other
  | _ => value

def isUuidLike : Value → Bool
  | text s => isUuid s
  | _ => false

/-- `Array.isArray(value) ? value : [value]` -/
def items : Value → List Value
  | list values => values
  | value => [value]

def allValuesUuidLike (value : Value) : Bool :=
  !value.items.isEmpty && value.items.all isUuidLike

mutual

/-- `String(value ?? '')` -/
def toText : Value → String
  | null => ""
  | text s => s
  | number n => numberText n
  | bool b => toString b
  | list values => String.intercalate "," (toTexts values)
  | range _ _ => "[object Object]"
  | relativeDate _ => "[object Object]"
  | object => "[object Object]"

def toTexts : List Value → List String
  | [] => []
  | value :: values => toText value :: toTexts values

end

/-- `value === s` -/
def isText (s : String) : Value → Bool
  | text t => t = s
  | _ => false

end Value

/-! ### The catalog -/

/-- A filter whose operator is a text before validation and an operator after it. -/
structure SemanticFilter (Op : Type) where
  filterId : Option String
  column : Option String
  operator : Op
  value : Value

/-- The dates that `sort`, `timeRange` and filters of a dataset may name. -/
structure DateField where
  fieldId : String
  column : String
  isDefault : Bool

structure CatalogDataset where
  datasetId : String
  viewName : String
  domain : String
  allowedForNlq : Bool
  requiredSecurityFilters : List String
  defaultFilters : List (SemanticFilter String)
  dateFields : List DateField
  defaultDetailColumns : List String
  defaultAggregateMetrics : List String

structure CatalogMetric where
  metricId : String
  datasetId : String
  expression : String

structure CatalogDimension where
  dimensionId : String
  datasetId : String
  columns : List String
  /-- `transform` is `calendar_month`. -/
  calendarMonth : Bool
  labelColumn : String

structure CatalogFilter where
  filterId : String
  datasetIds : List String
  column : Option String
  columns : Option (List String)
  operators : List String
  defaultValue : Value

structure CatalogTimeField where
  fieldId : String
  datasetId : String
  column : String
  isDefault : Bool

structure CatalogDisplayColumn where
  columnId : String
  datasetId : String
  column : String
  dataType : String

inductive AnalysisType where
  | ranking
  | groupedSummary
  | detail
  | exceptionList
  | ledgerDetail
  | accountingSummary
deriving DecidableEq

structure SemanticSort where
  metricId : Option String
  dimensionId : Option String
  columnId : Option String
  fieldId : Option String
  column : Option String
  direction : String

structure CatalogReportTemplate where
  templateId : String
  datasetId : String
  analysisType : AnalysisType
  defaultMetrics : List String
  defaultDimensions : List String
  defaultDisplayColumns : List String
  defaultFilters : List (SemanticFilter String)
  defaultSort : Option (List SemanticSort)
  defaultLimit : Option ℚ

structure DashboardComponent where
  templateId : String
  filters : Option (List (SemanticFilter String))

structure CatalogDashboardTemplate where
  dashboardId : String
  components : List DashboardComponent

structure SemanticCatalog where
  datasets : List CatalogDataset
  metrics : List CatalogMetric
  dimensions : List CatalogDimension
  filters : List CatalogFilter
  timeFields : List CatalogTimeField
  displayColumns : List CatalogDisplayColumn
  reportTemplates : List CatalogReportTemplate
  dashboardTemplates : List CatalogDashboardTemplate

/-- The entry that `new Map` keeps for an id. -/
def lookup {α : Type} (key : α → String) (entries : List α) (id : String) : Option α :=
  entries.reverse.find? fun entry => key entry = id

namespace SemanticCatalog

variable (catalog : SemanticCatalog)

def getDataset : String → Option CatalogDataset := lookup CatalogDataset.datasetId catalog.datasets

def getMetric : String → Option CatalogMetric := lookup CatalogMetric.metricId catalog.metrics

def getDimension : String → Option CatalogDimension :=
  lookup CatalogDimension.dimensionId catalog.dimensions

def getFilter : String → Option CatalogFilter := lookup CatalogFilter.filterId catalog.filters

def getTimeField : String → Option CatalogTimeField :=
  lookup CatalogTimeField.fieldId catalog.timeFields

def getDisplayColumn : String → Option CatalogDisplayColumn :=
  lookup CatalogDisplayColumn.columnId catalog.displayColumns

def getTemplate : String → Option CatalogReportTemplate :=
  lookup CatalogReportTemplate.templateId catalog.reportTemplates

def getDashboard : String → Option CatalogDashboardTemplate :=
  lookup CatalogDashboardTemplate.dashboardId catalog.dashboardTemplates

/-- The catalog's entry of a filter; an empty `filterId` names none. -/
def filterOf {Op : Type} (filter : SemanticFilter Op) : Option CatalogFilter :=
  (truthy filter.filterId).bind catalog.getFilter

end SemanticCatalog

/-! ### Queries -/

inductive TimePreset where
  | today
  | yesterday
  | last7Days
  | last30Days
  | thisWeek
  | lastWeek
  | thisMonth
  | lastMonth
  | thisQuarter
  | lastQuarter
  | currentFinancialYear
  | lastFinancialYear
  | custom
  | unspecified
deriving DecidableEq

structure SemanticTimeRange where
  preset : Option TimePreset
  startDate : Option String
  endDate : Option String
  fieldId : Option String

inductive ComparisonType where
  | previousPeriod
  | previousYear
  | custom
  | none
deriving DecidableEq

structure SemanticComparison where
  enabled : Bool
  type : ComparisonType
  startDate : Option String
  endDate : Option String
  /-- `rankBy` is `change`. -/
  rankByChange : Bool

/-- A report query as the validator leaves it. -/
structure SemanticReportQuery where
  datasetId : String
  metrics : List String
  dimensions : List String
  displayColumns : List String
  filters : List (SemanticFilter Operator)
  timeRange : SemanticTimeRange
  comparison : Option SemanticComparison
  sort : List SemanticSort
  limit : ℕ

/-- Fiscal years by their first and last day. -/
structure FiscalYear where
  startDate : ℤ
  endDate : ℤ

structure ReportingSecurityContext where
  tenantId : String
  userRole : String
  permissions : List String
  requestedCompanyId : Option ℤ
  requestedBranchIds : List String
  allowedCompanyIds : List ℤ
  allowedBranchIds : List String
  hasExplicitCompanyScope : Bool
  hasExplicitBranchScope : Bool
  fiscalYear : Option FiscalYear

inductive ReportError where
  | badRequest (code message : String)
  | forbidden (message : String)
deriving DecidableEq

/-- `INVALID_SEMANTIC_QUERY`. -/
def invalidQuery (message : String) : ReportError := .badRequest "INVALID_SEMANTIC_QUERY" message

/-! ### An excerpt of `semantic-catalog.json` -/

def salesItems : CatalogDataset where
  datasetId := "sales_items"
  viewName := "vw_ai_sales_items"
  domain := "sales"
  allowedForNlq := true
  requiredSecurityFilters := ["tenant_id", "company_id", "branch_id"]
  defaultFilters := [⟨none, some "is_cancelled", "IS DISTINCT FROM", .bool true⟩]
  dateFields := [⟨"invoice_date", "invoice_date", true⟩]
  defaultDetailColumns := []
  defaultAggregateMetrics := ["net_sales"]

def ledgerEntries : CatalogDataset where
  datasetId := "ledger_entries"
  viewName := "vw_ai_ledger_entries"
  domain := "accounting"
  allowedForNlq := true
  requiredSecurityFilters := ["tenant_id", "company_id", "branch_id"]
  defaultFilters := []
  dateFields := [⟨"entry_date", "entry_date", true⟩]
  defaultDetailColumns := []
  defaultAggregateMetrics := ["ledger_debit"]

def catalogExcerpt : SemanticCatalog where
  datasets := [salesItems, ledgerEntries]
  metrics :=
    [⟨"net_sales", "sales_items", "SUM(net_amount)"⟩,
      ⟨"ledger_debit", "ledger_entries", "SUM(debit_amount)"⟩]
  dimensions :=
    [⟨"sales_product", "sales_items", ["product_id", "product_code", "product_name"], false,
      "product_name"⟩]
  filters :=
    [⟨"tenant_scope", ["*"], some "tenant_id", none, ["="], .null⟩,
      ⟨"exclude_cancelled", ["sales_items"], some "is_cancelled", none, ["IS DISTINCT FROM"],
        .bool true⟩,
      ⟨"quantity_filter", ["sales_items"], some "quantity", none,
        ["=", ">", ">=", "<", "<=", "BETWEEN"], .null⟩,
      ⟨"ledger_source_filter", ["ledger_entries"], some "ledger_source", none, ["=", "IN"],
        .null⟩]
  timeFields :=
    [⟨"sales_invoice_date", "sales_items", "invoice_date", true⟩,
      ⟨"ledger_entry_date", "ledger_entries", "entry_date", true⟩]
  displayColumns := []
  reportTemplates := []
  dashboardTemplates := []

end Forecast.Reporting
