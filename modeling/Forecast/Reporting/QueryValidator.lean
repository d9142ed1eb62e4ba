import Forecast.Reporting.SqlCompiler

/-!
# The validator of semantic queries

What a language model answers is brought into the form that the compiler reads. Filters are merged
behind those of the dataset and of the template, one is kept for each column, and an operator that
the catalog does not offer for a filter is replaced by the first that it offers.
-/

namespace Forecast.Reporting

open Transactions

/-! ### Raw queries -/

inductive SemanticQueryMode where
  | aggregate
  | detail
  | ranking
  | trend
  | comparison
  | dashboard
  | kpi
deriving DecidableEq

/-- A report query before validation. A missing list other than `metrics` is read as empty. -/
structure ReportInput where
  templateId : Option String
  datasetId : String
  mode : Option SemanticQueryMode
  analysisType : Option AnalysisType
  metrics : Option (List String)
  dimensions : List String
  displayColumns : List String
  filters : List (SemanticFilter String)
  timeRange : Option SemanticTimeRange
  comparison : Option SemanticComparison
  sort : List SemanticSort
  limit : Option ℚ

structure DashboardInput where
  dashboardId : String
  widgets : List ReportInput
  timeRange : Option SemanticTimeRange

structure DynamicSort where
  byMetricId : Option String
  byDimensionId : Option String
  byColumnId : Option String
  direction : String

/-- A single report in the form that the language model is asked for. -/
structure DynamicSemanticQuery where
  mode : SemanticQueryMode
  datasetId : Option String
  metrics : List String
  dimensions : List String
  displayColumns : List String
  filters : List (SemanticFilter String)
  time : Option SemanticTimeRange
  comparison : Option SemanticComparison
  sort : List DynamicSort
  limit : ℚ

/-- Clarifications and questions that are not supported have no report. -/
inductive SemanticQueryInput where
  | report (input : ReportInput)
  | dashboard (input : DashboardInput)
  | dynamic (query : DynamicSemanticQuery)
  | clarification
  | unsupported

inductive SemanticQuery where
  | report (query : SemanticReportQuery)
  | dashboard (widgets : List SemanticReportQuery)
  | clarification
  | unsupported

/-! ### Values and operators -/

/-- Words that no value may contain. -/
def rejectedWords : List String :=
  ["select", "insert", "update", "delete", "drop", "alter", "create", "grant", "revoke", "copy",
    "vacuum", "analyze", "refresh"]

/-- Pieces of SQL that no value may contain. -/
def rejectedPieces : List String := [";", "--", "/*", "*/"]

def contains (text piece : String) : Bool := text.toList.tails.any piece.toList.isPrefixOf

/-- `text.length`, in the units of UTF-16. -/
def jsLength (text : String) : ℕ :=
  (text.toList.map fun c => if c.toNat < 0x10000 then 1 else 2).sum

def isRejectedText (text : String) : Bool :=
  jsLength text > 300 || rejectedPieces.any (contains text) ||
    (words text).any fun word => rejectedWords.contains (toLowerCase word)

def isRelativeToken (token : String) : Bool := token ≠ "" && token.toList.all isWordChar

mutual

def validateValue : Value → Except ReportError Unit
  | .null => .ok ()
  | .list values =>
    if values.length > 500 then .error (.badRequest "QUERY_TOO_BROAD" "Filter list is too large")
    else validateValues values
  | .range low high => do
    validateValue low
    validateValue high
  | .relativeDate token =>
    if isRelativeToken token then .ok ()
    else .error (invalidQuery
      "Filter values must be scalar, arrays, or approved relative date tokens")
  | .object =>
    .error (invalidQuery "Filter values must be scalar, arrays, or approved relative date tokens")
  | .text s => validateText s
  | .number n => validateText (numberText n)
  | .bool b => validateText (toString b)

def validateValues : List Value → Except ReportError Unit
  | [] => .ok ()
  | value :: values => do
    validateValue value
    validateValues values

def validateText (text : String) : Except ReportError Unit :=
  if isRejectedText text then
    .error (invalidQuery "Filter value was rejected by safety validation")
  else .ok ()

end

/-- The spellings of operators that stand for another. -/
def operatorAliases : List (String × String) :=
  [("CONTAINS", "ILIKE"), ("NOT CONTAINS", "NOT ILIKE"), ("NOT ILIKE", "NOT ILIKE"),
    ("LIKE", "ILIKE"), ("NOT LIKE", "NOT ILIKE"), ("EQ", "="), ("NEQ", "!="), ("<>", "!=")]

def canonicalizeOperator (raw : String) : String :=
  let operator := String.ofList ((toUpperCase (JsText.trim raw)).toList.map fun c =>
    if c = '_' then ' ' else c)
  (operatorAliases.lookup operator).getD operator

/-! ### Filters -/

section Filters

variable (catalog : SemanticCatalog)

def mergeFilters (groups : List (List (SemanticFilter String))) : List (SemanticFilter String) :=
  groups.flatten.take 20

def filterKey (filter : SemanticFilter String) : Option String :=
  let catalogFilter := catalog.filterOf filter
  let single : Option String :=
    match catalogFilter.bind CatalogFilter.columns with
    | some [column] => some column
    | _ => none
  truthy ((filter.column.or ((catalogFilter.bind CatalogFilter.column).or single)).or
    filter.filterId)

/-- The filters kept, behind those of `seen`. -/
def dedupe (seen : List String) : List (SemanticFilter String) → List (SemanticFilter String)
  | [] => []
  | filter :: filters =>
    match filterKey catalog filter with
    | none => filter :: dedupe seen filters
    | some key =>
      if key ∈ seen then dedupe seen filters else filter :: dedupe (key :: seen) filters

def dedupeFilters (filters : List (SemanticFilter String)) : List (SemanticFilter String) :=
  dedupe catalog [] filters

def isRawFilterColumnAllowed (dataset : CatalogDataset) (column : String) : Bool :=
  isIdentifier column &&
    ((dataset.defaultFilters.any fun f => f.column = some column) ||
      (dataset.dateFields.any fun f => f.column = column) ||
      (catalog.timeFields.any fun f => f.datasetId = dataset.datasetId && f.column = column) ||
      (catalog.filters.any fun f =>
        (f.datasetIds.contains dataset.datasetId || f.datasetIds.contains "*") &&
          f.column = some column))

def CatalogFilter.offers (catalogFilter : CatalogFilter) (operator : Operator) : Bool :=
  (catalogFilter.operators.map toUpperCase).contains operator.text

/-- A text in a message. -/
def printed (s : Option String) : String := s.getD "undefined"

def offeredOperator (filter : SemanticFilter String) (catalogFilter : Option CatalogFilter)
    (operator : Operator) : Except ReportError (Operator × Value) :=
  match catalogFilter with
  | none => .ok (operator, filter.value)
  | some catalogFilter =>
    if catalogFilter.offers operator then .ok (operator, filter.value)
    else do
      let filterId := printed filter.filterId
      let canonical ← found
        ((catalogFilter.operators.head?.map toUpperCase).bind Operator.ofText?)
        (invalidQuery s!"Operator is not allowed for filter: {filterId}")
      return (canonical, catalogFilter.defaultValue.orElse filter.value)

def validateFilter (dataset : CatalogDataset) (filter : SemanticFilter String) :
    Except ReportError (SemanticFilter Operator) := do
  let operator ← found (Operator.ofText? (canonicalizeOperator filter.operator))
    (invalidQuery s!"Unsupported filter operator: {filter.operator}")
  let catalogFilter := catalog.filterOf filter
  let filterId := printed filter.filterId
  let column := printed filter.column
  throwWhen ((truthy filter.filterId).isSome ∧ catalogFilter.isNone)
    (.badRequest "MISSING_FILTER" s!"Unknown filterId: {filterId}")
  throwWhen (catalogFilter.any fun f =>
      !f.datasetIds.contains "*" && !f.datasetIds.contains dataset.datasetId)
    (.badRequest "MISSING_FILTER"
      s!"Filter is not available on dataset {dataset.datasetId}: {filterId}")
  let (operator, value) ← offeredOperator filter catalogFilter operator
  throwWhen (catalogFilter.isNone ∧ (truthy filter.column).any fun column =>
      !isRawFilterColumnAllowed catalog dataset column)
    (invalidQuery s!"Filter column is not allowed: {column}")
  validateValue value
  return { filter with operator := operator, value := value }

end Filters

/-! ### Dates and limits -/

def fallbackTimeRange (fieldId : Option String) : SemanticTimeRange :=
  match truthy fieldId with
  | some fieldId => ⟨some .unspecified, none, none, some fieldId⟩
  | none => ⟨some .currentFinancialYear, none, none, none⟩

/-- A custom range that misses dates falls back to the default or to today. -/
def repairCustomRange (input : SemanticTimeRange) (today : ℤ) : SemanticTimeRange :=
  match input.startDate.filter (!JsText.isBlank ·), input.endDate.filter (!JsText.isBlank ·) with
  | some _, some _ => input
  | none, none => fallbackTimeRange input.fieldId
  | startDate, endDate =>
    let first := startDate.getD (formatDate today)
    let last := endDate.getD (formatDate today)
    if isIsoDate first ∧ isIsoDate last ∧ first > last then
      { input with startDate := some last, endDate := some first }
    else { input with startDate := some first, endDate := some last }

def validateCustomRange (input : SemanticTimeRange) : Except ReportError SemanticTimeRange := do
  let first := input.startDate.getD ""
  let last := input.endDate.getD ""
  throwWhen (¬(isIsoDate first ∧ isIsoDate last))
    (invalidQuery "Custom date range requires valid startDate and endDate")
  throwWhen (first > last) (invalidQuery "Date range startDate cannot be after endDate")
  let start ← found (dayOf first) (invalidQuery "Custom date range has unparseable dates")
  let stop ← found (dayOf last) (invalidQuery "Custom date range has unparseable dates")
  throwWhen (stop - start + 1 > 366 * 3)
    (.badRequest "QUERY_TOO_BROAD" "Custom date range is too large (max 1098 days)")
  return input

def validateTimeRange (input : Option SemanticTimeRange) (today : ℤ) :
    Except ReportError SemanticTimeRange :=
  match input with
  | none => .ok (fallbackTimeRange none)
  | some input =>
    match input.preset with
    | some .unspecified => .ok (fallbackTimeRange input.fieldId)
    | some .custom =>
      let repaired := repairCustomRange input today
      if repaired.preset = some .custom then validateCustomRange repaired else .ok repaired
    | _ => .ok input

def validateLimit (limit : Option ℚ) : Except ReportError ℕ := do
  let parsed := limit.getD 100
  throwWhen (parsed.den ≠ 1 ∨ parsed < 1) (invalidQuery "Limit must be a positive integer")
  throwWhen (parsed > 1000) (.badRequest "QUERY_TOO_BROAD" "AI report limit is too large")
  return parsed.num.toNat

section Dates

variable (catalog : SemanticCatalog) (dataset : CatalogDataset)

def normalizeDateFieldId (fieldId : String) : Option String :=
  match (catalog.getTimeField fieldId).filter fun t => t.datasetId = dataset.datasetId with
  | some timeField => some timeField.fieldId
  | none =>
    match dataset.dateFields.find? fun d => d.fieldId = fieldId with
    | some dateField => some dateField.fieldId
    | none =>
      ((catalog.getDisplayColumn fieldId).filter fun c =>
        c.datasetId = dataset.datasetId && c.dataType = "date").bind fun c =>
        ((catalog.timeFields.find? fun t =>
          t.datasetId = dataset.datasetId && t.column = c.column).map
            CatalogTimeField.fieldId).or
          ((dataset.dateFields.find? fun d => d.column = c.column).map DateField.fieldId)

def normalizeTimeFieldForDataset (timeRange : SemanticTimeRange) :
    Except ReportError SemanticTimeRange :=
  match truthy timeRange.fieldId with
  | none => .ok timeRange
  | some fieldId => do
    let normalized ← found (truthy (normalizeDateFieldId catalog dataset fieldId))
      (.badRequest "MISSING_DATE_FIELD"
        s!"Date field is not available on dataset {dataset.datasetId}: {fieldId}")
    return { timeRange with fieldId := some normalized }

end Dates

/-! ### Permissions -/

/-- `DOMAIN_PERMISSIONS` -/
def domainPermissions : List (String × String) :=
  [("sales", "reports.sales.view"), ("purchase", "reports.purchase.view"),
    ("inventory", "reports.inventory.view"), ("outstanding", "reports.outstanding.view"),
    ("accounting", "reports.accounting.view"), ("tax", "reports.tax.view")]

/-- `FINANCIAL_DATASETS` -/
def financialDatasets : List String := ["party_outstanding", "ledger_entries", "tax_register"]

def hasPermission (security : ReportingSecurityContext) (permission : String) : Bool :=
  ["SUPER_ADMIN", "ADMIN"].contains security.userRole || security.permissions.contains permission

def assertDatasetPermission (dataset : CatalogDataset) (security : ReportingSecurityContext) :
    Except ReportError Unit := do
  let permission := printed (domainPermissions.lookup dataset.domain)
  throwWhen ((domainPermissions.lookup dataset.domain).any fun p => !hasPermission security p)
    (.forbidden s!"AI reports for {dataset.domain} require {permission}")
  throwWhen (financialDatasets.contains dataset.datasetId ∧
      ["ADMIN", "FINANCE", "PLANNER", "SUPER_ADMIN"].contains security.userRole = false)
    (.forbidden "Financial AI reports require finance/report permissions")

/-! ### Selections -/

/-- The names that an invoice query takes on when it is asked for products. -/
def salesInvoiceToItemMetrics : List (String × String) :=
  [("invoice_net_sales", "net_sales"), ("invoice_gross_sales", "gross_sales"),
    ("invoice_sales_tax", "sales_tax"), ("sales_invoice_count", "sales_item_invoice_count")]

def salesInvoiceToItemDimensions : List (String × String) :=
  [("sales_customer", "sales_item_customer"), ("sales_salesman", "sales_item_salesman"),
    ("sales_invoice", "sales_item_invoice"), ("sales_branch", "sales_item_branch")]

def salesInvoiceToItemTimeFields : List (String × String) :=
  [("sales_bill_date", "sales_invoice_date")]

def salesInvoiceToItemDisplayColumns : List (String × String) :=
  [("sales_invoice_no", "sales_item_invoice_no"), ("sales_invoice_date", "sales_item_invoice_date"),
    ("sales_customer_name", "sales_item_customer_name"),
    ("sales_salesman_name", "sales_item_salesman_name"),
    ("sales_branch_name", "sales_item_branch_name")]

def renamed (names : List (String × String)) (id : String) : String := (names.lookup id).getD id

/-- What a report selects and is sorted by. -/
structure Selections where
  metrics : List String
  dimensions : List String
  displayColumns : List String
  sort : List SemanticSort
  timeRange : SemanticTimeRange

def Selections.ofItems (s : Selections) : Selections where
  metrics := s.metrics.map (renamed salesInvoiceToItemMetrics)
  dimensions := s.dimensions.map (renamed salesInvoiceToItemDimensions)
  displayColumns := s.displayColumns.map (renamed salesInvoiceToItemDisplayColumns)
  sort := s.sort.map fun item =>
    { item with
      metricId := item.metricId.map (renamed salesInvoiceToItemMetrics)
      dimensionId := item.dimensionId.map (renamed salesInvoiceToItemDimensions)
      columnId := item.columnId.map (renamed salesInvoiceToItemDisplayColumns)
      fieldId := item.fieldId.map (renamed salesInvoiceToItemTimeFields) }
  timeRange :=
    { s.timeRange with
      fieldId := s.timeRange.fieldId.map (renamed salesInvoiceToItemTimeFields) }

def requiresSalesItemDataset (datasetId : String) (filters : List (SemanticFilter String)) : Bool :=
  datasetId = "sales_invoices" &&
    filters.any fun filter => filter.filterId = some "product_filter"

def rejectFirst (ids : List String) (bad : String → Bool) (error : String → ReportError) :
    Except ReportError Unit :=
  match ids.find? bad with
  | some id => .error (error id)
  | none => .ok ()

section Selections

variable (catalog : SemanticCatalog) (dataset : CatalogDataset)

def ownDisplayColumn (id : String) : Option CatalogDisplayColumn :=
  (catalog.getDisplayColumn id).filter fun c => c.datasetId = dataset.datasetId

def ownDimension (id : String) : Option CatalogDimension :=
  (catalog.getDimension id).filter fun d => d.datasetId = dataset.datasetId || d.datasetId = "*"

def ownMetric (id : String) : Option CatalogMetric :=
  (catalog.getMetric id).filter fun m => m.datasetId = dataset.datasetId

/-- One id listed under the metrics goes where it belongs. -/
def reassign (s : Selections) (metricId : String) : Selections :=
  if (ownMetric catalog dataset metricId).isSome then { s with metrics := s.metrics ++ [metricId] }
  else if (ownDisplayColumn catalog dataset metricId).isSome then
    { s with displayColumns := pushNew s.displayColumns metricId }
  else if (ownDimension catalog dataset metricId).isSome then
    { s with dimensions := pushNew s.dimensions metricId }
  else { s with metrics := s.metrics ++ [metricId] }

def reassignNonMetricSelections (s : Selections) : Selections :=
  s.metrics.foldl (reassign catalog dataset) { s with metrics := [] }

/-- A sort by something that is not selected goes by the column it stands for. -/
def normalizeSortReference (s : Selections) (item : SemanticSort) : SemanticSort :=
  let byDimension (item : SemanticSort) : Option SemanticSort :=
    (truthy item.dimensionId).bind fun id =>
      if s.dimensions.contains id then none
      else (ownDisplayColumn catalog dataset id).map fun c =>
        if s.displayColumns.contains c.columnId then
          { item with dimensionId := none, columnId := some c.columnId }
        else { item with dimensionId := none, column := some c.column }
  let byColumn (item : SemanticSort) : Option SemanticSort :=
    (truthy item.columnId).bind fun id =>
      if s.displayColumns = [] ∨ s.displayColumns.contains id then none
      else (ownDisplayColumn catalog dataset id).map fun c =>
        { item with columnId := none, column := some c.column }
  let byMetric : Option SemanticSort :=
    (truthy item.metricId).bind fun id =>
      if s.metrics.contains id then none
      else
        match ownDisplayColumn catalog dataset id with
        | some c => some (if s.displayColumns.contains c.columnId then
            { item with metricId := none, columnId := some c.columnId }
          else { item with metricId := none, column := some c.column })
        | none =>
          match (catalog.getTimeField id).filter fun t => t.datasetId = dataset.datasetId with
          | some timeField => some { item with metricId := none, fieldId := some timeField.fieldId }
          | none =>
            match truthy (normalizeDateFieldId catalog dataset id) with
            | some fieldId => some { item with metricId := none, fieldId := some fieldId }
            | none =>
              (ownDimension catalog dataset id).map fun d =>
                if s.dimensions.contains d.dimensionId then
                  { item with metricId := none, dimensionId := some d.dimensionId }
                else { item with metricId := none, column := some d.labelColumn }
  (byMetric.or ((byDimension item).or (byColumn item))).getD item

def datasetHasColumn (column : String) : Bool :=
  ["tenant_id", "company_id", "branch_id", "warehouse_id"].contains column ||
    (catalog.metrics.any fun m => m.datasetId = dataset.datasetId &&
      isIdentifier column && ! ["SUM", "COUNT", "DISTINCT"].contains (toUpperCase column) &&
        (words m.expression).contains column) ||
    (catalog.dimensions.any fun d =>
      d.datasetId = dataset.datasetId && d.columns.contains column) ||
    (catalog.timeFields.any fun t => t.datasetId = dataset.datasetId && t.column = column) ||
    (catalog.filters.any fun f =>
      (f.datasetIds.contains dataset.datasetId || f.datasetIds.contains "*") &&
        (f.column = some column || (f.columns.getD []).contains column)) ||
    (catalog.displayColumns.any fun c => c.datasetId = dataset.datasetId && c.column = column) ||
    (dataset.dateFields.any fun d => d.column = column) ||
    (dataset.defaultFilters.any fun f => f.column = some column)

def validateSort (s : Selections) (item : SemanticSort) : Except ReportError Unit := do
  throwWhen (["asc", "desc"].contains (toLowerCase item.direction) = false)
    (invalidQuery "Sort direction must be asc or desc")
  rejectFirst (truthy item.metricId).toList (fun id => !s.metrics.contains id)
    fun id => invalidQuery s!"Sort metric is not selected: {id}"
  rejectFirst (truthy item.dimensionId).toList (fun id => !s.dimensions.contains id)
    fun id => invalidQuery s!"Sort dimension is not selected: {id}"
  rejectFirst (truthy item.columnId).toList
    (fun id => (ownDisplayColumn catalog dataset id).isNone ||
      (!s.displayColumns.isEmpty && !s.displayColumns.contains id))
    fun id => invalidQuery s!"Sort display column is not selected: {id}"
  rejectFirst (truthy item.fieldId).toList
    (fun id => (truthy (dateColumnForFieldId catalog dataset id)).isNone)
    fun id => .badRequest "MISSING_DATE_FIELD" s!"Unknown sort field: {id}"
  rejectFirst (truthy item.column).toList (fun column => !datasetHasColumn catalog dataset column)
    fun column => invalidQuery s!"Sort column is not allowed: {column}"

def validateSelections (s : Selections) : Except ReportError Unit := do
  rejectFirst s.metrics (fun id => (ownMetric catalog dataset id).isNone) fun id =>
    .badRequest "MISSING_METRIC" s!"Metric is not available on dataset {dataset.datasetId}: {id}"
  rejectFirst s.dimensions (fun id => (ownDimension catalog dataset id).isNone) fun id =>
    .badRequest "MISSING_DIMENSION"
      s!"Dimension is not available on dataset {dataset.datasetId}: {id}"
  throwWhen (s.metrics = [] ∧ s.dimensions = [] ∧
      s.displayColumns.filter (fun id => (ownDisplayColumn catalog dataset id).isSome) = [])
    (invalidQuery "Semantic query must include metrics, dimensions, or display columns")

end Selections

/-! ### Reports -/

def modeFromAnalysisType : Option AnalysisType → SemanticQueryMode
  | some .ranking => .ranking
  | some .detail => .detail
  | some .exceptionList => .detail
  | some .ledgerDetail => .detail
  | _ => .aggregate

section Reports

variable (catalog : SemanticCatalog) (today : ℤ)

def requireDataset (datasetId : String) : Except ReportError CatalogDataset :=
  found ((catalog.getDataset datasetId).filter CatalogDataset.allowedForNlq)
    (.badRequest "MISSING_DATASET" s!"Dataset is not available: {datasetId}")

def resolveMetrics (inputMetrics : Option (List String))
    (template : Option CatalogReportTemplate) (dataset : CatalogDataset)
    (mode : SemanticQueryMode) : Except ReportError (List String) := do
  let defaults :=
    match template.map CatalogReportTemplate.defaultMetrics with
    | some (metric :: metrics) => metric :: metrics
    | _ => dataset.defaultAggregateMetrics
  let metrics :=
    match inputMetrics with
    | some metrics => if metrics ≠ [] ∨ mode = .detail then metrics else defaults
    | none => defaults
  throwWhen (metrics = [] ∧ mode ≠ .detail)
    (invalidQuery "Semantic query must include at least one metric")
  return metrics.take 8

def resolveDisplayColumns (inputColumns : List String)
    (template : Option CatalogReportTemplate) (dataset : CatalogDataset)
    (mode : SemanticQueryMode) : List String :=
  let columns :=
    if inputColumns ≠ [] then inputColumns
    else
      match template.map CatalogReportTemplate.defaultDisplayColumns with
      | some (column :: columns) => column :: columns
      | _ => if mode = .detail then dataset.defaultDetailColumns else []
  columns.take 30

def defaultSort (metrics : List String) : List SemanticSort :=
  (metrics.head?.map fun metricId => ⟨some metricId, none, none, none, none, "desc"⟩).toList

def ReportInput.resolvedMode (input : ReportInput) (template : Option CatalogReportTemplate) :
    SemanticQueryMode :=
  input.mode.getD
    (modeFromAnalysisType (input.analysisType.or (template.map CatalogReportTemplate.analysisType)))

def rawSelections (input : ReportInput) (template : Option CatalogReportTemplate)
    (baseDataset : CatalogDataset) (metrics : List String) (timeRange : SemanticTimeRange) :
    Selections where
  metrics := metrics
  dimensions :=
    if input.dimensions ≠ [] then input.dimensions
    else (template.map CatalogReportTemplate.defaultDimensions).getD []
  displayColumns :=
    resolveDisplayColumns input.displayColumns template baseDataset (input.resolvedMode template)
  sort :=
    if input.sort ≠ [] then input.sort
    else (template.bind CatalogReportTemplate.defaultSort).getD (defaultSort metrics)
  timeRange := timeRange

def mergedFilters (input : ReportInput) (template : Option CatalogReportTemplate)
    (baseDataset : CatalogDataset) : List (SemanticFilter String) :=
  mergeFilters [baseDataset.defaultFilters,
    (template.map CatalogReportTemplate.defaultFilters).getD [], input.filters]

def ReportInput.template (input : ReportInput) : Option CatalogReportTemplate :=
  (truthy input.templateId).bind catalog.getTemplate

def ReportInput.datasetName (input : ReportInput) : Except ReportError String :=
  found (truthy (some input.datasetId) |>.or
      (truthy ((input.template catalog).map CatalogReportTemplate.datasetId)))
    (invalidQuery "Semantic query is missing datasetId")

/-- The part of the validation that works on the dataset that is read in the end. -/
def finishReport (input : ReportInput) (dataset : CatalogDataset) (s : Selections)
    (filters : List (SemanticFilter String)) (limit : ℕ) :
    Except ReportError SemanticReportQuery := do
  let timeRange ← normalizeTimeFieldForDataset catalog dataset s.timeRange
  let s := reassignNonMetricSelections catalog dataset s
  validateSelections catalog dataset s
  let s := { s with
    displayColumns := s.displayColumns.filter fun id =>
      (ownDisplayColumn catalog dataset id).isSome }
  let sort := s.sort.map (normalizeSortReference catalog dataset s)
  let validatedFilters ← filters.mapM (validateFilter catalog dataset)
  forEach (fun _ item => validateSort catalog dataset s item) () sort
  return {
    datasetId := dataset.datasetId
    metrics := s.metrics
    dimensions := s.dimensions
    displayColumns := s.displayColumns
    filters := validatedFilters
    timeRange := timeRange
    comparison := input.comparison
    sort := sort
    limit := limit }

def validateReport (input : ReportInput) (security : ReportingSecurityContext)
    (inheritedTimeRange : Option SemanticTimeRange) :
    Except ReportError SemanticReportQuery := do
  let template := input.template catalog
  let datasetId ← input.datasetName catalog
  let baseDataset ← requireDataset catalog datasetId
  let metrics ← resolveMetrics input.metrics template baseDataset (input.resolvedMode template)
  let filters := dedupeFilters catalog (mergedFilters input template baseDataset)
  let limit ← validateLimit (input.limit.or (template.bind CatalogReportTemplate.defaultLimit))
  let timeRange ← validateTimeRange (input.timeRange.or inheritedTimeRange) today
  let selections := rawSelections input template baseDataset metrics timeRange
  let ofItems := requiresSalesItemDataset datasetId filters
  let dataset ← requireDataset catalog (if ofItems then "sales_items" else datasetId)
  assertDatasetPermission dataset security
  finishReport catalog input dataset (if ofItems then selections.ofItems else selections) filters
    limit

/-! ### Dashboards and dynamic queries -/

def componentInput (component : DashboardComponent) (template : CatalogReportTemplate)
    (timeRange : SemanticTimeRange) : ReportInput where
  templateId := some template.templateId
  datasetId := template.datasetId
  mode := some (modeFromAnalysisType (some template.analysisType))
  analysisType := none
  metrics := some template.defaultMetrics
  dimensions := template.defaultDimensions
  displayColumns := template.defaultDisplayColumns
  filters := component.filters.getD template.defaultFilters
  timeRange := some timeRange
  comparison := none
  sort := template.defaultSort.getD []
  limit := template.defaultLimit

def widgetFromComponent (security : ReportingSecurityContext) (timeRange : SemanticTimeRange)
    (component : DashboardComponent) : Except ReportError SemanticReportQuery := do
  let template ← found (catalog.getTemplate component.templateId)
    (.badRequest "MISSING_DATASET" s!"Unknown report template: {component.templateId}")
  validateReport catalog today (componentInput component template timeRange) security
    (some timeRange)

def validateDashboard (input : DashboardInput) (security : ReportingSecurityContext) :
    Except ReportError (List SemanticReportQuery) := do
  let dashboard ← found (catalog.getDashboard input.dashboardId)
    (invalidQuery s!"Unknown dashboard template: {input.dashboardId}")
  let timeRange ← validateTimeRange input.timeRange today
  if input.widgets ≠ [] then
    input.widgets.mapM fun widget => validateReport catalog today widget security (some timeRange)
  else dashboard.components.mapM (widgetFromComponent catalog today security timeRange)

end Reports

def normalizeDynamicOperator (raw : String) : String :=
  let operator := toLowerCase raw
  if operator = "contains" then "ILIKE"
  else if operator = "not_contains" then "NOT ILIKE"
  else if operator = "in" then "IN"
  else if operator = "not_in" then "NOT IN"
  else toUpperCase operator

/-- A range without bounds is left without its keys. -/
def normalizeDynamicValue : Value → Value
  | .range .null .null => .object
  | value => value

def normalizeDynamicFilter (filter : SemanticFilter String) : SemanticFilter String :=
  { filter with
    column := none
    operator := normalizeDynamicOperator filter.operator
    value := normalizeDynamicValue filter.value }

def normalizeDynamicFilters (filters : List (SemanticFilter String)) :
    List (SemanticFilter String) :=
  (filters.take 20).map normalizeDynamicFilter

def normalizeDynamicQuery (raw : DynamicSemanticQuery) : ReportInput where
  templateId := none
  datasetId := raw.datasetId.getD ""
  mode := some raw.mode
  analysisType := none
  metrics := some (raw.metrics.filter (· ≠ ""))
  dimensions := raw.dimensions.filter (· ≠ "")
  displayColumns := raw.displayColumns.filter (· ≠ "")
  filters := normalizeDynamicFilters raw.filters
  timeRange := raw.time
  comparison := raw.comparison
  sort := raw.sort.map fun item =>
    ⟨item.byMetricId, item.byDimensionId, item.byColumnId, none, none,
      if item.direction = "asc" then "asc" else "desc"⟩
  limit := some raw.limit

def validate (catalog : SemanticCatalog) (today : ℤ) (input : SemanticQueryInput)
    (security : ReportingSecurityContext) : Except ReportError SemanticQuery :=
  match input with
  | .report input => do
    return .report (← validateReport catalog today input security none)
  | .dashboard input => do
    return .dashboard (← validateDashboard catalog today input security)
  | .dynamic raw => do
    return .report (← validateReport catalog today (normalizeDynamicQuery raw) security none)
  | .clarification => .ok .clarification
  | .unsupported => .ok .unsupported

def SemanticQuery.reports : SemanticQuery → List SemanticReportQuery
  | .report query => [query]
  | .dashboard widgets => widgets
  | .clarification => []
  | .unsupported => []

end Forecast.Reporting
