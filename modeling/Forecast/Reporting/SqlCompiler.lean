import Forecast.Lib.Transactions
import Forecast.Reporting.DateRanges
import Forecast.Reporting.Sql

/-!
# The SQL compiler

A report query of the catalog becomes a statement over the view of its dataset. Every predicate
pushes its values while it is written, so the placeholders are numbered in the order in which the
scope of the caller, the filters of the query, the date range and the limit are compiled.
-/

namespace Forecast.Reporting

open Placeholders Transactions

/-- `DATE_FILTER_DATASETS` -/
def dateFilterDatasets : List String :=
  ["sales_items", "sales_invoices", "purchase_items", "purchase_invoices", "sales_net",
    "purchase_net", "sales_returns", "purchase_returns", "stock_ledger", "tax_register",
    "ledger_entries"]

/-- `BALANCE_SNAPSHOT_DATASETS` -/
def balanceSnapshotDatasets : List String := ["party_outstanding"]

/-- `UUID_FILTER_COLUMNS` -/
def uuidFilterColumns : List String :=
  ["tenant_id", "branch_id", "warehouse_id", "location_id", "product_id", "customer_id",
    "supplier_id", "batch_id", "account_id", "cost_center_id", "journal_entry_id",
    "created_by_id", "purchase_order_id", "work_order_id", "source_voucher_id",
    "source_transaction_id", "source_outstanding_id", "source_entry_id", "source_line_id"]

def isUuidColumn (column : String) : Bool := uuidFilterColumns.contains column

def ident (value : String) : Except ReportError String :=
  if isIdentifier value then .ok value
  else .error (.badRequest "UNSAFE_SQL" s!"Unsafe identifier: {value}")

section Columns

variable (catalog : SemanticCatalog) (dataset : CatalogDataset)

def isColumnAllowedForDataset (column : String) : Bool :=
  isIdentifier column &&
    (["tenant_id", "company_id", "branch_id", "warehouse_id"].contains column ||
      (catalog.dimensions.any fun d =>
        (d.datasetId = dataset.datasetId || d.datasetId = "*") && d.columns.contains column) ||
      (catalog.timeFields.any fun t => t.datasetId = dataset.datasetId && t.column = column) ||
      (catalog.filters.any fun f =>
        (f.datasetIds.contains dataset.datasetId || f.datasetIds.contains "*") &&
          (f.column = some column || (f.columns.getD []).contains column)) ||
      (catalog.displayColumns.any fun c =>
        c.datasetId = dataset.datasetId && c.column = column) ||
      (catalog.metrics.any fun m =>
        m.datasetId = dataset.datasetId && (words m.expression).contains column) ||
      (dataset.defaultFilters.any fun f => f.column = some column) ||
      (dataset.dateFields.any fun d => d.column = column))

def isDateColumn (column : String) : Bool :=
  (dataset.dateFields.any fun d => d.column = column) ||
    catalog.timeFields.any fun t => t.datasetId = dataset.datasetId && t.column = column

def dateColumnForFieldId (fieldId : String) : Option String :=
  match (catalog.getTimeField fieldId).filter fun t => t.datasetId = dataset.datasetId with
  | some timeField => some timeField.column
  | none =>
    match dataset.dateFields.find? fun d => d.fieldId = fieldId with
    | some dateField => some dateField.column
    | none =>
      ((catalog.getDisplayColumn fieldId).filter fun c =>
        c.datasetId = dataset.datasetId && c.dataType = "date").map CatalogDisplayColumn.column

def defaultDateColumn (fieldId : Option String) : Option String :=
  match truthy ((truthy fieldId).bind (dateColumnForFieldId catalog dataset)) with
  | some column => some column
  | none =>
    match catalog.timeFields.find? fun t => t.datasetId = dataset.datasetId && t.isDefault with
    | some timeField => some timeField.column
    | none => (dataset.dateFields.find? DateField.isDefault).map DateField.column

def filterColumns {Op : Type} (filter : SemanticFilter Op)
    (catalogFilter : Option CatalogFilter) : List String :=
  let rawColumns : List String :=
    match catalogFilter.bind CatalogFilter.columns with
    | some columns => columns
    | none =>
      match truthy (catalogFilter.bind CatalogFilter.column) with
      | some column => [column]
      | none => (truthy filter.column).toList
  let resolved := rawColumns.flatMap fun column =>
    if column = "default_time_field" then (truthy (defaultDateColumn catalog dataset none)).toList
    else [column]
  resolved.filter (isColumnAllowedForDataset catalog dataset)

end Columns

def compatibleFilterColumns (columns : List String) (operator : Operator) (value : Value) :
    List String :=
  match operator with
  | .ilike | .notIlike => columns.filter fun column => !isUuidColumn column
  | .eq | .neq =>
    if value.isUuidLike then columns else columns.filter fun column => !isUuidColumn column
  | .inList | .notInList =>
    if value.allValuesUuidLike then columns else columns.filter fun column => !isUuidColumn column
  | _ => columns

/-! ### Filters -/

/-- The bounds of a range where both are given and the operator is not one-sided, or else the
value that is compared with. -/
def resolveRange (operator : Operator) (value : Value) : (Value × Value) ⊕ Value :=
  match value with
  | .range low high =>
    match operator with
    | .lt | .lte => .inr (high.orElse low)
    | .gt | .gte => .inr (low.orElse high)
    | _ => if low.isNull || high.isNull then .inr (low.orElse high) else .inl (low, high)
  | value => .inr value

/-- An equality with a list is membership. -/
def coerceOperator (operator : Operator) (value : Value) : Operator :=
  match operator, value with
  | .eq, .list _ => .inList
  | .neq, .list _ => .notInList
  | operator, _ => operator

def resolveFilterValue (today : ℤ) : Value → Value
  | .relativeDate token =>
    if token = "today_plus_90_days" then .text (formatDate (today + 90)) else .relativeDate token
  | value => value

def betweenValues : Value → List Value
  | .list values => values
  | .range low high => [low, high].filter fun value => !value.isNull
  | _ => []

def likePattern (value : Value) : Value :=
  .text ("%" ++ String.ofList (value.toText.toList.filter (· ≠ '%')) ++ "%")

section Filters

variable (catalog : SemanticCatalog) (today : ℤ) (dataset : CatalogDataset)

def compileSingleColumnFilter (columnName : String) (operator : Operator) (value : Value)
    (params : List Value) : Except ReportError (Predicate × List Value) := do
  let column ← ident columnName
  let isDate := isDateColumn catalog dataset columnName
  let cast : Cast := if isUuidColumn columnName then .uuid else if isDate then .date else .none
  match resolveRange operator value with
  | .inl (low, high) =>
    let (lowHole, params) := push params low
    let (highHole, params) := push params high
    return (.between column lowHole highHole cast, params)
  | .inr value =>
    match coerceOperator operator value with
    | .inList =>
      let (hole, params) := push params (.list value.items)
      return (.member column false hole (arrayCast isDate), params)
    | .notInList =>
      let (hole, params) := push params (.list value.items)
      return (.member column true hole (arrayCast isDate), params)
    | .between =>
      match betweenValues value with
      | [low, high] =>
        let (lowHole, params) := push params low
        let (highHole, params) := push params high
        return (.between column lowHole highHole (if isDate then .date else .none), params)
      | _ => .error (invalidQuery "BETWEEN filter requires exactly two values")
    | .ilike =>
      let (hole, params) := push params (likePattern value)
      return (.like column false hole, params)
    | .notIlike =>
      let (hole, params) := push params (likePattern value)
      return (.like column true hole, params)
    | .isDistinctFrom =>
      let (hole, params) := push params value
      return (.compare column .isDistinctFrom hole .none, params)
    | operator =>
      let (hole, params) := push params (resolveFilterValue today value)
      return (.compare column operator hole cast, params)
where
  arrayCast (isDate : Bool) : Cast :=
    if isUuidColumn columnName then .uuidArray else if isDate then .dateArray else .none

def compileColumns (operator : Operator) (value : Value) :
    List String → List Value → Except ReportError (List Predicate × List Value)
  | [], params => return ([], params)
  | column :: columns, params => do
    let (p, params) ← compileSingleColumnFilter catalog today dataset column operator value params
    let (ps, params) ← compileColumns operator value columns params
    return (p :: ps, params)

def compileFilter (filter : SemanticFilter Operator) (params : List Value) :
    Except ReportError (Option Condition × List Value) := do
  let catalogFilter := catalog.filterOf filter
  let columns := compatibleFilterColumns (filterColumns catalog dataset filter catalogFilter)
    filter.operator filter.value
  match columns with
  | [] => return (none, params)
  | [column] =>
    let (p, params) ←
      compileSingleColumnFilter catalog today dataset column filter.operator filter.value params
    return (some (.one p), params)
  | column :: _ =>
    match filter.operator with
    | .ilike =>
      let (hole, params) := push params (likePattern filter.value)
      let columns ← columns.mapM ident
      return (some (.any (columns.map fun column => .like column false hole)), params)
    | .notIlike =>
      let (hole, params) := push params (likePattern filter.value)
      let columns ← columns.mapM ident
      return (some (.all (columns.map fun column => .like column true hole)), params)
    | .eq | .inList =>
      let (ps, params) ←
        compileColumns catalog today dataset filter.operator filter.value columns params
      return (some (.any ps), params)
    | .neq | .notInList =>
      let (ps, params) ←
        compileColumns catalog today dataset filter.operator filter.value columns params
      return (some (.all ps), params)
    | operator =>
      let (p, params) ←
        compileSingleColumnFilter catalog today dataset column operator filter.value params
      return (some (.one p), params)

end Filters

/-! ### The `WHERE` -/

/-- The conditions so far and the values that they were written for. -/
structure WhereClause where
  conditions : List Condition
  params : List Value

/-- The companies of the caller, or the one that is asked for. -/
def intersectCompany (security : ReportingSecurityContext) : List ℤ :=
  match security.requestedCompanyId with
  | some id =>
    if security.allowedCompanyIds.contains id || !security.hasExplicitCompanyScope then [id] else []
  | none => security.allowedCompanyIds.eraseDups

def intersectBranches (security : ReportingSecurityContext) : List String :=
  if security.requestedBranchIds ≠ [] then
    security.requestedBranchIds.filter fun id =>
      security.allowedBranchIds.contains id || !security.hasExplicitBranchScope
  else security.allowedBranchIds.eraseDups

/-- The filter that lifts the company scope of `ledger_entries`. -/
def isCoreGlFilter (filter : SemanticFilter Operator) : Bool :=
  filter.column = some "ledger_source" && filter.operator = .eq && filter.value.isText "CORE_GL"

def coreGlOnly (dataset : CatalogDataset) (filters : List (SemanticFilter Operator)) : Bool :=
  dataset.datasetId = "ledger_entries" && filters.any isCoreGlFilter

def CatalogDataset.branchColumn (dataset : CatalogDataset) : String :=
  if dataset.requiredSecurityFilters.contains "warehouse_id" then "warehouse_id" else "branch_id"

def CatalogDataset.requiresBranch (dataset : CatalogDataset) : Bool :=
  dataset.requiredSecurityFilters.contains "branch_id" ||
    dataset.requiredSecurityFilters.contains "warehouse_id"

/-- `column = ANY($n)` is added to a clause. -/
def WhereClause.addMember (clause : WhereClause) (column : String) (values : List Value)
    (cast : Cast) : WhereClause :=
  let (hole, params) := push clause.params (.list values)
  ⟨clause.conditions ++ [.one (.member column false hole cast)], params⟩

def tenantClause (security : ReportingSecurityContext) : WhereClause :=
  let (hole, params) := push [] (.text security.tenantId)
  ⟨[.one (.compare "tenant_id" .eq hole .uuid)], params⟩

/-- The clause of the caller's scope, and the names of the columns it restricts. -/
def addSecurityFilters (dataset : CatalogDataset) (filters : List (SemanticFilter Operator))
    (security : ReportingSecurityContext) : Except ReportError (WhereClause × List String) := do
  let clause := tenantClause security
  let byCompany := dataset.requiredSecurityFilters.contains "company_id" && !coreGlOnly dataset filters
  let companyIds := intersectCompany security
  throwWhen (byCompany ∧ companyIds = [])
    (.forbidden "No allowed company is available for this report")
  let (clause, applied) :=
    if byCompany then
      (clause.addMember "company_id" (companyIds.map fun id : ℤ => .number id) .intArray,
        ["tenant_id", "company_id"])
    else (clause, ["tenant_id"])
  let branchIds := intersectBranches security
  throwWhen (dataset.requiresBranch ∧ branchIds = [])
    (.forbidden "No allowed branch is available for this report")
  if dataset.requiresBranch then
    return (clause.addMember dataset.branchColumn (branchIds.map .text) .uuidArray,
      applied ++ [dataset.branchColumn])
  else return (clause, applied)

section Where

variable (catalog : SemanticCatalog) (today : ℤ) (dataset : CatalogDataset)

def addFilter (clause : WhereClause) (filter : SemanticFilter Operator) :
    Except ReportError WhereClause := do
  let (condition, params) ← compileFilter catalog today dataset filter clause.params
  return ⟨clause.conditions ++ condition.toList, params⟩

def shouldApplyDateFilter (timeRange : SemanticTimeRange) : Bool :=
  if balanceSnapshotDatasets.contains dataset.datasetId then false
  else if dateFilterDatasets.contains dataset.datasetId then true
  else if (truthy (defaultDateColumn catalog dataset timeRange.fieldId)).isNone then false
  else if timeRange.preset = some .custom then true
  else
    (truthy timeRange.fieldId).isSome &&
      ! [.currentFinancialYear, .unspecified].contains
        (timeRange.preset.getD .currentFinancialYear)

def addDateFilter (timeRange : SemanticTimeRange) (security : ReportingSecurityContext)
    (clause : WhereClause) : Except ReportError WhereClause := do
  if !shouldApplyDateFilter catalog dataset timeRange then return clause
  match truthy (defaultDateColumn catalog dataset timeRange.fieldId) with
  | none => return clause
  | some dateColumn =>
    let range := resolveDateRange timeRange security today
    let column ← ident dateColumn
    let (low, params) := push clause.params (.text range.startDate)
    let (high, params) := push params (.text range.endDate)
    return ⟨clause.conditions ++ [.one (.between column low high .date)], params⟩

def compileWhere (query : SemanticReportQuery) (security : ReportingSecurityContext) :
    Except ReportError (WhereClause × List String) := do
  let (clause, applied) ← addSecurityFilters dataset query.filters security
  let clause ← forEach (addFilter catalog today dataset) clause query.filters
  let clause ← addDateFilter catalog today dataset query.timeRange security clause
  return (clause, applied)

end Where

/-! ### The selection -/

/-- What is selected and grouped by so far, and the names of the result's columns. -/
structure Selection where
  select : List SelectItem
  groupBy : List Expr
  selectedColumns : List String

/-- `if (!xs.includes(x)) xs.push(x)` -/
def pushNew {α : Type} [DecidableEq α] (xs : List α) (x : α) : List α :=
  if x ∈ xs then xs else xs ++ [x]

section Select

variable (catalog : SemanticCatalog) (dataset : CatalogDataset)

/-- The expressions of a dimension, each with the name it is selected under; it is grouped by all
of them. -/
def compileDimension (dimension : CatalogDimension) :
    Except ReportError (List (Expr × String)) := do
  if dimension.calendarMonth then
    let dateColumn ← found (truthy (defaultDateColumn catalog dataset none))
      (invalidQuery "Month dimension requires a dataset date field")
    return [(.monthOf (← ident dateColumn), "month")]
  else if dimension.columns.contains "default_time_field" then
    let dateColumn ← found (truthy (defaultDateColumn catalog dataset none))
      (invalidQuery "Date dimension requires a dataset date field")
    return [(.dateOf (← ident dateColumn), "date")]
  else
    let columns := dimension.columns.filter (isColumnAllowedForDataset catalog dataset)
    throwWhen (columns = [])
      (invalidQuery s!"Dimension has no allowed columns: {dimension.dimensionId}")
    return columns.map fun column => (.column column, column)

def Selection.addExpr (selection : Selection) (e : Expr × String) : Selection where
  select := pushNew selection.select (.expr e.1 e.2)
  groupBy := pushNew selection.groupBy e.1
  selectedColumns := pushNew selection.selectedColumns e.2

def addDimension (selection : Selection) (dimensionId : String) :
    Except ReportError Selection := do
  let dimension ← found (catalog.getDimension dimensionId)
    (invalidQuery s!"Unknown dimension {dimensionId}")
  let exprs ← compileDimension catalog dataset dimension
  return exprs.foldl Selection.addExpr selection

def addDisplayColumn (hasMetrics : Bool) (selection : Selection) (columnId : String) :
    Except ReportError Selection := do
  let displayColumn ← found (catalog.getDisplayColumn columnId)
    (invalidQuery s!"Unknown display column {columnId}")
  throwWhen (displayColumn.datasetId ≠ dataset.datasetId ∨
      isColumnAllowedForDataset catalog dataset displayColumn.column = false)
    (invalidQuery s!"Display column is not allowed for dataset: {displayColumn.columnId}")
  let column ← ident displayColumn.column
  let grouped := hasMetrics || !selection.groupBy.isEmpty
  if column ∈ selection.selectedColumns then return selection
  else
    return {
      select := selection.select ++ [.expr (.column column) column]
      groupBy := if grouped then pushNew selection.groupBy (.column column) else selection.groupBy
      selectedColumns := selection.selectedColumns ++ [column] }

def addMetric (selection : Selection) (metricId : String) : Except ReportError Selection := do
  let metric ← found (catalog.getMetric metricId) (invalidQuery s!"Unknown metric {metricId}")
  if metric.metricId ∈ selection.selectedColumns then return selection
  else
    let name ← ident metric.metricId
    return { selection with
      select := selection.select ++ [.metric (Token.ofText metric.expression) name]
      selectedColumns := selection.selectedColumns ++ [metric.metricId] }

def compileSelection (query : SemanticReportQuery) : Except ReportError Selection := do
  let selection ← forEach (addDimension catalog dataset) ⟨[], [], []⟩ query.dimensions
  let selection ← forEach (addDisplayColumn catalog dataset !query.metrics.isEmpty) selection
    query.displayColumns
  let selection ← forEach (addMetric catalog) selection query.metrics
  throwWhen (selection.select = []) (invalidQuery "Compiled report has no selected columns")
  return selection

/-! ### The order -/

def isAscending (direction : String) : Bool := toLowerCase direction = "asc"

def compileSortableColumn (columnName : String) (ascending : Bool) (groupBy : List Expr)
    (grouped : Bool) : Except ReportError OrderKey := do
  let column ← ident columnName
  if !grouped then return .name column
  else if .column column ∈ groupBy then return .name column
  else if .dateOf column ∈ groupBy then return .dateOf column
  else return if ascending then .least column else .greatest column

/-- The name that a dimension is ordered by. -/
def sortLabel (dimensionId : String) : Option String :=
  truthy ((catalog.getDimension dimensionId).map fun dimension =>
    if dimension.calendarMonth then "month" else dimension.labelColumn)

/-- What an item of the sort is ordered by; nothing when it names nothing that is there. -/
def compileSortKey (query : SemanticReportQuery) (groupBy : List Expr) (item : SemanticSort) :
    Except ReportError (Option OrderKey) := do
  let ascending := isAscending item.direction
  let grouped := !query.metrics.isEmpty || !groupBy.isEmpty
  let sortable (column : String) : Except ReportError (Option OrderKey) :=
    if isColumnAllowedForDataset catalog dataset column then do
      return some (← compileSortableColumn column ascending groupBy grouped)
    else return none
  match (truthy item.metricId).filter query.metrics.contains with
  | some metricId => return some (.name (← ident metricId))
  | none =>
  match (truthy item.dimensionId).filter query.dimensions.contains with
  | some dimensionId =>
    match sortLabel catalog dimensionId with
    | some column => return some (.name (← ident column))
    | none => return none
  | none =>
  match (truthy item.columnId).filter query.displayColumns.contains with
  | some columnId =>
    match catalog.getDisplayColumn columnId with
    | some displayColumn => sortable displayColumn.column
    | none => return none
  | none =>
  match truthy item.fieldId with
  | some fieldId =>
    match truthy (dateColumnForFieldId catalog dataset fieldId) with
    | some column => sortable column
    | none => return none
  | none =>
  match truthy item.column with
  | some column => sortable column
  | none => return none

def addSortItem (query : SemanticReportQuery) (groupBy : List Expr) (parts : List OrderItem)
    (item : SemanticSort) : Except ReportError (List OrderItem) := do
  let key ← compileSortKey catalog dataset query groupBy item
  return parts ++ (key.map fun key => ⟨key, isAscending item.direction⟩).toList

def compileOrderBy (query : SemanticReportQuery) (groupBy : List Expr) :
    Except ReportError (List OrderItem) :=
  forEach (addSortItem catalog dataset query groupBy) [] (query.sort.take 3)

end Select

/-! ### Reports -/

section Compile

variable (catalog : SemanticCatalog) (today : ℤ)

/-- A statement with the values it is run with, the columns its caller's scope restricts and the
names of its result. -/
structure CompiledStatement where
  statement : Statement
  params : List Value
  appliedSecurityFilters : List String
  selectedColumns : List String

def compileStatement (query : SemanticReportQuery) (dataset : CatalogDataset)
    (security : ReportingSecurityContext) : Except ReportError CompiledStatement := do
  let (clause, applied) ← compileWhere catalog today dataset query security
  let selection ← compileSelection catalog dataset query
  let view ← ident dataset.viewName
  let orderBy ← compileOrderBy catalog dataset query selection.groupBy
  let (limit, params) := push clause.params (.number query.limit)
  return ⟨⟨selection.select, view, clause.conditions, selection.groupBy, orderBy, limit⟩, params,
    applied, selection.selectedColumns⟩

/-- The query over a period of its own. -/
def SemanticReportQuery.during (query : SemanticReportQuery) (range : DateRange) :
    SemanticReportQuery :=
  { query with
    comparison := none
    timeRange := { query.timeRange with
      preset := some .custom
      startDate := some range.startDate
      endDate := some range.endDate } }

/-- What both periods of a change ranking are aggregated by. -/
def SemanticReportQuery.aggregated (query : SemanticReportQuery) : SemanticReportQuery :=
  { query with displayColumns := [], sort := [], limit := 50000 }

def comparedRanges (query : SemanticReportQuery) (comparison : SemanticComparison)
    (dataset : CatalogDataset) (security : ReportingSecurityContext) (message : String) :
    Except ReportError (DateRange × DateRange) := do
  throwWhen (dateFilterDatasets.contains dataset.datasetId = false) (invalidQuery message)
  let currentRange := resolveDateRange query.timeRange security today
  let comparisonRange ← resolveComparisonRange currentRange comparison
  return (currentRange, comparisonRange)

def compileComparison (query : SemanticReportQuery) (comparison : SemanticComparison)
    (dataset : CatalogDataset) (security : ReportingSecurityContext) :
    Except ReportError CompiledSql := do
  let (currentRange, comparisonRange) ← comparedRanges today query comparison dataset security
    "Comparison reports require a dataset date field"
  let current ← compileStatement catalog today (query.during currentRange) dataset security
  let previous ← compileStatement catalog today (query.during comparisonRange) dataset security
  return {
    report := .comparison current.statement (previous.statement.rebase current.params.length)
    params := current.params ++ previous.params
    datasetId := dataset.datasetId
    viewName := dataset.viewName
    appliedSecurityFilters :=
      (current.appliedSecurityFilters ++ previous.appliedSecurityFilters).eraseDups
    selectedColumns := "comparison_period" :: current.selectedColumns }

def compileChangeRanking (query : SemanticReportQuery) (comparison : SemanticComparison)
    (dataset : CatalogDataset) (security : ReportingSecurityContext) :
    Except ReportError CompiledSql := do
  let (currentRange, comparisonRange) ← comparedRanges today query comparison dataset security
    "Change-ranking reports require a dataset date field"
  let current ←
    compileStatement catalog today (query.aggregated.during currentRange) dataset security
  let previous ←
    compileStatement catalog today (query.aggregated.during comparisonRange) dataset security
  let keyColumns := current.selectedColumns.filter fun column => !query.metrics.contains column
  throwWhen (keyColumns = [])
    (invalidQuery "Change-ranking reports require a grouping dimension")
  let _ ← keyColumns.mapM ident
  let _ ← query.metrics.mapM ident
  let ascending := isAscending ((query.sort.head?.map SemanticSort.direction).getD "desc")
  let (limit, params) := push (current.params ++ previous.params) (.number query.limit)
  return {
    report := .changeRanking current.statement (previous.statement.rebase current.params.length)
      keyColumns query.metrics ascending limit
    params := params
    datasetId := dataset.datasetId
    viewName := dataset.viewName
    appliedSecurityFilters :=
      (current.appliedSecurityFilters ++ previous.appliedSecurityFilters).eraseDups
    selectedColumns := keyColumns ++
      query.metrics.flatMap (fun metricId => [metricId, "previous_" ++ metricId]) ++
      ["change", "change_pct"] }

def SemanticReportQuery.enabledComparison (query : SemanticReportQuery) :
    Option SemanticComparison :=
  query.comparison.filter SemanticComparison.enabled

def SemanticReportQuery.ranksChange (query : SemanticReportQuery)
    (comparison : SemanticComparison) : Bool :=
  comparison.rankByChange && !query.dimensions.isEmpty && !query.metrics.isEmpty

def compile (query : SemanticReportQuery) (security : ReportingSecurityContext) :
    Except ReportError CompiledSql := do
  let dataset ← found (catalog.getDataset query.datasetId)
    (invalidQuery s!"Unknown dataset {query.datasetId}")
  match query.enabledComparison with
  | some comparison =>
    if query.ranksChange comparison then
      compileChangeRanking catalog today query comparison dataset security
    else compileComparison catalog today query comparison dataset security
  | none =>
    let compiled ← compileStatement catalog today query dataset security
    return {
      report := .plain compiled.statement
      params := compiled.params
      datasetId := dataset.datasetId
      viewName := dataset.viewName
      appliedSecurityFilters := compiled.appliedSecurityFilters
      selectedColumns := compiled.selectedColumns }

end Compile

end Forecast.Reporting
