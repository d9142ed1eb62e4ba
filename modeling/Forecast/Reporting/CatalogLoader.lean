import Forecast.Reporting.Catalog

/-!
# The loader of the semantic catalog

What the file of the catalog is checked for when it is loaded. Names are read as identifiers; no
word is reserved.
-/

namespace Forecast.Reporting

def errorWhen (condition : Bool) (message : String) : List String :=
  if condition then [message] else []

/-- Every id is there and there once. -/
def requireUnique (label : String) : List String → List String → List String
  | _, [] => []
  | seen, value :: values =>
    if value = "" then s!"{label} contains an empty id" :: requireUnique label seen values
    else
      errorWhen (seen.contains value) s!"{label} {value} is duplicated" ++
        requireUnique label (value :: seen) values

namespace SemanticCatalog

variable (catalog : SemanticCatalog)

def hasDatasetId (datasetId : String) : Bool :=
  (catalog.datasets.map CatalogDataset.datasetId).contains datasetId

/-- The version and the sections that may not be empty; without them nothing else is looked at. -/
def sectionErrors (catalogVersion : Option String) : List String :=
  errorWhen (truthy catalogVersion).isNone "catalogVersion is missing" ++
    errorWhen catalog.datasets.isEmpty "datasets must not be empty" ++
    errorWhen catalog.metrics.isEmpty "metrics must not be empty" ++
    errorWhen catalog.dimensions.isEmpty "dimensions must not be empty" ++
    errorWhen catalog.filters.isEmpty "filters must not be empty" ++
    errorWhen catalog.timeFields.isEmpty "timeFields must not be empty" ++
    errorWhen catalog.reportTemplates.isEmpty "reportTemplates must not be empty" ++
    errorWhen catalog.dashboardTemplates.isEmpty "dashboardTemplates must not be empty"

def idErrors : List String :=
  requireUnique "datasetId" [] (catalog.datasets.map CatalogDataset.datasetId) ++
    requireUnique "metricId" [] (catalog.metrics.map CatalogMetric.metricId) ++
    requireUnique "dimensionId" [] (catalog.dimensions.map CatalogDimension.dimensionId) ++
    requireUnique "filterId" [] (catalog.filters.map CatalogFilter.filterId) ++
    requireUnique "timeFieldId" [] (catalog.timeFields.map CatalogTimeField.fieldId) ++
    requireUnique "templateId" [] (catalog.reportTemplates.map CatalogReportTemplate.templateId) ++
    requireUnique "dashboardId" []
      (catalog.dashboardTemplates.map CatalogDashboardTemplate.dashboardId)

def datasetErrors (dataset : CatalogDataset) : List String :=
  errorWhen (!isIdentifier dataset.datasetId) s!"dataset {dataset.datasetId} has an unsafe id" ++
    errorWhen (!isIdentifier dataset.viewName)
      s!"dataset {dataset.datasetId} has an unsafe viewName {dataset.viewName}" ++
    errorWhen dataset.requiredSecurityFilters.isEmpty
      s!"dataset {dataset.datasetId} has no required security filters" ++
    dataset.dateFields.flatMap fun dateField =>
      errorWhen (!isIdentifier dateField.column)
        s!"dataset {dataset.datasetId} dateField has an unsafe column"

def metricErrors (metric : CatalogMetric) : List String :=
  errorWhen (!catalog.hasDatasetId metric.datasetId)
      s!"metric {metric.metricId} references unknown dataset {metric.datasetId}" ++
    errorWhen (metric.expression = "") s!"metric {metric.metricId} has no expression"

def dimensionErrors (dimension : CatalogDimension) : List String :=
  errorWhen (dimension.datasetId ≠ "*" && !catalog.hasDatasetId dimension.datasetId)
      s!"dimension {dimension.dimensionId} references unknown dataset {dimension.datasetId}" ++
    dimension.columns.flatMap fun column =>
      errorWhen (column ≠ "default_time_field" && !isIdentifier column)
        s!"dimension {dimension.dimensionId} has unsafe column {column}"

def filterErrors (filter : CatalogFilter) : List String :=
  let unsafeColumn (column : String) : List String :=
    errorWhen (!isIdentifier column) s!"filter {filter.filterId} has unsafe column {column}"
  filter.datasetIds.flatMap (fun datasetId =>
      errorWhen (datasetId ≠ "*" && !catalog.hasDatasetId datasetId)
        s!"filter {filter.filterId} references unknown dataset {datasetId}") ++
    (truthy filter.column).toList.flatMap unsafeColumn ++
    (filter.columns.getD []).flatMap unsafeColumn

def timeFieldErrors (timeField : CatalogTimeField) : List String :=
  errorWhen (!catalog.hasDatasetId timeField.datasetId)
      s!"timeField {timeField.fieldId} references unknown dataset {timeField.datasetId}" ++
    errorWhen (!isIdentifier timeField.column)
      s!"timeField {timeField.fieldId} has unsafe column {timeField.column}"

def displayColumnErrors (column : CatalogDisplayColumn) : List String :=
  errorWhen (!catalog.hasDatasetId column.datasetId)
      s!"displayColumn {column.columnId} references unknown dataset {column.datasetId}" ++
    errorWhen (!isIdentifier column.column)
      s!"displayColumn {column.columnId} has unsafe column {column.column}"

/-- An id that a template names is one of the catalog. -/
def unknownIds (templateId kind : String) (known ids : List String) : List String :=
  ids.flatMap fun id =>
    errorWhen (!known.contains id) s!"template {templateId} {kind} {id}"

def sortErrors (templateId : String) (sort : SemanticSort) : List String :=
  unknownIds templateId "sort references unknown metric"
      (catalog.metrics.map CatalogMetric.metricId) (truthy sort.metricId).toList ++
    unknownIds templateId "sort references unknown dimension"
      (catalog.dimensions.map CatalogDimension.dimensionId) (truthy sort.dimensionId).toList ++
    unknownIds templateId "sort references unknown time field"
      (catalog.timeFields.map CatalogTimeField.fieldId) (truthy sort.fieldId).toList

def templateErrors (template : CatalogReportTemplate) : List String :=
  unknownIds template.templateId "references unknown dataset"
      (catalog.datasets.map CatalogDataset.datasetId) [template.datasetId] ++
    unknownIds template.templateId "references unknown metric"
      (catalog.metrics.map CatalogMetric.metricId) template.defaultMetrics ++
    unknownIds template.templateId "references unknown dimension"
      (catalog.dimensions.map CatalogDimension.dimensionId) template.defaultDimensions ++
    unknownIds template.templateId "references unknown display column"
      (catalog.displayColumns.map CatalogDisplayColumn.columnId) template.defaultDisplayColumns ++
    unknownIds template.templateId "references unknown filter"
      (catalog.filters.map CatalogFilter.filterId)
      (template.defaultFilters.filterMap fun filter => truthy filter.filterId) ++
    (template.defaultSort.getD []).flatMap (catalog.sortErrors template.templateId)

def dashboardErrors (dashboard : CatalogDashboardTemplate) : List String :=
  if dashboard.components.isEmpty then
    [s!"dashboard {dashboard.dashboardId} has no components"]
  else
    dashboard.components.flatMap fun component =>
      errorWhen (!(catalog.reportTemplates.map CatalogReportTemplate.templateId).contains
          component.templateId)
        s!"dashboard {dashboard.dashboardId} references unknown template {component.templateId}"

/-- Everything that is wrong with the entries. -/
def entryErrors : List String :=
  catalog.idErrors ++ catalog.datasets.flatMap datasetErrors ++
    catalog.metrics.flatMap catalog.metricErrors ++
    catalog.dimensions.flatMap catalog.dimensionErrors ++
    catalog.filters.flatMap catalog.filterErrors ++
    catalog.timeFields.flatMap catalog.timeFieldErrors ++
    catalog.displayColumns.flatMap catalog.displayColumnErrors ++
    catalog.reportTemplates.flatMap catalog.templateErrors ++
    catalog.dashboardTemplates.flatMap catalog.dashboardErrors

end SemanticCatalog

/-- `SemanticCatalogLoader.validateStructure`, with the message that it throws. -/
def validateStructure (catalogVersion : Option String) (catalog : SemanticCatalog)
    (path : String) : Except String Unit :=
  let sections := catalog.sectionErrors catalogVersion
  let errors := catalog.entryErrors
  if sections ≠ [] then
    let listed := "; ".intercalate sections
    .error s!"AI semantic catalog at {path} is invalid: {listed}"
  else if errors ≠ [] then
    let listed := "; ".intercalate (errors.take 20)
    let rest := errors.length - 20
    let more := if errors.length > 20 then s!" (and {rest} more)" else ""
    .error s!"AI semantic catalog at {path} is invalid: {listed}{more}"
  else .ok ()

end Forecast.Reporting
