import Forecast.Reporting.ScopeLaw

/-!
# Filters and the rows that are read

The filters of a report come behind those of its dataset and its template. Of all these the first
twenty are taken, and of those with one key the first. Each that is left is compiled with an
operator that the catalog offers for it, and a row that is read satisfies it, if it has a column
that can be compared with its value and a value that its operator is for.
-/

namespace Forecast.Reporting

open Transactions

/-! ### What a filter asks for -/

/-- An exclusion has to hold of every column of a filter, anything else of one of them. -/
def Operator.excludes : Operator → Bool
  | .neq | .notInList | .notIlike => true
  | _ => false

def Value.isScalar : Value → Bool
  | .text _ | .number _ | .bool _ => true
  | _ => false

def Value.isComparable : Value → Bool
  | .relativeDate token => token = "today_plus_90_days"
  | value => value.isScalar

def Operator.takes (operator : Operator) (value : Value) : Bool :=
  match operator, value with
  | .eq, .list _ => true
  | .eq, .range low high => !low.isNull && !high.isNull
  | .eq, value => value.isComparable
  | .neq, .list _ => true
  | .neq, value => value.isComparable
  | .inList, .list _ => true
  | .inList, value => value.isScalar
  | .notInList, .list _ => true
  | .notInList, value => value.isScalar
  | .ilike, value => value.isScalar
  | .notIlike, value => value.isScalar
  | .between, .list [_, _] => true
  | .between, .range low high => !low.isNull && !high.isNull
  | .between, _ => false
  | .gt, .range low _ => !low.isNull
  | .gt, value => value.isComparable
  | .gte, .range low _ => !low.isNull
  | .gte, value => value.isComparable
  | .lt, .range _ high => !high.isNull
  | .lt, value => value.isComparable
  | .lte, .range _ high => !high.isNull
  | .lte, value => value.isComparable
  | .isDistinctFrom, value => value.isScalar

example : Operator.takes .between (.list []) = false := by decide +kernel

section Satisfies

variable {Cell : Type} (engine : Engine Cell) (today : ℤ) (cell : Cell) (row : String → Cell)

/-- `cell operator value`: with a list, `=` and `!=` are about its members; with a range, `=` is
about what lies between its bounds and a one-sided operator about the bound on its side. -/
def Engine.satisfies (operator : Operator) (value : Value) : Bool :=
  match operator, value with
  | .eq, .list values => values.any (engine.compares cell .eq)
  | .eq, .range low high => engine.isBetween cell low high
  | .neq, .list values => values.all (engine.compares cell .neq)
  | .inList, value => value.items.any (engine.compares cell .eq)
  | .notInList, value => value.items.all (engine.compares cell .neq)
  | .ilike, value => (engine.text cell).any fun s => engine.ilike s (likePattern value).toText
  | .notIlike, value => !engine.ilike ((engine.text cell).getD "") (likePattern value).toText
  | .between, .list [low, high] => engine.isBetween cell low high
  | .between, .range low high => engine.isBetween cell low high
  | .gt, .range low _ => engine.compares cell .gt (resolveFilterValue today low)
  | .gte, .range low _ => engine.compares cell .gte (resolveFilterValue today low)
  | .lt, .range _ high => engine.compares cell .lt (resolveFilterValue today high)
  | .lte, .range _ high => engine.compares cell .lte (resolveFilterValue today high)
  | operator, value => engine.compares cell operator (resolveFilterValue today value)

def Engine.satisfiesOn (columns : List String) (operator : Operator) (value : Value) : Bool :=
  if operator.excludes then
    columns.all fun column => engine.satisfies today (row column) operator value
  else columns.any fun column => engine.satisfies today (row column) operator value

end Satisfies

/-! ### One compiled filter -/

theorem any_eq_of_map_eq {α β : Type} {f : α → Bool} {g : β → Bool} {xs : List α} {ys : List β}
    (h : xs.map f = ys.map g) : xs.any f = ys.any g := by
  calc xs.any f = (xs.map f).any id := by rw [List.any_map]; rfl
    _ = ys.any g := by rw [h, List.any_map]; rfl

theorem all_eq_of_map_eq {α β : Type} {f : α → Bool} {g : β → Bool} {xs : List α} {ys : List β}
    (h : xs.map f = ys.map g) : xs.all f = ys.all g := by
  calc xs.all f = (xs.map f).all id := by rw [List.all_map]; rfl
    _ = ys.all g := by rw [h, List.all_map]; rfl

section Compiled

variable {Cell : Type} {engine : Engine Cell} {row : String → Cell}
variable {catalog : SemanticCatalog} {today : ℤ} {dataset : CatalogDataset}
variable {params params' : List Value} {operator : Operator} {value : Value}

/-- A bound that is given is the one that a range is resolved to. -/
theorem orElse_of_not_isNull {low high : Value} (h : low.isNull = false) :
    low.orElse high = low := by
  cases low with
  | null => cases h
  | _ => rfl

theorem means_compileSingleColumnFilter {column : String} {p : Predicate}
    (htakes : operator.takes value = true)
    (h : compileSingleColumnFilter catalog today dataset column operator value params =
      .ok (p, params')) :
    p.means engine row = engine.satisfies today (row column) operator value := by
  simp only [compileSingleColumnFilter, bind_eq_ok] at h
  obtain ⟨name, hname, h⟩ := h
  obtain rfl := (ident_eq_ok.1 hname).2
  cases value with
  | range low high =>
    cases operator with
    | eq | between =>
      simp only [Operator.takes, Bool.and_eq_true, Bool.not_eq_true'] at htakes
      simp only [resolveRange, htakes.1, htakes.2, Bool.or_self, Bool.false_eq_true,
        if_false] at h
      cases h
      rfl
    | gt | gte =>
      simp only [Operator.takes, Bool.not_eq_true'] at htakes
      simp only [resolveRange, orElse_of_not_isNull htakes] at h
      cases h
      rfl
    | lt | lte =>
      simp only [Operator.takes, Bool.not_eq_true'] at htakes
      simp only [resolveRange, orElse_of_not_isNull htakes] at h
      cases h
      rfl
    | _ => cases htakes
  | list values =>
    cases operator with
    | between =>
      rcases values with _ | ⟨low, _ | ⟨high, _ | ⟨extra, rest⟩⟩⟩
      · cases htakes
      · cases htakes
      · cases h
        rfl
      · cases htakes
    | eq | neq | inList | notInList =>
      cases h
      rfl
    | _ => cases htakes
  | text s =>
    cases operator with
    | between => cases htakes
    | _ =>
      cases h
      rfl
  | number n =>
    cases operator with
    | between => cases htakes
    | _ =>
      cases h
      rfl
  | bool b =>
    cases operator with
    | between => cases htakes
    | _ =>
      cases h
      rfl
  | relativeDate token =>
    cases operator with
    | eq | neq | gt | gte | lt | lte =>
      cases h
      rfl
    | _ => cases htakes
  | null => cases operator <;> cases htakes
  | object => cases operator <;> cases htakes

theorem map_means_compileColumns {columns : List String} {ps : List Predicate}
    {f : String → Bool}
    (hsingle : ∀ {column p params params'},
      compileSingleColumnFilter catalog today dataset column operator value params =
        .ok (p, params') → p.means engine row = f column)
    (h : compileColumns catalog today dataset operator value columns params = .ok (ps, params')) :
    ps.map (Predicate.means engine row) = columns.map f := by
  induction columns generalizing params ps with
  | nil =>
    cases h
    rfl
  | cons column columns ih =>
    simp only [compileColumns, bind_eq_ok, pure_eq_ok] at h
    obtain ⟨⟨p, params₁⟩, hp, ⟨ps', params₂⟩, hps, h⟩ := h
    cases h
    rw [List.map_cons, List.map_cons, hsingle hp, ih hps]

theorem means_compileColumns {columns : List String} {ps : List Predicate}
    (htakes : operator.takes value = true)
    (h : compileColumns catalog today dataset operator value columns params = .ok (ps, params')) :
    ps.map (Predicate.means engine row) =
      columns.map fun column => engine.satisfies today (row column) operator value :=
  map_means_compileColumns (fun hp => means_compileSingleColumnFilter htakes hp) h

def comparedColumns (catalog : SemanticCatalog) (dataset : CatalogDataset) {Op : Type}
    (filter : SemanticFilter Op) (operator : Operator) (value : Value) : List String :=
  compatibleFilterColumns (filterColumns catalog dataset filter (catalog.filterOf filter)) operator
    value

theorem satisfiesOn_of_means {filter : SemanticFilter Operator} {condition : Option Condition}
    (h : compileFilter catalog today dataset filter params = .ok (condition, params'))
    (hcolumns : comparedColumns catalog dataset filter filter.operator filter.value ≠ [])
    (htakes : filter.operator.takes filter.value = true)
    (hmeans : ∀ c ∈ condition, c.means engine row = true) :
    engine.satisfiesOn today row
      (comparedColumns catalog dataset filter filter.operator filter.value) filter.operator
        filter.value = true := by
  unfold comparedColumns at hcolumns ⊢
  unfold compileFilter at h
  dsimp only at h
  have hfirst : ∀ {columns : List String} {column : String} {p : Predicate} {params₁ : List Value},
      filter.operator.excludes = false → column ∈ columns →
      compileSingleColumnFilter catalog today dataset column filter.operator filter.value params =
        .ok (p, params₁) → p.means engine row = true →
      engine.satisfiesOn today row columns filter.operator filter.value = true := by
    intro columns column p params₁ hexcludes hmem hp hmean
    rw [Engine.satisfiesOn, hexcludes, if_neg Bool.false_ne_true]
    rw [means_compileSingleColumnFilter htakes hp] at hmean
    exact List.any_eq_true.2 ⟨column, hmem, hmean⟩
  split at h
  · exact absurd ‹_› hcolumns
  · rename_i column hone
    simp only [bind_eq_ok, pure_eq_ok] at h
    obtain ⟨⟨p, params₁⟩, hp, h⟩ := h
    cases h
    have hmean := hmeans (.one p) rfl
    rw [Condition.means, means_compileSingleColumnFilter htakes hp] at hmean
    rw [hone, Engine.satisfiesOn]
    split_ifs <;> simpa using hmean
  · rename_i column rest hlong hcons
    have hmem : column ∈ compatibleFilterColumns (filterColumns catalog dataset filter
        (catalog.filterOf filter)) filter.operator filter.value := by
      rw [hcons]
      exact List.mem_cons_self
    cases hoperator : filter.operator with
    | ilike =>
      rw [hoperator] at h
      simp only [bind_eq_ok, pure_eq_ok] at h
      obtain ⟨names, hnames, h⟩ := h
      cases h
      have hmean := hmeans _ rfl
      rw [mapM_ident_eq_ok hnames] at hmean
      simpa [Condition.means, Predicate.means, Engine.satisfiesOn, Operator.excludes,
        Engine.satisfies, Engine.isLike, Function.comp_def, Placeholders.push] using hmean
    | notIlike =>
      rw [hoperator] at h
      simp only [bind_eq_ok, pure_eq_ok] at h
      obtain ⟨names, hnames, h⟩ := h
      cases h
      have hmean := hmeans _ rfl
      rw [mapM_ident_eq_ok hnames] at hmean
      simpa [Condition.means, Predicate.means, Engine.satisfiesOn, Operator.excludes,
        Engine.satisfies, Engine.isLike, Function.comp_def, Placeholders.push] using hmean
    | eq | inList =>
      rw [hoperator] at h htakes
      simp only [bind_eq_ok, pure_eq_ok] at h
      obtain ⟨⟨ps, params₁⟩, hps, h⟩ := h
      cases h
      have hmean := hmeans _ rfl
      rw [Condition.means, any_eq_of_map_eq (means_compileColumns htakes hps)] at hmean
      exact hmean
    | neq | notInList =>
      rw [hoperator] at h htakes
      simp only [bind_eq_ok, pure_eq_ok] at h
      obtain ⟨⟨ps, params₁⟩, hps, h⟩ := h
      cases h
      have hmean := hmeans _ rfl
      rw [Condition.means, all_eq_of_map_eq (means_compileColumns htakes hps)] at hmean
      exact hmean
    | _ =>
      have hexcludes : filter.operator.excludes = false := by
        rw [hoperator]
        rfl
      rw [hoperator] at h
      simp only [bind_eq_ok, pure_eq_ok] at h
      obtain ⟨⟨p, params₁⟩, hp, h⟩ := h
      cases h
      rw [← hoperator] at hp ⊢
      exact hfirst hexcludes hmem hp (hmeans (.one p) rfl)

/-! ### The filters that are kept -/

def ReportInput.defaultFilters (catalog : SemanticCatalog) (input : ReportInput) :
    List (SemanticFilter String) :=
  let dataset := (input.datasetName catalog).toOption.bind catalog.getDataset
  (dataset.map CatalogDataset.defaultFilters).getD [] ++
    ((input.template catalog).map CatalogReportTemplate.defaultFilters).getD []

/-- The filter is among the first twenty, and no filter before it has its key. -/
def ReportInput.Keeps (catalog : SemanticCatalog) (input : ReportInput)
    (filter : SemanticFilter String) : Prop :=
  ∃ before after, input.defaultFilters catalog ++ input.filters = before ++ filter :: after ∧
    before.length < 20 ∧ ∀ key, filterKey catalog filter = some key →
      ∀ other ∈ before, filterKey catalog other ≠ some key

theorem mem_dedupe {filter : SemanticFilter String} {before after : List (SemanticFilter String)}
    {seen : List String} (hkey : ∀ key, filterKey catalog filter = some key →
      key ∉ seen ∧ ∀ other ∈ before, filterKey catalog other ≠ some key) :
    filter ∈ dedupe catalog seen (before ++ filter :: after) := by
  induction before generalizing seen with
  | nil =>
    rw [List.nil_append, dedupe]
    cases hk : filterKey catalog filter with
    | none => exact List.mem_cons_self
    | some key =>
      dsimp only
      rw [if_neg (hkey key hk).1]
      exact List.mem_cons_self
  | cons first before ih =>
    rw [List.cons_append, dedupe]
    have hrest : ∀ key, filterKey catalog filter = some key →
        key ∉ seen ∧ ∀ other ∈ before, filterKey catalog other ≠ some key := by
      intro key hk
      exact ⟨(hkey key hk).1, fun other hother =>
        (hkey key hk).2 other (List.mem_cons_of_mem first hother)⟩
    cases hk : filterKey catalog first with
    | none => exact List.mem_cons_of_mem first (ih hrest)
    | some taken =>
      dsimp only
      split_ifs with hseen
      · exact ih hrest
      · refine List.mem_cons_of_mem first (ih fun key hkey' => ⟨?_, (hrest key hkey').2⟩)
        intro hmem
        rcases List.mem_cons.1 hmem with rfl | hmem
        · exact (hkey key hkey').2 first List.mem_cons_self hk
        · exact (hrest key hkey').1 hmem

theorem mem_dedupeFilters_of_keeps {input : ReportInput} {filter : SemanticFilter String}
    {datasetId : String} {base : CatalogDataset} (hname : input.datasetName catalog = .ok datasetId)
    (hbase : catalog.getDataset datasetId = some base) (h : input.Keeps catalog filter) :
    filter ∈ dedupeFilters catalog (mergedFilters input (input.template catalog) base) := by
  obtain ⟨before, after, hsplit, hlength, hkey⟩ := h
  have hdefaults : input.defaultFilters catalog = base.defaultFilters ++
      ((input.template catalog).map CatalogReportTemplate.defaultFilters).getD [] := by
    simp [ReportInput.defaultFilters, hname, Except.toOption, hbase]
  have hmerged : mergedFilters input (input.template catalog) base =
      before ++ filter :: after.take (19 - before.length) := by
    have hflat : mergedFilters input (input.template catalog) base =
        (input.defaultFilters catalog ++ input.filters).take 20 := by
      simp [mergedFilters, mergeFilters, hdefaults]
    have htail : 20 - before.length = 19 - before.length + 1 := by omega
    rw [hflat, hsplit, List.take_append, List.take_of_length_le (by omega), htail,
      List.take_succ_cons]
  rw [hmerged, dedupeFilters]
  exact mem_dedupe fun key hk => ⟨List.not_mem_nil, hkey key hk⟩

/-! ### Validated reports -/

theorem validateFilter_eq_ok {filter : SemanticFilter String} {validated : SemanticFilter Operator}
    (h : validateFilter catalog dataset filter = .ok validated) :
    ∃ asked operator value,
      Operator.ofText? (canonicalizeOperator filter.operator) = some asked ∧
      offeredOperator filter (catalog.filterOf filter) asked = .ok (operator, value) ∧
      validated = { filter with operator := operator, value := value } := by
  simp only [validateFilter, bind_eq_ok, found_eq_ok, pure_eq_ok] at h
  obtain ⟨asked, hasked, -, -, -, -, ⟨operator, value⟩, hoffered, -, -, -, -, rfl⟩ := h
  exact ⟨asked, operator, value, hasked, hoffered, rfl⟩

theorem getDataset_of_requireDataset {datasetId : String}
    (h : requireDataset catalog datasetId = .ok dataset) :
    catalog.getDataset datasetId = some dataset :=
  (Option.filter_eq_some_iff.1 (found_eq_ok.1 h)).1

theorem validateReport_filters {input : ReportInput} {security : ReportingSecurityContext}
    {inherited : Option SemanticTimeRange} {query : SemanticReportQuery}
    (h : validateReport catalog today input security inherited = .ok query) :
    ∃ datasetId base dataset, input.datasetName catalog = .ok datasetId ∧
      catalog.getDataset datasetId = some base ∧
      (dedupeFilters catalog (mergedFilters input (input.template catalog) base)).mapM
        (validateFilter catalog dataset) = .ok query.filters := by
  simp only [validateReport, finishReport, bind_eq_ok, pure_eq_ok] at h
  obtain ⟨datasetId, hname, base, hbase, metrics, -, limit, -, timeRange, -, dataset, -, -, -,
    normalized, -, -, -, validated, hvalidated, -, -, rfl⟩ := h
  exact ⟨datasetId, base, dataset, hname, getDataset_of_requireDataset hbase, hvalidated⟩

end Compiled

section Respects

variable {Cell : Type} (engine : Engine Cell) (catalog : SemanticCatalog) (today : ℤ)
variable (dataset : CatalogDataset) (row : String → Cell)

/-- The row satisfies a filter with the operator and the value that the catalog offers for it, if
it has a column that can be compared with the value and the operator is for the value. -/
def Engine.Respects (filter : SemanticFilter String) : Prop :=
  ∃ asked operator value,
    Operator.ofText? (canonicalizeOperator filter.operator) = some asked ∧
    offeredOperator filter (catalog.filterOf filter) asked = .ok (operator, value) ∧
    (comparedColumns catalog dataset filter operator value ≠ [] → operator.takes value = true →
      engine.satisfiesOn today row (comparedColumns catalog dataset filter operator value) operator
        value = true)

def ReadsFiltered (security : ReportingSecurityContext) (input : ReportInput)
    (query : SemanticReportQuery) : Prop :=
  ∀ compiled row, compile catalog today query security = .ok compiled →
    compiled.reads engine row = true → ∀ filter, input.Keeps catalog filter →
      ∃ dataset, catalog.getDataset query.datasetId = some dataset ∧
        engine.Respects catalog today dataset row filter

end Respects

section Law

variable {Cell : Type} {catalog : SemanticCatalog} {today : ℤ}
variable {security : ReportingSecurityContext}

theorem readsFiltered_of_validateReport (engine : Engine Cell) {input : ReportInput}
    {inherited : Option SemanticTimeRange} {query : SemanticReportQuery}
    (h : validateReport catalog today input security inherited = .ok query) :
    ReadsFiltered engine catalog today security input query := by
  intro compiled row hcompile hread filter hkeeps
  obtain ⟨datasetId, base, validating, hname, hbase, hfilters⟩ := validateReport_filters h
  obtain ⟨validated, hmem, hvalidated⟩ :=
    exists_mem_of_mapM_eq_ok hfilters (mem_dedupeFilters_of_keeps hname hbase hkeeps)
  obtain ⟨asked, operator, value, hasked, hoffered, rfl⟩ := validateFilter_eq_ok hvalidated
  obtain ⟨dataset, period, one, hdataset, hsame, hone, hmeans⟩ :=
    exists_statement_of_reads hcompile hread
  obtain ⟨params, condition, params', hcondition, hall⟩ :=
    (conditions_compileStatement hone).2 _ (hsame ▸ hmem)
  exact ⟨dataset, hdataset, asked, operator, value, hasked, hoffered, fun hcolumns htakes =>
    satisfiesOn_of_means hcondition hcolumns htakes fun c hc => hmeans c (hall c hc)⟩

def SemanticQueryInput.reportInputs (catalog : SemanticCatalog) (timeRange : SemanticTimeRange) :
    SemanticQueryInput → List ReportInput
  | .report input => [input]
  | .dashboard input =>
    if input.widgets ≠ [] then input.widgets
    else
      (((catalog.getDashboard input.dashboardId).map
        CatalogDashboardTemplate.components).getD []).filterMap fun component =>
          (catalog.getTemplate component.templateId).map fun template =>
            componentInput component template timeRange
  | .dynamic raw => [normalizeDynamicQuery raw]
  | .clarification => []
  | .unsupported => []

theorem forall₂_components {timeRange : SemanticTimeRange} {components : List DashboardComponent}
    {reports : List SemanticReportQuery}
    (h : List.Forall₂ (fun component report =>
      widgetFromComponent catalog today security timeRange component = .ok report)
        components reports) :
    List.Forall₂ (fun input report => ∃ inherited,
      validateReport catalog today input security inherited = .ok report)
        (components.filterMap fun component =>
          (catalog.getTemplate component.templateId).map fun template =>
            componentInput component template timeRange) reports := by
  induction h with
  | nil => exact .nil
  | cons hcomponent _ ih =>
    simp only [widgetFromComponent, bind_eq_ok, found_eq_ok] at hcomponent
    obtain ⟨template, htemplate, hreport⟩ := hcomponent
    rw [List.filterMap_cons, htemplate, Option.map_some]
    exact .cons ⟨some timeRange, hreport⟩ ih

theorem validate_eq_ok {raw : SemanticQueryInput} {query : SemanticQuery}
    (h : validate catalog today raw security = .ok query) :
    ∃ timeRange, List.Forall₂ (fun input report => ∃ inherited,
      validateReport catalog today input security inherited = .ok report)
        (raw.reportInputs catalog timeRange) query.reports := by
  cases raw with
  | report input =>
    simp only [validate, bind_eq_ok, pure_eq_ok] at h
    obtain ⟨report, hreport, rfl⟩ := h
    exact ⟨fallbackTimeRange none, .cons ⟨none, hreport⟩ .nil⟩
  | dynamic raw =>
    simp only [validate, bind_eq_ok, pure_eq_ok] at h
    obtain ⟨report, hreport, rfl⟩ := h
    exact ⟨fallbackTimeRange none, .cons ⟨none, hreport⟩ .nil⟩
  | clarification =>
    cases h
    exact ⟨fallbackTimeRange none, .nil⟩
  | unsupported =>
    cases h
    exact ⟨fallbackTimeRange none, .nil⟩
  | dashboard input =>
    simp only [validate, validateDashboard, bind_eq_ok, found_eq_ok, pure_eq_ok] at h
    obtain ⟨reports, ⟨dashboard, hdashboard, timeRange, -, h⟩, rfl⟩ := h
    refine ⟨timeRange, ?_⟩
    simp only [SemanticQueryInput.reportInputs, SemanticQuery.reports]
    split_ifs at h ⊢ with hwidgets
    · exact (forall₂_of_mapM_eq_ok h).imp fun widget report hreport => ⟨some timeRange, hreport⟩
    · rw [hdashboard, Option.map_some, Option.getD_some]
      exact forall₂_components (forall₂_of_mapM_eq_ok h)

/-- Whatever is asked for, every row that is read for a report respects each filter that is
kept. -/
theorem readsFiltered_of_validate (engine : Engine Cell) {raw : SemanticQueryInput}
    {query : SemanticQuery} (h : validate catalog today raw security = .ok query) :
    ∃ timeRange, List.Forall₂ (ReadsFiltered engine catalog today security)
      (raw.reportInputs catalog timeRange) query.reports := by
  obtain ⟨timeRange, hreports⟩ := validate_eq_ok h
  refine ⟨timeRange, hreports.imp ?_⟩
  rintro input report ⟨inherited, hreport⟩
  exact readsFiltered_of_validateReport engine hreport

end Law

/-! ### A filter beside the default one -/

def salesFiltered (filter : SemanticFilter String) : ReportInput :=
  { salesByProduct ["net_sales"] none with filters := [filter] }

theorem readsFiltered_quantity :
    ∃ query, validate catalogExcerpt 740000
        (.report (salesFiltered ⟨some "quantity_filter", none, ">", .number 5⟩)) salesReader =
          .ok query ∧
      ∃ timeRange, List.Forall₂ (ReadsFiltered textEngine catalogExcerpt 740000 salesReader)
        (SemanticQueryInput.reportInputs catalogExcerpt timeRange
          (.report (salesFiltered ⟨some "quantity_filter", none, ">", .number 5⟩)))
        query.reports := by
  obtain ⟨query, hquery⟩ := exists_of_isOk
    (x := validate catalogExcerpt 740000
      (.report (salesFiltered ⟨some "quantity_filter", none, ">", .number 5⟩)) salesReader)
    (by decide +kernel)
  exact ⟨query, hquery, readsFiltered_of_validate textEngine hquery⟩

/-- Asked for the sales that are not cancelled, the dataset's own filter on the column is kept
instead, and a sale that does not say so is read. -/
theorem not_satisfies_isCancelled :
    ¬∀ (catalog : SemanticCatalog) (today : ℤ) (input : ReportInput)
      (security : ReportingSecurityContext) (query : SemanticReportQuery) (compiled : CompiledSql)
      (row : String → Option String),
      validateReport catalog today input security none = .ok query →
        compile catalog today query security = .ok compiled →
          compiled.reads textEngine row = true →
            ∀ filter ∈ input.filters, ∀ column ∈ filter.column, filter.operator = "=" →
              textEngine.compares (row column) .eq filter.value = true := by
  intro h
  have hreads : ((validateReport catalogExcerpt 740000
      (salesFiltered ⟨none, some "is_cancelled", "=", .bool false⟩) salesReader
        none).toOption.bind fun query =>
        (compile catalogExcerpt 740000 query salesReader).toOption.map fun compiled =>
          compiled.reads textEngine (saleOf "1")) = some true := by
    decide +kernel
  obtain ⟨query, hquery, hreads⟩ := Option.bind_eq_some_iff.1 hreads
  obtain ⟨compiled, hcompiled, hread⟩ := Option.map_eq_some_iff.1 hreads
  have hasked := h catalogExcerpt 740000 _ salesReader query compiled (saleOf "1")
    (eq_ok_of_toOption hquery) (eq_ok_of_toOption hcompiled) hread _ List.mem_cons_self
    "is_cancelled" rfl rfl
  revert hasked
  decide +kernel

end Forecast.Reporting
