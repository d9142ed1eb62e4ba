import Forecast.Reporting.CatalogLoader
import Forecast.Reporting.RequiredText
import Forecast.Reporting.SafeQueries

/-!
# Compiled reports pass the safety rules

The compiler and the safety validator are separate. Where no text of the catalog has a reserved
token, the validator finds in every compiled report all that it requires and nothing that it
forbids.
-/

namespace Forecast.Reporting

open Lexemes Transactions

/-! ### Reports of safe statements -/

/-- The columns that are said to be restricted are so in some statement of the report. -/
structure Report.Scoped (r : Report) (applied : List String) : Prop where
  tenant : "tenant_id" ∈ applied
  company : "company_id" ∈ applied →
    ∃ s ∈ r.statements, Restricts s.conditions "company_id" .intArray
  branch : "branch_id" ∈ applied ∨ "warehouse_id" ∈ applied →
    ∃ s ∈ r.statements, Restricts s.conditions "branch_id" .uuidArray ∨
      Restricts s.conditions "warehouse_id" .uuidArray

theorem scoped_of_statement {r : Report} {s : Statement} (hs : s ∈ r.statements)
    {applied : List String} (h : Scoped s.conditions applied) : r.Scoped applied :=
  ⟨h.tenant, fun hcompany => ⟨s, hs, h.company hcompany⟩,
    fun hbranch => ⟨s, hs, h.branch hbranch⟩⟩

theorem scoped_rebase {s : Statement} (k : ℕ) {applied : List String}
    (h : Scoped s.conditions applied) : Scoped (s.rebase k).conditions applied := by
  have hrebase : ∀ {column : String} {cast : Cast}, Restricts s.conditions column cast →
      Restricts (s.rebase k).conditions column cast := by
    rintro column cast ⟨hole, hmem⟩
    exact ⟨hole.rebase k, List.mem_map.2 ⟨_, hmem, rfl⟩⟩
  exact ⟨h.tenant, fun hcompany => hrebase (h.company hcompany),
    fun hbranch => (h.branch hbranch).imp hrebase hrebase⟩

/-- What is restricted in either period is restricted in the report of both. -/
theorem scoped_both {r : Report} {applied applied' : List String} (h : r.Scoped applied)
    (h' : r.Scoped applied') : r.Scoped (applied ++ applied').eraseDups := by
  have hmem : ∀ column, column ∈ (applied ++ applied').eraseDups ↔
      column ∈ applied ∨ column ∈ applied' := by
    intro column
    rw [List.mem_eraseDups, List.mem_append]
  refine ⟨(hmem _).2 (.inl h.tenant), fun hcompany => ?_, fun hbranch => ?_⟩
  · exact ((hmem _).1 hcompany).elim h.company h'.company
  · rw [hmem, hmem, or_or_or_comm] at hbranch
    exact hbranch.elim h.branch h'.branch

/-- A report is written with safe names, reads one view and restricts what it says. -/
structure CompiledSql.Safe (compiled : CompiledSql) (dataset : CatalogDataset) : Prop where
  report : compiled.report.Safe
  views : ∀ s ∈ compiled.report.statements, s.view = dataset.viewName
  scope : compiled.report.Scoped compiled.appliedSecurityFilters

/-- Two statements over one dataset make a report, the second one numbered behind the first. -/
theorem safe_both {dataset : CatalogDataset} {current previous : CompiledStatement} {k : ℕ}
    (hcurrent : current.Safe dataset) (hprevious : previous.Safe dataset) {r : Report}
    (hr : r.statements = [current.statement, previous.statement.rebase k]) :
    (∀ s ∈ r.statements, s.Safe) ∧ (∀ s ∈ r.statements, s.view = dataset.viewName) ∧
      r.Scoped (current.appliedSecurityFilters ++ previous.appliedSecurityFilters).eraseDups := by
  have hboth : ∀ {P : Statement → Prop}, P current.statement →
      P (previous.statement.rebase k) → ∀ s ∈ r.statements, P s := by
    intro P hP hP' s hs
    rw [hr] at hs
    rcases List.mem_cons.1 hs with rfl | hs
    · exact hP
    · exact List.mem_singleton.1 hs ▸ hP'
  refine ⟨hboth hcurrent.statement (hprevious.statement.rebase k),
    hboth hcurrent.view hprevious.view, scoped_both ?_ ?_⟩
  · exact scoped_of_statement (hr ▸ List.mem_cons_self) hcurrent.scope
  · exact scoped_of_statement (hr ▸ List.mem_cons_of_mem _ List.mem_cons_self)
      (scoped_rebase k hprevious.scope)

section Compile

variable {catalog : SemanticCatalog} {today : ℤ} {query : SemanticReportQuery}
variable {security : ReportingSecurityContext} {compiled : CompiledSql}

/-- Every shape of report is compiled from safe statements. -/
theorem safe_compile (hclean : catalog.Clean)
    (h : compile catalog today query security = .ok compiled) :
    ∃ dataset, catalog.getDataset query.datasetId = some dataset ∧ compiled.Safe dataset := by
  simp only [compile, bind_eq_ok, found_eq_ok] at h
  obtain ⟨dataset, hdataset, h⟩ := h
  refine ⟨dataset, hdataset, ?_⟩
  have hmem := mem_of_lookup_eq_some hdataset
  split at h
  · split_ifs at h
    · simp only [compileChangeRanking, bind_eq_ok, pure_eq_ok] at h
      obtain ⟨_, -, current, hcurrent, previous, hprevious, _, -, _, -, _, -, rfl⟩ := h
      have hcurrentSafe := safe_compileStatement hclean hmem hcurrent
      obtain ⟨hsafe, hviews, hscope⟩ := safe_both hcurrentSafe
        (safe_compileStatement hclean hmem hprevious) (r := .changeRanking _ _ _ _ _ _) rfl
      have hnames := (compileStatement_names hcurrent).2.1
      refine ⟨⟨hsafe, fun _ _ keys metrics _ _ heq => ?_⟩, hviews, hscope⟩
      cases heq
      refine ⟨fun key hkey => hcurrentSafe.names key (List.mem_of_mem_filter hkey),
        fun metricId hmetric => hcurrentSafe.names metricId ((hnames metricId).2 ?_)⟩
      exact List.mem_append_right _ hmetric
    · simp only [compileComparison, bind_eq_ok, pure_eq_ok] at h
      obtain ⟨_, -, current, hcurrent, previous, hprevious, rfl⟩ := h
      obtain ⟨hsafe, hviews, hscope⟩ := safe_both (safe_compileStatement hclean hmem hcurrent)
        (safe_compileStatement hclean hmem hprevious) (r := .comparison _ _) rfl
      refine ⟨⟨hsafe, fun _ _ _ _ _ _ heq => ?_⟩, hviews, hscope⟩
      cases heq
  · simp only [bind_eq_ok, pure_eq_ok] at h
    obtain ⟨one, hone, rfl⟩ := h
    have hsafe := safe_compileStatement hclean hmem hone
    refine ⟨⟨List.forall_mem_singleton.2 hsafe.statement, fun _ _ _ _ _ _ heq => ?_⟩,
      List.forall_mem_singleton.2 hsafe.view,
      scoped_of_statement (List.mem_singleton_self _) hsafe.scope⟩
    cases heq

end Compile

/-! ### The validator accepts -/

theorem exists_statement (r : Report) : ∃ s, s ∈ r.statements := by
  cases r with
  | plain s => exact ⟨s, List.mem_singleton_self s⟩
  | comparison current _ => exact ⟨current, List.mem_cons_self⟩
  | changeRanking current _ _ _ _ _ => exact ⟨current, List.mem_cons_self⟩

theorem finds_restriction {r : Report} {s : Statement} (hs : s ∈ r.statements)
    {column type : String} {cast : Cast} (hcolumn : (column, type, cast) ∈
      [("company_id", "int", Cast.intArray), ("branch_id", "uuid", Cast.uuidArray),
        ("warehouse_id", "uuid", Cast.uuidArray)])
    (h : Restricts s.conditions column cast) :
    finds (anyPattern column type) (lexemes r.text) = true := by
  have hfixed : ∀ x ∈ [("company_id", "int", Cast.intArray), ("branch_id", "uuid", Cast.uuidArray),
      ("warehouse_id", "uuid", Cast.uuidArray)],
      isIdentifier x.1 = true ∧ isWordOf x.1 (.word x.1.toList) = true ∧
        isWordOf x.2.1 (.word x.2.1.toList) = true ∧
          lexemes x.2.2.text = [.other ':', .other ':', .word x.2.1.toList, .other '[',
            .other ']'] := by
    decide +kernel
  obtain ⟨hid, hword, htype, hcast⟩ := hfixed _ hcolumn
  obtain ⟨hole, hmem⟩ := h
  exact finds_any hid hword htype hcast ((within_condition hmem).trans (within_statement hs))

example : finds (anyPattern "branch_id" "uuid")
    (lexemes "SELECT item FROM sales WHERE branch_id = ANY($2::uuid[]) LIMIT $3") = true := by
  decide +kernel

/-- The validator accepts a safe report over a dataset that questions may be asked about. -/
theorem validateSafety_eq_ok {catalog : SemanticCatalog} {compiled : CompiledSql}
    {dataset : CatalogDataset} (hdataset : dataset ∈ catalog.datasets)
    (hallowed : dataset.allowedForNlq = true) (h : compiled.Safe dataset) :
    validateSafety catalog compiled.sql compiled.appliedSecurityFilters = .ok () := by
  have hpasses := passes_report h.report
  obtain ⟨s, hs⟩ := exists_statement compiled.report
  have hview : dataset.viewName ∈ allowedViews catalog :=
    List.mem_map_of_mem (List.mem_filter.2 ⟨hdataset, hallowed⟩)
  have hviews : ∀ view ∈ viewMatches (lexemes compiled.report.text), view = dataset.viewName := by
    intro view hmem
    rw [viewMatches, hpasses.views_eq] at hmem
    obtain ⟨s, hs, rfl⟩ := List.mem_map.1 hmem
    exact h.views s hs
  have hread : viewMatches (lexemes compiled.report.text) ≠ [] := by
    rw [viewMatches, hpasses.views_eq]
    exact List.ne_nil_of_mem (List.mem_map_of_mem hs)
  simp only [validateSafety, bind_eq_ok, throwWhen_eq_ok, CompiledSql.sql, trim_report]
  refine ⟨(), ?_, (), ?_, (), ?_, (), ?_, (), ?_, (), ?_, (), ?_, ?_⟩
  · simp [head?_report]
  · simpa using hpasses.semicolon
  · have hallowed : hasDisallowed (lexemes compiled.report.text) = false := by
      simp only [hasDisallowed, Bool.or_eq_false_iff, List.any_eq_false, Bool.not_eq_true]
      exact ⟨hpasses.allowed, hpasses.mysql⟩
    simp [hallowed]
  · simp [finds_limit (within_statement hs)]
  · rintro (hnone | hsome)
    · exact hread hnone
    · obtain ⟨view, hmem, hnot⟩ := List.any_eq_true.1 hsome
      rw [hviews view hmem] at hnot
      simp [hview] at hnot
  · simpa using h.scope.tenant
  · rintro ⟨hcompany, hmissing⟩
    obtain ⟨s', hs', hrestricts⟩ := h.scope.company (List.contains_iff_mem.1 hcompany)
    rw [finds_restriction hs' (by simp) hrestricts] at hmissing
    cases hmissing
  · rintro ⟨hbranch, hmissingBranch, hmissingWarehouse⟩
    rw [List.contains_iff_mem, List.contains_iff_mem] at hbranch
    obtain ⟨s', hs', hrestricts | hrestricts⟩ := h.scope.branch hbranch
    · rw [finds_restriction hs' (by simp) hrestricts] at hmissingBranch
      cases hmissingBranch
    · rw [finds_restriction hs' (by simp) hrestricts] at hmissingWarehouse
      cases hmissingWarehouse

theorem allowed_of_validateSafety {catalog : SemanticCatalog} {compiled : CompiledSql}
    (h : validateSafety catalog compiled.sql compiled.appliedSecurityFilters = .ok ()) :
    (∀ l ∈ lexemes compiled.report.text, isDisallowed l = false) ∧
      ∀ view ∈ viewMatches (lexemes compiled.report.text), view ∈ allowedViews catalog := by
  simp only [validateSafety, bind_eq_ok, throwWhen_eq_ok, CompiledSql.sql, trim_report] at h
  obtain ⟨_, -, _, -, _, hallowed, _, -, _, hviews, -⟩ := h
  rw [Bool.not_eq_true] at hallowed
  constructor
  · intro l hl
    simpa using List.any_eq_false.1 (Bool.or_eq_false_iff.1 hallowed).1 l hl
  · intro view hview
    rw [not_or, Bool.not_eq_true] at hviews
    simpa using List.any_eq_false.1 hviews.2 view hview

/-! ### Validated queries -/

/-- The query is over a dataset that questions may be asked about. -/
def SemanticReportQuery.Allowed (catalog : SemanticCatalog) (query : SemanticReportQuery) : Prop :=
  ∃ dataset, catalog.getDataset query.datasetId = some dataset ∧ dataset.allowedForNlq = true

section Validated

variable {catalog : SemanticCatalog} {today : ℤ} {security : ReportingSecurityContext}

theorem requireDataset_eq_ok {datasetId : String} {dataset : CatalogDataset}
    (h : requireDataset catalog datasetId = .ok dataset) :
    catalog.getDataset dataset.datasetId = some dataset ∧ dataset.allowedForNlq = true := by
  obtain ⟨hdataset, hallowed⟩ := Option.filter_eq_some_iff.1 (found_eq_ok.1 h)
  have hid : dataset.datasetId = datasetId := lookup_eq_some hdataset
  exact ⟨hid ▸ hdataset, hallowed⟩

theorem allowed_of_validateReport {input : ReportInput} {inherited : Option SemanticTimeRange}
    {query : SemanticReportQuery}
    (h : validateReport catalog today input security inherited = .ok query) :
    query.Allowed catalog := by
  simp only [validateReport, finishReport, bind_eq_ok, pure_eq_ok] at h
  obtain ⟨datasetId, -, baseDataset, -, metrics, -, limit, -, timeRange, -, dataset, hdataset, _, -,
    timeRange', -, _, -, filters, -, _, -, rfl⟩ := h
  exact ⟨dataset, requireDataset_eq_ok hdataset⟩

theorem allowed_of_mapM {α : Type} {f : α → Except ReportError SemanticReportQuery}
    (hf : ∀ x query, f x = .ok query → query.Allowed catalog) {xs : List α}
    {queries : List SemanticReportQuery} (h : xs.mapM f = .ok queries) :
    ∀ query ∈ queries, query.Allowed catalog := by
  have hall := forall₂_of_mapM_eq_ok h
  clear h
  induction hall with
  | nil => exact List.forall_mem_nil _
  | cons hhead _ ih => exact List.forall_mem_cons.2 ⟨hf _ _ hhead, ih⟩

theorem allowed_of_validate {input : SemanticQueryInput} {validated : SemanticQuery}
    (h : validate catalog today input security = .ok validated) :
    ∀ query ∈ validated.reports, query.Allowed catalog := by
  cases input with
  | report input =>
    simp only [validate, bind_eq_ok, pure_eq_ok] at h
    obtain ⟨query, hquery, rfl⟩ := h
    exact List.forall_mem_singleton.2 (allowed_of_validateReport hquery)
  | dashboard input =>
    simp only [validate, validateDashboard, bind_eq_ok, pure_eq_ok] at h
    obtain ⟨queries, ⟨dashboard, -, timeRange, -, hqueries⟩, rfl⟩ := h
    split_ifs at hqueries
    · exact allowed_of_mapM (fun _ _ hquery => allowed_of_validateReport hquery) hqueries
    · refine allowed_of_mapM (fun component query hquery => ?_) hqueries
      simp only [widgetFromComponent, bind_eq_ok] at hquery
      obtain ⟨template, -, hquery⟩ := hquery
      exact allowed_of_validateReport hquery
  | dynamic raw =>
    simp only [validate, bind_eq_ok, pure_eq_ok] at h
    obtain ⟨query, hquery, rfl⟩ := h
    exact List.forall_mem_singleton.2 (allowed_of_validateReport hquery)
  | clarification =>
    cases h
    exact List.forall_mem_nil _
  | unsupported =>
    cases h
    exact List.forall_mem_nil _

end Validated

/-- Over a catalog without reserved tokens, the safety validator accepts what is compiled for a
validated query. -/
theorem validateSafety_compile {catalog : SemanticCatalog} (hclean : catalog.Clean)
    {today today' : ℤ} {input : SemanticQueryInput} {security : ReportingSecurityContext}
    {validated : SemanticQuery}
    (hvalid : validate catalog today input security = .ok validated)
    {query : SemanticReportQuery} (hquery : query ∈ validated.reports) {compiled : CompiledSql}
    (hcompiled : compile catalog today' query security = .ok compiled) :
    validateSafety catalog compiled.sql compiled.appliedSecurityFilters = .ok () := by
  obtain ⟨dataset, hdataset, hsafe⟩ := safe_compile hclean hcompiled
  obtain ⟨dataset', hdataset', hallowed⟩ := allowed_of_validate hvalid query hquery
  obtain rfl : dataset = dataset' := Option.some.inj (hdataset.symm.trans hdataset')
  exact validateSafety_eq_ok (mem_of_lookup_eq_some hdataset) hallowed hsafe

/-- The excerpt with a report and a dashboard, with this text for net sales and this column for
products. -/
def loadedCatalog (netSales productColumn : String) : SemanticCatalog :=
  { catalogExcerpt with
    metrics := [⟨"net_sales", "sales_items", netSales⟩]
    dimensions :=
      [⟨"sales_product", "sales_items", [productColumn], false, productColumn⟩]
    reportTemplates := [⟨"sales_by_product", "sales_items", .ranking, ["net_sales"],
      ["sales_product"], [], [], none, none⟩]
    dashboardTemplates := [⟨"sales", [⟨"sales_by_product", none⟩]⟩] }

theorem clean_loadedCatalog : (loadedCatalog "SUM(net_amount)" "product_name").Clean :=
  ⟨by decide +kernel, by decide +kernel, by decide +kernel, by decide +kernel, by decide +kernel,
    by decide +kernel⟩

/-- The change ranking of net sales by product is accepted. -/
theorem validateSafety_salesByProduct :
    ∃ query compiled,
      validate (loadedCatalog "SUM(net_amount)" "product_name") 740000
        (.report (salesByProduct ["net_sales"] (some ⟨true, .previousPeriod, none, none, true⟩)))
        salesReader = .ok (.report query) ∧
      compile (loadedCatalog "SUM(net_amount)" "product_name") 740000 query salesReader =
        .ok compiled ∧
      validateSafety (loadedCatalog "SUM(net_amount)" "product_name") compiled.sql
        compiled.appliedSecurityFilters = .ok () := by
  let query : SemanticReportQuery :=
    ⟨"sales_items", ["net_sales"], ["sales_product"], [],
      [⟨none, some "is_cancelled", .isDistinctFrom, .bool true⟩],
      ⟨some .currentFinancialYear, none, none, none⟩,
      some ⟨true, .previousPeriod, none, none, true⟩,
      [⟨some "net_sales", none, none, none, none, "desc"⟩], 100⟩
  have hvalid : validate (loadedCatalog "SUM(net_amount)" "product_name") 740000
      (.report (salesByProduct ["net_sales"] (some ⟨true, .previousPeriod, none, none, true⟩)))
      salesReader = .ok (.report query) := by rfl
  have hcompiles : (compile (loadedCatalog "SUM(net_amount)" "product_name") 740000 query
      salesReader).toOption.isSome = true := by
    decide +kernel
  obtain ⟨compiled, hcompiled⟩ := Option.isSome_iff_exists.1 hcompiles
  have hcompile := eq_ok_of_toOption hcompiled
  exact ⟨query, compiled, hvalid, hcompile, validateSafety_compile clean_loadedCatalog hvalid
    (List.mem_singleton_self query) hcompile⟩

/-! ### Reserved words -/

/-- For every catalog of a kind that the loader accepts, the safety validator accepts what is
compiled for a validated query. -/
def AcceptsCompiled (kind : SemanticCatalog → Prop) : Prop :=
  ∀ (catalogVersion : Option String) (catalog : SemanticCatalog) (path : String) (today : ℤ)
    (input : SemanticQueryInput) (security : ReportingSecurityContext) (validated : SemanticQuery)
    (query : SemanticReportQuery) (compiled : CompiledSql),
    validateStructure catalogVersion catalog path = .ok () → kind catalog →
    validate catalog today input security = .ok validated → query ∈ validated.reports →
    compile catalog today query security = .ok compiled →
      validateSafety catalog compiled.sql compiled.appliedSecurityFilters = .ok ()

theorem AcceptsCompiled.salesByProduct {kind : SemanticCatalog → Prop} (h : AcceptsCompiled kind)
    (netSales productColumn : String) (hkind : kind (loadedCatalog netSales productColumn))
    (haccepted : (validateStructure (some "1.0.0") (loadedCatalog netSales productColumn)
      "semantic-catalog.json").toOption = some ())
    {P : Statement → Prop} [DecidablePred P]
    (hP : ((validateReport (loadedCatalog netSales productColumn) 740000
      (Reporting.salesByProduct ["net_sales"] none) salesReader none).toOption.bind fun query =>
        (compile (loadedCatalog netSales productColumn) 740000 query salesReader).toOption.map
          fun compiled => decide (∃ s ∈ compiled.report.statements, P s)) = some true) :
    ∃ compiled : CompiledSql, ∃ s ∈ compiled.report.statements, P s ∧
      validateSafety (loadedCatalog netSales productColumn) compiled.sql
        compiled.appliedSecurityFilters = .ok () := by
  obtain ⟨query, hquery, hP⟩ := Option.bind_eq_some_iff.1 hP
  obtain ⟨compiled, hcompiled, hP⟩ := Option.map_eq_some_iff.1 hP
  obtain ⟨s, hs, hPs⟩ := of_decide_eq_true hP
  have hvalid : validate (loadedCatalog netSales productColumn) 740000
      (.report (Reporting.salesByProduct ["net_sales"] none)) salesReader =
        .ok (.report query) := by
    rw [validate, eq_ok_of_toOption hquery]
    rfl
  exact ⟨compiled, s, hs, hPs, h (some "1.0.0") _ "semantic-catalog.json" 740000 _ salesReader _
    query compiled (eq_ok_of_toOption haccepted) hkind hvalid (List.mem_singleton_self query)
    (eq_ok_of_toOption hcompiled)⟩

/-- A column may be called `update`: the loader accepts it, the compiler writes it and the safety
validator takes it for a statement. A metric may hold a `FROM`: what follows it is taken for a
view. -/
theorem not_acceptsCompiled :
    ¬AcceptsCompiled (fun catalog => ∀ m ∈ catalog.metrics,
      hasForbiddenToken m.expression = false) ∧
    ¬AcceptsCompiled (fun catalog => ({ catalog with metrics := [] } : SemanticCatalog).Clean ∧
      ∀ m ∈ catalog.metrics, hasReservedToken m.metricId = false ∧
        hasForbiddenToken m.expression = false) := by
  constructor
  · intro h
    obtain ⟨compiled, s, hs, hgroup, hsafe⟩ := h.salesByProduct
      "SUM(net_amount)" "update" (by decide +kernel)
      (by decide +kernel) (P := fun s => Expr.column "update" ∈ s.groupBy) (by decide +kernel)
    have hupdate : lexemes "update" = [.word "update".toList] ∧
        isDisallowed (.word "update".toList) = true := by
      decide +kernel
    have hwithin : Within "update" compiled.report.text :=
      (within_groupBy hgroup).trans (within_statement hs)
    have hmem : .word "update".toList ∈ lexemes compiled.report.text :=
      hwithin.subset (hupdate.1 ▸ List.mem_singleton_self _)
    rw [(allowed_of_validateSafety hsafe).1 _ hmem] at hupdate
    exact absurd hupdate.2 (by decide)
  · intro h
    obtain ⟨compiled, s, hs, hselect, hsafe⟩ := h.salesByProduct
      "SUM(EXTRACT(DAY FROM invoice_date))" "product_name"
      ⟨⟨by decide +kernel, by decide +kernel, by decide +kernel, by decide +kernel,
        by decide +kernel, by decide +kernel⟩, by decide +kernel⟩
      (by decide +kernel)
      (P := fun s => SelectItem.metric (Token.ofText "SUM(EXTRACT(DAY FROM invoice_date))")
        "net_sales" ∈ s.select) (by decide +kernel)
    have htext : metricTokensText (Token.ofText "SUM(EXTRACT(DAY FROM invoice_date))") =
        "SUM(EXTRACT(DAY FROM invoice_date))" := by
      decide +kernel
    have hitem : Within "SUM(EXTRACT(DAY FROM invoice_date))" (SelectItem.metric
        (Token.ofText "SUM(EXTRACT(DAY FROM invoice_date))") "net_sales").text := by
      rw [SelectItem.text, htext]
      exact (Within.refl _).around_left glues_as _
    have hreads : ∀ reading ∈ [Reading.outside, .behindFrom false, .behindFrom true],
        "invoice_date" ∈ reading.views (lexemes "SUM(EXTRACT(DAY FROM invoice_date))") := by
      decide +kernel
    have hview := (allowed_of_validateSafety hsafe).2 "invoice_date" (mem_viewMatches
      (fun reading => hreads reading (by
        cases reading with
        | outside => simp
        | behindFrom spaced => cases spaced <;> simp))
      (hitem.trans ((within_select hselect).trans (within_statement hs))))
    have hnot : "invoice_date" ∉ allowedViews
        (loadedCatalog "SUM(EXTRACT(DAY FROM invoice_date))" "product_name") := by
      decide +kernel
    exact hnot hview

end Forecast.Reporting
