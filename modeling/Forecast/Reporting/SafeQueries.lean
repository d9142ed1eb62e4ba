import Forecast.Reporting.SafeNames

/-!
# Queries that are compiled to safe statements

The conditions of a `WHERE` only grow behind those of the caller's scope, which is written as the
safety rules look for it. What is selected, grouped and ordered by has safe names too.
-/

namespace Forecast.Reporting

open Transactions

/-! ### The `WHERE` -/

/-- `column = ANY($n)` stands among the conditions. -/
def Restricts (conditions : List Condition) (column : String) (cast : Cast) : Prop :=
  ∃ hole, Condition.one (.member column false hole cast) ∈ conditions

theorem Restricts.mono {conditions conditions' : List Condition} {column : String} {cast : Cast}
    (h : Restricts conditions column cast) (hsub : conditions ⊆ conditions') :
    Restricts conditions' column cast := by
  obtain ⟨hole, hmem⟩ := h
  exact ⟨hole, hsub hmem⟩

/-- The columns that are said to be restricted are. -/
structure Scoped (conditions : List Condition) (applied : List String) : Prop where
  tenant : "tenant_id" ∈ applied
  company : "company_id" ∈ applied → Restricts conditions "company_id" .intArray
  branch : "branch_id" ∈ applied ∨ "warehouse_id" ∈ applied →
    Restricts conditions "branch_id" .uuidArray ∨ Restricts conditions "warehouse_id" .uuidArray

def SafeConditions (conditions : List Condition) : Prop :=
  ∀ c ∈ conditions, ∀ p ∈ c.predicates, SafeName p.column

theorem safeConditions_append {conditions conditions' : List Condition} :
    SafeConditions (conditions ++ conditions') ↔
      SafeConditions conditions ∧ SafeConditions conditions' :=
  List.forall_mem_append

/-- Conditions with safe names have been added. -/
def WhereClause.Grows (clause clause' : WhereClause) : Prop :=
  ∃ added, clause'.conditions = clause.conditions ++ added ∧ SafeConditions added

namespace WhereClause.Grows

variable {clause clause' clause'' : WhereClause}

theorem refl (clause : WhereClause) : clause.Grows clause :=
  ⟨[], (List.append_nil _).symm, List.forall_mem_nil _⟩

theorem trans (h : clause.Grows clause') (h' : clause'.Grows clause'') :
    clause.Grows clause'' := by
  obtain ⟨added, heq, hsafe⟩ := h
  obtain ⟨added', heq', hsafe'⟩ := h'
  refine ⟨added ++ added', ?_, safeConditions_append.2 ⟨hsafe, hsafe'⟩⟩
  rw [heq', heq, List.append_assoc]

theorem safe (h : clause.Grows clause') (hsafe : SafeConditions clause.conditions) :
    SafeConditions clause'.conditions := by
  obtain ⟨added, heq, hadded⟩ := h
  rw [heq]
  exact safeConditions_append.2 ⟨hsafe, hadded⟩

theorem keepsScope {applied : List String} (h : clause.Grows clause')
    (hscoped : Scoped clause.conditions applied) : Scoped clause'.conditions applied := by
  obtain ⟨added, heq, -⟩ := h
  have hsub : clause.conditions ⊆ clause'.conditions := heq ▸ List.subset_append_left _ _
  exact ⟨hscoped.tenant, fun hcompany => (hscoped.company hcompany).mono hsub,
    fun hbranch => (hscoped.branch hbranch).imp (·.mono hsub) (·.mono hsub)⟩

end WhereClause.Grows

section Where

variable {catalog : SemanticCatalog} {today : ℤ} {dataset : CatalogDataset}
variable {query : SemanticReportQuery} {security : ReportingSecurityContext}
variable {clause clause' : WhereClause} {applied : List String}

theorem branchColumn_mem (dataset : CatalogDataset) :
    dataset.branchColumn = "branch_id" ∨ dataset.branchColumn = "warehouse_id" := by
  unfold CatalogDataset.branchColumn
  split_ifs
  · exact .inr rfl
  · exact .inl rfl

theorem grows_addMember (clause : WhereClause) {column : String} (hcolumn : SafeName column)
    (values : List Value) (cast : Cast) : clause.Grows (clause.addMember column values cast) := by
  refine ⟨_, rfl, fun c hc p hp => ?_⟩
  rw [List.mem_singleton.1 hc] at hp
  rw [List.mem_singleton.1 hp]
  exact hcolumn

theorem safe_tenantClause : SafeConditions (tenantClause security).conditions := by
  intro c hc p hp
  rw [List.mem_singleton.1 hc] at hp
  rw [List.mem_singleton.1 hp]
  exact safeName_fixed (List.mem_cons_self : "tenant_id" ∈ _)

theorem restricts_addMember (clause : WhereClause) (column : String) (values : List Value)
    (cast : Cast) : Restricts (clause.addMember column values cast).conditions column cast :=
  ⟨_, List.mem_append_right _ (List.mem_singleton_self _)⟩

/-- The clause of the scope is safe and restricts what it says. -/
theorem addSecurityFilters_eq_ok {filters : List (SemanticFilter Operator)}
    (h : addSecurityFilters dataset filters security = .ok (clause, applied)) :
    SafeConditions clause.conditions ∧ Scoped clause.conditions applied := by
  have hcompany : SafeName "company_id" := safeName_fixed (by simp)
  have hbranch : SafeName dataset.branchColumn := by
    rcases branchColumn_mem dataset with hcolumn | hcolumn
    · exact hcolumn ▸ safeName_fixed (by simp)
    · exact hcolumn ▸ safeName_fixed (by simp)
  have hrestricted : ∀ (clause : WhereClause) (values : List Value),
      Restricts (clause.addMember dataset.branchColumn values .uuidArray).conditions "branch_id"
        .uuidArray ∨
      Restricts (clause.addMember dataset.branchColumn values .uuidArray).conditions
        "warehouse_id" .uuidArray := by
    intro clause values
    have hrestricts := restricts_addMember clause dataset.branchColumn values .uuidArray
    rcases branchColumn_mem dataset with hcolumn | hcolumn
    · exact .inl (hcolumn ▸ hrestricts)
    · exact .inr (hcolumn ▸ hrestricts)
  have hnot : "company_id" ∉ ["tenant_id"] ++ [dataset.branchColumn] := by
    rcases branchColumn_mem dataset with hcolumn | hcolumn
    · rw [hcolumn]
      decide
    · rw [hcolumn]
      decide
  simp only [addSecurityFilters, bind_eq_ok, throwWhen_eq_ok] at h
  obtain ⟨-, -, -, -, h⟩ := h
  split_ifs at h
  · cases h
    have hgrows := grows_addMember (tenantClause security) hcompany
      ((intersectCompany security).map fun id : ℤ => .number id) .intArray
    have hmore := grows_addMember ((tenantClause security).addMember "company_id"
      ((intersectCompany security).map fun id : ℤ => .number id) .intArray) hbranch
      ((intersectBranches security).map .text) .uuidArray
    refine ⟨hmore.safe (hgrows.safe safe_tenantClause), by simp, fun _ => ?_, fun _ =>
      hrestricted _ _⟩
    obtain ⟨added, heq, -⟩ := hmore
    exact (restricts_addMember _ _ _ _).mono (heq ▸ List.subset_append_left _ _)
  · cases h
    refine ⟨(grows_addMember _ hbranch _ _).safe safe_tenantClause, by simp, fun hin => ?_,
      fun _ => hrestricted _ _⟩
    exact absurd hin hnot
  · cases h
    refine ⟨(grows_addMember _ hcompany _ _).safe safe_tenantClause, by simp,
      fun _ => restricts_addMember _ _ _ _, fun hin => ?_⟩
    exact absurd hin (by simp)
  · cases h
    exact ⟨safe_tenantClause, by simp, fun hin => absurd hin (by simp),
      fun hin => absurd hin (by simp)⟩

variable (hclean : catalog.Clean) (hdataset : dataset ∈ catalog.datasets)

include hclean hdataset

theorem grows_addFilter {filter : SemanticFilter Operator}
    (h : addFilter catalog today dataset clause filter = .ok clause') : clause.Grows clause' := by
  simp only [addFilter, bind_eq_ok, pure_eq_ok] at h
  obtain ⟨⟨condition, params⟩, hfilter, rfl⟩ := h
  refine ⟨condition.toList, rfl, fun c hc p hp => ?_⟩
  exact safeName_allowed hclean hdataset
    (columns_compileFilter hfilter c (Option.mem_toList.1 hc) p hp)

theorem grows_addDateFilter {timeRange : SemanticTimeRange}
    (h : addDateFilter catalog today dataset timeRange security clause = .ok clause') :
    clause.Grows clause' := by
  unfold addDateFilter at h
  split_ifs at h
  · cases h
    exact .refl clause
  · split at h
    · cases h
      exact .refl clause
    · rename_i dateColumn hdate
      simp only [bind_eq_ok, pure_eq_ok] at h
      obtain ⟨column, hcolumn, rfl⟩ := h
      obtain ⟨hid, rfl⟩ := ident_eq_ok.1 hcolumn
      refine ⟨_, rfl, fun c hc p hp => ?_⟩
      rw [List.mem_singleton.1 hc] at hp
      rw [List.mem_singleton.1 hp]
      exact ⟨hid, clean_defaultDateColumn hclean hdataset (truthy_eq_some hdate)⟩

theorem compileWhere_eq_ok
    (h : compileWhere catalog today dataset query security = .ok (clause, applied)) :
    SafeConditions clause.conditions ∧ Scoped clause.conditions applied := by
  simp only [compileWhere, bind_eq_ok, pure_eq_ok] at h
  obtain ⟨⟨scope, applied'⟩, hscope, filtered, hfiltered, dated, hdated, h⟩ := h
  cases h
  obtain ⟨hsafe, hscoped⟩ := addSecurityFilters_eq_ok hscope
  have hgrows : scope.Grows filtered :=
    forEach_invariant (I := scope.Grows)
      (fun _ _ _ _ hI hstep => hI.trans (grows_addFilter hclean hdataset hstep)) hfiltered
      (.refl scope)
  have hmore := hgrows.trans (grows_addDateFilter hclean hdataset hdated)
  exact ⟨hmore.safe hsafe, hmore.keepsScope hscoped⟩

end Where

/-! ### What is selected and ordered by -/

/-- Everything selected, grouped by and kept as taken has a safe name. -/
structure Selection.Safe (s : Selection) : Prop where
  select : ∀ item ∈ s.select, item.Safe
  groupBy : ∀ e ∈ s.groupBy, SafeName e.source
  names : ∀ n ∈ s.selectedColumns, SafeName n

section Select

variable {catalog : SemanticCatalog} {dataset : CatalogDataset}
variable {query : SemanticReportQuery} {s s' : Selection}

theorem forall_pushNew {α : Type} [DecidableEq α] {P : α → Prop} {xs : List α} {x : α}
    (hxs : ∀ y ∈ xs, P y) (hx : P x) : ∀ y ∈ pushNew xs x, P y := by
  intro y hy
  rcases mem_pushNew.1 hy with hy | rfl
  · exact hxs y hy
  · exact hx

theorem Selection.Safe.addExpr (h : s.Safe) {e : Expr × String} (he : SafeName e.1.source)
    (hname : SafeName e.2) : (s.addExpr e).Safe where
  select := forall_pushNew h.select ⟨he, hname⟩
  groupBy := forall_pushNew h.groupBy he
  names := forall_pushNew h.names hname

theorem Selection.Safe.foldl_addExpr (h : s.Safe) {exprs : List (Expr × String)}
    (hexprs : ∀ e ∈ exprs, SafeName e.1.source ∧ SafeName e.2) :
    (exprs.foldl Selection.addExpr s).Safe := by
  induction exprs generalizing s with
  | nil => exact h
  | cons e exprs ih =>
    obtain ⟨he, hexprs⟩ := List.forall_mem_cons.1 hexprs
    exact ih (h.addExpr he.1 he.2) hexprs

variable (hclean : catalog.Clean) (hdataset : dataset ∈ catalog.datasets)

include hclean hdataset

theorem safe_compileDimension {dimension : CatalogDimension} {exprs : List (Expr × String)}
    (h : compileDimension catalog dataset dimension = .ok exprs) :
    ∀ e ∈ exprs, SafeName e.1.source ∧ SafeName e.2 := by
  unfold compileDimension at h
  split_ifs at h
  · simp only [bind_eq_ok, pure_eq_ok, found_eq_ok] at h
    obtain ⟨column, hcolumn, name, hname, rfl⟩ := h
    obtain ⟨hid, rfl⟩ := ident_eq_ok.1 hname
    refine List.forall_mem_singleton.2 ⟨⟨hid, ?_⟩, safeName_fixed (by simp)⟩
    exact clean_defaultDateColumn hclean hdataset (truthy_eq_some hcolumn)
  · simp only [bind_eq_ok, pure_eq_ok, found_eq_ok] at h
    obtain ⟨column, hcolumn, name, hname, rfl⟩ := h
    obtain ⟨hid, rfl⟩ := ident_eq_ok.1 hname
    refine List.forall_mem_singleton.2 ⟨⟨hid, ?_⟩, safeName_fixed (by simp)⟩
    exact clean_defaultDateColumn hclean hdataset (truthy_eq_some hcolumn)
  · simp only [bind_eq_ok, pure_eq_ok] at h
    obtain ⟨-, -, rfl⟩ := h
    intro e he
    obtain ⟨column, hcolumn, rfl⟩ := List.mem_map.1 he
    have hname := safeName_allowed hclean hdataset (List.mem_filter.1 hcolumn).2
    exact ⟨hname, hname⟩

theorem safe_addDimension {dimensionId : String} (hs : s.Safe)
    (h : addDimension catalog dataset s dimensionId = .ok s') : s'.Safe := by
  simp only [addDimension, bind_eq_ok, pure_eq_ok] at h
  obtain ⟨dimension, -, exprs, hexprs, rfl⟩ := h
  exact hs.foldl_addExpr (safe_compileDimension hclean hdataset hexprs)

theorem safe_addDisplayColumn {hasMetrics : Bool} {columnId : String} (hs : s.Safe)
    (h : addDisplayColumn catalog dataset hasMetrics s columnId = .ok s') : s'.Safe := by
  simp only [addDisplayColumn, bind_eq_ok, throwWhen_eq_ok] at h
  obtain ⟨displayColumn, -, -, hallowed, column, hcolumn, h⟩ := h
  obtain ⟨-, rfl⟩ := ident_eq_ok.1 hcolumn
  have hname : SafeName displayColumn.column := by
    refine safeName_allowed hclean hdataset ?_
    simpa using (not_or.1 hallowed).2
  split at h
  · cases h
    exact hs
  · cases h
    refine ⟨List.forall_mem_append.2 ⟨hs.select, ?_⟩, ?_,
      List.forall_mem_append.2 ⟨hs.names, List.forall_mem_singleton.2 hname⟩⟩
    · exact List.forall_mem_singleton.2 ⟨hname, hname⟩
    · dsimp only
      split_ifs
      · exact forall_pushNew hs.groupBy hname
      · exact hs.groupBy

omit hdataset in
theorem safe_addMetric {metricId : String} (hs : s.Safe)
    (h : addMetric catalog s metricId = .ok s') : s'.Safe := by
  simp only [addMetric, bind_eq_ok, found_eq_ok] at h
  obtain ⟨metric, hmetric, h⟩ := h
  have htexts := hclean.metrics metric (mem_of_lookup_eq_some hmetric)
  split_ifs at h
  · cases h
    exact hs
  · simp only [bind_eq_ok, pure_eq_ok] at h
    obtain ⟨name, hname, rfl⟩ := h
    obtain ⟨hid, rfl⟩ := ident_eq_ok.1 hname
    have hsafe : SafeName metric.metricId := ⟨hid, htexts _ (by simp)⟩
    refine ⟨List.forall_mem_append.2 ⟨hs.select, List.forall_mem_singleton.2 ⟨hsafe, ?_⟩⟩,
      hs.groupBy, List.forall_mem_append.2 ⟨hs.names, List.forall_mem_singleton.2 hsafe⟩⟩
    refine ⟨metric.expression, 0, htexts _ (by simp), ?_⟩
    have hrebase : ∀ token : Token, token.rebase 0 = token := by
      intro token
      cases token <;> rfl
    exact (List.map_id'' hrebase _).symm

theorem safe_compileSelection (h : compileSelection catalog dataset query = .ok s) : s.Safe := by
  simp only [compileSelection, bind_eq_ok, pure_eq_ok, throwWhen_eq_ok] at h
  obtain ⟨dims, hdims, columns, hcolumns, metrics, hmetrics, -, -, rfl⟩ := h
  have hempty : (⟨[], [], []⟩ : Selection).Safe :=
    ⟨List.forall_mem_nil _, List.forall_mem_nil _, List.forall_mem_nil _⟩
  have hdimsSafe := forEach_invariant (I := Selection.Safe)
    (fun _ _ _ _ hI hstep => safe_addDimension hclean hdataset hI hstep) hdims hempty
  have hcolumnsSafe := forEach_invariant (I := Selection.Safe)
    (fun _ _ _ _ hI hstep => safe_addDisplayColumn hclean hdataset hI hstep) hcolumns hdimsSafe
  exact forEach_invariant (I := Selection.Safe)
    (fun _ _ _ _ hI hstep => safe_addMetric hclean hI hstep) hmetrics hcolumnsSafe

omit hclean hdataset in
theorem source_compileSortableColumn {column : String} {ascending grouped : Bool}
    {groupBy : List Expr} {key : OrderKey}
    (h : compileSortableColumn column ascending groupBy grouped = .ok key) :
    key.source = column := by
  simp only [compileSortableColumn, bind_eq_ok] at h
  obtain ⟨name, hname, h⟩ := h
  obtain ⟨-, rfl⟩ := ident_eq_ok.1 hname
  split_ifs at h <;> cases h <;> rfl

omit hdataset in
theorem clean_sortLabel {dimensionId label : String}
    (h : sortLabel catalog dimensionId = some label) : hasReservedToken label = false := by
  obtain ⟨dimension, hdimension, hlabel⟩ := Option.map_eq_some_iff.1 (truthy_eq_some h)
  split_ifs at hlabel
  · rw [← hlabel]
    have hmonth : SafeName "month" := safeName_fixed (by simp)
    exact hmonth.allowed
  · rw [← hlabel]
    exact hclean.dimensions dimension (mem_of_lookup_eq_some hdimension) _ List.mem_cons_self

theorem safe_compileSortKey (hmetrics : ∀ m ∈ query.metrics, SafeName m) {groupBy : List Expr}
    {item : SemanticSort} {key : OrderKey}
    (h : compileSortKey catalog dataset query groupBy item = .ok (some key)) :
    SafeName key.source := by
  have hsortable : ∀ {column : String} {ascending grouped : Bool} {key : OrderKey},
      (if isColumnAllowedForDataset catalog dataset column then do
          return some (← compileSortableColumn column ascending groupBy grouped)
        else return none : Except ReportError (Option OrderKey)) = .ok (some key) →
      SafeName key.source := by
    intro column ascending grouped key h
    split_ifs at h with hallowed
    · simp only [bind_eq_ok, pure_eq_ok] at h
      obtain ⟨key', hkey, h⟩ := h
      cases h
      rw [source_compileSortableColumn hkey]
      exact safeName_allowed hclean hdataset hallowed
    · cases h
  unfold compileSortKey at h
  dsimp only at h
  split at h
  · rename_i metricId hmetric
    simp only [bind_eq_ok, pure_eq_ok] at h
    obtain ⟨name, hname, h⟩ := h
    obtain ⟨-, rfl⟩ := ident_eq_ok.1 hname
    cases h
    exact hmetrics _ (List.contains_iff_mem.1 (Option.filter_eq_some_iff.1 hmetric).2)
  · split at h
    · split at h
      · rename_i label hlabel
        simp only [bind_eq_ok, pure_eq_ok] at h
        obtain ⟨name, hname, h⟩ := h
        obtain ⟨hid, rfl⟩ := ident_eq_ok.1 hname
        cases h
        exact ⟨hid, clean_sortLabel hclean hlabel⟩
      · cases h
    · split at h
      · split at h
        · exact hsortable h
        · cases h
      · split at h
        · split at h
          · exact hsortable h
          · cases h
        · split at h
          · exact hsortable h
          · cases h

theorem safe_compileOrderBy (hmetrics : ∀ m ∈ query.metrics, SafeName m) {groupBy : List Expr}
    {items : List OrderItem} (h : compileOrderBy catalog dataset query groupBy = .ok items) :
    ∀ item ∈ items, SafeName item.key.source := by
  intro item hitem
  rcases (forEach_addSortItem h).1 item hitem with hnil | ⟨sort, -, hkey⟩
  · cases hnil
  · exact safe_compileSortKey hclean hdataset hmetrics hkey

end Select

/-! ### Statements -/

/-- A compiled statement is safe, restricts what it says and reads the view of its dataset. -/
structure CompiledStatement.Safe (one : CompiledStatement) (dataset : CatalogDataset) : Prop where
  statement : one.statement.Safe
  scope : Scoped one.statement.conditions one.appliedSecurityFilters
  view : one.statement.view = dataset.viewName
  names : ∀ n ∈ one.selectedColumns, SafeName n

theorem safe_compileStatement {catalog : SemanticCatalog} {today : ℤ} {dataset : CatalogDataset}
    {query : SemanticReportQuery} {security : ReportingSecurityContext} {one : CompiledStatement}
    (hclean : catalog.Clean) (hdataset : dataset ∈ catalog.datasets)
    (h : compileStatement catalog today query dataset security = .ok one) : one.Safe dataset := by
  simp only [compileStatement, bind_eq_ok, pure_eq_ok] at h
  obtain ⟨⟨clause, applied⟩, hwhere, selection, hselection, view, hview, orderBy, horder, rfl⟩ := h
  obtain ⟨hid, rfl⟩ := ident_eq_ok.1 hview
  obtain ⟨hconditions, hscoped⟩ := compileWhere_eq_ok hclean hdataset hwhere
  have hselected := safe_compileSelection hclean hdataset hselection
  have hmetrics : ∀ m ∈ query.metrics, SafeName m := fun m hm =>
    hselected.names m ((mem_compileSelection hselection).2 (List.mem_append_right _ hm))
  have hviewSafe : SafeName dataset.viewName :=
    ⟨hid, hclean.datasets dataset hdataset _ List.mem_cons_self⟩
  exact ⟨⟨hselected.select, hviewSafe, hconditions, hselected.groupBy,
    safe_compileOrderBy hclean hdataset hmetrics horder⟩, hscoped, rfl, hselected.names⟩

end Forecast.Reporting
