import Forecast.Billing.Schema
import Forecast.Reporting.SqlCompiler

/-!
# Placeholders of compiled statements

What each pass of the compiler writes is numbered behind what the passes before it wrote, so a
statement is run with the values that its predicates were written for.
-/

namespace Forecast.Reporting

open Placeholders Transactions

variable {catalog : SemanticCatalog} {today : ℤ} {dataset : CatalogDataset}
variable {query : SemanticReportQuery} {security : ReportingSecurityContext}
variable {params params' : List Value}

theorem ident_eq_ok {s name : String} : ident s = .ok name ↔ isIdentifier s = true ∧ s = name := by
  unfold ident
  by_cases h : isIdentifier s = true <;> simp [h]

theorem mapM_ident_eq_ok {names names' : List String} (h : names.mapM ident = .ok names') :
    names' = names := by
  have hall := forall₂_of_mapM_eq_ok h
  clear h
  induction hall with
  | nil => rfl
  | cons hhead _ ih => rw [(ident_eq_ok.1 hhead).2, ih]

theorem numbered_push₂ (params : List Value) (v w : Value) :
    Numbered params [(push params v).1, (push (push params v).2 w).1]
      (push (push params v).2 w).2 :=
  (Numbered.push params v).append (Numbered.push (push params v).2 w)

theorem numbered_compileSingleColumnFilter {column : String} {operator : Operator} {value : Value}
    {p : Predicate}
    (h : compileSingleColumnFilter catalog today dataset column operator value params =
      .ok (p, params')) : Numbered params p.holes params' := by
  unfold compileSingleColumnFilter at h
  simp only [bind_eq_ok] at h
  obtain ⟨name, -, h⟩ := h
  cases hrange : resolveRange operator value with
  | inl bounds =>
    obtain ⟨low, high⟩ := bounds
    rw [hrange] at h
    cases h
    exact numbered_push₂ params low high
  | inr resolved =>
    rw [hrange] at h
    dsimp only at h
    cases hop : coerceOperator operator resolved with
    | between =>
      rw [hop] at h
      dsimp only at h
      split at h
      · cases h
        exact numbered_push₂ params _ _
      · cases h
    | _ =>
      rw [hop] at h
      cases h
      exact Numbered.push params _

theorem numbered_compileColumns {operator : Operator} {value : Value} {columns : List String}
    {ps : List Predicate}
    (h : compileColumns catalog today dataset operator value columns params = .ok (ps, params')) :
    Numbered params (ps.flatMap Predicate.holes) params' := by
  induction columns generalizing params ps with
  | nil =>
    cases h
    exact .nil
  | cons column columns ih =>
    simp only [compileColumns, bind_eq_ok, pure_eq_ok] at h
    obtain ⟨⟨p, params₁⟩, hp, ⟨ps', params₂⟩, hps, h⟩ := h
    cases h
    exact (numbered_compileSingleColumnFilter hp).append (ih hps)

/-- Columns that are all compared with one placeholder. -/
theorem numbered_shared {columns : List String} (hcolumns : columns ≠ []) (negated : Bool)
    (value : Value) :
    Numbered params
      ((columns.map fun column => Predicate.like column negated (push params value).1).flatMap
        Predicate.holes) (push params value).2 := by
  apply (Numbered.push params value).of_mem_iff
  intro hole
  cases columns with
  | nil => exact absurd rfl hcolumns
  | cons column columns => simp [List.flatMap_map, Predicate.holes]

theorem numbered_compileFilter {filter : SemanticFilter Operator} {condition : Option Condition}
    (h : compileFilter catalog today dataset filter params = .ok (condition, params')) :
    Numbered params (condition.toList.flatMap Condition.holes) params' := by
  have hone : ∀ {column : String} {operator : Operator} {p : Predicate} {params₁ : List Value},
      compileSingleColumnFilter catalog today dataset column operator filter.value params =
        .ok (p, params₁) →
      Numbered params ((some (Condition.one p)).toList.flatMap Condition.holes) params₁ := by
    intro column operator p params₁ hp
    simpa [Condition.holes, Condition.predicates] using numbered_compileSingleColumnFilter hp
  unfold compileFilter at h
  dsimp only at h
  split at h
  · cases h
    exact .nil
  · simp only [bind_eq_ok, pure_eq_ok] at h
    obtain ⟨⟨p, params₁⟩, hp, h⟩ := h
    cases h
    exact hone hp
  · rename_i column rest hlong hcolumns
    have hne : compatibleFilterColumns (filterColumns catalog dataset filter
        (catalog.filterOf filter)) filter.operator filter.value ≠ [] := by
      rw [hcolumns]
      exact List.cons_ne_nil column rest
    split at h
    · simp only [bind_eq_ok, pure_eq_ok] at h
      obtain ⟨names, hnames, h⟩ := h
      cases h
      rw [mapM_ident_eq_ok hnames]
      simpa only [Condition.holes, Condition.predicates, Option.toList_some, List.flatMap_singleton]
        using numbered_shared hne false (likePattern filter.value)
    · simp only [bind_eq_ok, pure_eq_ok] at h
      obtain ⟨names, hnames, h⟩ := h
      cases h
      rw [mapM_ident_eq_ok hnames]
      simpa only [Condition.holes, Condition.predicates, Option.toList_some, List.flatMap_singleton]
        using numbered_shared hne true (likePattern filter.value)
    all_goals
      simp only [bind_eq_ok, pure_eq_ok] at h
      obtain ⟨⟨p, params₁⟩, hp, h⟩ := h
      cases h
      first
        | exact hone hp
        | simpa [Condition.holes, Condition.predicates] using numbered_compileColumns hp

/-! ### The `WHERE` -/

def WhereClause.IsNumbered (clause : WhereClause) : Prop :=
  Numbered [] (clause.conditions.flatMap Condition.holes) clause.params

theorem isNumbered_tenantClause : (tenantClause security).IsNumbered :=
  Numbered.push [] (Value.text security.tenantId)

theorem WhereClause.IsNumbered.addMember {clause : WhereClause} (h : clause.IsNumbered)
    (column : String) (values : List Value) (cast : Cast) :
    (clause.addMember column values cast).IsNumbered := by
  have hpush := h.append (Numbered.push clause.params (.list values))
  simpa [WhereClause.IsNumbered, WhereClause.addMember, Condition.holes, Condition.predicates,
    Predicate.holes] using hpush

theorem isNumbered_addSecurityFilters {filters : List (SemanticFilter Operator)}
    {clause : WhereClause} {applied : List String}
    (h : addSecurityFilters dataset filters security = .ok (clause, applied)) :
    clause.IsNumbered := by
  simp only [addSecurityFilters, bind_eq_ok, throwWhen_eq_ok] at h
  obtain ⟨-, -, -, -, h⟩ := h
  split_ifs at h
  all_goals
    cases h
    first
      | exact (isNumbered_tenantClause.addMember _ _ _).addMember _ _ _
      | exact isNumbered_tenantClause.addMember _ _ _
      | exact isNumbered_tenantClause

theorem isNumbered_addFilter {clause clause' : WhereClause} {filter : SemanticFilter Operator}
    (hclause : clause.IsNumbered) (h : addFilter catalog today dataset clause filter = .ok clause') :
    clause'.IsNumbered := by
  simp only [addFilter, bind_eq_ok, pure_eq_ok] at h
  obtain ⟨⟨condition, params⟩, hfilter, h⟩ := h
  cases h
  have happend := hclause.append (numbered_compileFilter hfilter)
  simpa [WhereClause.IsNumbered] using happend

theorem isNumbered_addDateFilter {clause clause' : WhereClause} {timeRange : SemanticTimeRange}
    (hclause : clause.IsNumbered)
    (h : addDateFilter catalog today dataset timeRange security clause = .ok clause') :
    clause'.IsNumbered := by
  simp only [addDateFilter] at h
  split_ifs at h with hskip
  · cases h
    exact hclause
  · split at h
    · cases h
      exact hclause
    · simp only [bind_eq_ok, pure_eq_ok] at h
      obtain ⟨column, -, h⟩ := h
      cases h
      have happend := hclause.append (numbered_push₂ clause.params
        (.text (resolveDateRange timeRange security today).startDate)
        (.text (resolveDateRange timeRange security today).endDate))
      simpa [WhereClause.IsNumbered, Condition.holes, Condition.predicates, Predicate.holes]
        using happend

theorem isNumbered_compileWhere {clause : WhereClause} {applied : List String}
    (h : compileWhere catalog today dataset query security = .ok (clause, applied)) :
    clause.IsNumbered := by
  simp only [compileWhere, bind_eq_ok, pure_eq_ok] at h
  obtain ⟨⟨scope, applied'⟩, hscope, filtered, hfiltered, dated, hdated, h⟩ := h
  cases h
  have hclause := isNumbered_addSecurityFilters hscope
  have hfilters := forEach_invariant (I := WhereClause.IsNumbered)
    (fun _ _ _ _ hI hstep => isNumbered_addFilter hI hstep) hfiltered hclause
  exact isNumbered_addDateFilter hfilters hdated

/-! ### Statements and reports -/

theorem numbered_compileStatement {compiled : CompiledStatement}
    (h : compileStatement catalog today query dataset security = .ok compiled) :
    Numbered [] compiled.statement.holes compiled.params := by
  simp only [compileStatement, bind_eq_ok, pure_eq_ok] at h
  obtain ⟨⟨clause, applied⟩, hwhere, selection, -, view, -, orderBy, -, h⟩ := h
  cases h
  exact (isNumbered_compileWhere hwhere).append (Numbered.push clause.params _)

/-- The statement of the other period is numbered behind the first one's values. -/
theorem numbered_rebase {current previous : CompiledStatement}
    (hcurrent : Numbered [] current.statement.holes current.params)
    (hprevious : Numbered [] previous.statement.holes previous.params) :
    Numbered []
      (current.statement.holes ++ (previous.statement.rebase current.params.length).holes)
      (current.params ++ previous.params) := by
  rw [Statement.holes_rebase]
  exact hcurrent.append (hprevious.rebase current.params)

/-- What is compiled, by the shape of the query. -/
inductive CompiledFrom (catalog : SemanticCatalog) (today : ℤ) (query : SemanticReportQuery)
    (dataset : CatalogDataset) (security : ReportingSecurityContext) (compiled : CompiledSql) :
    Prop where
  | plain (one : CompiledStatement) (hshape : query.enabledComparison = none)
      (hone : compileStatement catalog today query dataset security = .ok one)
      (hreport : compiled.report = .plain one.statement) (hparams : compiled.params = one.params)
  | comparison (comparison : SemanticComparison) (range range' : DateRange)
      (current previous : CompiledStatement)
      (hshape : query.enabledComparison = some comparison)
      (hkind : query.ranksChange comparison = false)
      (hcurrent : compileStatement catalog today (query.during range) dataset security =
        .ok current)
      (hprevious : compileStatement catalog today (query.during range') dataset security =
        .ok previous)
      (hreport : compiled.report =
        .comparison current.statement (previous.statement.rebase current.params.length))
      (hparams : compiled.params = current.params ++ previous.params)
  | changeRanking (comparison : SemanticComparison) (range range' : DateRange)
      (current previous : CompiledStatement) (ascending : Bool)
      (hshape : query.enabledComparison = some comparison)
      (hkind : query.ranksChange comparison = true)
      (hcurrent : compileStatement catalog today (query.aggregated.during range) dataset security =
        .ok current)
      (hprevious : compileStatement catalog today (query.aggregated.during range') dataset
        security = .ok previous)
      (hreport : compiled.report =
        .changeRanking current.statement (previous.statement.rebase current.params.length)
          (current.selectedColumns.filter fun column => !query.metrics.contains column)
          query.metrics ascending
          (push (current.params ++ previous.params) (.number query.limit)).1)
      (hparams : compiled.params =
        (push (current.params ++ previous.params) (.number query.limit)).2)

theorem compile_cases {compiled : CompiledSql}
    (h : compile catalog today query security = .ok compiled) :
    ∃ dataset, catalog.getDataset query.datasetId = some dataset ∧
      CompiledFrom catalog today query dataset security compiled := by
  simp only [compile, bind_eq_ok, found_eq_ok] at h
  obtain ⟨dataset, hdataset, h⟩ := h
  refine ⟨dataset, hdataset, ?_⟩
  split at h
  · rename_i comparison hshape
    split_ifs at h with hkind
    · simp only [compileChangeRanking, bind_eq_ok, pure_eq_ok] at h
      obtain ⟨⟨range, range'⟩, -, current, hcurrent, previous, hprevious, -, -, -, -, -, -, h⟩ := h
      cases h
      exact .changeRanking comparison range range' current previous _ hshape hkind hcurrent
        hprevious rfl rfl
    · simp only [compileComparison, bind_eq_ok, pure_eq_ok] at h
      obtain ⟨⟨range, range'⟩, -, current, hcurrent, previous, hprevious, h⟩ := h
      cases h
      exact .comparison comparison range range' current previous hshape
        (Bool.eq_false_iff.2 hkind) hcurrent hprevious rfl rfl
  · rename_i hshape
    simp only [bind_eq_ok, pure_eq_ok] at h
    obtain ⟨one, hone, h⟩ := h
    cases h
    exact .plain one hshape hone rfl rfl

/-- Every placeholder that was pushed is run with its own value, in all three shapes. -/
theorem numbered_compile {compiled : CompiledSql}
    (h : compile catalog today query security = .ok compiled) :
    Numbered [] compiled.report.holes compiled.params := by
  obtain ⟨dataset, -, hfrom⟩ := compile_cases h
  cases hfrom with
  | plain one hshape hone hreport hparams =>
    rw [hreport, hparams]
    exact numbered_compileStatement hone
  | comparison comparison range range' current previous hshape hkind hcurrent hprevious hreport
      hparams =>
    rw [hreport, hparams]
    exact numbered_rebase (numbered_compileStatement hcurrent)
      (numbered_compileStatement hprevious)
  | changeRanking comparison range range' current previous ascending hshape hkind hcurrent
      hprevious hreport hparams =>
    rw [hreport, hparams]
    exact (numbered_rebase (numbered_compileStatement hcurrent)
      (numbered_compileStatement hprevious)).append (Numbered.push _ _)

end Forecast.Reporting
