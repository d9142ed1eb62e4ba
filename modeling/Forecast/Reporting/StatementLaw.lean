import Forecast.Reporting.QueryValidator
import Forecast.Reporting.Selections

/-!
# Compiled statements are well formed

Placeholders are always run with their own values. What can go wrong is in the names and in the
order: two expressions or two metrics under one name, a name that the shape of the report takes for
itself, a dimension ordered by a label that it does not select, and a `$` in the text of a metric.
-/

namespace Forecast.Reporting

open Placeholders Transactions

def folded (name : String) : String := toLowerCase name

/-- The statement has one row for each group. -/
def Statement.Groups (s : Statement) : Prop :=
  s.groupBy ≠ [] ∨ ∃ expression metricId, SelectItem.metric expression metricId ∈ s.select

/-- The key is a column of the result, is in the `GROUP BY` or is an aggregate. -/
def OrderKey.GroupedIn (s : Statement) : OrderKey → Prop
  | .name n => folded n ∈ s.outputs.map folded ∨ Expr.column n ∈ s.groupBy
  | .dateOf column => Expr.dateOf column ∈ s.groupBy
  | .least _ => True
  | .greatest _ => True

structure Statement.Grouped (s : Statement) : Prop where
  selected : ∀ e name, SelectItem.expr e name ∈ s.select → e ∈ s.groupBy
  ordered : ∀ item ∈ s.orderBy, item.key.GroupedIn s

/-- Each statement of the report and the report itself are well formed: as many values as the
highest placeholder says, each placeholder run with the value of its predicate, no two columns of
a result under one name, and nothing selected or ordered by that is not grouped. -/
structure WellFormed (compiled : CompiledSql) : Prop where
  counted : ((compiled.report.holes.map Placeholder.index) ++ compiled.report.strays).foldr max 0 =
    compiled.params.length
  bound : ∀ hole ∈ compiled.report.holes,
    valueAt compiled.params hole.index = some hole.builtFor
  pushed : compiled.report.strays = []
  named : (compiled.report.outputs.map folded).Nodup
  columns : ∀ s ∈ compiled.report.statements, (s.outputs.map folded).Nodup
  grouped : ∀ s ∈ compiled.report.statements, s.Groups → s.Grouped

/-! ### When they are -/

def dimensionLabel (catalog : SemanticCatalog) (query : SemanticReportQuery)
    (item : SemanticSort) : Option String :=
  match (truthy item.metricId).filter query.metrics.contains with
  | some _ => none
  | none =>
    ((truthy item.dimensionId).filter query.dimensions.contains).bind (sortLabel catalog)

/-- What a query selects can stand in one statement. -/
structure SelectsApart (catalog : SemanticCatalog) (dataset : CatalogDataset)
    (query : SemanticReportQuery) : Prop where
  /-- No two expressions of the dimensions have one name. -/
  exprs : ∀ x ∈ dimensionExprs catalog dataset query.dimensions,
    ∀ y ∈ dimensionExprs catalog dataset query.dimensions, x.2 = y.2 → x.1 = y.1
  /-- No two names differ in their case alone. -/
  names : ∀ a ∈ queryNames catalog dataset query, ∀ b ∈ queryNames catalog dataset query,
    folded a = folded b → a = b
  /-- A dimension is ordered by a name that is selected. -/
  labels : ∀ item ∈ query.sort.take 3, ∀ label ∈ dimensionLabel catalog query item,
    folded label ∈ (queryNames catalog dataset query).map folded
  /-- The text of a metric that is selected has no placeholder. -/
  texts : ∀ metricId ∈ query.metrics,
    metricId ∉ (dimensionExprs catalog dataset query.dimensions).map Prod.snd →
      metricId ∉ displayNames catalog query.displayColumns →
        (metricText catalog metricId).filterMap Token.number? = []

/-- The names of a change ranking can stand beside those of its keys. -/
structure RanksApart (catalog : SemanticCatalog) (dataset : CatalogDataset)
    (query : SemanticReportQuery) : Prop where
  metrics : (query.metrics.map folded).Nodup
  previous : ∀ m ∈ query.metrics, ∀ m' ∈ query.metrics, folded m ≠ folded ("previous_" ++ m')
  changes : ∀ m ∈ query.metrics, folded m ∉ ["change", "change_pct"]
  keys : ∀ x ∈ dimensionExprs catalog dataset query.dimensions, x.2 ∉ query.metrics →
    folded x.2 ∉ ["change", "change_pct"] ∧
      ∀ m ∈ query.metrics, folded x.2 ≠ folded ("previous_" ++ m)

/-- What a query selects can stand in a report of its shape. -/
def ReportsApart (catalog : SemanticCatalog) (query : SemanticReportQuery) : Prop :=
  ∀ dataset ∈ catalog.getDataset query.datasetId,
    match query.enabledComparison with
    | none => SelectsApart catalog dataset query
    | some comparison =>
      if query.ranksChange comparison then
        SelectsApart catalog dataset query.aggregated ∧ RanksApart catalog dataset query
      else
        SelectsApart catalog dataset query ∧
          ∀ n ∈ queryNames catalog dataset query, folded n ≠ "comparison_period"

section Statements

variable {catalog : SemanticCatalog} {today : ℤ} {dataset : CatalogDataset}
variable {query : SemanticReportQuery} {security : ReportingSecurityContext} {s : Selection}

/-! ### Grouping -/

theorem grouped_select (h : compileSelection catalog dataset query = .ok s)
    (hgroups : query.metrics ≠ [] ∨ s.groupBy ≠ []) {e : Expr} {name : String}
    (hmem : SelectItem.expr e name ∈ s.select) : e ∈ s.groupBy := by
  have hmetrics : query.metrics ≠ [] → (!query.metrics.isEmpty) = true := by simp
  refine compileSelection_keeps (P := fun s => (query.metrics ≠ [] ∨ s.groupBy ≠ []) →
    ∀ e name, SelectItem.expr e name ∈ s.select → e ∈ s.groupBy) h ?_ ?_ ?_ hgroups e name hmem
  · intro _ e name hmem
    obtain ⟨x, hx, heq⟩ := mem_dimensionSelection_select.1 hmem
    cases heq
    exact mem_dimensionSelection_groupBy.2 (List.mem_map_of_mem hx)
  · intro s column ih hgroups e name hmem
    unfold Selection.showColumn at hgroups hmem ⊢
    by_cases htaken : column ∈ s.selectedColumns
    · simp only [htaken, if_true] at hgroups hmem ⊢
      exact ih hgroups e name hmem
    · by_cases hgrouped : (!query.metrics.isEmpty || !s.groupBy.isEmpty) = true
      · simp only [htaken, hgrouped, if_true, if_false] at hgroups hmem ⊢
        have hold : query.metrics ≠ [] ∨ s.groupBy ≠ [] := by simpa using hgrouped
        rcases List.mem_append.1 hmem with hmem | hmem
        · exact mem_pushNew.2 (Or.inl (ih hold e name hmem))
        · cases List.mem_singleton.1 hmem
          exact mem_pushNew.2 (Or.inr rfl)
      · simp only [htaken, hgrouped, if_false] at hgroups
        exact absurd (by simpa using hgroups) hgrouped
  · intro s metricId ih hgroups e name hmem
    unfold Selection.showMetric at hgroups hmem ⊢
    by_cases htaken : metricId ∈ s.selectedColumns
    · simp only [htaken, if_true] at hgroups hmem ⊢
      exact ih hgroups e name hmem
    · simp only [htaken, if_false] at hgroups hmem ⊢
      rcases List.mem_append.1 hmem with hmem | hmem
      · exact ih hgroups e name hmem
      · cases List.mem_singleton.1 hmem

theorem metrics_ne_nil_of_mem (h : compileSelection catalog dataset query = .ok s)
    {expression : List Token} {metricId : String}
    (hmem : SelectItem.metric expression metricId ∈ s.select) : query.metrics ≠ [] := by
  intro hnil
  have heq := (compileSelection_eq_ok h).1
  rw [hnil, List.foldl_nil] at heq
  have hnone : ∀ expression metricId,
      SelectItem.metric expression metricId ∉ (columnSelection catalog dataset query).select := by
    refine Selection.foldl_keeps (P := fun s => ∀ expression metricId,
      SelectItem.metric expression metricId ∉ s.select) ?_ ?_
    · intro s column ih expression metricId
      unfold Selection.showColumn
      split_ifs
      · exact ih expression metricId
      all_goals simpa using ih expression metricId
    · intro expression metricId hmem
      obtain ⟨x, -, heq⟩ := mem_dimensionSelection_select.1 hmem
      cases heq
  exact hnone expression metricId (heq ▸ hmem)

/-- A column of the `GROUP BY` is selected under its own name. -/
theorem mem_of_column_mem_groupBy (h : compileSelection catalog dataset query = .ok s)
    {column : String} (hmem : Expr.column column ∈ s.groupBy) : column ∈ s.selectedColumns := by
  refine compileSelection_keeps (P := fun s => ∀ column, Expr.column column ∈ s.groupBy →
    column ∈ s.selectedColumns) h ?_ ?_ ?_ column hmem
  · intro column hmem
    obtain ⟨⟨e, n⟩, hx, heq⟩ := List.mem_map.1 (mem_dimensionSelection_groupBy.1 hmem)
    dsimp only at heq
    subst heq
    rw [mem_dimensionSelection_selectedColumns]
    exact List.mem_map.2 ⟨_, hx, eq_of_mem_dimensionExprs hx⟩
  · intro s shown ih column hmem
    rw [Selection.mem_showColumn]
    unfold Selection.showColumn at hmem
    split_ifs at hmem
    · exact Or.inl (ih column hmem)
    · rcases mem_pushNew.1 hmem with hmem | heq
      · exact Or.inl (ih column hmem)
      · cases heq
        exact Or.inr rfl
    · exact Or.inl (ih column hmem)
  · intro s metricId ih column hmem
    rw [Selection.mem_showMetric]
    unfold Selection.showMetric at hmem
    split_ifs at hmem
    all_goals exact Or.inl (ih column hmem)

theorem groupBy_ne_nil (h : compileSelection catalog dataset query = .ok s)
    (hne : query.dimensions ≠ []) : s.groupBy ≠ [] := by
  have hexprs := (compileSelection_eq_ok h).2 hne
  obtain ⟨x, hx⟩ := List.exists_mem_of_ne_nil _ hexprs
  have hmem : x.1 ∈ s.groupBy := by
    refine compileSelection_keeps (P := fun s => x.1 ∈ s.groupBy) h ?_ ?_ ?_
    · exact mem_dimensionSelection_groupBy.2 (List.mem_map_of_mem hx)
    · intro s column ih
      unfold Selection.showColumn
      split_ifs
      · exact ih
      · exact mem_pushNew.2 (Or.inl ih)
      · exact ih
    · intro s metricId ih
      unfold Selection.showMetric
      split_ifs <;> exact ih
  exact List.ne_nil_of_mem hmem

/-! ### Names -/

theorem nodup_names (h : compileSelection catalog dataset query = .ok s)
    (hexprs : ∀ x ∈ dimensionExprs catalog dataset query.dimensions,
      ∀ y ∈ dimensionExprs catalog dataset query.dimensions, x.2 = y.2 → x.1 = y.1) :
    (s.select.map SelectItem.name).Nodup := by
  have hadd : ∀ (s : Selection) (item : SelectItem), s.Named ∧ (s.select.map SelectItem.name).Nodup →
      item.name ∉ s.selectedColumns → ((s.select ++ [item]).map SelectItem.name).Nodup := by
    rintro s item ⟨hnamed, hnodup⟩ hnew
    rw [List.map_append, List.nodup_append]
    refine ⟨hnodup, List.nodup_singleton _, ?_⟩
    intro a ha b hb hab
    rw [List.map_singleton, List.mem_singleton] at hb
    exact hnew ((hnamed.mem_iff _).2 (hb ▸ hab ▸ ha))
  refine (compileSelection_keeps
    (P := fun s => s.Named ∧ (s.select.map SelectItem.name).Nodup) h ?_ ?_ ?_).2
  · refine ⟨named_dimensionSelection, ?_⟩
    apply List.Nodup.map_on
    · intro item hitem item' hitem' hname
      obtain ⟨x, hx, rfl⟩ := mem_dimensionSelection_select.1 hitem
      obtain ⟨y, hy, rfl⟩ := mem_dimensionSelection_select.1 hitem'
      have hsame : x.2 = y.2 := hname
      rw [hsame, hexprs x hx y hy hsame]
    · rw [dimensionSelection, Selection.foldl_addExpr]
      exact nodup_foldl_pushNew List.nodup_nil
  · intro s column ih
    refine ⟨ih.1.showColumn column, ?_⟩
    unfold Selection.showColumn
    split_ifs with htaken
    · exact ih.2
    all_goals exact hadd s _ ih htaken
  · intro s metricId ih
    refine ⟨ih.1.showMetric metricId, ?_⟩
    unfold Selection.showMetric
    split_ifs with htaken
    · exact ih.2
    · exact hadd s _ ih htaken

theorem expr_mem_select (h : compileSelection catalog dataset query = .ok s)
    {x : Expr × String} (hx : x ∈ dimensionExprs catalog dataset query.dimensions) :
    SelectItem.expr x.1 x.2 ∈ s.select := by
  refine compileSelection_keeps (P := fun s => SelectItem.expr x.1 x.2 ∈ s.select) h ?_ ?_ ?_
  · exact mem_dimensionSelection_select.2 ⟨x, hx, rfl⟩
  · intro s column ih
    unfold Selection.showColumn
    split_ifs
    · exact ih
    all_goals exact List.mem_append_left _ ih
  · intro s metricId ih
    unfold Selection.showMetric
    split_ifs
    · exact ih
    · exact List.mem_append_left _ ih

theorem folded_nodup_iff (h : compileSelection catalog dataset query = .ok s) :
    ((s.select.map SelectItem.name).map folded).Nodup ↔
      (∀ x ∈ dimensionExprs catalog dataset query.dimensions,
        ∀ y ∈ dimensionExprs catalog dataset query.dimensions, x.2 = y.2 → x.1 = y.1) ∧
      ∀ a ∈ queryNames catalog dataset query, ∀ b ∈ queryNames catalog dataset query,
        folded a = folded b → a = b := by
  have hmem : ∀ n, n ∈ s.select.map SelectItem.name ↔ n ∈ queryNames catalog dataset query :=
    fun n => ((named_compileSelection h).mem_iff n).symm.trans (mem_compileSelection h)
  constructor
  · intro hnodup
    constructor
    · intro x hx y hy hname
      rw [List.map_map] at hnodup
      have heq := List.inj_on_of_nodup_map hnodup (expr_mem_select h hx) (expr_mem_select h hy)
        (congrArg folded hname)
      exact (SelectItem.expr.inj heq).1
    · intro a ha b hb hfold
      exact List.inj_on_of_nodup_map hnodup ((hmem a).2 ha) ((hmem b).2 hb) hfold
  · rintro ⟨hexprs, hnames⟩
    apply List.Nodup.map_on
    · intro a ha b hb hfold
      exact hnames a ((hmem a).1 ha) b ((hmem b).1 hb) hfold
    · exact nodup_names h hexprs

theorem strays_eq_nil_iff (h : compileSelection catalog dataset query = .ok s) :
    s.select.flatMap SelectItem.strays = [] ↔
      ∀ metricId ∈ query.metrics,
        metricId ∉ (dimensionExprs catalog dataset query.dimensions).map Prod.snd →
          metricId ∉ displayNames catalog query.displayColumns →
            (metricText catalog metricId).filterMap Token.number? = [] := by
  have hnone : (columnSelection catalog dataset query).select.flatMap SelectItem.strays = [] := by
    refine Selection.foldl_keeps (P := fun s => s.select.flatMap SelectItem.strays = []) ?_ ?_
    · intro s column ih
      unfold Selection.showColumn
      split_ifs
      · exact ih
      all_goals
        rw [List.flatMap_append, ih]
        rfl
    · rw [List.flatMap_eq_nil_iff]
      intro item hitem
      obtain ⟨x, -, rfl⟩ := mem_dimensionSelection_select.1 hitem
      rfl
  rw [(compileSelection_eq_ok h).1, Selection.strays_foldl_showMetric, and_iff_right hnone]
  simp only [mem_columnSelection, not_or, and_imp]

/-! ### The order -/

theorem forEach_addSortItem {groupBy : List Expr} {items : List SemanticSort}
    {parts parts' : List OrderItem}
    (h : forEach (addSortItem catalog dataset query groupBy) parts items = .ok parts') :
    (∀ part ∈ parts', part ∈ parts ∨ ∃ item ∈ items,
      compileSortKey catalog dataset query groupBy item = .ok (some part.key)) ∧
    ∀ item ∈ items, ∃ key, compileSortKey catalog dataset query groupBy item = .ok key ∧
      ∀ k ∈ key, ∃ part ∈ parts', part.key = k := by
  induction items generalizing parts with
  | nil =>
    cases h
    exact ⟨fun part hpart => Or.inl hpart, by simp⟩
  | cons item items ih =>
    obtain ⟨m, hm, h⟩ := forEach_cons_eq_ok.1 h
    have hkeep : ∀ part ∈ m, part ∈ parts' := by
      refine forEach_invariant (I := fun parts'' => ∀ part ∈ m, part ∈ parts'') ?_ h fun _ => id
      intro parts₁ parts₂ item' _ hI hstep part hpart
      simp only [addSortItem, bind_eq_ok, pure_eq_ok] at hstep
      obtain ⟨key, -, rfl⟩ := hstep
      exact List.mem_append_left _ (hI part hpart)
    simp only [addSortItem, bind_eq_ok, pure_eq_ok] at hm
    obtain ⟨key, hkey, rfl⟩ := hm
    obtain ⟨hfrom, hto⟩ := ih h
    constructor
    · intro part hpart
      rcases hfrom part hpart with hpart | ⟨item', hitem', hk⟩
      · rcases List.mem_append.1 hpart with hpart | hpart
        · exact Or.inl hpart
        · cases key with
          | none => simp at hpart
          | some k =>
            simp only [Option.map_some, Option.toList_some, List.mem_singleton] at hpart
            subst hpart
            exact Or.inr ⟨item, List.mem_cons_self, hkey⟩
      · exact Or.inr ⟨item', List.mem_cons_of_mem item hitem', hk⟩
    · intro item' hitem'
      rcases List.mem_cons.1 hitem' with rfl | hitem'
      · refine ⟨key, hkey, fun k hk => ?_⟩
        rw [Option.mem_def] at hk
        subst hk
        exact ⟨⟨k, isAscending item'.direction⟩, hkeep _ (List.mem_append_right _ (by simp)), rfl⟩
      · exact hto item' hitem'

theorem compileSortableColumn_eq_ok {column : String} {ascending grouped : Bool}
    {groupBy : List Expr} {key : OrderKey}
    (h : compileSortableColumn column ascending groupBy grouped = .ok key) :
    grouped = false ∨ (key = .name column ∧ Expr.column column ∈ groupBy) ∨
      (key = .dateOf column ∧ Expr.dateOf column ∈ groupBy) ∨
      key = .least column ∨ key = .greatest column := by
  simp only [compileSortableColumn, bind_eq_ok] at h
  obtain ⟨name, hname, h⟩ := h
  obtain ⟨-, rfl⟩ := ident_eq_ok.1 hname
  split_ifs at h with hgrouped hcolumn hdate hascending
  · exact Or.inl (by simpa using hgrouped)
  · cases h
    exact Or.inr (Or.inl ⟨rfl, hcolumn⟩)
  · cases h
    exact Or.inr (Or.inr (Or.inl ⟨rfl, hdate⟩))
  · cases h
    exact Or.inr (Or.inr (Or.inr (Or.inl rfl)))
  · cases h
    exact Or.inr (Or.inr (Or.inr (Or.inr rfl)))

theorem compileSortKey_cases {groupBy : List Expr} {item : SemanticSort} {key : OrderKey}
    (h : compileSortKey catalog dataset query groupBy item = .ok (some key)) :
    (∃ metricId ∈ query.metrics, key = .name metricId) ∨
      (∃ label ∈ dimensionLabel catalog query item, key = .name label) ∨
      ∃ column, compileSortableColumn column (isAscending item.direction) groupBy
        (!query.metrics.isEmpty || !groupBy.isEmpty) = .ok key := by
  have hsortable : ∀ {column : String},
      (if isColumnAllowedForDataset catalog dataset column then do
        return some (← compileSortableColumn column (isAscending item.direction) groupBy
          (!query.metrics.isEmpty || !groupBy.isEmpty))
      else return none : Except ReportError (Option OrderKey)) = .ok (some key) →
      ∃ column, compileSortableColumn column (isAscending item.direction) groupBy
        (!query.metrics.isEmpty || !groupBy.isEmpty) = .ok key := by
    intro column h
    split_ifs at h
    · simp only [bind_eq_ok, pure_eq_ok, Option.some.injEq] at h
      obtain ⟨k, hk, rfl⟩ := h
      exact ⟨column, hk⟩
    · cases h
  unfold compileSortKey at h
  dsimp only at h
  split at h
  · rename_i metricId hmetric
    simp only [bind_eq_ok, pure_eq_ok, Option.some.injEq] at h
    obtain ⟨name, hname, rfl⟩ := h
    obtain ⟨-, rfl⟩ := ident_eq_ok.1 hname
    obtain ⟨-, hmem⟩ := Option.filter_eq_some_iff.1 hmetric
    exact Or.inl ⟨metricId, by simpa using hmem, rfl⟩
  · rename_i hmetric
    split at h
    · rename_i dimensionId hdimension
      split at h
      · rename_i label hlabel
        simp only [bind_eq_ok, pure_eq_ok, Option.some.injEq] at h
        obtain ⟨name, hname, rfl⟩ := h
        obtain ⟨-, rfl⟩ := ident_eq_ok.1 hname
        refine Or.inr (Or.inl ⟨label, ?_, rfl⟩)
        rw [dimensionLabel, hmetric, hdimension]
        exact hlabel
      · cases h
    · split at h
      · split at h
        · exact Or.inr (Or.inr (hsortable h))
        · cases h
      · split at h
        · split at h
          · exact Or.inr (Or.inr (hsortable h))
          · cases h
        · split at h
          · exact Or.inr (Or.inr (hsortable h))
          · cases h

theorem key_of_dimensionLabel {groupBy : List Expr} {item : SemanticSort} {label : String}
    {key : Option OrderKey} (hlabel : dimensionLabel catalog query item = some label)
    (h : compileSortKey catalog dataset query groupBy item = .ok key) :
    key = some (.name label) := by
  unfold dimensionLabel at hlabel
  split at hlabel
  · cases hlabel
  · rename_i hmetric
    obtain ⟨dimensionId, hdimension, hsort⟩ := Option.bind_eq_some_iff.1 hlabel
    unfold compileSortKey at h
    simp only [hmetric, hdimension, hsort, bind_eq_ok, pure_eq_ok] at h
    obtain ⟨name, hname, rfl⟩ := h
    obtain ⟨-, rfl⟩ := ident_eq_ok.1 hname
    rfl

/-! ### Statements -/

theorem statement_iff {compiled : CompiledStatement}
    (h : compileStatement catalog today query dataset security = .ok compiled) :
    (compiled.statement.strays = [] ∧ (compiled.statement.outputs.map folded).Nodup ∧
      (compiled.statement.Groups → compiled.statement.Grouped)) ↔
      SelectsApart catalog dataset query := by
  simp only [compileStatement, bind_eq_ok, pure_eq_ok] at h
  obtain ⟨⟨clause, applied⟩, -, s, hs, view, -, orderBy, horder, rfl⟩ := h
  obtain ⟨hfrom, hto⟩ := forEach_addSortItem horder
  have hmem : ∀ n, n ∈ s.select.map SelectItem.name ↔ n ∈ queryNames catalog dataset query :=
    fun n => ((named_compileSelection hs).mem_iff n).symm.trans (mem_compileSelection hs)
  have hoverall : ∀ n, folded n ∈ (s.select.map SelectItem.name).map folded ↔
      folded n ∈ (queryNames catalog dataset query).map folded := by
    intro n
    constructor
    · intro h
      obtain ⟨m, hm, hfold⟩ := List.mem_map.1 h
      exact List.mem_map.2 ⟨m, (hmem m).1 hm, hfold⟩
    · intro h
      obtain ⟨m, hm, hfold⟩ := List.mem_map.1 h
      exact List.mem_map.2 ⟨m, (hmem m).2 hm, hfold⟩
  have hstrays := strays_eq_nil_iff hs
  have hnodup := folded_nodup_iff hs
  dsimp only [Statement.strays, Statement.outputs] at *
  constructor
  · rintro ⟨hnone, hnames, hgrouped⟩
    obtain ⟨hexprs, hapart⟩ := hnodup.1 hnames
    refine ⟨hexprs, hapart, ?_, hstrays.1 hnone⟩
    intro item hitem label hlabel
    have hdimensions : query.dimensions ≠ [] := by
      rw [Option.mem_def, dimensionLabel] at hlabel
      split at hlabel
      · cases hlabel
      · obtain ⟨dimensionId, hdimension, -⟩ := Option.bind_eq_some_iff.1 hlabel
        obtain ⟨-, hin⟩ := Option.filter_eq_some_iff.1 hdimension
        intro hnil
        simp [hnil] at hin
    have hordered := (hgrouped (Or.inl (groupBy_ne_nil hs hdimensions))).ordered
    obtain ⟨key, hkey, hparts⟩ := hto item hitem
    have hname := key_of_dimensionLabel (Option.mem_def.1 hlabel) hkey
    obtain ⟨part, hpart, hpartKey⟩ := hparts _ hname
    have hlaw := hordered part hpart
    rw [hpartKey] at hlaw
    rcases hlaw with hlaw | hlaw
    · exact (hoverall label).1 hlaw
    · exact List.mem_map_of_mem ((mem_compileSelection hs).1 (mem_of_column_mem_groupBy hs hlaw))
  · intro hapart
    refine ⟨hstrays.2 hapart.texts, hnodup.2 ⟨hapart.exprs, hapart.names⟩, fun hgroups => ?_⟩
    have hgroups' : query.metrics ≠ [] ∨ s.groupBy ≠ [] := by
      rcases hgroups with hgroups | ⟨expression, metricId, hmetric⟩
      · exact Or.inr hgroups
      · exact Or.inl (metrics_ne_nil_of_mem hs hmetric)
    refine ⟨fun e name hname => grouped_select hs hgroups' hname, ?_⟩
    intro part hpart
    rcases hfrom part hpart with hnone | ⟨item, hitem, hkey⟩
    · cases hnone
    · rcases compileSortKey_cases hkey with ⟨metricId, hmetric, hk⟩ | ⟨label, hlabel, hk⟩ |
        ⟨column, hcolumn⟩
      · rw [hk]
        refine Or.inl ((hoverall metricId).2 (List.mem_map_of_mem ?_))
        exact List.mem_append_right _ hmetric
      · rw [hk]
        exact Or.inl ((hoverall label).2 (hapart.labels item hitem label hlabel))
      · rcases compileSortableColumn_eq_ok hcolumn with hflat | ⟨hk, hin⟩ | ⟨hk, hin⟩ | hk | hk
        · simp only [Bool.or_eq_false_iff, Bool.not_eq_false', List.isEmpty_iff] at hflat
          rcases hgroups' with hmetrics | hgroupBy
          · exact absurd hflat.1 hmetrics
          · exact absurd hflat.2 hgroupBy
        · rw [hk]
          exact Or.inr hin
        · rw [hk]
          exact hin
        · rw [hk]
          exact trivial
        · rw [hk]
          exact trivial

/-! ### Reports -/

/-- A statement of a report that is well formed. -/
def Statement.Sound (s : Statement) : Prop :=
  s.strays = [] ∧ (s.outputs.map folded).Nodup ∧ (s.Groups → s.Grouped)

theorem wellFormed_iff_sound {compiled : CompiledSql}
    (h : compile catalog today query security = .ok compiled) :
    WellFormed compiled ↔ (compiled.report.outputs.map folded).Nodup ∧
      ∀ s ∈ compiled.report.statements, s.Sound := by
  constructor
  · intro hformed
    refine ⟨hformed.named, fun s hs => ⟨?_, hformed.columns s hs, hformed.grouped s hs⟩⟩
    exact List.flatMap_eq_nil_iff.1 hformed.pushed s hs
  · rintro ⟨hnamed, hsound⟩
    have hnumbered := numbered_compile h
    have hstrays : compiled.report.strays = [] :=
      List.flatMap_eq_nil_iff.2 fun s hs => (hsound s hs).1
    refine ⟨?_, hnumbered.bound, hstrays, hnamed, fun s hs => (hsound s hs).2.1,
      fun s hs => (hsound s hs).2.2⟩
    rw [hstrays, List.append_nil]
    exact hnumbered.highest_eq

/-- Raising the placeholders changes nothing else. -/
theorem sound_rebase (k : ℕ) (s : Statement) : (s.rebase k).Sound ↔ s.Sound := by
  have hexpr : ∀ e name, SelectItem.expr e name ∈ (s.rebase k).select ↔
      SelectItem.expr e name ∈ s.select := by
    intro e name
    simp only [Statement.rebase, List.mem_map]
    constructor
    · rintro ⟨item, hitem, heq⟩
      cases item with
      | expr e' name' =>
        cases heq
        exact hitem
      | metric expression metricId => cases heq
    · exact fun h => ⟨_, h, rfl⟩
  have hmetric : (∃ expression metricId,
      SelectItem.metric expression metricId ∈ (s.rebase k).select) ↔
      ∃ expression metricId, SelectItem.metric expression metricId ∈ s.select := by
    simp only [Statement.rebase, List.mem_map]
    constructor
    · rintro ⟨expression, metricId, item, hitem, heq⟩
      cases item with
      | expr e' name' => cases heq
      | metric expression' metricId' => exact ⟨expression', metricId', hitem⟩
    · rintro ⟨expression, metricId, h⟩
      exact ⟨_, metricId, _, h, rfl⟩
  have hkey : ∀ key : OrderKey, key.GroupedIn (s.rebase k) ↔ key.GroupedIn s := by
    intro key
    cases key <;> simp [OrderKey.GroupedIn, Statement.rebase, Statement.outputs,
      Function.comp_def]
  have hgrouped : (s.rebase k).Grouped ↔ s.Grouped := by
    constructor
    · intro h
      exact ⟨fun e name hmem => h.selected e name ((hexpr e name).2 hmem),
        fun item hitem => (hkey item.key).1 (h.ordered item hitem)⟩
    · intro h
      exact ⟨fun e name hmem => h.selected e name ((hexpr e name).1 hmem),
        fun item hitem => (hkey item.key).2 (h.ordered item hitem)⟩
  have hgroups : (s.rebase k).Groups ↔ s.Groups := or_congr Iff.rfl hmetric
  simp only [Statement.Sound, Statement.strays_rebase, List.map_eq_nil_iff,
    Statement.outputs_rebase, hgroups, hgrouped]

theorem selectsApart_during (range : DateRange) :
    SelectsApart catalog dataset (query.during range) ↔ SelectsApart catalog dataset query :=
  ⟨fun h => ⟨h.exprs, h.names, h.labels, h.texts⟩, fun h => ⟨h.exprs, h.names, h.labels, h.texts⟩⟩

theorem folded_previous (m : String) : folded ("previous_" ++ m) = "previous_" ++ folded m := by
  simp only [folded, toLowerCase, String.toList_append, List.map_append, String.ofList_append]
  rfl

theorem perm_flatMap_previous (metrics : List String) :
    (metrics.flatMap fun metricId => [metricId, "previous_" ++ metricId]).Perm
      (metrics ++ metrics.map fun metricId => "previous_" ++ metricId) := by
  induction metrics with
  | nil => exact .refl _
  | cons m metrics ih =>
    rw [List.flatMap_cons, List.map_cons, List.cons_append, List.cons_append, List.cons_append]
    exact ((ih.cons _).trans List.perm_middle.symm).cons m

theorem nodup_metrics_iff (metrics : List String) :
    ((metrics.flatMap fun metricId => [metricId, "previous_" ++ metricId]).map folded).Nodup ↔
      (metrics.map folded).Nodup ∧
        ∀ m ∈ metrics, ∀ m' ∈ metrics, folded m ≠ folded ("previous_" ++ m') := by
  rw [((perm_flatMap_previous metrics).map folded).nodup_iff, List.map_append, List.nodup_append]
  constructor
  · rintro ⟨hmetrics, -, happart⟩
    refine ⟨hmetrics, fun m hm m' hm' => happart _ (List.mem_map_of_mem hm) _ ?_⟩
    rw [List.map_map]
    exact List.mem_map_of_mem (f := folded ∘ fun metricId => "previous_" ++ metricId) hm'
  · rintro ⟨hmetrics, hprevious⟩
    refine ⟨hmetrics, ?_, ?_⟩
    · have hmap : (metrics.map fun metricId => "previous_" ++ metricId).map folded =
          (metrics.map folded).map fun n => "previous_" ++ n := by
        simp [Function.comp_def, folded_previous]
      rw [hmap]
      apply hmetrics.map
      intro a b hab
      have hlists := congrArg String.toList hab
      simp only [String.toList_append] at hlists
      exact String.toList_inj.1 (List.append_cancel_left hlists)
    · intro a ha b hb
      obtain ⟨m, hm, rfl⟩ := List.mem_map.1 ha
      obtain ⟨p, hp, rfl⟩ := List.mem_map.1 hb
      obtain ⟨m', hm', rfl⟩ := List.mem_map.1 hp
      exact hprevious m hm m' hm'

/-- The name of a previous value is none that the ranking gives to a change. -/
theorem folded_previous_ne (m : String) : folded ("previous_" ++ m) ∉ ["change", "change_pct"] := by
  rw [folded_previous]
  intro h
  have hhead : ∀ s ∈ ["change", "change_pct"], s.toList.head? = some 'c' := by decide
  have hc := hhead _ h
  have hp : "previous_".toList.head? = some 'p' := by decide
  rw [String.toList_append, List.head?_append, hp, Option.some_or] at hc
  exact absurd hc (by decide)

/-- The columns of a ranking have names of their own when and only when the metrics and the changes
stand apart from the keys. -/
theorem nodup_ranking_iff {keys : List String} (hkeys : keys.Nodup)
    (hmem : ∀ n, n ∈ keys ↔ n ∈ (dimensionExprs catalog dataset query.dimensions).map Prod.snd ∧
      n ∉ query.metrics)
    (hapart : ∀ a ∈ queryNames catalog dataset query.aggregated,
      ∀ b ∈ queryNames catalog dataset query.aggregated, folded a = folded b → a = b) :
    ((keys ++ query.metrics.flatMap (fun metricId => [metricId, "previous_" ++ metricId]) ++
      ["change", "change_pct"]).map folded).Nodup ↔ RanksApart catalog dataset query := by
  have hdim : ∀ n ∈ (dimensionExprs catalog dataset query.dimensions).map Prod.snd,
      n ∈ queryNames catalog dataset query.aggregated := fun n hn =>
    List.mem_append_left _ (List.mem_append_left _ hn)
  have hmetric : ∀ m ∈ query.metrics, m ∈ queryNames catalog dataset query.aggregated :=
    fun m hm => List.mem_append_right _ hm
  have hkeysFolded : (keys.map folded).Nodup :=
    hkeys.map_on fun a ha b hb hab =>
      hapart a (hdim a ((hmem a).1 ha).1) b (hdim b ((hmem b).1 hb).1) hab
  have hchange : (["change", "change_pct"].map folded) = ["change", "change_pct"] := by decide
  have hpair : ∀ n, n ∈ query.metrics.flatMap (fun metricId => [metricId, "previous_" ++ metricId])
      ↔ n ∈ query.metrics ∨ ∃ m ∈ query.metrics, n = "previous_" ++ m := by
    intro n
    rw [(perm_flatMap_previous query.metrics).mem_iff, List.mem_append, List.mem_map]
    simp only [eq_comm]
  rw [List.map_append, List.map_append, List.nodup_append, List.nodup_append, nodup_metrics_iff,
    hchange]
  constructor
  · rintro ⟨⟨-, ⟨hmetrics, hprevious⟩, hapartKeys⟩, -, hapartChanges⟩
    refine ⟨hmetrics, hprevious, fun m hm hin => ?_, fun x hx hnot => ⟨fun hin => ?_, ?_⟩⟩
    · refine hapartChanges _ (List.mem_append_right _ (List.mem_map_of_mem ?_)) _ hin rfl
      exact (hpair m).2 (Or.inl hm)
    · refine hapartChanges _ (List.mem_append_left _ (List.mem_map_of_mem ?_)) _ hin rfl
      exact (hmem _).2 ⟨List.mem_map_of_mem hx, hnot⟩
    · intro m hm
      apply hapartKeys
      · exact List.mem_map_of_mem ((hmem _).2 ⟨List.mem_map_of_mem hx, hnot⟩)
      · exact List.mem_map_of_mem ((hpair _).2 (Or.inr ⟨m, hm, rfl⟩))
  · intro hranks
    have hkey : ∀ n ∈ keys, folded n ∉ ["change", "change_pct"] ∧
        ∀ m ∈ query.metrics, folded n ≠ folded ("previous_" ++ m) := by
      intro n hn
      obtain ⟨hn, hnot⟩ := (hmem n).1 hn
      obtain ⟨x, hx, rfl⟩ := List.mem_map.1 hn
      exact hranks.keys x hx hnot
    refine ⟨⟨hkeysFolded, ⟨hranks.metrics, hranks.previous⟩, ?_⟩, by decide, ?_⟩
    · intro a ha b hb hab
      obtain ⟨n, hn, rfl⟩ := List.mem_map.1 ha
      obtain ⟨p, hp, rfl⟩ := List.mem_map.1 hb
      rcases (hpair p).1 hp with hm | ⟨m, hm, rfl⟩
      · have hsame := hapart n (hdim n ((hmem n).1 hn).1) p (hmetric p hm) hab
        exact ((hmem n).1 hn).2 (hsame ▸ hm)
      · exact (hkey n hn).2 m hm hab
    · intro a ha b hb hab
      subst hab
      rcases List.mem_append.1 ha with ha | ha
      · obtain ⟨n, hn, rfl⟩ := List.mem_map.1 ha
        exact (hkey n hn).1 hb
      · obtain ⟨p, hp, rfl⟩ := List.mem_map.1 ha
        rcases (hpair p).1 hp with hm | ⟨m, hm, rfl⟩
        · exact hranks.changes p hm hb
        · exact folded_previous_ne m hb

theorem compileStatement_names {compiled : CompiledStatement}
    (h : compileStatement catalog today query dataset security = .ok compiled) :
    compiled.selectedColumns.Nodup ∧
      (∀ n, n ∈ compiled.selectedColumns ↔ n ∈ queryNames catalog dataset query) ∧
      ∀ n, n ∈ compiled.statement.outputs ↔ n ∈ queryNames catalog dataset query := by
  simp only [compileStatement, bind_eq_ok, pure_eq_ok] at h
  obtain ⟨⟨clause, applied⟩, -, s, hs, view, -, orderBy, -, rfl⟩ := h
  have hnamed := named_compileSelection hs
  exact ⟨hnamed.nodup, fun n => mem_compileSelection hs,
    fun n => (hnamed.mem_iff n).symm.trans (mem_compileSelection hs)⟩

theorem wellFormed_comparison_iff {current previous : CompiledStatement} {range range' : DateRange}
    (hcurrent : compileStatement catalog today (query.during range) dataset security =
      .ok current)
    (hprevious : compileStatement catalog today (query.during range') dataset security =
      .ok previous) :
    ((Report.comparison current.statement
        (previous.statement.rebase current.params.length)).outputs.map folded).Nodup ∧
      (∀ s ∈ [current.statement, previous.statement.rebase current.params.length], s.Sound) ↔
    SelectsApart catalog dataset query ∧
      ∀ n ∈ queryNames catalog dataset query, folded n ≠ "comparison_period" := by
  have hsound : current.statement.Sound ↔ SelectsApart catalog dataset query :=
    (statement_iff hcurrent).trans (selectsApart_during range)
  have hsound' : (previous.statement.rebase current.params.length).Sound ↔
      SelectsApart catalog dataset query :=
    (sound_rebase _ _).trans ((statement_iff hprevious).trans (selectsApart_during range'))
  have hnames := (compileStatement_names hcurrent).2.2
  have hperiod : folded "comparison_period" = "comparison_period" := by decide
  rw [Report.outputs, List.map_cons, List.nodup_cons, hperiod]
  constructor
  · rintro ⟨⟨hperiods, -⟩, hall⟩
    refine ⟨hsound.1 (hall _ (by simp)), fun n hn heq => hperiods ?_⟩
    exact List.mem_map.2 ⟨n, (hnames n).2 hn, heq⟩
  · rintro ⟨hapart, hperiods⟩
    refine ⟨⟨fun hin => ?_, (hsound.2 hapart).2.1⟩, fun s hs => ?_⟩
    · obtain ⟨n, hn, heq⟩ := List.mem_map.1 hin
      exact hperiods n ((hnames n).1 hn) heq
    · rcases List.mem_cons.1 hs with rfl | hs
      · exact hsound.2 hapart
      · rw [List.mem_singleton.1 hs]
        exact hsound'.2 hapart

theorem wellFormed_changeRanking_iff {current previous : CompiledStatement}
    {range range' : DateRange} {ascending : Bool} {limit : Hole}
    (hcurrent : compileStatement catalog today (query.aggregated.during range) dataset security =
      .ok current)
    (hprevious : compileStatement catalog today (query.aggregated.during range') dataset security =
      .ok previous) :
    ((Report.changeRanking current.statement
        (previous.statement.rebase current.params.length)
        (current.selectedColumns.filter fun column => !query.metrics.contains column)
        query.metrics ascending limit).outputs.map folded).Nodup ∧
      (∀ s ∈ [current.statement, previous.statement.rebase current.params.length], s.Sound) ↔
    SelectsApart catalog dataset query.aggregated ∧ RanksApart catalog dataset query := by
  have hsound : current.statement.Sound ↔ SelectsApart catalog dataset query.aggregated :=
    (statement_iff hcurrent).trans (selectsApart_during range)
  have hsound' : (previous.statement.rebase current.params.length).Sound ↔
      SelectsApart catalog dataset query.aggregated :=
    (sound_rebase _ _).trans ((statement_iff hprevious).trans (selectsApart_during range'))
  obtain ⟨hnodup, hselected, -⟩ := compileStatement_names hcurrent
  have hkeys : ∀ n, n ∈ (current.selectedColumns.filter fun column =>
      !query.metrics.contains column) ↔
      n ∈ (dimensionExprs catalog dataset query.dimensions).map Prod.snd ∧
        n ∉ query.metrics := by
    intro n
    rw [List.mem_filter, hselected]
    simp only [queryNames, SemanticReportQuery.during, SemanticReportQuery.aggregated,
      displayNames, List.filterMap_nil, List.append_nil, List.mem_append, Bool.not_eq_true',
      List.contains_eq_mem, decide_eq_false_iff_not]
    constructor
    · rintro ⟨hn | hn, hnot⟩
      · exact ⟨hn, hnot⟩
      · exact absurd hn hnot
    · exact fun h => ⟨Or.inl h.1, h.2⟩
  rw [Report.outputs]
  constructor
  · rintro ⟨hnamed, hall⟩
    have hapart := hsound.1 (hall _ (by simp))
    exact ⟨hapart, (nodup_ranking_iff (hnodup.filter _) hkeys hapart.names).1 hnamed⟩
  · rintro ⟨hapart, hranks⟩
    refine ⟨(nodup_ranking_iff (hnodup.filter _) hkeys hapart.names).2 hranks, fun s hs => ?_⟩
    rcases List.mem_cons.1 hs with rfl | hs
    · exact hsound.2 hapart
    · rw [List.mem_singleton.1 hs]
      exact hsound'.2 hapart

/-- A compiled report is well formed when and only when what its query selects can stand in the
report's shape. -/
theorem wellFormed_iff_reportsApart {compiled : CompiledSql}
    (h : compile catalog today query security = .ok compiled) :
    WellFormed compiled ↔ ReportsApart catalog query := by
  rw [wellFormed_iff_sound h]
  obtain ⟨dataset, hdataset, hfrom⟩ := compile_cases h
  have hreports : ReportsApart catalog query ↔
      (match query.enabledComparison with
      | none => SelectsApart catalog dataset query
      | some comparison =>
        if query.ranksChange comparison then
          SelectsApart catalog dataset query.aggregated ∧ RanksApart catalog dataset query
        else
          SelectsApart catalog dataset query ∧
            ∀ n ∈ queryNames catalog dataset query, folded n ≠ "comparison_period") := by
    unfold ReportsApart
    rw [hdataset]
    simp
  rw [hreports]
  cases hfrom with
  | plain one hshape hone hreport hparams =>
    rw [hreport, hshape]
    have hsound : one.statement.Sound ↔ SelectsApart catalog dataset query := statement_iff hone
    constructor
    · rintro ⟨-, hall⟩
      exact hsound.1 (hall one.statement (List.mem_singleton_self _))
    · intro hapart
      refine ⟨(hsound.2 hapart).2.1, fun s hs => ?_⟩
      rw [List.mem_singleton.1 hs]
      exact hsound.2 hapart
  | comparison comparison range range' current previous hshape hkind hcurrent hprevious hreport
      hparams =>
    rw [hreport, hshape]
    simp only [hkind, Bool.false_eq_true, if_false]
    exact wellFormed_comparison_iff hcurrent hprevious
  | changeRanking comparison range range' current previous ascending hshape hkind hcurrent
      hprevious hreport hparams =>
    rw [hreport, hshape]
    simp only [hkind, if_true]
    exact wellFormed_changeRanking_iff hcurrent hprevious

end Statements

def salesByProduct (metrics : List String) (comparison : Option SemanticComparison) :
    ReportInput where
  templateId := none
  datasetId := "sales_items"
  mode := none
  analysisType := none
  metrics := some metrics
  dimensions := ["sales_product"]
  displayColumns := []
  filters := []
  timeRange := none
  comparison := comparison
  sort := []
  limit := none

def salesReader : ReportingSecurityContext where
  tenantId := "11111111-1111-4111-8111-111111111111"
  userRole := "ADMIN"
  permissions := []
  requestedCompanyId := none
  requestedBranchIds := []
  allowedCompanyIds := [1]
  allowedBranchIds := ["22222222-2222-4222-8222-222222222222"]
  hasExplicitCompanyScope := true
  hasExplicitBranchScope := true
  fiscalYear := none

/-- The change ranking of net sales by product is compiled and well formed. -/
theorem wellFormed_salesByProduct :
    ∃ query compiled,
      validateReport catalogExcerpt 740000
        (salesByProduct ["net_sales"] (some ⟨true, .previousPeriod, none, none, true⟩))
        salesReader none = .ok query ∧
      compile catalogExcerpt 740000 query salesReader = .ok compiled ∧ WellFormed compiled := by
  let query : SemanticReportQuery :=
    ⟨"sales_items", ["net_sales"], ["sales_product"], [],
      [⟨none, some "is_cancelled", .isDistinctFrom, .bool true⟩],
      ⟨some .currentFinancialYear, none, none, none⟩,
      some ⟨true, .previousPeriod, none, none, true⟩,
      [⟨some "net_sales", none, none, none, none, "desc"⟩], 100⟩
  have hcompiles : (compile catalogExcerpt 740000 query salesReader).toOption.isSome = true := by
    decide +kernel
  cases hcompile : compile catalogExcerpt 740000 query salesReader with
  | error e =>
    rw [hcompile] at hcompiles
    cases hcompiles
  | ok compiled =>
    refine ⟨query, compiled, by rfl, hcompile, (wellFormed_iff_reportsApart hcompile).2 ?_⟩
    intro dataset hdataset
    have hsales : catalogExcerpt.getDataset query.datasetId = some salesItems := by rfl
    rw [hsales] at hdataset
    cases hdataset
    exact ⟨⟨by decide +kernel, by decide +kernel, by decide +kernel, by decide +kernel⟩,
      ⟨by decide +kernel, by decide +kernel, by decide +kernel, by decide +kernel⟩⟩

/-- A metric that is listed twice is selected once by a plain report and twice by a ranking. -/
theorem not_wellFormed_metricTwice :
    ¬∀ (catalog : SemanticCatalog) (today : ℤ) (input : ReportInput)
      (security : ReportingSecurityContext) (query : SemanticReportQuery) (compiled : CompiledSql),
      validateReport catalog today input security none = .ok query →
        compile catalog today query security = .ok compiled → WellFormed compiled := by
  intro h
  have hfails : ((validateReport catalogExcerpt 740000
      (salesByProduct ["net_sales", "net_sales"] (some ⟨true, .previousPeriod, none, none, true⟩))
      salesReader none).toOption.bind fun query =>
        (compile catalogExcerpt 740000 query salesReader).toOption.map fun compiled =>
          decide (compiled.report.outputs.map folded).Nodup) = some false := by
    decide +kernel
  obtain ⟨query, hquery, hfails⟩ := Option.bind_eq_some_iff.1 hfails
  obtain ⟨compiled, hcompiled, hnodup⟩ := Option.map_eq_some_iff.1 hfails
  have hvalid := eq_ok_of_toOption hquery
  have hformed := h catalogExcerpt 740000 _ salesReader query compiled hvalid
    (eq_ok_of_toOption hcompiled)
  exact of_decide_eq_false hnodup hformed.named

end Forecast.Reporting
