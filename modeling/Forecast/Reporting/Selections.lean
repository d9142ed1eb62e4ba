import Forecast.Reporting.Numbering

/-!
# What a statement selects and groups by

The names of the result are those of the dimensions' expressions, of the display columns and of the
metrics. A display column or a metric whose name is taken is left out, so two columns of one name
can only come from two expressions of dimensions.
-/

namespace Forecast.Reporting

open Transactions

variable {catalog : SemanticCatalog} {dataset : CatalogDataset} {query : SemanticReportQuery}

/-! ### Pushing what is new -/

section PushNew

variable {α : Type} [DecidableEq α] {xs ys : List α} {x y : α}

theorem mem_pushNew : y ∈ pushNew xs x ↔ y ∈ xs ∨ y = x := by
  unfold pushNew
  split_ifs with h
  · constructor
    · exact Or.inl
    · rintro (hy | rfl)
      · exact hy
      · exact h
  · simp

theorem nodup_pushNew (h : xs.Nodup) : (pushNew xs x).Nodup := by
  unfold pushNew
  split_ifs with hmem
  · exact h
  · exact List.nodup_append.2 ⟨h, List.nodup_singleton x, by
      intro a ha b hb hab
      rw [List.mem_singleton.1 hb] at hab
      exact hmem (hab ▸ ha)⟩

theorem mem_foldl_pushNew : y ∈ ys.foldl pushNew xs ↔ y ∈ xs ∨ y ∈ ys := by
  induction ys generalizing xs with
  | nil => simp
  | cons z ys ih =>
    rw [List.foldl_cons, ih, mem_pushNew, List.mem_cons, or_assoc]

theorem nodup_foldl_pushNew (h : xs.Nodup) : (ys.foldl pushNew xs).Nodup := by
  induction ys generalizing xs with
  | nil => exact h
  | cons z ys ih => exact ih (nodup_pushNew h)

end PushNew

/-! ### The steps of a selection -/

/-- What the dimensions select, each expression with its name. -/
def dimensionExprs (catalog : SemanticCatalog) (dataset : CatalogDataset)
    (dimensions : List String) : List (Expr × String) :=
  dimensions.flatMap fun id =>
    ((catalog.getDimension id).bind fun d =>
      (compileDimension catalog dataset d).toOption).getD []

def displayNames (catalog : SemanticCatalog) (columnIds : List String) : List String :=
  columnIds.filterMap fun id => (catalog.getDisplayColumn id).map CatalogDisplayColumn.column

def metricText (catalog : SemanticCatalog) (metricId : String) : List Token :=
  Token.ofText (((catalog.getMetric metricId).map CatalogMetric.expression).getD "")

namespace Selection

def showColumn (hasMetrics : Bool) (s : Selection) (column : String) : Selection :=
  if column ∈ s.selectedColumns then s
  else {
    select := s.select ++ [.expr (.column column) column]
    groupBy :=
      if hasMetrics || !s.groupBy.isEmpty then pushNew s.groupBy (.column column) else s.groupBy
    selectedColumns := s.selectedColumns ++ [column] }

def showMetric (catalog : SemanticCatalog) (s : Selection) (metricId : String) : Selection :=
  if metricId ∈ s.selectedColumns then s
  else { s with
    select := s.select ++ [.metric (metricText catalog metricId) metricId]
    selectedColumns := s.selectedColumns ++ [metricId] }

end Selection

theorem lookup_eq_some {α : Type} {key : α → String} {entries : List α} {id : String} {entry : α}
    (h : lookup key entries id = some entry) : key entry = id := by
  unfold lookup at h
  simpa using List.find?_some h

theorem forEach_addDimension {s s' : Selection} {dimensions : List String}
    (h : forEach (addDimension catalog dataset) s dimensions = .ok s') :
    s' = (dimensionExprs catalog dataset dimensions).foldl Selection.addExpr s := by
  induction dimensions generalizing s with
  | nil =>
    cases h
    rfl
  | cons id dimensions ih =>
    obtain ⟨m, hm, h⟩ := forEach_cons_eq_ok.1 h
    simp only [addDimension, bind_eq_ok, pure_eq_ok, found_eq_ok] at hm
    obtain ⟨dimension, hdimension, exprs, hexprs, rfl⟩ := hm
    rw [ih h]
    simp [dimensionExprs, hdimension, hexprs, Except.toOption, List.foldl_append]

theorem dimensionExprs_ne_nil {s s' : Selection} {dimensions : List String}
    (hne : dimensions ≠ [])
    (h : forEach (addDimension catalog dataset) s dimensions = .ok s') :
    dimensionExprs catalog dataset dimensions ≠ [] := by
  cases dimensions with
  | nil => exact absurd rfl hne
  | cons id dimensions =>
    obtain ⟨m, hm, -⟩ := forEach_cons_eq_ok.1 h
    simp only [addDimension, bind_eq_ok, pure_eq_ok, found_eq_ok] at hm
    obtain ⟨dimension, hdimension, exprs, hexprs, -⟩ := hm
    have hsome : exprs ≠ [] := by
      unfold compileDimension at hexprs
      split_ifs at hexprs
      · simp only [bind_eq_ok, pure_eq_ok] at hexprs
        obtain ⟨_, -, _, -, rfl⟩ := hexprs
        exact List.cons_ne_nil _ _
      · simp only [bind_eq_ok, pure_eq_ok] at hexprs
        obtain ⟨_, -, _, -, rfl⟩ := hexprs
        exact List.cons_ne_nil _ _
      · simp only [bind_eq_ok, pure_eq_ok, throwWhen_eq_ok] at hexprs
        obtain ⟨_, hcolumns, rfl⟩ := hexprs
        simpa using hcolumns
    simp [dimensionExprs, hdimension, hexprs, Except.toOption, hsome]

theorem forEach_addDisplayColumn {hasMetrics : Bool} {s s' : Selection} {columnIds : List String}
    (h : forEach (addDisplayColumn catalog dataset hasMetrics) s columnIds = .ok s') :
    s' = (displayNames catalog columnIds).foldl (Selection.showColumn hasMetrics) s := by
  induction columnIds generalizing s with
  | nil =>
    cases h
    rfl
  | cons id columnIds ih =>
    obtain ⟨m, hm, h⟩ := forEach_cons_eq_ok.1 h
    simp only [addDisplayColumn, bind_eq_ok, found_eq_ok] at hm
    obtain ⟨displayColumn, hdisplay, -, -, column, hcolumn, hm⟩ := hm
    obtain ⟨-, rfl⟩ := ident_eq_ok.1 hcolumn
    have hnames : displayNames catalog (id :: columnIds) =
        displayColumn.column :: displayNames catalog columnIds := by
      simp [displayNames, hdisplay]
    rw [ih h, hnames, List.foldl_cons]
    congr 1
    unfold Selection.showColumn
    split_ifs at hm ⊢ <;> cases hm <;> rfl

theorem forEach_addMetric {s s' : Selection} {metrics : List String}
    (h : forEach (addMetric catalog) s metrics = .ok s') :
    s' = metrics.foldl (Selection.showMetric catalog) s := by
  induction metrics generalizing s with
  | nil =>
    cases h
    rfl
  | cons id metrics ih =>
    obtain ⟨m, hm, hrest⟩ := forEach_cons_eq_ok.1 h
    simp only [addMetric, bind_eq_ok, found_eq_ok] at hm
    obtain ⟨metric, hmetric, hm⟩ := hm
    have hid : metric.metricId = id := lookup_eq_some hmetric
    subst hid
    rw [ih hrest, List.foldl_cons]
    congr 1
    unfold Selection.showMetric
    split_ifs at hm ⊢ with htaken
    · cases hm
      rfl
    · simp only [bind_eq_ok, pure_eq_ok] at hm
      obtain ⟨name, hname, rfl⟩ := hm
      obtain ⟨-, rfl⟩ := ident_eq_ok.1 hname
      simp [metricText, hmetric]

/-! ### Names -/

namespace Selection

variable {s : Selection} {hasMetrics : Bool}

/-- The names that are kept as taken are those that are selected. -/
structure Named (s : Selection) : Prop where
  mem_iff : ∀ n, n ∈ s.selectedColumns ↔ n ∈ s.select.map SelectItem.name
  nodup : s.selectedColumns.Nodup

theorem foldl_addExpr (exprs : List (Expr × String)) (s : Selection) :
    exprs.foldl addExpr s =
      ⟨(exprs.map fun e => SelectItem.expr e.1 e.2).foldl pushNew s.select,
        (exprs.map Prod.fst).foldl pushNew s.groupBy,
        (exprs.map Prod.snd).foldl pushNew s.selectedColumns⟩ := by
  induction exprs generalizing s with
  | nil => rfl
  | cons e exprs ih =>
    rw [List.foldl_cons, ih]
    rfl

theorem Named.showColumn (h : s.Named) (column : String) :
    (s.showColumn hasMetrics column).Named := by
  unfold Selection.showColumn
  split_ifs with htaken
  all_goals first
    | exact h
    | refine ⟨fun n => ?_, ?_⟩
      · simp [h.mem_iff n, SelectItem.name]
      · exact List.nodup_append.2 ⟨h.nodup, List.nodup_singleton column, by
          intro a ha b hb hab
          rw [List.mem_singleton.1 hb] at hab
          exact htaken (hab ▸ ha)⟩

theorem Named.showMetric (h : s.Named) (metricId : String) :
    (s.showMetric catalog metricId).Named := by
  unfold Selection.showMetric
  split_ifs with htaken
  · exact h
  · refine ⟨fun n => ?_, ?_⟩
    · simp [h.mem_iff n, SelectItem.name]
    · exact List.nodup_append.2 ⟨h.nodup, List.nodup_singleton metricId, by
        intro a ha b hb hab
        rw [List.mem_singleton.1 hb] at hab
        exact htaken (hab ▸ ha)⟩

theorem mem_showColumn {n column : String} :
    n ∈ (s.showColumn hasMetrics column).selectedColumns ↔
      n ∈ s.selectedColumns ∨ n = column := by
  unfold Selection.showColumn
  split_ifs with htaken
  · constructor
    · exact Or.inl
    · rintro (hn | rfl)
      · exact hn
      · exact htaken
  all_goals simp

theorem mem_showMetric {n metricId : String} :
    n ∈ (s.showMetric catalog metricId).selectedColumns ↔
      n ∈ s.selectedColumns ∨ n = metricId := by
  unfold Selection.showMetric
  split_ifs with htaken
  · constructor
    · exact Or.inl
    · rintro (hn | rfl)
      · exact hn
      · exact htaken
  · simp

theorem foldl_keeps {P : Selection → Prop} {step : Selection → String → Selection}
    (hstep : ∀ s id, P s → P (step s id)) {ids : List String} (h : P s) : P (ids.foldl step s) := by
  induction ids generalizing s with
  | nil => exact h
  | cons id ids ih => exact ih (hstep s id h)

theorem mem_foldl {step : Selection → String → Selection}
    (hstep : ∀ s id n, n ∈ (step s id).selectedColumns ↔ n ∈ s.selectedColumns ∨ n = id)
    {ids : List String} {n : String} :
    n ∈ (ids.foldl step s).selectedColumns ↔ n ∈ s.selectedColumns ∨ n ∈ ids := by
  induction ids generalizing s with
  | nil => simp
  | cons id ids ih => rw [List.foldl_cons, ih, hstep, List.mem_cons, or_assoc]

/-- The metrics write placeholders of their own when and only when one that is new does. -/
theorem strays_foldl_showMetric (metrics : List String) :
    (metrics.foldl (showMetric catalog) s).select.flatMap SelectItem.strays = [] ↔
      s.select.flatMap SelectItem.strays = [] ∧
        ∀ id ∈ metrics, id ∉ s.selectedColumns →
          (metricText catalog id).filterMap Token.number? = [] := by
  induction metrics generalizing s with
  | nil => simp
  | cons id metrics ih =>
    rw [List.foldl_cons, ih]
    by_cases htaken : id ∈ s.selectedColumns
    · have hsame : s.showMetric catalog id = s := if_pos htaken
      rw [hsame]
      apply and_congr_right
      intro _
      constructor
      · intro h other hother hnew
        rcases List.mem_cons.1 hother with rfl | hother
        · exact absurd htaken hnew
        · exact h other hother hnew
      · exact fun h other hother => h other (List.mem_cons_of_mem id hother)
    · have hselect : (s.showMetric catalog id).select =
          s.select ++ [.metric (metricText catalog id) id] := by
        rw [Selection.showMetric, if_neg htaken]
      have hstrays : (s.showMetric catalog id).select.flatMap SelectItem.strays = [] ↔
          s.select.flatMap SelectItem.strays = [] ∧
            (metricText catalog id).filterMap Token.number? = [] := by
        rw [hselect, List.flatMap_append, List.append_eq_nil_iff, List.flatMap_singleton]
        rfl
      rw [hstrays, and_assoc]
      apply and_congr_right
      intro _
      constructor
      · rintro ⟨hid, h⟩ other hother hnew
        rcases List.mem_cons.1 hother with rfl | hother
        · exact hid
        · by_cases hsame : other = id
          · exact hsame ▸ hid
          · exact h other hother fun hmem => (mem_showMetric.1 hmem).elim hnew hsame
      · intro h
        refine ⟨h id List.mem_cons_self htaken, fun other hother hnew => ?_⟩
        exact h other (List.mem_cons_of_mem id hother) fun hmem =>
          hnew (mem_showMetric.2 (Or.inl hmem))

end Selection

/-! ### The selection of a query -/

def queryNames (catalog : SemanticCatalog) (dataset : CatalogDataset)
    (query : SemanticReportQuery) : List String :=
  (dimensionExprs catalog dataset query.dimensions).map Prod.snd ++
    displayNames catalog query.displayColumns ++ query.metrics

def dimensionSelection (catalog : SemanticCatalog) (dataset : CatalogDataset)
    (query : SemanticReportQuery) : Selection :=
  (dimensionExprs catalog dataset query.dimensions).foldl Selection.addExpr ⟨[], [], []⟩

def columnSelection (catalog : SemanticCatalog) (dataset : CatalogDataset)
    (query : SemanticReportQuery) : Selection :=
  (displayNames catalog query.displayColumns).foldl
    (Selection.showColumn !query.metrics.isEmpty) (dimensionSelection catalog dataset query)

variable {s : Selection}

theorem compileSelection_eq_ok (h : compileSelection catalog dataset query = .ok s) :
    s = query.metrics.foldl (Selection.showMetric catalog)
        (columnSelection catalog dataset query) ∧
      (query.dimensions ≠ [] → dimensionExprs catalog dataset query.dimensions ≠ []) := by
  simp only [compileSelection, bind_eq_ok, pure_eq_ok, throwWhen_eq_ok] at h
  obtain ⟨dims, hdims, columns, hcolumns, metrics, hmetrics, -, -, rfl⟩ := h
  refine ⟨?_, fun hne => dimensionExprs_ne_nil hne hdims⟩
  rw [forEach_addMetric hmetrics, forEach_addDisplayColumn hcolumns, forEach_addDimension hdims]
  rfl

theorem mem_dimensionSelection_select {item : SelectItem} :
    item ∈ (dimensionSelection catalog dataset query).select ↔
      ∃ x ∈ dimensionExprs catalog dataset query.dimensions, SelectItem.expr x.1 x.2 = item := by
  rw [dimensionSelection, Selection.foldl_addExpr]
  simp [mem_foldl_pushNew]

theorem mem_dimensionSelection_groupBy {e : Expr} :
    e ∈ (dimensionSelection catalog dataset query).groupBy ↔
      e ∈ (dimensionExprs catalog dataset query.dimensions).map Prod.fst := by
  rw [dimensionSelection, Selection.foldl_addExpr]
  simp [mem_foldl_pushNew]

theorem mem_dimensionSelection_selectedColumns {n : String} :
    n ∈ (dimensionSelection catalog dataset query).selectedColumns ↔
      n ∈ (dimensionExprs catalog dataset query.dimensions).map Prod.snd := by
  rw [dimensionSelection, Selection.foldl_addExpr]
  simp [mem_foldl_pushNew]

theorem named_dimensionSelection : (dimensionSelection catalog dataset query).Named where
  mem_iff := by
    intro n
    rw [mem_dimensionSelection_selectedColumns, List.mem_map, List.mem_map]
    constructor
    · rintro ⟨x, hx, rfl⟩
      exact ⟨_, mem_dimensionSelection_select.2 ⟨x, hx, rfl⟩, rfl⟩
    · rintro ⟨item, hitem, rfl⟩
      obtain ⟨x, hx, rfl⟩ := mem_dimensionSelection_select.1 hitem
      exact ⟨x, hx, rfl⟩
  nodup := by
    rw [dimensionSelection, Selection.foldl_addExpr]
    exact nodup_foldl_pushNew List.nodup_nil

theorem named_columnSelection : (columnSelection catalog dataset query).Named :=
  Selection.foldl_keeps (fun _ column hs => hs.showColumn column) named_dimensionSelection

theorem mem_columnSelection {n : String} :
    n ∈ (columnSelection catalog dataset query).selectedColumns ↔
      n ∈ (dimensionExprs catalog dataset query.dimensions).map Prod.snd ∨
        n ∈ displayNames catalog query.displayColumns := by
  rw [columnSelection, Selection.mem_foldl fun _ _ _ => Selection.mem_showColumn,
    mem_dimensionSelection_selectedColumns]

theorem named_compileSelection (h : compileSelection catalog dataset query = .ok s) :
    s.Named := by
  rw [(compileSelection_eq_ok h).1]
  exact Selection.foldl_keeps (fun _ id hs => hs.showMetric id) named_columnSelection

theorem mem_compileSelection (h : compileSelection catalog dataset query = .ok s) {n : String} :
    n ∈ s.selectedColumns ↔ n ∈ queryNames catalog dataset query := by
  rw [(compileSelection_eq_ok h).1, Selection.mem_foldl fun _ _ _ => Selection.mem_showMetric,
    mem_columnSelection, queryNames, List.mem_append, List.mem_append]

/-- A property of selections that each kind of step keeps. -/
theorem compileSelection_keeps {P : Selection → Prop}
    (h : compileSelection catalog dataset query = .ok s)
    (hdimensions : P (dimensionSelection catalog dataset query))
    (hcolumn : ∀ s column, P s → P (s.showColumn (!query.metrics.isEmpty) column))
    (hmetric : ∀ s metricId, P s → P (s.showMetric catalog metricId)) : P s := by
  rw [(compileSelection_eq_ok h).1]
  exact Selection.foldl_keeps hmetric (Selection.foldl_keeps hcolumn hdimensions)

theorem compileDimension_mem {dimension : CatalogDimension} {exprs : List (Expr × String)}
    (h : compileDimension catalog dataset dimension = .ok exprs) {column n : String}
    (hmem : (Expr.column column, n) ∈ exprs) : n = column := by
  unfold compileDimension at h
  split_ifs at h
  · simp only [bind_eq_ok, pure_eq_ok] at h
    obtain ⟨_, -, _, -, rfl⟩ := h
    simp at hmem
  · simp only [bind_eq_ok, pure_eq_ok] at h
    obtain ⟨_, -, _, -, rfl⟩ := h
    simp at hmem
  · simp only [bind_eq_ok, pure_eq_ok] at h
    obtain ⟨_, -, rfl⟩ := h
    obtain ⟨other, -, heq⟩ := List.mem_map.1 hmem
    cases heq
    rfl

/-- A column that dimensions group by is selected under its own name. -/
theorem eq_of_mem_dimensionExprs {dimensions : List String} {column n : String}
    (h : (Expr.column column, n) ∈ dimensionExprs catalog dataset dimensions) : n = column := by
  obtain ⟨id, -, hmem⟩ := List.mem_flatMap.1 h
  cases hdimension : catalog.getDimension id with
  | none => simp [hdimension] at hmem
  | some dimension =>
    cases hexprs : compileDimension catalog dataset dimension with
    | error e => simp [hdimension, hexprs, Except.toOption] at hmem
    | ok exprs =>
      simp only [hdimension, hexprs, Except.toOption, Option.bind_some, Option.getD_some] at hmem
      exact compileDimension_mem hexprs hmem

end Forecast.Reporting
