import Forecast.Lib.KeyedTable
import Forecast.Reporting.ChangeRanking
import Forecast.Reporting.ScopeLaw

/-!
# Change rankings compare every key

A ranking is what both periods give by themselves, joined by key, as long as neither period has
more keys than its statement returns and no two keys that differ are joined by their texts.
-/

namespace Forecast.Reporting

open Placeholders Transactions OuterJoin

variable {catalog : SemanticCatalog} {today : ℤ} {query : SemanticReportQuery}
variable {security : ReportingSecurityContext} {dataset : CatalogDataset}

/-! ### What the statements select -/

/-- The statement is grouped by the dimensions, and selects them and the metrics by name. -/
structure SelectsByName (catalog : SemanticCatalog) (query : SemanticReportQuery)
    (dataset : CatalogDataset) (s : Statement) : Prop where
  grouped : ∀ e, e ∈ s.groupBy ↔ e ∈ (dimensionExprs catalog dataset query.dimensions).map Prod.fst
  keys : ∀ x ∈ dimensionExprs catalog dataset query.dimensions,
    (s.select.find? fun item => item.name = x.2) = some (.expr x.1 x.2)
  metrics : ∀ metricId ∈ query.metrics,
    (s.select.find? fun item => item.name = metricId) =
      some (.metric (metricText catalog metricId) metricId)

theorem mem_keyColumns {column : String} :
    column ∈ keyColumns catalog query dataset ↔
      column ∈ (dimensionExprs catalog dataset query.dimensions).map Prod.snd := by
  rw [keyColumns, mem_foldl_pushNew]
  simp

section Selected

variable {range : DateRange} {s : Selection}

theorem columnSelection_aggregated :
    columnSelection catalog dataset (query.aggregated.during range) =
      dimensionSelection catalog dataset query := rfl

theorem groupBy_foldl_showMetric (metrics : List String) (s : Selection) :
    (metrics.foldl (Selection.showMetric catalog) s).groupBy = s.groupBy := by
  refine Selection.foldl_keeps (P := fun other => other.groupBy = s.groupBy) ?_ rfl
  intro other metricId h
  unfold Selection.showMetric
  split_ifs
  · exact h
  · exact h

theorem selectedColumns_foldl_showMetric (metrics : List String) (s : Selection) :
    ∃ more, (metrics.foldl (Selection.showMetric catalog) s).selectedColumns =
      s.selectedColumns ++ more ∧ ∀ metricId ∈ more, metricId ∈ metrics := by
  induction metrics generalizing s with
  | nil => exact ⟨[], (List.append_nil _).symm, List.forall_mem_nil _⟩
  | cons id metrics ih =>
    obtain ⟨more, hmore, hall⟩ := ih (s.showMetric catalog id)
    rw [List.foldl_cons, hmore]
    unfold Selection.showMetric
    split_ifs
    · exact ⟨more, rfl, fun m hm => List.mem_cons_of_mem id (hall m hm)⟩
    · refine ⟨id :: more, by simp, fun m hm => ?_⟩
      rcases List.mem_cons.1 hm with rfl | hm
      · exact List.mem_cons_self
      · exact List.mem_cons_of_mem id (hall m hm)

theorem mem_select_cases (h : compileSelection catalog dataset (query.aggregated.during range) =
    .ok s) {item : SelectItem} (hitem : item ∈ s.select) :
    (∃ x ∈ dimensionExprs catalog dataset query.dimensions, item = .expr x.1 x.2) ∨
      ∃ metricId, item = .metric (metricText catalog metricId) metricId := by
  have hall : ∀ item ∈ s.select,
      (∃ x ∈ dimensionExprs catalog dataset query.dimensions, item = .expr x.1 x.2) ∨
        ∃ metricId, item = .metric (metricText catalog metricId) metricId := by
    rw [(compileSelection_eq_ok h).1, columnSelection_aggregated]
    apply Selection.foldl_keeps (P := fun s : Selection => ∀ item ∈ s.select,
      (∃ x ∈ dimensionExprs catalog dataset query.dimensions, item = .expr x.1 x.2) ∨
        ∃ metricId, item = .metric (metricText catalog metricId) metricId)
    · intro s metricId hs
      unfold Selection.showMetric
      split_ifs
      · exact hs
      · intro item hitem
        rcases List.mem_append.1 hitem with hitem | hnew
        · exact hs item hitem
        · exact .inr ⟨metricId, List.mem_singleton.1 hnew⟩
    · intro item hitem
      obtain ⟨x, hx, rfl⟩ := mem_dimensionSelection_select.1 hitem
      exact .inl ⟨x, hx, rfl⟩
  exact hall item hitem

theorem selectsByName_compileSelection
    (h : compileSelection catalog dataset (query.aggregated.during range) = .ok s)
    (hapart : SelectsApart catalog dataset query.aggregated)
    (hmetrics : ∀ m ∈ query.metrics, m ∉ keyColumns catalog query dataset) {t : Statement}
    (hselect : t.select = s.select) (hgroupBy : t.groupBy = s.groupBy) :
    SelectsByName catalog query dataset t where
  grouped := by
    intro e
    rw [hgroupBy, (compileSelection_eq_ok h).1, groupBy_foldl_showMetric,
      columnSelection_aggregated]
    exact mem_dimensionSelection_groupBy
  keys := by
    intro x hx
    rw [hselect]
    exact KeyedTable.lookup_of_mem (nodup_names h hapart.exprs) (expr_mem_select h hx)
  metrics := by
    intro metricId hmetric
    have hnamed : metricId ∈ s.select.map SelectItem.name := by
      rw [← (named_compileSelection h).mem_iff, mem_compileSelection h]
      exact List.mem_append_right _ hmetric
    obtain ⟨item, hitem, rfl⟩ := List.mem_map.1 hnamed
    rcases mem_select_cases h hitem with ⟨x, hx, rfl⟩ | ⟨metricId, rfl⟩
    · exact absurd (mem_keyColumns.2 (List.mem_map_of_mem hx)) (hmetrics _ hmetric)
    · rw [hselect]
      exact KeyedTable.lookup_of_mem (nodup_names h hapart.exprs) hitem

theorem keyColumns_eq
    (h : compileSelection catalog dataset (query.aggregated.during range) = .ok s)
    (hmetrics : ∀ m ∈ query.metrics, m ∉ keyColumns catalog query dataset) :
    (s.selectedColumns.filter fun column => !query.metrics.contains column) =
      keyColumns catalog query dataset := by
  obtain ⟨more, hmore, hall⟩ : ∃ more,
      (query.metrics.foldl (Selection.showMetric catalog)
        (dimensionSelection catalog dataset query)).selectedColumns =
          (dimensionSelection catalog dataset query).selectedColumns ++ more ∧
        ∀ metricId ∈ more, metricId ∈ query.metrics :=
    selectedColumns_foldl_showMetric query.metrics _
  have hdims : (dimensionSelection catalog dataset query).selectedColumns =
      keyColumns catalog query dataset := by
    rw [dimensionSelection, Selection.foldl_addExpr]
    rfl
  have hcolumns : s.selectedColumns = keyColumns catalog query dataset ++ more := by
    rw [(compileSelection_eq_ok h).1, columnSelection_aggregated, ← hdims, ← hmore]
    rfl
  rw [hcolumns, List.filter_append, List.filter_eq_self.2, List.filter_eq_nil_iff.2,
    List.append_nil]
  · intro m hm
    simpa using hall m hm
  · intro column hcolumn
    simpa using fun hm => hmetrics column hm hcolumn

end Selected

/-! ### Raised placeholders -/

section Rebase

variable {s : Statement} {k : ℕ}

theorem find?_rebase (name : String) :
    ((s.rebase k).select.find? fun item => item.name = name) =
      (s.select.find? fun item => item.name = name).map (SelectItem.rebase k) := by
  rw [Statement.rebase, List.find?_map]
  congr 2
  funext item
  rw [Function.comp_apply, SelectItem.name_rebase]

theorem map_rebase_tokens {tokens : List Token} (h : tokens.filterMap Token.number? = []) :
    tokens.map (Token.rebase k) = tokens := by
  rw [List.filterMap_eq_nil_iff] at h
  conv_rhs => rw [← List.map_id tokens]
  apply List.map_congr_left
  intro token htoken
  cases token with
  | char c => rfl
  | placeholder n => cases h _ htoken

/-- A metric without placeholders of its own is the same in both periods. -/
theorem SelectsByName.rebase (h : SelectsByName catalog query dataset s)
    (htexts : ∀ m ∈ query.metrics, (metricText catalog m).filterMap Token.number? = []) :
    SelectsByName catalog query dataset (s.rebase k) where
  grouped := h.grouped
  keys := by
    intro x hx
    rw [find?_rebase, h.keys x hx]
    rfl
  metrics := by
    intro metricId hmetric
    rw [find?_rebase, h.metrics metricId hmetric, Option.map_some, SelectItem.rebase,
      map_rebase_tokens (htexts metricId hmetric)]

end Rebase

/-! ### Groups and their cells -/

section Groups

variable {Cell Key : Type} {evaluator : Evaluator Cell Key} {s : Statement}
variable {rows group : List (String → Cell)} {row : String → Cell}

/-- The expression of a column, where no two expressions have its name. -/
theorem keyExpr_eq (hapart : SelectsApart catalog dataset query.aggregated)
    {x : Expr × String} (hx : x ∈ dimensionExprs catalog dataset query.dimensions) :
    keyExpr catalog query dataset x.2 = some x.1 := by
  unfold keyExpr
  cases hfind : (dimensionExprs catalog dataset query.dimensions).find? fun y => y.2 = x.2 with
  | none =>
    have hnone := List.find?_eq_none.1 hfind x hx
    simp at hnone
  | some y =>
    have hname : y.2 = x.2 := by simpa using List.find?_some hfind
    rw [Option.map_some, hapart.exprs y (List.mem_of_find?_eq_some hfind) x hx hname]

/-- Rows have one key when the statement groups them together. -/
theorem dimensionKey_eq_iff (hapart : SelectsApart catalog dataset query.aggregated)
    (hselects : SelectsByName catalog query dataset s) (a b : String → Cell) :
    (s.groupBy.map fun e => evaluator.value e a) = (s.groupBy.map fun e => evaluator.value e b) ↔
      dimensionKey catalog query evaluator dataset a =
        dimensionKey catalog query evaluator dataset b := by
  rw [List.map_inj_left, dimensionKey, dimensionKey, List.map_inj_left]
  constructor
  · intro h column hcolumn
    obtain ⟨x, hx, rfl⟩ := List.mem_map.1 (mem_keyColumns.1 hcolumn)
    rw [keyExpr_eq hapart hx]
    exact h x.1 ((hselects.grouped x.1).2 (List.mem_map_of_mem hx))
  · intro h e he
    obtain ⟨x, hx, rfl⟩ := List.mem_map.1 ((hselects.grouped e).1 he)
    have hvalue := h x.2 (mem_keyColumns.2 (List.mem_map_of_mem hx))
    rw [keyExpr_eq hapart hx] at hvalue
    exact hvalue

theorem map_keyCell (hapart : SelectsApart catalog dataset query.aggregated)
    (hselects : SelectsByName catalog query dataset s) (hrow : group.head? = some row) :
    (keyColumns catalog query dataset).map (evaluator.keyCell s group) =
      dimensionKey catalog query evaluator dataset row := by
  rw [dimensionKey]
  apply List.map_congr_left
  intro column hcolumn
  obtain ⟨x, hx, rfl⟩ := List.mem_map.1 (mem_keyColumns.1 hcolumn)
  rw [keyExpr_eq hapart hx, Evaluator.keyCell, hselects.keys x hx, hrow]
  rfl

theorem metricCell_eq (hselects : SelectsByName catalog query dataset s) {metricId : String}
    (hmetric : metricId ∈ query.metrics) :
    evaluator.metricCell s rows group metricId =
      evaluator.aggregate (metricText catalog metricId) rows group := by
  rw [Evaluator.metricCell, hselects.metrics metricId hmetric]

def rowsOfKey [DecidableEq Key] (catalog : SemanticCatalog) (query : SemanticReportQuery)
    (evaluator : Evaluator Cell Key) (dataset : CatalogDataset) (rows : List (String → Cell))
    (key : List (Option Key)) : List (String → Cell) :=
  rows.filter fun row => dimensionKey catalog query evaluator dataset row = key

variable [DecidableEq Key]

theorem groups_eq (hapart : SelectsApart catalog dataset query.aggregated)
    (hselects : SelectsByName catalog query dataset s) (params : List Value) :
    evaluator.groups s params rows =
      ((evaluator.passed s params rows).map
        (dimensionKey catalog query evaluator dataset)).dedup.map
          (rowsOfKey catalog query evaluator dataset (evaluator.passed s params rows)) := by
  rw [Evaluator.groups, classes_congr fun a _ b _ => dimensionKey_eq_iff hapart hselects a b,
    classes_eq]
  rfl

theorem exists_head?_rowsOfKey {key : List (Option Key)}
    (h : key ∈ rows.map (dimensionKey catalog query evaluator dataset)) :
    ∃ row, (rowsOfKey catalog query evaluator dataset rows key).head? = some row ∧
      row ∈ rows ∧ dimensionKey catalog query evaluator dataset row = key := by
  obtain ⟨row, hrow, hkey⟩ := List.mem_map.1 h
  have hmem : row ∈ rowsOfKey catalog query evaluator dataset rows key :=
    List.mem_filter.2 ⟨hrow, decide_eq_true hkey⟩
  cases hrows : rowsOfKey catalog query evaluator dataset rows key with
  | nil =>
    rw [hrows] at hmem
    exact absurd hmem List.not_mem_nil
  | cons first rest =>
    have hfirst : first ∈ rowsOfKey catalog query evaluator dataset rows key := by
      rw [hrows]
      exact List.mem_cons_self
    obtain ⟨hin, hof⟩ := List.mem_filter.1 hfirst
    exact ⟨first, rfl, hin, of_decide_eq_true hof⟩

theorem rowsOfKey_eq_nil {key : List (Option Key)}
    (h : key ∉ rows.map (dimensionKey catalog query evaluator dataset)) :
    rowsOfKey catalog query evaluator dataset rows key = [] := by
  apply List.filter_eq_nil_iff.2
  intro row hrow hof
  exact h (List.mem_map.2 ⟨row, hrow, of_decide_eq_true hof⟩)

end Groups

/-! ### The join -/

section Join

variable {Cell Key : Type} {evaluator : Evaluator Cell Key}
variable {current previous : Statement} {cur prev rows : List (String → Cell)}
variable {a b : String → Cell}

theorem joins_iff (hapart : SelectsApart catalog dataset query.aggregated)
    (hcurrent : SelectsByName catalog query dataset current)
    (hprevious : SelectsByName catalog query dataset previous) (ha : cur.head? = some a)
    (hb : prev.head? = some b) :
    evaluator.joins current previous (keyColumns catalog query dataset) cur prev = true ↔
      (dimensionKey catalog query evaluator dataset a).map evaluator.coalescedText =
        (dimensionKey catalog query evaluator dataset b).map evaluator.coalescedText := by
  rw [← map_keyCell hapart hcurrent ha, ← map_keyCell hapart hprevious hb, List.map_map,
    List.map_map, List.map_inj_left, Evaluator.joins, List.all_eq_true]
  simp only [decide_eq_true_eq, Function.comp_apply]

/-- A group, or nothing where there are no rows. -/
def nonempty? {α : Type} : List α → Option (List α)
  | [] => none
  | group => some group

theorem getD_metricCell (hcurrent : SelectsByName catalog query dataset current)
    {metricId : String} (hmetric : metricId ∈ query.metrics) (group : List (String → Cell)) :
    ((nonempty? group).bind fun cur => evaluator.metricCell current rows cur metricId).getD 0 =
      total catalog evaluator metricId rows group := by
  cases group with
  | nil => rfl
  | cons first rest =>
    change (evaluator.metricCell current rows (first :: rest) metricId).getD 0 = _
    rw [metricCell_eq hcurrent hmetric]
    rfl

theorem map_keyCell_or {key : List (Option Key)} {group group' : List (String → Cell)}
    (h : ∀ first rest, group = first :: rest →
      (keyColumns catalog query dataset).map (evaluator.keyCell current group) = key)
    (h' : ∀ first rest, group' = first :: rest →
      (keyColumns catalog query dataset).map (evaluator.keyCell previous group') = key)
    (hne : group ≠ [] ∨ group' ≠ []) :
    ((keyColumns catalog query dataset).map fun column =>
      ((nonempty? group).bind fun cur => evaluator.keyCell current cur column).or
        ((nonempty? group').bind fun prev => evaluator.keyCell previous prev column)) = key := by
  cases group with
  | nil =>
    cases group' with
    | nil => simp at hne
    | cons first' rest' => exact h' first' rest' rfl
  | cons first rest =>
    have hkey := h first rest rfl
    cases group' with
    | nil =>
      rw [← hkey]
      apply List.map_congr_left
      intro column _
      exact Option.or_none
    | cons first' rest' =>
      rw [← hkey]
      have hsame := List.map_inj_left.1 (hkey.trans (h' first' rest' rfl).symm)
      apply List.map_congr_left
      intro column hcolumn
      change (evaluator.keyCell current _ column).or (evaluator.keyCell previous _ column) = _
      rw [← hsame column hcolumn, Option.or_self]

variable [DecidableEq Key]

theorem nonempty?_rowsOfKey {key : List (Option Key)}
    (h : key ∈ (rows.map (dimensionKey catalog query evaluator dataset)).dedup) :
    nonempty? (rowsOfKey catalog query evaluator dataset rows key) =
      some (rowsOfKey catalog query evaluator dataset rows key) := by
  obtain ⟨row, hhead, -⟩ := exists_head?_rowsOfKey (List.mem_dedup.1 h)
  cases hrows : rowsOfKey catalog query evaluator dataset rows key with
  | nil => simp [hrows] at hhead
  | cons first rest => rfl

theorem nonempty?_rowsOfKey_eq_none {key : List (Option Key)}
    (h : key ∉ (rows.map (dimensionKey catalog query evaluator dataset)).dedup) :
    nonempty? (rowsOfKey catalog query evaluator dataset rows key) = none := by
  rw [rowsOfKey_eq_nil (mt List.mem_dedup.2 h)]
  rfl

theorem changeRow_rowsOfKey (hapart : SelectsApart catalog dataset query.aggregated)
    (hcurrent : SelectsByName catalog query dataset current)
    (hprevious : SelectsByName catalog query dataset previous) {key : List (Option Key)}
    (hkey : key ∈ cur.map (dimensionKey catalog query evaluator dataset) ∨
      key ∈ prev.map (dimensionKey catalog query evaluator dataset)) :
    evaluator.changeRow current previous (keyColumns catalog query dataset) query.metrics cur prev
        (nonempty? (rowsOfKey catalog query evaluator dataset cur key),
          nonempty? (rowsOfKey catalog query evaluator dataset prev key)) =
      rankedRow catalog query evaluator dataset cur prev key := by
  have hshows : ∀ {s : Statement}, SelectsByName catalog query dataset s →
      ∀ (rows : List (String → Cell)) first rest,
      rowsOfKey catalog query evaluator dataset rows key = first :: rest →
        (keyColumns catalog query dataset).map (evaluator.keyCell s
          (rowsOfKey catalog query evaluator dataset rows key)) = key := by
    intro s hs rows first rest hrows
    have hin : first ∈ rowsOfKey catalog query evaluator dataset rows key := by
      rw [hrows]
      exact List.mem_cons_self
    have hhead : (rowsOfKey catalog query evaluator dataset rows key).head? = some first := by
      rw [hrows]
      rfl
    rw [map_keyCell hapart hs hhead]
    exact of_decide_eq_true (List.mem_filter.1 hin).2
  have hne : rowsOfKey catalog query evaluator dataset cur key ≠ [] ∨
      rowsOfKey catalog query evaluator dataset prev key ≠ [] := by
    have hsome : ∀ rows : List (String → Cell),
        key ∈ rows.map (dimensionKey catalog query evaluator dataset) →
          rowsOfKey catalog query evaluator dataset rows key ≠ [] := by
      intro rows hrows hnil
      obtain ⟨row, hhead, -⟩ := exists_head?_rowsOfKey hrows
      simp [hnil] at hhead
    exact hkey.imp (hsome cur) (hsome prev)
  have hmetrics : (query.metrics.map fun metricId =>
      (((nonempty? (rowsOfKey catalog query evaluator dataset cur key)).bind fun group =>
          evaluator.metricCell current cur group metricId).getD 0,
        ((nonempty? (rowsOfKey catalog query evaluator dataset prev key)).bind fun group =>
          evaluator.metricCell previous prev group metricId).getD 0)) =
      query.metrics.map fun metricId =>
        (total catalog evaluator metricId cur (rowsOfKey catalog query evaluator dataset cur key),
          total catalog evaluator metricId prev
            (rowsOfKey catalog query evaluator dataset prev key)) := by
    apply List.map_congr_left
    intro metricId hmetric
    rw [getD_metricCell hcurrent hmetric, getD_metricCell hprevious hmetric]
  rw [Evaluator.changeRow, hmetrics,
    map_keyCell_or (hshows hcurrent cur) (hshows hprevious prev) hne]
  rfl

theorem joinedRows_perm (hapart : SelectsApart catalog dataset query.aggregated)
    (hcurrent : SelectsByName catalog query dataset current)
    (hprevious : SelectsByName catalog query dataset previous)
    (htexts : ∀ a ∈ cur, ∀ b ∈ prev,
      (dimensionKey catalog query evaluator dataset a).map evaluator.coalescedText =
        (dimensionKey catalog query evaluator dataset b).map evaluator.coalescedText →
      dimensionKey catalog query evaluator dataset a =
        dimensionKey catalog query evaluator dataset b)
    {groups groups' : List (List (String → Cell))}
    (hgroups : groups.Perm ((cur.map (dimensionKey catalog query evaluator dataset)).dedup.map
      (rowsOfKey catalog query evaluator dataset cur)))
    (hgroups' : groups'.Perm ((prev.map (dimensionKey catalog query evaluator dataset)).dedup.map
      (rowsOfKey catalog query evaluator dataset prev))) :
    (evaluator.joinedRows current previous (keyColumns catalog query dataset) query.metrics cur prev
      groups groups').Perm (rankedRows catalog query evaluator dataset cur prev) := by
  have hon : ∀ k ∈ (cur.map (dimensionKey catalog query evaluator dataset)).dedup,
      ∀ l ∈ (prev.map (dimensionKey catalog query evaluator dataset)).dedup,
      evaluator.joins current previous (keyColumns catalog query dataset)
        (rowsOfKey catalog query evaluator dataset cur k)
        (rowsOfKey catalog query evaluator dataset prev l) = true ↔ k = l := by
    intro k hk l hl
    obtain ⟨a, ha, hain, rfl⟩ := exists_head?_rowsOfKey (List.mem_dedup.1 hk)
    obtain ⟨b, hb, hbin, rfl⟩ := exists_head?_rowsOfKey (List.mem_dedup.1 hl)
    rw [joins_iff hapart hcurrent hprevious ha hb]
    exact ⟨htexts a hain b hbin, congrArg (List.map evaluator.coalescedText)⟩
  refine ((fullJoin_perm hgroups hgroups').map _).trans ?_
  rw [fullJoin_map (List.nodup_dedup _) hon (fun _ h => nonempty?_rowsOfKey h)
    (fun _ h => nonempty?_rowsOfKey_eq_none h) (fun _ h => nonempty?_rowsOfKey h)
    (fun _ h => nonempty?_rowsOfKey_eq_none h), List.map_map]
  have hmem : ∀ key, key ∈ ((cur ++ prev).map
      (dimensionKey catalog query evaluator dataset)).dedup ↔
        key ∈ (cur.map (dimensionKey catalog query evaluator dataset)).dedup ∨
          key ∈ (prev.map (dimensionKey catalog query evaluator dataset)).dedup := by
    intro key
    rw [List.mem_dedup, List.mem_dedup, List.mem_dedup, List.map_append, List.mem_append]
  refine ((keys_perm (List.nodup_dedup _) (List.nodup_dedup _) (List.nodup_dedup _)
    hmem).map _).trans (List.Perm.of_eq ?_)
  apply List.map_congr_left
  intro key hkey
  apply changeRow_rowsOfKey hapart hcurrent hprevious
  exact ((hmem key).1 hkey).imp List.mem_dedup.1 List.mem_dedup.1

end Join

/-! ### The compiled ranking -/

theorem passes_eq_means {Cell : Type} {engine : Engine Cell} {row : String → Cell}
    {params : List Value} {s : Statement}
    (h : ∀ hole ∈ s.holes, valueAt params hole.index = some hole.builtFor) :
    s.passes engine params row = s.conditions.all fun c => c.means engine row := by
  rw [Statement.passes, Bool.eq_iff_iff, List.all_eq_true, List.all_eq_true]
  refine forall₂_congr fun c hc => ?_
  rw [Condition.holds_eq_means]
  intro hole hhole
  exact h hole (List.mem_append_left _ (List.mem_flatMap.2 ⟨c, hc, hhole⟩))

/-- A statement that is raised and one that runs by itself read the same rows. -/
theorem passed_rebase {Cell Key : Type} {evaluator : Evaluator Cell Key} {s : Statement} {k : ℕ}
    {params params' : List Value}
    (h : ∀ hole ∈ (s.rebase k).holes, valueAt params hole.index = some hole.builtFor)
    (h' : ∀ hole ∈ s.holes, valueAt params' hole.index = some hole.builtFor)
    (rows : List (String → Cell)) :
    evaluator.passed (s.rebase k) params rows = evaluator.passed s params' rows := by
  apply List.filter_congr
  intro row _
  rw [passes_eq_means h, passes_eq_means h', Statement.rebase, List.all_map]
  congr 1
  funext c
  exact Condition.means_rebase evaluator.toEngine row k c

theorem passed_eq {Cell Key : Type} {evaluator : Evaluator Cell Key} {s : Statement}
    {params params' : List Value}
    (h : ∀ hole ∈ s.holes, valueAt params hole.index = some hole.builtFor)
    (h' : ∀ hole ∈ s.holes, valueAt params' hole.index = some hole.builtFor)
    (rows : List (String → Cell)) :
    evaluator.passed s params rows = evaluator.passed s params' rows := by
  apply List.filter_congr
  intro row _
  rw [passes_eq_means h, passes_eq_means h']

theorem rowLimit_natCast (n : ℕ) : rowLimit (some (.number n)) = n := by
  rw [rowLimit, Rat.num_natCast, Int.toNat_natCast]

theorem compileStatement_selection {range : DateRange} {one : CompiledStatement}
    (h : compileStatement catalog today (query.aggregated.during range) dataset security =
      .ok one) :
    ∃ s, compileSelection catalog dataset (query.aggregated.during range) = .ok s ∧
      one.statement.select = s.select ∧ one.statement.groupBy = s.groupBy ∧
      one.selectedColumns = s.selectedColumns ∧
      one.statement.limit.builtFor = .number (50000 : ℕ) := by
  simp only [compileStatement, bind_eq_ok, pure_eq_ok] at h
  obtain ⟨⟨clause, applied⟩, -, s, hs, view, -, orderBy, -, rfl⟩ := h
  exact ⟨s, hs, rfl, rfl, rfl, rfl⟩

theorem compile_changeRanking {compiled : CompiledSql} {comparison : SemanticComparison}
    (h : compile catalog today query security = .ok compiled)
    (hshape : query.enabledComparison = some comparison)
    (hkind : query.ranksChange comparison = true) :
    ∃ dataset current previous range range',
      comparedPeriods catalog today query security = .ok (dataset, current, previous) ∧
      compileStatement catalog today (query.aggregated.during range) dataset security =
        .ok current ∧
      compileStatement catalog today (query.aggregated.during range') dataset security =
        .ok previous ∧
      compiled.report =
        .changeRanking current.statement (previous.statement.rebase current.params.length)
          (current.selectedColumns.filter fun column => !query.metrics.contains column)
          query.metrics query.ascending
          (push (current.params ++ previous.params) (.number query.limit)).1 := by
  simp only [compile, bind_eq_ok, found_eq_ok] at h
  obtain ⟨dataset, hdataset, h⟩ := h
  rw [hshape] at h
  dsimp only at h
  rw [if_pos hkind] at h
  simp only [compileChangeRanking, bind_eq_ok, pure_eq_ok] at h
  obtain ⟨⟨range, range'⟩, hranges, current, hcurrent, previous, hprevious, -, -, -, -, -, -,
    h⟩ := h
  cases h
  refine ⟨dataset, current, previous, range, range', ?_, hcurrent, hprevious, rfl⟩
  simp only [comparedPeriods, bind_eq_ok, pure_eq_ok, found_eq_ok]
  exact ⟨dataset, hdataset, comparison, hshape, (range, range'), hranges, current, hcurrent,
    previous, hprevious, rfl⟩

/-- The names of a ranking stand apart, those of the dimensions from those of the metrics too. -/
structure NamesApart (catalog : SemanticCatalog) (query : SemanticReportQuery)
    (dataset : CatalogDataset) : Prop where
  selects : SelectsApart catalog dataset query.aggregated
  /-- The names that the ranking is ordered by stand for one column. -/
  ranks : ∀ name ∈ "change" :: (keyColumns catalog query dataset).take 1,
    ((keyColumns catalog query dataset ++
      query.metrics.flatMap (fun m => [m, "previous_" ++ m]) ++
        ["change", "change_pct"]).map folded).count (folded name) = 1
  metrics : ∀ m ∈ query.metrics, m ∉ keyColumns catalog query dataset

theorem NamesApart.texts (h : NamesApart catalog query dataset) :
    ∀ m ∈ query.metrics, (metricText catalog m).filterMap Token.number? = [] := by
  intro m hm
  refine h.selects.texts m hm (fun hname => ?_) List.not_mem_nil
  exact h.metrics m hm (mem_keyColumns.2 hname)

section Compiled

variable {Cell Key : Type} [DecidableEq Key] {evaluator : Evaluator Cell Key}
variable {compiled : CompiledSql} {comparison : SemanticComparison} {rows : List (String → Cell)}
variable {current previous : CompiledStatement}

def periodGroups (catalog : SemanticCatalog) (query : SemanticReportQuery)
    (evaluator : Evaluator Cell Key) (dataset : CatalogDataset) (rows : List (String → Cell))
    (period : CompiledStatement) : List (List (String → Cell)) :=
  ((period.periodRows evaluator rows).map (dimensionKey catalog query evaluator dataset)).dedup.map
    (rowsOfKey catalog query evaluator dataset (period.periodRows evaluator rows))

theorem returns_iff (h : compile catalog today query security = .ok compiled)
    (hshape : query.enabledComparison = some comparison)
    (hkind : query.ranksChange comparison = true)
    (hperiods : comparedPeriods catalog today query security = .ok (dataset, current, previous))
    (hapart : NamesApart catalog query dataset) (shown : List (ChangeRow Key)) :
    (SelectsByName catalog query dataset current.statement ∧
      SelectsByName catalog query dataset
        (previous.statement.rebase current.params.length)) ∧
    (evaluator.Returns compiled rows shown ↔ ∃ cur prev,
      Shows (fun _ _ => True) 50000 (periodGroups catalog query evaluator dataset rows current)
        cur ∧
      Shows (fun _ _ => True) 50000 (periodGroups catalog query evaluator dataset rows previous)
        prev ∧
      Shows (evaluator.changeLe query.ascending) query.limit
        (evaluator.joinedRows current.statement
          (previous.statement.rebase current.params.length) (keyColumns catalog query dataset)
          query.metrics (current.periodRows evaluator rows) (previous.periodRows evaluator rows)
          cur prev) shown) := by
  obtain ⟨dataset', current', previous', range, range', hperiods', hcurrent, hprevious, hreport⟩ :=
    compile_changeRanking h hshape hkind
  rw [hperiods] at hperiods'
  cases hperiods'
  obtain ⟨s, hs, hselect, hgroupBy, hcolumns, hlimit⟩ := compileStatement_selection hcurrent
  obtain ⟨s', hs', hselect', hgroupBy', -, hlimit'⟩ := compileStatement_selection hprevious
  have hbyName := selectsByName_compileSelection hs hapart.selects hapart.metrics hselect hgroupBy
  have hbyName' := (selectsByName_compileSelection hs' hapart.selects hapart.metrics hselect'
    hgroupBy').rebase (k := current.params.length) hapart.texts
  refine ⟨⟨hbyName, hbyName'⟩, ?_⟩
  -- the placeholders of each statement are run with their own values
  have hbound := (numbered_compile h).bound
  rw [hreport] at hbound
  have hholes : ∀ hole ∈ current.statement.holes,
      valueAt compiled.params hole.index = some hole.builtFor := fun hole hhole =>
    hbound hole (List.mem_append_left _ (List.mem_append_left _ hhole))
  have hholes' : ∀ hole ∈ (previous.statement.rebase current.params.length).holes,
      valueAt compiled.params hole.index = some hole.builtFor := fun hole hhole =>
    hbound hole (List.mem_append_left _ (List.mem_append_right _ hhole))
  have hrows : evaluator.passed current.statement compiled.params rows =
      current.periodRows evaluator rows :=
    passed_eq hholes (numbered_compileStatement hcurrent).bound rows
  have hrows' : evaluator.passed (previous.statement.rebase current.params.length) compiled.params
      rows = previous.periodRows evaluator rows :=
    passed_rebase hholes' (numbered_compileStatement hprevious).bound rows
  have hcut : rowLimit (valueAt compiled.params current.statement.limit.index) = 50000 := by
    rw [hholes _ (List.mem_append_right _ (List.mem_singleton_self _)), hlimit, rowLimit_natCast]
  have hcut' : rowLimit (valueAt compiled.params
      (previous.statement.rebase current.params.length).limit.index) = 50000 := by
    rw [hholes' _ (List.mem_append_right _ (List.mem_singleton_self _)), Statement.rebase,
      Placeholder.rebase, hlimit', rowLimit_natCast]
  have hshown : rowLimit (valueAt compiled.params
      (push (current.params ++ previous.params) (Value.number query.limit)).1.index) =
        query.limit := by
    rw [hbound _ (List.mem_append_right _ (List.mem_singleton_self _))]
    exact rowLimit_natCast query.limit
  have hkeys : (current.selectedColumns.filter fun column => !query.metrics.contains column) =
      keyColumns catalog query dataset := by
    rw [hcolumns, keyColumns_eq hs hapart.metrics]
  have haccepted : compiled.report.Accepted (keyColumns catalog query dataset) := by
    rw [hreport, hkeys]
    refine ⟨hapart.ranks, fun t ht => ?_⟩
    rcases List.mem_cons.1 ht with rfl | ht
    · exact (statement_iff hcurrent).2 ((selectsApart_during range).2 hapart.selects)
    · rw [List.mem_singleton.1 ht, sound_rebase]
      exact (statement_iff hprevious).2 ((selectsApart_during range').2 hapart.selects)
  have hgroups : evaluator.groups current.statement compiled.params rows =
      periodGroups catalog query evaluator dataset rows current := by
    rw [groups_eq hapart.selects hbyName, hrows, periodGroups]
  have hgroups' : evaluator.groups (previous.statement.rebase current.params.length)
      compiled.params rows = periodGroups catalog query evaluator dataset rows previous := by
    rw [groups_eq hapart.selects hbyName', hrows', periodGroups]
  rw [Evaluator.Returns]
  rw [hreport, hkeys] at haccepted ⊢
  dsimp only
  rw [and_iff_right haccepted, hcut, hcut', hshown, hgroups, hgroups', hrows, hrows']

/-- What the ranking of a query needs of the rows of both periods. -/
structure RanksFaithfully (catalog : SemanticCatalog) (query : SemanticReportQuery)
    (evaluator : Evaluator Cell Key) (dataset : CatalogDataset)
    (current previous : List (String → Cell)) : Prop where
  names : NamesApart catalog query dataset
  current_le :
    (current.map (dimensionKey catalog query evaluator dataset)).dedup.length ≤ 50000
  previous_le :
    (previous.map (dimensionKey catalog query evaluator dataset)).dedup.length ≤ 50000
  /-- The texts of two keys are the same only when the keys are. -/
  texts : ∀ a ∈ current, ∀ b ∈ previous,
    (dimensionKey catalog query evaluator dataset a).map evaluator.coalescedText =
      (dimensionKey catalog query evaluator dataset b).map evaluator.coalescedText →
    dimensionKey catalog query evaluator dataset a =
      dimensionKey catalog query evaluator dataset b

variable (catalog today query security evaluator rows) in
/-- The periods of the query, as far as it has any, can be ranked. -/
def Rankable : Prop :=
  ∀ dataset current previous,
    comparedPeriods catalog today query security = .ok (dataset, current, previous) →
      RanksFaithfully catalog query evaluator dataset (current.periodRows evaluator rows)
        (previous.periodRows evaluator rows)

/-- A change ranking returns what both periods give by themselves. -/
theorem returns_iff_ranked (h : compile catalog today query security = .ok compiled)
    (hshape : query.enabledComparison = some comparison)
    (hkind : query.ranksChange comparison = true)
    (hrankable : Rankable catalog today query security evaluator rows)
    (shown : List (ChangeRow Key)) :
    evaluator.Returns compiled rows shown ↔
      Ranked evaluator catalog today query security rows shown := by
  obtain ⟨dataset, current, previous, -, -, hperiods, -, -, -⟩ :=
    compile_changeRanking h hshape hkind
  have hfaithful := hrankable dataset current previous hperiods
  obtain ⟨⟨hbyName, hbyName'⟩, hreturns⟩ : _ ∧ (evaluator.Returns compiled rows shown ↔ _) :=
    returns_iff h hshape hkind hperiods hfaithful.names shown
  have hranked : Ranked evaluator catalog today query security rows shown ↔
      Shows (evaluator.changeLe query.ascending) query.limit
        (rankedRows catalog query evaluator dataset (current.periodRows evaluator rows)
          (previous.periodRows evaluator rows)) shown := by
    constructor
    · rintro ⟨dataset', current', previous', hperiods', hshows⟩
      rw [hperiods] at hperiods'
      cases hperiods'
      exact hshows
    · exact fun hshows => ⟨dataset, current, previous, hperiods, hshows⟩
  have hall : (periodGroups catalog query evaluator dataset rows current).length ≤ 50000 := by
    rw [periodGroups, List.length_map]
    exact hfaithful.current_le
  have hall' : (periodGroups catalog query evaluator dataset rows previous).length ≤ 50000 := by
    rw [periodGroups, List.length_map]
    exact hfaithful.previous_le
  rw [hreturns, hranked]
  constructor
  · rintro ⟨cur, prev, hcur, hprev, hshows⟩
    rw [shows_all_iff hall] at hcur
    rw [shows_all_iff hall'] at hprev
    exact (shows_congr (joinedRows_perm hfaithful.names.selects hbyName hbyName' hfaithful.texts
      hcur hprev)).1 hshows
  · intro hshows
    exact ⟨_, _, (shows_all_iff hall).2 (.refl _), (shows_all_iff hall').2 (.refl _),
      (shows_congr (joinedRows_perm hfaithful.names.selects hbyName hbyName' hfaithful.texts
        (.refl _) (.refl _))).2 hshows⟩

end Compiled

/-! ### Two keys of one text -/

def salesEvaluator : Evaluator (Option String) String where
  toEngine := textEngine
  value
    | .column column, row => row column
    | .dateOf column, row => row column
    | .monthOf column, row => row column
  keyText := id
  number _ := none
  keyLe a b := decide (a ≤ b)
  aggregate _ _ group :=
    OuterJoin.sum (group.map fun row =>
      (row "net_amount").bind fun amount => (number? amount.toList).map fun n => (n : ℚ))

def saleOn (day : ℤ) (productCode : Option String) : String → Option String
  | "invoice_date" => some (formatDate day)
  | "product_code" => productCode
  | "net_amount" => some "100"
  | column => saleOf "1" column

/-- Which products sold better in the last seven days than in the seven days before. -/
def risingProducts : SemanticReportQuery where
  datasetId := "sales_items"
  metrics := ["net_sales"]
  dimensions := ["sales_product"]
  displayColumns := []
  filters := []
  timeRange := ⟨some .last7Days, none, none, none⟩
  comparison := some ⟨true, .previousPeriod, none, none, true⟩
  sort := [⟨some "net_sales", none, none, none, none, "desc"⟩]
  limit := 10

theorem namesApart_risingProducts : NamesApart catalogExcerpt risingProducts salesItems where
  selects := ⟨by decide +kernel, by decide +kernel, by decide +kernel, by decide +kernel⟩
  ranks := by decide +kernel
  metrics := by decide +kernel

theorem isOk_risingProducts :
    (compile catalogExcerpt 740000 risingProducts salesReader).toOption.isSome = true := by
  decide +kernel

theorem dataset_risingProducts {dataset : CatalogDataset} {current previous : CompiledStatement}
    (h : comparedPeriods catalogExcerpt 740000 risingProducts salesReader =
      .ok (dataset, current, previous)) : dataset = salesItems := by
  simp only [comparedPeriods, bind_eq_ok, pure_eq_ok, found_eq_ok] at h
  obtain ⟨dataset, hdataset, _, -, _, -, _, -, _, -, heq⟩ := h
  have hsales : catalogExcerpt.getDataset risingProducts.datasetId = some salesItems := by rfl
  rw [hsales] at hdataset
  cases hdataset
  cases heq
  rfl

/-- Sales of one product in both periods are compared. -/
theorem returns_iff_ranked_sales :
    ∃ compiled, compile catalogExcerpt 740000 risingProducts salesReader = .ok compiled ∧
      ∀ shown, salesEvaluator.Returns compiled
          [saleOn 740000 (some "A"), saleOn 739990 (some "A"), saleOn 739989 none] shown ↔
        Ranked salesEvaluator catalogExcerpt 740000 risingProducts salesReader
          [saleOn 740000 (some "A"), saleOn 739990 (some "A"), saleOn 739989 none] shown := by
  obtain ⟨compiled, hcompiled⟩ := Option.isSome_iff_exists.1 isOk_risingProducts
  have hcompile := eq_ok_of_toOption hcompiled
  refine ⟨compiled, hcompile, returns_iff_ranked hcompile rfl rfl ?_⟩
  intro dataset current previous h
  have hdata : (comparedPeriods catalogExcerpt 740000 risingProducts salesReader).toOption.map
      (fun p =>
        let cur := p.2.1.periodRows salesEvaluator
          [saleOn 740000 (some "A"), saleOn 739990 (some "A"), saleOn 739989 none]
        let prev := p.2.2.periodRows salesEvaluator
          [saleOn 740000 (some "A"), saleOn 739990 (some "A"), saleOn 739989 none]
        let key := dimensionKey catalogExcerpt risingProducts salesEvaluator salesItems
        decide ((cur.map key).dedup.length ≤ 50000 ∧ (prev.map key).dedup.length ≤ 50000 ∧
          ∀ a ∈ cur, ∀ b ∈ prev, (key a).map salesEvaluator.coalescedText =
            (key b).map salesEvaluator.coalescedText → key a = key b)) = some true := by
    decide +kernel
  obtain rfl := dataset_risingProducts h
  rw [h] at hdata
  obtain ⟨hcurrent, hprevious, htexts⟩ := of_decide_eq_true (Option.some.inj hdata)
  exact ⟨namesApart_risingProducts, hcurrent, hprevious, htexts⟩

/-- A product without a code is taken for the one with the code `__null__`. -/
theorem not_returns_iff_ranked :
    ¬∀ (compiled : CompiledSql) (rows : List (String → Option String))
      (shown : List (ChangeRow String)),
      compile catalogExcerpt 740000 risingProducts salesReader = .ok compiled →
        (salesEvaluator.Returns compiled rows shown ↔
          Ranked salesEvaluator catalogExcerpt 740000 risingProducts salesReader rows shown) := by
  intro h
  obtain ⟨compiled, hcompiled⟩ := Option.isSome_iff_exists.1 isOk_risingProducts
  have hcompile := eq_ok_of_toOption hcompiled
  obtain ⟨dataset, current, previous, -, -, hperiods, -, -, -⟩ :=
    compile_changeRanking hcompile rfl rfl
  obtain rfl := dataset_risingProducts hperiods
  have hdata : (comparedPeriods catalogExcerpt 740000 risingProducts salesReader).toOption.map
      (fun p =>
        let rows := [saleOn 740000 none, saleOn 739990 (some "__null__")]
        let cur := periodGroups catalogExcerpt risingProducts salesEvaluator salesItems rows p.2.1
        let prev := periodGroups catalogExcerpt risingProducts salesEvaluator salesItems rows p.2.2
        decide (cur.length ≤ 50000 ∧ prev.length ≤ 50000 ∧
          (salesEvaluator.joinedRows p.2.1.statement
            (p.2.2.statement.rebase p.2.1.params.length)
            (keyColumns catalogExcerpt risingProducts salesItems) risingProducts.metrics
            (p.2.1.periodRows salesEvaluator rows) (p.2.2.periodRows salesEvaluator rows) cur
            prev).length = 1 ∧
          (rankedRows catalogExcerpt risingProducts salesEvaluator salesItems
            (p.2.1.periodRows salesEvaluator rows)
            (p.2.2.periodRows salesEvaluator rows)).length = 2)) = some true := by
    decide +kernel
  rw [hperiods] at hdata
  obtain ⟨hcurrent, hprevious, hjoined, hranked⟩ := of_decide_eq_true (Option.some.inj hdata)
  obtain ⟨row, hrow⟩ := List.length_eq_one_iff.1 hjoined
  have hreturns : salesEvaluator.Returns compiled
      [saleOn 740000 none, saleOn 739990 (some "__null__")] [row] := by
    rw [(returns_iff hcompile rfl rfl hperiods namesApart_risingProducts [row]).2]
    refine ⟨_, _, (shows_all_iff hcurrent).2 (.refl _), (shows_all_iff hprevious).2 (.refl _), ?_⟩
    rw [hrow]
    exact ⟨[row], .refl _, List.pairwise_singleton _ _, rfl⟩
  obtain ⟨dataset', current', previous', hperiods', hshows⟩ := (h _ _ _ hcompile).1 hreturns
  rw [hperiods] at hperiods'
  cases hperiods'
  have hlength := hshows.length
  rw [hranked] at hlength
  have hrows : 1 = min 10 2 := hlength
  exact absurd hrows (by decide)

end Forecast.Reporting
