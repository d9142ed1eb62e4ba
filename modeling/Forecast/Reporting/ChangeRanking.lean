import Forecast.Lib.Joins
import Forecast.Reporting.StatementLaw

/-!
# What a change ranking returns

The statements of both periods are grouped by the dimensions and cut off at their limit. They are
joined where the texts of the key columns are the same, a NULL being written as `__null__`, and the
joined rows are ordered by the change of the first metric.
-/

namespace Forecast.Reporting

open Placeholders Transactions OuterJoin

/-- What the database makes of expressions and of metrics. -/
structure Evaluator (Cell Key : Type) extends Engine Cell where
  /-- The value of an expression of a row; nothing when it is NULL. -/
  value : Expr → (String → Cell) → Option Key
  /-- `key::text` -/
  keyText : Key → String
  /-- The number that a value of a numeric column is. -/
  number : Key → Option ℚ
  keyLe : Key → Key → Bool
  /-- The value of the text of a metric over all rows of a statement, which a window takes in, and
  the rows of a group. -/
  aggregate : List Token → List (String → Cell) → List (String → Cell) → Option ℚ

/-- A row of the result: the key columns, the aggregates of each metric in the current and in the
previous period, and the change of the first metric. -/
structure ChangeRow (Key : Type) where
  keys : List (Option Key)
  metrics : List (ℚ × ℚ)
  change : ℚ
  /-- Not rounded to `float8`. -/
  changePct : Option ℚ
deriving DecidableEq

def ChangeRow.ofMetrics {Key : Type} (keys : List (Option Key)) (metrics : List (ℚ × ℚ)) :
    ChangeRow Key :=
  let (current, previous) := metrics.headD (0, 0)
  { keys := keys
    metrics := metrics
    change := current - previous
    changePct := if previous ≠ 0 then some ((current - previous) / |previous| * 100) else none }

/-- The number of a `LIMIT`. -/
def rowLimit : Option Value → ℕ
  | some (.number n) => n.num.toNat
  | _ => 0

/-- What the database runs: a name that is ordered by stands for one column, and in a statement
every name does, nothing is selected or ordered by that is not grouped, and no placeholder is
without a value. -/
def Report.Accepted (report : Report) (keys : List String) : Prop :=
  (∀ name ∈ "change" :: keys.take 1, (report.outputs.map folded).count (folded name) = 1) ∧
    ∀ s ∈ report.statements, s.Sound

namespace Evaluator

variable {Cell Key : Type} (evaluator : Evaluator Cell Key)

/-- `ORDER BY key`, where NULL is last. -/
def firstKeyLe (a b : ChangeRow Key) : Bool :=
  match a.keys.headD none, b.keys.headD none with
  | _, none => true
  | none, some _ => false
  | some x, some y => evaluator.keyLe x y

/-- `ORDER BY change, key` -/
def changeLe (ascending : Bool) (a b : ChangeRow Key) : Prop :=
  if a.change = b.change then evaluator.firstKeyLe a b = true
  else if ascending then a.change < b.change
  else b.change < a.change

/-! ### The statement -/

section Statements

variable (s : Statement) (params : List Value) (rows group : List (String → Cell))

def passed : List (String → Cell) :=
  rows.filter fun row => s.passes evaluator.toEngine params row

/-- The rows that pass, by the values that the statement groups them by. -/
def groups [DecidableEq Key] : List (List (String → Cell)) :=
  classes (fun row => s.groupBy.map fun e => evaluator.value e row)
    (evaluator.passed s params rows)

def keyCell (column : String) : Option Key :=
  match s.select.find? fun item => item.name = column, group.head? with
  | some (.expr e _), some row => evaluator.value e row
  | _, _ => none

def metricCell (metricId : String) : Option ℚ :=
  match s.select.find? fun item => item.name = metricId with
  | some (.metric expression _) => evaluator.aggregate expression rows group
  | some (.expr e _) => (group.head?.bind (evaluator.value e)).bind evaluator.number
  | none => none

end Statements

/-- `COALESCE(key::text, '__null__')` -/
def coalescedText (key : Option Key) : String := key.elim "__null__" evaluator.keyText

section Ranking

variable (current previous : Statement) (keys metrics : List String)
variable (currentRows previousRows : List (String → Cell))

/-- The condition of the `FULL OUTER JOIN`. -/
def joins (cur prev : List (String → Cell)) : Bool :=
  keys.all fun column =>
    evaluator.coalescedText (evaluator.keyCell current cur column) =
      evaluator.coalescedText (evaluator.keyCell previous prev column)

def changeRow (pair : Option (List (String → Cell)) × Option (List (String → Cell))) :
    ChangeRow Key :=
  .ofMetrics
    (keys.map fun column =>
      (pair.1.bind fun cur => evaluator.keyCell current cur column).or
        (pair.2.bind fun prev => evaluator.keyCell previous prev column))
    (metrics.map fun metricId =>
      ((pair.1.bind fun cur => evaluator.metricCell current currentRows cur metricId).getD 0,
        (pair.2.bind fun prev => evaluator.metricCell previous previousRows prev metricId).getD 0))

def joinedRows (cur prev : List (List (String → Cell))) : List (ChangeRow Key) :=
  (fullJoin (evaluator.joins current previous keys) cur prev).map
    (evaluator.changeRow current previous keys metrics currentRows previousRows)

end Ranking

/-- What a change ranking may return over the rows of its view. The statements of the periods have
no order of their own. -/
def Returns [DecidableEq Key] (compiled : CompiledSql) (rows : List (String → Cell))
    (shown : List (ChangeRow Key)) : Prop :=
  match compiled.report with
  | .changeRanking current previous keys metrics ascending limit =>
    compiled.report.Accepted keys ∧
      ∃ cur prev,
        Shows (fun _ _ => True) (rowLimit (valueAt compiled.params current.limit.index))
          (evaluator.groups current compiled.params rows) cur ∧
        Shows (fun _ _ => True) (rowLimit (valueAt compiled.params previous.limit.index))
          (evaluator.groups previous compiled.params rows) prev ∧
        Shows (evaluator.changeLe ascending) (rowLimit (valueAt compiled.params limit.index))
          (evaluator.joinedRows current previous keys metrics
            (evaluator.passed current compiled.params rows)
            (evaluator.passed previous compiled.params rows) cur prev) shown
  | _ => False

end Evaluator

/-! ### Both periods by themselves -/

section Periods

variable (catalog : SemanticCatalog) (today : ℤ) (query : SemanticReportQuery)
variable (security : ReportingSecurityContext)

def comparedPeriods : Except ReportError (CatalogDataset × CompiledStatement × CompiledStatement) :=
  do
  let dataset ← found (catalog.getDataset query.datasetId)
    (invalidQuery s!"Unknown dataset {query.datasetId}")
  let comparison ← found query.enabledComparison (invalidQuery "No comparison")
  let (range, range') ← comparedRanges today query comparison dataset security
    "Change-ranking reports require a dataset date field"
  let current ← compileStatement catalog today (query.aggregated.during range) dataset security
  let previous ← compileStatement catalog today (query.aggregated.during range') dataset security
  return (dataset, current, previous)

/-- The direction that a ranking is asked for in. -/
def SemanticReportQuery.ascending : Bool :=
  isAscending ((query.sort.head?.map SemanticSort.direction).getD "desc")

variable {Cell Key : Type} (evaluator : Evaluator Cell Key)

def CompiledStatement.periodRows (period : CompiledStatement) (rows : List (String → Cell)) :
    List (String → Cell) :=
  evaluator.passed period.statement period.params rows

variable (dataset : CatalogDataset)

def keyColumns : List String :=
  ((dimensionExprs catalog dataset query.dimensions).map Prod.snd).foldl pushNew []

def keyExpr (column : String) : Option Expr :=
  ((dimensionExprs catalog dataset query.dimensions).find? fun x => x.2 = column).map Prod.fst

def dimensionKey (row : String → Cell) : List (Option Key) :=
  (keyColumns catalog query dataset).map fun column =>
    (keyExpr catalog query dataset column).bind fun e => evaluator.value e row

/-- The aggregate of a metric over some rows of a period, 0 where there is nothing to aggregate. -/
def total (metricId : String) (rows : List (String → Cell)) : List (String → Cell) → ℚ
  | [] => 0
  | group => (evaluator.aggregate (metricText catalog metricId) rows group).getD 0

variable [DecidableEq Key] (current previous : List (String → Cell))

/-- The aggregates of a key in both periods. -/
def rankedRow (key : List (Option Key)) : ChangeRow Key :=
  let ofKey := fun row => dimensionKey catalog query evaluator dataset row = key
  .ofMetrics key (query.metrics.map fun metricId =>
    (total catalog evaluator metricId current (current.filter ofKey),
      total catalog evaluator metricId previous (previous.filter ofKey)))

/-- One row for each key of either period. -/
def rankedRows : List (ChangeRow Key) :=
  ((current ++ previous).map (dimensionKey catalog query evaluator dataset)).dedup.map
    (rankedRow catalog query evaluator dataset current previous)

end Periods

/-- The rows that a ranking is to show: those of both periods joined by key, by their change and up
to the limit of the query. -/
def Ranked {Cell Key : Type} [DecidableEq Key] (evaluator : Evaluator Cell Key)
    (catalog : SemanticCatalog) (today : ℤ) (query : SemanticReportQuery)
    (security : ReportingSecurityContext) (rows : List (String → Cell))
    (shown : List (ChangeRow Key)) : Prop :=
  ∃ dataset current previous,
    comparedPeriods catalog today query security = .ok (dataset, current, previous) ∧
      Shows (evaluator.changeLe query.ascending) query.limit
        (rankedRows catalog query evaluator dataset (current.periodRows evaluator rows)
          (previous.periodRows evaluator rows)) shown

end Forecast.Reporting
