import Forecast.Lib.Placeholders
import Forecast.Reporting.Catalog

/-!
# Compiled SQL

The statements that reports are compiled to, part by part, with their placeholders, and which rows
of a view reach the result of one. What the database makes of a cell and a value is an `Engine`.
-/

namespace Forecast.Reporting

open Placeholders

abbrev Hole := Placeholder Value

inductive Cast where
  | none
  | uuid
  | date
  | intArray
  | uuidArray
  | dateArray
deriving DecidableEq

/-- A predicate on one column. -/
inductive Predicate where
  /-- `column operator $n` -/
  | compare (column : String) (operator : Operator) (value : Hole) (cast : Cast)
  /-- `column = ANY($n)`, negated `column <> ALL($n)` -/
  | member (column : String) (negated : Bool) (values : Hole) (cast : Cast)
  | between (column : String) (low high : Hole) (cast : Cast)
  /-- `column ILIKE $n`, negated `COALESCE(column, '') NOT ILIKE $n` -/
  | like (column : String) (negated : Bool) (pattern : Hole)

namespace Predicate

def holes : Predicate → List Hole
  | compare _ _ value _ => [value]
  | member _ _ values _ => [values]
  | between _ low high _ => [low, high]
  | like _ _ pattern => [pattern]

def rebase (k : ℕ) : Predicate → Predicate
  | compare column operator value cast => compare column operator (value.rebase k) cast
  | member column negated values cast => member column negated (values.rebase k) cast
  | between column low high cast => between column (low.rebase k) (high.rebase k) cast
  | like column negated pattern => like column negated (pattern.rebase k)

theorem holes_rebase (k : ℕ) (p : Predicate) :
    (p.rebase k).holes = p.holes.map (Placeholder.rebase k) := by
  cases p <;> rfl

end Predicate

/-- What stands between two `AND`s of a `WHERE`. -/
inductive Condition where
  | one (p : Predicate)
  | any (ps : List Predicate)
  | all (ps : List Predicate)

namespace Condition

def predicates : Condition → List Predicate
  | one p => [p]
  | any ps => ps
  | all ps => ps

def holes (c : Condition) : List Hole := c.predicates.flatMap Predicate.holes

def rebase (k : ℕ) : Condition → Condition
  | one p => one (p.rebase k)
  | any ps => any (ps.map (Predicate.rebase k))
  | all ps => all (ps.map (Predicate.rebase k))

theorem holes_rebase (k : ℕ) (c : Condition) :
    (c.rebase k).holes = c.holes.map (Placeholder.rebase k) := by
  cases c <;>
    simp [holes, predicates, rebase, Predicate.holes_rebase, List.flatMap_map, List.map_flatMap]

end Condition

/-! ### Statements -/

/-- An expression that can stand in a `GROUP BY`. -/
inductive Expr where
  | column (column : String)
  /-- `column::date` -/
  | dateOf (column : String)
  /-- `date_trunc('month', column)::date` -/
  | monthOf (column : String)
deriving DecidableEq

/-- A piece of the text of a metric. -/
inductive Token where
  | char (c : Char)
  | placeholder (n : ℕ)
deriving DecidableEq

/-- A `$` and the digits read behind it. -/
def Token.flush : List Char → List Token
  | [] => [char '$']
  | digits => [placeholder (digits.foldl (fun n c => 10 * n + (c.toNat - 48)) 0)]

/-- The text is read with the digits that follow a `$`, if it stands behind one. -/
def Token.scan : Option (List Char) → List Char → List Token
  | none, [] => []
  | some digits, [] => flush digits
  | none, c :: cs => if c = '$' then scan (some []) cs else char c :: scan none cs
  | some digits, c :: cs =>
    if c.isDigit then scan (some (digits ++ [c])) cs
    else flush digits ++ if c = '$' then scan (some []) cs else char c :: scan none cs

/-- A text with its placeholders `/\$(\d+)/g`. -/
def Token.ofText (s : String) : List Token := Token.scan none s.toList

def Token.rebase (k : ℕ) : Token → Token
  | char c => char c
  | placeholder n => placeholder (n + k)

def Token.number? : Token → Option ℕ
  | char _ => none
  | placeholder n => some n

inductive SelectItem where
  | expr (e : Expr) (name : String)
  | metric (expression : List Token) (metricId : String)
deriving DecidableEq

namespace SelectItem

def name : SelectItem → String
  | expr _ name => name
  | metric _ metricId => metricId

def rebase (k : ℕ) : SelectItem → SelectItem
  | expr e name => expr e name
  | metric expression metricId => metric (expression.map (Token.rebase k)) metricId

/-- Placeholders in the text of a metric, which no value is pushed for. -/
def strays : SelectItem → List ℕ
  | expr _ _ => []
  | metric expression _ => expression.filterMap Token.number?

@[simp]
theorem name_rebase (k : ℕ) (item : SelectItem) : (item.rebase k).name = item.name := by
  cases item <;> rfl

theorem strays_rebase (k : ℕ) (item : SelectItem) :
    (item.rebase k).strays = item.strays.map (· + k) := by
  cases item with
  | expr e name => rfl
  | metric expression metricId =>
    have hnumber : ∀ token : Token, (token.rebase k).number? = token.number?.map (· + k) := by
      intro token
      cases token <;> rfl
    simp only [rebase, strays, List.filterMap_map, List.map_filterMap, Function.comp_def, hnumber]

end SelectItem

/-- What a statement is ordered by. -/
inductive OrderKey where
  /-- A bare name: an output column of that name, or else a column of the view. -/
  | name (s : String)
  | dateOf (column : String)
  | least (column : String)
  | greatest (column : String)
deriving DecidableEq

structure OrderItem where
  key : OrderKey
  ascending : Bool
deriving DecidableEq

structure Statement where
  select : List SelectItem
  view : String
  conditions : List Condition
  groupBy : List Expr
  orderBy : List OrderItem
  limit : Hole

namespace Statement

def holes (s : Statement) : List Hole := s.conditions.flatMap Condition.holes ++ [s.limit]

def strays (s : Statement) : List ℕ := s.select.flatMap SelectItem.strays

/-- `sql.replace(/\$(\d+)/g, …)` -/
def rebase (k : ℕ) (s : Statement) : Statement :=
  { s with
    select := s.select.map (SelectItem.rebase k)
    conditions := s.conditions.map (Condition.rebase k)
    limit := s.limit.rebase k }

theorem holes_rebase (k : ℕ) (s : Statement) :
    (s.rebase k).holes = s.holes.map (Placeholder.rebase k) := by
  simp [holes, rebase, Condition.holes_rebase, List.flatMap_map, List.map_flatMap]

theorem strays_rebase (k : ℕ) (s : Statement) :
    (s.rebase k).strays = s.strays.map (· + k) := by
  simp [strays, rebase, SelectItem.strays_rebase, List.flatMap_map, List.map_flatMap]

def outputs (s : Statement) : List String := s.select.map SelectItem.name

@[simp]
theorem outputs_rebase (k : ℕ) (s : Statement) : (s.rebase k).outputs = s.outputs := by
  simp [outputs, rebase, Function.comp_def]

end Statement

/-- The three shapes of a report. -/
inductive Report where
  | plain (s : Statement)
  /-- Both periods one below the other, under a `comparison_period`. -/
  | comparison (current previous : Statement)
  /-- Both periods joined by their keys and ranked by the change of the first metric. -/
  | changeRanking (current previous : Statement) (keys metrics : List String) (ascending : Bool)
      (limit : Hole)

namespace Report

def statements : Report → List Statement
  | plain s => [s]
  | comparison current previous => [current, previous]
  | changeRanking current previous _ _ _ _ => [current, previous]

def holes : Report → List Hole
  | plain s => s.holes
  | comparison current previous => current.holes ++ previous.holes
  | changeRanking current previous _ _ _ limit => current.holes ++ previous.holes ++ [limit]

def strays (r : Report) : List ℕ := r.statements.flatMap Statement.strays

def outputs : Report → List String
  | plain s => s.outputs
  | comparison current _ => "comparison_period" :: current.outputs
  | changeRanking _ _ keys metrics _ _ =>
    keys ++ metrics.flatMap (fun metricId => [metricId, "previous_" ++ metricId]) ++
      ["change", "change_pct"]

end Report

structure CompiledSql where
  report : Report
  params : List Value
  datasetId : String
  viewName : String
  appliedSecurityFilters : List String
  selectedColumns : List String

/-! ### The rows that reach a result -/

/-- What the database makes of the cell of a row. -/
structure Engine (Cell : Type) where
  isNull : Cell → Bool
  /-- How the cell compares with a value; nothing when the comparison is NULL. -/
  compare : Cell → Value → Option Ordering
  text : Cell → Option String
  /-- `text ILIKE pattern` -/
  ilike : String → String → Bool

namespace Engine

variable {Cell : Type} (engine : Engine Cell) (cell : Cell)

/-- `cell operator value` is true. -/
def compares (operator : Operator) (value : Value) : Bool :=
  match operator with
  | .eq => engine.compare cell value = some .eq
  | .neq => engine.compare cell value = some .lt || engine.compare cell value = some .gt
  | .lt => engine.compare cell value = some .lt
  | .gt => engine.compare cell value = some .gt
  | .lte => engine.compare cell value = some .lt || engine.compare cell value = some .eq
  | .gte => engine.compare cell value = some .gt || engine.compare cell value = some .eq
  | .isDistinctFrom =>
    if engine.isNull cell then !value.isNull else engine.compare cell value ≠ some .eq
  | _ => false

/-- `cell = ANY(values)`, negated `cell <> ALL(values)` -/
def isMember (negated : Bool) (values : Value) : Bool :=
  if negated then values.items.all (engine.compares cell .neq)
  else values.items.any (engine.compares cell .eq)

def isBetween (low high : Value) : Bool :=
  engine.compares cell .gte low && engine.compares cell .lte high

/-- `cell ILIKE pattern`, negated `COALESCE(cell, '') NOT ILIKE pattern` -/
def isLike (negated : Bool) (pattern : Value) : Bool :=
  if negated then !engine.ilike ((engine.text cell).getD "") pattern.toText
  else (engine.text cell).any fun s => engine.ilike s pattern.toText

end Engine

section Rows

variable {Cell : Type} (engine : Engine Cell) (params : List Value) (row : String → Cell)

/-- The predicate is true of a row, with the values that its placeholders are run with. -/
def Predicate.holds : Predicate → Bool
  | compare column operator value _ =>
    (valueAt params value.index).any (engine.compares (row column) operator)
  | member column negated values _ =>
    (valueAt params values.index).any (engine.isMember (row column) negated)
  | between column low high _ =>
    (valueAt params low.index).any fun v =>
      (valueAt params high.index).any (engine.isBetween (row column) v)
  | like column negated pattern =>
    (valueAt params pattern.index).any (engine.isLike (row column) negated)

def Condition.holds : Condition → Bool
  | one p => p.holds engine params row
  | any ps => ps.any (Predicate.holds engine params row)
  | all ps => ps.all (Predicate.holds engine params row)

/-- The row passes the `WHERE` of a statement. -/
def Statement.passes (s : Statement) : Bool :=
  s.conditions.all (Condition.holds engine params row)

def CompiledSql.reads (compiled : CompiledSql) : Bool :=
  compiled.report.statements.any (Statement.passes engine compiled.params row)

end Rows

end Forecast.Reporting
