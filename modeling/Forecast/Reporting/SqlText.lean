import Forecast.Reporting.Sql

/-!
# The text of compiled SQL

The statements as the compiler writes them.
-/

namespace Forecast.Reporting

open Placeholders

/-- `texts.join(separator)` -/
def join (separator : String) : List String → String
  | [] => ""
  | [text] => text
  | text :: texts => text ++ separator ++ join separator texts

def Cast.text : Cast → String
  | none => ""
  | uuid => "::uuid"
  | date => "::date"
  | intArray => "::int[]"
  | uuidArray => "::uuid[]"
  | dateArray => "::date[]"

def holeText (hole : Hole) : String := "$" ++ toString hole.index

def Predicate.text : Predicate → String
  | compare column operator value cast =>
    column ++ " " ++ operator.text ++ " " ++ holeText value ++ cast.text
  | member column false values cast => column ++ " = ANY(" ++ holeText values ++ cast.text ++ ")"
  | member column true values cast => column ++ " <> ALL(" ++ holeText values ++ cast.text ++ ")"
  | between column low high cast =>
    column ++ " BETWEEN " ++ holeText low ++ cast.text ++ " AND " ++ holeText high ++ cast.text
  | like column false pattern => column ++ " ILIKE " ++ holeText pattern
  | like column true pattern => "COALESCE(" ++ column ++ ", '') NOT ILIKE " ++ holeText pattern

def Condition.text : Condition → String
  | one p => p.text
  | any ps => "(" ++ join " OR " (ps.map Predicate.text) ++ ")"
  | all ps => "(" ++ join " AND " (ps.map Predicate.text) ++ ")"

def Expr.text : Expr → String
  | column name => name
  | dateOf name => name ++ "::date"
  | monthOf name => "date_trunc('month', " ++ name ++ ")::date"

/-- A placeholder is written without the zeros that may have stood before its number. -/
def Token.chars : Token → List Char
  | char c => [c]
  | placeholder n => '$' :: (toString n).toList

def metricTokensText (expression : List Token) : String :=
  String.ofList (expression.flatMap Token.chars)

def SelectItem.text : SelectItem → String
  | expr e name => e.text ++ " AS " ++ name
  | metric expression metricId => metricTokensText expression ++ " AS " ++ metricId

def OrderKey.text : OrderKey → String
  | name s => s
  | dateOf column => column ++ "::date"
  | least column => "MIN(" ++ column ++ ")"
  | greatest column => "MAX(" ++ column ++ ")"

def directionText (ascending : Bool) : String := if ascending then "ASC" else "DESC"

def OrderItem.text (item : OrderItem) : String :=
  item.key.text ++ " " ++ directionText item.ascending

/-- A clause of a statement; an empty list has none. -/
def clauseText (keyword separator : String) (texts : List String) : String :=
  if texts = [] then "" else keyword ++ join separator texts

def Statement.text (s : Statement) : String :=
  "SELECT " ++ join ", " (s.select.map SelectItem.text) ++ " FROM " ++ s.view ++
    clauseText " WHERE " " AND " (s.conditions.map Condition.text) ++
    clauseText " GROUP BY " ", " (s.groupBy.map Expr.text) ++
    clauseText " ORDER BY " ", " (s.orderBy.map OrderItem.text) ++
    " LIMIT " ++ holeText s.limit

/-! ### Change rankings -/

/-- `COALESCE(cur.key::text, '__null__') = COALESCE(prev.key::text, '__null__')` -/
def joinKeyText (key : String) : String :=
  "COALESCE(cur." ++ key ++ "::text, '__null__') = COALESCE(prev." ++ key ++ "::text, '__null__')"

def keyText (key : String) : String :=
  "COALESCE(cur." ++ key ++ ", prev." ++ key ++ ") AS " ++ key

def rankedMetricText (metricId : String) : List String :=
  ["COALESCE(cur." ++ metricId ++ ", 0) AS " ++ metricId,
    "COALESCE(prev." ++ metricId ++ ", 0) AS previous_" ++ metricId]

def changeText (primary : String) : String :=
  "(COALESCE(cur." ++ primary ++ ", 0) - COALESCE(prev." ++ primary ++ ", 0))"

def changePercentText (primary : String) : String :=
  "CASE WHEN COALESCE(prev." ++ primary ++ ", 0) <> 0 THEN (" ++ changeText primary ++
    " / ABS(prev." ++ primary ++ ") * 100)::float8 END AS change_pct"

def Report.text : Report → String
  | plain s => s.text
  | comparison current previous =>
    "SELECT 'current' AS comparison_period, current_result.* FROM (" ++ current.text ++
      ") current_result UNION ALL " ++
      "SELECT 'comparison' AS comparison_period, comparison_result.* FROM (" ++ previous.text ++
      ") comparison_result"
  | changeRanking current previous keys metrics ascending limit =>
    "SELECT " ++ join ", " (keys.map keyText ++ metrics.flatMap rankedMetricText) ++ ", " ++
      changeText (metrics.headD "") ++ " AS change, " ++ changePercentText (metrics.headD "") ++
      " FROM (" ++ current.text ++ ") cur FULL OUTER JOIN (" ++ previous.text ++ ") prev ON " ++
      join " AND " (keys.map joinKeyText) ++ " ORDER BY change " ++ directionText ascending ++
      ", " ++ keys.headD "" ++ " LIMIT " ++ holeText limit

/-- The text that is validated and run. -/
def CompiledSql.sql (compiled : CompiledSql) : String := compiled.report.text

end Forecast.Reporting
