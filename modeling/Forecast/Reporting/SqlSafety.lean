import Forecast.Lib.Lexemes
import Forecast.Lib.Transactions
import Forecast.Reporting.Catalog

/-!
# The SQL safety validator

The rules that the text of a compiled query is checked against before it is run. They are regular
expressions whose words stand between word boundaries, so they are looked for among the lexemes.
-/

namespace Forecast.Reporting

open Lexemes Transactions

def lexemes (text : String) : List Lexeme := lex isWordChar text.toList

/-- A word between two boundaries, in any case. -/
def isWordOf (word : String) : Lexeme → Bool
  | .word w => String.ofList (w.map Char.toLower) = word
  | .other _ => false

/-- A word boundary and a beginning, in any case. -/
def beginsWord (start : String) : Lexeme → Bool
  | .word w => start.toList.isPrefixOf (w.map Char.toLower)
  | .other _ => false

def isChar (c : Char) : Lexeme → Bool
  | .word _ => false
  | .other d => d = c

/-- `\d+` between two boundaries -/
def isNumber : Lexeme → Bool
  | .word w => w.all Char.isDigit
  | .other _ => false

def finds (items : List Item) (text : List Lexeme) : Bool := found JsText.isTrimmed items text

/-! ### What is forbidden -/

/-- `FORBIDDEN_SQL` -/
def forbiddenSql : List String :=
  ["insert", "update", "delete", "merge", "truncate", "alter", "drop", "create", "grant", "revoke",
    "copy", "vacuum", "analyze", "refresh", "call", "execute"]

/-- `DANGEROUS_FUNCTIONS` -/
def dangerousFunctions : List String :=
  ["pg_sleep", "dblink", "lo_import", "lo_export", "copy_to", "copy_from"]

/-- The beginnings in `SYSTEM_TABLES`. -/
def systemTables : List String := ["pg_catalog", "information_schema", "pg_", "sqlite_"]

/-- `mysql\.` in `SYSTEM_TABLES`. -/
def mysqlTable : List Item := [.one (isWordOf "mysql"), .one (isChar '.')]

def isDisallowed (l : Lexeme) : Bool :=
  forbiddenSql.any (isWordOf · l) || dangerousFunctions.any (isWordOf · l) ||
    systemTables.any (beginsWord · l)

def hasDisallowed (text : List Lexeme) : Bool := text.any isDisallowed || finds mysqlTable text

/-! ### The views that are read -/

/-- Where the search `/\bfrom\s+([a-z][a-z0-9_]*)\b/gi` stands. -/
inductive Reading where
  | outside
  /-- Behind a `from`; `spaced` when white space has followed it. -/
  | behindFrom (spaced : Bool)
deriving DecidableEq

namespace Reading

def next : Reading → Lexeme → Reading
  | outside, l => if isWordOf "from" l then behindFrom false else outside
  | behindFrom _, .other c => if JsText.isTrimmed c then behindFrom true else outside
  | behindFrom _, .word _ => outside

/-- The name that is captured. -/
def captured : Reading → Lexeme → Option String
  | behindFrom true, .word w => if w.head?.any Char.isAlpha then some (String.ofList w) else none
  | _, _ => none

def views : Reading → List Lexeme → List String
  | _, [] => []
  | reading, l :: ls => (reading.captured l).toList ++ (reading.next l).views ls

def after (reading : Reading) (ls : List Lexeme) : Reading := ls.foldl next reading

theorem views_append (reading : Reading) (ls ls' : List Lexeme) :
    reading.views (ls ++ ls') = reading.views ls ++ (reading.after ls).views ls' := by
  induction ls generalizing reading with
  | nil => rfl
  | cons l ls ih =>
    rw [List.cons_append, views, ih, views, List.append_assoc]
    rfl

theorem after_append (reading : Reading) (ls ls' : List Lexeme) :
    reading.after (ls ++ ls') = (reading.after ls).after ls' :=
  List.foldl_append

end Reading

def viewMatches (text : List Lexeme) : List String := Reading.outside.views text

example : viewMatches (lexemes "SELECT item FROM sales WHERE item <> 'from'") = ["sales"] := by
  decide +kernel

/-! ### What is required -/

/-- `/\blimit\s+\$\d+\b/i` -/
def limitPattern : List Item :=
  [.one (isWordOf "limit"), .spaces true, .one (isChar '$'), .one isNumber]

/-- `column\s*=\s*any\(\$\d+::type\[\]\)` behind a boundary -/
def anyPattern (column type : String) : List Item :=
  [.one (isWordOf column), .spaces false, .one (isChar '='), .spaces false, .one (isWordOf "any"),
    .one (isChar '('), .one (isChar '$'), .one isNumber, .one (isChar ':'), .one (isChar ':'),
    .one (isWordOf type), .one (isChar '['), .one (isChar ']'), .one (isChar ')')]

/-- The views that questions may be asked about. -/
def allowedViews (catalog : SemanticCatalog) : List String :=
  (catalog.datasets.filter CatalogDataset.allowedForNlq).map CatalogDataset.viewName

def unsafeSql (message : String) : ReportError := .badRequest "UNSAFE_SQL" message

/-- `SqlSafetyValidator.validate`, of a text and the columns that it is said to restrict. -/
def validateSafety (catalog : SemanticCatalog) (sql : String)
    (appliedSecurityFilters : List String) : Except ReportError Unit := do
  let sql := JsText.trim sql
  let text := lexemes sql
  throwWhen (text.head?.any (isWordOf "select") = false)
    (unsafeSql "Compiled query must start with SELECT")
  throwWhen (sql.toList.contains ';') (unsafeSql "Compiled query must not contain semicolons")
  throwWhen (hasDisallowed text) (unsafeSql "Compiled query contains a disallowed SQL construct")
  throwWhen (finds limitPattern text = false)
    (unsafeSql "Compiled query must use a parameterized LIMIT")
  throwWhen (viewMatches text = [] ∨
      (viewMatches text).any fun view => !(allowedViews catalog).contains view)
    (unsafeSql "Compiled query references an unapproved dataset")
  throwWhen (appliedSecurityFilters.contains "tenant_id" = false)
    (unsafeSql "Compiled query is missing tenant security filter")
  throwWhen (appliedSecurityFilters.contains "company_id" ∧
      finds (anyPattern "company_id" "int") text = false)
    (unsafeSql "Company security filter was not compiled safely")
  throwWhen ((appliedSecurityFilters.contains "branch_id" ∨
        appliedSecurityFilters.contains "warehouse_id") ∧
      finds (anyPattern "branch_id" "uuid") text = false ∧
      finds (anyPattern "warehouse_id" "uuid") text = false)
    (unsafeSql "Branch security filter was not compiled safely")

end Forecast.Reporting
