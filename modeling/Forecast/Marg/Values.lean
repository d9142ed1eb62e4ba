import Forecast.Billing.Money
import Forecast.Lib.JsText

/-!
# Fields of Marg rows

A row that Marg sends is a JSON object; the staging code reads its fields with
the conversions below. What the JavaScript platform decides (upper case beyond
ASCII, the dates `new Date` understands) is a parameter.
-/

open JsText

namespace Forecast

/-- Milliseconds since the epoch. -/
abbrev Millis := ℤ

/-- The platform functions that the language leaves to Unicode tables or to the implementation. -/
structure Platform where
  toUpperCase : String → String
  /-- `new Date(text).getTime()`, none for an invalid date. -/
  parseDate : String → Option Millis

/-- A scalar field of a row; `missing` is `null` or `undefined`. -/
inductive MargValue where
  | missing
  | flag (value : Bool)
  /-- The number, and how it prints. -/
  | number (value : ℚ) (shown : String)
  | text (value : String)
deriving DecidableEq

structure MargRow where
  fields : List (String × MargValue)
deriving DecidableEq

namespace MargValue

/-- `value || ''`, as a string. -/
def orEmpty : MargValue → String
  | missing => ""
  | flag value => if value then "true" else ""
  | number value shown => if value = 0 then "" else shown
  | text value => value

/-- `String(value)`. -/
def toText : MargValue → String
  | missing => "null"
  | flag value => if value then "true" else "false"
  | number _ shown => shown
  | text value => value

/-- The largest binary64 numbers; what is rounded beyond them is infinite. -/
def infinityBound : ℚ := 2 ^ 1024 - 2 ^ 970

/-- `Number(text)` when it is finite. -/
def numberOf (cs : List Char) : Option ℚ :=
  match decimal? cs with
  | some q => if |q| < infinityBound then some (Decimal.toDouble q) else none
  | none => none

/-- `Number(value)` when it is finite. A missing field gives zero or nothing, which every caller
treats alike. -/
def toNumber : MargValue → Option ℚ
  | missing => none
  | flag value => some (if value then 1 else 0)
  | number value _ => some value
  | text value => numberOf value.toList

/-- `Math.trunc`. -/
def trunc (q : ℚ) : ℤ := q.num.tdiv q.den

def int32Min : ℤ := -2147483648

def int32Max : ℤ := 2147483647

/-- The fallback is zero wherever the staging code calls it. -/
def toInt32 (value : MargValue) : ℤ :=
  match value.toNumber with
  | none => 0
  | some numeric =>
    if trunc numeric < int32Min ∨ int32Max < trunc numeric then 0 else trunc numeric

def toBigInt (value : MargValue) : ℤ :=
  match value.toNumber with
  | none => 0
  | some numeric => trunc numeric

/-- `String(value || '').trim()`. -/
def trimmed (value : MargValue) : String := trim value.orEmpty

def normalizeMargCode (platform : Platform) (value : MargValue) : String :=
  String.ofList ((platform.toUpperCase value.trimmed).toList.take 20)

end MargValue

namespace MargRow

def get (row : MargRow) (name : String) : MargValue := (row.fields.lookup name).getD .missing

def readFirstDefined (row : MargRow) (names : List String) : MargValue :=
  ((names.map row.get).find? fun value => value ≠ .missing).getD .missing

/-- The empty string stands for `null`. -/
def readMargString (row : MargRow) (names : List String) (maxLength : ℕ) : String :=
  match row.readFirstDefined names with
  | .missing => ""
  | value => String.ofList ((trim value.toText).toList.take maxLength)

def companyId (row : MargRow) : ℤ := (row.get "CompanyID").toInt32

def buildSourceKey (row : MargRow) : String :=
  let companyId := (row.get "CompanyID").trimmed
  let sourceRowId := (row.get "ID").trimmed
  s!"marg:{companyId}:{sourceRowId}"

end MargRow

/-- The binary64 numbers that print as `left` and `right` are subtracted and compared. -/
@[irreducible] def isWithinTolerance (left right tolerance : ℚ) : Bool :=
  |Binary64.sub (Decimal.toDouble left) (Decimal.toDouble right)| ≤ Decimal.toDouble tolerance

end Forecast
