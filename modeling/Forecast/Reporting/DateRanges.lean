import Forecast.Lib.Calendar
import Forecast.Reporting.Catalog

/-!
# Date ranges of report queries

Days are counted as in `Calendar`. A date of JavaScript is a year, a month from zero and a day of
the month, any of which may lie outside its bounds and is carried over.
-/

namespace Forecast.Reporting

open Calendar

/-- `new Date(year, month, date)` -/
def newDate (year month date : ℤ) : ℤ := firstOfMonth (12 * year + month - 2) + date - 1

/-- `getFullYear()` -/
def fullYear (day : ℤ) : ℤ := (monthOf day + 2) / 12

/-- `getMonth()` -/
def monthIndex (day : ℤ) : ℤ := (monthOf day + 2) % 12

/-- `getDate()` -/
def dayOfMonth (day : ℤ) : ℤ := day - firstOfMonth (monthOf day) + 1

/-- `getDay()`, zero on Sundays. -/
def weekday (day : ℤ) : ℤ := (day + 3) % 7

/-- `setFullYear(getFullYear() - 1)` -/
def yearBefore (day : ℤ) : ℤ := newDate (fullYear day - 1) (monthIndex day) (dayOfMonth day)

def padStart2 (n : ℤ) : String := if n < 10 then "0" ++ toString n else toString n

def formatDate (day : ℤ) : String :=
  toString (fullYear day) ++ "-" ++ padStart2 (monthIndex day + 1) ++ "-" ++
    padStart2 (dayOfMonth day)

def number? (cs : List Char) : Option ℕ :=
  if cs.all Char.isDigit then some (cs.foldl (fun n c => 10 * n + (c.toNat - 48)) 0) else none

/-- Year, month and day of `/^\d{4}-\d{2}-\d{2}$/`. -/
def isoParts (text : String) : Option (ℕ × ℕ × ℕ) :=
  match JsText.splitChars '-' text.toList with
  | [y, m, d] =>
    if y.length = 4 ∧ m.length = 2 ∧ d.length = 2 then do
      return (← number? y, ← number? m, ← number? d)
    else none
  | _ => none

def isIsoDate (text : String) : Bool := (isoParts text).isSome

/-- The day of an ISO date; one past the end of its month is carried over. -/
def dayOf (text : String) : Option ℤ := do
  let (y, m, d) ← isoParts text
  if 1 ≤ m ∧ m ≤ 12 ∧ 1 ≤ d ∧ d ≤ 31 then some (newDate y (m - 1 : ℤ) d) else none

/-- A first and a last date as texts. -/
structure DateRange where
  startDate : String
  endDate : String

def DateRange.ofDays (first last : ℤ) : DateRange := ⟨formatDate first, formatDate last⟩

/-- First day of the quarter of the financial year that `today` lies in, moved by `quarters`. -/
def quarterStart (security : ReportingSecurityContext) (today quarters : ℤ) : ℤ :=
  let fyMonth0 := (security.fiscalYear.map fun year => monthIndex year.startDate).getD 3
  let fyYear := if monthIndex today ≥ fyMonth0 then fullYear today else fullYear today - 1
  let fiscalQIndex := (monthIndex today - fyMonth0 + 12) % 12 / 3
  newDate fyYear (fyMonth0 + fiscalQIndex * 3 + quarters * 3) 1

/-- What a range falls back to. -/
def financialYear (security : ReportingSecurityContext) (today : ℤ) : DateRange :=
  match security.fiscalYear with
  | some year => .ofDays year.startDate year.endDate
  | none => ⟨toString (fullYear today) ++ "-01-01", formatDate today⟩

def resolveDateRange (timeRange : SemanticTimeRange) (security : ReportingSecurityContext)
    (today : ℤ) : DateRange :=
  match timeRange.preset.getD .currentFinancialYear with
  | .custom =>
    ⟨timeRange.startDate.getD "undefined", timeRange.endDate.getD "undefined"⟩
  | .today => .ofDays today today
  | .yesterday => .ofDays (today - 1) (today - 1)
  | .last7Days => .ofDays (today - 6) today
  | .last30Days => .ofDays (today - 29) today
  | .thisWeek => .ofDays (today - weekday today) today
  | .lastWeek => .ofDays (today - weekday today - 7) (today - weekday today - 1)
  | .thisMonth => .ofDays (newDate (fullYear today) (monthIndex today) 1) today
  | .lastMonth =>
    .ofDays (newDate (fullYear today) (monthIndex today - 1) 1)
      (newDate (fullYear today) (monthIndex today) 0)
  | .thisQuarter => .ofDays (quarterStart security today 0) today
  | .lastQuarter =>
    .ofDays (quarterStart security today (-1)) (quarterStart security today 0 - 1)
  | .lastFinancialYear =>
    match security.fiscalYear with
    | some year => .ofDays (yearBefore year.startDate) (yearBefore year.endDate)
    | none => financialYear security today
  | .currentFinancialYear => financialYear security today
  | .unspecified => financialYear security today

def resolveComparisonRange (current : DateRange) (comparison : SemanticComparison) :
    Except ReportError DateRange :=
  if comparison.type = .custom then
    match truthy comparison.startDate, truthy comparison.endDate with
    | some first, some last => .ok ⟨first, last⟩
    | _, _ => .error (invalidQuery "Custom comparison requires startDate and endDate")
  else
    match dayOf current.startDate, dayOf current.endDate with
    | some first, some last =>
      if first > last then
        .error (invalidQuery "Comparison report has an invalid current date range")
      else if comparison.type = .previousYear then
        .ok (.ofDays (yearBefore first) (yearBefore last))
      else
        let days := last - first + 1
        .ok (.ofDays (first - 1 - days + 1) (first - 1))
    | _, _ => .error (invalidQuery "Comparison report has an invalid current date range")

end Forecast.Reporting
