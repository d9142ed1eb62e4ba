import Forecast.Marg.Values

/-!
# Dates and date windows

`parseMargDate` reads day-first dates, then ISO dates, and leaves the rest to
the platform.
-/

open JsText

namespace Forecast

namespace MargDate

/-- Days from the epoch to the first of January. -/
def yearStart (year : ℤ) : ℤ :=
  365 * (year - 1970) + (year - 1969) / 4 - (year - 1901) / 100 + (year - 1601) / 400

def isLeap (year : ℤ) : Bool :=
  year % 4 = 0 ∧ (year % 100 ≠ 0 ∨ year % 400 = 0)

/-- Days from the first of January to the first of the month, which counts from zero. -/
def monthStart (year : ℤ) (month : ℕ) : ℤ :=
  ([0, 31, 59, 90, 120, 151, 181, 212, 243, 273, 304, 334].getD month 0) +
    if isLeap year ∧ 2 ≤ month then 1 else 0

/-- The last time a `Date` can hold. -/
def maxTime : ℤ := 8640000000000000

/-- `Date.UTC`; none when the time is out of range. -/
def utc (year month day hour minute second : ℤ) : Option Millis :=
  let fullYear := if 0 ≤ year ∧ year ≤ 99 then 1900 + year else year
  let carried := fullYear + month / 12
  let days := yearStart carried + monthStart carried (month % 12).toNat + (day - 1)
  let time := ((days * 24 + hour) * 60 + minute) * 60000 + second * 1000
  if |time| ≤ maxTime then some time else none

/-- `Number(part)` when it is an integer. -/
def integer? (part : List Char) : Option ℤ :=
  match MargValue.numberOf part with
  | some q => if q.den = 1 then some q.num else none
  | none => none

/-- The day-first reading: three parts of which the first is short, each in its range. -/
def dayFirst? (cs : List Char) : Option (Option Millis) :=
  let normalized := cs.map fun c => if c = '.' ∨ c = '-' then '/' else c
  match splitChars '/' normalized with
  | [dayPart, monthPart, yearPart] =>
    if dayPart.length ≤ 2 then
      match integer? dayPart, integer? monthPart, integer? yearPart with
      | some day, some month, some year =>
        if 1 ≤ day ∧ day ≤ 31 ∧ 1 ≤ month ∧ month ≤ 12 ∧ 1900 ≤ year then
          some (utc year (month - 1) day 0 0 0)
        else none
      | _, _, _ => none
    else none
  | _ => none

/-- One or two digits, and what follows. -/
def shortNumber? (cs : List Char) : Option (ℕ × List Char) :=
  let digits := (cs.takeWhile isDigit).take 2
  (natural? 10 digits).map fun n => (n, cs.drop digits.length)

/-- An optional `:` with one or two digits; absent it counts as zero. -/
def colonNumber (cs : List Char) : ℕ × List Char :=
  match cs with
  | ':' :: ds => (shortNumber? ds).getD (0, cs)
  | _ => (0, cs)

/-- The part after the date: nothing, or a separator and a time. -/
def timePart? (cs : List Char) : Option (ℕ × ℕ × ℕ) :=
  match cs with
  | [] => some (0, 0, 0)
  | c :: ds =>
    if c = ' ' ∨ c = 'T' then do
      let (hour, rest) ← shortNumber? ds
      let (minute, rest) := colonNumber rest
      let (second, rest) := colonNumber rest
      if rest = [] then pure (hour, minute, second) else none
    else none

/-- The ISO reading. -/
def iso? (cs : List Char) : Option (Option Millis) := do
  let year ← natural? 10 (cs.take 4)
  let rest ← afterSeparator (cs.drop 4)
  let (month, rest) ← shortNumber? rest
  let rest ← afterSeparator rest
  let (day, rest) ← shortNumber? rest
  let (hour, minute, second) ← timePart? rest
  pure (utc year (month - 1) day hour minute second)
where
  afterSeparator : List Char → Option (List Char)
    | c :: cs => if c = '-' ∨ c = '/' then some cs else none
    | [] => none

end MargDate

open MargDate

def parseMargDate (platform : Platform) (value : MargValue) : Option Millis :=
  let text := value.trimmed
  if text = "" then none
  else
    match dayFirst? text.toList with
    | some date => date
    | none =>
      match iso? text.toList with
      | some date => date
      | none => platform.parseDate text

structure DateWindow where
  start : Option Millis
  stop : Option Millis
deriving DecidableEq

def given (parameter : Option String) : Option String := parameter.filter (· ≠ "")

inductive DateWindowError where
  | badFromDate
  | badEndDate
  | reversed
deriving DecidableEq

def DateWindowError.text : DateWindowError → String
  | badFromDate => "fromDate must be a valid date (YYYY-MM-DD)"
  | badEndDate => "endDate must be a valid date (YYYY-MM-DD)"
  | reversed => "endDate must be on or after fromDate"

def buildDateWindow (platform : Platform) (fromDate endDate : Option String) :
    Except DateWindowError (Option DateWindow) :=
  let start := (given fromDate).bind fun text => parseMargDate platform (.text text)
  let stop := (given endDate).bind fun text => parseMargDate platform (.text text)
  if (given fromDate).isSome ∧ start = none then .error .badFromDate
  else if (given endDate).isSome ∧ stop = none then .error .badEndDate
  else
    match start, stop with
    | some a, some b => if b < a then .error .reversed else .ok (some ⟨start, stop⟩)
    | none, none => .ok none
    | _, _ => .ok (some ⟨start, stop⟩)

def isWithinDateWindow (date : Millis) : Option DateWindow → Bool
  | none => true
  | some window => window.start.all (· ≤ date) && window.stop.all (date ≤ ·)

/-- A time written to a `DATE` column. -/
def dateColumn (time : Millis) : Millis := time / 86400000 * 86400000

/-- A `DateTimeFilter`. -/
structure DateWhere where
  gte : Option Millis
  lte : Option Millis
deriving DecidableEq

def buildDateWhere (dateWindow : Option DateWindow) : Option DateWhere :=
  dateWindow.map fun window => ⟨window.start, window.stop⟩

/-- The condition on a `DATE` column; its bounds are sent as dates. -/
def isInDateWhere (dateWindow : Option DateWindow) (date : Millis) : Bool :=
  (buildDateWhere dateWindow).all fun dateWhere =>
    dateWhere.gte.all (dateColumn · ≤ date) && dateWhere.lte.all (date ≤ dateColumn ·)

end Forecast
