import Forecast.Lib.Runs
import Forecast.Marg.AccountPostings
import Forecast.Reporting.DateRanges

/-!
# Time buckets

A bucket is found by its tenant, its period type and the key of the period, and it is made when
there is none. The key is made of the calendar year of a date. The bounds of a year or a quarter
are those of the fiscal year that the tenant has at the time.
-/

open KeyedTable Runs

namespace Forecast.TimeBuckets

open Reporting (newDate fullYear monthIndex dayOfMonth weekday)

inductive PeriodType where
  | daily
  | weekly
  | monthly
  | quarterly
  | yearly
deriving DecidableEq

/-! ### Dates -/

/-- The day that a moment lies in, counted as in `Calendar`. -/
def utcDay (date : Millis) : ℤ := date / 86400000 + 719468

/-- The day of a `Date`, which is invalid when it is too far from 1970. -/
def validDay (day : ℤ) : Option ℤ := if |day - 719468| ≤ 100000000 then some day else none

/-- A year that `Date.UTC` takes for one of the twentieth century. -/
def isShortYear (year : ℤ) : Prop := 0 ≤ year ∧ year ≤ 99

instance (year : ℤ) : Decidable (isShortYear year) := inferInstanceAs (Decidable (_ ∧ _))

/-- `new Date(Date.UTC(year, month, date))` -/
def dateUtc (year month date : ℤ) : Option ℤ :=
  validDay (newDate (if isShortYear year then 1900 + year else year) month date)

def padStart (width : ℕ) (text : String) : String :=
  String.ofList (List.replicate (width - text.length) '0') ++ text

/-- `NaN` when the first of January is no valid date. -/
def getWeekOfYear (date : Millis) : Option ℤ := do
  let start ← dateUtc (fullYear (utcDay date)) 0 1
  return (date - (start - 719468) * 86400000) / (7 * 24 * 60 * 60 * 1000) + 1

def buildPeriodKey (periodDate : Millis) (periodType : PeriodType) : String :=
  let year := fullYear (utcDay periodDate)
  let month := monthIndex (utcDay periodDate) + 1
  match periodType with
  | .monthly => toString year ++ "-" ++ padStart 2 (toString month)
  | .quarterly => toString year ++ "-Q" ++ toString ((month - 1) / 3 + 1)
  | .yearly => toString year
  | .weekly =>
    toString year ++ "-W" ++ padStart 2 ((getWeekOfYear periodDate).elim "NaN" toString)
  | .daily =>
    isoYear year ++ "-" ++ padStart 2 (toString month) ++ "-" ++
      padStart 2 (toString (dayOfMonth (utcDay periodDate)))

/-! ### The tables -/

structure TimeBucket where
  tenantId : Id
  periodType : PeriodType
  periodKey : String
  bucketStart : ℤ
  bucketEnd : ℤ
  fiscalYear : ℤ
  fiscalQuarter : Option ℤ
  fiscalMonth : Option ℤ
  fiscalWeek : Option ℤ
  isFrozen : Bool
deriving DecidableEq

def TimeBucket.key (bucket : TimeBucket) : Id × PeriodType × String :=
  (bucket.tenantId, bucket.periodType, bucket.periodKey)

structure Tenant where
  id : Id
  /-- Month of the year, from one. -/
  fiscalYearStart : {n : ℤ // 1 ≤ n ∧ n ≤ 12}
deriving DecidableEq

structure Db where
  tenants : List Tenant
  buckets : List TimeBucket
deriving DecidableEq

/-- Months are counted from zero. Weeks and days need no tenant. -/
def Db.fyStartMonth0 (db : Db) (tenantId : Id) (periodType : PeriodType) : ℤ :=
  match periodType with
  | .yearly | .quarterly | .monthly =>
    ((lookup Tenant.id db.tenants tenantId).elim 4 fun tenant => tenant.fiscalYearStart.val) - 1
  | .weekly | .daily => 3

/-! ### Buckets -/

def fiscalYearOf (fyStartMonth0 day : ℤ) : ℤ :=
  if monthIndex day ≥ fyStartMonth0 then fullYear day else fullYear day - 1

/-- The quarter of the fiscal year, from zero. -/
def quarterIndex (fyStartMonth0 day : ℤ) : ℤ := (monthIndex day - fyStartMonth0 + 12) % 12 / 3

/-- Days from Monday on are counted back to it. -/
def mondayOffset (day : ℤ) : ℤ := if weekday day = 0 then -6 else 1 - weekday day

/-- What a bucket is made of; its bounds may be invalid dates. -/
structure Period where
  bucketStart : Option ℤ
  bucketEnd : Option ℤ
  fiscalYear : ℤ
  fiscalQuarter : Option ℤ := none
  fiscalMonth : Option ℤ := none
  fiscalWeek : Option ℤ := none

def periodOf (fyStartMonth0 : ℤ) (periodDate : Millis) (periodType : PeriodType) : Period :=
  let day := utcDay periodDate
  let year := fullYear day
  let month := monthIndex day
  let fyYear := fiscalYearOf fyStartMonth0 day
  let qIndex := quarterIndex fyStartMonth0 day
  match periodType with
  | .yearly =>
    { bucketStart := dateUtc fyYear fyStartMonth0 1
      bucketEnd := dateUtc fyYear (fyStartMonth0 + 12) 0
      fiscalYear := fyYear }
  | .quarterly =>
    { bucketStart := dateUtc fyYear (fyStartMonth0 + qIndex * 3) 1
      bucketEnd := dateUtc fyYear (fyStartMonth0 + qIndex * 3 + 3) 0
      fiscalYear := fyYear
      fiscalQuarter := some (qIndex + 1) }
  | .monthly =>
    { bucketStart := dateUtc year month 1
      bucketEnd := dateUtc year (month + 1) 0
      fiscalYear := fyYear
      fiscalQuarter := some (qIndex + 1)
      fiscalMonth := some (month + 1) }
  | .weekly =>
    let bucketStart := dateUtc year month (dayOfMonth day + mondayOffset day)
    { bucketStart := bucketStart
      bucketEnd := bucketStart.bind fun start => validDay (start + 6)
      fiscalYear := year
      fiscalWeek := getWeekOfYear periodDate }
  | .daily =>
    let bucketStart := dateUtc year month (dayOfMonth day)
    { bucketStart := bucketStart, bucketEnd := bucketStart, fiscalYear := year }

inductive BucketError where
  | invalidDate
  | frozen (periodKey : String)
deriving DecidableEq

/-- The database client has its own text for an invalid date. -/
def BucketError.message : BucketError → String
  | invalidDate => "Invalid time value"
  | frozen periodKey => "Time bucket " ++ periodKey ++ " is frozen"

/-- A bucket that is there already is returned as it is. -/
def ensureBucket (db : Db) (tenantId : Id) (periodDate : Millis) (periodType : PeriodType)
    (periodKey : String) : Except BucketError (TimeBucket × Db) :=
  let period := periodOf (db.fyStartMonth0 tenantId periodType) periodDate periodType
  match period.bucketStart, period.bucketEnd with
  | some bucketStart, some bucketEnd =>
    match lookup TimeBucket.key db.buckets (tenantId, periodType, periodKey) with
    | some bucket => .ok (bucket, db)
    | none =>
      let bucket : TimeBucket :=
        { tenantId, periodType, periodKey, bucketStart, bucketEnd
          fiscalYear := period.fiscalYear
          fiscalQuarter := period.fiscalQuarter
          fiscalMonth := period.fiscalMonth
          fiscalWeek := period.fiscalWeek
          isFrozen := false }
      .ok (bucket, { db with buckets := db.buckets ++ [bucket] })
  | _, _ => .error .invalidDate

structure BucketCall where
  tenantId : Id
  periodDate : Millis
  periodType : PeriodType
  allowFrozen : Bool := false
deriving DecidableEq

def BucketCall.periodKey (call : BucketCall) : String :=
  buildPeriodKey call.periodDate call.periodType

def getBucketOrThrow (db : Db) (call : BucketCall) : Except BucketError (TimeBucket × Db) := do
  let found : Except BucketError (TimeBucket × Db) :=
    match lookup TimeBucket.key db.buckets (call.tenantId, call.periodType, call.periodKey) with
    | some bucket => .ok (bucket, db)
    | none => ensureBucket db call.tenantId call.periodDate call.periodType call.periodKey
  let (bucket, db) ← found
  if bucket.isFrozen && !call.allowFrozen then throw (.frozen call.periodKey)
  return (bucket, db)

/-! ### Runs -/

/-- The settings of a tenant change its fiscal year. Periods are closed in the table itself. -/
inductive Action where
  | getBucket (call : BucketCall)
  | setFiscalYearStart (tenant : Tenant)
  | setFrozen (key : Id × PeriodType × String) (isFrozen : Bool)
deriving DecidableEq

def next (db : Db) : Action → Db
  | .getBucket call =>
    match getBucketOrThrow db call with
    | .ok (_, after) => after
    | .error _ => db
  | .setFiscalYearStart tenant => { db with tenants := upsert Tenant.id db.tenants tenant }
  | .setFrozen key isFrozen =>
    { db with
      buckets := db.buckets.map fun bucket =>
        if bucket.key = key then { bucket with isFrozen := isFrozen } else bucket }

end Forecast.TimeBuckets
