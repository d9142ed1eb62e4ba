import Forecast.Lib.Tally
import Forecast.Lib.ThreadPool

/-!
# The guard of AI reporting queries

`AiReportingUsageGuard.acquire` waits twice, for the tenant's configuration and for the counts of
its rate limits, and then tests and raises its two counters without waiting. What it returns is a
lease; `release` may be called on a lease at any time and as often as one likes.
-/

namespace Forecast.AiUsage

open ThreadPool

structure SecurityContext where
  tenantId : String
  userId : String
deriving DecidableEq

/-- The limits of `AiTenantOperationalConfig` that the guard reads, with the table's checks. -/
structure OperationalConfig where
  ratePerUserPerMinute : ℤ
  ratePerTenantPerHour : ℤ
  dailyTenantCallLimit : ℤ
  dailyUserCallLimit : ℤ
  monthlyCompanyCallLimit : ℤ
  maxConcurrentPerUser : ℤ
  maxConcurrentPerTenant : ℤ
  user_check : 1 ≤ maxConcurrentPerUser ∧ maxConcurrentPerUser ≤ 100
  tenant_check : 1 ≤ maxConcurrentPerTenant ∧ maxConcurrentPerTenant ≤ 1000

/-- `AI_OPERATIONAL_DEFAULTS` -/
def operationalDefaults : OperationalConfig where
  ratePerUserPerMinute := 20
  ratePerTenantPerHour := 500
  dailyTenantCallLimit := 2000
  dailyUserCallLimit := 100
  monthlyCompanyCallLimit := 5000
  maxConcurrentPerUser := 2
  maxConcurrentPerTenant := 20
  user_check := by decide
  tenant_check := by decide

inductive UsageError where
  | http (status : ℕ) (code message : String)
  /-- A query that the database refuses or does not answer. -/
  | database
deriving DecidableEq

structure UsageLease where
  security : SecurityContext
  released : Bool
deriving DecidableEq

structure GuardState where
  /-- `ai_tenant_provider_configs` -/
  providerConfigs : String → Option OperationalConfig
  activeByUser : String → Option ℤ
  activeByTenant : String → Option ℤ
  /-- The leases in the order in which they were given out. -/
  leases : List UsageLease

/-! ### The texts that PostgreSQL reads as a uuid -/

def isXDigit (c : Char) : Bool :=
  ('0' ≤ c && c ≤ '9') || ('a' ≤ c && c ≤ 'f') || ('A' ≤ c && c ≤ 'F')

/-- A hyphen may follow every second byte but the last. -/
def skipHyphen (left : ℕ) : List Char → List Char
  | '-' :: rest => if left % 2 = 0 ∧ 0 < left then rest else '-' :: rest
  | rest => rest

/-- Reads so many bytes of two digits. -/
def uuidBytes : ℕ → List Char → Option (List Char)
  | 0, rest => some rest
  | left + 1, a :: b :: rest =>
    if isXDigit a && isXDigit b then uuidBytes left (skipHyphen left rest) else none
  | _ + 1, _ => none

def isUuid (text : String) : Bool :=
  match text.toList with
  | '{' :: digits => uuidBytes 16 digits == some ['}']
  | digits => uuidBytes 16 digits == some []

example : isUuid "{0123-4567}" = false := by decide +kernel

/-- A tenant or a user as the database knows it. -/
abbrev Uuid := { text : String // isUuid text }

/-! ### Acquiring a lease -/

def getTenantOperationalConfig (guard : GuardState) (tenantId : String) : OperationalConfig :=
  if tenantId = "" then operationalDefaults
  else (guard.providerConfigs tenantId).getD operationalDefaults

def rateLimit (message : String) : UsageError := .http 429 "RATE_LIMIT_EXCEEDED" message

/-- What the audit table answers to the five counts. -/
structure AuditCounts where
  userMinuteCount : ℤ
  tenantHourCount : ℤ
  tenantDailyCalls : ℤ
  userDailyCalls : ℤ
  companyMonthlyCalls : ℤ

def countAudits (security : SecurityContext) (answer : Option AuditCounts) :
    Except UsageError AuditCounts :=
  match answer with
  | none => .error .database
  | some counts =>
    if isUuid security.tenantId && isUuid security.userId then .ok counts else .error .database

def assertRateLimits (companyId : Option ℤ) (config : OperationalConfig) (counts : AuditCounts) :
    Except UsageError Unit := do
  if config.ratePerUserPerMinute ≤ counts.userMinuteCount then
    throw (rateLimit "AI reporting rate limit exceeded for this user")
  if config.ratePerTenantPerHour ≤ counts.tenantHourCount then
    throw (rateLimit "AI reporting hourly limit exceeded for this company or tenant")
  if config.dailyTenantCallLimit ≤ counts.tenantDailyCalls then
    throw (rateLimit "AI reporting daily AI call limit exceeded for this tenant")
  if config.dailyUserCallLimit ≤ counts.userDailyCalls then
    throw (rateLimit "AI reporting daily AI call limit exceeded for this user")
  if companyId.isSome ∧ config.monthlyCompanyCallLimit ≤ counts.companyMonthlyCalls then
    throw (rateLimit "AI reporting monthly AI call limit exceeded for this company")

def userKey (security : SecurityContext) : String := s!"{security.tenantId}:{security.userId}"

/-- What `acquire` does after it has waited. -/
def countCall (guard : GuardState) (security : SecurityContext) (config : OperationalConfig) :
    Except UsageError GuardState :=
  if config.maxConcurrentPerUser ≤ Tally.count guard.activeByUser (userKey security) ∨
      config.maxConcurrentPerTenant ≤ Tally.count guard.activeByTenant security.tenantId then
    .error (rateLimit "Too many AI reporting queries are already running")
  else
    .ok { guard with
      activeByUser := Tally.increment guard.activeByUser (userKey security)
      activeByTenant := Tally.increment guard.activeByTenant security.tenantId
      leases := guard.leases ++ [⟨security, false⟩] }

/-- The closure that was returned as lease number `i`. -/
def release (guard : GuardState) (i : ℕ) : GuardState :=
  match guard.leases[i]? with
  | none => guard
  | some lease =>
    if lease.released then guard
    else
      { guard with
        activeByUser := Tally.decrement guard.activeByUser (userKey lease.security)
        activeByTenant := Tally.decrement guard.activeByTenant lease.security.tenantId
        leases := guard.leases.set i { lease with released := true } }

/-! ### Calls that interleave -/

inductive AcquireThread where
  | readConfig (security : SecurityContext) (companyId : Option ℤ)
  | checkRates (security : SecurityContext) (companyId : Option ℤ) (config : OperationalConfig)
  | admitting (security : SecurityContext) (config : OperationalConfig)
  | returned (lease : ℕ)
  | thrown (error : UsageError)

structure AcquireCall where
  security : SecurityContext
  companyId : Option ℤ

inductive GuardEvent where
  | saveConfig (tenantId : String) (row : OperationalConfig)
  | release (lease : ℕ)

/-- One step of `acquire`; without an answer the database has failed. -/
def advance (guard : GuardState) : AcquireThread → Option AuditCounts → GuardState × AcquireThread
  | .readConfig _ _, none => (guard, .thrown .database)
  | .readConfig security companyId, some _ =>
    (guard, .checkRates security companyId (getTenantOperationalConfig guard security.tenantId))
  | .checkRates security companyId config, answer =>
    match countAudits security answer >>= assertRateLimits companyId config with
    | .error e => (guard, .thrown e)
    | .ok _ => (guard, .admitting security config)
  | .admitting security config, _ =>
    match countCall guard security config with
    | .error e => (guard, .thrown e)
    | .ok guard' => (guard', .returned guard.leases.length)
  | .returned lease, _ => (guard, .returned lease)
  | .thrown e, _ => (guard, .thrown e)

def handle (guard : GuardState) : GuardEvent → GuardState
  | .saveConfig tenantId row =>
    { guard with providerConfigs := Function.update guard.providerConfigs tenantId (some row) }
  | .release lease => release guard lease

def guardProgram :
    Program GuardState AcquireThread AcquireCall (Option AuditCounts) GuardEvent where
  start _ _ call := some (.readConfig call.security call.companyId)
  advance := advance
  env := handle

abbrev GuardAction := Action AcquireCall (Option AuditCounts) GuardEvent

/-- The guard after a restart. -/
def started (providerConfigs : String → Option OperationalConfig) : GuardState where
  providerConfigs := providerConfigs
  activeByUser := fun _ => none
  activeByTenant := fun _ => none
  leases := []

end Forecast.AiUsage
