import Forecast.Billing.Schema
import Forecast.Lib.Calendar

/-!
# Access policies and usage limits

A request is let through by the policy in force for it: each field is read from
the caller's USER row, else from the TENANT row, else from the row of the plan.
Usage is what the usage log holds since the start of the day or of the month.
-/

open GridRounding RowTable

namespace Forecast

inductive TenantTier where
  | starter
  | professional
  | enterprise
deriving DecidableEq

inductive AiAccessScope where
  | user
  | tenant
  | plan
deriving DecidableEq

inductive AiAccessStatus where
  | enabled
  | disabled
  | suspended
deriving DecidableEq

inductive AiUsageBillingStatus where
  | charged
  | failed
  | unbilled
deriving DecidableEq

/-- A money limit of a policy; a request to set a negative one is refused. -/
structure SpendLimit where
  column : Numeric
  nonneg : 0 ≤ column.micros
deriving DecidableEq

/-- A row of `ai_access_policies`. -/
structure AiAccessPolicy where
  scope : AiAccessScope
  tenantId : Option Id := none
  userId : Option Id := none
  planTier : Option TenantTier := none
  status : AiAccessStatus := .enabled
  allowedModelCodes : Option (List String) := none
  dailyRequestLimit : Option ℕ := none
  monthlyRequestLimit : Option ℕ := none
  maxQueryCost : Option SpendLimit := none
  maxDailySpend : Option SpendLimit := none
  maxMonthlySpend : Option SpendLimit := none
deriving DecidableEq

/-- A row of `ai_usage_logs`. -/
structure AiUsageLog where
  tenantId : Id
  userId : Option Id
  modelCode : String
  callType : String
  requestId : Option Id
  providerCost : Numeric
  customerCharge : Numeric
  margin : Numeric
  reservationId : Option Id
  transactionId : Option Id
  pricingId : Option Id
  status : AiUsageBillingStatus
  createdAt : Time
deriving DecidableEq

/-- Which scope decided each constraint. -/
structure PolicySources where
  status : Option AiAccessScope
  allowedModelCodes : Option AiAccessScope
  dailyRequestLimit : Option AiAccessScope
  monthlyRequestLimit : Option AiAccessScope
  maxQueryCost : Option AiAccessScope
  maxDailySpend : Option AiAccessScope
  maxMonthlySpend : Option AiAccessScope
deriving DecidableEq

structure EffectivePolicy where
  status : AiAccessStatus
  allowedModelCodes : Option (List String)
  dailyRequestLimit : Option ℕ
  monthlyRequestLimit : Option ℕ
  maxQueryCost : Option SpendLimit
  maxDailySpend : Option SpendLimit
  maxMonthlySpend : Option SpendLimit
  sources : PolicySources
deriving DecidableEq

/-- Who a request is made for. -/
structure AccessContext where
  tenantId : Id
  userId : Option Id
  planTier : Option TenantTier
deriving DecidableEq

def aiAccessDeniedError (code message : String) : AiBillingError := ⟨code, message, 403⟩

def spendLimitExceededError (message : String) : AiBillingError :=
  ⟨"AI_SPEND_LIMIT_EXCEEDED", message, 402⟩

/-! ### The policy in force -/

/-- The rows that exist for a request, the most specific scope first. -/
def policyChain (policies : List AiAccessPolicy) (context : AccessContext) :
    List AiAccessPolicy :=
  [context.userId.bind fun user =>
      policies.find? fun row => row.scope == .user && row.userId == some user,
    policies.find? fun row => row.scope == .tenant && row.tenantId == some context.tenantId,
    context.planTier.bind fun tier =>
      policies.find? fun row => row.scope == .plan && row.planTier == some tier].reduceOption

/-- The first row of the chain that sets the field, and what it sets it to. -/
def pick {α : Type} (chain : List AiAccessPolicy) (read : AiAccessPolicy → Option α) :
    Option (α × AiAccessScope) :=
  chain.findSome? fun row => (read row).map fun value => (value, row.scope)

def getEffectivePolicy (policies : List AiAccessPolicy) (context : AccessContext) :
    EffectivePolicy :=
  let chain := policyChain policies context
  let allowed := pick chain AiAccessPolicy.allowedModelCodes
  let dailyRequests := pick chain AiAccessPolicy.dailyRequestLimit
  let monthlyRequests := pick chain AiAccessPolicy.monthlyRequestLimit
  let queryCost := pick chain AiAccessPolicy.maxQueryCost
  let dailySpend := pick chain AiAccessPolicy.maxDailySpend
  let monthlySpend := pick chain AiAccessPolicy.maxMonthlySpend
  -- the most specific row that exists decides the status, even when it is ENABLED
  { status := (chain.head?.map AiAccessPolicy.status).getD .enabled
    allowedModelCodes := allowed.map Prod.fst
    dailyRequestLimit := dailyRequests.map Prod.fst
    monthlyRequestLimit := monthlyRequests.map Prod.fst
    maxQueryCost := queryCost.map Prod.fst
    maxDailySpend := dailySpend.map Prod.fst
    maxMonthlySpend := monthlySpend.map Prod.fst
    sources :=
      { status := chain.head?.map AiAccessPolicy.scope
        allowedModelCodes := allowed.map Prod.snd
        dailyRequestLimit := dailyRequests.map Prod.snd
        monthlyRequestLimit := monthlyRequests.map Prod.snd
        maxQueryCost := queryCost.map Prod.snd
        maxDailySpend := dailySpend.map Prod.snd
        maxMonthlySpend := monthlySpend.map Prod.snd } }

/-! ### Usage of a period -/

def msPerDay : Time := 86400000

/-- The number of 1 January 1970 among the days that `Calendar` counts. -/
def epochDay : ℤ := 719468

def startOfDay (now : Time) : Time := now / msPerDay * msPerDay

def startOfMonth (now : Time) : Time :=
  (Calendar.firstOfMonth (Calendar.monthOf (now / msPerDay + epochDay)) - epochDay) * msPerDay

theorem startOfDay_mono {a b : Time} (hab : a ≤ b) : startOfDay a ≤ startOfDay b := by
  have hday : a / msPerDay ≤ b / msPerDay := Int.ediv_le_ediv (by decide) hab
  exact Int.mul_le_mul_of_nonneg_right hday (by decide)

theorem startOfMonth_mono {a b : Time} (hab : a ≤ b) : startOfMonth a ≤ startOfMonth b := by
  have hday : a / msPerDay ≤ b / msPerDay := Int.ediv_le_ediv (by decide) hab
  have hfirst := Calendar.firstOfMonth_monthOf_mono (Int.add_le_add_right hday epochDay)
  exact Int.mul_le_mul_of_nonneg_right (Int.sub_le_sub_right hfirst epochDay) (by decide)

theorem startOfMonth_le_startOfDay (now : Time) : startOfMonth now ≤ startOfDay now := by
  have hfirst := Calendar.firstOfMonth_monthOf_le (now / msPerDay + epochDay)
  exact Int.mul_le_mul_of_nonneg_right (by omega) (by decide)

/-- 29 February 2024 lies in a month that began on the first. -/
example : startOfMonth 1709208000000 = 1706745600000 := by decide

def isUsageSince (tenantId : Id) (userId : Option Id) (since : Time) (row : AiUsageLog) : Bool :=
  row.tenantId == tenantId && decide (since ≤ row.createdAt) && row.status != .unbilled &&
    (userId.isNone || row.userId == userId)

structure UsageTotals where
  requests : ℕ
  spend : Decimal

def usageSince (logs : List AiUsageLog) (tenantId : Id) (userId : Option Id) (since : Time) :
    UsageTotals where
  requests := logs.countP (isUsageSince tenantId userId since)
  spend := ((logs.filter (isUsageSince tenantId userId since)).map
    fun row => row.customerCharge.toDecimal).sum

/-! ### The gate -/

def checkRequests (period : String) (limit : Option ℕ) (usage : Option UsageTotals) :
    Except Thrown Unit :=
  match limit, usage with
  | some limit, some usage =>
    throwIf (limit ≤ usage.requests)
      (spendLimitExceededError s!"{period} AI request limit ({limit}) reached")
  | _, _ => .ok ()

def checkSpend (period : String) (limit : Option SpendLimit) (usage : Option UsageTotals)
    (estimatedCharge : Decimal) : Except Thrown Unit :=
  match limit, usage with
  | some limit, some usage =>
    let bound := limit.column.toDecimal
    throwIf (bound < Decimal.plus usage.spend estimatedCharge)
      (spendLimitExceededError
        s!"Maximum {period} AI spend ({Decimal.toFixed bound 2}) would be exceeded")
  | _, _ => .ok ()

def checkQueryCost (limit : Option SpendLimit) (estimatedCharge : Decimal) :
    Except Thrown Unit :=
  match limit with
  | some limit =>
    let bound := limit.column.toDecimal
    throwIf (bound < estimatedCharge)
      (spendLimitExceededError
        s!"Estimated cost {Decimal.toFixed estimatedCharge 4} exceeds the per-query limit {Decimal.toFixed bound 4}")
  | none => .ok ()

def assertAccess (policies : List AiAccessPolicy) (logs : List AiUsageLog) (now : Time)
    (context : AccessContext) (modelCode : String) (estimatedCharge : Decimal) :
    Except Thrown EffectivePolicy := do
  let policy := getEffectivePolicy policies context
  throwIf (policy.status = .disabled)
    (aiAccessDeniedError "AI_ACCESS_DISABLED" "AI access is disabled for this account")
  throwIf (policy.status = .suspended)
    (aiAccessDeniedError "AI_ACCESS_SUSPENDED" "AI access is suspended for this account")
  throwIf (policy.allowedModelCodes.any fun codes => !codes.contains modelCode)
    (aiAccessDeniedError "AI_MODEL_NOT_ALLOWED"
      s!"Model {modelCode} is not allowed for this account")
  checkQueryCost policy.maxQueryCost estimatedCharge
  let needsDaily := policy.dailyRequestLimit.isSome || policy.maxDailySpend.isSome
  let needsMonthly := policy.monthlyRequestLimit.isSome || policy.maxMonthlySpend.isSome
  let daily := if needsDaily then
    some (usageSince logs context.tenantId context.userId (startOfDay now)) else none
  let monthly := if needsMonthly then
    some (usageSince logs context.tenantId context.userId (startOfMonth now)) else none
  checkRequests "Daily" policy.dailyRequestLimit daily
  checkRequests "Monthly" policy.monthlyRequestLimit monthly
  checkSpend "daily" policy.maxDailySpend daily estimatedCharge
  checkSpend "monthly" policy.maxMonthlySpend monthly estimatedCharge
  pure policy

/-! ### What a request that is let through was checked against -/

theorem checkRequests_eq_ok {period : String} {limit : ℕ} {usage : UsageTotals} {u : Unit} :
    checkRequests period (some limit) (some usage) = .ok u ↔ usage.requests < limit := by
  simp [checkRequests, throwIf_eq_ok]

theorem checkSpend_eq_ok {period : String} {limit : SpendLimit} {usage : UsageTotals}
    {estimatedCharge : Decimal} {u : Unit} :
    checkSpend period (some limit) (some usage) estimatedCharge = .ok u ↔
      Decimal.plus usage.spend estimatedCharge ≤ limit.column.toDecimal := by
  simp [checkSpend, throwIf_eq_ok]

/-- The four limits of a policy against the usage that the gate counts. -/
structure LimitsMet (policy : EffectivePolicy) (daily monthly : UsageTotals)
    (estimatedCharge : Decimal) : Prop where
  dailyRequests : ∀ limit, policy.dailyRequestLimit = some limit → daily.requests < limit
  monthlyRequests : ∀ limit, policy.monthlyRequestLimit = some limit → monthly.requests < limit
  dailySpend : ∀ limit, policy.maxDailySpend = some limit →
    Decimal.plus daily.spend estimatedCharge ≤ limit.column.toDecimal
  monthlySpend : ∀ limit, policy.maxMonthlySpend = some limit →
    Decimal.plus monthly.spend estimatedCharge ≤ limit.column.toDecimal

theorem limitsMet_of_assertAccess {policies : List AiAccessPolicy} {logs : List AiUsageLog}
    {now : Time} {context : AccessContext} {modelCode : String} {estimatedCharge : Decimal}
    {policy : EffectivePolicy}
    (h : assertAccess policies logs now context modelCode estimatedCharge = .ok policy) :
    policy = getEffectivePolicy policies context ∧
      LimitsMet policy (usageSince logs context.tenantId context.userId (startOfDay now))
        (usageSince logs context.tenantId context.userId (startOfMonth now)) estimatedCharge := by
  simp only [assertAccess, bind_eq_ok, pure_eq_ok] at h
  obtain ⟨-, -, -, -, -, -, -, -, dailyRequests, hdailyRequests, monthlyRequests,
    hmonthlyRequests, dailySpend, hdailySpend, monthlySpend, hmonthlySpend, rfl⟩ := h
  refine ⟨rfl, ?_, ?_, ?_, ?_⟩ <;> intro limit hlimit
  · simpa [hlimit, checkRequests_eq_ok] using hdailyRequests
  · simpa [hlimit, checkRequests_eq_ok] using hmonthlyRequests
  · simpa [hlimit, checkSpend_eq_ok] using hdailySpend
  · simpa [hlimit, checkSpend_eq_ok] using hmonthlySpend

theorem micros_add_le_of_plus_le {spent : ℤ} {estimate : Decimal} {limit : Numeric}
    (h : Decimal.plus (spent / microsPerUnit) estimate ≤ limit.toDecimal) :
    spent + roundHalfAway (estimate * microsPerUnit) ≤ limit.micros := by
  by_contra hgt
  have hnear := (abs_le.1 (abs_roundHalfAway_sub_le (estimate * microsPerUnit))).2
  have hnext : (limit.micros : ℚ) + 1 ≤ spent + roundHalfAway (estimate * microsPerUnit) := by
    exact_mod_cast Int.add_one_le_of_lt (not_le.1 hgt)
  -- half a micro above the limit is a number of at most 20 digits
  have hdigits : |10 * limit.micros + 5| < 10 ^ 20 := by
    have hbound := abs_lt.1 limit.bound
    rw [abs_lt]
    norm_num at hbound ⊢
    omega
  have hexact := toSignificant_intCast_mul_zpow (K := ℚ) Decimal.precision
    (10 * limit.micros + 5) (-7) hdigits
  have hle : ((10 * limit.micros + 5 : ℤ) : ℚ) * 10 ^ (-7 : ℤ) ≤
      spent / microsPerUnit + estimate := by
    rw [← mul_le_mul_iff_of_pos_right (show (0 : ℚ) < microsPerUnit by norm_num [microsPerUnit])]
    calc ((10 * limit.micros + 5 : ℤ) : ℚ) * 10 ^ (-7 : ℤ) * microsPerUnit
        = limit.micros + 1 / 2 := by
          push_cast
          norm_num [microsPerUnit]
          ring
      _ ≤ spent + estimate * microsPerUnit := by linarith
      _ = (spent / microsPerUnit + estimate) * microsPerUnit := by
          rw [add_mul, div_mul_cancel₀]
          norm_num [microsPerUnit]
  have hplus := toSignificant_mono (p := Decimal.precision) (by decide) hle
  rw [hexact] at hplus
  have hlimit := hplus.trans h
  rw [Numeric.toDecimal] at hlimit
  push_cast at hlimit
  norm_num [microsPerUnit] at hlimit
  linarith

theorem usageSince_spend (logs : List AiUsageLog) (tenantId : Id) (userId : Option Id)
    (since : Time) :
    (usageSince logs tenantId userId since).spend =
      (total (isUsageSince tenantId userId since) (fun row => row.customerCharge.micros) logs : ℤ) /
        microsPerUnit := by
  unfold usageSince
  induction logs with
  | nil => simp
  | cons row logs ih =>
    rw [total_cons]
    by_cases hrow : isUsageSince tenantId userId since row
    · simp only [hrow, List.filter_cons_of_pos, List.map_cons, List.sum_cons, if_true,
        Int.cast_add, add_div] at ih ⊢
      rw [ih, Numeric.toDecimal]
    · simpa [hrow] using ih

theorem usageSince_requests (logs : List AiUsageLog) (tenantId : Id) (userId : Option Id)
    (since : Time) :
    ((usageSince logs tenantId userId since).requests : ℤ) =
      total (isUsageSince tenantId userId since) (fun _ => 1) logs := by
  unfold usageSince
  induction logs with
  | nil => rfl
  | cons row logs ih =>
    rw [total_cons, ← ih, List.countP_cons]
    by_cases hrow : isUsageSince tenantId userId since row
    · simp [hrow]
      omega
    · simp [hrow]

end Forecast
