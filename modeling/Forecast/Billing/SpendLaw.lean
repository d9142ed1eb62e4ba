import Forecast.Billing.Charges
import Mathlib.Data.Fintype.Defs

/-!
# TENANT limits over runs of prepare and settle

What a tenant uses in a period is what its usage log holds plus what its calls in
flight were admitted with. The gate counts the log only, and of the log only the
rows of the caller. So a TENANT limit bounds the tenant when nothing escapes the
gate: no call of the tenant is in flight at a check, the caller accounts for all
of the tenant's rows, and no USER row takes the limit's place.
-/

open GridRounding RowTable Runs

namespace Forecast

inductive LimitPeriod where
  | day
  | month
deriving DecidableEq

inductive LimitMeasure where
  | requests
  | spend
deriving DecidableEq

instance : Fintype LimitPeriod := ⟨{.day, .month}, fun period => by cases period <;> decide⟩

instance : Fintype LimitMeasure := ⟨{.requests, .spend}, fun measure => by cases measure <;> decide⟩

def LimitPeriod.start : LimitPeriod → Time → Time
  | .day => startOfDay
  | .month => startOfMonth

def AiAccessPolicy.limit (row : AiAccessPolicy) : LimitPeriod → LimitMeasure → Option ℤ
  | .day, .requests => row.dailyRequestLimit.map fun limit : ℕ => (limit : ℤ)
  | .month, .requests => row.monthlyRequestLimit.map fun limit : ℕ => (limit : ℤ)
  | .day, .spend => row.maxDailySpend.map fun limit => limit.column.micros
  | .month, .spend => row.maxMonthlySpend.map fun limit => limit.column.micros

def EffectivePolicy.limit (policy : EffectivePolicy) : LimitPeriod → LimitMeasure → Option ℤ
  | .day, .requests => policy.dailyRequestLimit.map fun limit : ℕ => (limit : ℤ)
  | .month, .requests => policy.monthlyRequestLimit.map fun limit : ℕ => (limit : ℤ)
  | .day, .spend => policy.maxDailySpend.map fun limit => limit.column.micros
  | .month, .spend => policy.maxMonthlySpend.map fun limit => limit.column.micros

namespace LimitMeasure

def ofLog : LimitMeasure → AiUsageLog → ℤ
  | .requests, _ => 1
  | .spend, row => row.customerCharge.micros

def ofStage : LimitMeasure → CallStage → ℤ
  | _, .checked _ _ => 0
  | .requests, .admitted _ => 1
  | .spend, .admitted ticket => Decimal.micros ticket.estimatedCharge
  | .requests, .settling _ _ _ _ => 1
  | .spend, .settling ticket outcome _ _ => Decimal.micros (ticket.settledCharge outcome)
  | _, .ended => 0

end LimitMeasure

def ChargeState.settledUse (s : ChargeState) (measure : LimitMeasure) (tenantId : Id)
    (since : Time) : ℤ :=
  total (isUsageSince tenantId none since) measure.ofLog s.usageLogs

/-- What a weight of the stages adds up to over a tenant's calls. -/
def ChargeState.callUse (s : ChargeState) (weight : CallStage → ℤ) (tenantId : Id) : ℤ :=
  total (fun call => call.input.tenantId == tenantId) (fun call => weight call.stage) s.calls

def AiAccessPolicy.IsOfTenant (row : AiAccessPolicy) (tenantId : Id) : Prop :=
  row.scope = .tenant ∧ row.tenantId = some tenantId

instance (row : AiAccessPolicy) (tenantId : Id) : Decidable (row.IsOfTenant tenantId) :=
  inferInstanceAs (Decidable (_ ∧ _))

/-- Every TENANT limit bounds, in every state of the run, what the tenant has settled in the
period plus what its admitted calls count. -/
def SpendLaw (config : ChargeConfig) (start : ChargeState) (actions : List ChargeAction) : Prop :=
  ∀ k tenantId, ∀ row ∈ config.policies, row.IsOfTenant tenantId →
    ∀ period measure limit, row.limit period measure = some limit →
      let s := stateAt (ChargeState.next config) start actions k
      s.settledUse measure tenantId (period.start s.now) +
        s.callUse measure.ofStage tenantId ≤ limit

def CallStage.isOver : CallStage → Bool
  | .ended => true
  | _ => false

/-- The gate sees everything that counts towards a TENANT row. -/
structure SeesAll (config : ChargeConfig) (s : ChargeState) (input : PrepareInput)
    (row : AiAccessPolicy) : Prop where
  enforced : enforcementEnabled config.enforcement = true
  noneInFlight : ∀ call ∈ s.calls, call.input.tenantId = input.tenantId → call.stage.isOver = true
  sameUser : input.userId = none ∨ ∀ log ∈ s.usageLogs, log.tenantId = input.tenantId →
    startOfMonth s.now ≤ log.createdAt → log.userId = input.userId
  inForce : ∀ period measure, row.limit period measure ≠ none →
    (getEffectivePolicy config.policies
      ⟨input.tenantId, input.userId, config.tenantTier input.tenantId⟩).limit period measure =
        row.limit period measure

def WithinEstimate (s : ChargeState) (call : ℕ) (outcome : SettleOutcome) : Prop :=
  match s.calls[call]? with
  | some ⟨_, .admitted ticket⟩ =>
    Decimal.micros (ticket.settledCharge outcome) ≤ Decimal.micros ticket.estimatedCharge
  | _ => True

/-- No step lets anything escape the limits. -/
def ChargeAction.EscapesNothing (config : ChargeConfig) (s : ChargeState)
    (action : ChargeAction) : Prop :=
  match action.step with
  | .check _ input => ∀ row ∈ config.policies, row.IsOfTenant input.tenantId →
      SeesAll config (s.wait action.elapsed) input row
  | .settle call outcome => WithinEstimate s call outcome
  | _ => True

instance (config : ChargeConfig) (s : ChargeState) (input : PrepareInput)
    (row : AiAccessPolicy) : Decidable (SeesAll config s input row) :=
  decidable_of_iff
    (enforcementEnabled config.enforcement = true ∧
      (∀ call ∈ s.calls, call.input.tenantId = input.tenantId → call.stage.isOver = true) ∧
      (input.userId = none ∨ ∀ log ∈ s.usageLogs, log.tenantId = input.tenantId →
        startOfMonth s.now ≤ log.createdAt → log.userId = input.userId) ∧
      ∀ period measure, row.limit period measure ≠ none →
        (getEffectivePolicy config.policies
          ⟨input.tenantId, input.userId, config.tenantTier input.tenantId⟩).limit period measure =
            row.limit period measure)
    ⟨fun ⟨enforced, inFlight, user, force⟩ => ⟨enforced, inFlight, user, force⟩,
      fun h => ⟨h.enforced, h.noneInFlight, h.sameUser, h.inForce⟩⟩

instance (s : ChargeState) (call : ℕ) (outcome : SettleOutcome) :
    Decidable (WithinEstimate s call outcome) := by
  unfold WithinEstimate
  split <;> infer_instance

instance (config : ChargeConfig) (s : ChargeState) (action : ChargeAction) :
    Decidable (action.EscapesNothing config s) := by
  unfold ChargeAction.EscapesNothing
  split <;> infer_instance

/-! ### What is held against a limit -/

/-- What a request counts when the gate lets it through. -/
def LimitMeasure.ofEstimate : LimitMeasure → Decimal → ℤ
  | .requests, _ => 1
  | .spend, estimatedCharge => Decimal.micros estimatedCharge

def LimitMeasure.held : LimitMeasure → CallStage → ℤ
  | measure, .checked _ estimatedCharge => max 0 (measure.ofEstimate estimatedCharge)
  | .requests, .admitted _ => 1
  | .spend, .admitted ticket => max 0 (Decimal.micros ticket.estimatedCharge)
  | .requests, .settling _ _ _ _ => 1
  | .spend, .settling ticket outcome _ _ => Decimal.micros (ticket.settledCharge outcome)
  | _, .ended => 0

def CallStage.Fits (tenantId : Id) : CallStage → Prop
  | .admitted ticket => ticket.tenantId = tenantId
  | .settling ticket outcome _ _ => ticket.tenantId = tenantId ∧ 0 ≤ ticket.settledCharge outcome
  | _ => True

structure ChargesSound (s : ChargeState) : Prop where
  logs : ∀ row ∈ s.usageLogs, 0 ≤ row.customerCharge.micros
  calls : ∀ call ∈ s.calls, call.stage.Fits call.input.tenantId

theorem LimitMeasure.ofStage_le_held (measure : LimitMeasure) (stage : CallStage) :
    measure.ofStage stage ≤ measure.held stage := by
  cases measure <;> cases stage <;> simp [ofStage, held]

theorem LimitMeasure.held_ended (measure : LimitMeasure) : measure.held .ended = 0 := by
  cases measure <;> rfl

theorem LimitMeasure.held_nonneg (measure : LimitMeasure) {tenantId : Id} {stage : CallStage}
    (h : stage.Fits tenantId) : 0 ≤ measure.held stage := by
  cases measure with
  | requests => cases stage <;> simp [held]
  | spend =>
    cases stage with
    | settling ticket outcome transactionId status => exact Decimal.micros_nonneg h.2
    | _ => simp [held]

theorem LimitMeasure.ofLog_nonneg (measure : LimitMeasure) {row : AiUsageLog}
    (h : 0 ≤ row.customerCharge.micros) : 0 ≤ measure.ofLog row := by
  cases measure with
  | requests => exact zero_le_one
  | spend => exact h

theorem LimitPeriod.start_mono (period : LimitPeriod) {a b : Time} (hab : a ≤ b) :
    period.start a ≤ period.start b := by
  cases period with
  | day => exact startOfDay_mono hab
  | month => exact startOfMonth_mono hab

/-! ### Steps -/

variable {config : ChargeConfig} {s : ChargeState} {measure : LimitMeasure} {tenantId : Id}

/-- What is held against a limit in a period. -/
def ChargeState.heldUse (s : ChargeState) (measure : LimitMeasure) (tenantId : Id)
    (since : Time) : ℤ :=
  s.settledUse measure tenantId since + s.callUse measure.held tenantId

theorem settledUse_anti (h : ChargesSound s) {since later : Time} (hle : since ≤ later) :
    s.settledUse measure tenantId later ≤ s.settledUse measure tenantId since := by
  apply total_mono
  intro row hrow
  have hnonneg := measure.ofLog_nonneg (h.logs row hrow)
  by_cases hlater : isUsageSince tenantId none later row
  · have hsince : isUsageSince tenantId none since row := by
      simp only [isUsageSince, Bool.and_eq_true, decide_eq_true_eq] at hlater ⊢
      exact ⟨⟨⟨hlater.1.1.1, hle.trans hlater.1.1.2⟩, hlater.1.2⟩, hlater.2⟩
    simp [hlater, hsince]
  · simp only [hlater]
    split_ifs <;> simp_all

theorem ChargesSound.wait (h : ChargesSound s) (elapsed : ℕ) : ChargesSound (s.wait elapsed) :=
  ⟨h.logs, h.calls⟩

/-- Time alone takes nothing towards a limit. -/
theorem heldUse_wait_le (h : ChargesSound s) (period : LimitPeriod) (elapsed : ℕ) :
    (s.wait elapsed).heldUse measure tenantId (period.start (s.wait elapsed).now) ≤
      s.heldUse measure tenantId (period.start s.now) := by
  apply Int.add_le_add_right
  apply settledUse_anti h
  exact period.start_mono (by simp [ChargeState.wait])

theorem ChargesSound.setStage (h : ChargesSound s) {call : ℕ} {row : ChargeCall}
    {stage : CallStage} (hcall : s.calls[call]? = some row)
    (hfits : stage.Fits row.input.tenantId) : ChargesSound (s.setStage call stage) := by
  refine ⟨h.logs, fun other hother => ?_⟩
  obtain ⟨i, hi⟩ := List.mem_iff_getElem?.1 hother
  obtain ⟨old, hold, rfl⟩ := exists_of_getElem?_modify s.calls _ hi
  split_ifs with heq
  · subst heq
    obtain rfl := Option.some.inj (hcall.symm.trans hold)
    exact hfits
  · exact h.calls old (List.mem_of_getElem? hold)

theorem callUse_setStage {call : ℕ} {row : ChargeCall} {stage : CallStage}
    (hcall : s.calls[call]? = some row) :
    (s.setStage call stage).callUse measure.held tenantId =
      s.callUse measure.held tenantId +
        if row.input.tenantId = tenantId then measure.held stage - measure.held row.stage
        else 0 := by
  unfold ChargeState.callUse ChargeState.setStage
  rw [total_modify _ _ _ hcall]
  by_cases htenant : row.input.tenantId = tenantId <;> simp [htenant]

/-- A call that moves on to a stage that holds no more. -/
theorem heldUse_setStage_le {call : ℕ} {row : ChargeCall} {stage : CallStage} {since : Time}
    (hcall : s.calls[call]? = some row) (hle : measure.held stage ≤ measure.held row.stage) :
    (s.setStage call stage).heldUse measure tenantId since ≤
      s.heldUse measure tenantId since := by
  unfold ChargeState.heldUse
  rw [callUse_setStage hcall]
  have hsame : (s.setStage call stage).settledUse measure tenantId since =
    s.settledUse measure tenantId since := rfl
  split_ifs <;> omega

theorem heldUse_log_le {call : ℕ} {input : PrepareInput} {ticket : ChargeTicket}
    {outcome : SettleOutcome} {transactionId : Option Id} {status : AiUsageBillingStatus}
    {row : AiUsageLog} {since : Time} (h : ChargesSound s)
    (hcall : s.calls[call]? = some ⟨input, .settling ticket outcome transactionId status⟩)
    (hrow : ticket.usageRow s.now outcome transactionId status = .ok row) :
    ({ s with usageLogs := s.usageLogs ++ [row] }.setStage call .ended).heldUse measure tenantId
      since ≤ s.heldUse measure tenantId since := by
  obtain ⟨htenant, hcharge⟩ := usageRow_eq_ok hrow
  have hfits : (CallStage.settling ticket outcome transactionId status).Fits input.tenantId :=
    h.calls _ (List.mem_of_getElem? hcall)
  have hheld : measure.ofLog row =
      measure.held (.settling ticket outcome transactionId status) := by
    cases measure with
    | requests => rfl
    | spend => exact hcharge
  have hnonneg := measure.held_nonneg hfits
  unfold ChargeState.heldUse
  rw [callUse_setStage (s := { s with usageLogs := s.usageLogs ++ [row] }) hcall,
    LimitMeasure.held_ended, ← hheld]
  have hcalls : ({ s with usageLogs := s.usageLogs ++ [row] } : ChargeState).callUse measure.held
    tenantId = s.callUse measure.held tenantId := rfl
  have hlogs : ({ s with usageLogs := s.usageLogs ++ [row] }.setStage call .ended).settledUse
      measure tenantId since = s.settledUse measure tenantId since +
        if isUsageSince tenantId none since row then measure.ofLog row else 0 :=
    total_append_row _ _ _ _
  rw [hcalls, hlogs]
  by_cases hcounts : isUsageSince tenantId none since row
  · have hmine : input.tenantId = tenantId := by
      simp only [isUsageSince, Bool.and_eq_true, beq_iff_eq] at hcounts
      rw [← hfits.1, ← htenant]
      exact hcounts.1.1.1
    simp only [hcounts, hmine, if_true]
    omega
  · rw [← hheld] at hnonneg
    simp only [hcounts]
    split_ifs <;> simp_all

/-- What the gate found the request to fit into. -/
theorem LimitsMet.add_le {policy : EffectivePolicy} {logs : List AiUsageLog} {now : Time}
    {userId : Option Id} {estimatedCharge : Decimal}
    (h : LimitsMet policy (usageSince logs tenantId userId (startOfDay now))
      (usageSince logs tenantId userId (startOfMonth now)) estimatedCharge)
    {period : LimitPeriod} {limit : ℤ} (hlimit : policy.limit period measure = some limit) :
    total (isUsageSince tenantId userId (period.start now)) measure.ofLog logs +
      measure.ofEstimate estimatedCharge ≤ limit := by
  cases measure with
  | requests =>
    change total _ (fun _ => (1 : ℤ)) logs + 1 ≤ limit
    rw [← usageSince_requests]
    cases period with
    | day =>
      obtain ⟨bound, hbound, rfl⟩ := Option.map_eq_some_iff.1 hlimit
      exact_mod_cast h.dailyRequests bound hbound
    | month =>
      obtain ⟨bound, hbound, rfl⟩ := Option.map_eq_some_iff.1 hlimit
      exact_mod_cast h.monthlyRequests bound hbound
  | spend =>
    cases period with
    | day =>
      obtain ⟨bound, hbound, rfl⟩ := Option.map_eq_some_iff.1 hlimit
      have hmet := h.dailySpend bound hbound
      rw [usageSince_spend] at hmet
      exact micros_add_le_of_plus_le hmet
    | month =>
      obtain ⟨bound, hbound, rfl⟩ := Option.map_eq_some_iff.1 hlimit
      have hmet := h.monthlySpend bound hbound
      rw [usageSince_spend] at hmet
      exact micros_add_le_of_plus_le hmet

theorem SeesAll.settledUse_eq {input : PrepareInput} {row : AiAccessPolicy}
    (h : SeesAll config s input row) (period : LimitPeriod) :
    s.settledUse measure input.tenantId (period.start s.now) =
      total (isUsageSince input.tenantId input.userId (period.start s.now)) measure.ofLog
        s.usageLogs := by
  have hstart : startOfMonth s.now ≤ period.start s.now := by
    cases period with
    | day => exact startOfMonth_le_startOfDay s.now
    | month => exact le_rfl
  unfold ChargeState.settledUse total
  congr 2
  apply List.filter_congr
  intro log hlog
  rcases h.sameUser with hnone | hsame
  · rw [hnone]
  · unfold isUsageSince
    by_cases hcounted : log.tenantId = input.tenantId ∧ period.start s.now ≤ log.createdAt
    · simp [hsame log hlog hcounted.1 (hstart.trans hcounted.2)]
    · rw [not_and_or] at hcounted
      rcases hcounted with htenant | hold
      · simp [htenant]
      · simp [hold]

theorem SeesAll.callUse_eq_zero {input : PrepareInput} {row : AiAccessPolicy}
    (h : SeesAll config s input row) : s.callUse measure.held input.tenantId = 0 := by
  unfold ChargeState.callUse total
  apply List.sum_eq_zero
  intro weight hweight
  obtain ⟨call, hcall, rfl⟩ := List.mem_map.1 hweight
  obtain ⟨hmem, htenant⟩ := List.mem_filter.1 hcall
  have hover := h.noneInFlight call hmem (by simpa using htenant)
  cases hstage : call.stage with
  | ended => exact measure.held_ended
  | _ => simp [hstage, CallStage.isOver] at hover

/-- A request that is let through by a gate that sees everything fits into the limit. -/
theorem SeesAll.heldUse_check_le {input : PrepareInput} {row : AiAccessPolicy}
    {resolved : Option AiModelPricing} {stage : CallStage} {period : LimitPeriod} {limit : ℤ}
    (h : SeesAll config s input row) (hlimit : row.limit period measure = some limit)
    (hcheck : checkCall config s.usageLogs s.now resolved input = .ok stage)
    (hwithin : s.heldUse measure input.tenantId (period.start s.now) ≤ limit) :
    ({ s with calls := s.calls ++ [⟨input, stage⟩] } : ChargeState).heldUse measure input.tenantId
      (period.start s.now) ≤ limit := by
  obtain ⟨pricing, estimatedCharge, policy, rfl, hassert⟩ := checkCall_eq_ok h.enforced hcheck
  obtain ⟨rfl, hmet⟩ := limitsMet_of_assertAccess hassert
  have hforce := h.inForce period measure (by simp [hlimit])
  have hfits := hmet.add_le (hforce.trans hlimit)
  have hcalls : ({ s with calls := s.calls ++ [⟨input, .checked pricing estimatedCharge⟩] } :
      ChargeState).callUse measure.held input.tenantId =
        s.callUse measure.held input.tenantId +
          measure.held (.checked pricing estimatedCharge) := by
    unfold ChargeState.callUse
    rw [total_append_row]
    simp
  have hsettled : s.settledUse measure input.tenantId (period.start s.now) = _ :=
    h.settledUse_eq period
  have hzero : s.callUse measure.held input.tenantId = 0 := h.callUse_eq_zero
  have hheld : measure.held (.checked pricing estimatedCharge) =
      max 0 (measure.ofEstimate estimatedCharge) := by
    cases measure <;> rfl
  unfold ChargeState.heldUse at hwithin ⊢
  rw [hcalls, hheld]
  change s.settledUse measure input.tenantId (period.start s.now) + _ ≤ limit
  dsimp only at hfits
  omega

/-- A request of another tenant takes nothing towards the limit. -/
theorem heldUse_check_of_ne {input : PrepareInput} {stage : CallStage} {since : Time}
    (hne : input.tenantId ≠ tenantId) :
    ({ s with calls := s.calls ++ [⟨input, stage⟩] } : ChargeState).heldUse measure tenantId since =
      s.heldUse measure tenantId since := by
  unfold ChargeState.heldUse ChargeState.callUse
  rw [total_append_row]
  simp [hne, ChargeState.settledUse]

theorem checkCall_fits {logs : List AiUsageLog} {now : Time} {resolved : Option AiModelPricing}
    {input : PrepareInput} {stage : CallStage}
    (h : checkCall config logs now resolved input = .ok stage) : stage.Fits input.tenantId := by
  by_cases henabled : enforcementEnabled config.enforcement = false
  · simp only [checkCall, henabled, if_true, Except.ok.injEq] at h
    subst h
    exact rfl
  · obtain ⟨_, _, _, rfl, -⟩ := checkCall_eq_ok (by simpa using henabled) h
    trivial

/-! ### Runs -/

/-- No TENANT limit is passed by what is held against it. -/
structure LimitsHeld (config : ChargeConfig) (s : ChargeState) : Prop where
  sound : ChargesSound s
  within : ∀ tenantId, ∀ row ∈ config.policies, row.IsOfTenant tenantId →
    ∀ period measure limit, row.limit period measure = some limit →
      s.heldUse measure tenantId (period.start s.now) ≤ limit

theorem LimitsHeld.of_le {s' : ChargeState} (h : LimitsHeld config s) (hsound : ChargesSound s')
    (hnow : s'.now = s.now)
    (hle : ∀ measure tenantId since,
      s'.heldUse measure tenantId since ≤ s.heldUse measure tenantId since) :
    LimitsHeld config s' := by
  refine ⟨hsound, fun tenantId row hrow htenant period measure limit hlimit => ?_⟩
  rw [hnow]
  exact (hle _ _ _).trans (h.within tenantId row hrow htenant period measure limit hlimit)

theorem LimitsHeld.wait (h : LimitsHeld config s) (elapsed : ℕ) :
    LimitsHeld config (s.wait elapsed) :=
  ⟨h.sound.wait elapsed, fun tenantId row hrow htenant period measure limit hlimit =>
    (heldUse_wait_le h.sound period elapsed).trans
      (h.within tenantId row hrow htenant period measure limit hlimit)⟩

theorem LimitsHeld.setStage (h : LimitsHeld config s) {call : ℕ} {row : ChargeCall} {db : Db}
    {stage : CallStage} (hcall : s.calls[call]? = some row)
    (hfits : stage.Fits row.input.tenantId)
    (hle : ∀ measure : LimitMeasure, measure.held stage ≤ measure.held row.stage) :
    LimitsHeld config ({ s with db := db }.setStage call stage) := by
  have hsound : ChargesSound { s with db := db } := ⟨h.sound.logs, h.sound.calls⟩
  apply h.of_le (hsound.setStage hcall hfits) rfl
  intro measure tenantId since
  exact heldUse_setStage_le (s := { s with db := db }) hcall (hle measure)

theorem LimitsHeld.check (h : LimitsHeld config s) {resolved : Option AiModelPricing}
    {input : PrepareInput}
    (hsees : ∀ row ∈ config.policies, row.IsOfTenant input.tenantId →
      SeesAll config s input row) :
    LimitsHeld config (s.take config (.check resolved input)) := by
  dsimp only [ChargeState.take]
  cases hcheck : checkCall config s.usageLogs s.now resolved input with
  | error e => exact h
  | ok stage =>
    refine ⟨⟨h.sound.logs, fun call hcall => ?_⟩,
      fun tenantId row hrow htenant period measure limit hlimit => ?_⟩
    · rcases List.mem_append.1 hcall with hold | hnew
      · exact h.sound.calls call hold
      · obtain rfl := List.mem_singleton.1 hnew
        exact checkCall_fits hcheck
    · have hwithin := h.within tenantId row hrow htenant period measure limit hlimit
      by_cases heq : input.tenantId = tenantId
      · subst heq
        exact (hsees row hrow htenant).heldUse_check_le hlimit hcheck hwithin
      · rw [heldUse_check_of_ne heq]
        exact hwithin

theorem LimitsHeld.reserve (h : LimitsHeld config s) (call : ℕ) :
    LimitsHeld config (s.take config (.reserve call)) := by
  dsimp only [ChargeState.take]
  split
  · next input pricing estimatedCharge hcall =>
    split
    · next ticket db hreserve =>
      obtain ⟨htenant, hestimate⟩ := reserveCall_eq_ok hreserve
      have hfits : (CallStage.admitted ticket).Fits input.tenantId := htenant
      apply h.setStage hcall hfits
      intro measure
      cases measure <;> simp [LimitMeasure.held, LimitMeasure.ofEstimate, hestimate]
    · exact h.setStage hcall trivial fun measure => by
        rw [measure.held_ended]
        exact measure.held_nonneg (h.sound.calls _ (List.mem_of_getElem? hcall))
  · exact h

theorem LimitsHeld.settle (h : LimitsHeld config s) {call : ℕ} {outcome : SettleOutcome}
    (hwithin : WithinEstimate s call outcome) :
    LimitsHeld config (s.take config (.settle call outcome)) := by
  dsimp only [ChargeState.take]
  split
  · next input ticket hcall =>
    have hfits : ticket.tenantId = input.tenantId :=
      h.sound.calls _ (List.mem_of_getElem? hcall)
    split
    · next transactionId status db hsettle =>
      have hsettled : (CallStage.settling ticket outcome transactionId status).Fits
          input.tenantId := ⟨hfits, settledCharge_nonneg hsettle⟩
      apply h.setStage hcall hsettled
      intro measure
      rw [WithinEstimate, hcall] at hwithin
      cases measure with
      | requests => exact le_rfl
      | spend => exact le_max_of_le_right hwithin
    · exact h.setStage hcall trivial fun measure => by
        rw [measure.held_ended]
        exact measure.held_nonneg (h.sound.calls _ (List.mem_of_getElem? hcall))
  · exact h

theorem LimitsHeld.log (h : LimitsHeld config s) (call : ℕ) :
    LimitsHeld config (s.take config (.log call)) := by
  dsimp only [ChargeState.take]
  split
  · next input ticket outcome transactionId status hcall =>
    split
    · next row hrow =>
      have hfits : _ ∧ 0 ≤ ticket.settledCharge outcome :=
        h.sound.calls _ (List.mem_of_getElem? hcall)
      have hsound : ChargesSound { s with usageLogs := s.usageLogs ++ [row] } := by
        refine ⟨fun log hlog => ?_, h.sound.calls⟩
        rcases List.mem_append.1 hlog with hold | hnew
        · exact h.sound.logs log hold
        · obtain rfl := List.mem_singleton.1 hnew
          rw [(usageRow_eq_ok hrow).2]
          exact Decimal.micros_nonneg hfits.2
      exact h.of_le (hsound.setStage hcall trivial) rfl fun measure tenantId since =>
        heldUse_log_le h.sound hcall hrow
    · exact h
  · exact h

theorem LimitsHeld.next (h : LimitsHeld config s) {action : ChargeAction}
    (hescapes : action.EscapesNothing config s) :
    LimitsHeld config (s.next config action) := by
  obtain ⟨elapsed, step⟩ := action
  have hwait := h.wait elapsed
  cases step with
  | check resolved input => exact hwait.check hescapes
  | reserve call => exact hwait.reserve call
  | settle call outcome => exact hwait.settle hescapes
  | log call => exact hwait.log call
  | wallet call => exact hwait.of_le ⟨hwait.sound.logs, hwait.sound.calls⟩ rfl fun _ _ _ => le_rfl

theorem AiAccessPolicy.limit_nonneg {row : AiAccessPolicy} {period : LimitPeriod} {limit : ℤ}
    (h : row.limit period measure = some limit) : 0 ≤ limit := by
  cases period <;> cases measure <;> obtain ⟨bound, -, rfl⟩ := Option.map_eq_some_iff.1 h
  all_goals first | exact bound.nonneg | exact Int.natCast_nonneg bound

theorem limitsHeld_start (config : ChargeConfig) (now : Time) (db : Db) :
    LimitsHeld config (.start now db) :=
  ⟨⟨fun _ h => absurd h List.not_mem_nil, fun _ h => absurd h List.not_mem_nil⟩,
    fun _ _ _ _ _ _ _ hlimit => AiAccessPolicy.limit_nonneg hlimit⟩

theorem callUse_ofStage_le (s : ChargeState) (measure : LimitMeasure) (tenantId : Id) :
    s.callUse measure.ofStage tenantId ≤ s.callUse measure.held tenantId := by
  apply total_mono
  intro call _
  split_ifs
  · exact measure.ofStage_le_held call.stage
  · exact le_rfl

/-- A TENANT limit bounds the tenant in every run in which nothing escapes the gate. -/
theorem spendLaw_of_escapesNothing (config : ChargeConfig) (now : Time) (db : Db)
    (actions : List ChargeAction)
    (h : Always (ChargeState.next config) (fun s action => action.EscapesNothing config s)
      (.start now db) actions) :
    SpendLaw config (.start now db) actions := by
  intro k tenantId row hrow htenant period measure limit hlimit
  have hheld : LimitsHeld config (stateAt (ChargeState.next config) (.start now db) actions k) :=
    h.invariant_at (fun _ _ hs => hs.next) (limitsHeld_start config now db) k
  have hwithin := hheld.within tenantId row hrow htenant period measure limit hlimit
  exact (Int.add_le_add_left (callUse_ofStage_le _ measure tenantId) _).trans hwithin

def oneUnitConfig : ChargeConfig where
  enforcement := none
  policies :=
    [{ scope := .tenant
       tenantId := some 7
       maxMonthlySpend := some ⟨⟨1000000, by decide⟩, by decide⟩ }]
  tenantTier _ := none

/-- A prompt token costs 0.6. -/
def dearPricing : AiModelPricing where
  id := 0
  scope := .global
  currency := "USD"
  provider := ⟨.zero, .zero, .zero, .zero, .zero, .zero⟩
  customer := ⟨⟨600000000000, by decide⟩, .zero, .zero, .zero, .zero, .zero⟩

def oneTokenCheck (userId : Id) : ChargeAction where
  elapsed := 1000
  step := .check (some dearPricing)
    { tenantId := 7
      userId := some userId
      modelId := some 0
      modelCode := "gpt-4o"
      callType := "query"
      estimatedPromptTokens := 1
      maxCompletionTokens := 0 }

/-- A first call, prepared and settled for its estimate. -/
def oneTokenCall (userId : Id) : List ChargeAction :=
  [⟨0, .wallet (.postTransaction { tenantId := 7, type := .manualCredit, amount := 10 })⟩,
    oneTokenCheck userId, ⟨5, .reserve 0⟩,
    ⟨900, .settle 0 { success := true, usage := { promptTokens := some 1 } }⟩, ⟨5, .log 0⟩]

/-- The user comes back and is turned away. -/
theorem spendLaw_sameUserAgain :
    SpendLaw oneUnitConfig (.start 0 Db.empty) (oneTokenCall 1 ++ [oneTokenCheck 1]) :=
  spendLaw_of_escapesNothing oneUnitConfig 0 Db.empty _ (by decide +kernel)

/-- A second user of the tenant is let through: 1.2 units against a limit of one. -/
theorem not_spendLaw_secondUser :
    ¬ SpendLaw oneUnitConfig (.start 0 Db.empty)
      (oneTokenCall 1 ++ [oneTokenCheck 2, ⟨5, .reserve 1⟩]) := by
  intro h
  have hlast := h 7 7 _ (List.mem_singleton.2 rfl) ⟨rfl, rfl⟩ .month .spend 1000000 rfl
  revert hlast
  decide +kernel

end Forecast
