import Forecast.Billing.AccessPolicies
import Forecast.Billing.Pricing
import Forecast.Billing.WalletCalls
import Forecast.Lib.JsText

/-!
# The charge service

A call is prepared, runs outside, and is settled. Preparing reads the policies
and the usage log and then reserves credits; settling closes the reservation and
then writes the usage row. Each of these four database steps is an action of its
own, so the steps of any number of calls can interleave. A call whose process
dies takes no further action.
-/

open GridRounding

namespace Forecast

/-- A decimal on its way to six places, in micros. -/
def Decimal.micros (q : Decimal) : ℤ := roundHalfAway (q * microsPerUnit)

/-- The number that `toFixed(6)` prints. -/
def Decimal.atSixPlaces (q : Decimal) : Decimal := Decimal.micros q / microsPerUnit

@[simp] theorem Decimal.micros_atSixPlaces (q : Decimal) :
    Decimal.micros (Decimal.atSixPlaces q) = Decimal.micros q := by
  have hne : microsPerUnit ≠ 0 := by norm_num [microsPerUnit]
  rw [Decimal.micros, Decimal.atSixPlaces, div_mul_cancel₀ _ hne, roundHalfAway_intCast]

theorem Decimal.micros_nonneg {q : Decimal} (hq : 0 ≤ q) : 0 ≤ Decimal.micros q :=
  roundHalfAway_nonneg (mul_nonneg hq (by norm_num [microsPerUnit]))

/-- What a ticket carries of its request. A ticket is billed when it holds a reservation. -/
structure ChargeTicket where
  billed : Bool
  tenantId : Id
  userId : Option Id
  modelCode : String
  callType : String
  reservationId : Option Id
  pricing : Option AiModelPricing
  estimatedCharge : Decimal
  billed_eq : billed = reservationId.isSome

structure PrepareInput where
  tenantId : Id
  userId : Option Id
  modelId : Option Id
  modelCode : String
  callType : String
  estimatedPromptTokens : Decimal
  maxCompletionTokens : Decimal

structure SettleUsage where
  promptTokens : Option Decimal := none
  completionTokens : Option Decimal := none
  cachedTokens : Option Decimal := none
  reasoningTokens : Option Decimal := none

structure SettleOutcome where
  success : Bool
  usage : SettleUsage := {}
  requestId : Option Id := none

/-- What stays as it is while calls run: the environment, the policies and the tenants' plans. -/
structure ChargeConfig where
  enforcement : Option String
  policies : List AiAccessPolicy
  tenantTier : Id → Option TenantTier

def pricingMissingError (message : String) : AiBillingError :=
  ⟨"AI_PRICING_MISSING", message, 503⟩

/-- `AI_BILLING_ENFORCEMENT`, on unless it is set to something else. -/
def enforcementEnabled (enforcement : Option String) : Bool :=
  ["true", "1", "yes", "on"].contains (JsText.trim (enforcement.getD "true")).toLower

/-- Where a call stands between its database steps. -/
inductive CallStage where
  /-- Access is granted, nothing is reserved yet. -/
  | checked (pricing : AiModelPricing) (estimatedCharge : Decimal)
  | admitted (ticket : ChargeTicket)
  /-- The reservation is closed, the usage row is not written yet. -/
  | settling (ticket : ChargeTicket) (outcome : SettleOutcome) (transactionId : Option Id)
      (status : AiUsageBillingStatus)
  | ended

structure ChargeCall where
  input : PrepareInput
  stage : CallStage

/-! ### The steps -/

/-- `prepare` up to the reservation; `resolved` is the price row found for the model. -/
def checkCall (config : ChargeConfig) (logs : List AiUsageLog) (now : Time)
    (resolved : Option AiModelPricing) (input : PrepareInput) : Except Thrown CallStage :=
  let planTier := config.tenantTier input.tenantId
  let pricing := input.modelId.bind fun _ => resolved
  if enforcementEnabled config.enforcement = false then
    .ok (.admitted
      { billed := false
        tenantId := input.tenantId
        userId := input.userId
        modelCode := input.modelCode
        callType := input.callType
        reservationId := none
        pricing := pricing
        estimatedCharge := 0
        billed_eq := rfl })
  else do
    -- a billable model without pricing must not run
    let pricing ← orThrow pricing
      (pricingMissingError s!"No active pricing for model {input.modelCode}")
    let estimatedCharge :=
      estimateCharge pricing input.estimatedPromptTokens input.maxCompletionTokens
    let _ ← assertAccess config.policies logs now
      { tenantId := input.tenantId, userId := input.userId, planTier := planTier }
      input.modelCode estimatedCharge
    pure (.checked pricing estimatedCharge)

/-- The reservation at the end of `prepare`, and the ticket it returns. -/
def reserveCall (db : Db) (now : Time) (input : PrepareInput) (pricing : AiModelPricing)
    (estimatedCharge : Decimal) : Except Thrown (ChargeTicket × Db) := do
  let (reservationId, db) ← reserveCredits db now
    { tenantId := input.tenantId
      userId := input.userId
      amount := if 0 < estimatedCharge then estimatedCharge else 1 / 1000000 }
  pure (
    { billed := true
      tenantId := input.tenantId
      userId := input.userId
      modelCode := input.modelCode
      callType := input.callType
      reservationId := some reservationId
      pricing := some pricing
      estimatedCharge := estimatedCharge.atSixPlaces
      billed_eq := rfl }, db)

namespace ChargeTicket

variable (ticket : ChargeTicket)

/-- Provider cost, customer charge, margin and price row of what was used. -/
def cost (usage : SettleUsage) : Decimal × Decimal × Decimal × Option Id :=
  match ticket.pricing with
  | some pricing =>
    let cost := computeCost pricing
      { promptTokens := some (usage.promptTokens.getD 0)
        completionTokens := some (usage.completionTokens.getD 0)
        cachedTokens := some (usage.cachedTokens.getD 0)
        reasoningTokens := some (usage.reasoningTokens.getD 0) }
    (cost.providerCost, cost.customerCharge, cost.margin, some cost.pricingId)
  | none => (0, 0, 0, none)

/-- The charge that the usage row of the call is written with. -/
def settledCharge (outcome : SettleOutcome) : Decimal :=
  if outcome.success && ticket.billed then (ticket.cost outcome.usage).2.1 else 0

/-- `settle` up to the usage row: charge the reservation or release it. -/
def settleReservation (db : Db) (now : Time) (outcome : SettleOutcome) :
    Except Thrown (Option Id × AiUsageBillingStatus × Db) :=
  match ticket.reservationId with
  | some reservationId =>
    if outcome.success then do
      let (transactionId, db) ← finalizeReservation db now reservationId
        (ticket.cost outcome.usage).2.1
        { createdById := ticket.userId, requestId := outcome.requestId }
      pure (transactionId, .charged, db)
    else do
      let db ← releaseReservation db now reservationId .released
      pure (none, .failed, db)
  | none => pure (none, if outcome.success then .unbilled else .failed, db)

/-- The usage row at the end of `settle`. -/
def usageRow (now : Time) (outcome : SettleOutcome) (transactionId : Option Id)
    (status : AiUsageBillingStatus) : Except Thrown AiUsageLog := do
  let (provider, _, margin, pricingId) := ticket.cost outcome.usage
  let providerCost ← column provider
  let customerCharge ← column (ticket.settledCharge outcome)
  let margin ← column (if outcome.success && ticket.billed then margin else -provider)
  pure
    { tenantId := ticket.tenantId
      userId := ticket.userId
      modelCode := ticket.modelCode
      callType := ticket.callType
      requestId := outcome.requestId
      providerCost := providerCost
      customerCharge := customerCharge
      margin := margin
      reservationId := ticket.reservationId
      transactionId := transactionId
      pricingId := pricingId
      status := status
      createdAt := now }

end ChargeTicket

/-! ### Runs -/

structure ChargeState where
  now : Time
  db : Db
  usageLogs : List AiUsageLog
  calls : List ChargeCall

inductive ChargeStep where
  | check (resolved : Option AiModelPricing) (input : PrepareInput)
  | reserve (call : ℕ)
  | settle (call : ℕ) (outcome : SettleOutcome)
  | log (call : ℕ)
  /-- Other traffic of the wallets, such as top-ups and the expiry sweep. -/
  | wallet (call : WalletCall)

/-- A step, and the time that has passed since the one before it. -/
structure ChargeAction where
  elapsed : ℕ
  step : ChargeStep

namespace ChargeState

def wait (s : ChargeState) (elapsed : ℕ) : ChargeState := { s with now := s.now + elapsed }

def setStage (s : ChargeState) (call : ℕ) (stage : CallStage) : ChargeState :=
  { s with calls := s.calls.modify call fun row => { row with stage := stage } }

def take (config : ChargeConfig) (s : ChargeState) : ChargeStep → ChargeState
  | .check resolved input =>
    match checkCall config s.usageLogs s.now resolved input with
    | .ok stage => { s with calls := s.calls ++ [⟨input, stage⟩] }
    | .error _ => s
  | .reserve call =>
    match s.calls[call]? with
    | some ⟨input, .checked pricing estimatedCharge⟩ =>
      match reserveCall s.db s.now input pricing estimatedCharge with
      | .ok (ticket, db) => { s with db := db }.setStage call (.admitted ticket)
      | .error _ => s.setStage call .ended
    | _ => s
  | .settle call outcome =>
    match s.calls[call]? with
    | some ⟨_, .admitted ticket⟩ =>
      match ticket.settleReservation s.db s.now outcome with
      | .ok (transactionId, status, db) =>
        { s with db := db }.setStage call (.settling ticket outcome transactionId status)
      | .error _ => s.setStage call .ended
    | _ => s
  | .log call =>
    match s.calls[call]? with
    | some ⟨_, .settling ticket outcome transactionId status⟩ =>
      match ticket.usageRow s.now outcome transactionId status with
      | .ok row => { s with usageLogs := s.usageLogs ++ [row] }.setStage call .ended
      -- the failure is only logged: the call stays without its usage row
      | .error _ => s
    | _ => s
  | .wallet call => { s with db := WalletCall.next s.db call }

def next (config : ChargeConfig) (s : ChargeState) (action : ChargeAction) : ChargeState :=
  (s.wait action.elapsed).take config action.step

/-- No call has been made yet. -/
def start (now : Time) (db : Db) : ChargeState := ⟨now, db, [], []⟩

end ChargeState

/-! ### What the steps did -/

theorem checkCall_eq_ok {config : ChargeConfig} {logs : List AiUsageLog} {now : Time}
    {resolved : Option AiModelPricing} {input : PrepareInput} {stage : CallStage}
    (henabled : enforcementEnabled config.enforcement = true)
    (h : checkCall config logs now resolved input = .ok stage) :
    ∃ pricing estimatedCharge policy, stage = .checked pricing estimatedCharge ∧
      assertAccess config.policies logs now
        ⟨input.tenantId, input.userId, config.tenantTier input.tenantId⟩ input.modelCode
        estimatedCharge = .ok policy := by
  simp only [checkCall, henabled, Bool.true_eq_false, if_false, bind_eq_ok, pure_eq_ok] at h
  obtain ⟨pricing, -, policy, hpolicy, hstage⟩ := h
  exact ⟨pricing, _, policy, hstage.symm, hpolicy⟩

theorem reserveCall_eq_ok {db db' : Db} {now : Time} {input : PrepareInput}
    {pricing : AiModelPricing} {estimatedCharge : Decimal} {ticket : ChargeTicket}
    (h : reserveCall db now input pricing estimatedCharge = .ok (ticket, db')) :
    ticket.tenantId = input.tenantId ∧ ticket.estimatedCharge = estimatedCharge.atSixPlaces := by
  simp only [reserveCall, bind_eq_ok, pure_eq_ok, Prod.mk.injEq] at h
  obtain ⟨reserved, -, rfl, -⟩ := h
  exact ⟨rfl, rfl⟩

/-- A settled call is never charged a negative amount. -/
theorem settledCharge_nonneg {ticket : ChargeTicket} {db db' : Db} {now : Time}
    {outcome : SettleOutcome} {transactionId : Option Id} {status : AiUsageBillingStatus}
    (h : ticket.settleReservation db now outcome = .ok (transactionId, status, db')) :
    0 ≤ ticket.settledCharge outcome := by
  unfold ChargeTicket.settledCharge
  split_ifs with hcharged
  · obtain ⟨hsuccess, hbilled⟩ := Bool.and_eq_true_iff.1 hcharged
    rw [ticket.billed_eq] at hbilled
    obtain ⟨reservationId, hreservation⟩ := Option.isSome_iff_exists.1 hbilled
    simp only [ChargeTicket.settleReservation, hreservation, hsuccess, if_true, bind_eq_ok,
      pure_eq_ok] at h
    obtain ⟨finalized, hfinal, -⟩ := h
    obtain ⟨-, -, -, hcharge, -⟩ := finalizeReservation_cases hfinal
    exact hcharge
  · exact le_rfl

theorem usageRow_eq_ok {ticket : ChargeTicket} {now : Time} {outcome : SettleOutcome}
    {transactionId : Option Id} {status : AiUsageBillingStatus} {row : AiUsageLog}
    (h : ticket.usageRow now outcome transactionId status = .ok row) :
    row.tenantId = ticket.tenantId ∧
      row.customerCharge.micros = Decimal.micros (ticket.settledCharge outcome) := by
  simp only [ChargeTicket.usageRow, bind_eq_ok, column_eq_ok, pure_eq_ok] at h
  obtain ⟨provider, -, charge, hcharge, margin, -, rfl⟩ := h
  exact ⟨rfl, Numeric.store_eq_some_iff.1 hcharge⟩

end Forecast
