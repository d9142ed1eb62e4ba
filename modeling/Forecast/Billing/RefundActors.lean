import Forecast.Billing.WalletCalls
import Forecast.Lib.JsText
import Forecast.Lib.ThreadPool

/-!
# Refund requests

`RefundService.create` as a thread that takes one database or Stripe operation a
step. Each operation can fail before it takes effect, or take effect and have
its answer lost; from the creation of the refund row on, both lead to the catch
block that marks the row FAILED.
-/

namespace Forecast

open RowTable ThreadPool

/-- How an operation ends: it succeeds, it fails without effect, or it takes effect and the
caller still sees an error. -/
inductive Fault where
  | ok
  | failed
  | lost
deriving DecidableEq

structure RefundInput where
  tenantId : Id
  /-- The number as it prints. -/
  amount : Decimal
  kind : AiRefundKind
  reason : String
  purchaseId : Option Id := none
  disputeId : Option Id := none

/-- A refund at Stripe; its idempotency key names the refund row. -/
structure StripeRefund where
  paymentIntentId : String
  amountCents : ℤ
  refundId : Id
deriving DecidableEq

structure RefundState where
  db : Db
  stripe : List StripeRefund

/-- What a request knows when its checks have passed. -/
structure RefundJob where
  adminId : Id
  input : RefundInput
  walletId : Id
  purchase : Option AiCreditPurchase
  fullyRefunded : Bool

/-- Where a request stands between two operations. -/
inductive RefundThread where
  | openWallet (adminId : Id) (input : RefundInput)
  | readPurchase (adminId : Id) (input : RefundInput) (walletId purchaseId : Id)
  | aggregate (adminId : Id) (input : RefundInput) (walletId purchaseId : Id)
      (purchase : AiCreditPurchase)
  | createRow (job : RefundJob)
  | stripeRefund (job : RefundJob) (refundId : Id)
  | postLedger (job : RefundJob) (refundId : Id) (stripeRefundId : Option Id)
  | completeRow (job : RefundJob) (refundId : Id) (stripeRefundId : Option Id) (transactionId : Id)
  | markPurchase (refundId purchaseId : Id)
  /-- The catch block. -/
  | failRow (refundId : Id) (error : Thrown)
  | returned (refundId : Id)
  | thrown (error : Thrown)

structure RefundCall where
  adminId : Id
  input : RefundInput

namespace Db

def updateRefund (db : Db) (id : Id) (f : AiRefund → AiRefund) : Db :=
  { db with refunds := db.refunds.modify id f }

end Db

def isActiveRefundOf (purchaseId : Id) (row : AiRefund) : Bool :=
  row.purchaseId == some purchaseId && (row.status == .completed || row.status == .pending)

/-- The aggregate of `create`. -/
def refundedSoFar (db : Db) (purchaseId : Id) : Decimal :=
  total (isActiveRefundOf purchaseId) (fun row => row.amount.toDecimal) db.refunds

def validateRefund (input : RefundInput) : Except Thrown Unit := do
  throwIf (input.amount ≤ 0) (billingValidationError "Refund amount must be positive")
  throwIf (JsText.isBlank input.reason) (billingValidationError "Refund reason is required")

/-- The cumulative cap: several partial refunds never add up to more than was paid. -/
def checkCap (purchase : AiCreditPurchase) (alreadyRefunded amount : Decimal) :
    Except Thrown Unit :=
  let remaining := Decimal.minus purchase.amount.toDecimal alreadyRefunded
  throwIf (remaining < amount) (billingValidationError
    s!"Refund exceeds the refundable remainder of this purchase ({Decimal.toFixed remaining 2} of {Decimal.toFixed purchase.amount.toDecimal 2} left)")

def checkCash (kind : AiRefundKind) (purchase : Option AiCreditPurchase) : Except Thrown Unit :=
  throwIf (kind = .cash ∧ truthy (purchase.bind AiCreditPurchase.stripePaymentIntentId) = none)
    (billingValidationError "Cash refunds require a Stripe purchase with a payment intent")

/-- The checks after the aggregate was read. -/
def prepareJob (db : Db) (adminId : Id) (input : RefundInput) (walletId purchaseId : Id)
    (purchase : AiCreditPurchase) : Except Thrown RefundJob := do
  let alreadyRefunded := refundedSoFar db purchaseId
  checkCap purchase alreadyRefunded input.amount
  checkCash input.kind (some purchase)
  pure
    { adminId := adminId
      input := input
      walletId := walletId
      purchase := some purchase
      fullyRefunded :=
        decide (purchase.amount.toDecimal ≤ Decimal.plus alreadyRefunded input.amount) }

/-- The checks of a request that names no purchase. -/
def prepareJobWithoutPurchase (adminId : Id) (input : RefundInput) (walletId : Id) :
    Except Thrown RefundJob := do
  checkCash input.kind none
  pure
    { adminId := adminId
      input := input
      walletId := walletId
      purchase := none
      fullyRefunded := false }

def RefundJob.row (job : RefundJob) (amount : Numeric) : AiRefund where
  tenantId := job.input.tenantId
  walletId := job.walletId
  purchaseId := job.input.purchaseId
  disputeId := job.input.disputeId
  amount := amount
  kind := job.input.kind
  reason := job.input.reason
  status := .pending
  approvedById := job.adminId
  stripeRefundId := none
  transactionId := none

/-- What Stripe refunded under payment intents of this purchase so far. -/
def refundedAtStripe (stripe : List StripeRefund) (paymentIntentId : String) : ℤ :=
  total (fun refund => refund.paymentIntentId == paymentIntentId)
    (fun refund => refund.amountCents) stripe

/-- The client sends no amount when it is zero, and Stripe then refunds what is left. -/
def createRefund (stripe : List StripeRefund) (job : RefundJob) (refundId : Id) : StripeRefund :=
  let paymentIntentId := (job.purchase.bind AiCreditPurchase.stripePaymentIntentId).getD ""
  let amountCents := Decimal.cents job.input.amount
  let captured := (job.purchase.map fun row => Decimal.cents row.amount.toDecimal).getD 0
  { paymentIntentId := paymentIntentId
    amountCents := if amountCents ≠ 0 then amountCents
      else captured - refundedAtStripe stripe paymentIntentId
    refundId := refundId }

/-- The ledger entry of a refund: credits given back, or taken out because the money went back
to the card. -/
def refundInput (job : RefundJob) (refundId : Id) : PostTransactionInput where
  tenantId := job.input.tenantId
  type := .refund
  amount := if job.input.kind = .walletCredit then job.input.amount else -job.input.amount
  createdById := some job.adminId
  relatedEntityType := some "ai_refund"
  relatedEntityId := some refundId
  allowNegativeBalance := job.input.kind == .cash

def lostConnection : Thrown := .database "connection lost"

/-- An operation that takes the state to `s'` and the thread to `next`, or on an error to
`onError`. -/
def attempt (fault : Fault) (s s' : RefundState) (next onError : RefundThread) :
    RefundState × RefundThread :=
  match fault with
  | .ok => (s', next)
  | .failed => (s, onError)
  | .lost => (s', onError)

theorem attempt_rule {P : RefundState → RefundThread → Prop} {fault : Fault} {s s' : RefundState}
    {next onError : RefundThread} (hok : fault = .ok → P s' next)
    (hfailed : fault = .failed → P s onError) (hlost : fault = .lost → P s' onError) :
    P (attempt fault s s' next onError).1 (attempt fault s s' next onError).2 := by
  cases fault with
  | ok => exact hok rfl
  | failed => exact hfailed rfl
  | lost => exact hlost rfl

/-- The thread once its checks are done. -/
def startJob (prepared : Except Thrown RefundJob) : RefundThread :=
  match prepared with
  | .ok job => .createRow job
  | .error e => .thrown e

def RefundThread.advance (s : RefundState) (thread : RefundThread) (fault : Fault) :
    RefundState × RefundThread :=
  match thread with
  | openWallet adminId input =>
    let (db, walletId, _) := getOrCreateWallet s.db input.tenantId
    attempt fault s { s with db := db }
      (match input.purchaseId with
        | some purchaseId => .readPurchase adminId input walletId purchaseId
        | none => startJob (prepareJobWithoutPurchase adminId input walletId))
      (.thrown lostConnection)
  | readPurchase adminId input walletId purchaseId =>
    attempt fault s s
      (match s.db.purchases[purchaseId]?.filter fun row => row.tenantId == input.tenantId with
        | some purchase => .aggregate adminId input walletId purchaseId purchase
        | none => .thrown (.billing (billingNotFoundError "Related purchase not found")))
      (.thrown lostConnection)
  | aggregate adminId input walletId purchaseId purchase =>
    attempt fault s s
      (startJob (prepareJob s.db adminId input walletId purchaseId purchase))
      (.thrown lostConnection)
  | createRow job =>
    match column job.input.amount with
    | .error e => (s, .thrown e)
    | .ok amount =>
      let refundId := s.db.refunds.length
      attempt fault s { s with db := { s.db with refunds := s.db.refunds ++ [job.row amount] } }
        (match job.input.kind with
          | .cash => .stripeRefund job refundId
          | .walletCredit => .postLedger job refundId none)
        (.thrown lostConnection)
  | stripeRefund job refundId =>
    attempt fault s { s with stripe := s.stripe ++ [createRefund s.stripe job refundId] }
      (.postLedger job refundId (some s.stripe.length))
      (.failRow refundId (.billing (paymentProviderError "Stripe request failed")))
  | postLedger job refundId stripeRefundId =>
    match postTransaction s.db (refundInput job refundId) with
    | .error e => (s, .failRow refundId e)
    | .ok (transactionId, db) =>
      attempt fault s { s with db := db }
        (.completeRow job refundId stripeRefundId transactionId)
        (.failRow refundId lostConnection)
  | completeRow job refundId stripeRefundId transactionId =>
    attempt fault s
      { s with db := s.db.updateRefund refundId fun row =>
          { row with
            status := .completed
            stripeRefundId := stripeRefundId
            transactionId := some transactionId } }
      (match job.input.kind, job.input.purchaseId, job.fullyRefunded with
        | .cash, some purchaseId, true => .markPurchase refundId purchaseId
        | _, _, _ => .returned refundId)
      (.failRow refundId lostConnection)
  | markPurchase refundId purchaseId =>
    attempt fault s
      { s with db := s.db.updatePurchase purchaseId fun row => { row with status := .refunded } }
      (.returned refundId) (.failRow refundId lostConnection)
  | failRow refundId error =>
    attempt fault s
      { s with db := s.db.updateRefund refundId fun row => { row with status := .failed } }
      (.thrown error) (.thrown lostConnection)
  | returned refundId => (s, .returned refundId)
  | thrown error => (s, .thrown error)

/-- The thread of a request that passes the checks on its input. -/
def RefundCall.start (call : RefundCall) : RefundThread :=
  match validateRefund call.input with
  | .ok _ => .openWallet call.adminId call.input
  | .error e => .thrown e

def WalletCall.postsRefund : WalletCall → Bool
  | postTransaction input => input.type == .refund
  | _ => false

/-- Other wallet and purchase activity between the steps of refund requests. -/
def otherActivity (s : RefundState) (call : WalletCall) : RefundState :=
  if call.postsRefund then s else { s with db := WalletCall.next s.db call }

/-- Refund requests over one database and one Stripe account. -/
def refundProgram : Program RefundState RefundThread RefundCall Fault WalletCall where
  start _ _ call := some call.start
  advance := RefundThread.advance
  env := otherActivity

abbrev RefundConfig := Config RefundState RefundThread

abbrev RefundAction := Action RefundCall Fault WalletCall

def refundInit : RefundConfig := ⟨⟨Db.empty, []⟩, []⟩

end Forecast
