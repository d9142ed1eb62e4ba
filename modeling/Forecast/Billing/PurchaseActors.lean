import Forecast.Billing.WalletCalls
import Forecast.Lib.ThreadPool

/-!
# The actors of a credit purchase

Checkout creation, Stripe webhooks, cancellation and review as threads that take
one database read or update a step; `completePurchase` is one step, being one
transaction. Purchases that nobody pays are expired by a sweep.
-/

namespace Forecast

open RowTable ThreadPool

inductive StripeEventType where
  | checkoutCompleted
  | asyncPaymentSucceeded
  | asyncPaymentFailed
  | checkoutExpired
  | other
deriving DecidableEq

/-- The fields of the event's session object that the handler reads. -/
structure StripeSession where
  id : Option String := none
  purchaseId : Option Id := none
  paymentStatus : Option String := none
  /-- `Number(amount_total)` where that is finite. -/
  amountTotal : Option ℚ := none
  paymentIntent : Option String := none

structure StripeWebhookEvent where
  id : String
  type : StripeEventType
  session : StripeSession

structure PurchaseRequest where
  userId : Id
  tenantId : Id
  method : AiPurchaseMethod
  amount : Decimal
  /-- The checkout session Stripe answers with, when it answers. -/
  sessionId : Option String := none

structure ReviewDecision where
  approve : Bool
  note : Option String := none

/-- Where an actor stands between two database operations. -/
inductive PurchaseThread where
  | openWallet (request : PurchaseRequest)
  | createRow (request : PurchaseRequest) (walletId : Id) (currency : String)
  | saveSession (purchaseId : Id) (sessionId : String)
  | receive (event : StripeWebhookEvent)
  | complete (purchaseId : Id) (context : CompletionContext)
  | rejectUnpaid (purchaseId : Id) (eventId : String)
  | readOwn (tenantId purchaseId : Id)
  | cancel (purchaseId : Id)
  | readReview (adminId purchaseId : Id) (decision : ReviewDecision)
  | reject (purchaseId adminId : Id) (note : Option String)
  | returned
  | thrown (error : Thrown)

inductive PurchaseCall where
  | createStripeCheckout (userId tenantId : Id) (amount : Decimal) (stripeConfigured : Bool)
      (sessionId : Option String)
  | submitBankTransfer (userId tenantId : Id) (amount : Decimal)
      (proofUrl proofNote : Option String)
  | handleStripeEvent (event : StripeWebhookEvent)
  | cancelOwnPending (tenantId purchaseId : Id)
  | reviewBankTransfer (adminId purchaseId : Id) (decision : ReviewDecision)

def validateStripe (configured : Bool) : Except Thrown Unit :=
  throwIf (configured = false)
    (billingValidationError "Card payments are not available — Stripe is not configured")

def validateProof (proofUrl proofNote : Option String) : Except Thrown Unit :=
  throwIf (truthy proofUrl = none ∧ truthy proofNote = none)
    (billingValidationError "Bank transfer submissions require payment proof (link or note)")

/-- The thread of a call that passes its own checks. -/
def orThrown (checks : Except Thrown Unit) (thread : PurchaseThread) : PurchaseThread :=
  match checks with
  | .ok _ => thread
  | .error e => .thrown e

def PurchaseCall.start : PurchaseCall → PurchaseThread
  | createStripeCheckout userId tenantId amount configured sessionId =>
    orThrown (validateAmount amount >>= fun _ => validateStripe configured) (.openWallet
      { userId := userId
        tenantId := tenantId
        method := .stripe
        amount := amount
        sessionId := sessionId })
  | submitBankTransfer userId tenantId amount proofUrl proofNote =>
    orThrown (validateAmount amount >>= fun _ => validateProof proofUrl proofNote) (.openWallet
      { userId := userId
        tenantId := tenantId
        method := .bankTransfer
        amount := amount })
  | handleStripeEvent event => .receive event
  | cancelOwnPending tenantId purchaseId => .readOwn tenantId purchaseId
  | reviewBankTransfer adminId purchaseId decision => .readReview adminId purchaseId decision

def findPurchaseForSession (db : Db) (session : StripeSession) : Option (Id × AiCreditPurchase) :=
  match session.purchaseId with
  | some id => db.purchases[id]?.map fun purchase => (id, purchase)
  | none =>
    match truthy session.id with
    | some sessionId =>
      findRow? (fun purchase => purchase.stripeSessionId == some sessionId) db.purchases
    | none => none

/-- A session was completed or its payment settled: credit it only when it is paid and the amount
is the purchase's. -/
def receivePaid (db : Db) (event : StripeWebhookEvent) : PurchaseThread :=
  match findPurchaseForSession db event.session with
  | none => .returned
  | some (id, purchase) =>
    if event.type = .checkoutCompleted ∧ event.session.paymentStatus ≠ some "paid" then
      .returned
    else if event.session.amountTotal.any
        fun total => total != (Decimal.cents purchase.amount.toDecimal : ℚ) then
      .returned
    else
      .complete id
        { stripeEventId := some event.id
          stripePaymentIntentId := some event.session.paymentIntent }

def receiveFailed (db : Db) (event : StripeWebhookEvent) : PurchaseThread :=
  match findPurchaseForSession db event.session with
  | none => .returned
  | some (id, purchase) =>
    if purchase.status = .pending then .rejectUnpaid id event.id else .returned

def expireSession (db : Db) (event : StripeWebhookEvent) : Db :=
  match truthy event.session.id with
  | none => db
  | some sessionId =>
    match findRow? (fun purchase => purchase.stripeSessionId == some sessionId &&
        purchase.status == .pending) db.purchases with
    | none => db
    | some (id, _) =>
      if stripeEventIdFree db id event.id then
        db.updatePurchase id fun row =>
          { row with status := .expired, stripeEventId := some event.id }
      else db

def handleStripeEvent (db : Db) (event : StripeWebhookEvent) : Db × PurchaseThread :=
  match event.type with
  | .checkoutCompleted => (db, receivePaid db event)
  | .asyncPaymentSucceeded => (db, receivePaid db event)
  | .asyncPaymentFailed => (db, receiveFailed db event)
  | .checkoutExpired => (expireSession db event, .returned)
  | .other => (db, .returned)

def readOwnPending (db : Db) (tenantId purchaseId : Id) : Except Thrown PurchaseThread := do
  let purchase ← orThrow (db.purchases[purchaseId]?.filter fun row => row.tenantId == tenantId)
    (billingNotFoundError "Purchase not found")
  throwIf (purchase.status ≠ .pending) (billingValidationError
    s!"Only PENDING purchases can be cancelled (current: {purchase.status.text})")
  pure (.cancel purchaseId)

def readForReview (db : Db) (adminId purchaseId : Id) (decision : ReviewDecision) :
    Except Thrown PurchaseThread := do
  let purchase ← orThrow db.purchases[purchaseId]? (billingNotFoundError "Purchase not found")
  throwIf (purchase.method ≠ .bankTransfer)
    (billingValidationError "Only bank transfer purchases go through manual review")
  throwIf (purchase.status ≠ .pending)
    (billingValidationError s!"Purchase already {purchase.status.text}")
  pure (if decision.approve then
    .complete purchaseId { reviewedById := some adminId, reviewNote := some decision.note }
  else .reject purchaseId adminId decision.note)

/-- The thread a read leads to. -/
def continueWith (outcome : Except Thrown PurchaseThread) : PurchaseThread :=
  match outcome with
  | .ok thread => thread
  | .error e => .thrown e

def rejectUnpaid (db : Db) (purchaseId : Id) (eventId : String) : Db :=
  db.updatePurchase purchaseId fun row =>
    { row with
      status := .rejected
      stripeEventId := some eventId
      reviewNote := some "Asynchronous payment failed at Stripe" }

def rejectReviewed (db : Db) (now : Time) (purchaseId adminId : Id) (note : Option String) : Db :=
  db.updatePurchase purchaseId fun row =>
    { row with
      status := .rejected
      reviewedById := some adminId
      reviewedAt := some now
      reviewNote := note }

def cancelPurchase (db : Db) (purchaseId : Id) : Db :=
  db.updatePurchase purchaseId fun row => { row with status := .cancelled }

def uniqueViolation : PurchaseThread := .thrown (.database "Unique constraint failed")

/-- The next database operation of a thread, at time `now`. -/
def PurchaseThread.advance (db : Db) (thread : PurchaseThread) (now : Time) :
    Db × PurchaseThread :=
  match thread with
  | openWallet request =>
    let (db, walletId, wallet) := getOrCreateWallet db request.tenantId
    (db, .createRow request walletId wallet.currency)
  | createRow request walletId currency =>
    match column request.amount with
    | .error e => (db, .thrown e)
    | .ok amount =>
      ({ db with purchases := db.purchases ++ [pendingPurchase now request.tenantId
          request.userId walletId currency request.method amount] },
        match request.sessionId with
        | some sessionId => .saveSession db.purchases.length sessionId
        | none => .returned)
  | saveSession purchaseId sessionId =>
    if db.purchases.all fun row => row.stripeSessionId != some sessionId then
      (db.updatePurchase purchaseId fun row => { row with stripeSessionId := some sessionId },
        .returned)
    else (db, uniqueViolation)
  | receive event => handleStripeEvent db event
  | complete purchaseId context =>
    match completePurchase db now purchaseId context with
    | .ok (_, db') => (db', .returned)
    | .error e => (db, .thrown e)
  | rejectUnpaid purchaseId eventId =>
    if stripeEventIdFree db purchaseId eventId then
      (Forecast.rejectUnpaid db purchaseId eventId, .returned)
    else (db, uniqueViolation)
  | readOwn tenantId purchaseId => (db, continueWith (readOwnPending db tenantId purchaseId))
  | cancel purchaseId => (cancelPurchase db purchaseId, .returned)
  | readReview adminId purchaseId decision =>
    (db, continueWith (readForReview db adminId purchaseId decision))
  | reject purchaseId adminId note =>
    (rejectReviewed db now purchaseId adminId note, .returned)
  | returned => (db, .returned)
  | thrown e => (db, .thrown e)

inductive PurchaseEvent where
  | expireStaleStripePurchases (now : Time) (olderThanHours : ℕ)
  /-- A full cash refund marks the purchase it found with a payment intent. -/
  | refundFully (purchaseId : Id)
  | updateWalletSettings (tenantId : Id) (settings : WalletSettings)

def expireStaleStripePurchases (db : Db) (now : Time) (olderThanHours : ℕ) : Db :=
  { db with purchases := db.purchases.map fun row =>
      if row.method = .stripe ∧ row.status = .pending ∧
          row.createdAt < now - olderThanHours * 3600 * 1000 then
        { row with status := .expired }
      else row }

def refundFully (db : Db) (purchaseId : Id) : Db :=
  db.updatePurchase purchaseId fun row =>
    if (truthy row.stripePaymentIntentId).isSome then { row with status := .refunded } else row

def PurchaseEvent.apply (db : Db) : PurchaseEvent → Db
  | expireStaleStripePurchases now hours => Forecast.expireStaleStripePurchases db now hours
  | refundFully purchaseId => Forecast.refundFully db purchaseId
  | updateWalletSettings tenantId settings => Forecast.updateWalletSettings db tenantId settings

/-- The actors of the purchase service over one database. -/
def purchaseProgram : Program Db PurchaseThread PurchaseCall Time PurchaseEvent where
  start _ _ call := some call.start
  advance := PurchaseThread.advance
  env := PurchaseEvent.apply

abbrev PurchaseConfig := Config Db PurchaseThread

abbrev PurchaseAction := Action PurchaseCall Time PurchaseEvent

def purchaseInit : PurchaseConfig := ⟨Db.empty, []⟩

end Forecast
