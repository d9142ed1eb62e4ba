import Forecast.Billing.Money
import Forecast.Lib.RowTable

/-!
# Tables and errors of the billing service

Rows carry the columns that the wallet, purchase and refund services read or
decide on. Row ids are positions in their table. A service call that throws
inside a database transaction leaves the database as it was, so such calls
return either the thrown error or the new database.
-/

namespace Forecast

/-- Row, tenant, user and request ids. -/
abbrev Id := ℕ

/-- Milliseconds since the epoch. -/
abbrev Time := ℤ

inductive AiWalletStatus where
  | active
  | suspended
  | closed
deriving DecidableEq

inductive AiLedgerType where
  | purchase
  | manualCredit
  | usageCharge
  | refund
  | bonusCredit
  | promoCredit
  | disputeResolution
  | chargeReversal
  | creditExpiry
  | adminAdjustment
  | correction
deriving DecidableEq

inductive AiReservationStatus where
  | active
  | finalized
  | released
  | expired
deriving DecidableEq

inductive AiPurchaseMethod where
  | stripe
  | bankTransfer
deriving DecidableEq

inductive AiPurchaseStatus where
  | pending
  | completed
  | rejected
  | cancelled
  | expired
  | refunded
deriving DecidableEq

inductive AiRefundKind where
  | walletCredit
  | cash
deriving DecidableEq

inductive AiRefundStatus where
  | pending
  | completed
  | failed
deriving DecidableEq

def AiReservationStatus.text : AiReservationStatus → String
  | .active => "ACTIVE"
  | .finalized => "FINALIZED"
  | .released => "RELEASED"
  | .expired => "EXPIRED"

def AiPurchaseStatus.text : AiPurchaseStatus → String
  | .pending => "PENDING"
  | .completed => "COMPLETED"
  | .rejected => "REJECTED"
  | .cancelled => "CANCELLED"
  | .expired => "EXPIRED"
  | .refunded => "REFUNDED"

/-- A row of `ai_wallets`. -/
structure AiWallet where
  tenantId : Id
  currency : String
  balance : Numeric
  reservedBalance : Numeric
  totalPurchased : Numeric
  totalConsumed : Numeric
  totalRefunded : Numeric
  totalAdjusted : Numeric
  status : AiWalletStatus
  suspendThreshold : Option Numeric
deriving DecidableEq

/-- A row of `ai_wallet_transactions`, the ledger. -/
structure AiWalletTransaction where
  walletId : Id
  tenantId : Id
  type : AiLedgerType
  amount : Numeric
  balanceBefore : Numeric
  balanceAfter : Numeric
  relatedEntityType : Option String
  relatedEntityId : Option Id
  createdById : Option Id
deriving DecidableEq

/-- A row of `ai_credit_reservations`. -/
structure AiCreditReservation where
  walletId : Id
  tenantId : Id
  userId : Option Id
  amount : Numeric
  status : AiReservationStatus
  requestId : Option Id
  expiresAt : Time
  finalizedAt : Option Time
deriving DecidableEq

/-- A row of `ai_credit_purchases`. -/
structure AiCreditPurchase where
  tenantId : Id
  walletId : Id
  userId : Id
  method : AiPurchaseMethod
  amount : Numeric
  currency : String
  status : AiPurchaseStatus
  stripeSessionId : Option String
  stripePaymentIntentId : Option String
  stripeEventId : Option String
  reviewedById : Option Id
  reviewedAt : Option Time
  reviewNote : Option String
  createdAt : Time
deriving DecidableEq

/-- A row of `ai_refunds`. -/
structure AiRefund where
  tenantId : Id
  walletId : Id
  purchaseId : Option Id
  disputeId : Option Id
  amount : Numeric
  kind : AiRefundKind
  reason : String
  status : AiRefundStatus
  approvedById : Id
  stripeRefundId : Option Id
  transactionId : Option Id
deriving DecidableEq

structure Db where
  wallets : List AiWallet
  transactions : List AiWalletTransaction
  reservations : List AiCreditReservation
  purchases : List AiCreditPurchase
  refunds : List AiRefund

def Db.empty : Db := ⟨[], [], [], [], []⟩

/-- The defaults of a new `ai_wallets` row. -/
def AiWallet.create (tenantId : Id) : AiWallet where
  tenantId := tenantId
  currency := "USD"
  balance := .zero
  reservedBalance := .zero
  totalPurchased := .zero
  totalConsumed := .zero
  totalRefunded := .zero
  totalAdjusted := .zero
  status := .active
  suspendThreshold := none

/-- `AiBillingError`: a stable machine code, a message and an HTTP status. -/
structure AiBillingError where
  code : String
  message : String
  status : ℕ
deriving DecidableEq

def insufficientCreditsError (message : String) : AiBillingError :=
  ⟨"INSUFFICIENT_CREDITS", message, 402⟩

def walletSuspendedError (message : String) : AiBillingError :=
  ⟨"WALLET_SUSPENDED", message, 402⟩

/-- The message `WalletSuspendedError` carries when it is given none. -/
def walletSuspendedMessage : String := "AI wallet is suspended — contact support or recharge"

def billingValidationError (message : String) : AiBillingError :=
  ⟨"AI_BILLING_VALIDATION", message, 400⟩

def billingNotFoundError (message : String) : AiBillingError :=
  ⟨"AI_BILLING_NOT_FOUND", message, 404⟩

def paymentProviderError (message : String) : AiBillingError :=
  ⟨"PAYMENT_PROVIDER_ERROR", message, 502⟩

/-- What a service call can throw: its own errors, or the database's. -/
inductive Thrown where
  | billing (error : AiBillingError)
  | database (reason : String)
deriving DecidableEq

def throwIf (c : Prop) [Decidable c] (error : AiBillingError) : Except Thrown Unit :=
  if c then .error (.billing error) else .ok ()

/-- A value on its way into a `DECIMAL(18,6)` column. -/
def column (q : Decimal) : Except Thrown Numeric :=
  match Numeric.store q with
  | some n => .ok n
  | none => .error (.database "numeric field overflow")

def orThrow {α : Type} (found : Option α) (error : AiBillingError) : Except Thrown α :=
  match found with
  | some a => .ok a
  | none => .error (.billing error)

theorem bind_eq_ok {ε α β : Type} {x : Except ε α} {f : α → Except ε β} {b : β} :
    (x >>= f) = .ok b ↔ ∃ a, x = .ok a ∧ f a = .ok b := by
  cases x with
  | error e => simp [bind, Except.bind]
  | ok a => simp [bind, Except.bind]

theorem map_eq_ok {ε α β : Type} {x : Except ε α} {f : α → β} {b : β} :
    x.map f = .ok b ↔ ∃ a, x = .ok a ∧ f a = b := by
  cases x with
  | error e => simp [Except.map]
  | ok a => simp [Except.map]

theorem throwIf_eq_ok {c : Prop} [Decidable c] {error : AiBillingError} {u : Unit} :
    throwIf c error = .ok u ↔ ¬ c := by
  unfold throwIf
  split_ifs with h <;> simp [h]

theorem column_eq_ok {q : Decimal} {n : Numeric} : column q = .ok n ↔ Numeric.store q = some n := by
  unfold column
  cases Numeric.store q <;> simp

theorem orThrow_eq_ok {α : Type} {found : Option α} {error : AiBillingError} {a : α} :
    orThrow found error = .ok a ↔ found = some a := by
  unfold orThrow
  cases found <;> simp

theorem pure_eq_ok {ε α : Type} {a b : α} : (pure a : Except ε α) = .ok b ↔ a = b := by
  simp [pure, Except.pure]

end Forecast
