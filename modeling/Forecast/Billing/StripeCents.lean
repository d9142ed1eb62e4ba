import Forecast.Billing.PurchaseActors
import Forecast.Billing.RefundActors

/-!
# Cents at Stripe and credits in the wallet

A checkout sends `Math.round(amount * 100)` cents and credits the stored amount;
a cash refund sends its cents and takes the amount out of the wallet. The two
are the same money exactly when the stored amount is a whole number of cents,
and for a refund at least one.
-/

open GridRounding

namespace Forecast

deriving instance DecidableEq for Db, RefundInput, RefundJob

/-! ### Binary64 arithmetic on amounts -/

namespace Decimal

/-- An amount that lies close to a whole number of cents is sent as that number. -/
theorem cents_eq_of_near {amount : Decimal} {z : ℤ} (hbound : |amount| < 2 ^ 40)
    (hnear : |amount * 100 - z| ≤ 1 / 10000) : cents amount = z := by
  have hread := Binary64.abs_round_sub_le hbound
  have hread' := abs_le.1 hread
  have hbound' := abs_lt.1 hbound
  have hnear' := abs_le.1 hnear
  norm_num at hread' hbound'
  have hproduct : |Binary64.round amount * 100| < 2 ^ 47 := by
    rw [abs_lt]
    constructor <;> norm_num <;> linarith
  have hmul := abs_le.1 (Binary64.abs_round_sub_le hproduct)
  norm_num at hmul
  rw [cents, toDouble, toDouble, Int.floor_eq_iff]
  constructor <;> linarith

example : Decimal.cents (1 / 200) = 1 := by decide +kernel

end Decimal

namespace Numeric

/-- The stored value is a whole number of cents. -/
def WholeCents (n : Numeric) : Prop := 10000 ∣ n.micros

instance (n : Numeric) : Decidable n.WholeCents := inferInstanceAs (Decidable (_ ∣ _))

variable {amount : Decimal} {stored : Numeric}

theorem abs_lt_of_store (h : store amount = some stored) : |amount| < 2 ^ 40 := by
  have hround := abs_le.1 (abs_roundHalfAway_sub_le (amount * microsPerUnit))
  have hbound := abs_lt.1 stored.bound
  rw [store_eq_some_iff.1 h] at hbound
  have hlow : (-(10 ^ 18) : ℚ) < roundHalfAway (amount * microsPerUnit) := by
    exact_mod_cast hbound.1
  have hhigh : (roundHalfAway (amount * microsPerUnit) : ℚ) < 10 ^ 18 := by
    exact_mod_cast hbound.2
  unfold microsPerUnit at hround hlow hhigh
  rw [abs_lt]
  constructor <;> norm_num at * <;> linarith

theorem cents_mul_eq_micros_iff (h : store amount = some stored) :
    Decimal.cents amount * 10000 = stored.micros ↔ stored.WholeCents := by
  constructor
  · intro heq
    exact ⟨Decimal.cents amount, by rw [← heq, mul_comm]⟩
  · rintro ⟨z, hz⟩
    have hround := abs_le.1 (abs_roundHalfAway_sub_le (amount * microsPerUnit))
    rw [← store_eq_some_iff.1 h, hz] at hround
    have hcents : Decimal.cents amount = z := by
      apply Decimal.cents_eq_of_near (abs_lt_of_store h)
      unfold microsPerUnit at hround
      push_cast at hround
      rw [abs_le]
      constructor <;> linarith
    rw [hcents, hz, mul_comm]

end Numeric

/-! ### What is sent and what moves in the wallet -/

/-- The fields of a checkout session request that depend on the purchase. -/
structure CheckoutRequest where
  amountCents : ℤ
  currency : String
  purchaseId : Id
  tenantId : Id
deriving DecidableEq

/-- `createStripeCheckout` up to Stripe's answer: the session that is asked for and the database
with the new PENDING row. -/
def createStripeCheckout (db : Db) (now : Time) (userId tenantId : Id) (amount : Decimal)
    (stripeConfigured : Bool) : Except Thrown (CheckoutRequest × Db) := do
  validateAmount amount
  validateStripe stripeConfigured
  let (db, walletId, wallet) := getOrCreateWallet db tenantId
  let amountColumn ← column amount
  pure (
    { amountCents := Decimal.cents amount
      currency := wallet.currency
      purchaseId := db.purchases.length
      tenantId := tenantId },
    { db with purchases := db.purchases ++
        [pendingPurchase now tenantId userId walletId wallet.currency .stripe amountColumn] })

/-- A webhook event, and the completion it leads to. Returns the id of the ledger row. -/
def receiveEvent (db : Db) (now : Time) (event : StripeWebhookEvent) :
    Except Thrown (Option Id × Db) :=
  match handleStripeEvent db event with
  | (db, .complete purchaseId context) => completePurchase db now purchaseId context
  | (db, _) => .ok (none, db)

/-- The `amount` field of a refund request to Stripe, which is left out when it is zero. -/
def refundCents (amount : Decimal) : Option ℤ :=
  let amountCents := Decimal.cents amount
  if amountCents ≠ 0 then some amountCents else none

/-- The ledger row moves so many micros, and so does the balance that the wallet now has. -/
def Moves (db : Db) (transactionId : Id) (micros : ℤ) : Prop :=
  ∃ row ∈ db.transactions[transactionId]?, row.amount.micros = micros ∧
    row.balanceAfter.micros = row.balanceBefore.micros + micros ∧
    (db.wallets[row.walletId]?).map AiWallet.balance = some row.balanceAfter

theorem exists_moves_of_postTransaction {db db' : Db} {input : PostTransactionInput} {id : Id}
    (h : postTransaction db input = .ok (id, db')) :
    ∃ stored after : Numeric, Numeric.store input.amount = some stored ∧
      Numeric.store (Decimal.plus (lockWalletByTenant db input.tenantId).2.2.balance.toDecimal
        input.amount) = some after ∧
      ∀ micros, Moves db' id micros ↔ stored.micros = micros ∧
        after.micros = (lockWalletByTenant db input.tenantId).2.2.balance.micros + micros := by
  obtain ⟨locked, walletId, wallet, hlock, happlied⟩ := postTransaction_cases h
  obtain ⟨-, hwallet, -⟩ := lockWalletByTenant_spec hlock
  obtain ⟨stored, after, aggregates, status, hstored, hafter, -, rfl, rfl⟩ := happlied.writes
  have hbalance : (lockWalletByTenant db input.tenantId).2.2 = wallet := by rw [hlock]
  rw [hbalance]
  refine ⟨stored, after, hstored, hafter, fun micros => ?_⟩
  have hupdated := RowTable.getElem?_modify_self locked.wallets
    (fun row => { aggregates row with balance := after, status := status row.status }) hwallet
  simp only [Moves, List.getElem?_concat_length, Option.mem_some_iff, exists_eq_left', hupdated,
    Option.map_some, and_true]

/-- An accepted checkout, and the event that reports its session as paid while the purchase still
stands as it was created. -/
structure Checkout where
  before : Db
  openedAt : Time
  userId : Id
  tenantId : Id
  amount : Decimal
  stripeConfigured : Bool
  request : CheckoutRequest
  opened : Db
  accepted : createStripeCheckout before openedAt userId tenantId amount stripeConfigured =
    .ok (request, opened)
  reported : Db
  /-- The row's session and payment columns may have been written in between. -/
  stands : ∃ created ∈ opened.purchases[request.purchaseId]?,
    ∃ purchase ∈ reported.purchases[request.purchaseId]?,
      purchase.amount = created.amount ∧ purchase.status = .pending
  event : StripeWebhookEvent
  paid : event.type = .asyncPaymentSucceeded ∨
    event.type = .checkoutCompleted ∧ event.session.paymentStatus = some "paid"
  ofSession : event.session.purchaseId = some request.purchaseId
  charged : event.session.amountTotal = some (request.amountCents : ℚ)
  settledAt : Time
  transactionId : Option Id
  settled : Db
  handled : receiveEvent reported settledAt event = .ok (transactionId, settled)

/-- A cash refund that passed the checks of the service, and its ledger post. -/
structure CashRefund where
  checked : Db
  adminId : Id
  input : RefundInput
  walletId : Id
  purchaseId : Id
  purchase : AiCreditPurchase
  job : RefundJob
  valid : validateRefund input = .ok ()
  cash : input.kind = .cash
  accepted : prepareJob checked adminId input walletId purchaseId purchase = .ok job
  /-- The amount column of the refund row. -/
  stored : Numeric
  created : column input.amount = .ok stored
  posting : Db
  refundId : Id
  transactionId : Id
  posted : Db
  ledger : postTransaction posting (refundInput job refundId) = .ok (transactionId, posted)

/-- Money that moves at Stripe and in the wallet. -/
inductive StripePayment where
  | checkout (checkout : Checkout)
  | cashRefund (refund : CashRefund)

namespace StripePayment

/-- As many cents are sent to Stripe as the wallet gains, or loses, in credits. -/
def Agrees : StripePayment → Prop
  | .checkout c => ∃ id ∈ c.transactionId, Moves c.settled id (c.request.amountCents * 10000)
  | .cashRefund r => ∃ cents ∈ refundCents r.input.amount,
      Moves r.posted r.transactionId (-(cents * 10000))

/-- The stored amount is whole cents. A refund is of at least one, and its amount and the balance
it is taken from round alike. -/
def SentInCents : StripePayment → Prop
  | .checkout c => ∀ stored ∈ Numeric.store c.amount, stored.WholeCents
  | .cashRefund r => r.stored.WholeCents ∧ r.stored.micros ≠ 0 ∧
      RoundsAlike (lockWalletByTenant r.posting r.input.tenantId).2.2.balance (-r.input.amount)

end StripePayment

/-! ### The two rails -/

namespace Checkout

variable (c : Checkout)

/-- The row that the payment is reported for has the amount that was asked for. -/
theorem exists_purchase : ∃ (stored : Numeric) (purchase : AiCreditPurchase),
    Numeric.store c.amount = some stored ∧ c.request.amountCents = Decimal.cents c.amount ∧
      c.reported.purchases[c.request.purchaseId]? = some purchase ∧
      purchase.amount = stored ∧ purchase.status = .pending := by
  have haccepted := c.accepted
  simp only [createStripeCheckout, bind_eq_ok, column_eq_ok, pure_eq_ok, Prod.mk.injEq]
    at haccepted
  obtain ⟨-, -, -, -, stored, hstored, hrequest, hopened⟩ := haccepted
  obtain ⟨created, hcreated, purchase, hpurchase, hamount, hpending⟩ := c.stands
  rw [← hopened, ← hrequest, List.getElem?_concat_length] at hcreated
  obtain rfl := Option.mem_some_iff.1 hcreated
  exact ⟨stored, purchase, hstored, by rw [← hrequest], hpurchase, hamount, hpending⟩

theorem handleStripeEvent_eq {purchase : AiCreditPurchase}
    (hpurchase : c.reported.purchases[c.request.purchaseId]? = some purchase) :
    handleStripeEvent c.reported c.event = (c.reported,
      if c.request.amountCents = Decimal.cents purchase.amount.toDecimal then
        .complete c.request.purchaseId
          { stripeEventId := some c.event.id
            stripePaymentIntentId := some c.event.session.paymentIntent }
      else .returned) := by
  have hunpaid : ¬ (c.event.type = .checkoutCompleted ∧
      c.event.session.paymentStatus ≠ some "paid") := by
    rintro ⟨htype, hstatus⟩
    rcases c.paid with hsettled | ⟨-, hpaid⟩
    · rw [htype] at hsettled
      cases hsettled
    · exact hstatus hpaid
  have hreceive : receivePaid c.reported c.event =
      if c.request.amountCents = Decimal.cents purchase.amount.toDecimal then
        .complete c.request.purchaseId
          { stripeEventId := some c.event.id
            stripePaymentIntentId := some c.event.session.paymentIntent }
      else .returned := by
    unfold receivePaid findPurchaseForSession
    simp only [c.ofSession, hpurchase, Option.map_some, if_neg hunpaid, c.charged,
      Option.any_some, bne_iff_ne, ne_eq, Int.cast_inj, ite_not]
  rcases c.paid with htype | ⟨htype, -⟩
  · simp only [handleStripeEvent, htype, hreceive]
  · simp only [handleStripeEvent, htype, hreceive]

theorem agrees_iff : (StripePayment.checkout c).Agrees ↔ (StripePayment.checkout c).SentInCents := by
  obtain ⟨stored, purchase, hstored, hcents, hpurchase, rfl, hpending⟩ := c.exists_purchase
  have hcondition : (StripePayment.checkout c).SentInCents ↔ purchase.amount.WholeCents := by
    simp [StripePayment.SentInCents, hstored]
  have hsent := Numeric.cents_mul_eq_micros_iff hstored
  have hexpected := Numeric.cents_mul_eq_micros_iff (Numeric.store_toDecimal purchase.amount)
  have hhandled := c.handled
  rw [receiveEvent, c.handleStripeEvent_eq hpurchase] at hhandled
  rw [hcondition]
  by_cases hsame : c.request.amountCents = Decimal.cents purchase.amount.toDecimal
  · rw [if_pos hsame] at hhandled
    obtain ⟨row, hrow, hcase⟩ := completePurchase_cases hhandled
    obtain rfl := Option.some.inj (hpurchase.symm.trans hrow)
    rcases hcase with ⟨hcompleted, -, -⟩ | ⟨-, id, posted, hpost, hid, -, hsettled⟩
    · rw [hpending] at hcompleted
      cases hcompleted
    obtain ⟨entered, after, hentered, hafter, hmoves⟩ := exists_moves_of_postTransaction hpost
    have hamount : entered = purchase.amount := by
      rw [purchaseInput, Numeric.store_toDecimal] at hentered
      exact (Option.some.inj hentered).symm
    have hbalance := (store_plus_micros_iff hafter hentered).2
      (roundsAlike_toDecimal purchase.amount hafter)
    have hagrees : (StripePayment.checkout c).Agrees ↔ Moves posted id
        (c.request.amountCents * 10000) := by
      simp only [StripePayment.Agrees, hid, Option.mem_some_iff, exists_eq_left', hsettled]
      rfl
    rw [hagrees, hmoves, hamount, ← hsent, ← hcents]
    constructor
    · rintro ⟨hmicros, -⟩
      exact hmicros.symm
    · intro hmicros
      rw [hbalance, hamount, hmicros]
      exact ⟨rfl, rfl⟩
  · -- the cents differ from those of the row: the event is refused and nothing is credited
    rw [if_neg hsame] at hhandled
    obtain ⟨hnone, -⟩ := Prod.mk.inj (Except.ok.inj hhandled)
    constructor
    · rintro ⟨id, hid, -⟩
      rw [← hnone] at hid
      cases hid
    · intro hwhole
      exfalso
      have hcentsAmount := hsent.2 hwhole
      have hcentsStored := hexpected.2 hwhole
      rw [hcents] at hsame
      apply hsame
      omega

end Checkout

theorem CashRefund.agrees_iff (r : CashRefund) :
    (StripePayment.cashRefund r).Agrees ↔ (StripePayment.cashRefund r).SentInCents := by
  have hjob : r.job.input = r.input := by
    have haccepted := r.accepted
    simp only [prepareJob, bind_eq_ok, pure_eq_ok] at haccepted
    obtain ⟨-, -, -, -, hjob⟩ := haccepted
    rw [← hjob]
  have hamount : (refundInput r.job r.refundId).amount = -r.input.amount := by
    simp [refundInput, hjob, r.cash]
  have htenant : (refundInput r.job r.refundId).tenantId = r.input.tenantId := by
    rw [refundInput, hjob]
  have hstored := column_eq_ok.1 r.created
  obtain ⟨entered, after, hentered, hafter, hmoves⟩ := exists_moves_of_postTransaction r.ledger
  rw [hamount] at hentered hafter
  rw [htenant] at hafter hmoves
  have hnegated : entered.micros = -r.stored.micros := by
    rw [Numeric.store_eq_some_iff.1 hentered, Numeric.store_eq_some_iff.1 hstored, neg_mul,
      roundHalfAway_neg]
  have hround := store_plus_micros_iff hafter hentered
  have hcents := Numeric.cents_mul_eq_micros_iff hstored
  simp only [StripePayment.Agrees, StripePayment.SentInCents, refundCents, hmoves]
  rw [← hround, ← hcents, hnegated]
  by_cases hzero : Decimal.cents r.input.amount = 0
  · simp only [hzero, ne_eq, not_true_eq_false, if_false]
    constructor
    · rintro ⟨cents, hnone, -⟩
      cases hnone
    · rintro ⟨hmicros, hne, -⟩
      omega
  · simp only [if_pos hzero, Option.mem_some_iff, exists_eq_left']
    constructor
    · rintro ⟨hmicros, hbalance⟩
      refine ⟨by omega, by omega, by omega⟩
    · rintro ⟨hmicros, -, hbalance⟩
      exact ⟨by omega, by omega⟩

/-- The cents at Stripe are the credits in the wallet when and only when the stored amount is
whole cents. -/
theorem agrees_iff_sentInCents (payment : StripePayment) :
    payment.Agrees ↔ payment.SentInCents := by
  cases payment with
  | checkout c => exact c.agrees_iff
  | cashRefund r => exact r.agrees_iff

/-! ### A checkout of half a cent more than a unit -/

/-- The database with the PENDING row of 1.005 of tenant 7. -/
def halfCentDb : Db :=
  { Db.empty with
    wallets := [AiWallet.create 7]
    purchases := [pendingPurchase 0 7 1 0 "USD" .stripe ⟨1005000, by norm_num⟩] }

def halfCentEvent : StripeWebhookEvent where
  id := "evt_1"
  type := .asyncPaymentSucceeded
  session := { purchaseId := some 0, amountTotal := some 100 }

/-- The database once 100 cents were paid for it. -/
def halfCentSettled : Db :=
  match receiveEvent halfCentDb 1 halfCentEvent with
  | .ok (_, db) => db
  | .error _ => halfCentDb

/-- `1.005 * 100` is below 100.5 in binary, so the card is charged 100 cents. -/
def halfCentCheckout : Checkout where
  before := Db.empty
  openedAt := 0
  userId := 1
  tenantId := 7
  amount := 201 / 200
  stripeConfigured := true
  request := ⟨100, "USD", 0, 7⟩
  opened := halfCentDb
  accepted := by decide +kernel
  reported := halfCentDb
  stands := ⟨_, rfl, _, rfl, rfl, rfl⟩
  event := halfCentEvent
  paid := Or.inl rfl
  ofSession := rfl
  charged := by decide +kernel
  settledAt := 1
  transactionId := some 0
  settled := halfCentSettled
  handled := by decide +kernel

/-- The wallet is credited 1.005 for the 1.00 that was paid. -/
theorem not_agrees_halfCentCheckout : ¬ (StripePayment.checkout halfCentCheckout).Agrees := by
  rintro ⟨id, hid, row, hrow, hamount, -⟩
  obtain rfl := Option.mem_some_iff.1 hid
  have hcredited : (halfCentCheckout.settled.transactions[0]?).map
      (fun row => row.amount.micros) = some 1005000 := by decide +kernel
  rw [Option.mem_def.1 hrow, Option.map_some, Option.some_inj, hamount] at hcredited
  exact absurd hcredited (by decide)

def halfCentPurchase : AiCreditPurchase :=
  { pendingPurchase 0 7 1 0 "USD" .stripe ⟨1005000, by norm_num⟩ with
    status := .completed
    stripePaymentIntentId := some "pi_1" }

def unitRefundInput : RefundInput where
  tenantId := 7
  amount := 1
  kind := .cash
  reason := "Order cancelled"
  purchaseId := some 0

/-- A refund of 1 of the 1.005 that were credited. -/
def unitRefund : CashRefund where
  checked := halfCentSettled
  adminId := 2
  input := unitRefundInput
  walletId := 0
  purchaseId := 0
  purchase := halfCentPurchase
  job := ⟨2, unitRefundInput, 0, some halfCentPurchase, false⟩
  valid := by decide +kernel
  cash := rfl
  accepted := by decide +kernel
  stored := ⟨1000000, by norm_num⟩
  created := by decide +kernel
  posting := halfCentSettled
  refundId := 0
  transactionId := 1
  posted := match postTransaction halfCentSettled
      (refundInput ⟨2, unitRefundInput, 0, some halfCentPurchase, false⟩ 0) with
    | .ok (_, db) => db
    | .error _ => halfCentSettled
  ledger := by decide +kernel

example : (StripePayment.cashRefund unitRefund).SentInCents :=
  ⟨by decide +kernel, by decide +kernel, by decide +kernel⟩

end Forecast
