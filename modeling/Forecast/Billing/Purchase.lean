import Forecast.Billing.Wallet

/-!
# Completion of credit purchases

`completePurchase` is the only path that credits a wallet for a purchase. It
runs in one transaction: it locks the purchase row, checks the status again,
posts the ledger row and marks the purchase completed.
-/

namespace Forecast

def minPurchase : Decimal := 1
def maxPurchase : Decimal := 100000

def validateAmount (amount : Decimal) : Except Thrown Unit :=
  throwIf (amount < minPurchase ∨ maxPurchase < amount)
    (billingValidationError "Purchase amount must be between 1 and 100000")

structure CompletionContext where
  stripeEventId : Option String := none
  /-- Absent when the caller has no payment intent to record, else its value or `null`. -/
  stripePaymentIntentId : Option (Option String) := none
  reviewedById : Option Id := none
  reviewNote : Option (Option String) := none

/-- A string that JavaScript treats as true. -/
def truthy (value : Option String) : Option String := value.filter (· ≠ "")

/-- No other purchase carries the event id: `stripe_event_id` is a unique column. -/
def stripeEventIdFree (db : Db) (purchaseId : Id) (eventId : String) : Bool :=
  db.purchases.zipIdx.all fun row => row.2 == purchaseId || row.1.stripeEventId != some eventId

def requireFree (free : Bool) : Except Thrown Unit :=
  if free then .ok () else .error (.database "Unique constraint failed")

theorem requireFree_eq_ok {free : Bool} {u : Unit} : requireFree free = .ok u ↔ free = true := by
  cases free <;> simp [requireFree]

def completedRow (now : Time) (context : CompletionContext) (row : AiCreditPurchase) :
    AiCreditPurchase :=
  { row with
    status := .completed
    stripeEventId := (truthy context.stripeEventId).or row.stripeEventId
    stripePaymentIntentId := context.stripePaymentIntentId.getD row.stripePaymentIntentId
    reviewedById := context.reviewedById.or row.reviewedById
    reviewedAt := if context.reviewedById.isSome then some now else row.reviewedAt
    reviewNote := context.reviewNote.getD row.reviewNote }

/-- The ledger entry of a purchase. -/
def purchaseInput (purchaseId : Id) (purchase : AiCreditPurchase) (context : CompletionContext) :
    PostTransactionInput where
  tenantId := purchase.tenantId
  type := .purchase
  amount := purchase.amount.toDecimal
  createdById := context.reviewedById.or (some purchase.userId)
  relatedEntityType := some "ai_credit_purchase"
  relatedEntityId := some purchaseId

/-- Returns the id of the ledger row, or none when the purchase was completed already. -/
def completePurchase (db : Db) (now : Time) (purchaseId : Id) (context : CompletionContext) :
    Except Thrown (Option Id × Db) := do
  let purchase ← orThrow db.purchases[purchaseId]? (billingNotFoundError "Purchase not found")
  if purchase.status = .completed then
    pure (none, db)
  else do
    throwIf (purchase.status ≠ .pending)
      (billingValidationError s!"Purchase is {purchase.status.text}, cannot complete")
    let (transaction, db) ← postTransaction db (purchaseInput purchaseId purchase context)
    requireFree ((truthy context.stripeEventId).all (stripeEventIdFree db purchaseId))
    pure (some transaction, db.updatePurchase purchaseId (completedRow now context))

/-- The two ways in which `completePurchase` succeeds. -/
theorem completePurchase_cases {db db' : Db} {now : Time} {purchaseId : Id}
    {context : CompletionContext} {transaction : Option Id}
    (h : completePurchase db now purchaseId context = .ok (transaction, db')) :
    ∃ purchase, db.purchases[purchaseId]? = some purchase ∧
      ((purchase.status = .completed ∧ transaction = none ∧ db' = db) ∨
        (purchase.status = .pending ∧ ∃ id posted,
          postTransaction db (purchaseInput purchaseId purchase context) = .ok (id, posted) ∧
          transaction = some id ∧
          (∀ e, truthy context.stripeEventId = some e → stripeEventIdFree posted purchaseId e) ∧
          db' = posted.updatePurchase purchaseId (completedRow now context))) := by
  simp only [completePurchase, bind_eq_ok, orThrow_eq_ok] at h
  obtain ⟨purchase, hpurchase, h⟩ := h
  refine ⟨purchase, hpurchase, ?_⟩
  split_ifs at h with hcompleted
  · obtain ⟨rfl, rfl⟩ : none = transaction ∧ db = db' := by
      simpa [pure_eq_ok] using h
    exact Or.inl ⟨hcompleted, rfl, rfl⟩
  · simp only [bind_eq_ok, throwIf_eq_ok, requireFree_eq_ok, pure_eq_ok, Prod.mk.injEq] at h
    obtain ⟨-, hpending, ⟨id, posted⟩, hposted, -, hfree, htransaction, hdb⟩ := h
    refine Or.inr ⟨not_not.1 hpending, id, posted, hposted, htransaction.symm, ?_, hdb.symm⟩
    intro e he
    simpa [he] using hfree

end Forecast
