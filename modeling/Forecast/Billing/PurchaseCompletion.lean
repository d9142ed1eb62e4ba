import Forecast.Billing.PurchaseActors

/-!
# A purchase is credited exactly when it is completed

Through every interleaving a purchase has at most one PURCHASE ledger row. It
has exactly one when its status says so, as long as no cancellation or rejection
that read the purchase as PENDING is written over a completion.
-/

namespace Forecast

open RowTable Runs ThreadPool

/-- The statuses of a purchase whose credits were granted. -/
def AiPurchaseStatus.Granted (status : AiPurchaseStatus) : Prop :=
  status = .completed ∨ status = .refunded

instance (status : AiPurchaseStatus) : Decidable status.Granted :=
  inferInstanceAs (Decidable (_ ∨ _))

def isPurchaseRowOf (purchaseId : Id) (row : AiWalletTransaction) : Bool :=
  row.type == .purchase && row.relatedEntityType == some "ai_credit_purchase" &&
    row.relatedEntityId == some purchaseId

def Db.purchaseRowsOf (db : Db) (purchaseId : Id) : List AiWalletTransaction :=
  db.transactions.filter (isPurchaseRowOf purchaseId)

/-- What holds of the purchases through every run. -/
structure PurchaseBooks (db : Db) : Prop where
  once : ∀ (id : Id) (row : AiCreditPurchase), db.purchases[id]? = some row →
    (db.purchaseRowsOf id).length ≤ 1
  pending : ∀ (id : Id) (row : AiCreditPurchase), db.purchases[id]? = some row →
    row.status = .pending → db.purchaseRowsOf id = []
  paid : ∀ (id : Id) (row : AiCreditPurchase), db.purchases[id]? = some row →
    row.stripePaymentIntentId ≠ none → (db.purchaseRowsOf id).length = 1
  fresh : ∀ id : Id, db.purchases.length ≤ id → db.purchaseRowsOf id = []

/-- A purchase has at most one PURCHASE row, and one exactly when its status is COMPLETED or
REFUNDED. -/
def PurchaseLaw (db : Db) : Prop :=
  ∀ (id : Id) (row : AiCreditPurchase), db.purchases[id]? = some row →
    (db.purchaseRowsOf id).length ≤ 1 ∧ ((db.purchaseRowsOf id).length = 1 ↔ row.status.Granted)

theorem purchaseBooks_empty : PurchaseBooks Db.empty :=
  ⟨fun _ _ h => by simp [Db.empty] at h, fun _ _ h => by simp [Db.empty] at h,
    fun _ _ h => by simp [Db.empty] at h, fun _ _ => rfl⟩

theorem purchaseLaw_empty : PurchaseLaw Db.empty := fun _ _ h => by simp [Db.empty] at h

/-- A change of purchase rows that brings none back to PENDING and leaves payment intents and
the ledger alone. -/
structure RowsKept (db db' : Db) : Prop where
  transactions : db'.transactions = db.transactions
  length : db'.purchases.length = db.purchases.length
  rows : ∀ (id : Id) (row' : AiCreditPurchase), db'.purchases[id]? = some row' →
    ∃ row, db.purchases[id]? = some row ∧
      row'.stripePaymentIntentId = row.stripePaymentIntentId ∧
      (row'.status = .pending → row.status = .pending)

/-- No status is changed between granted and not granted, except that a paid purchase may become
REFUNDED. -/
def GrantsKept (db db' : Db) : Prop :=
  ∀ (id : Id) (row row' : AiCreditPurchase), db.purchases[id]? = some row →
    db'.purchases[id]? = some row' →
    (row'.status.Granted ↔ row.status.Granted) ∨
      (row'.status = .refunded ∧ row.stripePaymentIntentId ≠ none)

/-- What one step of an actor can do to the purchases; `overwrites` says that it writes a closing
status over a granted one. -/
inductive PurchaseEffect (db db' : Db) (overwrites : Prop) : Prop where
  | kept (hrows : RowsKept db db') (hgrants : ¬ overwrites → GrantsKept db db')
  | created (row : AiCreditPurchase) (hpending : row.status = .pending)
      (hintent : row.stripePaymentIntentId = none)
      (htransactions : db'.transactions = db.transactions)
      (hpurchases : db'.purchases = db.purchases ++ [row])
  | completed (now : Time) (id : Id) (context : CompletionContext) (transaction : Id)
      (h : completePurchase db now id context = .ok (some transaction, db'))

theorem purchaseEffect_same {db db' : Db} {overwrites : Prop}
    (htransactions : db'.transactions = db.transactions)
    (hpurchases : db'.purchases = db.purchases) : PurchaseEffect db db' overwrites := by
  refine .kept ⟨htransactions, by rw [hpurchases], fun id row' hrow' => ?_⟩ fun _ => ?_
  · rw [hpurchases] at hrow'
    exact ⟨row', hrow', rfl, fun h => h⟩
  · intro id row row' hrow hrow'
    rw [hpurchases] at hrow'
    obtain rfl := Option.some.inj (hrow.symm.trans hrow')
    exact Or.inl Iff.rfl

theorem purchaseEffect_update {db : Db} {id : Id} {f : AiCreditPurchase → AiCreditPurchase}
    {overwrites : Prop}
    (hintent : ∀ row, (f row).stripePaymentIntentId = row.stripePaymentIntentId)
    (hpending : ∀ row, (f row).status = .pending → row.status = .pending)
    (hgrants : ¬ overwrites → ∀ row, db.purchases[id]? = some row →
      ((f row).status.Granted ↔ row.status.Granted) ∨
        ((f row).status = .refunded ∧ row.stripePaymentIntentId ≠ none)) :
    PurchaseEffect db (db.updatePurchase id f) overwrites := by
  refine .kept ⟨rfl, List.length_modify .., fun otherId row' hrow' => ?_⟩ ?_
  · obtain ⟨row, hrow, rfl⟩ := exists_of_getElem?_modify db.purchases f hrow'
    refine ⟨row, hrow, ?_, ?_⟩
    · split_ifs
      · exact hintent row
      · rfl
    · split_ifs
      · exact hpending row
      · exact fun h => h
  · intro hkeeps otherId row row' hrow hrow'
    rw [Db.updatePurchase, getElem?_modify_some db.purchases f hrow] at hrow'
    obtain rfl := Option.some.inj hrow'
    split_ifs with hid
    · subst hid
      exact hgrants hkeeps row hrow
    · exact Or.inl Iff.rfl

theorem PurchaseBooks.of_rowsKept {db db' : Db} (h : PurchaseBooks db) (hkept : RowsKept db db') :
    PurchaseBooks db' := by
  have hsame : ∀ id, db'.purchaseRowsOf id = db.purchaseRowsOf id := by
    intro id
    rw [Db.purchaseRowsOf, hkept.transactions]
    rfl
  refine ⟨fun id row' hrow' => ?_, fun id row' hrow' hpending => ?_,
    fun id row' hrow' hpaid => ?_, fun id hid => ?_⟩
  · obtain ⟨row, hrow, -, -⟩ := hkept.rows id row' hrow'
    rw [hsame]
    exact h.once id row hrow
  · obtain ⟨row, hrow, -, hback⟩ := hkept.rows id row' hrow'
    rw [hsame]
    exact h.pending id row hrow (hback hpending)
  · obtain ⟨row, hrow, hintent, -⟩ := hkept.rows id row' hrow'
    rw [hsame]
    exact h.paid id row hrow (hintent ▸ hpaid)
  · rw [hsame]
    exact h.fresh id (hkept.length ▸ hid)

theorem PurchaseLaw.of_grantsKept {db db' : Db} (h : PurchaseLaw db) (hbooks : PurchaseBooks db)
    (hkept : RowsKept db db') (hgrants : GrantsKept db db') : PurchaseLaw db' := by
  intro id row' hrow'
  obtain ⟨row, hrow, -, -⟩ := hkept.rows id row' hrow'
  have hsame : db'.purchaseRowsOf id = db.purchaseRowsOf id := by
    rw [Db.purchaseRowsOf, hkept.transactions]
    rfl
  obtain ⟨honce, hiff⟩ := h id row hrow
  rw [hsame]
  refine ⟨honce, ?_⟩
  rcases hgrants id row row' hrow hrow' with hsame' | ⟨hrefunded, hpaid⟩
  · exact hiff.trans hsame'.symm
  · exact ⟨fun _ => Or.inr hrefunded, fun _ => hbooks.paid id row hrow hpaid⟩

theorem purchaseRowsOf_append {db db' : Db} {row : AiWalletTransaction}
    (h : db'.transactions = db.transactions ++ [row]) (id : Id) :
    db'.purchaseRowsOf id =
      db.purchaseRowsOf id ++ if isPurchaseRowOf id row then [row] else [] := by
  rw [Db.purchaseRowsOf, h, List.filter_append, Db.purchaseRowsOf]
  by_cases hrow : isPurchaseRowOf id row <;> simp [hrow]

/-- What a completion does to the ledger rows and the purchase rows. -/
structure Completed (db db' : Db) (id : Id) : Prop where
  was_pending : ∃ row, db.purchases[id]? = some row ∧ row.status = .pending
  length : db'.purchases.length = db.purchases.length
  rows : ∀ otherId, (db'.purchaseRowsOf otherId).length =
    (db.purchaseRowsOf otherId).length + if id = otherId then 1 else 0
  other : ∀ (otherId : Id) (row' : AiCreditPurchase), id ≠ otherId →
    db'.purchases[otherId]? = some row' → db.purchases[otherId]? = some row'
  completed : ∀ row', db'.purchases[id]? = some row' → row'.status = .completed

theorem completed_of_completePurchase {db db' : Db} {now : Time} {id transaction : Id}
    {context : CompletionContext}
    (h : completePurchase db now id context = .ok (some transaction, db')) :
    Completed db db' id := by
  obtain ⟨purchase, hpurchase, ⟨-, hnone, -⟩ | ⟨hpending, entry, posted, hpost, -, -, rfl⟩⟩ :=
    completePurchase_cases h
  · cases hnone
  obtain ⟨row, hrow, -, htransactions, -, hpurchases, -⟩ := postTransaction_appends hpost
  refine ⟨⟨purchase, hpurchase, hpending⟩, ?_, fun otherId => ?_, fun otherId row' hid hrow' => ?_,
    fun row' hrow' => ?_⟩
  · rw [Db.updatePurchase, ← hpurchases]
    exact List.length_modify ..
  · change (posted.purchaseRowsOf otherId).length = _
    rw [purchaseRowsOf_append htransactions, List.length_append]
    have hmine : isPurchaseRowOf otherId row = (id == otherId) := by
      simp [isPurchaseRowOf, hrow.type, hrow.relatedEntityType, hrow.relatedEntityId,
        purchaseInput]
    rw [hmine]
    by_cases hid : id = otherId <;> simp [hid]
  · rw [Db.updatePurchase, getElem?_modify_of_ne posted.purchases _ hid, hpurchases] at hrow'
    exact hrow'
  · rw [← hpurchases] at hpurchase
    rw [Db.updatePurchase, getElem?_modify_self posted.purchases _ hpurchase] at hrow'
    obtain rfl := Option.some.inj hrow'
    rfl

theorem PurchaseBooks.completed {db db' : Db} {id : Id} (h : PurchaseBooks db)
    (hcompleted : Completed db db' id) : PurchaseBooks db' := by
  obtain ⟨old, hold, hpending⟩ := hcompleted.was_pending
  have hnone : (db.purchaseRowsOf id).length = 0 := by rw [h.pending id old hold hpending]; rfl
  have hrows := hcompleted.rows
  refine ⟨fun otherId row' hrow' => ?_, fun otherId row' hrow' hpending' => ?_,
    fun otherId row' hrow' hpaid => ?_, fun otherId hfresh => ?_⟩
  · rw [hrows]
    by_cases hid : id = otherId
    · subst hid
      simp [hnone]
    · simpa [hid] using h.once otherId row' (hcompleted.other otherId row' hid hrow')
  · by_cases hid : id = otherId
    · subst hid
      rw [hcompleted.completed row' hrow'] at hpending'
      cases hpending'
    · have hold' := h.pending otherId row' (hcompleted.other otherId row' hid hrow') hpending'
      have hlength := hrows otherId
      rw [hold', if_neg hid] at hlength
      exact List.eq_nil_of_length_eq_zero hlength
  · rw [hrows]
    by_cases hid : id = otherId
    · subst hid
      simp [hnone]
    · simpa [hid] using h.paid otherId row' (hcompleted.other otherId row' hid hrow') hpaid
  · have hlt : id < db.purchases.length := (List.getElem?_eq_some_iff.1 hold).1
    have hid : id ≠ otherId := by
      rintro rfl
      rw [hcompleted.length] at hfresh
      exact absurd hlt (not_lt.2 hfresh)
    have hlength := hrows otherId
    rw [h.fresh otherId (hcompleted.length ▸ hfresh), if_neg hid] at hlength
    exact List.eq_nil_of_length_eq_zero hlength

theorem PurchaseLaw.completed {db db' : Db} {id : Id} (h : PurchaseLaw db)
    (hbooks : PurchaseBooks db) (hcompleted : Completed db db' id) : PurchaseLaw db' := by
  intro otherId row' hrow'
  have hlength := hcompleted.rows otherId
  by_cases hid : id = otherId
  · subst hid
    obtain ⟨old, hold, hpending⟩ := hcompleted.was_pending
    rw [hbooks.pending id old hold hpending, if_pos rfl] at hlength
    rw [hlength, hcompleted.completed row' hrow']
    exact ⟨le_rfl, fun _ => Or.inl rfl, fun _ => rfl⟩
  · rw [if_neg hid, add_zero] at hlength
    rw [hlength]
    exact h otherId row' (hcompleted.other otherId row' hid hrow')

/-- A new PENDING purchase has no ledger rows yet. -/
theorem PurchaseBooks.created {db db' : Db} {row : AiCreditPurchase} (h : PurchaseBooks db)
    (hintent : row.stripePaymentIntentId = none)
    (htransactions : db'.transactions = db.transactions)
    (hpurchases : db'.purchases = db.purchases ++ [row]) : PurchaseBooks db' := by
  have hsame : ∀ id, db'.purchaseRowsOf id = db.purchaseRowsOf id := by
    intro id
    rw [Db.purchaseRowsOf, htransactions]
    rfl
  have hempty := h.fresh db.purchases.length le_rfl
  have hcases : ∀ id row', db'.purchases[id]? = some row' →
      db.purchases[id]? = some row' ∨ id = db.purchases.length ∧ row' = row := by
    intro id row' hrow'
    rw [hpurchases] at hrow'
    exact (getElem?_append_row_iff db.purchases row).1 hrow'
  refine ⟨fun id row' hrow' => ?_, fun id row' hrow' hpending => ?_,
    fun id row' hrow' hpaid => ?_, fun id hid => ?_⟩
  · rw [hsame]
    rcases hcases id row' hrow' with hold | ⟨rfl, rfl⟩
    · exact h.once id row' hold
    · simp [hempty]
  · rw [hsame]
    rcases hcases id row' hrow' with hold | ⟨rfl, rfl⟩
    · exact h.pending id row' hold hpending
    · exact hempty
  · rw [hsame]
    rcases hcases id row' hrow' with hold | ⟨rfl, rfl⟩
    · exact h.paid id row' hold hpaid
    · exact absurd hintent hpaid
  · rw [hsame]
    apply h.fresh id
    rw [hpurchases, List.length_append] at hid
    omega

theorem PurchaseLaw.created {db db' : Db} {row : AiCreditPurchase} (h : PurchaseLaw db)
    (hbooks : PurchaseBooks db) (hpending : row.status = .pending)
    (htransactions : db'.transactions = db.transactions)
    (hpurchases : db'.purchases = db.purchases ++ [row]) : PurchaseLaw db' := by
  intro id row' hrow'
  have hsame : db'.purchaseRowsOf id = db.purchaseRowsOf id := by
    rw [Db.purchaseRowsOf, htransactions]
    rfl
  rw [hsame]
  rw [hpurchases] at hrow'
  rcases (getElem?_append_row_iff db.purchases row).1 hrow' with hold | ⟨rfl, rfl⟩
  · exact h id row' hold
  · rw [hbooks.fresh db.purchases.length le_rfl, hpending]
    simp [AiPurchaseStatus.Granted]

theorem PurchaseBooks.effect {db db' : Db} {overwrites : Prop} (h : PurchaseBooks db)
    (heffect : PurchaseEffect db db' overwrites) : PurchaseBooks db' := by
  cases heffect with
  | kept hrows hgrants => exact h.of_rowsKept hrows
  | created row hpending hintent htransactions hpurchases =>
    exact h.created hintent htransactions hpurchases
  | completed now id context transaction hcomplete =>
    exact h.completed (completed_of_completePurchase hcomplete)

theorem PurchaseLaw.effect {db db' : Db} {overwrites : Prop} (h : PurchaseLaw db)
    (hbooks : PurchaseBooks db) (heffect : PurchaseEffect db db' overwrites)
    (hkeeps : ¬ overwrites) : PurchaseLaw db' := by
  cases heffect with
  | kept hrows hgrants => exact h.of_grantsKept hbooks hrows (hgrants hkeeps)
  | created row hpending hintent htransactions hpurchases =>
    exact h.created hbooks hpending htransactions hpurchases
  | completed now id context transaction hcomplete =>
    exact h.completed hbooks (completed_of_completePurchase hcomplete)

/-- The thread is about to write a closing status over a purchase whose credits were granted. -/
def PurchaseThread.Overwrites (db : Db) : PurchaseThread → Prop
  | cancel id => ∃ row, db.purchases[id]? = some row ∧ row.status.Granted
  | reject id _ _ => ∃ row, db.purchases[id]? = some row ∧ row.status.Granted
  | rejectUnpaid id eventId =>
    (∃ row, db.purchases[id]? = some row ∧ row.status.Granted) ∧
      stripeEventIdFree db id eventId = true
  | _ => False

theorem purchaseEffect_close {db : Db} {id : Id} {f : AiCreditPurchase → AiCreditPurchase}
    {status : AiPurchaseStatus} {overwrites : Prop}
    (hintent : ∀ row, (f row).stripePaymentIntentId = row.stripePaymentIntentId)
    (hstatus : ∀ row, (f row).status = status) (hpending : status ≠ .pending)
    (hclosed : ¬ status.Granted)
    (hkeeps : ¬ overwrites → ¬ ∃ row, db.purchases[id]? = some row ∧ row.status.Granted) :
    PurchaseEffect db (db.updatePurchase id f) overwrites := by
  apply purchaseEffect_update hintent
  · intro row h
    exact absurd ((hstatus row).symm.trans h) hpending
  · intro hno row hrow
    have hold : ¬ row.status.Granted := fun hgranted => hkeeps hno ⟨row, hrow, hgranted⟩
    rw [hstatus]
    exact Or.inl ⟨fun h => absurd h hclosed, fun h => absurd h hold⟩

theorem purchaseEffect_touched {db db' : Db} {tenantId : Id} (h : Touched db tenantId db')
    (overwrites : Prop) : PurchaseEffect db db' overwrites := by
  rcases h with rfl | ⟨-, rfl⟩ <;> exact purchaseEffect_same rfl rfl

theorem purchaseEffect_expireSession (db : Db) (event : StripeWebhookEvent) (overwrites : Prop) :
    PurchaseEffect db (expireSession db event) overwrites := by
  unfold expireSession
  split
  · exact purchaseEffect_same rfl rfl
  · split
    · exact purchaseEffect_same rfl rfl
    · rename_i id row hfind
      obtain ⟨hrow, hhit⟩ := findRow?_eq_some hfind
      split_ifs
      · -- the conditional update only finds a PENDING row
        refine purchaseEffect_close (fun _ => rfl) (fun _ => rfl) (by decide) (by decide) ?_
        rintro - ⟨row', hrow', hgranted⟩
        obtain rfl := Option.some.inj (hrow.symm.trans hrow')
        simp only [Bool.and_eq_true, beq_iff_eq] at hhit
        simp [AiPurchaseStatus.Granted, hhit.2] at hgranted
      · exact purchaseEffect_same rfl rfl

theorem purchaseEffect_advance (db : Db) (thread : PurchaseThread) (now : Time) :
    PurchaseEffect db (thread.advance db now).1 (thread.Overwrites db) := by
  cases thread with
  | openWallet request =>
    have htouched : Touched db request.tenantId (lockWalletByTenant db request.tenantId).1 :=
      (lockWalletByTenant_spec rfl).1
    exact purchaseEffect_touched htouched _
  | createRow request walletId currency =>
    cases hcolumn : column request.amount with
    | error e =>
      simp only [PurchaseThread.advance, hcolumn]
      exact purchaseEffect_same rfl rfl
    | ok amount =>
      simp only [PurchaseThread.advance, hcolumn]
      exact .created _ rfl rfl rfl rfl
  | saveSession id sessionId =>
    simp only [PurchaseThread.advance]
    split_ifs
    · exact purchaseEffect_update (fun _ => rfl) (fun _ h => h) fun _ _ _ => Or.inl Iff.rfl
    · exact purchaseEffect_same rfl rfl
  | receive event =>
    simp only [PurchaseThread.advance, handleStripeEvent]
    cases event.type with
    | checkoutExpired => exact purchaseEffect_expireSession db event _
    | _ => exact purchaseEffect_same rfl rfl
  | complete id context =>
    cases hcomplete : completePurchase db now id context with
    | error e =>
      simp only [PurchaseThread.advance, hcomplete]
      exact purchaseEffect_same rfl rfl
    | ok result =>
      obtain ⟨transaction, db'⟩ := result
      simp only [PurchaseThread.advance, hcomplete]
      cases transaction with
      | some transaction => exact .completed now id context transaction hcomplete
      | none =>
        obtain ⟨purchase, -, ⟨-, -, rfl⟩ | ⟨-, entry, posted, -, hsome, -⟩⟩ :=
          completePurchase_cases hcomplete
        · exact purchaseEffect_same rfl rfl
        · cases hsome
  | rejectUnpaid id eventId =>
    simp only [PurchaseThread.advance]
    split_ifs with hfree
    · exact purchaseEffect_close (fun _ => rfl) (fun _ => rfl) (by decide) (by decide)
        fun hno h => hno ⟨h, hfree⟩
    · exact purchaseEffect_same rfl rfl
  | cancel id =>
    exact purchaseEffect_close (fun _ => rfl) (fun _ => rfl) (by decide) (by decide)
      fun hno => hno
  | reject id adminId note =>
    exact purchaseEffect_close (fun _ => rfl) (fun _ => rfl) (by decide) (by decide)
      fun hno => hno
  | readOwn tenantId id => exact purchaseEffect_same rfl rfl
  | readReview adminId id decision => exact purchaseEffect_same rfl rfl
  | returned => exact purchaseEffect_same rfl rfl
  | thrown e => exact purchaseEffect_same rfl rfl

theorem purchaseEffect_expireStale (db : Db) (now : Time) (hours : ℕ) (overwrites : Prop) :
    PurchaseEffect db (expireStaleStripePurchases db now hours) overwrites := by
  have hget : ∀ (id : Id) (row' : AiCreditPurchase),
      (expireStaleStripePurchases db now hours).purchases[id]? = some row' →
      ∃ row, db.purchases[id]? = some row ∧
        (row' = row ∨ row.status = .pending ∧ row' = { row with status := .expired }) := by
    intro id row' hrow'
    simp only [expireStaleStripePurchases, List.getElem?_map, Option.map_eq_some_iff] at hrow'
    obtain ⟨row, hrow, rfl⟩ := hrow'
    refine ⟨row, hrow, ?_⟩
    split_ifs with hstale
    · exact Or.inr ⟨hstale.2.1, rfl⟩
    · exact Or.inl rfl
  refine .kept ⟨rfl, by simp [expireStaleStripePurchases], fun id row' hrow' => ?_⟩
    fun _ id row row' hrow hrow' => ?_
  · obtain ⟨row, hrow, rfl | ⟨-, rfl⟩⟩ := hget id row' hrow'
    · exact ⟨row', hrow, rfl, fun h => h⟩
    · exact ⟨row, hrow, rfl, fun h => by cases h⟩
  · obtain ⟨old, hold, hcases⟩ := hget id row' hrow'
    obtain rfl := Option.some.inj (hold.symm.trans hrow)
    rcases hcases with rfl | ⟨hpending, rfl⟩
    · exact Or.inl Iff.rfl
    · exact Or.inl (by simp [AiPurchaseStatus.Granted, hpending])

theorem purchaseEffect_refundFully (db : Db) (id : Id) (overwrites : Prop) :
    PurchaseEffect db (refundFully db id) overwrites := by
  apply purchaseEffect_update
  · intro row
    split_ifs <;> rfl
  · intro row h
    split_ifs at h
    exact h
  · intro _ row _
    split_ifs with hpaid
    · refine Or.inr ⟨rfl, fun hnone => ?_⟩
      simp [truthy, hnone] at hpaid
    · exact Or.inl Iff.rfl

theorem purchaseEffect_env (db : Db) (event : PurchaseEvent) :
    PurchaseEffect db (event.apply db) False := by
  cases event with
  | expireStaleStripePurchases now hours => exact purchaseEffect_expireStale db now hours False
  | refundFully id => exact purchaseEffect_refundFully db id False
  | updateWalletSettings tenantId settings =>
    have htouched : Touched db tenantId (lockWalletByTenant db tenantId).1 :=
      (lockWalletByTenant_spec rfl).1
    apply purchaseEffect_same
    · change (lockWalletByTenant db tenantId).1.transactions = db.transactions
      rcases htouched with h | ⟨-, h⟩ <;> rw [h]
    · change (lockWalletByTenant db tenantId).1.purchases = db.purchases
      rcases htouched with h | ⟨-, h⟩ <;> rw [h]

/-- No step writes a closing status over a purchase whose credits were granted. -/
def KeepsGranted (cfg : PurchaseConfig) (action : PurchaseAction) : Prop :=
  ∀ (i : ℕ) (now : Time) (t : PurchaseThread), action = .step i now →
    cfg.threads[i]? = some t → ¬ t.Overwrites cfg.shared

theorem purchaseBooks_next {cfg : PurchaseConfig} {action : PurchaseAction}
    (h : PurchaseBooks cfg.shared) : PurchaseBooks (purchaseProgram.next cfg action).shared := by
  apply Program.shared_next (P := purchaseProgram) (G := fun _ _ => True) ?_ ?_ h trivial
  · intro cfg _ now t hcfg _ _
    exact hcfg.effect (purchaseEffect_advance cfg.shared t now)
  · intro cfg event hcfg _
    exact hcfg.effect (purchaseEffect_env cfg.shared event)

theorem purchaseLaw_next {cfg : PurchaseConfig} {action : PurchaseAction}
    (h : PurchaseBooks cfg.shared ∧ PurchaseLaw cfg.shared) (hkeeps : KeepsGranted cfg action) :
    PurchaseBooks (purchaseProgram.next cfg action).shared ∧
      PurchaseLaw (purchaseProgram.next cfg action).shared := by
  apply Program.shared_next (P := purchaseProgram) (G := KeepsGranted)
    (I := fun db => PurchaseBooks db ∧ PurchaseLaw db) ?_ ?_ h hkeeps
  · intro cfg i now t hcfg hgood ht
    have heffect := purchaseEffect_advance cfg.shared t now
    exact ⟨hcfg.1.effect heffect, hcfg.2.effect hcfg.1 heffect (hgood i now t rfl ht)⟩
  · intro cfg event hcfg _
    have heffect := purchaseEffect_env cfg.shared event
    exact ⟨hcfg.1.effect heffect, hcfg.2.effect hcfg.1 heffect fun h => h⟩

/-- Closing a granted purchase leaves its ledger row behind. -/
theorem PurchaseLaw.not_granted_of_close {db : Db} (h : PurchaseLaw db) {id : Id}
    {f : AiCreditPurchase → AiCreditPurchase} (h' : PurchaseLaw (db.updatePurchase id f))
    (hclosed : ∀ row, ¬ (f row).status.Granted) :
    ¬ ∃ row, db.purchases[id]? = some row ∧ row.status.Granted := by
  rintro ⟨row, hrow, hgranted⟩
  have hone := (h id row hrow).2.2 hgranted
  exact hclosed row ((h' id (f row) (getElem?_modify_self db.purchases f hrow)).2.1 hone)

theorem PurchaseLaw.not_overwrites {db : Db} (h : PurchaseLaw db) {thread : PurchaseThread}
    {now : Time} (hafter : PurchaseLaw (thread.advance db now).1) : ¬ thread.Overwrites db := by
  intro hover
  cases thread with
  | cancel id =>
    change PurchaseLaw (db.updatePurchase id _) at hafter
    exact h.not_granted_of_close hafter (fun _ hclosed => by cases hclosed <;> contradiction) hover
  | reject id adminId note =>
    change PurchaseLaw (db.updatePurchase id _) at hafter
    exact h.not_granted_of_close hafter (fun _ hclosed => by cases hclosed <;> contradiction) hover
  | rejectUnpaid id eventId =>
    simp only [PurchaseThread.advance, hover.2, if_true] at hafter
    change PurchaseLaw (db.updatePurchase id _) at hafter
    exact h.not_granted_of_close hafter (fun _ hclosed => by cases hclosed <;> contradiction)
      hover.1
  | _ => exact hover

/-- In every interleaving a purchase has at most one PURCHASE row, and it has exactly one when
and only when it is COMPLETED or REFUNDED, in all states, if and only if no closing status is
written over a completion. -/
theorem purchaseLaw_iff_keepsGranted (actions : List PurchaseAction) :
    (∀ (k : ℕ) (id : Id) (row : AiCreditPurchase),
      (stateAt purchaseProgram.next purchaseInit actions k).shared.purchases[id]? = some row →
      ((stateAt purchaseProgram.next purchaseInit actions k).shared.purchaseRowsOf id).length ≤ 1) ∧
    ((∀ k, PurchaseLaw (stateAt purchaseProgram.next purchaseInit actions k).shared) ↔
      Always purchaseProgram.next KeepsGranted purchaseInit actions) := by
  constructor
  · intro k
    have hbooks : PurchaseBooks (stateAt purchaseProgram.next purchaseInit actions k).shared :=
      run_invariant (I := fun cfg : PurchaseConfig => PurchaseBooks cfg.shared)
        (fun _ _ => purchaseBooks_next) purchaseBooks_empty _
    exact hbooks.once
  constructor
  · intro hlaw
    rw [always_iff]
    rintro k action haction i now t rfl ht
    have hnext := hlaw (k + 1)
    rw [stateAt_succ purchaseProgram.next _ haction, purchaseProgram.next_step ht] at hnext
    exact (hlaw k).not_overwrites hnext
  · intro hgood k
    exact (hgood.invariant_at
      (I := fun cfg : PurchaseConfig => PurchaseBooks cfg.shared ∧ PurchaseLaw cfg.shared)
      (fun _ _ => purchaseLaw_next) ⟨purchaseBooks_empty, purchaseLaw_empty⟩ k).2

/-- What the ledger still tells of a purchase whose status was written over. -/
def LedgerTells (db : Db) : Prop :=
  (∀ id row, db.purchases[id]? = some row →
    (row.stripePaymentIntentId ≠ none → (db.purchaseRowsOf id).length = 1) ∧
      (row.status = .pending → db.purchaseRowsOf id = [])) ∧
    ∀ id, db.purchases[id]? = none → db.purchaseRowsOf id = []

/-- Whatever is written over, a purchase with a payment intent was credited once, and a PENDING
one was not. -/
theorem ledgerTells_run (actions : List PurchaseAction) :
    LedgerTells (run purchaseProgram.next purchaseInit actions).shared := by
  have hbooks : PurchaseBooks (run purchaseProgram.next purchaseInit actions).shared :=
    run_invariant (I := fun cfg : PurchaseConfig => PurchaseBooks cfg.shared)
      (fun _ _ => purchaseBooks_next) purchaseBooks_empty actions
  exact ⟨fun id row hrow => ⟨hbooks.paid id row hrow, hbooks.pending id row hrow⟩,
    fun id hnone => hbooks.fresh id (List.getElem?_eq_none_iff.1 hnone)⟩

/-- A customer's cancellation reads a PENDING bank transfer, an admin approves it, and the
cancellation is written. -/
def cancelAfterApproval : List PurchaseAction :=
  [.spawn (.submitBankTransfer 3 7 10 (some "https://bank.example/proof") none),
    .step 0 0, .step 0 0,
    .spawn (.cancelOwnPending 7 0), .step 1 1,
    .spawn (.reviewBankTransfer 9 0 { approve := true }), .step 2 2, .step 2 2,
    .step 1 3]

theorem not_purchaseLaw_cancelAfterApproval :
    ¬ PurchaseLaw (run purchaseProgram.next purchaseInit cancelAfterApproval).shared := by
  have hstatus : ((run purchaseProgram.next purchaseInit cancelAfterApproval).shared.purchases[0]?.map
      fun row => row.status) = some .cancelled := by decide +kernel
  have hrows : ((run purchaseProgram.next purchaseInit cancelAfterApproval).shared.purchaseRowsOf
      0).length = 1 := by decide +kernel
  intro h
  cases hrow : (run purchaseProgram.next purchaseInit cancelAfterApproval).shared.purchases[0]? with
  | none => simp [hrow] at hstatus
  | some row =>
    have hgranted := (h 0 row hrow).2.1 hrows
    simp only [hrow, Option.map_some, Option.some.injEq] at hstatus
    simp [AiPurchaseStatus.Granted, hstatus] at hgranted

end Forecast
