import Forecast.Billing.Purchase
import Forecast.Lib.Runs

/-!
# Runs of the wallet service

The calls that touch a wallet, each one atomic transaction. A call that throws
leaves the database as it was.
-/

namespace Forecast

inductive WalletCall where
  | getOrCreateWallet (tenantId : Id)
  | updateWalletSettings (tenantId : Id) (settings : WalletSettings)
  | postTransaction (input : PostTransactionInput)
  | reserveCredits (now : Time) (input : ReserveInput)
  | finalizeReservation (now : Time) (reservationId : Id) (actualCharge : Decimal)
      (context : FinalizeContext)
  | releaseReservation (now : Time) (reservationId : Id)
  /-- One row of the expiry sweep, which may interleave with other calls. -/
  | expireReservation (now : Time) (reservationId : Id)
  | expireStaleReservations (now : Time)
  | createPurchase (now : Time) (tenantId userId : Id) (method : AiPurchaseMethod)
      (amount : Decimal)
  | completePurchase (now : Time) (purchaseId : Id) (context : CompletionContext)

def pendingPurchase (now : Time) (tenantId userId walletId : Id) (currency : String)
    (method : AiPurchaseMethod) (amount : Numeric) : AiCreditPurchase where
  tenantId := tenantId
  walletId := walletId
  userId := userId
  method := method
  amount := amount
  currency := currency
  status := .pending
  stripeSessionId := none
  stripePaymentIntentId := none
  stripeEventId := none
  reviewedById := none
  reviewedAt := none
  reviewNote := none
  createdAt := now

/-- The part both purchase rails share: check the amount, touch the wallet, create the row. -/
def createPurchase (db : Db) (now : Time) (tenantId userId : Id) (method : AiPurchaseMethod)
    (amount : Decimal) : Except Thrown Db := do
  validateAmount amount
  let (db, walletId, wallet) := getOrCreateWallet db tenantId
  let amountColumn ← column amount
  pure { db with purchases := db.purchases ++
    [pendingPurchase now tenantId userId walletId wallet.currency method amountColumn] }

theorem createPurchase_cases {db db' : Db} {now : Time} {tenantId userId : Id}
    {method : AiPurchaseMethod} {amount : Decimal}
    (h : createPurchase db now tenantId userId method amount = .ok db') :
    ∃ row : AiCreditPurchase, 0 < row.amount.micros ∧
      db' = { (lockWalletByTenant db tenantId).1 with
        purchases := (lockWalletByTenant db tenantId).1.purchases ++ [row] } := by
  simp only [createPurchase, validateAmount, getOrCreateWallet, bind_eq_ok, throwIf_eq_ok,
    column_eq_ok, pure_eq_ok] at h
  obtain ⟨-, hrange, stored, hstored, rfl⟩ := h
  refine ⟨_, ?_, rfl⟩
  have hone : minPurchase ≤ amount := not_lt.1 fun hlt => hrange (Or.inl hlt)
  change 0 < stored.micros
  rw [Numeric.store_eq_some_iff.1 hstored]
  have hmono : GridRounding.roundHalfAway ((1 : ℤ) : ℚ) ≤
      GridRounding.roundHalfAway (amount * microsPerUnit) := by
    apply GridRounding.roundHalfAway_mono
    calc ((1 : ℤ) : ℚ) ≤ 1 * microsPerUnit := by norm_num [microsPerUnit]
      _ ≤ amount * microsPerUnit :=
        mul_le_mul_of_nonneg_right hone (by norm_num [microsPerUnit])
  rw [GridRounding.roundHalfAway_intCast] at hmono
  omega

namespace WalletCall

/-- The outcome of a call: the ledger row it wrote, if any, and the new database. -/
def outcome (db : Db) : WalletCall → Except Thrown (Option Id × Db)
  | getOrCreateWallet tenantId => .ok (none, (Forecast.getOrCreateWallet db tenantId).1)
  | updateWalletSettings tenantId settings =>
    .ok (none, Forecast.updateWalletSettings db tenantId settings)
  | postTransaction input => (Forecast.postTransaction db input).map fun r => (some r.1, r.2)
  | reserveCredits now input => (Forecast.reserveCredits db now input).map fun r => (none, r.2)
  | finalizeReservation now id charge context =>
    Forecast.finalizeReservation db now id charge context
  | releaseReservation now id =>
    (Forecast.releaseReservation db now id .released).map fun db => (none, db)
  | expireReservation now id =>
    (Forecast.releaseReservation db now id .expired).map fun db => (none, db)
  | expireStaleReservations now => .ok (none, Forecast.expireStaleReservations db now)
  | createPurchase now tenantId userId method amount =>
    (Forecast.createPurchase db now tenantId userId method amount).map fun db => (none, db)
  | completePurchase now id context => Forecast.completePurchase db now id context

def next (db : Db) (call : WalletCall) : Db :=
  match call.outcome db with
  | .ok (_, db') => db'
  | .error _ => db

/-- What a call may post: at most one entry, of a reservation or a purchase as it finds it. -/
def Posts (db : Db) (input : PostTransactionInput) : WalletCall → Prop
  | postTransaction given => given = input
  | finalizeReservation _ id charge context => ∃ reservation,
      db.reservations[id]? = some reservation ∧ reservation.status = .active ∧
        usageInput id reservation charge context = input
  | completePurchase _ id context => ∃ purchase,
      db.purchases[id]? = some purchase ∧ purchase.status = .pending ∧
        purchaseInput id purchase context = input
  | _ => False

theorem Posts.cases {db : Db} {input : PostTransactionInput} {call : WalletCall}
    (h : call.Posts db input) : call = .postTransaction input ∨ input.type = .purchase ∨
      input.type = .usageCharge ∧
        ∃ now id charge context, call = .finalizeReservation now id charge context := by
  cases call with
  | postTransaction given => exact Or.inl (congrArg _ h)
  | finalizeReservation now id charge context =>
    obtain ⟨reservation, -, -, rfl⟩ := h
    exact Or.inr (Or.inr ⟨rfl, now, id, charge, context, rfl⟩)
  | completePurchase now id context =>
    obtain ⟨purchase, -, -, rfl⟩ := h
    exact Or.inr (Or.inl rfl)
  | _ => exact h.elim

/-- An update of a purchase row that leaves its tenant and amount alone. -/
def KeepsTerms (f : AiCreditPurchase → AiCreditPurchase) : Prop :=
  ∀ row, (f row).tenantId = row.tenantId ∧ (f row).amount = row.amount

/-- To preserve `I`, a call need only preserve it through the elementary changes it makes. An
entry is posted by `postTransaction` itself or, for a purchase, with a stored amount. -/
theorem next_preserves {I : Db → Prop} {db : Db} {call : WalletCall} (h : I db)
    (touch : ∀ {tenantId db'}, Touched db tenantId db' → I db')
    (settings : ∀ {db : Db} {walletId f}, KeepsBalances f → I db → I (db.updateWallet walletId f))
    (create : ∀ {db : Db} {row : AiCreditPurchase}, 0 < row.amount.micros → I db →
      I { db with purchases := db.purchases ++ [row] })
    (update : ∀ {db : Db} {id f}, KeepsTerms f → I db → I (db.updatePurchase id f))
    (post : ∀ {input id db'}, call = .postTransaction input ∨
      (input.type = .purchase ∧ ∃ amount : Numeric, input.amount = amount.toDecimal) →
      call.Posts db input → Forecast.postTransaction db input = .ok (id, db') → I db')
    (reserve : ∀ {now input id db'}, call = .reserveCredits now input →
      Forecast.reserveCredits db now input = .ok (id, db') → I db')
    (finalize : ∀ {now id charge context transaction db'},
      call = .finalizeReservation now id charge context →
      Forecast.finalizeReservation db now id charge context = .ok (transaction, db') → I db')
    (release : ∀ {db db' : Db} {now id status}, status ≠ AiReservationStatus.active → I db →
      Forecast.releaseReservation db now id status = .ok db' → I db') :
    I (next db call) := by
  cases hout : call.outcome db with
  | error e => rwa [next, hout]
  | ok result =>
    obtain ⟨transaction, db'⟩ := result
    rw [next, hout]
    cases call with
    | getOrCreateWallet tenantId =>
      obtain rfl := (Prod.mk.inj (Except.ok.inj hout)).2
      exact touch (lockWalletByTenant_spec rfl).1
    | updateWalletSettings tenantId given =>
      obtain rfl := (Prod.mk.inj (Except.ok.inj hout)).2
      exact settings (fun _ => ⟨rfl, rfl, rfl⟩) (touch (lockWalletByTenant_spec rfl).1)
    | postTransaction input =>
      obtain ⟨posted, hpost, hresult⟩ := map_eq_ok.1 hout
      obtain rfl := (Prod.mk.inj hresult).2
      exact post (Or.inl rfl) rfl hpost
    | reserveCredits now input =>
      obtain ⟨reserved, hreserve, hresult⟩ := map_eq_ok.1 hout
      obtain rfl := (Prod.mk.inj hresult).2
      exact reserve rfl hreserve
    | finalizeReservation now id charge context => exact finalize rfl hout
    | releaseReservation now id =>
      obtain ⟨released, hrelease, hresult⟩ := map_eq_ok.1 hout
      obtain rfl := (Prod.mk.inj hresult).2
      exact release (by decide) h hrelease
    | expireReservation now id =>
      obtain ⟨released, hrelease, hresult⟩ := map_eq_ok.1 hout
      obtain rfl := (Prod.mk.inj hresult).2
      exact release (by decide) h hrelease
    | expireStaleReservations now =>
      obtain rfl := (Prod.mk.inj (Except.ok.inj hout)).2
      exact expireStaleReservations_invariant (fun _ _ _ => release (by decide)) h
    | createPurchase now tenantId userId method amount =>
      obtain ⟨created, hcreated, hresult⟩ := map_eq_ok.1 hout
      obtain rfl := (Prod.mk.inj hresult).2
      obtain ⟨row, hpositive, rfl⟩ := createPurchase_cases hcreated
      exact create hpositive (touch (lockWalletByTenant_spec rfl).1)
    | completePurchase now id context =>
      obtain ⟨purchase, hpurchase, ⟨-, -, rfl⟩ | ⟨hpending, entry, posted, hpost, -, -, rfl⟩⟩ :=
        completePurchase_cases hout
      · exact h
      · exact update (fun _ => ⟨rfl, rfl⟩) (post (Or.inr ⟨rfl, purchase.amount, rfl⟩)
          ⟨purchase, hpurchase, hpending, rfl⟩ hpost)

end WalletCall

/-! ### What a call adds to the ledger -/

/-- The ledger gained rows, each of which satisfies `p`. -/
def Appends (p : AiWalletTransaction → Prop) (db db' : Db) : Prop :=
  ∃ rows, db'.transactions = db.transactions ++ rows ∧ ∀ row ∈ rows, p row

section Appends

variable {p : AiWalletTransaction → Prop} {db db' : Db}

theorem appends_of_same (h : db'.transactions = db.transactions) : Appends p db db' :=
  ⟨[], by rw [h, List.append_nil], fun _ hrow => absurd hrow List.not_mem_nil⟩

theorem appends_singleton {row : AiWalletTransaction}
    (h : db'.transactions = db.transactions ++ [row]) (hrow : p row) : Appends p db db' :=
  ⟨[row], h, fun _ hother => List.mem_singleton.1 hother ▸ hrow⟩

theorem Appends.of_same {db'' : Db} (h : Appends p db db')
    (hsame : db''.transactions = db'.transactions) : Appends p db db'' := by
  obtain ⟨rows, hrows, hall⟩ := h
  exact ⟨rows, hsame.trans hrows, hall⟩

theorem Appends.prefix (h : Appends p db db') : db.transactions <+: db'.transactions := by
  obtain ⟨rows, hrows, -⟩ := h
  exact ⟨rows, hrows.symm⟩

/-- A row without `p` is an old one. -/
theorem Appends.getElem?_of_not (h : Appends p db db') {id : Id} {row : AiWalletTransaction}
    (hrow : db'.transactions[id]? = some row) (hnot : ¬p row) :
    db.transactions[id]? = some row := by
  obtain ⟨rows, hrows, hall⟩ := h
  rw [hrows] at hrow
  by_cases hid : id < db.transactions.length
  · rwa [List.getElem?_append_left hid] at hrow
  · rw [List.getElem?_append_right (Nat.le_of_not_lt hid)] at hrow
    exact absurd (hall row (List.mem_of_getElem? hrow)) hnot

theorem appends_next {call : WalletCall}
    (hposts : ∀ input row, call.Posts db input → PostedRow input row → p row) :
    Appends p db (WalletCall.next db call) := by
  apply WalletCall.next_preserves (I := Appends p db) (appends_of_same rfl)
  case touch =>
    rintro tenantId db' (rfl | ⟨-, rfl⟩)
    · exact appends_of_same rfl
    · exact appends_of_same rfl
  case settings => exact fun _ h => h.of_same rfl
  case create => exact fun _ h => h.of_same rfl
  case update => exact fun _ h => h.of_same rfl
  case post =>
    intro input id db' _ hcall hposted
    obtain ⟨row, hrow, -, htransactions, -⟩ := postTransaction_appends hposted
    exact appends_singleton htransactions (hposts input row hcall hrow)
  case reserve =>
    intro now input id db' _ hreserve
    obtain ⟨locked, walletId, wallet, amount, reserved, hlock, -, -, -, -, -, -, rfl⟩ :=
      reserveCredits_cases hreserve
    have htouched : Touched db input.tenantId locked := (lockWalletByTenant_spec hlock).1
    rcases htouched with rfl | ⟨-, rfl⟩
    · exact appends_of_same rfl
    · exact appends_of_same rfl
  case finalize =>
    intro now id charge context transaction db' hcall hfinal
    obtain ⟨reservation, wallet, reserved, -, hreservation, hactive, -, -, hcases⟩ :=
      finalizeReservation_cases hfinal
    rcases hcases with ⟨-, -, rfl⟩ | ⟨-, posted, -, happlied⟩
    · exact appends_of_same rfl
    · obtain ⟨amount, after, aggregates, status', hamount, -, -, -, rfl⟩ := happlied.writes
      apply appends_singleton rfl
      apply hposts (usageInput id reservation charge context)
      · rw [hcall]
        exact ⟨reservation, hreservation, hactive, rfl⟩
      · exact ⟨rfl, rfl, hamount, rfl, rfl⟩
  case release =>
    intro db' db'' now id status _ h hrelease
    obtain ⟨reservation, -, ⟨-, rfl⟩ | ⟨-, wallet, reserved, -, -, rfl⟩⟩ :=
      releaseReservation_cases hrelease
    · exact h
    · exact h.of_same rfl

def CausedBy (db : Db) (calls : List WalletCall) (row : AiWalletTransaction) : Prop :=
  ∃ (k : ℕ) (call : WalletCall) (input : PostTransactionInput), calls[k]? = some call ∧
    call.Posts (Runs.stateAt WalletCall.next db calls k) input ∧ PostedRow input row

/-- No run changes or removes a row of the ledger, and each row it adds has its cause in the run. -/
theorem appends_run (db : Db) (calls : List WalletCall) :
    Appends (CausedBy db calls) db (Runs.run WalletCall.next db calls) := by
  induction calls generalizing db with
  | nil => exact appends_of_same rfl
  | cons call calls ih =>
    have hstep : Appends (CausedBy db (call :: calls)) db (WalletCall.next db call) :=
      appends_next fun input row hposts hrow => ⟨0, call, input, rfl, hposts, hrow⟩
    obtain ⟨first, hfirst, hcaused⟩ := hstep
    obtain ⟨rest, hrest, hcaused'⟩ := ih (WalletCall.next db call)
    refine ⟨first ++ rest, by rw [Runs.run_cons, hrest, hfirst, List.append_assoc], ?_⟩
    intro row hrow
    rcases List.mem_append.1 hrow with hrow | hrow
    · exact hcaused row hrow
    · obtain ⟨k, later, input, hlater, hposts, hposted⟩ := hcaused' row hrow
      exact ⟨k + 1, later, input, hlater, hposts, hposted⟩

end Appends

end Forecast
