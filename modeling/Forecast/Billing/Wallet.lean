import Forecast.Billing.Schema

/-!
# The wallet service

Every balance change happens in `applyTransaction`, which writes the ledger row
and the wallet row together. Reservations hold credits ahead of a request and
are finalized with the actual charge, released, or expired by a sweep.
-/

namespace Forecast

open RowTable

structure PostTransactionInput where
  tenantId : Id
  type : AiLedgerType
  /-- Credits are positive, charges negative. -/
  amount : Decimal
  createdById : Option Id := none
  relatedEntityType : Option String := none
  relatedEntityId : Option Id := none
  allowNegativeBalance : Bool := false

structure ReserveInput where
  tenantId : Id
  userId : Option Id := none
  amount : Decimal
  requestId : Option Id := none

structure FinalizeContext where
  createdById : Option Id := none
  requestId : Option Id := none

structure WalletSettings where
  status : Option AiWalletStatus := none
  /-- The threshold as its column holds it; given as `null`, it is cleared. -/
  suspendThreshold : Option (Option Numeric) := none

/-- Reservations not finalized or released within this window are expired. -/
def reservationTtlMs : Time := 10 * 60 * 1000

namespace Db

def updateWallet (db : Db) (id : Id) (f : AiWallet → AiWallet) : Db :=
  { db with wallets := db.wallets.modify id f }

def updateReservation (db : Db) (id : Id) (f : AiCreditReservation → AiCreditReservation) : Db :=
  { db with reservations := db.reservations.modify id f }

def updatePurchase (db : Db) (id : Id) (f : AiCreditPurchase → AiCreditPurchase) : Db :=
  { db with purchases := db.purchases.modify id f }

def findWallet (db : Db) (tenantId : Id) : Option (Id × AiWallet) :=
  findRow? (fun wallet => wallet.tenantId == tenantId) db.wallets

end Db

/-- The tenant's wallet row, created on first touch. -/
def lockWalletByTenant (db : Db) (tenantId : Id) : Db × Id × AiWallet :=
  match db.findWallet tenantId with
  | some (id, wallet) => (db, id, wallet)
  | none =>
    ({ db with wallets := db.wallets ++ [AiWallet.create tenantId] }, db.wallets.length,
      AiWallet.create tenantId)

def getOrCreateWallet := lockWalletByTenant

def lockWalletById (db : Db) (walletId : Id) : Except Thrown AiWallet :=
  match db.wallets[walletId]? with
  | some wallet => .ok wallet
  | none => .error (.database "No AiWallet found")

def lockReservation (db : Db) (reservationId : Id) : Except Thrown AiCreditReservation :=
  orThrow db.reservations[reservationId]? (billingNotFoundError "Reservation not found")

/-- The lifetime aggregate that mirrors an entry of this type, as an update of the row. -/
def aggregateDelta (type : AiLedgerType) (amount : Decimal) (wallet : AiWallet) :
    Except Thrown (AiWallet → AiWallet) :=
  match type with
  | .purchase => do
      let total ← column (Decimal.plus wallet.totalPurchased.toDecimal |amount|)
      pure fun row => { row with totalPurchased := total }
  | .usageCharge => do
      let total ← column (Decimal.plus wallet.totalConsumed.toDecimal |amount|)
      pure fun row => { row with totalConsumed := total }
  | .refund => do
      let total ← column (Decimal.plus wallet.totalRefunded.toDecimal |amount|)
      pure fun row => { row with totalRefunded := total }
  | _ => do
      let total ← column (Decimal.plus wallet.totalAdjusted.toDecimal amount)
      pure fun row => { row with totalAdjusted := total }

def shouldSuspend (wallet : AiWallet) (balanceAfter : Decimal) : Bool :=
  match wallet.suspendThreshold with
  | none => false
  | some threshold => balanceAfter < threshold.toDecimal && wallet.status == .active

/-- Apply a ledger entry to a locked wallet row. Returns the id of the new ledger row. -/
def applyTransaction (db : Db) (walletId : Id) (wallet : AiWallet)
    (input : PostTransactionInput) : Except Thrown (Id × Db) := do
  let amount := input.amount
  throwIf (amount = 0) (billingValidationError "Ledger amount cannot be zero")
  throwIf (wallet.status = .closed) (walletSuspendedError "AI wallet is closed")
  let balanceBefore := wallet.balance.toDecimal
  let balanceAfter := Decimal.plus balanceBefore amount
  throwIf (balanceAfter < 0 ∧ input.allowNegativeBalance = false)
    (insufficientCreditsError
      s!"Transaction would overdraw the wallet (balance {Decimal.toFixed balanceBefore 6}, amount {Decimal.toFixed amount 6})")
  let amountColumn ← column amount
  let beforeColumn ← column balanceBefore
  let afterColumn ← column balanceAfter
  let transaction : AiWalletTransaction :=
    { walletId := walletId
      tenantId := input.tenantId
      type := input.type
      amount := amountColumn
      balanceBefore := beforeColumn
      balanceAfter := afterColumn
      relatedEntityType := input.relatedEntityType
      relatedEntityId := input.relatedEntityId
      createdById := input.createdById }
  let aggregates ← aggregateDelta input.type amount wallet
  let suspend := shouldSuspend wallet balanceAfter
  let db := { db with transactions := db.transactions ++ [transaction] }
  pure (db.transactions.length - 1, db.updateWallet walletId fun row =>
    { aggregates row with
      balance := afterColumn
      status := if suspend then .suspended else row.status })

def postTransaction (db : Db) (input : PostTransactionInput) : Except Thrown (Id × Db) :=
  let (db, walletId, wallet) := lockWalletByTenant db input.tenantId
  applyTransaction db walletId wallet input

/-- Hold credits ahead of a request. Returns the id of the reservation. -/
def reserveCredits (db : Db) (now : Time) (input : ReserveInput) : Except Thrown (Id × Db) := do
  let amount := input.amount
  throwIf (amount ≤ 0) (billingValidationError "Reservation amount must be positive")
  let (db, walletId, wallet) := lockWalletByTenant db input.tenantId
  throwIf (wallet.status = .suspended) (walletSuspendedError walletSuspendedMessage)
  throwIf (wallet.status = .closed) (walletSuspendedError "AI wallet is closed")
  let available := Decimal.minus wallet.balance.toDecimal wallet.reservedBalance.toDecimal
  throwIf (available < amount)
    (insufficientCreditsError
      s!"Insufficient AI credits: available {Decimal.toFixed available 6}, required {Decimal.toFixed amount 6}")
  let amountColumn ← column amount
  let reservation : AiCreditReservation :=
    { walletId := walletId
      tenantId := input.tenantId
      userId := input.userId
      amount := amountColumn
      status := .active
      requestId := input.requestId
      expiresAt := now + reservationTtlMs
      finalizedAt := none }
  let reserved ← column (Decimal.plus wallet.reservedBalance.toDecimal amount)
  let db := { db with reservations := db.reservations ++ [reservation] }
  pure (db.reservations.length - 1, db.updateWallet walletId fun row =>
    { row with reservedBalance := reserved })

/-- `reservedBalance` once a reservation's hold is given back. -/
def reservedWithout (wallet : AiWallet) (reservation : AiCreditReservation) :
    Except Thrown Numeric :=
  column (max 0 (Decimal.minus wallet.reservedBalance.toDecimal reservation.amount.toDecimal))

/-- Settle a reservation with the actual charge. Returns the id of the ledger row, or none for
a zero charge. -/
def finalizeReservation (db : Db) (now : Time) (reservationId : Id) (actualCharge : Decimal)
    (context : FinalizeContext) : Except Thrown (Option Id × Db) := do
  let charge := actualCharge
  throwIf (charge < 0) (billingValidationError "Usage charge cannot be negative")
  let reservation ← lockReservation db reservationId
  throwIf (reservation.status ≠ .active)
    (billingValidationError s!"Reservation is {reservation.status.text}, not ACTIVE")
  let wallet ← lockWalletById db reservation.walletId
  let reserved ← reservedWithout wallet reservation
  let db := db.updateWallet reservation.walletId fun row => { row with reservedBalance := reserved }
  let db := db.updateReservation reservationId fun row =>
    { row with status := .finalized, finalizedAt := some now }
  if charge = 0 then
    pure (none, db)
  else do
    let fresh ← lockWalletById db reservation.walletId
    let (transaction, db) ← applyTransaction db reservation.walletId fresh
      { tenantId := reservation.tenantId
        type := .usageCharge
        amount := -charge
        createdById := context.createdById.or reservation.userId
        relatedEntityType := some "ai_usage"
        relatedEntityId := (context.requestId.or reservation.requestId).or (some reservationId)
        -- actuals may exceed the reserve estimate; the request already ran
        allowNegativeBalance := true }
    pure (some transaction, db)

/-- Release a hold without charging; a reservation that already left ACTIVE is returned as is. -/
def releaseReservation (db : Db) (now : Time) (reservationId : Id)
    (status : AiReservationStatus) : Except Thrown Db := do
  let reservation ← lockReservation db reservationId
  if reservation.status ≠ .active then
    pure db
  else do
    let wallet ← lockWalletById db reservation.walletId
    let reserved ← reservedWithout wallet reservation
    let db := db.updateWallet reservation.walletId fun row =>
      { row with reservedBalance := reserved }
    pure (db.updateReservation reservationId fun row =>
      { row with status := status, finalizedAt := some now })

def staleReservations (db : Db) (now : Time) : List Id :=
  ((db.reservations.zipIdx.filter fun row =>
    row.1.status == .active && decide (row.1.expiresAt < now)).map Prod.snd).take 200

/-- The sweep releases each stale reservation in a transaction of its own and goes on past
failures. -/
def expireStaleReservations (db : Db) (now : Time) : Db :=
  (staleReservations db now).foldl (fun db id =>
    match releaseReservation db now id .expired with
    | .ok db => db
    | .error _ => db) db

def updateWalletSettings (db : Db) (tenantId : Id) (settings : WalletSettings) : Db :=
  let (db, walletId, _) := getOrCreateWallet db tenantId
  db.updateWallet walletId fun row =>
    { row with
      status := settings.status.getD row.status
      suspendThreshold := settings.suspendThreshold.getD row.suspendThreshold }

/-- An update of a wallet row that leaves its tenant and its two balances alone. -/
def KeepsBalances (f : AiWallet → AiWallet) : Prop :=
  ∀ row, (f row).tenantId = row.tenantId ∧ (f row).balance = row.balance ∧
    (f row).reservedBalance = row.reservedBalance

theorem aggregateDelta_keepsBalances {type : AiLedgerType} {amount : Decimal} {wallet : AiWallet}
    {f : AiWallet → AiWallet} (h : aggregateDelta type amount wallet = .ok f) :
    KeepsBalances f := by
  unfold aggregateDelta at h
  cases type <;>
    (obtain ⟨total, -, hf⟩ := bind_eq_ok.1 h
     obtain rfl := pure_eq_ok.1 hf
     exact fun row => ⟨rfl, rfl, rfl⟩)

/-- What a successful `applyTransaction` checked and wrote. -/
structure Applied (db : Db) (walletId : Id) (wallet : AiWallet) (input : PostTransactionInput)
    (id : Id) (db' : Db) : Prop where
  amount_ne_zero : input.amount ≠ 0
  not_closed : wallet.status ≠ .closed
  covered : 0 ≤ Decimal.plus wallet.balance.toDecimal input.amount ∨
    input.allowNegativeBalance = true
  writes : ∃ (amount after : Numeric) (aggregates : AiWallet → AiWallet)
      (status : AiWalletStatus → AiWalletStatus),
    Numeric.store input.amount = some amount ∧
    Numeric.store (Decimal.plus wallet.balance.toDecimal input.amount) = some after ∧
    KeepsBalances aggregates ∧
    id = db.transactions.length ∧
    db' = { db with
      transactions := db.transactions ++
        [⟨walletId, input.tenantId, input.type, amount, wallet.balance, after,
          input.relatedEntityType, input.relatedEntityId, input.createdById⟩]
      wallets := db.wallets.modify walletId fun row =>
        { aggregates row with balance := after, status := status row.status } }

theorem applied_of_applyTransaction {db db' : Db} {walletId : Id} {wallet : AiWallet}
    {input : PostTransactionInput} {id : Id}
    (h : applyTransaction db walletId wallet input = .ok (id, db')) :
    Applied db walletId wallet input id db' := by
  simp only [applyTransaction, bind_eq_ok, throwIf_eq_ok, column_eq_ok, pure_eq_ok,
    Numeric.store_toDecimal, Option.some.injEq, Prod.mk.injEq] at h
  obtain ⟨-, hzero, -, hclosed, -, hcover, amount, hamount, before, rfl, after, hafter,
    aggregates, haggregates, hid, hdb⟩ := h
  refine ⟨hzero, hclosed, ?_, amount, after, aggregates,
    fun status => if shouldSuspend wallet (Decimal.plus wallet.balance.toDecimal input.amount)
      then .suspended else status, hamount, hafter, aggregateDelta_keepsBalances haggregates,
    ?_, hdb.symm⟩
  · by_contra hneg
    push Not at hneg
    exact hcover ⟨hneg.1, by simpa using hneg.2⟩
  · simpa using hid.symm

theorem lockWalletById_eq_ok {db : Db} {walletId : Id} {wallet : AiWallet} :
    lockWalletById db walletId = .ok wallet ↔ db.wallets[walletId]? = some wallet := by
  unfold lockWalletById
  cases db.wallets[walletId]? <;> simp

/-- The database after a tenant's wallet row was created on first touch, if it had to be. -/
def Touched (db : Db) (tenantId : Id) (db' : Db) : Prop :=
  db' = db ∨ (∀ wallet ∈ db.wallets, wallet.tenantId ≠ tenantId) ∧
    db' = { db with wallets := db.wallets ++ [AiWallet.create tenantId] }

theorem lockWalletByTenant_spec {db locked : Db} {tenantId walletId : Id} {wallet : AiWallet}
    (h : lockWalletByTenant db tenantId = (locked, walletId, wallet)) :
    Touched db tenantId locked ∧ locked.wallets[walletId]? = some wallet ∧
      wallet.tenantId = tenantId := by
  unfold lockWalletByTenant at h
  cases hfind : db.findWallet tenantId with
  | none =>
    simp only [hfind, Prod.mk.injEq] at h
    obtain ⟨rfl, rfl, rfl⟩ := h
    have hall := findRow?_eq_none.1 hfind
    refine ⟨Or.inr ⟨fun wallet hw => ?_, rfl⟩, by simp, rfl⟩
    simpa using hall wallet hw
  | some found =>
    simp only [hfind, Prod.mk.injEq] at h
    obtain ⟨rfl, rfl, rfl⟩ := h
    obtain ⟨hget, htenant⟩ := findRow?_eq_some hfind
    exact ⟨Or.inl rfl, hget, by simpa using htenant⟩

theorem postTransaction_cases {db db' : Db} {input : PostTransactionInput} {id : Id}
    (h : postTransaction db input = .ok (id, db')) :
    ∃ locked walletId wallet, lockWalletByTenant db input.tenantId = (locked, walletId, wallet) ∧
      Applied locked walletId wallet input id db' :=
  ⟨_, _, _, rfl, applied_of_applyTransaction h⟩

/-- The ledger row an entry becomes. -/
structure PostedRow (input : PostTransactionInput) (row : AiWalletTransaction) : Prop where
  tenantId : row.tenantId = input.tenantId
  type : row.type = input.type
  amount : Numeric.store input.amount = some row.amount
  relatedEntityType : row.relatedEntityType = input.relatedEntityType
  relatedEntityId : row.relatedEntityId = input.relatedEntityId

/-- Posting appends one ledger row and touches no table but the wallets and the ledger. -/
theorem postTransaction_appends {db db' : Db} {input : PostTransactionInput} {id : Id}
    (h : postTransaction db input = .ok (id, db')) :
    ∃ row, PostedRow input row ∧ id = db.transactions.length ∧
      db'.transactions = db.transactions ++ [row] ∧ db'.reservations = db.reservations ∧
      db'.purchases = db.purchases ∧ db'.refunds = db.refunds := by
  obtain ⟨locked, walletId, wallet, hlock, happlied⟩ := postTransaction_cases h
  obtain ⟨amount, after, aggregates, status, hamount, -, -, hid, rfl⟩ := happlied.writes
  rcases (lockWalletByTenant_spec hlock).1 with rfl | ⟨-, rfl⟩
  · exact ⟨_, ⟨rfl, rfl, hamount, rfl, rfl⟩, hid, rfl, rfl, rfl, rfl⟩
  · exact ⟨_, ⟨rfl, rfl, hamount, rfl, rfl⟩, hid, rfl, rfl, rfl, rfl⟩

/-- The writes by which a reservation leaves ACTIVE. -/
def Db.settle (db : Db) (now : Time) (reservationId walletId : Id) (reserved : Numeric)
    (status : AiReservationStatus) : Db :=
  (db.updateWallet walletId fun row => { row with reservedBalance := reserved }).updateReservation
    reservationId fun row => { row with status := status, finalizedAt := some now }

/-- What a successful `reserveCredits` checked and wrote. -/
theorem reserveCredits_cases {db db' : Db} {now : Time} {input : ReserveInput} {id : Id}
    (h : reserveCredits db now input = .ok (id, db')) :
    ∃ locked walletId wallet amount reserved,
      lockWalletByTenant db input.tenantId = (locked, walletId, wallet) ∧
      0 < input.amount ∧ wallet.status = .active ∧
      wallet.reservedBalance.toDecimal + input.amount ≤ wallet.balance.toDecimal ∧
      Numeric.store input.amount = some amount ∧
      Numeric.store (Decimal.plus wallet.reservedBalance.toDecimal input.amount) = some reserved ∧
      id = locked.reservations.length ∧
      db' = { locked with
        reservations := locked.reservations ++
          [⟨walletId, input.tenantId, input.userId, amount, .active, input.requestId,
            now + reservationTtlMs, none⟩]
        wallets := locked.wallets.modify walletId fun row =>
          { row with reservedBalance := reserved } } := by
  obtain ⟨locked, walletId, wallet, hlock⟩ :
      ∃ locked walletId wallet, lockWalletByTenant db input.tenantId = (locked, walletId, wallet) :=
    ⟨_, _, _, rfl⟩
  simp only [reserveCredits, hlock, bind_eq_ok, throwIf_eq_ok, column_eq_ok, pure_eq_ok,
    minus_toDecimal, Prod.mk.injEq] at h
  obtain ⟨-, hpos, -, hsuspended, -, hclosed, -, hcover, amount, hamount, reserved, hreserved,
    hid, hdb⟩ := h
  refine ⟨locked, walletId, wallet, amount, reserved, hlock, not_le.1 hpos, ?_, ?_, hamount,
    hreserved, by simpa using hid.symm, hdb.symm⟩
  · cases hstatus : wallet.status with
    | active => rfl
    | suspended => exact absurd hstatus hsuspended
    | closed => exact absurd hstatus hclosed
  · rw [not_lt] at hcover
    linarith

/-- The ledger entry of a settled reservation. -/
def usageInput (reservationId : Id) (reservation : AiCreditReservation) (charge : Decimal)
    (context : FinalizeContext) : PostTransactionInput where
  tenantId := reservation.tenantId
  type := .usageCharge
  amount := -charge
  createdById := context.createdById.or reservation.userId
  relatedEntityType := some "ai_usage"
  relatedEntityId := (context.requestId.or reservation.requestId).or (some reservationId)
  allowNegativeBalance := true

/-- What a successful `finalizeReservation` checked and wrote. -/
theorem finalizeReservation_cases {db db' : Db} {now : Time} {reservationId : Id}
    {charge : Decimal} {context : FinalizeContext} {transaction : Option Id}
    (h : finalizeReservation db now reservationId charge context = .ok (transaction, db')) :
    ∃ reservation wallet reserved, 0 ≤ charge ∧
      db.reservations[reservationId]? = some reservation ∧ reservation.status = .active ∧
      db.wallets[reservation.walletId]? = some wallet ∧
      reservedWithout wallet reservation = .ok reserved ∧
      ((charge = 0 ∧ transaction = none ∧
          db' = db.settle now reservationId reservation.walletId reserved .finalized) ∨
        (charge ≠ 0 ∧ ∃ id, transaction = some id ∧
          Applied (db.settle now reservationId reservation.walletId reserved .finalized)
            reservation.walletId { wallet with reservedBalance := reserved }
            (usageInput reservationId reservation charge context) id db')) := by
  simp only [finalizeReservation, lockReservation, bind_eq_ok, throwIf_eq_ok, orThrow_eq_ok] at h
  obtain ⟨-, hcharge, reservation, hreservation, -, hactive, wallet, hwallet, reserved, hreserved,
    h⟩ := h
  have hget := lockWalletById_eq_ok.1 hwallet
  refine ⟨reservation, wallet, reserved, not_lt.1 hcharge, hreservation, not_not.1 hactive, hget,
    hreserved, ?_⟩
  split_ifs at h with hzero
  · simp only [pure_eq_ok, Prod.mk.injEq] at h
    exact Or.inl ⟨hzero, h.1.symm, h.2.symm⟩
  · simp only [bind_eq_ok, pure_eq_ok, Prod.mk.injEq] at h
    obtain ⟨fresh, hfresh, ⟨id, posted⟩, hposted, htransaction, rfl⟩ := h
    have hsame : fresh = { wallet with reservedBalance := reserved } := by
      have hmod := getElem?_modify_self db.wallets
        (fun row => { row with reservedBalance := reserved }) hget
      rw [lockWalletById_eq_ok] at hfresh
      exact Option.some.inj (hfresh.symm.trans hmod)
    subst hsame
    exact Or.inr ⟨hzero, id, htransaction.symm, applied_of_applyTransaction hposted⟩

/-- What a successful `releaseReservation` wrote. -/
theorem releaseReservation_cases {db db' : Db} {now : Time} {reservationId : Id}
    {status : AiReservationStatus} (h : releaseReservation db now reservationId status = .ok db') :
    ∃ reservation, db.reservations[reservationId]? = some reservation ∧
      ((reservation.status ≠ .active ∧ db' = db) ∨
        (reservation.status = .active ∧ ∃ wallet reserved,
          db.wallets[reservation.walletId]? = some wallet ∧
          reservedWithout wallet reservation = .ok reserved ∧
          db' = db.settle now reservationId reservation.walletId reserved status)) := by
  simp only [releaseReservation, lockReservation, bind_eq_ok, orThrow_eq_ok] at h
  obtain ⟨reservation, hreservation, h⟩ := h
  refine ⟨reservation, hreservation, ?_⟩
  split_ifs at h with hleft
  · simp only [pure_eq_ok] at h
    exact Or.inl ⟨hleft, h.symm⟩
  · simp only [bind_eq_ok, lockWalletById_eq_ok, pure_eq_ok] at h
    obtain ⟨wallet, hwallet, reserved, hreserved, hdb⟩ := h
    exact Or.inr ⟨not_not.1 hleft, wallet, reserved, hwallet, hreserved, hdb.symm⟩

/-- What every row of the sweep preserves, the sweep preserves. -/
theorem expireStaleReservations_invariant {I : Db → Prop} {now : Time}
    (hrow : ∀ db db' id, I db → releaseReservation db now id .expired = .ok db' → I db') {db : Db}
    (h : I db) : I (expireStaleReservations db now) := by
  unfold expireStaleReservations
  generalize staleReservations db now = ids
  induction ids generalizing db with
  | nil => exact h
  | cons id ids ih =>
    rw [List.foldl_cons]
    cases hrelease : releaseReservation db now id .expired with
    | error e => exact ih h
    | ok released => exact ih (hrow db released id h hrelease)

end Forecast
