import Forecast.Billing.Pricing
import Forecast.Billing.WalletCalls
import Forecast.Lib.RunningLedger

/-!
# The wallet balance is the sum of its ledger

The stored balance, the two snapshots of a ledger row and its amount are rounded
to their columns independently. The books stay reconciled through every run
whose posted amounts round alike with the balance they are added to.
-/

namespace Forecast

open RowTable Runs

def Db.ledgerOf (db : Db) (walletId : Id) : List AiWalletTransaction :=
  db.transactions.filter fun row => row.walletId == walletId

def AiWalletTransaction.entry (row : AiWalletTransaction) : RunningLedger.Entry ℤ :=
  ⟨row.amount.micros, row.balanceBefore.micros, row.balanceAfter.micros⟩

/-- Every wallet's ledger runs from zero to its balance. -/
structure Reconciled (db : Db) : Prop where
  books : ∀ walletId wallet, db.wallets[walletId]? = some wallet →
    RunningLedger.Runs 0 ((db.ledgerOf walletId).map AiWalletTransaction.entry)
      wallet.balance.micros
  owned : ∀ row ∈ db.transactions, row.walletId < db.wallets.length

theorem reconciled_empty : Reconciled Db.empty :=
  ⟨fun _ _ h => by simp [Db.empty] at h, fun _ h => by simp [Db.empty] at h⟩

/-- A change that touches neither balances nor the ledger. -/
def SameBalances (db db' : Db) : Prop :=
  db'.transactions = db.transactions ∧
    db'.wallets.map AiWallet.balance = db.wallets.map AiWallet.balance

theorem SameBalances.refl (db : Db) : SameBalances db db := ⟨rfl, rfl⟩

theorem sameBalances_updateWallet {db : Db} {walletId : Id} {f : AiWallet → AiWallet}
    (h : ∀ row, (f row).balance = row.balance) : SameBalances db (db.updateWallet walletId f) :=
  ⟨rfl, map_modify_eq db.wallets walletId h⟩

theorem sameBalances_settle (db : Db) (now : Time) (reservationId walletId : Id)
    (reserved : Numeric) (status : AiReservationStatus) :
    SameBalances db (db.settle now reservationId walletId reserved status) :=
  ⟨rfl, map_modify_eq db.wallets walletId fun _ => rfl⟩

theorem Reconciled.of_sameBalances {db db' : Db} (h : Reconciled db) (hsame : SameBalances db db') :
    Reconciled db' := by
  obtain ⟨htransactions, hbalances⟩ := hsame
  have hlength : db'.wallets.length = db.wallets.length := by
    simpa using congrArg List.length hbalances
  refine ⟨fun walletId wallet hwallet => ?_, ?_⟩
  · have hget := congrArg (fun t => t[walletId]?) hbalances
    simp only [List.getElem?_map, hwallet, Option.map_some] at hget
    cases hold : db.wallets[walletId]? with
    | none => simp [hold] at hget
    | some old =>
      have hbalance : wallet.balance = old.balance := by simpa [hold] using hget
      rw [Db.ledgerOf, htransactions, hbalance]
      exact h.books walletId old hold
  · rw [htransactions, hlength]
    exact h.owned

theorem Reconciled.touched {db db' : Db} {tenantId : Id} (h : Reconciled db)
    (htouched : Touched db tenantId db') : Reconciled db' := by
  rcases htouched with rfl | ⟨-, rfl⟩
  · exact h
  refine ⟨fun walletId wallet hwallet => ?_, fun row hrow => ?_⟩
  · rcases (getElem?_append_row_iff db.wallets _).1 hwallet with hold | ⟨rfl, rfl⟩
    · exact h.books walletId wallet hold
    · -- no ledger row can name a wallet that did not exist yet
      have hempty : db.ledgerOf db.wallets.length = [] := by
        apply List.filter_eq_nil_iff.2
        intro row hrow
        simpa using (h.owned row hrow).ne
      change RunningLedger.Runs 0 ((db.ledgerOf db.wallets.length).map _) _
      rw [hempty]
      rfl
  · have howned := h.owned row hrow
    change row.walletId < (db.wallets ++ [AiWallet.create tenantId]).length
    rw [List.length_append]
    exact Nat.lt_add_right _ howned

/-- Posting an entry keeps the books reconciled exactly when its amount rounds alike with
the balance it is added to. -/
theorem Reconciled.applied_iff {db db' : Db} {walletId id : Id} {wallet : AiWallet}
    {input : PostTransactionInput} (h : Reconciled db) (hwallet : db.wallets[walletId]? = some wallet)
    (happlied : Applied db walletId wallet input id db') :
    Reconciled db' ↔ RoundsAlike wallet.balance input.amount := by
  obtain ⟨amount, after, aggregates, status, hamount, hafter, -, -, rfl⟩ := happlied.writes
  rw [← store_plus_micros_iff hafter hamount]
  have hbooks := h.books walletId wallet hwallet
  have hself := getElem?_modify_self db.wallets
    (fun row => { aggregates row with balance := after, status := status row.status }) hwallet
  constructor
  · intro h'
    have hruns := h'.books walletId _ hself
    simp only [Db.ledgerOf, List.filter_append, List.map_append, List.filter_cons, beq_self_eq_true,
      if_true, List.filter_nil, List.map_cons, List.map_nil] at hruns
    obtain ⟨-, -, -, hbalanced, -⟩ := RunningLedger.runs_append_entry.1 hruns
    exact hbalanced
  · intro hround
    refine ⟨fun otherId other hother => ?_, fun row hrow => ?_⟩
    · by_cases hid : walletId = otherId
      · subst hid
        obtain rfl := Option.some.inj (hself.symm.trans hother)
        simp only [Db.ledgerOf, List.filter_append, List.map_append, List.filter_cons,
          beq_self_eq_true, if_true, List.filter_nil, List.map_cons, List.map_nil]
        exact RunningLedger.runs_append_entry.2 ⟨wallet.balance.micros, hbooks, rfl, hround, rfl⟩
      · rw [getElem?_modify_of_ne db.wallets _ hid] at hother
        have hne : (walletId == otherId) = false := by simpa using hid
        simp only [Db.ledgerOf, List.filter_append, List.filter_cons, hne, List.filter_nil,
          Bool.false_eq_true, if_false, List.append_nil]
        exact h.books otherId other hother
    · simp only [List.length_modify]
      rcases List.mem_append.1 hrow with hrow | hrow
      · exact h.owned row hrow
      · obtain rfl := List.mem_singleton.1 hrow
        exact (List.getElem?_eq_some_iff.1 hwallet).1

/-- The guards of `applyTransaction`: the entry gets posted. -/
def Admitted (wallet : AiWallet) (input : PostTransactionInput) : Prop :=
  input.amount ≠ 0 ∧ wallet.status ≠ .closed ∧
    (0 ≤ Decimal.plus wallet.balance.toDecimal input.amount ∨ input.allowNegativeBalance = true)

theorem Applied.admitted {db db' : Db} {walletId id : Id} {wallet : AiWallet}
    {input : PostTransactionInput} (h : Applied db walletId wallet input id db') :
    Admitted wallet input :=
  ⟨h.amount_ne_zero, h.not_closed, h.covered⟩

theorem Reconciled.postTransaction {db db' : Db} {input : PostTransactionInput} {id : Id}
    (h : Reconciled db) (hpost : postTransaction db input = .ok (id, db'))
    (hround : ∀ wallet after, wallet = (lockWalletByTenant db input.tenantId).2.2 →
      Admitted wallet input →
      Numeric.store (Decimal.plus wallet.balance.toDecimal input.amount) = some after →
      RoundsAlike wallet.balance input.amount) :
    Reconciled db' := by
  obtain ⟨locked, walletId, wallet, hlock, happlied⟩ := postTransaction_cases hpost
  obtain ⟨htouched, hwallet, -⟩ := lockWalletByTenant_spec hlock
  obtain ⟨amount, after, -, -, -, hafter, -⟩ := happlied.writes
  rw [hlock] at hround
  exact ((h.touched htouched).applied_iff hwallet happlied).2
    (hround wallet after rfl happlied.admitted hafter)

theorem Reconciled.reserveCredits {db db' : Db} {now : Time} {input : ReserveInput} {id : Id}
    (h : Reconciled db) (hreserve : reserveCredits db now input = .ok (id, db')) :
    Reconciled db' := by
  obtain ⟨locked, walletId, wallet, amount, reserved, hlock, -, -, -, -, -, -, rfl⟩ :=
    reserveCredits_cases hreserve
  exact (h.touched (lockWalletByTenant_spec hlock).1).of_sameBalances
    ⟨rfl, map_modify_eq locked.wallets walletId fun _ => rfl⟩

theorem Reconciled.finalizeReservation {db db' : Db} {now : Time} {reservationId : Id}
    {charge : Decimal} {context : FinalizeContext} {transaction : Option Id} (h : Reconciled db)
    (hfinal : finalizeReservation db now reservationId charge context = .ok (transaction, db'))
    (hround : ∀ reservation wallet, db.reservations[reservationId]? = some reservation →
      db.wallets[reservation.walletId]? = some wallet → reservation.status = .active →
      Admitted wallet (usageInput reservationId reservation charge context) →
      RoundsAlike wallet.balance (-charge)) :
    Reconciled db' := by
  obtain ⟨reservation, wallet, reserved, -, hreservation, hactive, hwallet, -, hcases⟩ :=
    finalizeReservation_cases hfinal
  have hsettled : Reconciled
      (db.settle now reservationId reservation.walletId reserved .finalized) :=
    h.of_sameBalances (sameBalances_settle _ _ _ _ _ _)
  rcases hcases with ⟨-, -, rfl⟩ | ⟨-, id, -, happlied⟩
  · exact hsettled
  · have hfresh := getElem?_modify_self db.wallets
      (fun row => { row with reservedBalance := reserved }) hwallet
    exact (hsettled.applied_iff hfresh happlied).2
      (hround reservation wallet hreservation hwallet hactive happlied.admitted)

theorem sameBalances_releaseReservation {db db' : Db} {now : Time} {reservationId : Id}
    {status : AiReservationStatus} (h : releaseReservation db now reservationId status = .ok db') :
    SameBalances db db' := by
  obtain ⟨reservation, -, ⟨-, rfl⟩ | ⟨-, wallet, reserved, -, -, rfl⟩⟩ :=
    releaseReservation_cases h
  · exact .refl _
  · exact sameBalances_settle _ _ _ _ _ _

def WalletCall.PostsRoundAlike (db : Db) : WalletCall → Prop
  | postTransaction input =>
    let wallet := (lockWalletByTenant db input.tenantId).2.2
    Admitted wallet input → RoundsAlike wallet.balance input.amount
  | finalizeReservation _ reservationId charge context =>
    ∀ reservation wallet, db.reservations[reservationId]? = some reservation →
      db.wallets[reservation.walletId]? = some wallet → reservation.status = .active →
      Admitted wallet (usageInput reservationId reservation charge context) →
      RoundsAlike wallet.balance (-charge)
  | _ => True

theorem Reconciled.next {db : Db} {call : WalletCall} (h : Reconciled db)
    (hround : call.PostsRoundAlike db) : Reconciled (WalletCall.next db call) := by
  apply WalletCall.next_preserves h
  case touch => exact h.touched
  case settings =>
    intro db walletId f hf hdb
    exact hdb.of_sameBalances (sameBalances_updateWallet fun row => (hf row).2.1)
  case create =>
    intro db row _ hdb
    exact hdb.of_sameBalances ⟨rfl, rfl⟩
  case update =>
    intro db id f _ hdb
    exact hdb.of_sameBalances ⟨rfl, rfl⟩
  case post =>
    intro input id db' hinput _ hpost
    apply h.postTransaction hpost
    rintro wallet after rfl hadmitted hafter
    rcases hinput with rfl | ⟨-, amount, hamount⟩
    · exact hround hadmitted
    · -- a purchase posts an amount that comes from a column itself
      rw [hamount] at hafter ⊢
      exact roundsAlike_toDecimal amount hafter
  case reserve =>
    intro now input id db' _ hreserve
    exact h.reserveCredits hreserve
  case finalize =>
    rintro now id charge context transaction db' rfl hfinal
    exact h.finalizeReservation hfinal hround
  case release =>
    intro db db' now id status _ hdb hrelease
    exact hdb.of_sameBalances (sameBalances_releaseReservation hrelease)

/-- The books of every wallet: the balance is the sum of the ledger amounts, the first row
starts at zero, each row starts where the previous one ended, and each row adds up. -/
structure BooksBalance (db : Db) : Prop where
  balance_eq_sum : ∀ walletId wallet, db.wallets[walletId]? = some wallet →
    wallet.balance.micros = ((db.ledgerOf walletId).map fun row => row.amount.micros).sum
  first_before : ∀ walletId row, walletId < db.wallets.length →
    (db.ledgerOf walletId)[0]? = some row → row.balanceBefore.micros = 0
  before_eq_after : ∀ walletId i row row', walletId < db.wallets.length →
    (db.ledgerOf walletId)[i]? = some row → (db.ledgerOf walletId)[i + 1]? = some row' →
    row'.balanceBefore = row.balanceAfter
  after_eq_add : ∀ walletId row, walletId < db.wallets.length → row ∈ db.ledgerOf walletId →
    row.balanceAfter.micros = row.balanceBefore.micros + row.amount.micros

theorem Numeric.ext_micros {m n : Numeric} (h : m.micros = n.micros) : m = n := by
  cases m
  cases n
  simp_all

theorem Reconciled.booksBalance {db : Db} (h : Reconciled db) : BooksBalance db := by
  have hruns : ∀ walletId, walletId < db.wallets.length → ∃ m,
      RunningLedger.Runs 0 ((db.ledgerOf walletId).map AiWalletTransaction.entry) m := by
    intro walletId hlt
    exact ⟨_, h.books walletId _ (List.getElem?_eq_getElem hlt)⟩
  refine ⟨fun walletId wallet hwallet => ?_, fun walletId row hlt hrow => ?_,
    fun walletId i row row' hlt hrow hrow' => ?_, fun walletId row hlt hrow => ?_⟩
  · have hsum := (h.books walletId wallet hwallet).eq_add_sum
    simpa [List.map_map, Function.comp_def, AiWalletTransaction.entry] using hsum
  · obtain ⟨m, hm⟩ := hruns walletId hlt
    cases hledger : db.ledgerOf walletId with
    | nil => simp [hledger] at hrow
    | cons x rows =>
      obtain rfl : x = row := by simpa [hledger] using hrow
      rw [hledger] at hm
      exact hm.before_head
  · obtain ⟨m, hm⟩ := hruns walletId hlt
    apply Numeric.ext_micros
    have hentry : ((db.ledgerOf walletId).map AiWalletTransaction.entry)[i]? = some row.entry := by
      simp [hrow]
    have hentry' : ((db.ledgerOf walletId).map AiWalletTransaction.entry)[i + 1]? =
        some row'.entry := by
      simp [hrow']
    exact hm.before_succ hentry hentry'
  · obtain ⟨m, hm⟩ := hruns walletId hlt
    exact hm.balanced row.entry (List.mem_map_of_mem hrow)

/-- In every run from an empty database whose posted amounts round alike with the balances
they are added to, the books of every wallet balance in every state reached. -/
theorem booksBalance_of_postsRoundAlike (calls : List WalletCall)
    (h : Always WalletCall.next WalletCall.PostsRoundAlike Db.empty calls) (k : ℕ) :
    BooksBalance (stateAt WalletCall.next Db.empty calls k) :=
  (h.invariant_at (fun _ _ => Reconciled.next) reconciled_empty k).booksBalance

def creditAndCharge : List WalletCall :=
  [.postTransaction { tenantId := 7, type := .manualCredit, amount := 1 },
    .postTransaction { tenantId := 7, type := .adminAdjustment, amount := -1 / 4 }]

theorem booksBalance_of_creditAndCharge :
    BooksBalance (stateAt WalletCall.next Db.empty creditAndCharge 2) :=
  booksBalance_of_postsRoundAlike creditAndCharge
    ⟨fun _ => by decide +kernel, fun _ => by decide +kernel, trivial⟩ 2

/-- Half a unit per million tokens. -/
def halfPricing : AiModelPricing where
  id := 0
  scope := .global
  currency := "USD"
  provider := ⟨.zero, .zero, .zero, .zero, .zero, .zero⟩
  customer := ⟨⟨500000, by decide⟩, .zero, .zero, .zero, .zero, .zero⟩

/-- A credit of one unit and a settled request of a single prompt token. -/
def halfMicroCharge : List WalletCall :=
  [.postTransaction { tenantId := 7, type := .manualCredit, amount := 1 },
    .reserveCredits 0 { tenantId := 7, amount := estimateCharge halfPricing 100 0 },
    .finalizeReservation 1000 0
      (computeCost halfPricing { promptTokens := some 1 }).customerCharge {}]

/-- The charge is stored as a whole micro while the balance rounds back to where it was. -/
theorem not_booksBalance_halfMicroCharge :
    ¬ BooksBalance (run WalletCall.next Db.empty halfMicroCharge) := by
  have hbalance : ((run WalletCall.next Db.empty halfMicroCharge).wallets[0]?.map
      fun wallet => wallet.balance.micros) = some 1000000 := by decide +kernel
  have hsum : (((run WalletCall.next Db.empty halfMicroCharge).ledgerOf 0).map
      fun row => row.amount.micros).sum = 999999 := by decide +kernel
  intro h
  cases hwallet : (run WalletCall.next Db.empty halfMicroCharge).wallets[0]? with
  | none => simp [hwallet] at hbalance
  | some wallet =>
    have heq := h.balance_eq_sum 0 wallet hwallet
    rw [hsum] at heq
    simp [hwallet, heq] at hbalance

end Forecast
