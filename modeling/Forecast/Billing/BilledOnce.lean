import Forecast.Billing.ProviderCalls

/-!
# What a step of a call does to the ledger

A step of a call either leaves the ledger alone or posts the one charge of its call. The tenant
on that row is the ticket's because reservations keep their tenants.
-/

namespace Forecast

open RowTable ThreadPool Runs

def NoUsageCharge (row : AiWalletTransaction) : Prop := row.type ≠ .usageCharge

/-! ### Reservations keep their tenants -/

def KeepsTenants (db db' : Db) : Prop :=
  ∀ (id : Id) (row : AiCreditReservation), db.reservations[id]? = some row →
    ∃ row', db'.reservations[id]? = some row' ∧ row'.tenantId = row.tenantId

section Tenants

variable {db db' : Db}

theorem keepsTenants_of_same (h : db'.reservations = db.reservations) : KeepsTenants db db' :=
  fun _ row hrow => ⟨row, h ▸ hrow, rfl⟩

theorem KeepsTenants.of_same {db'' : Db} (h : KeepsTenants db db')
    (hsame : db''.reservations = db'.reservations) : KeepsTenants db db'' := by
  intro id row hrow
  rw [hsame]
  exact h id row hrow

theorem KeepsTenants.settle (h : KeepsTenants db db') (now : Time) (reservationId walletId : Id)
    (reserved : Numeric) (status : AiReservationStatus) :
    KeepsTenants db (db'.settle now reservationId walletId reserved status) := by
  intro id row hrow
  obtain ⟨row', hrow', htenant⟩ := h id row hrow
  refine ⟨_, getElem?_modify_some db'.reservations _ hrow', ?_⟩
  split_ifs
  · exact htenant
  · exact htenant

theorem keepsTenants_touched {tenantId : Id} (h : Touched db tenantId db') :
    KeepsTenants db db' := by
  rcases h with rfl | ⟨-, rfl⟩
  · exact keepsTenants_of_same rfl
  · exact keepsTenants_of_same rfl

theorem keepsTenants_reserve {now : Time} {input : ReserveInput} {id : Id}
    (h : reserveCredits db now input = .ok (id, db')) :
    KeepsTenants db db' ∧ ∃ row, db'.reservations[id]? = some row ∧
      row.tenantId = input.tenantId := by
  obtain ⟨locked, walletId, wallet, amount, reserved, hlock, -, -, -, -, -, rfl, rfl⟩ :=
    reserveCredits_cases h
  have htouched := keepsTenants_touched (lockWalletByTenant_spec hlock).1
  refine ⟨fun id row hrow => ?_, _, List.getElem?_concat_length, rfl⟩
  obtain ⟨row', hrow', htenant⟩ := htouched id row hrow
  exact ⟨row', getElem?_append_row _ _ hrow', htenant⟩

theorem keepsTenants_finalize {now : Time} {reservationId : Id} {charge : Decimal}
    {context : FinalizeContext} {transaction : Option Id}
    (h : finalizeReservation db now reservationId charge context = .ok (transaction, db')) :
    KeepsTenants db db' := by
  obtain ⟨reservation, wallet, reserved, -, -, -, -, -, hcases⟩ := finalizeReservation_cases h
  have hsettled := (keepsTenants_of_same rfl : KeepsTenants db db).settle now reservationId
    reservation.walletId reserved .finalized
  rcases hcases with ⟨-, -, rfl⟩ | ⟨-, posted, -, happlied⟩
  · exact hsettled
  · obtain ⟨amount, after, aggregates, status', -, -, -, -, rfl⟩ := happlied.writes
    exact hsettled.of_same rfl

theorem KeepsTenants.release {db'' : Db} (h : KeepsTenants db db') {now : Time} {id : Id}
    {status : AiReservationStatus} (hrelease : releaseReservation db' now id status = .ok db'') :
    KeepsTenants db db'' := by
  obtain ⟨reservation, -, ⟨-, rfl⟩ | ⟨-, wallet, reserved, -, -, rfl⟩⟩ :=
    releaseReservation_cases hrelease
  · exact h
  · exact h.settle now id _ reserved status

theorem keepsTenants_next (db : Db) (call : WalletCall) :
    KeepsTenants db (WalletCall.next db call) := by
  apply WalletCall.next_preserves (I := KeepsTenants db) (keepsTenants_of_same rfl)
  case touch => exact fun h => keepsTenants_touched h
  case settings => exact fun _ h => h.of_same rfl
  case create => exact fun _ h => h.of_same rfl
  case update => exact fun _ h => h.of_same rfl
  case post =>
    intro input id db' _ _ hpost
    obtain ⟨-, -, -, -, hreservations, -⟩ := postTransaction_appends hpost
    exact keepsTenants_of_same hreservations
  case reserve => exact fun _ h => (keepsTenants_reserve h).1
  case finalize => exact fun _ h => keepsTenants_finalize h
  case release => exact fun _ h hrelease => h.release hrelease

end Tenants

/-! ### What a settle does -/

def TicketOf (db : Db) (ticket : ChargeTicket) : Prop :=
  ∀ reservationId, ticket.reservationId = some reservationId →
    ∃ row, db.reservations[reservationId]? = some row ∧ row.tenantId = ticket.tenantId

theorem TicketOf.keeps {db db' : Db} (h : KeepsTenants db db') {ticket : ChargeTicket}
    (ht : TicketOf db ticket) : TicketOf db' ticket := by
  intro reservationId hreservation
  obtain ⟨row, hrow, htenant⟩ := ht reservationId hreservation
  obtain ⟨row', hrow', htenant'⟩ := h reservationId row hrow
  exact ⟨row', hrow', htenant'.trans htenant⟩

/-- The row charges the call what was computed for it. -/
structure Charges (call : TicketedCall) (row : AiWalletTransaction) : Prop where
  success : call.settleOutcome.success = true
  billed : call.ticket.billed = true
  nonzero : call.computedCharge ≠ 0
  type : row.type = .usageCharge
  tenantId : row.tenantId = call.ticket.tenantId
  amount : Numeric.store (-call.computedCharge) = some row.amount

/-- What a settle that returns has done to the ledger. -/
inductive Settled (call : TicketedCall) (db db' : Db) : Option Id → Prop where
  | unchanged (ledger : db'.transactions = db.transactions)
      (free : call.settleOutcome.success = true → call.ticket.billed = true →
        call.computedCharge = 0) : Settled call db db' none
  | charged (row : AiWalletTransaction) (ledger : db'.transactions = db.transactions ++ [row])
      (charges : Charges call row) : Settled call db db' (some db.transactions.length)

theorem settled_of_settleReservation {call : TicketedCall} {db db' : Db} {now : Time}
    {transactionId : Option Id} {status : AiUsageBillingStatus} (hticket : TicketOf db call.ticket)
    (h : call.ticket.settleReservation db now call.settleOutcome =
      .ok (transactionId, status, db')) :
    Settled call db db' transactionId ∧ KeepsTenants db db' := by
  unfold ChargeTicket.settleReservation at h
  cases hreservation : call.ticket.reservationId with
  | none =>
    simp only [hreservation, pure_eq_ok, Prod.mk.injEq] at h
    obtain ⟨rfl, -, rfl⟩ := h
    refine ⟨.unchanged rfl fun _ hbilled => ?_, keepsTenants_of_same rfl⟩
    rw [call.ticket.billed_eq, hreservation] at hbilled
    cases hbilled
  | some reservationId =>
    simp only [hreservation] at h
    by_cases hsuccess : call.settleOutcome.success = true
    · simp only [hsuccess, if_true, bind_eq_ok, pure_eq_ok, Prod.mk.injEq] at h
      obtain ⟨⟨finalId, finalDb⟩, hfinal, rfl, -, rfl⟩ := h
      refine ⟨?_, keepsTenants_finalize hfinal⟩
      obtain ⟨reservation, wallet, reserved, -, hrow, -, -, -, hcases⟩ :=
        finalizeReservation_cases hfinal
      rcases hcases with ⟨hzero, rfl, rfl⟩ | ⟨hnonzero, posted, rfl, happlied⟩
      · exact .unchanged rfl fun _ _ => hzero
      · obtain ⟨amount, after, aggregates, status', hamount, -, -, rfl, rfl⟩ := happlied.writes
        obtain ⟨row, hticketRow, htenant⟩ := hticket reservationId hreservation
        rw [hrow] at hticketRow
        obtain rfl := Option.some.inj hticketRow
        refine .charged _ rfl ⟨hsuccess, ?_, hnonzero, rfl, htenant, hamount⟩
        rw [call.ticket.billed_eq, hreservation]
        rfl
    · rw [if_neg hsuccess] at h
      simp only [bind_eq_ok, pure_eq_ok, Prod.mk.injEq] at h
      obtain ⟨released, hrelease, rfl, -, rfl⟩ := h
      have hkeeps : KeepsTenants db released :=
        (keepsTenants_of_same rfl : KeepsTenants db db).release hrelease
      refine ⟨.unchanged ?_ fun hyes _ => absurd hyes hsuccess, hkeeps⟩
      obtain ⟨reservation, -, ⟨-, rfl⟩ | ⟨-, wallet, reserved, -, -, rfl⟩⟩ :=
        releaseReservation_cases hrelease
      · rfl
      · rfl

/-! ### What a step does -/

/-- The ledger is left alone and the call keeps what it has, or the call is charged. -/
inductive LedgerMove (s s' : ProviderState) (t t' : ProviderThread) : Prop where
  | keeps (ledger : s'.db.transactions = s.db.transactions) (charge : t'.charge? = t.charge?)
  | charges (call : TicketedCall) (row : AiWalletTransaction)
      (ledger : s'.db.transactions = s.db.transactions ++ [row]) (charges : Charges call row)
      (free : t.charge? = none) (charge : t'.charge? = some (call, s.db.transactions.length))

def ProviderThread.Asserts (db : Db) (thread : ProviderThread) : Prop :=
  ∀ ticket, thread.ticket? = some ticket → TicketOf db ticket

structure ProviderStep (s s' : ProviderState) (t t' : ProviderThread) : Prop where
  moves : LedgerMove s s' t t'
  tenants : KeepsTenants s.db s'.db
  asserts : t'.Asserts s'.db

section Steps

variable {config : ChargeConfig} {s : ProviderState}

theorem providerStep_same {s' : ProviderState} {t t' : ProviderThread} (hdb : s'.db = s.db)
    (hcharge : t'.charge? = t.charge?) (hasserts : t'.Asserts s.db) : ProviderStep s s' t t' := by
  refine ⟨.keeps (by rw [hdb]) hcharge, ?_, ?_⟩
  · rw [hdb]
    exact keepsTenants_of_same rfl
  · rw [hdb]
    exact hasserts

theorem asserts_of_ticket?_eq_none {db : Db} {thread : ProviderThread}
    (h : thread.ticket? = none) : thread.Asserts db := by
  intro ticket hticket
  rw [h] at hticket
  cases hticket

theorem asserts_some {db : Db} {thread : ProviderThread} {ticket : ChargeTicket}
    (h : thread.ticket? = some ticket) (hticket : TicketOf db ticket) : thread.Asserts db := by
  intro other hother
  rw [h] at hother
  obtain rfl := Option.some.inj hother
  exact hticket

/-- A ticket without a reservation names none. -/
theorem ticketOf_of_admitted {logs : List AiUsageLog} {now : Time}
    {resolved : Option AiModelPricing} {input : PrepareInput} {ticket : ChargeTicket} {db : Db}
    (h : checkCall config logs now resolved input = .ok (.admitted ticket)) :
    TicketOf db ticket := by
  unfold checkCall at h
  dsimp only at h
  split_ifs at h with henforcement
  · obtain rfl := CallStage.admitted.inj (Except.ok.inj h)
    intro reservationId hreservation
    cases hreservation
  · simp only [bind_eq_ok, pure_eq_ok] at h
    obtain ⟨pricing, -, policy, -, hstage⟩ := h
    cases hstage

theorem providerStep_check (request : ProviderRequest) (answer : ProviderAnswer) :
    ProviderStep s s (.check request) (checkRequest config s request answer) := by
  unfold checkRequest
  by_cases hcentral : request.central = true
  · rw [if_pos hcentral]
    split
    · rename_i ticket hchecked
      exact providerStep_same rfl rfl (asserts_some rfl (ticketOf_of_admitted hchecked))
    · exact providerStep_same rfl rfl (asserts_of_ticket?_eq_none rfl)
    · exact providerStep_same rfl rfl (asserts_of_ticket?_eq_none rfl)
    · exact providerStep_same rfl rfl (asserts_of_ticket?_eq_none rfl)
  · rw [if_neg hcentral]
    split_ifs
    · exact providerStep_same rfl rfl (asserts_of_ticket?_eq_none rfl)
    · exact providerStep_same rfl rfl (asserts_of_ticket?_eq_none rfl)

theorem providerStep_reserve {db : Db} {now : Time} {request : ProviderRequest}
    {pricing : AiModelPricing} {estimatedCharge : Decimal} {ticket : ChargeTicket}
    (h : reserveCall s.db now request.input pricing estimatedCharge = .ok (ticket, db)) :
    ProviderStep s { s with db := db } (.reserve request pricing estimatedCharge)
      (.send request (some ticket) 1) := by
  simp only [reserveCall, bind_eq_ok, pure_eq_ok, Prod.mk.injEq] at h
  obtain ⟨⟨reservationId, reserved⟩, hreserve, rfl, rfl⟩ := h
  obtain ⟨hkeeps, row, hrow, htenant⟩ := keepsTenants_reserve hreserve
  have hledger : reserved.transactions = s.db.transactions := by
    obtain ⟨locked, walletId, wallet, amount, held, hlock, -, -, -, -, -, -, rfl⟩ :=
      reserveCredits_cases hreserve
    rcases (lockWalletByTenant_spec hlock).1 with rfl | ⟨-, rfl⟩
    · rfl
    · rfl
  refine ⟨.keeps hledger rfl, hkeeps, asserts_some rfl ?_⟩
  intro id hid
  obtain rfl := Option.some.inj hid
  exact ⟨row, hrow, htenant⟩

theorem providerStep_send {request : ProviderRequest} {ticket : Option ChargeTicket}
    {attempt : ℕ} (reply : ProviderReply)
    (h : (ProviderThread.send request ticket attempt).Asserts s.db) :
    ProviderStep s s (.send request ticket attempt) (sendRequest request ticket attempt reply) := by
  unfold sendRequest
  cases handleReply attempt reply with
  | none => exact providerStep_same rfl rfl h
  | some outcome =>
    cases ticket with
    | none => exact providerStep_same rfl rfl (asserts_of_ticket?_eq_none rfl)
    | some ticket => exact providerStep_same rfl rfl (asserts_some rfl (h ticket rfl))

theorem providerStep_settle {db : Db} {now : Time} {call : TicketedCall}
    {transactionId : Option Id} {status : AiUsageBillingStatus}
    (hasserts : (ProviderThread.settle call).Asserts s.db)
    (h : call.ticket.settleReservation s.db now call.settleOutcome =
      .ok (transactionId, status, db)) :
    ProviderStep s { s with db := db } (.settle call) (.log call transactionId status) := by
  obtain ⟨hsettled, hkeeps⟩ := settled_of_settleReservation (hasserts call.ticket rfl) h
  refine ⟨?_, hkeeps, asserts_some rfl ((hasserts call.ticket rfl).keeps hkeeps)⟩
  cases hsettled with
  | unchanged ledger free => exact .keeps ledger rfl
  | charged row ledger charges => exact .charges call row ledger charges rfl rfl

theorem providerStep_advance {thread : ProviderThread} (answer : ProviderAnswer)
    (h : thread.Asserts s.db) :
    ProviderStep s (thread.advance config s answer).1 thread
      (thread.advance config s answer).2 := by
  unfold ProviderThread.advance
  by_cases hfails : answer.databaseFails = true
  · rw [if_pos hfails]
    cases thread <;> exact providerStep_same rfl rfl h
  · rw [if_neg hfails]
    cases thread with
    | check request => exact providerStep_check request answer
    | reserve request pricing estimatedCharge =>
      cases hreserve : reserveCall s.db answer.now request.input pricing estimatedCharge with
      | error e =>
        simp only [ProviderThread.perform, hreserve]
        exact providerStep_same rfl rfl (asserts_of_ticket?_eq_none rfl)
      | ok reserved =>
        simp only [ProviderThread.perform, hreserve]
        exact providerStep_reserve hreserve
    | send request ticket attempt => exact providerStep_send answer.reply h
    | settle call =>
      cases hsettle : call.ticket.settleReservation s.db answer.now call.settleOutcome with
      | error e =>
        simp only [ProviderThread.perform, hsettle]
        exact providerStep_same rfl rfl h
      | ok settled =>
        simp only [ProviderThread.perform, hsettle]
        exact providerStep_settle h hsettle
    | log call transactionId status =>
      cases hrow : call.ticket.usageRow answer.now call.settleOutcome transactionId status with
      | error e =>
        simp only [ProviderThread.perform, hrow]
        exact providerStep_same rfl rfl h
      | ok row =>
        simp only [ProviderThread.perform, hrow]
        exact providerStep_same rfl rfl h
    | refused e => exact providerStep_same rfl rfl h
    | withoutTicket request outcome => exact providerStep_same rfl rfl h
    | ended call settled => exact providerStep_same rfl rfl h

end Steps

end Forecast
