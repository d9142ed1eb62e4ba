import Forecast.Billing.BilledOnce

/-!
# The charges on the ledger are those of the calls

`ChargesMatch` says that the usage charges of a ledger are one for each call that has a charge.
Whatever the steps of the calls, the sweep and the other traffic of the wallets do between them,
it stays so. What a call without a charge has instead is said by `ProviderThread.Sound`: a charge
of zero, or a settle that threw.
-/

namespace Forecast

open RowTable ThreadPool Runs

/-! ### One row for each charged call -/

/-- `charges` gives the call numbered `i` its charge: what was charged and the ledger row. -/
structure ChargesMatch (ledger : List AiWalletTransaction)
    (charges : ℕ → Option (TicketedCall × Id)) : Prop where
  charged : ∀ i call (id : ℕ), charges i = some (call, id) → ∃ row, ledger[id]? = some row ∧
    Charges call row
  once : ∀ i j call other (id : ℕ), charges i = some (call, id) →
    charges j = some (other, id) → i = j
  only : ∀ (id : ℕ) row, ledger[id]? = some row → row.type = .usageCharge →
    ∃ i call, charges i = some (call, id)

namespace ChargesMatch

variable {ledger : List AiWalletTransaction} {charges : ℕ → Option (TicketedCall × Id)}

theorem empty : ChargesMatch [] fun _ => none := by
  refine ⟨fun i call id h => ?_, fun i j call other id h => ?_, fun id row h => ?_⟩
  · cases h
  · cases h
  · rw [List.getElem?_nil] at h
    cases h

theorem append (h : ChargesMatch ledger charges) {rows : List AiWalletTransaction}
    (hrows : ∀ row ∈ rows, NoUsageCharge row) : ChargesMatch (ledger ++ rows) charges := by
  refine ⟨fun i call id hcharge => ?_, h.once, fun id row hrow htype => ?_⟩
  · obtain ⟨row, hrow, hcharges⟩ := h.charged i call id hcharge
    refine ⟨row, ?_, hcharges⟩
    rw [List.getElem?_append_left (List.getElem?_eq_some_iff.1 hrow).1]
    exact hrow
  · by_cases hid : id < ledger.length
    · rw [List.getElem?_append_left hid] at hrow
      exact h.only id row hrow htype
    · rw [List.getElem?_append_right (Nat.le_of_not_lt hid)] at hrow
      exact absurd htype (hrows row (List.mem_of_getElem? hrow))

theorem charge (h : ChargesMatch ledger charges) {i : ℕ} (hfree : charges i = none)
    {call : TicketedCall} {row : AiWalletTransaction} (hrow : Charges call row) :
    ChargesMatch (ledger ++ [row]) (Function.update charges i (some (call, ledger.length))) := by
  have hold : ∀ j other (id : ℕ), charges j = some (other, id) →
      Function.update charges i (some (call, ledger.length)) j = some (other, id) := by
    intro j other id hcharge
    have hne : j ≠ i := by
      rintro rfl
      rw [hfree] at hcharge
      cases hcharge
    rwa [Function.update_of_ne hne]
  have hcases : ∀ j other (id : ℕ),
      Function.update charges i (some (call, ledger.length)) j = some (other, id) →
      (j = i ∧ other = call ∧ id = ledger.length) ∨
        (id < ledger.length ∧ charges j = some (other, id)) := by
    intro j other id hcharge
    by_cases hji : j = i
    · subst hji
      rw [Function.update_self] at hcharge
      obtain ⟨rfl, rfl⟩ := Prod.mk.inj (Option.some.inj hcharge)
      exact .inl ⟨rfl, rfl, rfl⟩
    · rw [Function.update_of_ne hji] at hcharge
      obtain ⟨old, hget, -⟩ := h.charged j other id hcharge
      exact .inr ⟨(List.getElem?_eq_some_iff.1 hget).1, hcharge⟩
  refine ⟨fun j other id hcharge => ?_, fun j k other another id hj hk => ?_,
    fun id old hold' htype => ?_⟩
  · rcases hcases j other id hcharge with ⟨-, rfl, rfl⟩ | ⟨-, hcharge⟩
    · exact ⟨row, List.getElem?_concat_length, hrow⟩
    · obtain ⟨old, hget, hcharges⟩ := h.charged j other id hcharge
      exact ⟨old, getElem?_append_row _ _ hget, hcharges⟩
  · rcases hcases j other id hj with ⟨rfl, -, hid⟩ | ⟨hid, hj⟩
    · rcases hcases k another id hk with ⟨rfl, -, -⟩ | ⟨hid', -⟩
      · rfl
      · exact absurd hid (Nat.ne_of_lt hid')
    · rcases hcases k another id hk with ⟨-, -, hid'⟩ | ⟨-, hk⟩
      · exact absurd hid' (Nat.ne_of_lt hid)
      · exact h.once j k other another id hj hk
  · by_cases hid : id < ledger.length
    · rw [List.getElem?_append_left hid] at hold'
      obtain ⟨j, other, hcharge⟩ := h.only id old hold' htype
      exact ⟨j, other, hold j other id hcharge⟩
    · obtain rfl : id = ledger.length := by
        have hlt := (List.getElem?_eq_some_iff.1 hold').1
        rw [List.length_append, List.length_singleton] at hlt
        exact Nat.le_antisymm (Nat.le_of_lt_succ hlt) (Nat.le_of_not_lt hid)
      exact ⟨i, call, Function.update_self ..⟩

end ChargesMatch

/-- The charge of the call numbered `i`. -/
def chargeOf (threads : List ProviderThread) (i : ℕ) : Option (TicketedCall × Id) :=
  threads[i]?.bind ProviderThread.charge?

section ChargeOf

variable {threads : List ProviderThread}

theorem chargeOf_append (request : ProviderRequest) :
    chargeOf (threads ++ [.check request]) = chargeOf threads := by
  funext i
  unfold chargeOf
  rcases Nat.lt_trichotomy i threads.length with hi | rfl | hi
  · rw [List.getElem?_append_left hi]
  · rw [List.getElem?_concat_length, List.getElem?_eq_none le_rfl]
    rfl
  · rw [List.getElem?_eq_none (by simp; omega), List.getElem?_eq_none hi.le]

theorem chargeOf_set {i : ℕ} {t : ProviderThread} (ht : threads[i]? = some t)
    (t' : ProviderThread) :
    chargeOf (threads.set i t') = Function.update (chargeOf threads) i t'.charge? := by
  funext j
  by_cases hji : j = i
  · subst hji
    rw [Function.update_self, chargeOf,
      List.getElem?_set_self (List.getElem?_eq_some_iff.1 ht).1, Option.bind_some]
  · rw [Function.update_of_ne hji, chargeOf, chargeOf, List.getElem?_set_ne (Ne.symm hji)]

theorem chargeOf_eq {i : ℕ} {t : ProviderThread} (ht : threads[i]? = some t) :
    chargeOf threads i = t.charge? := by
  rw [chargeOf, ht, Option.bind_some]

end ChargeOf

/-! ### What is known of a call -/

def TicketedCall.Free (call : TicketedCall) : Prop :=
  call.settleOutcome.success = true → call.ticket.billed = true → call.computedCharge = 0

/-- The ticket was taken for the request; it is billed when enforcement is on. -/
structure TicketFor (config : ChargeConfig) (request : ProviderRequest) (ticket : ChargeTicket) :
    Prop where
  central : request.central = true
  tenantId : ticket.tenantId = request.input.tenantId
  billed : ticket.billed = enforcementEnabled config.enforcement

namespace ProviderThread

def Sound (config : ChargeConfig) : ProviderThread → Prop
  | check _ => True
  | reserve request _ _ =>
    request.central = true ∧ enforcementEnabled config.enforcement = true
  | send request (some ticket) _ => TicketFor config request ticket
  | send _ none _ => enforcementEnabled config.enforcement = false
  | settle call => TicketFor config call.request call.ticket
  | log call transactionId _ =>
    TicketFor config call.request call.ticket ∧ (transactionId = none → call.Free)
  | refused _ => True
  | withoutTicket _ _ => enforcementEnabled config.enforcement = false
  | ended call settled =>
    TicketFor config call.request call.ticket ∧ (settled = .ok none → call.Free)

variable {config : ChargeConfig} {s : ProviderState}

theorem sound_checkRequest (request : ProviderRequest) (answer : ProviderAnswer) :
    (checkRequest config s request answer).Sound config := by
  unfold checkRequest
  by_cases hcentral : request.central = true
  · rw [if_pos hcentral]
    by_cases henforced : enforcementEnabled config.enforcement = true
    · cases hcheck : checkCall config s.usageLogs answer.now answer.resolved request.input with
      | error e => trivial
      | ok stage =>
        obtain ⟨pricing, estimatedCharge, policy, rfl, -⟩ := checkCall_eq_ok henforced hcheck
        exact ⟨hcentral, henforced⟩
    · rw [Bool.not_eq_true] at henforced
      simp only [checkCall, henforced, if_true]
      exact ⟨hcentral, rfl, henforced.symm⟩
  · rw [if_neg hcentral]
    by_cases henforced : enforcementEnabled config.enforcement = true
    · rw [if_pos henforced]
      trivial
    · rw [if_neg henforced]
      exact Bool.eq_false_iff.2 henforced

theorem sound_sendRequest {request : ProviderRequest} {ticket : Option ChargeTicket}
    {attempt : ℕ} (h : (send request ticket attempt).Sound config) (reply : ProviderReply) :
    (sendRequest request ticket attempt reply).Sound config := by
  unfold sendRequest
  cases handleReply attempt reply with
  | none =>
    cases ticket with
    | none => exact h
    | some ticket => exact h
  | some outcome =>
    cases ticket with
    | none => exact h
    | some ticket => exact h

theorem sound_afterFailure {thread : ProviderThread} (h : thread.Sound config) :
    thread.afterFailure.Sound config := by
  cases thread with
  | check request => trivial
  | reserve request pricing estimatedCharge => trivial
  | send request ticket attempt => exact h
  | settle call => exact ⟨h, fun hfalse => by cases hfalse⟩
  | log call transactionId status =>
    exact ⟨h.1, fun hsettled => h.2 (Except.ok.inj hsettled)⟩
  | refused error => trivial
  | withoutTicket request outcome => exact h
  | ended call settled => exact h

theorem sound_perform {thread : ProviderThread} (hasserts : thread.Asserts s.db)
    (h : thread.Sound config) (answer : ProviderAnswer) :
    (thread.perform config s answer).2.Sound config := by
  cases thread with
  | check request => exact sound_checkRequest request answer
  | reserve request pricing estimatedCharge =>
    cases hreserve : reserveCall s.db answer.now request.input pricing estimatedCharge with
    | error e =>
      simp only [perform, hreserve]
      trivial
    | ok reserved =>
      obtain ⟨ticket, db⟩ := reserved
      simp only [perform, hreserve]
      simp only [reserveCall, bind_eq_ok, pure_eq_ok, Prod.mk.injEq] at hreserve
      obtain ⟨held, -, rfl, -⟩ := hreserve
      exact ⟨h.1, rfl, h.2.symm⟩
  | send request ticket attempt => exact sound_sendRequest h answer.reply
  | settle call =>
    cases hsettle : call.ticket.settleReservation s.db answer.now call.settleOutcome with
    | error e =>
      simp only [perform, hsettle]
      exact ⟨h, fun hfalse => by cases hfalse⟩
    | ok settled =>
      simp only [perform, hsettle]
      refine ⟨h, fun hnone => ?_⟩
      have hsettled := (settled_of_settleReservation (hasserts call.ticket rfl) hsettle).1
      rw [hnone] at hsettled
      cases hsettled with
      | unchanged ledger free => exact free
  | log call transactionId status =>
    have hended : (ended call (.ok transactionId)).Sound config :=
      ⟨h.1, fun hsettled => h.2 (Except.ok.inj hsettled)⟩
    cases hrow : call.ticket.usageRow answer.now call.settleOutcome transactionId status with
    | error e =>
      simp only [perform, hrow]
      exact hended
    | ok row =>
      simp only [perform, hrow]
      exact hended
  | refused error => trivial
  | withoutTicket request outcome => exact h
  | ended call settled => exact h

theorem sound_advance {thread : ProviderThread} (hasserts : thread.Asserts s.db)
    (h : thread.Sound config) (answer : ProviderAnswer) :
    (thread.advance config s answer).2.Sound config := by
  unfold advance
  split_ifs
  · exact sound_afterFailure h
  · exact sound_perform hasserts h answer

end ProviderThread

/-! ### Runs -/

/-- What holds of the ledger and the calls at every moment. -/
structure Billed (config : ChargeConfig) (cfg : ProviderConfig) : Prop where
  reconciled : ChargesMatch cfg.shared.db.transactions (chargeOf cfg.threads)
  asserts : ∀ (i : ℕ) thread, cfg.threads[i]? = some thread → thread.Asserts cfg.shared.db
  sound : ∀ (i : ℕ) thread, cfg.threads[i]? = some thread → thread.Sound config

def providerInit : ProviderConfig := ⟨⟨Db.empty, []⟩, []⟩

namespace Billed

variable {config : ChargeConfig} {cfg : ProviderConfig}

theorem init : Billed config providerInit := by
  refine ⟨ChargesMatch.empty, fun i thread h => ?_, fun i thread h => ?_⟩
  · cases h
  · cases h

theorem spawn (h : Billed config cfg) (request : ProviderRequest) :
    Billed config { cfg with threads := cfg.threads ++ [.check request] } := by
  have hcases : ∀ (i : ℕ) thread, (cfg.threads ++ [.check request])[i]? = some thread →
      cfg.threads[i]? = some thread ∨ thread = .check request := by
    intro i thread hthread
    rcases List.mem_append.1 (List.mem_of_getElem? hthread) with hold | hnew
    · by_cases hi : i < cfg.threads.length
      · rw [List.getElem?_append_left hi] at hthread
        exact .inl hthread
      · rw [List.getElem?_append_right (Nat.le_of_not_lt hi)] at hthread
        exact .inr (List.mem_singleton.1 (List.mem_of_getElem? hthread))
    · exact .inr (List.mem_singleton.1 hnew)
  refine ⟨?_, fun i thread hthread => ?_, fun i thread hthread => ?_⟩
  · rw [chargeOf_append]
    exact h.reconciled
  · rcases hcases i thread hthread with hold | rfl
    · exact h.asserts i thread hold
    · exact asserts_of_ticket?_eq_none rfl
  · rcases hcases i thread hthread with hold | rfl
    · exact h.sound i thread hold
    · trivial

theorem step (h : Billed config cfg) {i : ℕ} {t : ProviderThread} (ht : cfg.threads[i]? = some t)
    (answer : ProviderAnswer) :
    Billed config
      { shared := (t.advance config cfg.shared answer).1
        threads := cfg.threads.set i (t.advance config cfg.shared answer).2 } := by
  have hstep : ProviderStep cfg.shared (t.advance config cfg.shared answer).1 t
      (t.advance config cfg.shared answer).2 := providerStep_advance answer (h.asserts i t ht)
  have hcases : ∀ (j : ℕ) thread,
      (cfg.threads.set i (t.advance config cfg.shared answer).2)[j]? = some thread →
      thread = (t.advance config cfg.shared answer).2 ∨ cfg.threads[j]? = some thread := by
    intro j thread hthread
    by_cases hij : i = j
    · subst hij
      rw [List.getElem?_set_self (List.getElem?_eq_some_iff.1 ht).1] at hthread
      exact .inl (Option.some.inj hthread).symm
    · rw [List.getElem?_set_ne hij] at hthread
      exact .inr hthread
  refine ⟨?_, fun j thread hthread => ?_, fun j thread hthread => ?_⟩
  · rw [chargeOf_set ht]
    cases hstep.moves with
    | keeps ledger charge =>
      rw [charge, ← chargeOf_eq ht, Function.update_eq_self]
      exact ledger ▸ h.reconciled
    | charges call row ledger charges free charge =>
      rw [charge]
      exact ledger ▸ h.reconciled.charge ((chargeOf_eq ht).trans free) charges
  · rcases hcases j thread hthread with rfl | hold
    · exact hstep.asserts
    · exact fun ticket hticket => (h.asserts j thread hold ticket hticket).keeps hstep.tenants
  · rcases hcases j thread hthread with rfl | hold
    · exact ProviderThread.sound_advance (h.asserts i t ht) (h.sound i t ht) answer
    · exact h.sound j thread hold

theorem env (h : Billed config cfg) (call : WalletCall) :
    Billed config { cfg with shared := otherTraffic cfg.shared call } := by
  unfold otherTraffic
  split_ifs with hposts
  · exact h
  · obtain ⟨rows, hledger, hrows⟩ : Appends NoUsageCharge cfg.shared.db
        (WalletCall.next cfg.shared.db call) := by
      apply appends_next
      intro input row hcall hrow husage
      rw [hrow.type] at husage
      rcases hcall.cases with rfl | htype | ⟨-, now, id, charge, context, rfl⟩
      · exact hposts (beq_iff_eq.2 husage)
      · rw [htype] at husage
        cases husage
      · exact hposts rfl
    refine ⟨?_, fun i thread hthread ticket hticket => ?_, h.sound⟩
    · change ChargesMatch (WalletCall.next cfg.shared.db call).transactions _
      rw [hledger]
      exact h.reconciled.append hrows
    · exact (h.asserts i thread hthread ticket hticket).keeps (keepsTenants_next _ call)

theorem next (h : Billed config cfg) (action : ProviderAction) :
    Billed config ((providerProgram config).next cfg action) := by
  cases action with
  | spawn request => exact h.spawn request
  | step i answer =>
    cases ht : cfg.threads[i]? with
    | none =>
      rw [Program.next, ht]
      exact h
    | some t =>
      rw [(providerProgram config).next_step ht]
      exact h.step ht answer
  | env call => exact h.env call

end Billed

/-! ### A settle that goes through -/

/-- The reservation is still held, and the amounts of the charge fit their columns. -/
structure Chargeable (db : Db) (call : TicketedCall) (reservationId : Id)
    (reservation : AiCreditReservation) (wallet : AiWallet) : Prop where
  ticket : call.ticket.reservationId = some reservationId
  found : db.reservations[reservationId]? = some reservation
  active : reservation.status = .active
  owned : db.wallets[reservation.walletId]? = some wallet
  not_closed : wallet.status ≠ .closed
  nonneg : 0 ≤ call.computedCharge
  held : (reservedWithout wallet reservation).isOk = true
  amount : (Numeric.store (-call.computedCharge)).isSome = true
  balance : (Numeric.store
    (Decimal.plus wallet.balance.toDecimal (-call.computedCharge))).isSome = true
  consumed : (Numeric.store
    (Decimal.plus wallet.totalConsumed.toDecimal |call.computedCharge|)).isSome = true

theorem exists_applyTransaction_of_usageCharge {db : Db} {walletId : Id} {wallet : AiWallet}
    {input : PostTransactionInput} (htype : input.type = .usageCharge)
    (hallow : input.allowNegativeBalance = true) (hzero : input.amount ≠ 0)
    (hopen : wallet.status ≠ .closed) (hamount : (Numeric.store input.amount).isSome = true)
    (hbalance : (Numeric.store (Decimal.plus wallet.balance.toDecimal input.amount)).isSome = true)
    (hconsumed : (Numeric.store
      (Decimal.plus wallet.totalConsumed.toDecimal |input.amount|)).isSome = true) :
    ∃ result, applyTransaction db walletId wallet input = .ok result := by
  obtain ⟨amount, hamount⟩ := Option.isSome_iff_exists.1 hamount
  obtain ⟨after, hafter⟩ := Option.isSome_iff_exists.1 hbalance
  obtain ⟨total, htotal⟩ := Option.isSome_iff_exists.1 hconsumed
  have hcovered : ¬(Decimal.plus wallet.balance.toDecimal input.amount < 0 ∧
      input.allowNegativeBalance = false) := by
    rw [hallow]
    exact fun h => Bool.noConfusion h.2
  have haggregates : ∃ aggregates, aggregateDelta input.type input.amount wallet =
      .ok aggregates := by
    rw [htype]
    exact ⟨_, bind_eq_ok.2 ⟨total, column_eq_ok.2 htotal, rfl⟩⟩
  obtain ⟨aggregates, haggregates⟩ := haggregates
  unfold applyTransaction
  exact ⟨_, bind_eq_ok.2 ⟨(), throwIf_eq_ok.2 hzero,
    bind_eq_ok.2 ⟨(), throwIf_eq_ok.2 hopen,
    bind_eq_ok.2 ⟨(), throwIf_eq_ok.2 hcovered,
    bind_eq_ok.2 ⟨amount, column_eq_ok.2 hamount,
    bind_eq_ok.2 ⟨wallet.balance, column_eq_ok.2 (Numeric.store_toDecimal _),
    bind_eq_ok.2 ⟨after, column_eq_ok.2 hafter,
    bind_eq_ok.2 ⟨aggregates, haggregates, rfl⟩⟩⟩⟩⟩⟩⟩⟩

namespace Chargeable

variable {db : Db} {call : TicketedCall} {reservationId : Id}
  {reservation : AiCreditReservation} {wallet : AiWallet}

theorem exists_finalizeReservation
    (h : Chargeable db call reservationId reservation wallet) (now : Time)
    (context : FinalizeContext) :
    ∃ result, finalizeReservation db now reservationId call.computedCharge context =
      .ok result := by
  obtain ⟨reserved, hreserved⟩ : ∃ reserved, reservedWithout wallet reservation = .ok reserved := by
    have hheld := h.held
    cases hcolumn : reservedWithout wallet reservation with
    | error e =>
      rw [hcolumn] at hheld
      cases hheld
    | ok reserved => exact ⟨reserved, rfl⟩
  have hfresh := getElem?_modify_self db.wallets
    (fun row => { row with reservedBalance := reserved }) h.owned
  simp only [finalizeReservation]
  by_cases hzero : call.computedCharge = 0
  · exact ⟨_, bind_eq_ok.2 ⟨(), throwIf_eq_ok.2 (not_lt.2 h.nonneg),
      bind_eq_ok.2 ⟨reservation, orThrow_eq_ok.2 h.found,
      bind_eq_ok.2 ⟨(), throwIf_eq_ok.2 (not_not.2 h.active),
      bind_eq_ok.2 ⟨wallet, lockWalletById_eq_ok.2 h.owned,
      bind_eq_ok.2 ⟨reserved, hreserved, if_pos hzero⟩⟩⟩⟩⟩⟩
  · have hconsumed : (Numeric.store
        (Decimal.plus wallet.totalConsumed.toDecimal |-call.computedCharge|)).isSome = true := by
      rw [abs_neg]
      exact h.consumed
    obtain ⟨posted, hposted⟩ : ∃ posted, applyTransaction
        (db.settle now reservationId reservation.walletId reserved .finalized)
        reservation.walletId { wallet with reservedBalance := reserved }
        (usageInput reservationId reservation call.computedCharge context) = .ok posted :=
      exists_applyTransaction_of_usageCharge rfl rfl (neg_ne_zero.2 hzero) h.not_closed h.amount
        h.balance hconsumed
    exact ⟨_, bind_eq_ok.2 ⟨(), throwIf_eq_ok.2 (not_lt.2 h.nonneg),
      bind_eq_ok.2 ⟨reservation, orThrow_eq_ok.2 h.found,
      bind_eq_ok.2 ⟨(), throwIf_eq_ok.2 (not_not.2 h.active),
      bind_eq_ok.2 ⟨wallet, lockWalletById_eq_ok.2 h.owned,
      bind_eq_ok.2 ⟨reserved, hreserved, (if_neg hzero).trans
        (bind_eq_ok.2 ⟨_, lockWalletById_eq_ok.2 hfresh, bind_eq_ok.2 ⟨posted, hposted, rfl⟩⟩)⟩⟩⟩⟩⟩⟩

theorem exists_settleReservation (h : Chargeable db call reservationId reservation wallet)
    (hsuccess : call.settleOutcome.success = true) (now : Time) :
    ∃ transactionId status db', call.ticket.settleReservation db now call.settleOutcome =
      .ok (transactionId, status, db') := by
  obtain ⟨⟨transactionId, db'⟩, hfinal⟩ := h.exists_finalizeReservation now
    { createdById := call.ticket.userId, requestId := call.settleOutcome.requestId }
  refine ⟨transactionId, .charged, db', ?_⟩
  simp only [ChargeTicket.settleReservation, h.ticket, hsuccess, if_true]
  exact bind_eq_ok.2 ⟨_, hfinal, rfl⟩

end Chargeable

/-! ### The law -/

/-- No call is charged twice, and no row is a charge of anything but a call that settled a
success on its billed ticket. Such a call is charged, unless its charge is zero or its settle
threw, and the settle does not throw while the reservation is held. -/
structure BillingLaw (config : ChargeConfig) (cfg : ProviderConfig) : Prop where
  charges : ChargesMatch cfg.shared.db.transactions (chargeOf cfg.threads)
  ticketed : ∀ (i : ℕ) call settled, cfg.threads[i]? = some (.ended call settled) →
    TicketFor config call.request call.ticket
  unticketed : ∀ (i : ℕ) request outcome,
    cfg.threads[i]? = some (.withoutTicket request outcome) →
    enforcementEnabled config.enforcement = false
  free : ∀ (i : ℕ) call, cfg.threads[i]? = some (.ended call (.ok none)) → call.Free
  settles : ∀ (i : ℕ) call answer reservationId reservation wallet,
    cfg.threads[i]? = some (.settle call) → call.settleOutcome.success = true →
    Chargeable cfg.shared.db call reservationId reservation wallet →
    answer.databaseFails = false →
    ∃ transactionId status,
      ((providerProgram config).next cfg (.step i answer)).threads[i]? =
        some (.log call transactionId status) ∧
      (transactionId = none ↔ call.computedCharge = 0)

theorem settles_of_chargeable {config : ChargeConfig} {cfg : ProviderConfig}
    (h : Billed config cfg) {i : ℕ} {call : TicketedCall} {answer : ProviderAnswer}
    {reservationId : Id} {reservation : AiCreditReservation} {wallet : AiWallet}
    (ht : cfg.threads[i]? = some (.settle call)) (hsuccess : call.settleOutcome.success = true)
    (hcharge : Chargeable cfg.shared.db call reservationId reservation wallet)
    (hanswer : answer.databaseFails = false) :
    ∃ transactionId status,
      ((providerProgram config).next cfg (.step i answer)).threads[i]? =
        some (.log call transactionId status) ∧
      (transactionId = none ↔ call.computedCharge = 0) := by
  obtain ⟨transactionId, status, db, hsettle⟩ :=
    hcharge.exists_settleReservation hsuccess answer.now
  have hadvance : (ProviderThread.settle call).advance config cfg.shared answer =
      ({ cfg.shared with db := db }, .log call transactionId status) := by
    simp only [ProviderThread.advance, hanswer, Bool.false_eq_true, if_false,
      ProviderThread.perform, hsettle]
  refine ⟨transactionId, status, ?_, ?_⟩
  · rw [(providerProgram config).next_step ht]
    change (cfg.threads.set i ((ProviderThread.settle call).advance config cfg.shared
      answer).2)[i]? = _
    rw [hadvance, List.getElem?_set_self (List.getElem?_eq_some_iff.1 ht).1]
  · have hbilled : call.ticket.billed = true := by
      rw [call.ticket.billed_eq, hcharge.ticket]
      rfl
    have hsettled := (settled_of_settleReservation (h.asserts i _ ht call.ticket rfl) hsettle).1
    cases hsettled with
    | unchanged ledger free => exact ⟨fun _ => free hsuccess hbilled, fun _ => rfl⟩
    | charged row ledger charges =>
      exact ⟨fun hnone => (Option.some_ne_none _ hnone).elim,
        fun hzero => absurd hzero charges.nonzero⟩

theorem Billed.billingLaw {config : ChargeConfig} {cfg : ProviderConfig}
    (h : Billed config cfg) : BillingLaw config cfg where
  charges := h.reconciled
  ticketed i _ _ ht := (h.sound i _ ht).1
  unticketed i _ _ ht := h.sound i _ ht
  free i _ ht := (h.sound i _ ht).2 rfl
  settles _ _ _ _ _ _ ht hsuccess hcharge hanswer :=
    settles_of_chargeable h ht hsuccess hcharge hanswer

/-- The law holds after every run of calls, sweeps and other traffic. -/
theorem billingLaw_run (config : ChargeConfig) (actions : List ProviderAction) :
    BillingLaw config (run (providerProgram config).next providerInit actions) := by
  have hbilled : Billed config (run (providerProgram config).next providerInit actions) :=
    run_invariant (I := Billed config) (fun _ action hcfg => hcfg.next action) Billed.init actions
  exact hbilled.billingLaw

def ProviderThread.answerCharged : ProviderThread → Bool
  | ended _ (.ok (some _)) => true
  | ended call _ => !call.settleOutcome.success
  | _ => true

def ChargesEveryAnswer (config : ChargeConfig) : Prop :=
  ∀ actions : List ProviderAction,
    (run (providerProgram config).next providerInit actions).threads.all
      ProviderThread.answerCharged = true

/-- A prompt token costs one unit. -/
def unitPricing : AiModelPricing where
  id := 0
  scope := .global
  currency := "USD"
  provider := ⟨.zero, .zero, .zero, .zero, .zero, .zero⟩
  customer := ⟨⟨1000000000000, by decide⟩, .zero, .zero, .zero, .zero, .zero⟩

def sweptCall (sweep : Time) : List ProviderAction :=
  [.env (.postTransaction { tenantId := 7, type := .manualCredit, amount := 10 }),
    .spawn
      { input :=
          { tenantId := 7
            userId := some 1
            modelId := some 0
            modelCode := "gpt-4o"
            callType := "query"
            estimatedPromptTokens := 1
            maxCompletionTokens := 0 }
        requestId := none
        central := true },
    .step 0 { now := 0, resolved := some unitPricing },
    .step 0 { now := 5, reply := .payload (some "answer") { promptTokens := some 1 } },
    .step 0 { now := 900, reply := .payload (some "answer") { promptTokens := some 1 } },
    .env (.expireStaleReservations sweep),
    .step 0 { now := sweep },
    .step 0 { now := sweep }]

def billingConfig (enforcement : Option String) : ChargeConfig where
  enforcement := enforcement
  policies := []
  tenantTier _ := none

/-- An answered call is not charged when the sweep was faster, and none is with billing
enforcement off. -/
theorem not_chargesEveryAnswer :
    ¬ ChargesEveryAnswer (billingConfig none) ∧
      ¬ ChargesEveryAnswer (billingConfig (some "false")) := by
  refine ⟨fun h => ?_, fun h => ?_⟩
  · have hswept := h (sweptCall 700000)
    revert hswept
    decide +kernel
  · have hfree := h (sweptCall 1000)
    revert hfree
    decide +kernel

end Forecast
