import Forecast.Billing.Pricing
import Forecast.Billing.WalletCalls

/-!
# Reserved credits

A wallet's `reservedBalance` against the amounts of its ACTIVE reservations, and
the life of a single reservation: it leaves ACTIVE at most once and is charged at
most once, in whatever order it is finalized, released and swept.
-/

namespace Forecast

open RowTable Runs

def isActiveOf (walletId : Id) (row : AiCreditReservation) : Bool :=
  row.walletId == walletId && row.status == .active

def Db.activeReservationsOf (db : Db) (walletId : Id) : List AiCreditReservation :=
  db.reservations.filter (isActiveOf walletId)

def Db.heldMicros (db : Db) (walletId : Id) : ℤ :=
  total (isActiveOf walletId) (fun row => row.amount.micros) db.reservations

/-- Every wallet's reserved balance is what its ACTIVE reservations hold. -/
structure HoldsMatch (db : Db) : Prop where
  reserved : ∀ walletId wallet, db.wallets[walletId]? = some wallet →
    wallet.reservedBalance.micros = db.heldMicros walletId
  owned : ∀ row ∈ db.reservations, row.walletId < db.wallets.length
  nonneg : ∀ row ∈ db.reservations, 0 ≤ row.amount.micros

theorem holdsMatch_empty : HoldsMatch Db.empty :=
  ⟨fun _ _ h => by simp [Db.empty] at h, fun _ h => by simp [Db.empty] at h,
    fun _ h => by simp [Db.empty] at h⟩

/-- A change that touches neither reservations nor reserved balances. -/
def SameHolds (db db' : Db) : Prop :=
  db'.reservations = db.reservations ∧
    db'.wallets.map AiWallet.reservedBalance = db.wallets.map AiWallet.reservedBalance

theorem HoldsMatch.of_sameHolds {db db' : Db} (h : HoldsMatch db) (hsame : SameHolds db db') :
    HoldsMatch db' := by
  obtain ⟨hreservations, hreserved⟩ := hsame
  have hlength : db'.wallets.length = db.wallets.length := by
    simpa using congrArg List.length hreserved
  refine ⟨fun walletId wallet hwallet => ?_, ?_, ?_⟩
  · have hget := congrArg (fun t => t[walletId]?) hreserved
    simp only [List.getElem?_map, hwallet, Option.map_some] at hget
    cases hold : db.wallets[walletId]? with
    | none => simp [hold] at hget
    | some old =>
      have heq : wallet.reservedBalance = old.reservedBalance := by simpa [hold] using hget
      rw [Db.heldMicros, hreservations, heq]
      exact h.reserved walletId old hold
  · rw [hreservations, hlength]
    exact h.owned
  · rw [hreservations]
    exact h.nonneg

theorem heldMicros_eq_zero {db : Db} {walletId : Id}
    (h : ∀ row ∈ db.reservations, row.walletId ≠ walletId) : db.heldMicros walletId = 0 := by
  have hempty : db.reservations.filter (isActiveOf walletId) = [] := by
    apply List.filter_eq_nil_iff.2
    intro row hrow
    simp [isActiveOf, h row hrow]
  rw [Db.heldMicros, total, hempty]
  rfl

theorem HoldsMatch.touched {db db' : Db} {tenantId : Id} (h : HoldsMatch db)
    (htouched : Touched db tenantId db') : HoldsMatch db' := by
  rcases htouched with rfl | ⟨-, rfl⟩
  · exact h
  refine ⟨fun walletId wallet hwallet => ?_, fun row hrow => ?_, h.nonneg⟩
  · rcases (getElem?_append_row_iff db.wallets _).1 hwallet with hold | ⟨rfl, rfl⟩
    · exact h.reserved walletId wallet hold
    · exact (heldMicros_eq_zero fun row hrow => (h.owned row hrow).ne).symm
  · have howned := h.owned row hrow
    change row.walletId < (db.wallets ++ [AiWallet.create tenantId]).length
    rw [List.length_append]
    exact Nat.lt_add_right _ howned

theorem Applied.sameHolds {db db' : Db} {walletId id : Id} {wallet : AiWallet}
    {input : PostTransactionInput} (h : Applied db walletId wallet input id db') :
    SameHolds db db' := by
  obtain ⟨amount, after, aggregates, status, -, -, hkeeps, -, rfl⟩ := h.writes
  exact ⟨rfl, map_modify_eq db.wallets walletId fun row => (hkeeps row).2.2⟩

theorem HoldsMatch.postTransaction {db db' : Db} {input : PostTransactionInput} {id : Id}
    (h : HoldsMatch db) (hpost : postTransaction db input = .ok (id, db')) : HoldsMatch db' := by
  obtain ⟨locked, walletId, wallet, hlock, happlied⟩ := postTransaction_cases hpost
  exact (h.touched (lockWalletByTenant_spec hlock).1).of_sameHolds happlied.sameHolds

theorem HoldsMatch.reserveCredits {db db' : Db} {now : Time} {input : ReserveInput} {id : Id}
    (h : HoldsMatch db) (hreserve : reserveCredits db now input = .ok (id, db'))
    (hround : 0 < input.amount →
      (lockWalletByTenant db input.tenantId).2.2.status = .active →
      (lockWalletByTenant db input.tenantId).2.2.reservedBalance.toDecimal + input.amount ≤
        (lockWalletByTenant db input.tenantId).2.2.balance.toDecimal →
      RoundsAlike (lockWalletByTenant db input.tenantId).2.2.reservedBalance input.amount) :
    HoldsMatch db' := by
  obtain ⟨locked, walletId, wallet, amount, reserved, hlock, hpos, hactive, hcover, hamount,
    hreserved, -, rfl⟩ := reserveCredits_cases hreserve
  obtain ⟨htouched, hwallet, -⟩ := lockWalletByTenant_spec hlock
  have hlocked := h.touched htouched
  rw [hlock] at hround
  have hadd := (store_plus_micros_iff hreserved hamount).2 (hround hpos hactive hcover)
  refine ⟨fun otherId other hother => ?_, fun row hrow => ?_, fun row hrow => ?_⟩
  · by_cases hid : walletId = otherId
    · subst hid
      have hself := getElem?_modify_self locked.wallets
        (fun row => { row with reservedBalance := reserved }) hwallet
      obtain rfl := Option.some.inj (hself.symm.trans hother)
      simp only [Db.heldMicros, total_append_row, isActiveOf, beq_self_eq_true, Bool.and_self,
        if_true]
      rw [hadd, hlocked.reserved walletId wallet hwallet]
      rfl
    · rw [getElem?_modify_of_ne locked.wallets _ hid] at hother
      have hne : (walletId == otherId) = false := by simpa using hid
      simp only [Db.heldMicros, total_append_row, isActiveOf, hne, Bool.false_and,
        Bool.false_eq_true, if_false, add_zero]
      exact hlocked.reserved otherId other hother
  · simp only [List.length_modify]
    rcases List.mem_append.1 hrow with hrow | hrow
    · exact hlocked.owned row hrow
    · obtain rfl := List.mem_singleton.1 hrow
      exact (List.getElem?_eq_some_iff.1 hwallet).1
  · rcases List.mem_append.1 hrow with hrow | hrow
    · exact hlocked.nonneg row hrow
    · obtain rfl := List.mem_singleton.1 hrow
      rw [Numeric.store_eq_some_iff.1 hamount]
      exact GridRounding.roundHalfAway_nonneg
        (mul_nonneg hpos.le (by norm_num [microsPerUnit]))

/-- Giving back the hold of an ACTIVE reservation subtracts its amount: it never exceeds what
is reserved, so the `max` with zero does not cut anything off. -/
theorem HoldsMatch.reservedWithout_micros {db : Db} (h : HoldsMatch db)
    {reservation : AiCreditReservation} {wallet : AiWallet} {reserved : Numeric}
    (hmem : reservation ∈ db.reservations) (hactive : reservation.status = .active)
    (hwallet : db.wallets[reservation.walletId]? = some wallet)
    (hreserved : reservedWithout wallet reservation = .ok reserved) :
    reserved.micros = wallet.reservedBalance.micros - reservation.amount.micros := by
  have hle : reservation.amount.micros ≤ wallet.reservedBalance.micros := by
    rw [h.reserved _ wallet hwallet]
    exact le_total h.nonneg hmem (by simp [isActiveOf, hactive])
  have hdiff : 0 ≤ wallet.reservedBalance.toDecimal - reservation.amount.toDecimal :=
    sub_nonneg.2 (Numeric.toDecimal_le_iff.2 hle)
  rw [reservedWithout, column_eq_ok, minus_toDecimal, max_eq_right hdiff,
    Numeric.store_eq_some_iff, sub_mul, Numeric.toDecimal_mul_micros,
    Numeric.toDecimal_mul_micros] at hreserved
  rw [hreserved, ← Int.cast_sub, GridRounding.roundHalfAway_intCast]

theorem HoldsMatch.settle {db : Db} (h : HoldsMatch db) (now : Time) {reservationId : Id}
    {reservation : AiCreditReservation} {wallet : AiWallet} {reserved : Numeric}
    {status : AiReservationStatus} (hstatus : status ≠ .active)
    (hget : db.reservations[reservationId]? = some reservation)
    (hactive : reservation.status = .active)
    (hwallet : db.wallets[reservation.walletId]? = some wallet)
    (hreserved : reservedWithout wallet reservation = .ok reserved) :
    HoldsMatch (db.settle now reservationId reservation.walletId reserved status) := by
  have hmem : reservation ∈ db.reservations := List.mem_of_getElem? hget
  have hmicros := h.reservedWithout_micros hmem hactive hwallet hreserved
  have hleft : ∀ walletId, isActiveOf walletId
      { reservation with status := status, finalizedAt := some now } = false := by
    intro walletId
    simp [isActiveOf, hstatus]
  have hheld : ∀ walletId,
      (db.settle now reservationId reservation.walletId reserved status).heldMicros walletId =
        db.heldMicros walletId -
          if reservation.walletId = walletId then reservation.amount.micros else 0 := by
    intro walletId
    change total _ _ (db.reservations.modify _ _) = _
    rw [total_modify _ _ _ hget, hleft walletId]
    simp [Db.heldMicros, isActiveOf, hactive, sub_eq_add_neg]
  refine ⟨fun walletId other hother => ?_, fun row hrow => ?_, fun row hrow => ?_⟩
  · rw [hheld]
    by_cases hid : reservation.walletId = walletId
    · subst hid
      have hself := getElem?_modify_self db.wallets
        (fun row => { row with reservedBalance := reserved }) hwallet
      obtain rfl := Option.some.inj (hself.symm.trans hother)
      rw [if_pos rfl, ← h.reserved _ wallet hwallet]
      exact hmicros
    · have hold : db.wallets[walletId]? = some other := by
        rwa [Db.settle, Db.updateReservation, Db.updateWallet,
          getElem?_modify_of_ne db.wallets _ hid] at hother
      rw [if_neg hid, sub_zero]
      exact h.reserved walletId other hold
  · obtain ⟨i, hi⟩ := List.mem_iff_getElem?.1 hrow
    obtain ⟨old, hold, rfl⟩ := exists_of_getElem?_modify db.reservations _ hi
    have howned := h.owned old (List.mem_of_getElem? hold)
    change _ < (db.wallets.modify _ _).length
    rw [List.length_modify]
    split_ifs <;> exact howned
  · obtain ⟨i, hi⟩ := List.mem_iff_getElem?.1 hrow
    obtain ⟨old, hold, rfl⟩ := exists_of_getElem?_modify db.reservations _ hi
    have hnonneg := h.nonneg old (List.mem_of_getElem? hold)
    split_ifs <;> exact hnonneg

theorem HoldsMatch.finalizeReservation {db db' : Db} {now : Time} {reservationId : Id}
    {charge : Decimal} {context : FinalizeContext} {transaction : Option Id} (h : HoldsMatch db)
    (hfinal : finalizeReservation db now reservationId charge context = .ok (transaction, db')) :
    HoldsMatch db' := by
  obtain ⟨reservation, wallet, reserved, -, hget, hactive, hwallet, hreserved, hcases⟩ :=
    finalizeReservation_cases hfinal
  have hsettled : HoldsMatch
      (db.settle now reservationId reservation.walletId reserved .finalized) :=
    h.settle now (by decide) hget hactive hwallet hreserved
  rcases hcases with ⟨-, -, rfl⟩ | ⟨-, id, -, happlied⟩
  · exact hsettled
  · exact hsettled.of_sameHolds happlied.sameHolds

theorem HoldsMatch.releaseReservation {db db' : Db} {now : Time} {reservationId : Id}
    {status : AiReservationStatus} (h : HoldsMatch db) (hstatus : status ≠ .active)
    (hrelease : releaseReservation db now reservationId status = .ok db') : HoldsMatch db' := by
  obtain ⟨reservation, hget, ⟨-, rfl⟩ | ⟨hactive, wallet, reserved, hwallet, hreserved, rfl⟩⟩ :=
    releaseReservation_cases hrelease
  · exact h
  · exact h.settle now hstatus hget hactive hwallet hreserved

/-- The amount of a hold that the guards of `reserveCredits` let through rounds alike with the
reserved balance it is added to. -/
def WalletCall.HoldRoundsAlike (db : Db) : WalletCall → Prop
  | reserveCredits _ input =>
    let wallet := (lockWalletByTenant db input.tenantId).2.2
    0 < input.amount → wallet.status = .active →
      wallet.reservedBalance.toDecimal + input.amount ≤ wallet.balance.toDecimal →
      RoundsAlike wallet.reservedBalance input.amount
  | _ => True

theorem HoldsMatch.next {db : Db} {call : WalletCall} (h : HoldsMatch db)
    (hround : call.HoldRoundsAlike db) : HoldsMatch (WalletCall.next db call) := by
  apply WalletCall.next_preserves h
  case touch => exact h.touched
  case settings =>
    intro db walletId f hf hdb
    exact hdb.of_sameHolds ⟨rfl, map_modify_eq db.wallets walletId fun row => (hf row).2.2⟩
  case create =>
    intro db row _ hdb
    exact hdb.of_sameHolds ⟨rfl, rfl⟩
  case update =>
    intro db id f _ hdb
    exact hdb.of_sameHolds ⟨rfl, rfl⟩
  case post =>
    intro input id db' _ _ hpost
    exact h.postTransaction hpost
  case reserve =>
    rintro now input id db' rfl hreserve
    exact h.reserveCredits hreserve hround
  case finalize =>
    intro now id charge context transaction db' _ hfinal
    exact h.finalizeReservation hfinal
  case release =>
    intro db db' now id status hstatus hdb hrelease
    exact hdb.releaseReservation hstatus hrelease

/-- The reservation exists and is no longer ACTIVE. -/
def LeftActive (reservationId : Id) (db : Db) : Prop :=
  ∃ row, db.reservations[reservationId]? = some row ∧ row.status ≠ .active

theorem LeftActive.of_reservations_eq {db db' : Db} {reservationId : Id}
    (h : LeftActive reservationId db) (heq : db'.reservations = db.reservations) :
    LeftActive reservationId db' := by
  rwa [LeftActive, heq]

theorem LeftActive.settle {db : Db} {reservationId : Id} (h : LeftActive reservationId db)
    {now : Time} {otherId walletId : Id} {reserved : Numeric} {status : AiReservationStatus}
    (hstatus : status ≠ .active) :
    LeftActive reservationId (db.settle now otherId walletId reserved status) := by
  obtain ⟨row, hrow, hleft⟩ := h
  refine ⟨_, getElem?_modify_some db.reservations _ hrow, ?_⟩
  split_ifs
  · exact hstatus
  · exact hleft

theorem leftActive_settle {db : Db} {reservationId : Id} {row : AiCreditReservation}
    (hrow : db.reservations[reservationId]? = some row) {now : Time} {walletId : Id}
    {reserved : Numeric} {status : AiReservationStatus} (hstatus : status ≠ .active) :
    LeftActive reservationId (db.settle now reservationId walletId reserved status) :=
  ⟨_, getElem?_modify_self db.reservations _ hrow, hstatus⟩

theorem LeftActive.next {db : Db} {call : WalletCall} {reservationId : Id}
    (h : LeftActive reservationId db) : LeftActive reservationId (WalletCall.next db call) := by
  have htouch : ∀ {db' : Db} {tenantId : Id}, Touched db tenantId db' →
      LeftActive reservationId db' := by
    rintro db' tenantId (rfl | ⟨-, rfl⟩)
    · exact h
    · exact h.of_reservations_eq rfl
  apply WalletCall.next_preserves h
  case touch => exact htouch
  case settings =>
    intro db walletId f _ hdb
    exact hdb.of_reservations_eq rfl
  case create =>
    intro db row _ hdb
    exact hdb.of_reservations_eq rfl
  case update =>
    intro db id f _ hdb
    exact hdb.of_reservations_eq rfl
  case post =>
    intro input id db' _ _ hpost
    obtain ⟨row, -, -, -, hreservations, -, -⟩ := postTransaction_appends hpost
    exact h.of_reservations_eq hreservations
  case reserve =>
    intro now input id db' _ hreserve
    obtain ⟨locked, walletId, wallet, amount, reserved, hlock, -, -, -, -, -, -, rfl⟩ :=
      reserveCredits_cases hreserve
    obtain ⟨row, hrow, hleft⟩ := htouch (lockWalletByTenant_spec hlock).1
    exact ⟨row, getElem?_append_row locked.reservations _ hrow, hleft⟩
  case finalize =>
    intro now id charge context transaction db' _ hfinal
    obtain ⟨reservation, wallet, reserved, -, -, -, -, -, hcases⟩ :=
      finalizeReservation_cases hfinal
    rcases hcases with ⟨-, -, rfl⟩ | ⟨-, entry, -, happlied⟩
    · exact h.settle (by decide)
    · exact (h.settle (by decide)).of_reservations_eq happlied.sameHolds.1
  case release =>
    intro db db' now id status hstatus hdb hrelease
    obtain ⟨reservation, -, ⟨-, rfl⟩ | ⟨-, wallet, reserved, -, -, rfl⟩⟩ :=
      releaseReservation_cases hrelease
    · exact hdb
    · exact hdb.settle hstatus

/-- Call number `k` of the run takes the reservation out of ACTIVE. -/
def LeavesActiveAt (calls : List WalletCall) (reservationId : Id) (k : ℕ) : Prop :=
  ¬ LeftActive reservationId (stateAt WalletCall.next Db.empty calls k) ∧
    LeftActive reservationId (stateAt WalletCall.next Db.empty calls (k + 1))

/-- Call number `k` of the run finalizes the reservation and writes this USAGE_CHARGE row. -/
def ChargedAt (calls : List WalletCall) (reservationId : Id) (k : ℕ) (transaction : Id) : Prop :=
  ∃ now charge context db',
    calls[k]? = some (.finalizeReservation now reservationId charge context) ∧
    finalizeReservation (stateAt WalletCall.next Db.empty calls k) now reservationId charge
      context = .ok (some transaction, db')

theorem LeavesActiveAt.unique {calls : List WalletCall} {reservationId : Id} {j k : ℕ}
    (hj : LeavesActiveAt calls reservationId j) (hk : LeavesActiveAt calls reservationId k) :
    j = k := by
  have hstable : ∀ {i i'}, LeavesActiveAt calls reservationId i → i < i' →
      LeftActive reservationId (stateAt WalletCall.next Db.empty calls i') := by
    intro i i' hi hlt
    exact stateAt_stable (fun _ _ => LeftActive.next) hlt hi.2
  rcases lt_trichotomy j k with hlt | heq | hlt
  · exact absurd (hstable hj hlt) hk.1
  · exact heq
  · exact absurd (hstable hk hlt) hj.1

theorem ChargedAt.leavesActiveAt {calls : List WalletCall} {reservationId transaction : Id}
    {k : ℕ} (h : ChargedAt calls reservationId k transaction) :
    LeavesActiveAt calls reservationId k := by
  obtain ⟨now, charge, context, db', hcall, hfinal⟩ := h
  obtain ⟨reservation, wallet, reserved, -, hget, hactive, -, -, hcases⟩ :=
    finalizeReservation_cases hfinal
  constructor
  · rintro ⟨row, hrow, hleft⟩
    obtain rfl := Option.some.inj (hget.symm.trans hrow)
    exact hleft hactive
  · rw [stateAt_succ WalletCall.next _ hcall, WalletCall.next, WalletCall.outcome, hfinal]
    rcases hcases with ⟨-, hnone, -⟩ | ⟨-, entry, -, happlied⟩
    · cases hnone
    · exact (leftActive_settle hget (by decide)).of_reservations_eq happlied.sameHolds.1

theorem ChargedAt.unique {calls : List WalletCall} {reservationId t t' : Id} {j k : ℕ}
    (hj : ChargedAt calls reservationId j t) (hk : ChargedAt calls reservationId k t') :
    j = k ∧ t = t' := by
  obtain rfl := hj.leavesActiveAt.unique hk.leavesActiveAt
  obtain ⟨now, charge, context, db', hcall, hfinal⟩ := hj
  obtain ⟨now', charge', context', db'', hcall', hfinal'⟩ := hk
  rw [hcall] at hcall'
  obtain ⟨rfl, -, rfl, rfl⟩ := WalletCall.finalizeReservation.inj (Option.some.inj hcall')
  rw [hfinal] at hfinal'
  exact ⟨rfl, Option.some.inj (Prod.mk.inj (Except.ok.inj hfinal')).1⟩

/-- `tenant_id` is a unique column of `ai_wallets`. -/
def OneWalletPerTenant (db : Db) : Prop := (db.wallets.map AiWallet.tenantId).Nodup

theorem oneWalletPerTenant_empty : OneWalletPerTenant Db.empty := List.nodup_nil

theorem OneWalletPerTenant.touched {db db' : Db} {tenantId : Id} (h : OneWalletPerTenant db)
    (htouched : Touched db tenantId db') : OneWalletPerTenant db' := by
  rcases htouched with rfl | ⟨hfresh, rfl⟩
  · exact h
  · change ((db.wallets ++ [AiWallet.create tenantId]).map AiWallet.tenantId).Nodup
    rw [List.map_append, List.nodup_append]
    refine ⟨h, by simp, ?_⟩
    intro tenant htenant other hother
    obtain ⟨wallet, hwallet, rfl⟩ := List.mem_map.1 htenant
    obtain rfl := List.mem_singleton.1 hother
    exact hfresh wallet hwallet

theorem OneWalletPerTenant.of_map_eq {db db' : Db} (h : OneWalletPerTenant db)
    (heq : db'.wallets.map AiWallet.tenantId = db.wallets.map AiWallet.tenantId) :
    OneWalletPerTenant db' := by
  rwa [OneWalletPerTenant, heq]

theorem OneWalletPerTenant.applied {db db' : Db} {walletId id : Id} {wallet : AiWallet}
    {input : PostTransactionInput} (h : OneWalletPerTenant db)
    (happlied : Applied db walletId wallet input id db') : OneWalletPerTenant db' := by
  obtain ⟨amount, after, aggregates, status, -, -, hkeeps, -, rfl⟩ := happlied.writes
  exact h.of_map_eq (map_modify_eq db.wallets walletId fun row => (hkeeps row).1)

theorem OneWalletPerTenant.next {db : Db} {call : WalletCall} (h : OneWalletPerTenant db) :
    OneWalletPerTenant (WalletCall.next db call) := by
  apply WalletCall.next_preserves h
  case touch => exact h.touched
  case settings =>
    intro db walletId f hf hdb
    exact hdb.of_map_eq (map_modify_eq db.wallets walletId fun row => (hf row).1)
  case create => exact fun _ hdb => hdb
  case update => exact fun _ hdb => hdb
  case post =>
    intro input id db' _ _ hpost
    obtain ⟨locked, walletId, wallet, hlock, happlied⟩ := postTransaction_cases hpost
    exact (h.touched (lockWalletByTenant_spec hlock).1).applied happlied
  case reserve =>
    intro now input id db' _ hreserve
    obtain ⟨locked, walletId, wallet, amount, reserved, hlock, -, -, -, -, -, -, rfl⟩ :=
      reserveCredits_cases hreserve
    exact (h.touched (lockWalletByTenant_spec hlock).1).of_map_eq
      (map_modify_eq locked.wallets walletId fun _ => rfl)
  case finalize =>
    intro now id charge context transaction db' _ hfinal
    obtain ⟨reservation, wallet, reserved, -, -, -, -, -, hcases⟩ :=
      finalizeReservation_cases hfinal
    have hsettled : OneWalletPerTenant
        (db.settle now id reservation.walletId reserved .finalized) :=
      h.of_map_eq (map_modify_eq db.wallets reservation.walletId fun _ => rfl)
    rcases hcases with ⟨-, -, rfl⟩ | ⟨-, entry, -, happlied⟩
    · exact hsettled
    · exact hsettled.applied happlied
  case release =>
    intro db db' now id status _ hdb hrelease
    obtain ⟨reservation, -, ⟨-, rfl⟩ | ⟨-, wallet, reserved, -, -, rfl⟩⟩ :=
      releaseReservation_cases hrelease
    · exact hdb
    · exact hdb.of_map_eq (map_modify_eq db.wallets reservation.walletId fun _ => rfl)

theorem OneWalletPerTenant.eq_of_tenantId_eq {db : Db} (h : OneWalletPerTenant db) {i j : Id}
    {wallet other : AiWallet} (hi : db.wallets[i]? = some wallet)
    (hj : db.wallets[j]? = some other) (htenant : wallet.tenantId = other.tenantId) :
    wallet = other := by
  have hlt : i < (db.wallets.map AiWallet.tenantId).length := by
    simpa using (List.getElem?_eq_some_iff.1 hi).1
  have hij : i = j := by
    apply (List.getElem?_inj hlt h).1
    simp [hi, hj, htenant]
  subst hij
  exact Option.some.inj (hi.symm.trans hj)

/-- A hold that was granted leaves the tenant's reserved balance within its balance. -/
theorem reserveCredits_le_balance {db db' : Db} (hunique : OneWalletPerTenant db') {now : Time}
    {input : ReserveInput} {id : Id} (h : reserveCredits db now input = .ok (id, db'))
    {walletId : Id} {wallet : AiWallet} (hwallet : db'.wallets[walletId]? = some wallet)
    (htenant : wallet.tenantId = input.tenantId) :
    wallet.reservedBalance.micros ≤ wallet.balance.micros := by
  obtain ⟨locked, lockedId, old, amount, reserved, hlock, -, -, hcover, -, hreserved, -, rfl⟩ :=
    reserveCredits_cases h
  obtain ⟨-, hold, holdTenant⟩ := lockWalletByTenant_spec hlock
  have hself := getElem?_modify_self locked.wallets
    (fun row => { row with reservedBalance := reserved }) hold
  obtain rfl := hunique.eq_of_tenantId_eq hself hwallet (holdTenant.trans htenant.symm)
  exact store_plus_le hcover hreserved

/-- The four laws of reservations over a run from an empty database. -/
structure ReservationLaws (calls : List WalletCall) : Prop where
  reserved_eq_sum : ∀ (k : ℕ) (walletId : Id) (wallet : AiWallet),
    (stateAt WalletCall.next Db.empty calls k).wallets[walletId]? = some wallet →
    wallet.reservedBalance.micros =
      (((stateAt WalletCall.next Db.empty calls k).activeReservationsOf walletId).map
        fun row => row.amount.micros).sum
  reserve_le_balance : ∀ (k : ℕ) (now : Time) (input : ReserveInput) (id : Id) (db' : Db)
      (walletId : Id) (wallet : AiWallet),
    calls[k]? = some (.reserveCredits now input) →
    reserveCredits (stateAt WalletCall.next Db.empty calls k) now input = .ok (id, db') →
    db'.wallets[walletId]? = some wallet → wallet.tenantId = input.tenantId →
    wallet.reservedBalance.micros ≤ wallet.balance.micros
  leaves_once : ∀ reservationId j k, LeavesActiveAt calls reservationId j →
    LeavesActiveAt calls reservationId k → j = k
  charged_once : ∀ reservationId j k transaction transaction',
    ChargedAt calls reservationId j transaction → ChargedAt calls reservationId k transaction' →
    j = k ∧ transaction = transaction'

/-- In every run whose granted holds round alike with the reserved balances they are added to,
the four laws hold. -/
theorem reservationLaws_of_holdRoundsAlike (calls : List WalletCall)
    (h : Always WalletCall.next WalletCall.HoldRoundsAlike Db.empty calls) :
    ReservationLaws calls where
  reserved_eq_sum k walletId wallet hwallet :=
    (h.invariant_at (fun _ _ => HoldsMatch.next) holdsMatch_empty k).reserved walletId wallet hwallet
  reserve_le_balance k now input id db' walletId wallet _ hreserve hwallet htenant := by
    have hunique : OneWalletPerTenant (stateAt WalletCall.next Db.empty calls k) :=
      run_invariant (fun _ _ => OneWalletPerTenant.next) oneWalletPerTenant_empty _
    have hunique' : OneWalletPerTenant db' := by
      have hnext : OneWalletPerTenant (WalletCall.next _ (.reserveCredits now input)) :=
        hunique.next
      rwa [WalletCall.next, WalletCall.outcome, hreserve] at hnext
    exact reserveCredits_le_balance hunique' hreserve hwallet htenant
  leaves_once _ _ _ hj hk := hj.unique hk
  charged_once _ _ _ _ _ hj hk := hj.unique hk

theorem reservationLaws_of_settled_hold :
    ReservationLaws
      [.postTransaction { tenantId := 7, type := .manualCredit, amount := 1 },
        .reserveCredits 0 { tenantId := 7, amount := 1 / 4 },
        .finalizeReservation 1000 0 (1 / 8) {}] :=
  reservationLaws_of_holdRoundsAlike _
    ⟨trivial, fun _ _ _ => by decide +kernel, trivial, trivial⟩

/-- A price of 0.499995 per million tokens. -/
def finePricing : AiModelPricing where
  id := 0
  scope := .global
  currency := "USD"
  provider := ⟨.zero, .zero, .zero, .zero, .zero, .zero⟩
  customer := ⟨⟨499995, by decide⟩, .zero, .zero, .zero, .zero, .zero⟩

/-- A hold of a hundred million units, and one of a single prompt token beside it. -/
def longSumHolds : List WalletCall :=
  [.postTransaction { tenantId := 7, type := .manualCredit, amount := 200000000 },
    .reserveCredits 0 { tenantId := 7, amount := 100000000 },
    .reserveCredits 0 { tenantId := 7, amount := estimateCharge finePricing 1 0 }]

/-- The sum has 21 digits: cut to 20 it reaches half a micro, which the amount alone does not. -/
theorem not_reservationLaws_longSumHolds : ¬ ReservationLaws longSumHolds := by
  have hreserved : ((stateAt WalletCall.next Db.empty longSumHolds 3).wallets[0]?.map
      fun wallet => wallet.reservedBalance.micros) = some 100000000000001 := by decide +kernel
  have hsum : (((stateAt WalletCall.next Db.empty longSumHolds 3).activeReservationsOf 0).map
      fun row => row.amount.micros).sum = 100000000000000 := by decide +kernel
  intro h
  cases hwallet : (stateAt WalletCall.next Db.empty longSumHolds 3).wallets[0]? with
  | none => simp [hwallet] at hreserved
  | some wallet =>
    have heq := h.reserved_eq_sum 3 0 wallet hwallet
    rw [hsum] at heq
    simp [hwallet, heq] at hreserved

end Forecast
