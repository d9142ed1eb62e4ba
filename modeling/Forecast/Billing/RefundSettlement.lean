import Forecast.Billing.RefundCap

/-!
# Failures inside a refund

Refund requests one after another, where Stripe, the ledger and the row updates
can fail. A refund row is COMPLETED exactly when its ledger entry exists and the
cash sent back stays within the purchase, in every run in which no failure falls
between an effect and its record.
-/

namespace Forecast

open RowTable Runs

/-- One request at a time; the last one stays until the next begins. -/
structure RefundSequence where
  shared : RefundState
  current : Option RefundThread

inductive RefundEvent where
  | begin (call : RefundCall)
  | step (fault : Fault)
  | other (call : WalletCall)

def RefundThread.ended : RefundThread → Bool
  | returned _ => true
  | thrown _ => true
  | _ => false

namespace RefundSequence

/-- No request is under way. -/
def idle (seq : RefundSequence) : Bool := seq.current.all RefundThread.ended

def init : RefundSequence := ⟨⟨Db.empty, []⟩, none⟩

def next (seq : RefundSequence) : RefundEvent → RefundSequence
  | .begin call => if seq.idle then { seq with current := some call.start } else seq
  | .step fault =>
    match seq.current with
    | some thread =>
      { shared := (thread.advance seq.shared fault).1
        current := some (thread.advance seq.shared fault).2 }
    | none => seq
  | .other call => { seq with shared := otherActivity seq.shared call }

end RefundSequence

/-- The ledger entry of a refund row. -/
def Db.HasRefundEntry (db : Db) (id : Id) : Prop :=
  ∃ row ∈ db.transactions, row.type = .refund ∧ row.relatedEntityType = some "ai_refund" ∧
    row.relatedEntityId = some id

namespace RefundState

def HasStripeRefund (s : RefundState) (id : Id) : Prop :=
  ∃ refund ∈ s.stripe, refund.refundId = id

/-- A refund row is COMPLETED when and only when its effects took place. -/
def Settled (s : RefundState) (id : Id) (row : AiRefund) : Prop :=
  (row.status = .completed ↔ s.db.HasRefundEntry id) ∧
    (row.kind = .cash → (row.status = .completed ↔ s.HasStripeRefund id))

def cashSentBack (s : RefundState) (purchaseId : Id) : ℤ :=
  total (fun refund => (s.db.refunds[refund.refundId]?.bind AiRefund.purchaseId) == some purchaseId)
    (fun refund => refund.amountCents) s.stripe

end RefundState

def microsPerCent : ℤ := 10 ^ 4

/-- When no request is under way every refund row is settled; at all times the cash sent back for
a purchase is within its amount. -/
structure RefundLaws (seq : RefundSequence) : Prop where
  settled : seq.idle → ∀ (id : Id) (row : AiRefund), seq.shared.db.refunds[id]? = some row →
    seq.shared.Settled id row
  cash : ∀ (id : Id) (row : AiCreditPurchase), seq.shared.db.purchases[id]? = some row →
    seq.shared.cashSentBack id * microsPerCent ≤ row.amount.micros

/-- No failure falls between an effect of a refund and its record: Stripe's answer and the
ledger's are not lost, a CASH refund's entry is posted, the row becomes COMPLETED once the entry
is there, and the catch block does not overwrite a COMPLETED row. The cents sent to Stripe are
no more than the amount the row stores, and not zero, which Stripe would not be sent. -/
def RefundThread.FailsCleanly (s : RefundState) (fault : Fault) : RefundThread → Prop
  | stripeRefund job _ =>
    fault ≠ .lost ∧ (fault = .ok → Decimal.cents job.input.amount ≠ 0 ∧
      ∀ stored ∈ Numeric.store job.input.amount,
        Decimal.cents job.input.amount * microsPerCent ≤ stored.micros)
  | postLedger job id _ =>
    (job.input.kind = .cash →
      fault = .ok ∧ (postTransaction s.db (refundInput job id)).toBool) ∧
    (job.input.kind = .walletCredit →
      (postTransaction s.db (refundInput job id)).toBool → fault ≠ .lost)
  | completeRow .. => fault ≠ .failed
  | failRow id _ =>
    fault = .failed ∨ ∀ row ∈ s.db.refunds[id]?, row.status ≠ .completed
  | _ => True

def isCompletedRefundOf (purchaseId : Id) (row : AiRefund) : Bool :=
  row.purchaseId == some purchaseId && row.status == .completed

def Db.completedRefundMicros (db : Db) (purchaseId : Id) : ℤ :=
  total (isCompletedRefundOf purchaseId) (fun row => row.amount.micros) db.refunds

/-- What a CASH refund adds to the cash sent back while its row is still PENDING. -/
def inFlightMicros (row : AiRefund) (purchaseId : Id) : ℤ :=
  if row.kind = .cash ∧ row.purchaseId = some purchaseId then row.amount.micros else 0

/-- The records agree, except for the row `own` of the request under way, whose cash is counted
in `inFlight`. -/
structure RefundRecords (own : Option Id) (inFlight : Id → ℤ) (s : RefundState) : Prop where
  settled : ∀ (id : Id) (row : AiRefund), s.db.refunds[id]? = some row → own ≠ some id →
    s.Settled id row
  entries : ∀ id, s.db.HasRefundEntry id → id < s.db.refunds.length
  stripe : ∀ refund ∈ s.stripe, refund.refundId < s.db.refunds.length
  cash : ∀ purchaseId, s.cashSentBack purchaseId * microsPerCent ≤
    s.db.completedRefundMicros purchaseId + inFlight purchaseId

theorem refundRecords_empty : RefundRecords none 0 ⟨Db.empty, []⟩ :=
  ⟨fun _ _ h => by simp [Db.empty] at h, fun _ ⟨_, h, _⟩ => by simp [Db.empty] at h,
    fun _ h => by simp at h, fun _ => le_rfl⟩

theorem RefundRecords.congr {own : Option Id} {inFlight : Id → ℤ} {s s' : RefundState}
    (h : RefundRecords own inFlight s) (hrefunds : s'.db.refunds = s.db.refunds)
    (hstripe : s'.stripe = s.stripe)
    (hentries : ∀ id, s'.db.HasRefundEntry id ↔ s.db.HasRefundEntry id) :
    RefundRecords own inFlight s' := by
  refine ⟨fun id row hrow hown => ?_, fun id hid => ?_, ?_, fun purchaseId => ?_⟩
  · have hsettled := h.settled id row (hrefunds ▸ hrow) hown
    rw [RefundState.Settled, RefundState.HasStripeRefund, hentries, hstripe]
    exact hsettled
  · rw [hrefunds]
    exact h.entries id ((hentries id).1 hid)
  · rw [hrefunds, hstripe]
    exact h.stripe
  · rw [RefundState.cashSentBack, Db.completedRefundMicros, hrefunds, hstripe]
    exact h.cash purchaseId

theorem HasRefundEntry.of_transactions {db db' : Db} (h : db'.transactions = db.transactions)
    (id : Id) : db'.HasRefundEntry id ↔ db.HasRefundEntry id := by
  rw [Db.HasRefundEntry, Db.HasRefundEntry, h]

/-- The row of the request under way can be left out, and taken back in when it is settled. -/
theorem RefundRecords.leaveOut {inFlight : Id → ℤ} {s : RefundState}
    (h : RefundRecords none inFlight s) (id : Id) : RefundRecords (some id) inFlight s :=
  ⟨fun other row hrow _ => h.settled other row hrow (by simp), h.entries, h.stripe, h.cash⟩

theorem RefundRecords.takeIn {id : Id} {inFlight : Id → ℤ} {s : RefundState}
    (h : RefundRecords (some id) inFlight s)
    (hown : ∀ row, s.db.refunds[id]? = some row → s.Settled id row) :
    RefundRecords none inFlight s := by
  refine ⟨fun other row hrow _ => ?_, h.entries, h.stripe, h.cash⟩
  by_cases hother : id = other
  · subst hother
    exact hown row hrow
  · exact h.settled other row hrow fun heq => hother (Option.some.inj heq)

theorem cashSentBack_congr {s : RefundState} {db' : Db}
    (h : ∀ refund ∈ s.stripe, db'.refunds[refund.refundId]?.bind AiRefund.purchaseId =
      s.db.refunds[refund.refundId]?.bind AiRefund.purchaseId) (purchaseId : Id) :
    RefundState.cashSentBack { s with db := db' } purchaseId = s.cashSentBack purchaseId := by
  rw [RefundState.cashSentBack, RefundState.cashSentBack, total, total]
  congr 2
  apply List.filter_congr
  intro refund hrefund
  rw [h refund hrefund]

/-- A new row has no effects yet. -/
theorem RefundRecords.createRow {s : RefundState} (h : RefundRecords none 0 s) (row : AiRefund)
    (hpending : row.status = .pending) :
    RefundRecords none 0 { s with db := { s.db with refunds := s.db.refunds ++ [row] } } := by
  refine ⟨fun id other hother _ => ?_, fun id hid => ?_, fun refund hrefund => ?_,
    fun purchaseId => ?_⟩
  · rcases (getElem?_append_row_iff _ _).1 hother with hother | ⟨rfl, rfl⟩
    · exact h.settled id other hother (by simp)
    · refine ⟨?_, fun _ => ?_⟩
      · refine iff_of_false (by simp [hpending]) fun hentry => ?_
        exact absurd (h.entries _ hentry) (lt_irrefl _)
      · refine iff_of_false (by simp [hpending]) fun ⟨refund, hrefund, hid⟩ => ?_
        exact absurd (hid ▸ h.stripe refund hrefund) (lt_irrefl _)
  · rw [List.length_append]
    exact Nat.lt_add_right _ (h.entries id hid)
  · rw [List.length_append]
    exact Nat.lt_add_right _ (h.stripe refund hrefund)
  · have hsent : RefundState.cashSentBack
        { s with db := { s.db with refunds := s.db.refunds ++ [row] } } purchaseId =
        s.cashSentBack purchaseId := by
      apply cashSentBack_congr
      intro refund hrefund
      rw [List.getElem?_append_left (h.stripe refund hrefund)]
    rw [hsent, Db.completedRefundMicros, total_append_row]
    have hold := h.cash purchaseId
    rw [Db.completedRefundMicros] at hold
    simpa [isCompletedRefundOf, hpending] using hold

/-- Stripe sends back no more than the row stores. -/
theorem RefundRecords.stripeRefund {id : Id} {s : RefundState} (h : RefundRecords (some id) 0 s)
    {row : AiRefund} (hrow : s.db.refunds[id]? = some row) (hcash : row.kind = .cash)
    {refund : StripeRefund} (hid : refund.refundId = id)
    (hcents : refund.amountCents * microsPerCent ≤ row.amount.micros) :
    RefundRecords (some id) (inFlightMicros row) { s with stripe := s.stripe ++ [refund] } := by
  refine ⟨fun other old hold hother => ?_, h.entries, fun r hr => ?_, fun purchaseId => ?_⟩
  · have hsettled := h.settled other old hold hother
    refine ⟨hsettled.1, fun hkind => (hsettled.2 hkind).trans ?_⟩
    simp only [RefundState.HasStripeRefund, List.mem_append, List.mem_singleton]
    constructor
    · rintro ⟨r, hr, hrid⟩
      exact ⟨r, Or.inl hr, hrid⟩
    · rintro ⟨r, hr | rfl, hrid⟩
      · exact ⟨r, hr, hrid⟩
      · exact absurd (congrArg some (hid.symm.trans hrid)) hother
  · rcases List.mem_append.1 hr with hr | hr
    · exact h.stripe r hr
    · obtain rfl := List.mem_singleton.1 hr
      rw [hid]
      exact (List.getElem?_eq_some_iff.1 hrow).1
  · have hold := h.cash purchaseId
    rw [RefundState.cashSentBack, total_append_row]
    change (s.cashSentBack purchaseId + _) * _ ≤ _
    simp only [hid, hrow, Option.bind_some, beq_iff_eq, inFlightMicros, hcash, true_and,
      Pi.zero_apply, add_zero] at hold ⊢
    split_ifs
    · rw [add_mul]
      omega
    · simpa using hold

/-- A ledger entry of the request under way settles no other row. -/
theorem RefundRecords.postLedger {id : Id} {inFlight : Id → ℤ} {s : RefundState} {db' : Db}
    (h : RefundRecords (some id) inFlight s) (hid : id < s.db.refunds.length)
    {row : AiWalletTransaction} (hrow : row.relatedEntityId = some id)
    (htransactions : db'.transactions = s.db.transactions ++ [row])
    (hrefunds : db'.refunds = s.db.refunds) :
    RefundRecords (some id) inFlight { s with db := db' } := by
  have hentry : ∀ other, db'.HasRefundEntry other → other = id ∨ s.db.HasRefundEntry other := by
    rintro other ⟨entry, hentry, htype, hentity, hother⟩
    rw [htransactions] at hentry
    rcases List.mem_append.1 hentry with hentry | hentry
    · exact Or.inr ⟨entry, hentry, htype, hentity, hother⟩
    · obtain rfl := List.mem_singleton.1 hentry
      exact Or.inl (Option.some.inj (hother.symm.trans hrow))
  refine ⟨fun other old hold hother => ?_, fun other hother => ?_, ?_, fun purchaseId => ?_⟩
  · have hsettled := h.settled other old (hrefunds ▸ hold) hother
    refine ⟨hsettled.1.trans ⟨?_, fun hposted => ?_⟩, hsettled.2⟩
    · rintro ⟨entry, hentry, hfacts⟩
      exact ⟨entry, htransactions ▸ List.mem_append_left _ hentry, hfacts⟩
    · rcases hentry other hposted with rfl | hposted
      · exact absurd rfl hother
      · exact hposted
  · change other < db'.refunds.length
    rw [hrefunds]
    rcases hentry other hother with rfl | hother
    · exact hid
    · exact h.entries other hother
  · change ∀ refund ∈ s.stripe, refund.refundId < db'.refunds.length
    rw [hrefunds]
    exact h.stripe
  · have hcash := h.cash purchaseId
    rw [RefundState.cashSentBack, Db.completedRefundMicros]
    simp only [hrefunds]
    exact hcash

theorem RefundRecords.updateRefund {own : Option Id} {inFlight inFlight' : Id → ℤ} {s : RefundState}
    (h : RefundRecords own inFlight s) {id : Id} (hown : own = none ∨ own = some id)
    {f : AiRefund → AiRefund} (hpurchase : ∀ row, (f row).purchaseId = row.purchaseId)
    (hsettled : ∀ row, s.db.refunds[id]? = some row → s.Settled id (f row))
    (hcash : ∀ row, s.db.refunds[id]? = some row → ∀ purchaseId,
      (if isCompletedRefundOf purchaseId row then row.amount.micros else 0) + inFlight purchaseId ≤
      (if isCompletedRefundOf purchaseId (f row) then (f row).amount.micros else 0) +
        inFlight' purchaseId)
    (hnone : s.db.refunds[id]? = none → inFlight = inFlight') :
    RefundRecords none inFlight' { s with db := s.db.updateRefund id f } := by
  have hlength : (s.db.updateRefund id f).refunds.length = s.db.refunds.length :=
    List.length_modify ..
  refine ⟨fun other new hnew _ => ?_, fun other hother => ?_, fun refund hrefund => ?_,
    fun purchaseId => ?_⟩
  · obtain ⟨old, hold, rfl⟩ := exists_of_getElem?_modify s.db.refunds f hnew
    split_ifs with hid
    · subst hid
      exact hsettled old hold
    · have hother : own ≠ some other := by
        rcases hown with rfl | rfl
        · simp
        · exact fun heq => hid (Option.some.inj heq)
      exact h.settled other old hold hother
  · exact hlength ▸ h.entries other hother
  · exact hlength ▸ h.stripe refund hrefund
  · have hold := h.cash purchaseId
    have hsent : RefundState.cashSentBack { s with db := s.db.updateRefund id f } purchaseId =
        s.cashSentBack purchaseId := by
      apply cashSentBack_congr
      intro refund _
      change ((s.db.refunds.modify id f)[refund.refundId]?).bind _ = _
      cases hrefund : s.db.refunds[refund.refundId]? with
      | none => simp [List.getElem?_modify, hrefund]
      | some row =>
        rw [getElem?_modify_some _ f hrefund, Option.bind_some, Option.bind_some]
        split_ifs
        · exact hpurchase row
        · rfl
    rw [hsent]
    cases hrow : s.db.refunds[id]? with
    | none =>
      have hsame : s.db.refunds.modify id f = s.db.refunds :=
        List.modify_eq_self (List.getElem?_eq_none_iff.1 hrow)
      rw [Db.completedRefundMicros, Db.updateRefund, hsame, ← hnone hrow]
      exact hold
    | some row =>
      have hgain := hcash row hrow purchaseId
      rw [Db.completedRefundMicros, Db.updateRefund, total_modify _ _ f hrow]
      change _ ≤ s.db.completedRefundMicros purchaseId + _ + _
      omega

theorem inFlightMicros_eq_zero {row : AiRefund} (h : row.kind ≠ .cash) : inFlightMicros row = 0 := by
  funext purchaseId
  simp [inFlightMicros, h]

/-- The row of the request under way, before it is completed or failed. -/
structure OwnRow (s : RefundState) (job : RefundJob) (id : Id) (row : AiRefund) : Prop where
  found : s.db.refunds[id]? = some row
  pending : row.status = .pending
  kind : row.kind = job.input.kind
  amount : Numeric.store job.input.amount = some row.amount

/-- How far the records are at each point of a request. -/
def RefundThread.Progress (s : RefundState) : RefundThread → Prop
  | createRow job => RefundRecords none 0 s ∧ (createRow job).capStillHolds s.db = true
  | stripeRefund job id =>
    RefundRecords none 0 s ∧ job.input.kind = .cash ∧ ∃ row, OwnRow s job id row
  | postLedger job id _ =>
    ∃ row, OwnRow s job id row ∧ RefundRecords (some id) (inFlightMicros row) s ∧
      ¬ s.db.HasRefundEntry id ∧ (row.kind = .cash → s.HasStripeRefund id)
  | completeRow job id _ _ =>
    ∃ row, OwnRow s job id row ∧ RefundRecords (some id) (inFlightMicros row) s ∧
      s.db.HasRefundEntry id ∧ (row.kind = .cash → s.HasStripeRefund id)
  | _ => RefundRecords none 0 s

theorem progress_startJob {s : RefundState} {prepared : Except Thrown RefundJob}
    (h : RefundRecords none 0 s) (hcap : ∀ job, prepared = .ok job →
      (RefundThread.createRow job).capStillHolds s.db = true) :
    (startJob prepared).Progress s := by
  cases prepared with
  | ok job => exact ⟨h, hcap job rfl⟩
  | error e => exact h

/-- A PENDING row without effects is settled. -/
theorem OwnRow.settled {s : RefundState} {job : RefundJob} {id : Id} {row : AiRefund}
    (h : OwnRow s job id row) (hentry : ¬ s.db.HasRefundEntry id) (hkind : row.kind ≠ .cash)
    {other : AiRefund} (hother : s.db.refunds[id]? = some other) : s.Settled id other := by
  obtain rfl := Option.some.inj (h.found.symm.trans hother)
  exact ⟨iff_of_false (by simp [h.pending]) hentry, fun hcash => absurd hcash hkind⟩

theorem progress_createRow {s : RefundState} {job : RefundJob} {amount : Numeric}
    (h : RefundRecords none 0 s) (hstored : Numeric.store job.input.amount = some amount) :
    RefundThread.Progress
      { s with db := { s.db with refunds := s.db.refunds ++ [job.row amount] } }
      (match job.input.kind with
        | .cash => .stripeRefund job s.db.refunds.length
        | .walletCredit => .postLedger job s.db.refunds.length none) := by
  have hrecords := h.createRow (job.row amount) rfl
  have hown : OwnRow { s with db := { s.db with refunds := s.db.refunds ++ [job.row amount] } } job
      s.db.refunds.length (job.row amount) := ⟨by simp, rfl, rfl, hstored⟩
  cases hkind : job.input.kind with
  | cash => exact ⟨hrecords, hkind, job.row amount, hown⟩
  | walletCredit =>
    have hcredit : (job.row amount).kind ≠ .cash := by simp [RefundJob.row, hkind]
    refine ⟨job.row amount, hown, ?_, fun hentry => ?_, fun hcash => absurd hcash hcredit⟩
    · rw [inFlightMicros_eq_zero hcredit]
      exact hrecords.leaveOut _
    · exact absurd (h.entries _ hentry) (lt_irrefl _)

theorem progress_stripeRefund {s : RefundState} {job : RefundJob} {id : Id}
    (h : (RefundThread.stripeRefund job id).Progress s)
    (hcents : Decimal.cents job.input.amount ≠ 0 ∧ ∀ stored ∈ Numeric.store job.input.amount,
      Decimal.cents job.input.amount * microsPerCent ≤ stored.micros) (stripeId : Option Id) :
    (RefundThread.postLedger job id stripeId).Progress
      { s with stripe := s.stripe ++ [createRefund s.stripe job id] } := by
  obtain ⟨hrecords, hkind, row, hown⟩ := h
  have hcash : row.kind = .cash := hown.kind.trans hkind
  have hamount : (createRefund s.stripe job id).amountCents = Decimal.cents job.input.amount := by
    simp [createRefund, hcents.1]
  have hsettled := hrecords.settled id row hown.found (by simp)
  refine ⟨row, ⟨hown.found, hown.pending, hown.kind, hown.amount⟩, ?_, fun hentry => ?_, fun _ => ?_⟩
  · apply (hrecords.leaveOut id).stripeRefund hown.found hcash rfl
    rw [hamount]
    exact hcents.2 _ hown.amount
  · have hcompleted := hsettled.1.2 hentry
    rw [hown.pending] at hcompleted
    cases hcompleted
  · exact ⟨_, List.mem_append_right _ (List.mem_singleton_self _), rfl⟩

theorem progress_postLedger {s : RefundState} {job : RefundJob} {id transactionId : Id}
    {stripeId : Option Id} {db' : Db} (h : (RefundThread.postLedger job id stripeId).Progress s)
    (hpost : postTransaction s.db (refundInput job id) = .ok (transactionId, db')) :
    (RefundThread.completeRow job id stripeId transactionId).Progress { s with db := db' } := by
  obtain ⟨row, hown, hrecords, -, hstripe⟩ := h
  obtain ⟨entry, hposted, -, htransactions, -, -, hrefunds⟩ := postTransaction_appends hpost
  refine ⟨row, ⟨hrefunds ▸ hown.found, hown.pending, hown.kind, hown.amount⟩, ?_, ?_, hstripe⟩
  · have hid : id < s.db.refunds.length := (List.getElem?_eq_some_iff.1 hown.found).1
    exact hrecords.postLedger hid hposted.relatedEntityId htransactions hrefunds
  · refine ⟨entry, ?_, hposted.type, hposted.relatedEntityType, hposted.relatedEntityId⟩
    rw [htransactions]
    exact List.mem_append_right _ (List.mem_singleton_self _)

theorem records_of_postLedger {s : RefundState} {job : RefundJob} {id : Id} {stripeId : Option Id}
    (h : (RefundThread.postLedger job id stripeId).Progress s)
    (hkind : job.input.kind = .walletCredit) : RefundRecords none 0 s := by
  obtain ⟨row, hown, hrecords, hentry, -⟩ := h
  have hcredit : row.kind ≠ .cash := by simp [hown.kind, hkind]
  rw [inFlightMicros_eq_zero hcredit] at hrecords
  exact hrecords.takeIn fun _ hother => hown.settled hentry hcredit hother

theorem records_of_completeRow {s : RefundState} {job : RefundJob} {id transactionId : Id}
    {stripeId : Option Id} (hbooks : RefundBooks s.db)
    (h : (RefundThread.completeRow job id stripeId transactionId).Progress s) :
    RefundRecords none 0 { s with db := s.db.updateRefund id fun row =>
      { row with
        status := .completed
        stripeRefundId := stripeId
        transactionId := some transactionId } } := by
  obtain ⟨row, hown, hrecords, hentry, hstripe⟩ := h
  refine hrecords.updateRefund (Or.inr rfl) (fun _ => rfl) (fun other hother => ?_)
    (fun other hother purchaseId => ?_) fun hnone => ?_
  · obtain rfl := Option.some.inj (hown.found.symm.trans hother)
    exact ⟨iff_of_true rfl hentry, fun hcash => iff_of_true rfl (hstripe hcash)⟩
  · obtain rfl := Option.some.inj (hown.found.symm.trans hother)
    have hnonneg := hbooks.nonneg row (List.mem_of_getElem? hown.found)
    simp only [isCompletedRefundOf, hown.pending, inFlightMicros, Bool.and_eq_true, beq_iff_eq,
      reduceCtorEq, and_false, and_true, if_false, zero_add, Pi.zero_apply, add_zero]
    split_ifs with hcash hpurchase
    · exact le_rfl
    · exact absurd hcash.2 hpurchase
    · exact hnonneg
    · exact le_rfl
  · rw [hown.found] at hnone
    cases hnone

theorem records_of_failRow {s : RefundState} {id : Id} (h : RefundRecords none 0 s)
    (hopen : ∀ row ∈ s.db.refunds[id]?, row.status ≠ .completed) :
    RefundRecords none 0
      { s with db := s.db.updateRefund id fun row => { row with status := .failed } } := by
  refine h.updateRefund (Or.inl rfl) (fun _ => rfl) (fun row hrow => ?_)
    (fun row hrow purchaseId => ?_) fun _ => rfl
  · have hsettled := h.settled id row hrow (by simp)
    have hstatus := hopen row hrow
    refine ⟨iff_of_false (by simp) fun hentry => hstatus (hsettled.1.2 hentry), fun hkind => ?_⟩
    exact iff_of_false (by simp) fun hstripe => hstatus ((hsettled.2 hkind).2 hstripe)
  · simp [isCompletedRefundOf, hopen row hrow]

theorem RefundThread.Progress.capStillHolds {s : RefundState} {thread : RefundThread}
    (h : thread.Progress s) : thread.capStillHolds s.db = true := by
  cases thread with
  | createRow job => exact h.2
  | _ => rfl

/-- A step whose failure is clean keeps the records as far as the request has come. -/
theorem RefundThread.Progress.advance {s : RefundState} {thread : RefundThread} {fault : Fault}
    (h : thread.Progress s) (hbooks : RefundBooks s.db) (hasserts : thread.Asserts s.db)
    (hclean : thread.FailsCleanly s fault) :
    (thread.advance s fault).2.Progress (thread.advance s fault).1 := by
  cases thread with
  | openWallet adminId input =>
    rcases hlock : lockWalletByTenant s.db input.tenantId with ⟨db', walletId, wallet⟩
    have htouched : Touched s.db input.tenantId db' := (lockWalletByTenant_spec hlock).1
    have hrefunds : db'.refunds = s.db.refunds := by
      rcases htouched with h | ⟨-, h⟩ <;> rw [h]
    have htransactions : db'.transactions = s.db.transactions := by
      rcases htouched with h | ⟨-, h⟩ <;> rw [h]
    have hrecords : RefundRecords none 0 { s with db := db' } :=
      RefundRecords.congr h hrefunds rfl (HasRefundEntry.of_transactions htransactions)
    simp only [RefundThread.advance, getOrCreateWallet, hlock]
    apply attempt_rule (P := fun s t => t.Progress s)
    · intro _
      cases input.purchaseId with
      | some id => exact hrecords
      | none =>
        apply progress_startJob hrecords
        intro job hjob
        obtain ⟨-, hnone⟩ := prepareJobWithoutPurchase_eq_ok hjob
        simp [RefundThread.capStillHolds, hnone]
    · exact fun _ => h
    · exact fun _ => hrecords
  | readPurchase adminId input walletId id =>
    apply attempt_rule (P := fun s t => t.Progress s)
    · intro _
      split <;> exact h
    · exact fun _ => h
    · exact fun _ => h
  | aggregate adminId input walletId id purchase =>
    apply attempt_rule (P := fun s t => t.Progress s)
    · intro _
      apply progress_startJob h
      intro job hjob
      obtain ⟨hcheck, rfl, hpurchase⟩ := prepareJob_eq_ok hjob
      simp only [RefundThread.capStillHolds, hasserts.2.1, hpurchase, hcheck]
      rfl
    · exact fun _ => h
    · exact fun _ => h
  | createRow job =>
    cases hcolumn : column job.input.amount with
    | error e =>
      simp only [RefundThread.advance, hcolumn]
      exact h.1
    | ok amount =>
      simp only [RefundThread.advance, hcolumn]
      apply attempt_rule (P := fun s t => t.Progress s)
      · exact fun _ => progress_createRow h.1 (column_eq_ok.1 hcolumn)
      · exact fun _ => h.1
      · exact fun _ => h.1.createRow _ rfl
  | stripeRefund job id =>
    apply attempt_rule (P := fun s t => t.Progress s)
    · exact fun hok => progress_stripeRefund h (hclean.2 hok) _
    · exact fun _ => h.1
    · exact fun hlost => absurd hlost hclean.1
  | postLedger job id stripeId =>
    cases hpost : postTransaction s.db (refundInput job id) with
    | error e =>
      simp only [RefundThread.advance, hpost]
      cases hkind : job.input.kind with
      | cash =>
        have hposted := (hclean.1 hkind).2
        rw [hpost] at hposted
        cases hposted
      | walletCredit => exact records_of_postLedger h hkind
    | ok result =>
      obtain ⟨transactionId, db'⟩ := result
      simp only [RefundThread.advance, hpost]
      cases hkind : job.input.kind with
      | cash =>
        obtain ⟨rfl, -⟩ := hclean.1 hkind
        exact progress_postLedger h hpost
      | walletCredit =>
        apply attempt_rule (P := fun s t => t.Progress s)
        · exact fun _ => progress_postLedger h hpost
        · exact fun _ => records_of_postLedger h hkind
        · exact fun hlost => absurd hlost (hclean.2 hkind (by rw [hpost]; rfl))
  | completeRow job id stripeId transactionId =>
    have hrecords := records_of_completeRow hbooks h
    apply attempt_rule (P := fun s t => t.Progress s)
    · intro _
      split <;> exact hrecords
    · exact fun hfailed => absurd hfailed hclean
    · exact fun _ => hrecords
  | markPurchase id purchaseId =>
    have hrecords : RefundRecords none 0
        { s with db := s.db.updatePurchase purchaseId fun row => { row with status := .refunded } } :=
      RefundRecords.congr h rfl rfl (HasRefundEntry.of_transactions rfl)
    apply attempt_rule (P := fun s t => t.Progress s)
    · exact fun _ => hrecords
    · exact fun _ => h
    · exact fun _ => hrecords
  | failRow id error =>
    have hrecords : fault ≠ .failed → RefundRecords none 0
        { s with db := s.db.updateRefund id fun row => { row with status := .failed } } :=
      fun hfault => records_of_failRow h (hclean.resolve_left hfault)
    apply attempt_rule (P := fun s t => t.Progress s)
    · exact fun hok => hrecords (by simp [hok])
    · exact fun _ => h
    · exact fun hlost => hrecords (by simp [hlost])
  | returned id => exact h
  | thrown error => exact h

/-- Nothing but a refund request posts a REFUND entry. -/
theorem otherActivity_hasRefundEntry (s : RefundState) (call : WalletCall) (id : Id) :
    (otherActivity s call).db.HasRefundEntry id ↔ s.db.HasRefundEntry id := by
  unfold otherActivity
  split_ifs with hrefund
  · rfl
  change (WalletCall.next s.db call).HasRefundEntry id ↔ _
  have happend : ∀ {db' : Db} {row : AiWalletTransaction}, row.type ≠ .refund →
      db'.transactions = s.db.transactions ++ [row] →
      (db'.HasRefundEntry id ↔ s.db.HasRefundEntry id) := by
    intro db' row htype htransactions
    rw [Db.HasRefundEntry, Db.HasRefundEntry, htransactions]
    simp only [List.mem_append, List.mem_singleton]
    constructor
    · rintro ⟨entry, hentry | rfl, hfacts⟩
      · exact ⟨entry, hentry, hfacts⟩
      · exact absurd hfacts.1 htype
    · rintro ⟨entry, hentry, hfacts⟩
      exact ⟨entry, Or.inl hentry, hfacts⟩
  apply WalletCall.next_preserves (I := fun db => db.HasRefundEntry id ↔ s.db.HasRefundEntry id)
    Iff.rfl
  case touch =>
    rintro tenantId db' (rfl | ⟨-, rfl⟩)
    · rfl
    · exact HasRefundEntry.of_transactions rfl id
  case settings => exact fun _ h => (HasRefundEntry.of_transactions rfl id).trans h
  case create => exact fun _ h => (HasRefundEntry.of_transactions rfl id).trans h
  case update => exact fun _ h => (HasRefundEntry.of_transactions rfl id).trans h
  case post =>
    intro input posted db' hinput _ hpost
    obtain ⟨row, hposted, -, htransactions, -⟩ := postTransaction_appends hpost
    refine happend ?_ htransactions
    rw [hposted.type]
    rcases hinput with rfl | ⟨htype, -⟩
    · simpa [WalletCall.postsRefund] using hrefund
    · simp [htype]
  case reserve =>
    intro now input reserved db' _ hreserve
    obtain ⟨locked, walletId, wallet, amount, held, hlock, -, -, -, -, -, -, rfl⟩ :=
      reserveCredits_cases hreserve
    have htouched : Touched s.db input.tenantId locked := (lockWalletByTenant_spec hlock).1
    rcases htouched with rfl | ⟨-, rfl⟩ <;> exact HasRefundEntry.of_transactions rfl id
  case finalize =>
    intro now reservationId charge context transaction db' _ hfinalize
    obtain ⟨reservation, wallet, reserved, -, -, -, -, -, hcases⟩ :=
      finalizeReservation_cases hfinalize
    rcases hcases with ⟨-, -, rfl⟩ | ⟨-, posted, -, happlied⟩
    · exact HasRefundEntry.of_transactions rfl id
    · obtain ⟨amount, after, aggregates, status, -, -, -, -, rfl⟩ := happlied.writes
      exact happend (by simp [usageInput]) rfl
  case release =>
    intro db db' now reservationId status _ h hrelease
    obtain ⟨reservation, -, ⟨-, rfl⟩ | ⟨-, wallet, reserved, -, -, rfl⟩⟩ :=
      releaseReservation_cases hrelease
    · exact h
    · exact (HasRefundEntry.of_transactions rfl id).trans h

/-- What holds between any two steps of a sequence of requests. -/
structure SequenceBooks (seq : RefundSequence) : Prop where
  books : RefundBooks seq.shared.db
  progress : ∀ thread ∈ seq.current, thread.Asserts seq.shared.db ∧ thread.Progress seq.shared
  records : seq.current = none → RefundRecords none 0 seq.shared

theorem SequenceBooks.records_of_idle {seq : RefundSequence} (h : SequenceBooks seq)
    (hidle : seq.idle) : RefundRecords none 0 seq.shared := by
  cases hcurrent : seq.current with
  | none => exact h.records hcurrent
  | some thread =>
    obtain ⟨-, hprogress⟩ := h.progress thread hcurrent
    simp only [RefundSequence.idle, hcurrent, Option.all_some] at hidle
    cases thread <;> first | exact hprogress | cases hidle

instance (s : RefundState) (fault : Fault) :
    (thread : RefundThread) → Decidable (thread.FailsCleanly s fault)
  | .stripeRefund job _ => inferInstanceAs (Decidable (fault ≠ .lost ∧
      (fault = .ok → Decimal.cents job.input.amount ≠ 0 ∧
        ∀ stored ∈ Numeric.store job.input.amount,
          Decimal.cents job.input.amount * microsPerCent ≤ stored.micros)))
  | .postLedger job id _ => inferInstanceAs (Decidable (
      (job.input.kind = .cash →
        fault = .ok ∧ (postTransaction s.db (refundInput job id)).toBool) ∧
      (job.input.kind = .walletCredit →
        (postTransaction s.db (refundInput job id)).toBool → fault ≠ .lost)))
  | .completeRow .. => inferInstanceAs (Decidable (fault ≠ .failed))
  | .failRow id _ => inferInstanceAs (Decidable (fault = .failed ∨
      ∀ row ∈ s.db.refunds[id]?, row.status ≠ .completed))
  | .openWallet .. => inferInstanceAs (Decidable True)
  | .readPurchase .. => inferInstanceAs (Decidable True)
  | .aggregate .. => inferInstanceAs (Decidable True)
  | .createRow _ => inferInstanceAs (Decidable True)
  | .markPurchase .. => inferInstanceAs (Decidable True)
  | .returned _ => inferInstanceAs (Decidable True)
  | .thrown _ => inferInstanceAs (Decidable True)

/-- Every failure of a step is clean. -/
def RefundSequence.FailsCleanly (seq : RefundSequence) : RefundEvent → Prop
  | .step fault => ∀ thread ∈ seq.current, thread.FailsCleanly seq.shared fault
  | _ => True

instance (seq : RefundSequence) : (event : RefundEvent) → Decidable (seq.FailsCleanly event)
  | .begin _ => inferInstanceAs (Decidable True)
  | .step fault => inferInstanceAs
      (Decidable (∀ thread ∈ seq.current, thread.FailsCleanly seq.shared fault))
  | .other _ => inferInstanceAs (Decidable True)

theorem RefundCall.start_progress (call : RefundCall) {s : RefundState}
    (h : RefundRecords none 0 s) : call.start.Asserts s.db ∧ call.start.Progress s := by
  cases hvalid : validateRefund call.input with
  | error e =>
    simp only [RefundCall.start, hvalid]
    exact ⟨trivial, h⟩
  | ok u =>
    simp only [RefundCall.start, hvalid]
    simp only [validateRefund, bind_eq_ok, throwIf_eq_ok] at hvalid
    obtain ⟨-, hpos, -⟩ := hvalid
    exact ⟨not_le.1 hpos, h⟩

theorem RefundThread.Progress.otherActivity {s : RefundState} {thread : RefundThread}
    (h : thread.Progress s) (call : WalletCall) : thread.Progress (otherActivity s call) := by
  have hrefunds := (otherActivity_effect s call).refunds
  have hstripe : (Forecast.otherActivity s call).stripe = s.stripe := by
    unfold Forecast.otherActivity
    split_ifs <;> rfl
  have hentries := otherActivity_hasRefundEntry s call
  have hrecords : ∀ {own inFlight}, RefundRecords own inFlight s →
      RefundRecords own inFlight (Forecast.otherActivity s call) :=
    fun h => h.congr hrefunds hstripe hentries
  have hown : ∀ {job id row}, OwnRow s job id row →
      OwnRow (Forecast.otherActivity s call) job id row :=
    fun h => ⟨hrefunds ▸ h.found, h.pending, h.kind, h.amount⟩
  have hsent : ∀ id, s.HasStripeRefund id → (Forecast.otherActivity s call).HasStripeRefund id := by
    intro id h
    rwa [RefundState.HasStripeRefund, hstripe]
  cases thread with
  | createRow job =>
    refine ⟨hrecords h.1, ?_⟩
    have hsum : refundedSoFar (Forecast.otherActivity s call).db = refundedSoFar s.db := by
      funext id
      rw [refundedSoFar, hrefunds, refundedSoFar]
    have hcap := h.2
    simp only [RefundThread.capStillHolds, hsum] at hcap ⊢
    exact hcap
  | stripeRefund job id =>
    obtain ⟨hold, hkind, row, hrow⟩ := h
    exact ⟨hrecords hold, hkind, row, hown hrow⟩
  | postLedger job id stripeId =>
    obtain ⟨row, hrow, hold, hentry, hpaid⟩ := h
    exact ⟨row, hown hrow, hrecords hold, fun hnew => hentry ((hentries id).1 hnew),
      fun hcash => hsent id (hpaid hcash)⟩
  | completeRow job id stripeId transactionId =>
    obtain ⟨row, hrow, hold, hentry, hpaid⟩ := h
    exact ⟨row, hown hrow, hrecords hold, (hentries id).2 hentry, fun hcash => hsent id (hpaid hcash)⟩
  | _ => exact hrecords h

theorem SequenceBooks.next {seq : RefundSequence} {event : RefundEvent} (h : SequenceBooks seq)
    (hclean : seq.FailsCleanly event) : SequenceBooks (seq.next event) := by
  cases event with
  | begin call =>
    by_cases hidle : seq.idle
    · simp only [RefundSequence.next, hidle, if_true]
      refine ⟨h.books, fun thread hthread => ?_, fun hnone => by cases hnone⟩
      obtain rfl := Option.some.inj hthread
      exact call.start_progress (h.records_of_idle hidle)
    · simpa only [RefundSequence.next, hidle, Bool.false_eq_true, if_false] using h
  | step fault =>
    cases hcurrent : seq.current with
    | none => simpa only [RefundSequence.next, hcurrent] using h
    | some thread =>
      obtain ⟨hasserts, hprogress⟩ := h.progress thread hcurrent
      have hstep := refundStep_advance fault h.books hasserts
        fun _ => hprogress.capStillHolds
      simp only [RefundSequence.next, hcurrent]
      refine ⟨hstep.books, fun next hnext => ?_, fun hnone => by cases hnone⟩
      obtain rfl := Option.some.inj hnext
      exact ⟨hstep.asserts, hprogress.advance h.books hasserts (hclean thread hcurrent)⟩
  | other call =>
    have heffect : OtherEffect seq.shared.db (otherActivity seq.shared call).db :=
      otherActivity_effect seq.shared call
    refine ⟨h.books.otherEffect heffect, fun thread hthread => ?_, fun hnone => ?_⟩
    · obtain ⟨hasserts, hprogress⟩ := h.progress thread hthread
      exact ⟨heffect.frame.asserts hasserts fun _ _ => Option.some_ne_none _ ∘ Eq.symm,
        hprogress.otherActivity call⟩
    · have hended : RefundThread.Progress seq.shared (.returned 0) := h.records hnone
      exact hended.otherActivity call

theorem sequenceBooks_init : SequenceBooks RefundSequence.init :=
  ⟨refundBooks_empty, fun _ h => (Option.some_ne_none _ h.symm).elim, fun _ => refundRecords_empty⟩

/-- COMPLETED refunds count against the cap. -/
theorem completed_le_active {db : Db} (hbooks : RefundBooks db) (purchaseId : Id) :
    db.completedRefundMicros purchaseId ≤ db.activeRefundMicros purchaseId := by
  apply total_mono
  intro row hrow
  have hnonneg := hbooks.nonneg row hrow
  split_ifs with hcompleted hactive
  · exact le_rfl
  · simp only [isCompletedRefundOf, isActiveRefundOf, Bool.and_eq_true, Bool.or_eq_true,
      beq_iff_eq] at hcompleted hactive
    exact absurd ⟨hcompleted.1, Or.inl hcompleted.2⟩ hactive
  · exact hnonneg
  · exact le_rfl

def AiRefund.asCompleted (row : AiRefund) : AiRefund := { row with status := .completed }

/-- So does the row under way, which is PENDING. -/
theorem completed_add_inFlight_le {db : Db} (hbooks : RefundBooks db) {id : Id} {row : AiRefund}
    (hrow : db.refunds[id]? = some row) (hpending : row.status = .pending) (purchaseId : Id) :
    db.completedRefundMicros purchaseId + inFlightMicros row purchaseId ≤
      db.activeRefundMicros purchaseId := by
  -- compare the totals as if the row were COMPLETED already
  have hbooks' : RefundBooks (db.updateRefund id AiRefund.asCompleted) := by
    refine hbooks.updateRefund id (f := AiRefund.asCompleted) (fun _ => rfl) (fun _ => rfl) ?_
    intro other hother purchaseId hactive
    obtain rfl := Option.some.inj (hrow.symm.trans hother)
    simp only [isActiveRefundOf, AiRefund.asCompleted, hpending, Bool.and_eq_true] at hactive ⊢
    exact ⟨hactive.1, rfl⟩
  have hle := completed_le_active hbooks' purchaseId
  have hnonneg := hbooks.nonneg row (List.mem_of_getElem? hrow)
  rw [Db.completedRefundMicros, Db.activeRefundMicros, Db.updateRefund,
    total_modify _ _ AiRefund.asCompleted hrow, total_modify_eq _ _ AiRefund.asCompleted hrow] at hle
  · change db.completedRefundMicros purchaseId + _ ≤ db.activeRefundMicros purchaseId at hle
    refine le_trans ?_ hle
    simp only [isCompletedRefundOf, AiRefund.asCompleted, hpending, inFlightMicros, Bool.and_eq_true,
      beq_iff_eq, reduceCtorEq, and_false, and_true, if_false, sub_zero]
    split_ifs with hcash hpurchase
    · exact le_rfl
    · exact absurd hcash.2 hpurchase
    · omega
    · exact le_rfl
  · simp [isActiveRefundOf, AiRefund.asCompleted, hpending]

theorem SequenceBooks.laws {seq : RefundSequence} (h : SequenceBooks seq) : RefundLaws seq := by
  refine ⟨fun hidle id row hrow => (h.records_of_idle hidle).settled id row hrow (by simp),
    fun id row hrow => ?_⟩
  have hcap := h.books.cap id row hrow
  have hquiet : RefundRecords none 0 seq.shared →
      seq.shared.cashSentBack id * microsPerCent ≤ row.amount.micros := fun hrecords => by
    have hcash := hrecords.cash id
    rw [Pi.zero_apply, add_zero] at hcash
    exact (hcash.trans (completed_le_active h.books id)).trans hcap
  have hopen : ∀ {own job refund}, OwnRow seq.shared job own refund →
      RefundRecords (some own) (inFlightMicros refund) seq.shared →
      seq.shared.cashSentBack id * microsPerCent ≤ row.amount.micros := fun hown hrecords =>
    ((hrecords.cash id).trans (completed_add_inFlight_le h.books hown.found hown.pending id)).trans
      hcap
  cases hcurrent : seq.current with
  | none => exact hquiet (h.records hcurrent)
  | some thread =>
    obtain ⟨-, hprogress⟩ := h.progress thread hcurrent
    cases thread with
    | createRow job => exact hquiet hprogress.1
    | stripeRefund job own => exact hquiet hprogress.1
    | postLedger job own stripeId =>
      obtain ⟨refund, hown, hrecords, -⟩ := hprogress
      exact hopen hown hrecords
    | completeRow job own stripeId transactionId =>
      obtain ⟨refund, hown, hrecords, -⟩ := hprogress
      exact hopen hown hrecords
    | _ => exact hquiet hprogress

/-- In every sequence of requests whose failures are clean, each refund row is settled when no
request is under way, and the cash sent back stays within the purchase at all times. -/
theorem refundLaws_of_failsCleanly {events : List RefundEvent}
    (h : Always RefundSequence.next RefundSequence.FailsCleanly RefundSequence.init events)
    (k : ℕ) : RefundLaws (stateAt RefundSequence.next RefundSequence.init events k) :=
  (h.invariant_at (I := SequenceBooks) (fun _ _ => SequenceBooks.next) sequenceBooks_init k).laws

def cardPurchaseOfTen : List RefundEvent :=
  [.other (.createPurchase 0 3 7 .stripe 10),
    .other (.completePurchase 1 0 { stripePaymentIntentId := some (some "pi_1") })]

def refundEvent (kind : AiRefundKind) (amount : Decimal) : RefundEvent :=
  .begin ⟨9,
    { tenantId := 3
      amount := amount
      kind := kind
      reason := "goodwill"
      purchaseId := some 0 }⟩

def refundsThatFailCleanly : List RefundEvent :=
  cardPurchaseOfTen ++
    refundEvent .cash 4 :: List.replicate 7 (.step .ok) ++
    refundEvent .walletCredit 3 ::
      [.step .ok, .step .ok, .step .ok, .step .ok, .step .failed, .step .ok]

theorem refundLaws_of_refundsThatFailCleanly :
    RefundLaws (run RefundSequence.next RefundSequence.init refundsThatFailCleanly) := by
  have hgood : Always RefundSequence.next RefundSequence.FailsCleanly RefundSequence.init
      refundsThatFailCleanly := by decide +kernel
  have h := refundLaws_of_failsCleanly hgood refundsThatFailCleanly.length
  rwa [stateAt_length] at h

/-- The ledger entry is posted and the row's final update fails. -/
def refundThatLosesItsRecord : List RefundEvent :=
  cardPurchaseOfTen ++
    refundEvent .cash 4 :: [.step .ok, .step .ok, .step .ok, .step .ok, .step .ok, .step .ok,
      .step .failed, .step .ok]

theorem not_refundLaws_refundThatLosesItsRecord :
    ¬ RefundLaws (run RefundSequence.next RefundSequence.init refundThatLosesItsRecord) := by
  have hidle : (run RefundSequence.next RefundSequence.init refundThatLosesItsRecord).idle = true := by
    decide +kernel
  have hstatus : ((run RefundSequence.next RefundSequence.init
      refundThatLosesItsRecord).shared.db.refunds[0]?.map fun row => row.status) = some .failed := by
    decide +kernel
  have hentry : ((run RefundSequence.next RefundSequence.init
      refundThatLosesItsRecord).shared.db.transactions[1]?.map fun row =>
        (row.type, row.relatedEntityType, row.relatedEntityId)) =
      some (.refund, some "ai_refund", some 0) := by decide +kernel
  intro h
  cases hrow : (run RefundSequence.next RefundSequence.init
      refundThatLosesItsRecord).shared.db.refunds[0]? with
  | none => simp [hrow] at hstatus
  | some row =>
    obtain ⟨entry, hget, hfacts⟩ := Option.map_eq_some_iff.1 hentry
    obtain ⟨htype, hentity, hid⟩ := by simpa only [Prod.mk.injEq] using hfacts
    have hcompleted := (h.settled hidle 0 row hrow).1.2
      ⟨entry, List.mem_of_getElem? hget, htype, hentity, hid⟩
    simp [hrow, hcompleted] at hstatus

end Forecast
