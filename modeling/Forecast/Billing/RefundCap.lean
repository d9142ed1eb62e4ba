import Forecast.Billing.RefundActors

/-!
# The cumulative cap on refunds

The cap is checked on an aggregate that was read before the refund row is
created. The PENDING and COMPLETED refunds of a purchase stay within its amount
in every interleaving in which the check would still pass at the creation.
-/

namespace Forecast

open RowTable Runs ThreadPool

/-- The refunds that count against a purchase. -/
def Db.activeRefundsOf (db : Db) (purchaseId : Id) : List AiRefund :=
  db.refunds.filter (isActiveRefundOf purchaseId)

/-- What they add up to, in micros. -/
def Db.activeRefundMicros (db : Db) (purchaseId : Id) : ℤ :=
  total (isActiveRefundOf purchaseId) (fun row => row.amount.micros) db.refunds

theorem refundedSoFar_eq (db : Db) (purchaseId : Id) :
    refundedSoFar db purchaseId = db.activeRefundMicros purchaseId / microsPerUnit := by
  unfold refundedSoFar Db.activeRefundMicros
  induction db.refunds with
  | nil => simp
  | cons row rows ih =>
    rw [total_cons, total_cons, ih]
    split_ifs
    · rw [Numeric.toDecimal]
      push_cast
      ring
    · simp

/-- The refunds of every purchase stay within its amount. -/
structure RefundBooks (db : Db) : Prop where
  cap : ∀ (id : Id) (row : AiCreditPurchase), db.purchases[id]? = some row →
    db.activeRefundMicros id ≤ row.amount.micros
  nonneg : ∀ row ∈ db.refunds, 0 ≤ row.amount.micros
  owned : ∀ row ∈ db.refunds, ∀ id : Id, row.purchaseId = some id → id < db.purchases.length

theorem refundBooks_empty : RefundBooks Db.empty :=
  ⟨fun _ _ h => by simp [Db.empty] at h, fun _ h => by simp [Db.empty] at h,
    fun _ h => by simp [Db.empty] at h⟩

theorem RefundBooks.activeRefundMicros_nonneg {db : Db} (h : RefundBooks db) (id : Id) :
    0 ≤ db.activeRefundMicros id := by
  apply List.sum_nonneg
  intro x hx
  obtain ⟨row, hrow, rfl⟩ := List.mem_map.1 hx
  exact h.nonneg row (List.mem_of_mem_filter hrow)

/-- A check that passes leaves room for the amount as its column stores it. -/
theorem RefundBooks.stored_le_of_checkCap {db : Db} (h : RefundBooks db) {id : Id}
    {purchase row : AiCreditPurchase} (hrow : db.purchases[id]? = some row)
    (hamount : row.amount = purchase.amount) {amount : Decimal} {stored : Numeric} {u : Unit}
    (hcheck : checkCap purchase (refundedSoFar db id) amount = .ok u)
    (hstored : Numeric.store amount = some stored) :
    stored.micros + db.activeRefundMicros id ≤ row.amount.micros := by
  have hcap := h.cap id row hrow
  have hnonneg := h.activeRefundMicros_nonneg id
  have hbound := abs_lt.1 row.amount.bound
  have hdiff : |row.amount.micros - db.activeRefundMicros id| < 10 ^ 20 := by
    rw [abs_lt]
    norm_num at hbound ⊢
    omega
  rw [checkCap, throwIf_eq_ok, refundedSoFar_eq, ← hamount, Numeric.toDecimal,
    minus_micros hdiff, not_lt] at hcheck
  have hmicros : amount * microsPerUnit ≤
      ((row.amount.micros - db.activeRefundMicros id : ℤ) : ℚ) := by
    rwa [← le_div_iff₀ (by norm_num [microsPerUnit])]
  have hround := GridRounding.roundHalfAway_mono hmicros
  rw [GridRounding.roundHalfAway_intCast, ← Numeric.store_eq_some_iff.1 hstored] at hround
  omega

/-- The refund row a request works on. -/
def RefundThread.refundId? : RefundThread → Option Id
  | stripeRefund _ id => some id
  | postLedger _ id _ => some id
  | completeRow _ id _ _ => some id
  | markPurchase id _ => some id
  | failRow id _ => some id
  | _ => none

/-- A purchase row with the amount of the one that was read. -/
def HasTerms (db : Db) (id : Id) (purchase : AiCreditPurchase) : Prop :=
  ∃ row, db.purchases[id]? = some row ∧ row.amount = purchase.amount

def LiveRefund (db : Db) (id : Id) : Prop :=
  ∃ row, db.refunds[id]? = some row ∧ row.status ≠ .failed

/-- What a request knows of the database at each point. -/
def RefundThread.Asserts (db : Db) : RefundThread → Prop
  | openWallet _ input => 0 < input.amount
  | readPurchase _ input _ id => 0 < input.amount ∧ input.purchaseId = some id
  | aggregate _ input _ id purchase =>
    0 < input.amount ∧ input.purchaseId = some id ∧ HasTerms db id purchase
  | createRow job =>
    0 < job.input.amount ∧ ∀ id, job.input.purchaseId = some id →
      ∃ purchase, job.purchase = some purchase ∧ HasTerms db id purchase
  | stripeRefund _ id => LiveRefund db id
  | postLedger _ id _ => LiveRefund db id
  | completeRow _ id _ _ => LiveRefund db id
  | markPurchase id _ => id < db.refunds.length
  | failRow id _ => id < db.refunds.length
  | returned _ => True
  | thrown _ => True

/-- A change that keeps what every request knows except the one that works on row `own`. -/
structure RefundFrame (own : Option Id) (db db' : Db) : Prop where
  terms : ∀ (id : Id) (row : AiCreditPurchase), db.purchases[id]? = some row →
    ∃ row', db'.purchases[id]? = some row' ∧ row'.amount = row.amount
  refunds : ∀ (id : Id) (row : AiRefund), db.refunds[id]? = some row → own ≠ some id →
    db'.refunds[id]? = some row
  length : db.refunds.length ≤ db'.refunds.length

theorem RefundFrame.refl (own : Option Id) (db : Db) : RefundFrame own db db :=
  ⟨fun _ row hrow => ⟨row, hrow, rfl⟩, fun _ _ hrow _ => hrow, le_rfl⟩

theorem RefundFrame.hasTerms {own : Option Id} {db db' : Db} (h : RefundFrame own db db') {id : Id}
    {purchase : AiCreditPurchase} (hterms : HasTerms db id purchase) :
    HasTerms db' id purchase := by
  obtain ⟨row, hrow, hamount⟩ := hterms
  obtain ⟨row', hrow', hamount'⟩ := h.terms id row hrow
  exact ⟨row', hrow', hamount'.trans hamount⟩

theorem RefundFrame.liveRefund {own : Option Id} {db db' : Db} (h : RefundFrame own db db')
    {id : Id} (hlive : LiveRefund db id) (hown : own ≠ some id) : LiveRefund db' id := by
  obtain ⟨row, hrow, hstatus⟩ := hlive
  exact ⟨row, h.refunds id row hrow hown, hstatus⟩

/-- Another request's step leaves a request's knowledge alone. -/
theorem RefundFrame.asserts {own : Option Id} {db db' : Db} (h : RefundFrame own db db')
    {thread : RefundThread} (hasserts : thread.Asserts db)
    (hown : ∀ id, thread.refundId? = some id → own ≠ some id) : thread.Asserts db' := by
  cases thread with
  | openWallet adminId input => exact hasserts
  | readPurchase adminId input walletId id => exact hasserts
  | aggregate adminId input walletId id purchase =>
    exact ⟨hasserts.1, hasserts.2.1, h.hasTerms hasserts.2.2⟩
  | createRow job =>
    refine ⟨hasserts.1, fun id hid => ?_⟩
    obtain ⟨purchase, hpurchase, hterms⟩ := hasserts.2 id hid
    exact ⟨purchase, hpurchase, h.hasTerms hterms⟩
  | stripeRefund job id => exact h.liveRefund hasserts (hown id rfl)
  | postLedger job id stripeId => exact h.liveRefund hasserts (hown id rfl)
  | completeRow job id stripeId transactionId => exact h.liveRefund hasserts (hown id rfl)
  | markPurchase id purchaseId => exact lt_of_lt_of_le hasserts h.length
  | failRow id error => exact lt_of_lt_of_le hasserts h.length
  | returned id => trivial
  | thrown error => trivial

theorem RefundThread.Asserts.lt_length {db : Db} {thread : RefundThread} (h : thread.Asserts db)
    {id : Id} (hid : thread.refundId? = some id) : id < db.refunds.length := by
  have hlive : ∀ {id}, LiveRefund db id → id < db.refunds.length := by
    rintro id ⟨row, hrow, -⟩
    exact (List.getElem?_eq_some_iff.1 hrow).1
  cases thread <;> simp only [refundId?, Option.some.injEq, reduceCtorEq] at hid
  case stripeRefund => exact hid ▸ hlive h
  case postLedger => exact hid ▸ hlive h
  case completeRow => exact hid ▸ hlive h
  case markPurchase => exact hid ▸ h
  case failRow => exact hid ▸ h

theorem RefundBooks.of_same {db db' : Db} (h : RefundBooks db)
    (hpurchases : db'.purchases = db.purchases) (hrefunds : db'.refunds = db.refunds) :
    RefundBooks db' := by
  refine ⟨fun id row hrow => ?_, ?_, ?_⟩
  · rw [Db.activeRefundMicros, hrefunds]
    exact h.cap id row (hpurchases ▸ hrow)
  · rw [hrefunds]
    exact h.nonneg
  · rw [hrefunds, hpurchases]
    exact h.owned

theorem refundFrame_of_same {db db' : Db} (own : Option Id)
    (hpurchases : db'.purchases = db.purchases) (hrefunds : db'.refunds = db.refunds) :
    RefundFrame own db db' := by
  refine ⟨fun id row hrow => ⟨row, hpurchases ▸ hrow, rfl⟩, fun id row hrow _ => hrefunds ▸ hrow, ?_⟩
  rw [hrefunds]

/-- An update of a refund row's status that does not bring it back to counting. -/
theorem RefundBooks.updateRefund {db : Db} (h : RefundBooks db) (id : Id)
    {f : AiRefund → AiRefund} (hpurchase : ∀ row, (f row).purchaseId = row.purchaseId)
    (hamount : ∀ row, (f row).amount = row.amount)
    (hactive : ∀ row, db.refunds[id]? = some row → ∀ purchaseId,
      isActiveRefundOf purchaseId (f row) → isActiveRefundOf purchaseId row) :
    RefundBooks (db.updateRefund id f) := by
  have hmem : ∀ row' ∈ (db.updateRefund id f).refunds, ∃ row ∈ db.refunds,
      row'.purchaseId = row.purchaseId ∧ row'.amount = row.amount := by
    intro row' hrow'
    obtain ⟨i, hi⟩ := List.mem_iff_getElem?.1 hrow'
    obtain ⟨row, hrow, rfl⟩ := exists_of_getElem?_modify db.refunds f hi
    refine ⟨row, List.mem_of_getElem? hrow, ?_⟩
    split_ifs
    · exact ⟨hpurchase row, hamount row⟩
    · exact ⟨rfl, rfl⟩
  refine ⟨fun purchaseId purchase hget => ?_, fun row' hrow' => ?_, fun row' hrow' => ?_⟩
  · refine le_trans ?_ (h.cap purchaseId purchase hget)
    cases hrow : db.refunds[id]? with
    | none =>
      have hsame : db.refunds.modify id f = db.refunds :=
        List.modify_eq_self (List.getElem?_eq_none_iff.1 hrow)
      rw [Db.activeRefundMicros, Db.updateRefund, hsame]
      rfl
    | some row =>
      have hnonneg := h.nonneg row (List.mem_of_getElem? hrow)
      rw [Db.activeRefundMicros, Db.updateRefund, total_modify _ _ f hrow, hamount]
      have hle := hactive row hrow purchaseId
      change db.activeRefundMicros purchaseId + _ ≤ _
      split_ifs with hnew hold
      · omega
      · exact absurd (hle hnew) hold
      · omega
      · omega
  · obtain ⟨row, hrow, -, heq⟩ := hmem row' hrow'
    rw [heq]
    exact h.nonneg row hrow
  · obtain ⟨row, hrow, heq, -⟩ := hmem row' hrow'
    rw [heq]
    exact h.owned row hrow

theorem refundFrame_updateRefund (db : Db) (id : Id) (f : AiRefund → AiRefund) :
    RefundFrame (some id) db (db.updateRefund id f) := by
  refine ⟨fun otherId row hrow => ⟨row, hrow, rfl⟩, fun otherId row hrow hother => ?_, ?_⟩
  · have hne : id ≠ otherId := fun h => hother (congrArg some h)
    exact (getElem?_modify_of_ne db.refunds f hne).trans hrow
  · exact (List.length_modify ..).ge

/-- A purchase row's status does not enter the cap. -/
theorem RefundBooks.updatePurchase {db : Db} (h : RefundBooks db) (id : Id)
    {f : AiCreditPurchase → AiCreditPurchase} (hamount : ∀ row, (f row).amount = row.amount) :
    RefundBooks (db.updatePurchase id f) := by
  refine ⟨fun otherId row' hrow' => ?_, h.nonneg, fun row hrow otherId hother => ?_⟩
  · obtain ⟨row, hrow, rfl⟩ := exists_of_getElem?_modify db.purchases f hrow'
    have hcap := h.cap otherId row hrow
    split_ifs
    · rw [hamount]
      exact hcap
    · exact hcap
  · have hlt := h.owned row hrow otherId hother
    rwa [Db.updatePurchase, List.length_modify]

theorem refundFrame_updatePurchase (own : Option Id) (db : Db) (id : Id)
    {f : AiCreditPurchase → AiCreditPurchase} (hamount : ∀ row, (f row).amount = row.amount) :
    RefundFrame own db (db.updatePurchase id f) := by
  refine ⟨fun otherId row hrow => ?_, fun _ _ hrow _ => hrow, le_rfl⟩
  refine ⟨_, getElem?_modify_some db.purchases f hrow, ?_⟩
  split_ifs
  · exact hamount row
  · rfl

/-- A new row that still passes the check keeps the cap. -/
theorem RefundBooks.createRow {db : Db} (h : RefundBooks db) {job : RefundJob} {amount : Numeric}
    (hpos : 0 < job.input.amount) (hstored : Numeric.store job.input.amount = some amount)
    (hpurchase : ∀ id, job.input.purchaseId = some id →
      ∃ purchase, job.purchase = some purchase ∧ HasTerms db id purchase ∧
        checkCap purchase (refundedSoFar db id) job.input.amount = .ok ()) :
    RefundBooks { db with refunds := db.refunds ++ [job.row amount] } := by
  refine ⟨fun id row hrow => ?_, fun row hrow => ?_, fun row hrow id hid => ?_⟩
  · change total _ _ (db.refunds ++ [job.row amount]) ≤ _
    rw [total_append_row]
    change db.activeRefundMicros id + _ ≤ _
    split_ifs with hactive
    · have hid : job.input.purchaseId = some id := by
        simp only [isActiveRefundOf, RefundJob.row, Bool.and_eq_true, beq_iff_eq] at hactive
        exact hactive.1
      obtain ⟨purchase, -, ⟨row', hrow', hamount⟩, hcheck⟩ := hpurchase id hid
      obtain rfl := Option.some.inj (hrow.symm.trans hrow')
      have hroom := h.stored_le_of_checkCap hrow hamount hcheck hstored
      change db.activeRefundMicros id + amount.micros ≤ _
      omega
    · rw [add_zero]
      exact h.cap id row hrow
  · rcases List.mem_append.1 hrow with hrow | hrow
    · exact h.nonneg row hrow
    · obtain rfl := List.mem_singleton.1 hrow
      change 0 ≤ amount.micros
      rw [Numeric.store_eq_some_iff.1 hstored]
      exact GridRounding.roundHalfAway_nonneg
        (mul_nonneg hpos.le (by norm_num [microsPerUnit]))
  · rcases List.mem_append.1 hrow with hrow | hrow
    · exact h.owned row hrow id hid
    · obtain rfl := List.mem_singleton.1 hrow
      obtain ⟨purchase, -, ⟨row', hrow', -⟩, -⟩ := hpurchase id hid
      exact (List.getElem?_eq_some_iff.1 hrow').1

theorem refundFrame_createRow (own : Option Id) (db : Db) (row : AiRefund) :
    RefundFrame own db { db with refunds := db.refunds ++ [row] } := by
  refine ⟨fun id old hold => ⟨old, hold, rfl⟩, fun id old hold _ => ?_, ?_⟩
  · exact getElem?_append_row db.refunds row hold
  · simp

/-- What a step of a request leaves behind. -/
structure RefundStep (s : RefundState) (thread : RefundThread) (s' : RefundState)
    (thread' : RefundThread) : Prop where
  books : RefundBooks s'.db
  asserts : thread'.Asserts s'.db
  frame : RefundFrame thread.refundId? s.db s'.db
  fresh : ∀ id, thread'.refundId? = some id →
    thread.refundId? = some id ∨ id = s.db.refunds.length

theorem refundStep_of_same {s s' : RefundState} {thread thread' : RefundThread}
    (hbooks : RefundBooks s.db) (hpurchases : s'.db.purchases = s.db.purchases)
    (hrefunds : s'.db.refunds = s.db.refunds) (hasserts : thread'.Asserts s'.db)
    (hfresh : ∀ id, thread'.refundId? = some id → thread.refundId? = some id) :
    RefundStep s thread s' thread' :=
  ⟨hbooks.of_same hpurchases hrefunds, hasserts, refundFrame_of_same _ hpurchases hrefunds,
    fun id hid => Or.inl (hfresh id hid)⟩

theorem refundStep_thrown {s s' : RefundState} {thread : RefundThread} {error : Thrown}
    (hbooks : RefundBooks s'.db) (hframe : RefundFrame thread.refundId? s.db s'.db) :
    RefundStep s thread s' (.thrown error) :=
  ⟨hbooks, trivial, hframe, fun _ hid => by cases hid⟩

/-- A thread that only read, and continues with what the read allows. -/
theorem refundStep_startJob {s s' : RefundState} {thread : RefundThread}
    {prepared : Except Thrown RefundJob} (hbooks : RefundBooks s.db)
    (hpurchases : s'.db.purchases = s.db.purchases) (hrefunds : s'.db.refunds = s.db.refunds)
    (hjob : ∀ job, prepared = .ok job → (RefundThread.createRow job).Asserts s'.db) :
    RefundStep s thread s' (startJob prepared) := by
  cases prepared with
  | ok job =>
    exact refundStep_of_same hbooks hpurchases hrefunds (hjob job rfl) fun _ hid => by cases hid
  | error e =>
    exact refundStep_of_same hbooks hpurchases hrefunds trivial fun _ hid => by cases hid

theorem prepareJob_eq_ok {db : Db} {adminId walletId purchaseId : Id} {input : RefundInput}
    {purchase : AiCreditPurchase} {job : RefundJob}
    (h : prepareJob db adminId input walletId purchaseId purchase = .ok job) :
    checkCap purchase (refundedSoFar db purchaseId) input.amount = .ok () ∧
      job.input = input ∧ job.purchase = some purchase := by
  simp only [prepareJob, bind_eq_ok, pure_eq_ok] at h
  obtain ⟨u, hcap, v, hcash, rfl⟩ := h
  exact ⟨hcap, rfl, rfl⟩

theorem prepareJobWithoutPurchase_eq_ok {adminId walletId : Id} {input : RefundInput}
    {job : RefundJob} (h : prepareJobWithoutPurchase adminId input walletId = .ok job) :
    job.input = input ∧ job.purchase = none := by
  simp only [prepareJobWithoutPurchase, bind_eq_ok, pure_eq_ok] at h
  obtain ⟨u, hcash, rfl⟩ := h
  exact ⟨rfl, rfl⟩

/-- The check of `create` would pass again when the refund row is about to be created. -/
def RefundThread.capStillHolds (db : Db) : RefundThread → Bool
  | createRow job =>
    match job.input.purchaseId, job.purchase with
    | some id, some purchase =>
      (checkCap purchase (refundedSoFar db id) job.input.amount).toBool
    | _, _ => true
  | _ => true

theorem capStillHolds_createRow {db : Db} {job : RefundJob} {id : Id}
    {purchase : AiCreditPurchase} (h : (RefundThread.createRow job).capStillHolds db = true)
    (hid : job.input.purchaseId = some id) (hpurchase : job.purchase = some purchase) :
    checkCap purchase (refundedSoFar db id) job.input.amount = .ok () := by
  simp only [RefundThread.capStillHolds, hid, hpurchase] at h
  cases hcheck : checkCap purchase (refundedSoFar db id) job.input.amount with
  | error e => simp [hcheck, Except.toBool] at h
  | ok u => rfl

theorem refundStep_advance {s : RefundState} {thread : RefundThread} (fault : Fault)
    (hbooks : RefundBooks s.db) (hasserts : thread.Asserts s.db)
    (hcap : fault ≠ .failed → thread.capStillHolds s.db = true) :
    RefundStep s thread (thread.advance s fault).1 (thread.advance s fault).2 := by
  cases thread with
  | openWallet adminId input =>
    rcases hlock : lockWalletByTenant s.db input.tenantId with ⟨db', walletId, wallet⟩
    have htouched : Touched s.db input.tenantId db' := (lockWalletByTenant_spec hlock).1
    have hpurchases : db'.purchases = s.db.purchases := by
      rcases htouched with h | ⟨-, h⟩ <;> rw [h]
    have hrefunds : db'.refunds = s.db.refunds := by
      rcases htouched with h | ⟨-, h⟩ <;> rw [h]
    simp only [RefundThread.advance, getOrCreateWallet, hlock]
    apply attempt_rule
    · intro _
      cases hpurchase : input.purchaseId with
      | some id =>
        exact refundStep_of_same hbooks hpurchases hrefunds ⟨hasserts, hpurchase⟩
          fun _ hid => by cases hid
      | none =>
        apply refundStep_startJob hbooks hpurchases hrefunds
        intro job hjob
        obtain ⟨rfl, -⟩ := prepareJobWithoutPurchase_eq_ok hjob
        exact ⟨hasserts, fun id hid => by rw [hpurchase] at hid; cases hid⟩
    · intro _
      exact refundStep_thrown hbooks (.refl _ _)
    · intro _
      exact refundStep_thrown (hbooks.of_same hpurchases hrefunds)
        (refundFrame_of_same _ hpurchases hrefunds)
  | readPurchase adminId input walletId id =>
    apply attempt_rule
    · intro _
      split
      · rename_i purchase hfound
        have hrow : s.db.purchases[id]? = some purchase := (Option.filter_eq_some_iff.1 hfound).1
        exact refundStep_of_same hbooks rfl rfl
          ⟨hasserts.1, hasserts.2, purchase, hrow, rfl⟩ fun _ hid => by cases hid
      · exact refundStep_thrown hbooks (.refl _ _)
    · intro _
      exact refundStep_thrown hbooks (.refl _ _)
    · intro _
      exact refundStep_thrown hbooks (.refl _ _)
  | aggregate adminId input walletId id purchase =>
    apply attempt_rule
    · intro _
      apply refundStep_startJob hbooks rfl rfl
      intro job hjob
      obtain ⟨-, rfl, hpurchase⟩ := prepareJob_eq_ok hjob
      refine ⟨hasserts.1, fun otherId hother => ⟨purchase, hpurchase, ?_⟩⟩
      obtain rfl := Option.some.inj (hasserts.2.1.symm.trans hother)
      exact hasserts.2.2
    · intro _
      exact refundStep_thrown hbooks (.refl _ _)
    · intro _
      exact refundStep_thrown hbooks (.refl _ _)
  | createRow job =>
    cases hcolumn : column job.input.amount with
    | error e =>
      simp only [RefundThread.advance, hcolumn]
      exact refundStep_thrown hbooks (.refl _ _)
    | ok amount =>
      have hcreated : fault ≠ .failed →
          RefundBooks { s.db with refunds := s.db.refunds ++ [job.row amount] } := by
        intro hfault
        apply hbooks.createRow hasserts.1 (column_eq_ok.1 hcolumn)
        intro id hid
        obtain ⟨purchase, hpurchase, hterms⟩ := hasserts.2 id hid
        exact ⟨purchase, hpurchase, hterms,
          capStillHolds_createRow (hcap hfault) hid hpurchase⟩
      have hlive : LiveRefund { s.db with refunds := s.db.refunds ++ [job.row amount] }
          s.db.refunds.length :=
        ⟨job.row amount, by simp, by simp [RefundJob.row]⟩
      simp only [RefundThread.advance, hcolumn]
      apply attempt_rule
      · intro hfault
        have hok : fault ≠ .failed := by simp [hfault]
        cases job.input.kind with
        | cash =>
          exact ⟨hcreated hok, hlive, refundFrame_createRow _ _ _,
            fun _ hid => Or.inr (Option.some.inj hid).symm⟩
        | walletCredit =>
          exact ⟨hcreated hok, hlive, refundFrame_createRow _ _ _,
            fun _ hid => Or.inr (Option.some.inj hid).symm⟩
      · intro _
        exact refundStep_thrown hbooks (.refl _ _)
      · intro hfault
        exact refundStep_thrown (hcreated (by simp [hfault])) (refundFrame_createRow _ _ _)
  | stripeRefund job id =>
    have hlt : id < s.db.refunds.length := RefundThread.Asserts.lt_length hasserts rfl
    apply attempt_rule
    · intro _
      exact refundStep_of_same hbooks rfl rfl hasserts fun _ hid => hid
    · intro _
      exact refundStep_of_same hbooks rfl rfl hlt fun _ hid => hid
    · intro _
      exact refundStep_of_same hbooks rfl rfl hlt fun _ hid => hid
  | postLedger job id stripeId =>
    have hlt : id < s.db.refunds.length := RefundThread.Asserts.lt_length hasserts rfl
    cases hpost : postTransaction s.db (refundInput job id) with
    | error e =>
      simp only [RefundThread.advance, hpost]
      exact refundStep_of_same hbooks rfl rfl hlt fun _ hid => hid
    | ok result =>
      obtain ⟨transactionId, db'⟩ := result
      obtain ⟨-, -, -, -, -, hpurchases, hrefunds⟩ := postTransaction_appends hpost
      have hlt' : id < db'.refunds.length := hrefunds ▸ hlt
      have hlive : LiveRefund db' id := by
        rw [LiveRefund, hrefunds]
        exact hasserts
      simp only [RefundThread.advance, hpost]
      apply attempt_rule
      · intro _
        exact refundStep_of_same hbooks hpurchases hrefunds hlive fun _ hid => hid
      · intro _
        exact refundStep_of_same hbooks rfl rfl hlt fun _ hid => hid
      · intro _
        exact refundStep_of_same hbooks hpurchases hrefunds hlt' fun _ hid => hid
  | completeRow job id stripeId transactionId =>
    have hlt : id < s.db.refunds.length := RefundThread.Asserts.lt_length hasserts rfl
    obtain ⟨old, hold, hlive⟩ := hasserts
    have hbooks' := hbooks.updateRefund id
      (f := fun row => { row with
        status := .completed, stripeRefundId := stripeId, transactionId := some transactionId })
      (fun _ => rfl) (fun _ => rfl) (by
        -- the row already counted: it is not FAILED
        intro row hrow purchaseId hactive
        obtain rfl := Option.some.inj (hold.symm.trans hrow)
        simp only [isActiveRefundOf, Bool.and_eq_true, Bool.or_eq_true, beq_iff_eq] at hactive ⊢
        refine ⟨hactive.1, ?_⟩
        cases hstatus : old.status <;> simp_all)
    have hlt' : id < (s.db.updateRefund id fun row => { row with
        status := .completed, stripeRefundId := stripeId,
        transactionId := some transactionId }).refunds.length := by
      rwa [Db.updateRefund, List.length_modify]
    apply attempt_rule
    · intro _
      refine ⟨hbooks', ?_, refundFrame_updateRefund _ _ _, ?_⟩
      · split
        · exact hlt'
        · trivial
      · intro other hother
        split at hother
        · exact Or.inl hother
        · cases hother
    · intro _
      exact refundStep_of_same hbooks rfl rfl hlt fun _ hid => hid
    · intro _
      exact ⟨hbooks', hlt', refundFrame_updateRefund _ _ _, fun _ hid => Or.inl hid⟩
  | markPurchase id purchaseId =>
    have hbooks' := hbooks.updatePurchase purchaseId
      (f := fun row => { row with status := .refunded }) fun _ => rfl
    have hframe := refundFrame_updatePurchase (some id) s.db purchaseId
      (f := fun row => { row with status := .refunded }) fun _ => rfl
    apply attempt_rule
    · intro _
      exact ⟨hbooks', trivial, hframe, fun _ hid => by cases hid⟩
    · intro _
      exact refundStep_of_same hbooks rfl rfl hasserts fun _ hid => hid
    · intro _
      exact ⟨hbooks', hasserts, hframe, fun _ hid => Or.inl hid⟩
  | failRow id error =>
    have hbooks' := hbooks.updateRefund id
      (f := fun row => { row with status := .failed }) (fun _ => rfl) (fun _ => rfl)
      fun _ _ purchaseId hactive => by simp [isActiveRefundOf] at hactive
    apply attempt_rule
    · intro _
      exact refundStep_thrown hbooks' (refundFrame_updateRefund _ _ _)
    · intro _
      exact refundStep_thrown hbooks (.refl _ _)
    · intro _
      exact refundStep_thrown hbooks' (refundFrame_updateRefund _ _ _)
  | returned id => exact refundStep_of_same hbooks rfl rfl trivial fun _ hid => by cases hid
  | thrown error => exact refundStep_thrown hbooks (.refl _ _)

/-- What other wallet and purchase activity leaves of the rows refund requests look at. -/
structure OtherEffect (db db' : Db) : Prop where
  refunds : db'.refunds = db.refunds
  terms : ∀ (id : Id) (row : AiCreditPurchase), db.purchases[id]? = some row →
    ∃ row', db'.purchases[id]? = some row' ∧ row'.amount = row.amount
  purchases : ∀ (id : Id) (row' : AiCreditPurchase), db'.purchases[id]? = some row' →
    (∃ row, db.purchases[id]? = some row ∧ row'.amount = row.amount) ∨
      db.purchases.length ≤ id ∧ 0 < row'.amount.micros

theorem OtherEffect.refl (db : Db) : OtherEffect db db :=
  ⟨rfl, fun _ row hrow => ⟨row, hrow, rfl⟩, fun _ row hrow => Or.inl ⟨row, hrow, rfl⟩⟩

theorem OtherEffect.of_same {db db' db'' : Db} (h : OtherEffect db db')
    (hpurchases : db''.purchases = db'.purchases) (hrefunds : db''.refunds = db'.refunds) :
    OtherEffect db db'' := by
  refine ⟨hrefunds.trans h.refunds, fun id row hrow => ?_, fun id row hrow => ?_⟩
  · rw [hpurchases]
    exact h.terms id row hrow
  · rw [hpurchases] at hrow
    exact h.purchases id row hrow

theorem OtherEffect.createPurchase {db db' : Db} (h : OtherEffect db db') {row : AiCreditPurchase}
    (hpos : 0 < row.amount.micros) :
    OtherEffect db { db' with purchases := db'.purchases ++ [row] } := by
  refine ⟨h.refunds, fun id old hold => ?_, fun id new hnew => ?_⟩
  · obtain ⟨row', hrow', hamount⟩ := h.terms id old hold
    exact ⟨row', getElem?_append_row _ _ hrow', hamount⟩
  · rcases (getElem?_append_row_iff _ _).1 hnew with hnew | ⟨rfl, rfl⟩
    · exact h.purchases id new hnew
    · refine Or.inr ⟨not_lt.1 fun hlt => ?_, hpos⟩
      obtain ⟨row', hrow', -⟩ := h.terms _ _ (List.getElem?_eq_getElem hlt)
      exact absurd (List.getElem?_eq_some_iff.1 hrow').1 (lt_irrefl _)

theorem OtherEffect.updatePurchase {db db' : Db} (h : OtherEffect db db') {id : Id}
    {f : AiCreditPurchase → AiCreditPurchase} (hf : WalletCall.KeepsTerms f) :
    OtherEffect db (db'.updatePurchase id f) := by
  have hkeeps : ∀ (i : Id) (row : AiCreditPurchase),
      (if id = i then f row else row).amount = row.amount := by
    intro i row
    split_ifs
    · exact (hf row).2
    · rfl
  refine ⟨h.refunds, fun i row hrow => ?_, fun i new hnew => ?_⟩
  · obtain ⟨row', hrow', hamount⟩ := h.terms i row hrow
    exact ⟨_, getElem?_modify_some db'.purchases f hrow', (hkeeps i row').trans hamount⟩
  · obtain ⟨row', hrow', rfl⟩ := exists_of_getElem?_modify db'.purchases f hnew
    rw [hkeeps]
    exact h.purchases i row' hrow'

theorem otherEffect_next (db : Db) (call : WalletCall) : OtherEffect db (WalletCall.next db call) := by
  apply WalletCall.next_preserves (I := OtherEffect db) (.refl db)
  case touch =>
    rintro tenantId db' (rfl | ⟨-, rfl⟩)
    · exact .refl _
    · exact (OtherEffect.refl db).of_same rfl rfl
  case settings => exact fun _ h => h.of_same rfl rfl
  case create => exact fun hpos h => h.createPurchase hpos
  case update => exact fun hf h => h.updatePurchase hf
  case post =>
    intro input id db' _ _ hpost
    obtain ⟨-, -, -, -, -, hpurchases, hrefunds⟩ := postTransaction_appends hpost
    exact (OtherEffect.refl db).of_same hpurchases hrefunds
  case reserve =>
    intro now input id db' _ hreserve
    obtain ⟨locked, walletId, wallet, amount, reserved, hlock, -, -, -, -, -, -, rfl⟩ :=
      reserveCredits_cases hreserve
    have htouched : Touched db input.tenantId locked := (lockWalletByTenant_spec hlock).1
    rcases htouched with rfl | ⟨-, rfl⟩
    · exact (OtherEffect.refl _).of_same rfl rfl
    · exact (OtherEffect.refl db).of_same rfl rfl
  case finalize =>
    intro now id charge context transaction db' _ hfinalize
    obtain ⟨reservation, wallet, reserved, -, -, -, -, -, hcases⟩ :=
      finalizeReservation_cases hfinalize
    rcases hcases with ⟨-, -, rfl⟩ | ⟨-, posted, -, happlied⟩
    · exact (OtherEffect.refl db).of_same rfl rfl
    · obtain ⟨amount, after, aggregates, status', -, -, -, -, rfl⟩ := happlied.writes
      exact (OtherEffect.refl db).of_same rfl rfl
  case release =>
    intro db' db'' now id status _ h hrelease
    obtain ⟨reservation, -, ⟨-, rfl⟩ | ⟨-, wallet, reserved, -, -, rfl⟩⟩ :=
      releaseReservation_cases hrelease
    · exact h
    · exact h.of_same rfl rfl

theorem otherActivity_effect (s : RefundState) (call : WalletCall) :
    OtherEffect s.db (otherActivity s call).db := by
  unfold otherActivity
  split_ifs
  · exact .refl _
  · exact otherEffect_next s.db call

theorem RefundBooks.otherEffect {db db' : Db} (h : RefundBooks db) (heffect : OtherEffect db db') :
    RefundBooks db' := by
  have htotal : ∀ id, db'.activeRefundMicros id = db.activeRefundMicros id := fun id => by
    rw [Db.activeRefundMicros, heffect.refunds, Db.activeRefundMicros]
  refine ⟨fun id row' hrow' => ?_, ?_, fun row hrow id hid => ?_⟩
  · rw [htotal]
    rcases heffect.purchases id row' hrow' with ⟨row, hrow, hamount⟩ | ⟨hnew, hpos⟩
    · rw [hamount]
      exact h.cap id row hrow
    · -- no refund names a purchase that did not exist yet
      have hnone : db.activeRefundsOf id = [] := by
        rw [Db.activeRefundsOf, List.filter_eq_nil_iff]
        intro row hrow hactive
        simp only [isActiveRefundOf, Bool.and_eq_true, beq_iff_eq] at hactive
        exact absurd (h.owned row hrow id hactive.1) (not_lt.2 hnew)
      have hzero : db.activeRefundMicros id = 0 := by
        rw [Db.activeRefundMicros, total, ← Db.activeRefundsOf, hnone]
        rfl
      rw [hzero]
      exact hpos.le
  · rw [heffect.refunds]
    exact h.nonneg
  · rw [heffect.refunds] at hrow
    obtain ⟨purchase, hpurchase, -⟩ := heffect.terms id _
      (List.getElem?_eq_getElem (h.owned row hrow id hid))
    exact (List.getElem?_eq_some_iff.1 hpurchase).1

theorem OtherEffect.frame {db db' : Db} (h : OtherEffect db db') : RefundFrame none db db' :=
  ⟨h.terms, fun _ _ hrow _ => h.refunds ▸ hrow, by rw [h.refunds]⟩

/-- Assertions that hold while each row creation still passes its check: the books, each
request's knowledge, and that no two requests work on one refund row. -/
def refundOutline : Outline RefundState RefundThread where
  inv s := RefundBooks s.db
  asserts s t := t.Asserts s.db
  pair t u := ∀ id, t.refundId? = some id → u.refundId? ≠ some id
  symm _ _ h := fun id hu ht => h id ht hu

/-- Whenever a request creates its refund row, the cap check it made earlier passes again. -/
def CapStillHolds (cfg : RefundConfig) : RefundAction → Prop
  | .step i fault =>
    fault ≠ .failed → cfg.threads[i]?.all (fun t => t.capStillHolds cfg.shared.db) = true
  | _ => True

instance (cfg : RefundConfig) : (action : RefundAction) → Decidable (CapStillHolds cfg action)
  | .spawn _ => inferInstanceAs (Decidable True)
  | .step i fault => inferInstanceAs (Decidable (fault ≠ .failed →
      cfg.threads[i]?.all (fun t => t.capStillHolds cfg.shared.db) = true))
  | .env _ => inferInstanceAs (Decidable True)

theorem refundOutline_start : refundOutline.StartOk refundProgram CapStillHolds := by
  intro cfg call t _ _ hstart
  obtain rfl := Option.some.inj hstart
  cases hvalid : validateRefund call.input with
  | error e =>
    simp only [RefundCall.start, hvalid]
    exact ⟨trivial, fun _ _ _ id hid => by cases hid⟩
  | ok u =>
    simp only [RefundCall.start, hvalid]
    simp only [validateRefund, bind_eq_ok, throwIf_eq_ok] at hvalid
    obtain ⟨-, hpos, -⟩ := hvalid
    exact ⟨not_le.1 hpos, fun _ _ _ id hid => by cases hid⟩

theorem refundOutline_step : refundOutline.StepOk refundProgram CapStillHolds := by
  intro cfg i fault t h hgood ht
  have hcap : fault ≠ .failed → t.capStillHolds cfg.shared.db = true := by
    intro hfault
    have hall := hgood hfault
    rwa [ht, Option.all_some] at hall
  obtain ⟨hbooks, hasserts, hframe, hfresh⟩ :=
    refundStep_advance fault h.inv (h.asserts i t ht) hcap
  refine ⟨hbooks, hasserts, fun j u hji hu => ⟨?_, fun id hid hother => ?_⟩⟩
  · exact hframe.asserts (h.asserts j u hu) fun id hid => h.pair j i u t hji hu ht id hid
  · rcases hfresh id hid with hold | rfl
    · exact h.pair i j t u hji.symm ht hu id hold hother
    · exact absurd ((h.asserts j u hu).lt_length hother) (lt_irrefl _)

theorem refundOutline_env : refundOutline.EnvOk refundProgram CapStillHolds := by
  intro cfg call h _
  have heffect := otherActivity_effect cfg.shared call
  exact ⟨h.inv.otherEffect heffect, fun i t ht =>
    heffect.frame.asserts (h.asserts i t ht) fun _ _ => Option.some_ne_none _ ∘ Eq.symm⟩

/-- The PENDING and COMPLETED refunds of every purchase add up to no more than its amount. -/
def CapLaw (db : Db) : Prop :=
  ∀ (id : Id) (row : AiCreditPurchase), db.purchases[id]? = some row →
    ((db.activeRefundsOf id).map fun refund => refund.amount.micros).sum ≤ row.amount.micros

theorem refundOutline_init : refundOutline.Holds refundInit :=
  Outline.holds_initial (O := refundOutline) refundBooks_empty

/-- The cap holds in every state of every interleaving in which each row creation still passes
its check. -/
theorem capLaw_of_capStillHolds {actions : List RefundAction}
    (h : Always refundProgram.next CapStillHolds refundInit actions) (k : ℕ) :
    CapLaw (stateAt refundProgram.next refundInit actions k).shared.db :=
  (h.invariant_at (I := refundOutline.Holds)
    (fun _ _ => Outline.Holds.next refundOutline_start refundOutline_step refundOutline_env)
    refundOutline_init k).inv.cap

def purchaseOfTen : RefundAction := .env (.createPurchase 0 3 7 .bankTransfer 10)

def refundOfSix : RefundAction :=
  .spawn ⟨9,
    { tenantId := 3
      amount := 6
      kind := .walletCredit
      reason := "goodwill"
      purchaseId := some 0 }⟩

def refundOneAfterAnother : List RefundAction :=
  [purchaseOfTen,
    refundOfSix, .step 0 .ok, .step 0 .ok, .step 0 .ok, .step 0 .ok, .step 0 .ok, .step 0 .ok,
    refundOfSix, .step 1 .ok, .step 1 .ok, .step 1 .ok, .step 1 .ok]

theorem capLaw_of_refundOneAfterAnother :
    CapLaw (run refundProgram.next refundInit refundOneAfterAnother).shared.db := by
  have hgood : Always refundProgram.next CapStillHolds refundInit refundOneAfterAnother := by
    decide +kernel
  have h := capLaw_of_capStillHolds hgood refundOneAfterAnother.length
  rwa [stateAt_length] at h

/-- Two requests read the same aggregate before either creates its row. -/
def refundsOnOneAggregate : List RefundAction :=
  [purchaseOfTen,
    refundOfSix, .step 0 .ok, .step 0 .ok, .step 0 .ok,
    refundOfSix, .step 1 .ok, .step 1 .ok, .step 1 .ok,
    .step 0 .ok, .step 1 .ok]

theorem not_capLaw_refundsOnOneAggregate :
    ¬ CapLaw (run refundProgram.next refundInit refundsOnOneAggregate).shared.db := by
  have hamount : ((run refundProgram.next refundInit refundsOnOneAggregate).shared.db.purchases[0]?.map
      fun row => row.amount.micros) = some 10000000 := by decide +kernel
  have hsum : (((run refundProgram.next refundInit refundsOnOneAggregate).shared.db.activeRefundsOf
      0).map fun refund => refund.amount.micros).sum = 12000000 := by decide +kernel
  intro h
  cases hrow : (run refundProgram.next refundInit refundsOnOneAggregate).shared.db.purchases[0]? with
  | none => simp [hrow] at hamount
  | some row =>
    have hcap := h 0 row hrow
    simp only [hrow, Option.map_some, Option.some.injEq] at hamount
    rw [hsum, hamount] at hcap
    exact absurd hcap (by decide)

end Forecast
