import Forecast.Manufacturing.MovementTotals
import Forecast.Manufacturing.OrderLaw

/-!
# Two records of one movement

Each operation on the stock writes its movement to the ledger and to
`inventory_transactions`. They agree as long as the sign that the caller sends is the one
of the row in the ledger, and as long as the costing engine writes no row of its own. Conversions
of units, which a transaction in another unit would use, go back the way they came when the rows
that are set up for the two directions are reciprocal.
-/

open KeyedTable DecimalColumn Transactions Runs

namespace Forecast.Manufacturing

open Inventory (Qty LedgerEntryType calculateDeltas)

/-- The sign that the ledger gives a transaction of the type. -/
def SignFits (transactionType : String) (quantity : Decimal) : Prop :=
  if transactionType ∈ ["RECEIPT", "PRODUCTION_RECEIPT", "RETURN"] then 0 ≤ quantity
  else if transactionType ∈ ["ISSUE", "PRODUCTION_ISSUE", "SCRAP"] then quantity ≤ 0
  else True

instance (transactionType : String) (quantity : Decimal) :
    Decidable (SignFits transactionType quantity) := by
  unfold SignFits
  infer_instance

def FactoryCall.RecordsThroughLedger (c : FactoryCall) : Prop :=
  match c.op with
  | .createInventoryTransaction params => ∀ quantity ∈ c.ctx.effectiveQuantity params,
      (ledgerTypeOf params.transactionType quantity).isSome = true
  | .backflushMaterials _ _ | .reportProductionCompletion _ | .completeWorkOrder _ => False
  | _ => True

namespace FactoryDb

/-- A received line whose quantity the ledger takes as it is, and that is not costed. -/
def PlainLine (db : FactoryDb) (gr : GoodsReceipt) (line : GoodsReceiptLine) : Prop :=
  line.quantity.value = 0 ∨ 0 ≤ line.quantity.value ∧
    ∀ po ∈ gr.purchaseOrderId.bind db.purchaseOrder, unitPriceOf po line ≤ 0

/-- The call writes one quantity to both records. -/
def RecordsAlike (db : FactoryDb) (c : FactoryCall) : Prop :=
  match c.op with
  | .createInventoryTransaction params => ∀ quantity ∈ c.ctx.effectiveQuantity params,
      OnScale 4 quantity ∧ SignFits params.transactionType quantity
  | .adjustInventory params => OnScale 4 params.quantity ∧ 0 ≤ params.quantity
  | .transferInventory params => OnScale 4 params.quantity ∧
      (0 ≤ params.quantity ∨ params.fromLocation = params.toLocation)
  | .confirmGoodsReceipt id => db.costing.hasProcessed (confirmKey id) = false →
      ∀ gr ∈ lookup GoodsReceipt.id db.goodsReceipts id, ∀ line ∈ gr.lines, db.PlainLine gr line
  | .issueMaterial params => params.quantity = 0
  | _ => True

variable {tenantId : Id} {ctx : FactoryContext} {db db' : FactoryDb}

/-- The ledger and `inventory_transactions` are moved alike. -/
def Records (tenantId : Id) (db db' : FactoryDb) : Prop :=
  ∃ m, Moves tenantId db db' m ∧ Logs db db' m

theorem Records.of_quiet (h : Quiet tenantId db db') : Records tenantId db db' :=
  ⟨0, h.moves, h.logs⟩

theorem Records.trans {db'' : FactoryDb} (h : Records tenantId db db')
    (h' : Records tenantId db' db'') : Records tenantId db db'' := by
  obtain ⟨m, hmoves, hlogs⟩ := h
  obtain ⟨m', hmoves', hlogs'⟩ := h'
  exact ⟨m + m', hmoves.trans hmoves', hlogs.trans hlogs'⟩

/-! ### Transactions, adjustments and transfers -/

theorem onHandDelta_of_signFits {transactionType : String} {quantity : Decimal}
    {entryType : LedgerEntryType} {stored : TransactionType}
    (htype : ledgerTypeOf transactionType quantity = some entryType)
    (hstored : TransactionType.ofText transactionType = some stored)
    (hsign : SignFits transactionType quantity) :
    (calculateDeltas entryType |quantity|).onHandDelta = quantity := by
  have hreceived : ∀ {type}, type ∈ ["RECEIPT", "PRODUCTION_RECEIPT", "RETURN"] →
      SignFits type quantity → |(|quantity|)| = quantity := by
    intro type hmem h
    rw [SignFits, if_pos hmem] at h
    rw [abs_abs, abs_of_nonneg h]
  have hissued : ∀ {type}, type ∉ ["RECEIPT", "PRODUCTION_RECEIPT", "RETURN"] →
      type ∈ ["ISSUE", "PRODUCTION_ISSUE", "SCRAP"] → SignFits type quantity →
        -|(|quantity|)| = quantity := by
    intro type hnot hmem h
    rw [SignFits, if_neg hnot, if_pos hmem] at h
    rw [abs_abs, abs_of_nonpos h, neg_neg]
  unfold ledgerTypeOf at htype
  split_ifs at htype with h₁ h₂ h₃ h₄ h₅ h₆ hin h₇ h₈ <;> cases htype
  · exact hreceived (by simp) (h₁ ▸ hsign)
  · exact hreceived (by simp) (h₂ ▸ hsign)
  · exact hissued (by simp) (by simp) (h₃ ▸ hsign)
  · exact hissued (by simp) (by simp) (h₄ ▸ hsign)
  · -- The column has no such type.
    rw [h₅] at hstored
    simp [TransactionType.ofText] at hstored
  · change |(|quantity|)| = quantity
    rw [abs_abs, abs_of_pos hin]
  · change -|(|quantity|)| = quantity
    rw [abs_abs, abs_of_nonpos (not_lt.1 hin), neg_neg]
  · exact hissued (by simp) (by simp) (h₇ ▸ hsign)
  · exact hreceived (by simp) (h₈ ▸ hsign)

example : ¬SignFits "SCRAP" 2 := by decide +kernel

theorem records_row {entered : FactoryDb} {params : Inventory.EntryParams}
    {row : Qty → InventoryTransaction} {quantity : Decimal} {productId locationId : Id}
    (hentered : db.recordEntry params = .ok entered)
    (hlogged : entered.logTransaction row quantity = .ok db')
    (hscale : OnScale 4 params.quantity) (hquantity : OnScale 4 quantity)
    (hkey : params.key = ⟨tenantId, productId, locationId⟩)
    (hdelta : (calculateDeltas params.entryType params.quantity).onHandDelta = quantity)
    (hrow : ∀ q, (row q).productId = productId ∧ (row q).locationId = locationId ∧
      (row q).quantity = q) :
    Moves tenantId db db' (.single productId locationId quantity) ∧
      Logs db db' (.single productId locationId quantity) := by
  have hentry : Moves tenantId db entered (movementOf tenantId params) :=
    .recordEntry hentered hscale
  rw [movementOf_key tenantId hkey, hdelta] at hentry
  exact ⟨hentry.then_zero (.logTransaction hlogged),
    (Logs.inWarehouse hentered).zero_then (.logTransaction hlogged hquantity
      (fun q => (hrow q).1) (fun q => (hrow q).2.1) fun q => (hrow q).2.2)⟩

theorem records_createInventoryTransaction {params : TransactionParams}
    (htenant : ctx.tenantId = tenantId)
    (hledger : ∀ quantity ∈ ctx.effectiveQuantity params,
      (ledgerTypeOf params.transactionType quantity).isSome = true)
    (halike : ∀ quantity ∈ ctx.effectiveQuantity params,
      OnScale 4 quantity ∧ SignFits params.transactionType quantity)
    (h : db.createInventoryTransaction ctx params = .ok db') : Records tenantId db db' := by
  simp only [createInventoryTransaction, bind_eq_ok, found_eq_ok] at h
  obtain ⟨locationId, -, quantity, hquantity, entered, hentered, -, -, stored, hstored, h⟩ := h
  obtain ⟨hscale, hsign⟩ := halike quantity hquantity
  obtain ⟨entryType, htype⟩ := Option.isSome_iff_exists.1 (hledger quantity hquantity)
  simp only [recordTransaction, htype] at hentered
  exact ⟨_, records_row hentered h hscale.abs hscale (htenant ▸ rfl)
    (onHandDelta_of_signFits htype hstored hsign) fun _ => ⟨rfl, rfl, rfl⟩⟩

theorem records_adjustInventory {params : AdjustmentParams} (htenant : ctx.tenantId = tenantId)
    (hscale : OnScale 4 params.quantity) (hsign : 0 ≤ params.quantity)
    (h : db.adjustInventory ctx params = .ok db') : Records tenantId db db' := by
  simp only [adjustInventory, bind_eq_ok] at h
  obtain ⟨locationId, -, entered, hentered, -, -, h⟩ := h
  exact ⟨_, records_row hentered h hscale.abs hscale (htenant ▸ rfl) (abs_of_nonneg hsign)
    fun _ => ⟨rfl, rfl, rfl⟩⟩

/-- A transfer to the location that it comes from moves nothing, of whatever sign. -/
theorem records_transferInventory {params : TransferParams} (htenant : ctx.tenantId = tenantId)
    (hscale : OnScale 4 params.quantity)
    (hsign : 0 ≤ params.quantity ∨ params.fromLocation = params.toLocation)
    (h : db.transferInventory ctx params = .ok db') : Records tenantId db db' := by
  subst htenant
  simp only [transferInventory, bind_eq_ok] at h
  obtain ⟨left, hleft, entered, hentered, -, -, logged, hlogged, h⟩ := h
  have hmoves : Moves ctx.tenantId db db' _ :=
    ((Moves.recordEntry hleft hscale).trans (.recordEntry hentered hscale)).then_zero
      ((Moves.logTransaction hlogged).then_zero (.logTransaction h))
  have hlogs := ((Logs.inWarehouse hleft).then_zero (.inWarehouse hentered)).zero_then
    ((Logs.logTransaction hlogged hscale.neg (fun _ => rfl) (fun _ => rfl) fun _ => rfl).trans
      (.logTransaction h hscale (fun _ => rfl) (fun _ => rfl) fun _ => rfl))
  rw [movementOf_key ctx.tenantId rfl, movementOf_key ctx.tenantId rfl] at hmoves
  change Moves ctx.tenantId db db'
    (.single params.productId params.fromLocation (-|params.quantity|) +
      .single params.productId params.toLocation |params.quantity|) at hmoves
  change Logs db db' (.single params.productId params.fromLocation (-params.quantity) +
    .single params.productId params.toLocation params.quantity) at hlogs
  rcases hsign with hsign | hplace
  · rw [abs_of_nonneg hsign] at hmoves
    exact ⟨_, hmoves, hlogs⟩
  · rw [hplace, ← Movement.single_add, neg_add_cancel, Movement.single_zero] at hmoves hlogs
    exact ⟨0, hmoves, hlogs⟩

/-! ### Receipts -/

theorem moves_receiveLine {gr : GoodsReceipt} {po : Option PurchaseOrder} {locationId : Id}
    {line : GoodsReceiptLine} (htenant : ctx.tenantId = tenantId) (hsign : 0 ≤ line.quantity.value)
    (h : receiveLine ctx gr po locationId db line = .ok db') :
    Moves tenantId db db' (.single line.productId locationId line.quantity.value) ∧
      Logs db db' (.single line.productId locationId line.quantity.value) := by
  subst htenant
  simp only [receiveLine, bind_eq_ok] at h
  obtain ⟨entered, hentered, logged, hlogged, h⟩ := h
  have hscale := line.quantity.onScale_value
  obtain ⟨hmoves, hlogs⟩ :
      Moves ctx.tenantId db logged (.single line.productId locationId line.quantity.value) ∧
        Logs db logged (.single line.productId locationId line.quantity.value) :=
    records_row hentered hlogged hscale hscale rfl (abs_of_nonneg hsign) fun _ => ⟨rfl, rfl, rfl⟩
  by_cases hqc : needsQC ctx po line.productId
  · rw [if_pos hqc] at h
    have hquiet : Quiet ctx.tenantId logged db' := quiet_inspectReceipt h
    exact ⟨hmoves.then_zero hquiet.moves, hlogs.then_zero hquiet.logs⟩
  · rw [if_neg hqc, pure_eq_ok] at h
    exact h ▸ ⟨hmoves, hlogs⟩

theorem quiet_costLine {gr : GoodsReceipt} {po : PurchaseOrder} {locationId : Id}
    {line : GoodsReceiptLine} (hplain : line.quantity.value = 0 ∨ unitPriceOf po line ≤ 0)
    (h : costLine ctx gr po locationId db line = .ok db') : Quiet tenantId db db' := by
  unfold costLine at h
  by_cases hprice : 0 < unitPriceOf po line
  · have hzero := hplain.resolve_right (not_le.2 hprice)
    rw [if_pos hprice] at h
    simp only [bind_eq_ok] at h
    obtain ⟨currency, -, h⟩ := h
    refine ⟨?_, .inCosting h⟩
    obtain ⟨costing, result, hcosting, rfl⟩ := inCosting_eq_ok.1 h
    rcases receiptCost_recordEntry hcosting with rfl | ⟨baseCurrency, journalEntryId, hstock⟩
    · exact .of_eq rfl rfl
    · exact .of_recordEntry_zero hstock hzero
  · rw [if_neg hprice, pure_eq_ok] at h
    exact h ▸ .refl tenantId db

theorem quiet_countOnOrder {gr : GoodsReceipt} {locationId : Id}
    (hplain : ∀ line ∈ gr.lines, db.PlainLine gr line)
    (h : db.countOnOrder ctx gr locationId = .ok db') : Quiet tenantId db db' := by
  unfold countOnOrder at h
  cases horder : gr.purchaseOrderId with
  | none =>
    simp only [horder] at h
    cases h
    exact .refl tenantId _
  | some orderId =>
    simp only [horder, bind_eq_ok, pure_eq_ok] at h
    obtain ⟨costed, hcosted, counted, hcounted, rfl⟩ := h
    have hcosts : Quiet tenantId db costed := by
      unfold costLines at hcosted
      cases hpo : db.purchaseOrder orderId with
      | none =>
        simp only [hpo] at hcosted
        cases hcosted
        exact .refl tenantId _
      | some po =>
        simp only [hpo] at hcosted
        refine .forEach (fun line hline _ _ hstep => quiet_costLine ?_ hstep) hcosted
        exact (hplain line hline).imp_right fun h => h.2 po (by simp [horder, hpo])
    exact (hcosts.trans (.forEach (fun _ _ _ _ hstep => quiet_countLine hstep) hcounted)).trans
      (quiet_settleOrder orderId)

/-- A line that was given a batch is as plain as before. -/
theorem PlainLine.of_unbatched {gr posted : GoodsReceipt} {line line' : GoodsReceiptLine}
    (h : db.PlainLine gr line) (hline : line'.unbatched = line.unbatched)
    (horder : posted.purchaseOrderId = gr.purchaseOrderId)
    (hpurchaseOrders : db'.purchaseOrders = db.purchaseOrders) : db'.PlainLine posted line' := by
  have hproduct : line'.unbatched.productId = line.unbatched.productId := by rw [hline]
  have hquantity : line'.unbatched.quantity = line.unbatched.quantity := by rw [hline]
  change line'.productId = line.productId at hproduct
  change line'.quantity = line.quantity at hquantity
  have hfound : db'.purchaseOrder = db.purchaseOrder := by
    funext id
    rw [FactoryDb.purchaseOrder, FactoryDb.purchaseOrder, hpurchaseOrders]
  unfold PlainLine unitPriceOf
  rw [hproduct, hquantity, horder, hfound]
  exact h

def received (locationId : Id) (lines : List GoodsReceiptLine) : Movement :=
  (lines.map fun line => .single line.productId locationId line.quantity.value).sum

theorem received_of_postedAs {gr posted : GoodsReceipt} (h : gr.PostedAs posted)
    (locationId : Id) : received locationId posted.lines = received locationId gr.lines := by
  have hmap : ∀ lines : List GoodsReceiptLine, received locationId lines =
      ((lines.map GoodsReceiptLine.unbatched).map fun line =>
        Movement.single line.productId locationId line.quantity.value).sum := by
    intro lines
    rw [received, List.map_map]
    rfl
  rw [hmap, hmap, h.lines]

/-- A confirmation takes the lines of the receipt into stock, or was done before. -/
theorem moves_confirmGoodsReceipt {id : Id} (htenant : ctx.tenantId = tenantId)
    (hplain : db.costing.hasProcessed (confirmKey id) = false →
      ∀ gr ∈ lookup GoodsReceipt.id db.goodsReceipts id, ∀ line ∈ gr.lines, db.PlainLine gr line)
    (h : db.confirmGoodsReceipt ctx id = .ok db') :
    (db.costing.hasProcessed (confirmKey id) = true ∧ db' = db) ∨
      db.costing.hasProcessed (confirmKey id) = false ∧
        ∃ gr, lookup GoodsReceipt.id db.goodsReceipts id = some gr ∧
        Moves tenantId db db' (received (ctx.location.getD gr.locationId) gr.lines) ∧
        Logs db db' (received (ctx.location.getD gr.locationId) gr.lines) := by
  unfold confirmGoodsReceipt at h
  by_cases hkey : db.costing.hasProcessed (confirmKey id)
  · rw [if_pos hkey] at h
    cases h
    exact Or.inl ⟨hkey, rfl⟩
  · rw [if_neg hkey] at h
    simp only [bind_eq_ok, found_eq_ok] at h
    obtain ⟨gr, hgr, -, -, goods, hgoods, h⟩ := h
    have hposted : gr.PostedAs ((db.stamp (confirmKey id)).postReceipt ctx gr).2 :=
      postedAs_postReceipt gr
    have hlines : ∀ s : FactoryDb, s.purchaseOrders = db.purchaseOrders →
        ∀ line ∈ ((db.stamp (confirmKey id)).postReceipt ctx gr).2.lines,
          s.PlainLine ((db.stamp (confirmKey id)).postReceipt ctx gr).2 line := by
      intro s hs line hline
      have hmem := List.mem_map_of_mem (f := GoodsReceiptLine.unbatched) hline
      rw [hposted.lines, List.mem_map] at hmem
      obtain ⟨line', hline', hsame⟩ := hmem
      exact (hplain (Bool.eq_false_iff.2 hkey) gr hgr line' hline').of_unbatched hsame.symm
        hposted.purchaseOrderId hs
    have hstart : Quiet tenantId db ((db.stamp (confirmKey id)).postReceipt ctx gr).1 :=
      ⟨.of_eq rfl rfl, .of_eq rfl⟩
    have hsame : SameDocuments ((db.stamp (confirmKey id)).postReceipt ctx gr).1 goods :=
      .forEach (fun _ _ _ => sameDocuments_receiveLine) hgoods
    have hsign : ∀ line ∈ ((db.stamp (confirmKey id)).postReceipt ctx gr).2.lines,
        0 ≤ line.quantity.value := fun line hline =>
      (hlines db rfl line hline).elim (fun hzero => hzero ▸ le_rfl) fun h => h.1
    have hend : Quiet tenantId goods db' :=
      quiet_countOnOrder (hlines goods hsame.purchaseOrders) h
    refine Or.inr ⟨Bool.eq_false_iff.2 hkey, gr, hgr, ?_, ?_⟩
    · rw [← received_of_postedAs hposted]
      exact (hstart.moves.zero_then (.forEach (fun line hline _ _ hstep =>
        (moves_receiveLine htenant (hsign line hline) hstep).1) hgoods)).then_zero hend.moves
    · rw [← received_of_postedAs hposted]
      exact (hstart.logs.zero_then (.forEach (fun line hline _ _ hstep =>
        (moves_receiveLine htenant (hsign line hline) hstep).2) hgoods)).then_zero hend.logs

/-! ### Material -/

theorem quiet_issueMaterial_zero {params : IssueParams} (hzero : params.quantity = 0)
    (h : db.issueMaterial ctx params = .ok db') : Quiet tenantId db db' := by
  simp only [issueMaterial, bind_eq_ok] at h
  obtain ⟨order, -, -, -, released, hreleased, quantity, -, entered, hentered, logged, hlogged,
    costed, hcosted, h⟩ := h
  have hissued : Quiet tenantId db
      { released with
        materialIssues :=
          released.materialIssues ++ [⟨order.id, params.productId, quantity⟩] } :=
    (quiet_releaseForIssue hreleased).trans (.of_eq rfl rfl)
  have hrow : Logs entered logged (.single params.productId order.locationId (-params.quantity)) :=
    .logTransaction hlogged (by rw [hzero, neg_zero]; exact OnScale.zero) (fun _ => rfl)
      (fun _ => rfl) fun _ => rfl
  rw [hzero, neg_zero, Movement.single_zero] at hrow
  have hcosts : Quiet tenantId logged costed := by
    refine ⟨?_, .inCosting hcosted⟩
    obtain ⟨costing, result, hcosting, rfl⟩ := inCosting_eq_ok.1 hcosted
    rcases issueCost_recordEntry hcosting with rfl | ⟨cost, journalEntryId, hstock⟩
    · exact .of_eq rfl rfl
    · refine .of_recordEntry_zero hstock ?_
      change -params.quantity = 0
      rw [hzero, neg_zero]
  exact (hissued.trans ⟨(Moves.recordEntry_zero hentered hzero).then_zero (.logTransaction hlogged),
    (Logs.inWarehouse hentered).then_zero hrow⟩).trans (hcosts.trans (quiet_takeFromBatch h))

/-! ### Operations that move nothing -/

theorem quiet_createGoodsReceipt {params : CreateReceiptParams}
    (h : db.createGoodsReceipt params = .ok db') : Quiet tenantId db db' := by
  simp only [createGoodsReceipt, bind_eq_ok, pure_eq_ok] at h
  obtain ⟨po, -, -, -, lines, -, rfl⟩ := h
  exact .of_eq rfl rfl

theorem quiet_releaseWorkOrder {id : Id} (h : db.releaseWorkOrder ctx id = .ok db') :
    Quiet tenantId db db' := by
  simp only [releaseWorkOrder, bind_eq_ok, pure_eq_ok] at h
  obtain ⟨order, -, -, -, reserved, hreserved, rfl⟩ := h
  exact (Quiet.forEach (fun _ _ _ _ hstep => quiet_reserveComponent hstep) hreserved).trans
    (.of_eq rfl rfl)

theorem quiet_cancelWorkOrder {id : Id} (h : db.cancelWorkOrder ctx id = .ok db') :
    Quiet tenantId db db' := by
  simp only [cancelWorkOrder, bind_eq_ok, pure_eq_ok] at h
  obtain ⟨order, -, -, -, released, hreleased, rfl⟩ := h
  exact (quiet_releaseReservations hreleased).trans (.of_eq rfl rfl)

theorem quiet_setQcStatus {goodsReceiptId : Id} {qcStatus : GoodsReceiptQcStatus}
    (h : db.setQcStatus goodsReceiptId qcStatus = .ok db') : Quiet tenantId db db' := by
  simp only [setQcStatus, bind_eq_ok, pure_eq_ok] at h
  obtain ⟨gr, -, rfl⟩ := h
  exact .of_eq rfl rfl

theorem quiet_releaseHolds {productId : Id} (h : db.releaseHolds ctx productId = .ok db') :
    Quiet tenantId db db' :=
  .forEach (fun _ _ _ _ hstep => .releaseHold hstep) h

theorem quiet_decide {inspection : QualityInspection} {status : InspectionStatus}
    (h : db.decide ctx inspection status = .ok db') : Quiet tenantId db db' := by
  unfold FactoryDb.decide at h
  split at h
  · simp only [bind_eq_ok] at h
    obtain ⟨released, hreleased, h⟩ := h
    exact (quiet_releaseHolds hreleased).trans (quiet_setQcStatus h)
  · simp only [bind_eq_ok] at h
    obtain ⟨released, hreleased, h⟩ := h
    exact (quiet_releaseHolds hreleased).trans (quiet_setQcStatus h)
  · have hrejected : Quiet tenantId db (db.rejectHolds ctx inspection.productId inspection.id) :=
      .of_eq rfl rfl
    exact hrejected.trans (quiet_setQcStatus h)
  · cases h
    exact .refl tenantId _

theorem quiet_updateQualityInspectionStatus {id : Id} {status : InspectionStatus}
    (h : db.updateQualityInspectionStatus ctx id status = .ok db') : Quiet tenantId db db' := by
  simp only [updateQualityInspectionStatus, bind_eq_ok] at h
  obtain ⟨inspection, -, h⟩ := h
  refine Quiet.trans ?_ (quiet_decide h)
  exact .of_eq rfl rfl

/-- One call, whether it returns or throws. -/
theorem records_next {c : FactoryCall} (htenant : c.ctx.tenantId = tenantId)
    (hcall : c.RecordsThroughLedger)
    (halike : (db.outcome c).result.isOk = true → db.RecordsAlike c) :
    Records tenantId db (db.next c) := by
  have hrefl : Records tenantId db db := .of_quiet (.refl tenantId db)
  obtain ⟨ctx, op⟩ := c
  cases op with
  | createInventoryTransaction params =>
    refine outcome_invariant hrefl fun db' h => ?_
    exact records_createInventoryTransaction htenant hcall (halike (by rw [h]; rfl)) h
  | adjustInventory params =>
    refine outcome_invariant hrefl fun db' h => ?_
    obtain ⟨hscale, hsign⟩ := halike (by rw [h]; rfl)
    exact records_adjustInventory htenant hscale hsign h
  | transferInventory params =>
    refine outcome_invariant hrefl fun db' h => ?_
    obtain ⟨hscale, hsign⟩ := halike (by rw [h]; rfl)
    exact records_transferInventory htenant hscale hsign h
  | confirmGoodsReceipt id =>
    refine outcome_invariant hrefl fun db' h => ?_
    rcases moves_confirmGoodsReceipt htenant (halike (by rw [h]; rfl)) h with
      ⟨-, rfl⟩ | ⟨-, gr, -, hmoves, hlogs⟩
    · exact hrefl
    · exact ⟨_, hmoves, hlogs⟩
  | issueMaterial params =>
    exact outcome_invariant hrefl fun db' h =>
      .of_quiet (quiet_issueMaterial_zero (halike (by rw [h]; rfl)) h)
  | releasePurchaseOrder id =>
    refine outcome_invariant hrefl fun db' h => ?_
    change db.releasePurchaseOrder id = .ok db' at h
    simp only [releasePurchaseOrder, bind_eq_ok, pure_eq_ok] at h
    obtain ⟨po, -, -, -, rfl⟩ := h
    exact .of_quiet (.of_eq rfl rfl)
  | createGoodsReceipt params =>
    exact outcome_invariant hrefl fun _ h => .of_quiet (quiet_createGoodsReceipt h)
  | cancelPurchaseOrder id =>
    refine outcome_invariant hrefl fun db' h => ?_
    change db.cancelPurchaseOrder id = .ok db' at h
    simp only [cancelPurchaseOrder, bind_eq_ok, pure_eq_ok] at h
    obtain ⟨po, -, -, -, rfl⟩ := h
    exact .of_quiet (.of_eq rfl rfl)
  | releaseWorkOrder id =>
    exact outcome_invariant hrefl fun _ h => .of_quiet (quiet_releaseWorkOrder h)
  | startWorkOrder id =>
    refine outcome_invariant hrefl fun db' h => ?_
    change db.startWorkOrder id = .ok db' at h
    simp only [startWorkOrder, bind_eq_ok, pure_eq_ok] at h
    obtain ⟨order, -, -, -, rfl⟩ := h
    exact .of_quiet (.of_eq rfl rfl)
  | cancelWorkOrder id =>
    exact outcome_invariant hrefl fun _ h => .of_quiet (quiet_cancelWorkOrder h)
  | updateQualityInspectionStatus id status =>
    exact outcome_invariant hrefl fun _ h => .of_quiet (quiet_updateQualityInspectionStatus h)
  | backflushMaterials id completedQty => exact hcall.elim
  | reportProductionCompletion params => exact hcall.elim
  | completeWorkOrder id => exact hcall.elim

end FactoryDb

/-! ### Runs -/

open FactoryDb

/-- At every time the rows of `inventory_transactions`, the rows of the ledger and the stock on
hand have moved by the same quantity since the start, for every product at every location. -/
structure RecordsLaw (tenantId : Id) (start : FactoryDb) (calls : List FactoryCall) : Prop where
  ledger : ∀ k p l, (stateAt next start calls k).transactionTotal p l - start.transactionTotal p l =
    (stateAt next start calls k).ledgerTotal tenantId p l - start.ledgerTotal tenantId p l
  onHand : ∀ k p l, (stateAt next start calls k).transactionTotal p l - start.transactionTotal p l =
    (stateAt next start calls k).onHand tenantId p l - start.onHand tenantId p l

/-- A call that returns writes one quantity to both records. -/
def FactoryDb.ReturnsAlike (db : FactoryDb) (c : FactoryCall) : Prop :=
  (db.outcome c).result.isOk = true → db.RecordsAlike c

theorem recordsLaw_of_alike {tenantId : Id} {start : FactoryDb} {calls : List FactoryCall}
    (htenant : ∀ c ∈ calls, c.ctx.tenantId = tenantId)
    (hcalls : ∀ c ∈ calls, c.RecordsThroughLedger)
    (halike : Always next ReturnsAlike start calls) : RecordsLaw tenantId start calls := by
  have hall : Always next (fun db c => c.ctx.tenantId = tenantId ∧ c.RecordsThroughLedger ∧
      db.ReturnsAlike c) start calls :=
    always_iff.2 fun k c hc => ⟨htenant c (List.mem_of_getElem? hc),
      hcalls c (List.mem_of_getElem? hc), halike.at hc⟩
  have hrecords : ∀ k, Records tenantId start (stateAt next start calls k) := fun k =>
    hall.invariant_at (I := Records tenantId start)
      (fun _ _ hs hc => hs.trans (records_next hc.1 hc.2.1 hc.2.2))
      (.of_quiet (.refl tenantId start)) k
  constructor
  · intro k p l
    obtain ⟨m, hmoves, hlogs⟩ := hrecords k
    rw [hlogs, hmoves.ledger, Pi.add_apply, Pi.add_apply, Pi.add_apply, Pi.add_apply,
      add_sub_cancel_left, add_sub_cancel_left]
  · intro k p l
    obtain ⟨m, hmoves, hlogs⟩ := hrecords k
    rw [hlogs, hmoves.onHand, Pi.add_apply, Pi.add_apply, Pi.add_apply, Pi.add_apply,
      add_sub_cancel_left, add_sub_cancel_left]

/-! ### Two runs -/

instance (db : FactoryDb) (gr : GoodsReceipt) (line : GoodsReceiptLine) :
    Decidable (db.PlainLine gr line) :=
  inferInstanceAs (Decidable (_ ∨ _ ∧ _))

instance (db : FactoryDb) : DecidablePred db.RecordsAlike
  | ⟨_, .createInventoryTransaction _⟩ => inferInstanceAs (Decidable (∀ _ ∈ _, _))
  | ⟨_, .adjustInventory _⟩ | ⟨_, .transferInventory _⟩ => inferInstanceAs (Decidable (_ ∧ _))
  | ⟨_, .confirmGoodsReceipt _⟩ => inferInstanceAs (Decidable (_ → _))
  | ⟨_, .issueMaterial _⟩ => inferInstanceAs (Decidable (_ = _))
  | ⟨_, .releasePurchaseOrder _⟩ | ⟨_, .createGoodsReceipt _⟩ | ⟨_, .cancelPurchaseOrder _⟩
  | ⟨_, .releaseWorkOrder _⟩ | ⟨_, .startWorkOrder _⟩ | ⟨_, .backflushMaterials _ _⟩
  | ⟨_, .reportProductionCompletion _⟩ | ⟨_, .completeWorkOrder _⟩ | ⟨_, .cancelWorkOrder _⟩
  | ⟨_, .updateQualityInspectionStatus _ _⟩ => inferInstanceAs (Decidable True)

instance (db : FactoryDb) (c : FactoryCall) : Decidable (db.ReturnsAlike c) :=
  inferInstanceAs (Decidable (_ → _))

instance : DecidablePred FactoryCall.RecordsThroughLedger
  | ⟨_, .createInventoryTransaction _⟩ => inferInstanceAs (Decidable (∀ _ ∈ _, _))
  | ⟨_, .backflushMaterials _ _⟩ | ⟨_, .reportProductionCompletion _⟩
  | ⟨_, .completeWorkOrder _⟩ => inferInstanceAs (Decidable False)
  | ⟨_, .adjustInventory _⟩ | ⟨_, .transferInventory _⟩ | ⟨_, .confirmGoodsReceipt _⟩
  | ⟨_, .issueMaterial _⟩ | ⟨_, .releasePurchaseOrder _⟩ | ⟨_, .createGoodsReceipt _⟩
  | ⟨_, .cancelPurchaseOrder _⟩ | ⟨_, .releaseWorkOrder _⟩ | ⟨_, .startWorkOrder _⟩
  | ⟨_, .cancelWorkOrder _⟩ | ⟨_, .updateQualityInspectionStatus _ _⟩ =>
    inferInstanceAs (Decidable True)

/-- Two receipts without prices, and an adjustment and an issue that throw. -/
def plainMovements : List FactoryCall :=
  [receiptOf [⟨11, 10⟩, ⟨12, 2⟩], ⟨plainContext, .confirmGoodsReceipt 1⟩,
    receiptOf [⟨12, 3⟩], ⟨plainContext, .confirmGoodsReceipt 2⟩,
    ⟨plainContext, .adjustInventory ⟨7, -4⟩⟩,
    ⟨plainContext, .issueMaterial { workOrderId := 1, productId := 7, quantity := 2 }⟩]

theorem recordsLaw_plainMovements :
    (run next (sentOrder 8) plainMovements).transactionTotal 7 3 = 10 ∧
      RecordsLaw 1 (sentOrder 8) plainMovements :=
  ⟨by decide +kernel,
    recordsLaw_of_alike (by decide +kernel) (by decide +kernel) (by decide +kernel)⟩

def twoIssued : FactoryCall :=
  ⟨workshopContext, .issueMaterial { workOrderId := 1, productId := 7, quantity := 2 }⟩

/-- The ledger has four pieces issued, of which two are in the other record. -/
theorem not_recordsLaw_twoIssued : ¬RecordsLaw 1 stockedOrder [twoIssued] := by
  intro h
  have htotals := h.onHand 1 7 3
  revert htotals
  decide +kernel

/-! ### Units -/

/-- Two factors of which one is the inverse of the other. -/
def AreReciprocal (factor back : Option ℚ) : Prop :=
  factor.isSome ∧ back.isSome ∧
    (back = factor.bind FactoryContext.inverse ∨ factor = back.bind FactoryContext.inverse)

theorem AreReciprocal.symm {factor back : Option ℚ} (h : AreReciprocal factor back) :
    AreReciprocal back factor := ⟨h.2.1, h.1, h.2.2.symm⟩

theorem areReciprocal_inverse_iff {factor : ℚ} :
    AreReciprocal (some factor) (FactoryContext.inverse factor) ↔ factor ≠ 0 := by
  unfold AreReciprocal FactoryContext.inverse
  by_cases hzero : factor = 0
  · simp [hzero]
  · simp [hzero]

/-- Conversions go back the way they came, the product's rows come first, and nothing is recorded
in a unit that was not converted. -/
structure ConvertsUnits (ctx : FactoryContext) : Prop where
  roundTrip : ∀ fromUom toUom productId factor,
    ctx.uomFactor fromUom toUom productId = some factor →
    ∃ back, ctx.uomFactor toUom fromUom productId = some back ∧ AreReciprocal factor back
  forward : ∀ fromUom toUom productId c, ctx.conversion fromUom toUom (some productId) = some c →
    ctx.uomFactor fromUom toUom (some productId) = some (some (Decimal.toDouble c.factor))
  backward : ∀ fromUom toUom productId c, ctx.conversion fromUom toUom (some productId) = none →
    ctx.conversion toUom fromUom (some productId) = some c →
    ctx.uomFactor fromUom toUom (some productId) =
      some (FactoryContext.inverse (Decimal.toDouble c.factor))
  recorded : ∀ (db db' : FactoryDb) (params : TransactionParams), params.Accepted →
    db.createInventoryTransaction ctx params = .ok db' →
    ctx.transactionUom params = ctx.uomOf params.productId ∨
      (ctx.uomFactor (ctx.transactionUom params) (ctx.uomOf params.productId)
        (some params.productId)).isSome = true

namespace FactoryContext

/-- Rows that are read first in both directions are reciprocal; one that has no counterpart is not
zero and, if a product is converted, the product's own; and a general row agrees with the row of
a product in the other direction. -/
structure RowsAgree (ctx : FactoryContext) : Prop where
  both : ∀ fromUom toUom productId c d, ctx.directRow fromUom toUom productId = some c →
    ctx.directRow toUom fromUom productId = some d →
    AreReciprocal (some (Decimal.toDouble c.factor)) (some (Decimal.toDouble d.factor))
  single : ∀ fromUom toUom productId c, ctx.directRow fromUom toUom productId = some c →
    ctx.directRow toUom fromUom productId = none →
    ctx.conversion fromUom toUom productId = some c ∧ Decimal.toDouble c.factor ≠ 0
  general : ∀ fromUom toUom productId c g,
    ctx.conversion fromUom toUom (some productId) = none →
    ctx.conversion toUom fromUom (some productId) = some c →
    ctx.conversion fromUom toUom none = some g →
    inverse (Decimal.toDouble c.factor) = some (Decimal.toDouble g.factor)

variable {ctx : FactoryContext} {fromUom toUom : String} {productId : Option Id}

theorem directRow_of_conversion {c : UomConversion}
    (h : ctx.conversion fromUom toUom productId = some c) :
    ctx.directRow fromUom toUom productId = some c := by
  unfold directRow
  cases productId with
  | none => rw [Option.bind_none, h]; rfl
  | some id => rw [Option.bind_some, h]; rfl

theorem uomFactor_of_directRow {c : UomConversion}
    (h : ctx.directRow fromUom toUom productId = some c) :
    ctx.uomFactor fromUom toUom productId = some (some (Decimal.toDouble c.factor)) := by
  rw [uomFactor, h]

theorem uomFactor_of_reverse (h : ctx.directRow fromUom toUom productId = none) :
    ctx.uomFactor fromUom toUom productId =
      (ctx.conversion toUom fromUom productId).map fun c =>
        inverse (Decimal.toDouble c.factor) := by
  rw [uomFactor, h]

theorem RowsAgree.roundTrip (h : ctx.RowsAgree) {factor : Option ℚ}
    (hfactor : ctx.uomFactor fromUom toUom productId = some factor) :
    ∃ back, ctx.uomFactor toUom fromUom productId = some back ∧ AreReciprocal factor back := by
  cases hrow : ctx.directRow fromUom toUom productId with
  | some c =>
    rw [uomFactor_of_directRow hrow, Option.some_inj] at hfactor
    subst hfactor
    cases hback : ctx.directRow toUom fromUom productId with
    | some d => exact ⟨_, uomFactor_of_directRow hback, h.both _ _ _ c d hrow hback⟩
    | none =>
      obtain ⟨hown, hzero⟩ := h.single _ _ _ c hrow hback
      rw [uomFactor_of_reverse hback, hown]
      exact ⟨_, rfl, areReciprocal_inverse_iff.2 hzero⟩
  | none =>
    rw [uomFactor_of_reverse hrow, Option.map_eq_some_iff] at hfactor
    obtain ⟨d, hback, rfl⟩ := hfactor
    have hdirect := directRow_of_conversion hback
    refine ⟨_, uomFactor_of_directRow hdirect, AreReciprocal.symm ?_⟩
    exact areReciprocal_inverse_iff.2 (h.single _ _ _ d hdirect hrow).2

end FactoryContext

/-- Conversions are consistent exactly when the rows that are set up agree with each other. -/
theorem convertsUnits_iff_rowsAgree (ctx : FactoryContext) :
    ConvertsUnits ctx ↔ ctx.RowsAgree := by
  constructor
  · intro h
    refine ⟨fun fromUom toUom productId c d hc hd => ?_, fun fromUom toUom productId c hc hnone => ?_,
      fun fromUom toUom productId c g hnone hc hg => ?_⟩
    · obtain ⟨back, hback, hreciprocal⟩ :=
        h.roundTrip _ _ _ _ (FactoryContext.uomFactor_of_directRow hc)
      rw [FactoryContext.uomFactor_of_directRow hd, Option.some_inj] at hback
      exact hback ▸ hreciprocal
    · obtain ⟨back, hback, hreciprocal⟩ :=
        h.roundTrip _ _ _ _ (FactoryContext.uomFactor_of_directRow hc)
      rw [FactoryContext.uomFactor_of_reverse hnone, Option.map_eq_some_iff] at hback
      obtain ⟨own, hown, rfl⟩ := hback
      have hsame := (FactoryContext.directRow_of_conversion hown).symm.trans hc
      cases hsame
      exact ⟨hown, areReciprocal_inverse_iff.1 hreciprocal⟩
    · have hdirect : ctx.directRow fromUom toUom (some productId) = some g := by
        rw [FactoryContext.directRow, Option.bind_some, hnone, hg]
        rfl
      have hback := h.backward fromUom toUom productId c hnone hc
      rw [FactoryContext.uomFactor_of_directRow hdirect, Option.some_inj] at hback
      exact hback.symm
  · intro h
    refine ⟨fun _ _ _ _ => h.roundTrip, fun fromUom toUom productId c hc => ?_,
      fun fromUom toUom productId c hnone hc => ?_, fun db db' params haccepted _ => ?_⟩
    · exact FactoryContext.uomFactor_of_directRow (FactoryContext.directRow_of_conversion hc)
    · cases hg : ctx.conversion fromUom toUom none with
      | some g =>
        rw [h.general _ _ _ c g hnone hc hg]
        apply FactoryContext.uomFactor_of_directRow
        rw [FactoryContext.directRow, Option.bind_some, hnone, hg]
        rfl
      | none =>
        rw [FactoryContext.uomFactor_of_reverse, hc, Option.map_some]
        rw [FactoryContext.directRow, Option.bind_some, hnone, hg]
        rfl
    · apply Or.inl
      rw [FactoryContext.transactionUom, haccepted.2]
      rfl

/-- Ten pieces to a box of any product. -/
def tenToABox : FactoryContext :=
  { plainContext with conversions := [⟨none, "BOX", "EA", 10⟩] }

/-- The boxes of a product are converted to pieces, and its pieces not to boxes. -/
theorem not_convertsUnits_tenToABox : ¬ConvertsUnits tenToABox := by
  intro h
  obtain ⟨back, hback, -⟩ := h.roundTrip "BOX" "EA" (some 7) (some 10) (by decide +kernel)
  revert hback
  have hnone : tenToABox.uomFactor "EA" "BOX" (some 7) = none := by decide +kernel
  rw [hnone]
  exact Option.some_ne_none back |>.symm

end Forecast.Manufacturing
