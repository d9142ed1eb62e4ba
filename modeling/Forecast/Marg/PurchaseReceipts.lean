import Forecast.Lib.DecimalColumn
import Forecast.Lib.TakingInOrder
import Forecast.Manufacturing.FactoryTables
import Forecast.Marg.DocumentNumbers
import Forecast.Marg.StockReconciliation

/-!
# The receipt state of purchase orders

`recalculateMargPurchaseOrderReceiptState` spreads what the posted receipts brought of each
product over the lines of the order, and takes the status from the two totals. The status is
right unless more of one product makes up for less of another, what came was not ordered, or no
more came than the tolerance.
-/

open KeyedTable RowTable

namespace Forecast.MargProcurement

open Manufacturing (PurchaseOrderStatus GoodsReceiptStatus)

/-- A row of `purchase_order_lines`. -/
structure PurchaseOrderLine where
  id : Id
  lineNumber : ℤ
  productId : Id
  quantity : ℚ
  receivedQty : ℚ
deriving DecidableEq

/-- A row of `purchase_orders` with its lines, which have numbers of their own. -/
structure PurchaseOrder where
  id : Id
  status : PurchaseOrderStatus
  receivedDate : Option Millis
  lines : List PurchaseOrderLine
  lines_ordered : (lines.map PurchaseOrderLine.lineNumber).Pairwise (· < ·)
deriving DecidableEq

structure GoodsReceiptLine where
  productId : Id
  quantity : ℚ
deriving DecidableEq

/-- A row of `goods_receipts` with its lines. -/
structure GoodsReceipt where
  purchaseOrderId : Option Id
  status : GoodsReceiptStatus
  receiptDate : Millis
  lines : List GoodsReceiptLine
deriving DecidableEq

structure ProcurementTables where
  purchaseOrders : List PurchaseOrder
  goodsReceipts : List GoodsReceipt
deriving DecidableEq

/-! ### The recalculation -/

def postedReceipts (purchaseOrderId : Id) (receipts : List GoodsReceipt) : List GoodsReceipt :=
  (receipts.filter fun receipt =>
    receipt.purchaseOrderId = some purchaseOrderId && receipt.status = .posted).insertionSort
      fun a b => a.receiptDate ≤ b.receiptDate

/-- What is received of each product, with the four decimals that the column keeps of it; a
quantity that is not positive is passed over. -/
def receivedByProduct (lines : List GoodsReceiptLine) : Id → ℚ :=
  lines.foldl (fun received line =>
    if line.quantity ≤ 0 then received
    else Function.update received line.productId (received line.productId + line.quantity))
    fun _ => 0

/-- The totals are running sums of binary64 numbers. -/
def totalReceivedQty (lines : List GoodsReceiptLine) : ℚ :=
  lines.foldl (fun total line =>
    if line.quantity ≤ 0 then total else Binary64.add total (Decimal.toDouble line.quantity)) 0

def totalOrderedQty (lines : List PurchaseOrderLine) : ℚ :=
  lines.foldl (fun total line => Binary64.add total (Decimal.toDouble line.quantity)) 0

def allocateReceivedQty : (Id → ℚ) → List PurchaseOrderLine → List PurchaseOrderLine
  | _, [] => []
  | received, line :: lines =>
    let remainingReceivedQty := received line.productId
    let allocatedReceivedQty := max 0 (min line.quantity remainingReceivedQty)
    { line with receivedQty := allocatedReceivedQty } ::
      allocateReceivedQty (Function.update received line.productId
        (max 0 (remainingReceivedQty - allocatedReceivedQty))) lines

theorem map_allocateReceivedQty {β : Type*} {f : PurchaseOrderLine → β}
    (hf : ∀ (line : PurchaseOrderLine) (receivedQty : ℚ), f { line with receivedQty } = f line)
    (received : Id → ℚ) (lines : List PurchaseOrderLine) :
    (allocateReceivedQty received lines).map f = lines.map f := by
  induction lines generalizing received with
  | nil => rfl
  | cons line lines ih => rw [allocateReceivedQty, List.map_cons, List.map_cons, hf, ih]

theorem allocateReceivedQty_ordered {lines : List PurchaseOrderLine}
    (h : (lines.map PurchaseOrderLine.lineNumber).Pairwise (· < ·)) (received : Id → ℚ) :
    ((allocateReceivedQty received lines).map PurchaseOrderLine.lineNumber).Pairwise (· < ·) := by
  rw [map_allocateReceivedQty fun _ _ => rfl]
  exact h

def hasReceipts (totalReceivedQty : ℚ) : Prop :=
  Decimal.toDouble stockReconciliationTolerance < totalReceivedQty

instance (totalReceivedQty : ℚ) : Decidable (hasReceipts totalReceivedQty) :=
  inferInstanceAs (Decidable (_ < _))

/-- What was received covers what was ordered, up to the tolerance. -/
def TotalsCover (totalOrderedQty totalReceivedQty : ℚ) : Prop :=
  totalOrderedQty ≤ Decimal.toDouble stockReconciliationTolerance ∨
    totalOrderedQty ≤
      Binary64.add totalReceivedQty (Decimal.toDouble stockReconciliationTolerance)

instance (totalOrderedQty totalReceivedQty : ℚ) :
    Decidable (TotalsCover totalOrderedQty totalReceivedQty) := inferInstanceAs (Decidable (_ ∨ _))

def nextStatus (totalOrderedQty totalReceivedQty : ℚ) : PurchaseOrderStatus :=
  if ¬hasReceipts totalReceivedQty then .sent
  else if TotalsCover totalOrderedQty totalReceivedQty then .received
  else .partiallyReceived

def PurchaseOrder.recalculated (order : PurchaseOrder) (receipts : List GoodsReceipt) :
    PurchaseOrder :=
  let posted := receipts.flatMap GoodsReceipt.lines
  { order with
    lines := allocateReceivedQty (receivedByProduct posted) order.lines
    lines_ordered := allocateReceivedQty_ordered order.lines_ordered (receivedByProduct posted)
    status := nextStatus (totalOrderedQty order.lines) (totalReceivedQty posted)
    receivedDate :=
      if hasReceipts (totalReceivedQty posted) then
        receipts.getLast?.map GoodsReceipt.receiptDate
      else none }

def recalculateMargPurchaseOrderReceiptState (db : ProcurementTables) (purchaseOrderId : Id) :
    ProcurementTables :=
  match lookup PurchaseOrder.id db.purchaseOrders purchaseOrderId with
  | none => db
  | some order =>
    { db with
      purchaseOrders := upsert PurchaseOrder.id db.purchaseOrders
        (order.recalculated (postedReceipts purchaseOrderId db.goodsReceipts)) }

/-! ### Quantities of a product -/

def orderedOf (lines : List PurchaseOrderLine) (productId : Id) : ℚ :=
  total (fun line => line.productId = productId) PurchaseOrderLine.quantity lines

def receivedOn (lines : List PurchaseOrderLine) (productId : Id) : ℚ :=
  total (fun line => line.productId = productId) PurchaseOrderLine.receivedQty lines

def receivedOf (lines : List GoodsReceiptLine) (productId : Id) : ℚ :=
  total (fun line => line.productId = productId) GoodsReceiptLine.quantity lines

def bringing (lines : List GoodsReceiptLine) : List GoodsReceiptLine :=
  lines.filter fun line => 0 < line.quantity

variable {posted : List GoodsReceiptLine} {lines : List PurchaseOrderLine}

theorem bringing_cons_of_pos {line : GoodsReceiptLine} (h : 0 < line.quantity) :
    bringing (line :: posted) = line :: bringing posted :=
  List.filter_cons_of_pos (decide_eq_true h)

theorem bringing_cons_of_not_pos {line : GoodsReceiptLine} (h : ¬0 < line.quantity) :
    bringing (line :: posted) = bringing posted :=
  List.filter_cons_of_neg (by rwa [decide_eq_true_eq])

theorem receivedByProduct_eq (posted : List GoodsReceiptLine) (productId : Id) :
    receivedByProduct posted productId = receivedOf (bringing posted) productId := by
  have hfrom : ∀ received : Id → ℚ,
      posted.foldl (fun received line =>
        if line.quantity ≤ 0 then received
        else Function.update received line.productId (received line.productId + line.quantity))
        received productId = received productId + receivedOf (bringing posted) productId := by
    induction posted with
    | nil => exact fun received => (add_zero _).symm
    | cons line posted ih =>
      intro received
      rw [List.foldl_cons, ih]
      by_cases hpos : 0 < line.quantity
      · rw [if_neg (not_le.2 hpos), bringing_cons_of_pos hpos, receivedOf, receivedOf, total_cons]
        by_cases hproduct : line.productId = productId
        · subst hproduct
          simp [add_assoc]
        · simp [hproduct, Function.update_of_ne (Ne.symm hproduct)]
      · rw [if_pos (not_lt.1 hpos), bringing_cons_of_not_pos hpos]
  rw [receivedByProduct, hfrom, zero_add]

theorem bringing_nonneg {line : GoodsReceiptLine} (h : line ∈ bringing posted) :
    0 ≤ line.quantity :=
  (of_decide_eq_true (List.mem_filter.1 h).2).le

theorem receivedOf_bringing_nonneg (posted : List GoodsReceiptLine) (productId : Id) :
    0 ≤ receivedOf (bringing posted) productId :=
  total_nonneg fun _ => bringing_nonneg

/-- A product of which no line is negative was brought as received; else it is brought less. -/
theorem min_receivedOf_eq_iff (posted : List GoodsReceiptLine) (productId : Id) (ordered : ℚ) :
    min ordered (receivedOf (bringing posted) productId) =
        min ordered (receivedOf posted productId) ↔
      (∀ line ∈ posted, line.productId = productId → 0 ≤ line.quantity) ∨
        ordered ≤ receivedOf posted productId := by
  have hle : receivedOf posted productId ≤ receivedOf (bringing posted) productId ∧
      (receivedOf posted productId = receivedOf (bringing posted) productId ↔
        ∀ line ∈ posted, line.productId = productId → 0 ≤ line.quantity) := by
    induction posted with
    | nil => simp [bringing]
    | cons line posted ih =>
      obtain ⟨hle, hiff⟩ := ih
      rw [List.forall_mem_cons]
      by_cases hpos : 0 < line.quantity
      · rw [bringing_cons_of_pos hpos, receivedOf, receivedOf, total_cons, total_cons,
          ← receivedOf, ← receivedOf, add_right_inj, hiff]
        exact ⟨(add_le_add_iff_left _).2 hle, (and_iff_right fun _ => hpos.le).symm⟩
      · rw [bringing_cons_of_not_pos hpos, receivedOf, total_cons, ← receivedOf]
        by_cases hproduct : line.productId = productId
        · rw [if_pos (by simpa using hproduct)]
          refine ⟨by linarith [not_lt.1 hpos], fun h => ?_, fun h => ?_⟩
          · have hzero : line.quantity = 0 := by linarith [not_lt.1 hpos]
            exact ⟨fun _ => hzero.ge, hiff.1 (by linarith)⟩
          · linarith [hiff.2 h.2, h.1 hproduct, not_lt.1 hpos]
        · rw [if_neg (by simpa using hproduct), zero_add]
          exact ⟨hle, hiff.trans (and_iff_right fun h => absurd h hproduct).symm⟩
  obtain ⟨hle, hiff⟩ := hle
  rw [← hiff]
  constructor
  · intro h
    rcases le_total ordered (receivedOf posted productId) with hcovered | hshort
    · exact .inr hcovered
    · rw [min_eq_right hshort] at h
      rcases min_choice ordered (receivedOf (bringing posted) productId) with hmin | hmin
      · exact .inr (h.symm.trans hmin).ge
      · exact .inl (h.symm.trans hmin)
  · rintro (h | h)
    · rw [h]
    · rw [min_eq_left h, min_eq_left (h.trans hle)]

/-! ### What is allocated -/

theorem receivedQty_allocateReceivedQty {received : Id → ℚ} (hreceived : ∀ p, 0 ≤ received p)
    (hquantity : ∀ line ∈ lines, 0 ≤ line.quantity) (productId : Id) :
    ((allocateReceivedQty received lines).filter fun line => line.productId = productId).map
        PurchaseOrderLine.receivedQty =
      (TakingInOrder.takes PurchaseOrderLine.quantity (received productId)
        (lines.filter fun line => line.productId = productId)).map Prod.snd := by
  induction lines generalizing received with
  | nil => rfl
  | cons line lines ih =>
    rw [List.forall_mem_cons] at hquantity
    have hmin : 0 ≤ min line.quantity (received line.productId) :=
      le_min hquantity.1 (hreceived _)
    have hrest : 0 ≤ received line.productId - min line.quantity (received line.productId) :=
      sub_nonneg.2 (min_le_right _ _)
    rw [allocateReceivedQty, max_eq_right hmin, max_eq_right hrest]
    have hupdated : ∀ p, 0 ≤ Function.update received line.productId
        (received line.productId - min line.quantity (received line.productId)) p := by
      intro p
      by_cases hp : p = line.productId
      · subst hp
        rw [Function.update_self]
        exact hrest
      · rw [Function.update_of_ne hp]
        exact hreceived p
    by_cases hproduct : line.productId = productId
    · rw [List.filter_cons_of_pos (by simpa using hproduct), List.map_cons,
        List.filter_cons_of_pos (by simpa using hproduct), TakingInOrder.takes, List.map_cons,
        ih hupdated hquantity.2, ← hproduct, Function.update_self, min_comm]
    · rw [List.filter_cons_of_neg (by simpa using hproduct),
        List.filter_cons_of_neg (by simpa using hproduct), ih hupdated hquantity.2,
        Function.update_of_ne (Ne.symm hproduct)]

theorem receivedOn_allocateReceivedQty {received : Id → ℚ} (hreceived : ∀ p, 0 ≤ received p)
    (hquantity : ∀ line ∈ lines, 0 ≤ line.quantity) (productId : Id) :
    receivedOn (allocateReceivedQty received lines) productId =
      min (orderedOf lines productId) (received productId) := by
  rw [receivedOn, total, receivedQty_allocateReceivedQty hreceived hquantity,
    TakingInOrder.sum_takes (hreceived productId) fun line hline =>
      hquantity line (List.mem_of_mem_filter hline), min_comm]
  rfl

theorem orderedOf_allocateReceivedQty (received : Id → ℚ) (lines : List PurchaseOrderLine)
    (productId : Id) :
    orderedOf (allocateReceivedQty received lines) productId = orderedOf lines productId := by
  induction lines generalizing received with
  | nil => rfl
  | cons line lines ih =>
    rw [allocateReceivedQty, orderedOf, orderedOf, total_cons, total_cons, ← orderedOf,
      ← orderedOf, ih]

/-- A line gets something that is not negative, and more than its quantity if that is negative. -/
theorem bounds_of_mem_allocateReceivedQty {received : Id → ℚ} {line : PurchaseOrderLine}
    (h : line ∈ allocateReceivedQty received lines) :
    0 ≤ line.receivedQty ∧ line.receivedQty ≤ max 0 line.quantity := by
  induction lines generalizing received with
  | nil => cases h
  | cons first lines ih =>
    rw [allocateReceivedQty] at h
    rcases List.mem_cons.1 h with rfl | h
    · exact ⟨le_max_left _ _, max_le_max_left 0 (min_le_left _ _)⟩
    · exact ih h

theorem receivedQty_le {received : Id → ℚ} (hquantity : ∀ line ∈ lines, 0 ≤ line.quantity)
    {line : PurchaseOrderLine} (h : line ∈ allocateReceivedQty received lines) :
    line.receivedQty ≤ line.quantity := by
  have hmem : line.quantity ∈ lines.map PurchaseOrderLine.quantity := by
    rw [← map_allocateReceivedQty (fun _ _ => rfl) received lines]
    exact List.mem_map_of_mem h
  obtain ⟨other, hother, hsame⟩ := List.mem_map.1 hmem
  have hle := (bounds_of_mem_allocateReceivedQty h).2
  rwa [max_eq_right (hsame ▸ hquantity other hother)] at hle

/-- A line that gets no more than its quantity has one that is not negative. -/
theorem quantity_nonneg {received : Id → ℚ}
    (h : ∀ line ∈ allocateReceivedQty received lines, line.receivedQty ≤ line.quantity) :
    ∀ line ∈ lines, 0 ≤ line.quantity := by
  intro line hline
  have hmem : line.quantity ∈ (allocateReceivedQty received lines).map
      PurchaseOrderLine.quantity := by
    rw [map_allocateReceivedQty fun _ _ => rfl]
    exact List.mem_map_of_mem hline
  obtain ⟨other, hother, hsame⟩ := List.mem_map.1 hmem
  rw [← hsame]
  exact (bounds_of_mem_allocateReceivedQty hother).1.trans (h other hother)

theorem forall_full_iff {received : Id → ℚ} (hreceived : ∀ p, 0 ≤ received p)
    (hquantity : ∀ line ∈ lines, 0 ≤ line.quantity) :
    (∀ line ∈ allocateReceivedQty received lines, line.quantity ≤ line.receivedQty) ↔
      ∀ p, orderedOf lines p ≤ received p := by
  have hbounds : ∀ line ∈ allocateReceivedQty received lines,
      0 ≤ line.quantity - line.receivedQty := fun _ hline =>
    sub_nonneg.2 (receivedQty_le hquantity hline)
  constructor
  · intro hfull p
    have hle : orderedOf (allocateReceivedQty received lines) p ≤
        receivedOn (allocateReceivedQty received lines) p := by
      apply total_mono
      intro line hline
      split_ifs
      · exact hfull line hline
      · exact le_rfl
    rw [orderedOf_allocateReceivedQty, receivedOn_allocateReceivedQty hreceived hquantity] at hle
    exact hle.trans (min_le_right _ _)
  · intro hcovered line hline
    have hle := le_total hbounds hline (p := fun other => other.productId = line.productId)
      (decide_eq_true rfl)
    rw [total_sub, ← orderedOf, ← receivedOn, orderedOf_allocateReceivedQty,
      receivedOn_allocateReceivedQty hreceived hquantity, min_eq_left (hcovered _), sub_self] at hle
    linarith

/-- No line gets anything where no product that is ordered came. -/
theorem forall_nothing_iff {received : Id → ℚ} (hreceived : ∀ p, 0 ≤ received p)
    (hquantity : ∀ line ∈ lines, 0 ≤ line.quantity) :
    (∀ line ∈ allocateReceivedQty received lines, line.receivedQty = 0) ↔
      ¬∃ p, 0 < orderedOf lines p ∧ 0 < received p := by
  have hreceivedOn := receivedOn_allocateReceivedQty hreceived hquantity
  constructor
  · rintro hnothing ⟨p, hordered, hpos⟩
    have hle : receivedOn (allocateReceivedQty received lines) p ≤
        total (fun _ => true) (fun _ => 0) (allocateReceivedQty received lines) := by
      apply total_mono
      intro line hline
      rw [hnothing line hline, ite_self, ite_self]
    have hzero : total (fun _ => true) (fun _ => (0 : ℚ)) (allocateReceivedQty received lines) =
        0 := by simp [total]
    rw [hreceivedOn, hzero] at hle
    exact absurd (lt_min hordered hpos) (not_lt.2 hle)
  · intro hnone line hline
    have hle := le_total (fun other hother => (bounds_of_mem_allocateReceivedQty hother).1) hline
      (p := fun other => other.productId = line.productId) (decide_eq_true rfl)
    rw [← receivedOn, hreceivedOn] at hle
    apply le_antisymm (hle.trans _) (bounds_of_mem_allocateReceivedQty hline).1
    by_contra hpos
    exact hnone ⟨line.productId, lt_min_iff.1 (not_le.1 hpos)⟩

/-! ### The law -/

/-- The recalculated order shows what the lines of its receipts brought. -/
structure PurchaseOrder.Shows (order : PurchaseOrder) (posted : List GoodsReceiptLine) : Prop where
  total : ∀ p, receivedOn order.lines p = min (orderedOf order.lines p) (receivedOf posted p)
  bounded : ∀ line ∈ order.lines, line.receivedQty ≤ line.quantity
  received_iff : order.status = .received ↔
    ∀ line ∈ order.lines, line.quantity ≤ line.receivedQty
  sent_iff : order.status = .sent ↔ ∀ line ∈ order.lines, line.receivedQty = 0

/-- When the totals tell how the lines of an order have been received. -/
structure TotalsTell (lines : List PurchaseOrderLine) (posted : List GoodsReceiptLine) : Prop where
  /-- No line orders a negative quantity. -/
  nonneg : ∀ line ∈ lines, 0 ≤ line.quantity
  /-- Something is ordered. -/
  ordered : ∃ p, 0 < orderedOf lines p
  /-- A product with a negative receipt line is covered all the same. -/
  returned : ∀ p, (∀ line ∈ posted, line.productId = p → 0 ≤ line.quantity) ∨
    orderedOf lines p ≤ receivedOf posted p
  /-- More than the tolerance came if and only if something that is ordered did. -/
  came : hasReceipts (totalReceivedQty posted) ↔
    ∃ p, 0 < orderedOf lines p ∧ 0 < receivedOf (bringing posted) p
  /-- Nothing makes up for a product that is short, and no rounding for one that is not. -/
  covers : hasReceipts (totalReceivedQty posted) →
    (TotalsCover (totalOrderedQty lines) (totalReceivedQty posted) ↔
      ∀ p, orderedOf lines p ≤ receivedOf (bringing posted) p)

theorem nextStatus_eq_sent_iff (ordered received : ℚ) :
    nextStatus ordered received = .sent ↔ ¬hasReceipts received := by
  unfold nextStatus
  split_ifs <;> simp_all

example : nextStatus 10 4 = .partiallyReceived := by decide +kernel

theorem nextStatus_eq_received_iff (ordered received : ℚ) :
    nextStatus ordered received = .received ↔
      hasReceipts received ∧ TotalsCover ordered received := by
  unfold nextStatus
  split_ifs <;> simp_all

theorem statuses_iff (hreceived : ∀ p, 0 ≤ receivedOf (bringing posted) p) :
    ((nextStatus (totalOrderedQty lines) (totalReceivedQty posted) = .received ↔
        ∀ p, orderedOf lines p ≤ receivedOf (bringing posted) p) ∧
      (nextStatus (totalOrderedQty lines) (totalReceivedQty posted) = .sent ↔
        ¬∃ p, 0 < orderedOf lines p ∧ 0 < receivedOf (bringing posted) p)) ↔
    (∃ p, 0 < orderedOf lines p) ∧
      (hasReceipts (totalReceivedQty posted) ↔
        ∃ p, 0 < orderedOf lines p ∧ 0 < receivedOf (bringing posted) p) ∧
      (hasReceipts (totalReceivedQty posted) →
        (TotalsCover (totalOrderedQty lines) (totalReceivedQty posted) ↔
          ∀ p, orderedOf lines p ≤ receivedOf (bringing posted) p)) := by
  rw [nextStatus_eq_sent_iff, nextStatus_eq_received_iff, not_iff_not]
  constructor
  · rintro ⟨hfull, hcame⟩
    refine ⟨?_, hcame, fun hmore => ⟨fun hcover => hfull.1 ⟨hmore, hcover⟩,
      fun hcovered => (hfull.2 hcovered).2⟩⟩
    by_contra hnone
    have hcovered : ∀ p, orderedOf lines p ≤ receivedOf (bringing posted) p := fun p =>
      (not_lt.1 fun hpos => hnone ⟨p, hpos⟩).trans (hreceived p)
    obtain ⟨p, hpos, -⟩ := hcame.1 (hfull.2 hcovered).1
    exact hnone ⟨p, hpos⟩
  · rintro ⟨⟨p, hpos⟩, hcame, hcovers⟩
    refine ⟨⟨fun h => (hcovers h.1).1 h.2, fun hcovered => ?_⟩, hcame⟩
    have hmore := hcame.2 ⟨p, hpos, hpos.trans_le (hcovered p)⟩
    exact ⟨hmore, (hcovers hmore).2 hcovered⟩

theorem PurchaseOrder.shows_recalculated_iff (order : PurchaseOrder)
    (receipts : List GoodsReceipt) :
    (order.recalculated receipts).Shows (receipts.flatMap GoodsReceipt.lines) ↔
      TotalsTell order.lines (receipts.flatMap GoodsReceipt.lines) := by
  generalize hposted : receipts.flatMap GoodsReceipt.lines = posted
  have hlines : (order.recalculated receipts).lines =
      allocateReceivedQty (receivedOf (bringing posted)) order.lines := by
    rw [← hposted, ← funext (receivedByProduct_eq _)]
    rfl
  have hstatus : (order.recalculated receipts).status =
      nextStatus (totalOrderedQty order.lines) (totalReceivedQty posted) := by
    rw [← hposted]
    rfl
  have hreceived := receivedOf_bringing_nonneg posted
  constructor
  · intro hshows
    have hquantity : ∀ line ∈ order.lines, 0 ≤ line.quantity := by
      apply quantity_nonneg
      rw [← hlines]
      exact hshows.bounded
    have hfull := hshows.received_iff
    have hnothing := hshows.sent_iff
    rw [hstatus, hlines, forall_full_iff hreceived hquantity] at hfull
    rw [hstatus, hlines, forall_nothing_iff hreceived hquantity] at hnothing
    obtain ⟨hordered, hcame, hcovers⟩ := (statuses_iff hreceived).1 ⟨hfull, hnothing⟩
    refine ⟨hquantity, hordered, fun p => ?_, hcame, hcovers⟩
    have htotal := hshows.total p
    rw [hlines, receivedOn_allocateReceivedQty hreceived hquantity,
      orderedOf_allocateReceivedQty] at htotal
    exact (min_receivedOf_eq_iff posted p _).1 htotal
  · intro htell
    obtain ⟨hfull, hnothing⟩ := (statuses_iff hreceived).2 ⟨htell.ordered, htell.came, htell.covers⟩
    refine ⟨fun p => ?_, ?_, ?_, ?_⟩
    · rw [hlines, receivedOn_allocateReceivedQty hreceived htell.nonneg,
        orderedOf_allocateReceivedQty]
      exact (min_receivedOf_eq_iff posted p _).2 (htell.returned p)
    · intro line hline
      rw [hlines] at hline
      exact receivedQty_le htell.nonneg hline
    · rw [hstatus, hlines, forall_full_iff hreceived htell.nonneg]
      exact hfull
    · rw [hstatus, hlines, forall_nothing_iff hreceived htell.nonneg]
      exact hnothing

def postedLines (db : ProcurementTables) (purchaseOrderId : Id) : List GoodsReceiptLine :=
  (postedReceipts purchaseOrderId db.goodsReceipts).flatMap GoodsReceipt.lines

/-- The order is right after the recalculation if and only if the totals tell. -/
theorem exists_shows_iff_totalsTell (db : ProcurementTables) {purchaseOrderId : Id}
    {order : PurchaseOrder}
    (h : lookup PurchaseOrder.id db.purchaseOrders purchaseOrderId = some order) :
    (∃ recalculated,
      lookup PurchaseOrder.id
        (recalculateMargPurchaseOrderReceiptState db purchaseOrderId).purchaseOrders
        purchaseOrderId = some recalculated ∧
      recalculated.Shows (postedLines db purchaseOrderId)) ↔
    TotalsTell order.lines (postedLines db purchaseOrderId) := by
  have hfound : lookup PurchaseOrder.id
      (recalculateMargPurchaseOrderReceiptState db purchaseOrderId).purchaseOrders
      purchaseOrderId =
        some (order.recalculated (postedReceipts purchaseOrderId db.goodsReceipts)) := by
    rw [recalculateMargPurchaseOrderReceiptState, h]
    dsimp only
    rw [lookup_upsert, if_pos]
    exact (lookup_eq_some h).2
  rw [hfound, postedLines, ← order.shows_recalculated_iff]
  simp only [Option.some.injEq, exists_eq_left']

/-! ### The orders that the projection writes -/

/-- The lines of a document have the numbers from 1 on. -/
def Numbered (input : MargNumbers.PurchaseOrder) : Prop :=
  (input.lines.map fun line => line.lineNumber).Pairwise (· < ·)

theorem numbered_mapIdx {β : Type*} {row : ℕ → β → MargNumbers.PurchaseOrderLine}
    (h : ∀ i x, (row i x).lineNumber = i + 1) (xs : List β) :
    ((xs.mapIdx row).map fun line => line.lineNumber).Pairwise (· < ·) := by
  rw [List.pairwise_iff_getElem]
  intro i j hi hj hij
  simp only [List.getElem_map, List.getElem_mapIdx, h]
  omega

theorem numbered_of_purchaseOrderOf {platform : Platform} {directory : MargNumbers.Directory}
    {docs : MargDocuments} {v : MargVoucher} {input : MargNumbers.PurchaseOrder}
    (h : MargNumbers.purchaseOrderOf platform directory docs v = some input) : Numbered input := by
  obtain ⟨_, -, h⟩ := Option.bind_eq_some_iff.1 h
  obtain ⟨_, -, h⟩ := Option.bind_eq_some_iff.1 h
  obtain rfl := Option.some.inj h
  exact numbered_mapIdx (fun _ _ => rfl) _

theorem numbered_order (draft : MargNumbers.FallbackDraft) : Numbered draft.order :=
  numbered_mapIdx (fun _ _ => rfl) _

/-- The row that a document is written to; its lines are new ones. -/
def upsertMargPurchaseOrder (id : Id) (lineId : ℕ → Id) (receivedDate : Option Millis)
    (input : MargNumbers.PurchaseOrder) (hnumbered : Numbered input) : PurchaseOrder where
  id := id
  status := .sent
  receivedDate := receivedDate
  lines := input.lines.map fun line =>
    ⟨lineId line.lineNumber, line.lineNumber, line.productId,
      DecimalColumn.roundToScale 4 line.quantity, 0⟩
  lines_ordered := by
    rw [List.map_map]
    exact List.pairwise_map.2 ((List.pairwise_map.1 hnumbered).imp Int.ofNat_lt.2)

theorem allocateReceivedQty_nothing {lines : List PurchaseOrderLine}
    (h : ∀ line ∈ lines, line.receivedQty = 0) :
    allocateReceivedQty (fun _ => 0) lines = lines := by
  induction lines with
  | nil => rfl
  | cons line lines ih =>
    have hnone : max 0 (min line.quantity 0) = 0 := max_eq_left (min_le_right _ _)
    rw [allocateReceivedQty]
    simp only [hnone, sub_zero, max_self, Function.update_eq_self_iff.2,
      ih fun l hl => h l (List.mem_cons_of_mem _ hl)]
    rw [← h line List.mem_cons_self]

/-- A document that no receipt names yet is in its table as a recalculation would leave it. -/
theorem recalculated_upsertMargPurchaseOrder (id : Id) (lineId : ℕ → Id)
    (input : MargNumbers.PurchaseOrder) (hnumbered : Numbered input) :
    (upsertMargPurchaseOrder id lineId none input hnumbered).recalculated [] =
      upsertMargPurchaseOrder id lineId none input hnumbered := by
  have hreceipts : ¬hasReceipts (totalReceivedQty []) := by decide +kernel
  have hnothing : ∀ line ∈ (upsertMargPurchaseOrder id lineId none input hnumbered).lines,
      line.receivedQty = 0 := by
    intro line hline
    obtain ⟨_, -, rfl⟩ := List.mem_map.1 hline
    rfl
  have hlines := allocateReceivedQty_nothing hnothing
  simp only [PurchaseOrder.recalculated, List.flatMap_nil, receivedByProduct, List.foldl_nil,
    hlines, nextStatus, hreceipts, not_false_eq_true, if_true, if_false]
  rfl

/-- Ten pieces of each of two products. -/
def twoProducts : PurchaseOrder where
  id := 1
  status := .sent
  receivedDate := none
  lines := [⟨1, 1, 7, 10, 0⟩, ⟨2, 2, 8, 10, 0⟩]
  lines_ordered := by decide

def withReceipt (received : List GoodsReceiptLine) : ProcurementTables where
  purchaseOrders := [twoProducts]
  goodsReceipts := [⟨some 1, .posted, 0, received⟩]

theorem totalsTell_bothCame :
    TotalsTell twoProducts.lines (postedLines (withReceipt [⟨7, 10⟩, ⟨8, 10⟩]) 1) := by
  have hlines : postedLines (withReceipt [⟨7, 10⟩, ⟨8, 10⟩]) 1 = [⟨7, 10⟩, ⟨8, 10⟩] := by
    decide +kernel
  rw [hlines]
  refine ⟨by decide +kernel, ⟨7, by decide +kernel⟩, fun _ => .inl ?_, ?_, fun _ => ?_⟩
  · have hnonneg : ∀ line ∈ [GoodsReceiptLine.mk 7 10, ⟨8, 10⟩], 0 ≤ line.quantity := by
      decide +kernel
    exact fun line hline _ => hnonneg line hline
  · exact iff_of_true (by decide +kernel) ⟨7, by decide +kernel, by decide +kernel⟩
  · refine iff_of_true (by decide +kernel) fun p => ?_
    have hbringing : bringing [⟨7, 10⟩, ⟨8, 10⟩] = [⟨7, 10⟩, ⟨8, 10⟩] := by decide +kernel
    have hequal : receivedOf (bringing [⟨7, 10⟩, ⟨8, 10⟩]) p = orderedOf twoProducts.lines p := by
      rw [hbringing, receivedOf, orderedOf]
      simp only [twoProducts, total_cons, total_nil]
    exact hequal.ge

/-- Both products came. -/
theorem exists_shows_bothCame :
    ∃ recalculated,
      lookup PurchaseOrder.id (recalculateMargPurchaseOrderReceiptState
        (withReceipt [⟨7, 10⟩, ⟨8, 10⟩]) 1).purchaseOrders 1 = some recalculated ∧
      recalculated.Shows (postedLines (withReceipt [⟨7, 10⟩, ⟨8, 10⟩]) 1) := by
  have hfound : lookup PurchaseOrder.id
      (withReceipt [⟨7, 10⟩, ⟨8, 10⟩]).purchaseOrders 1 = some twoProducts := rfl
  exact (exists_shows_iff_totalsTell (withReceipt [⟨7, 10⟩, ⟨8, 10⟩]) hfound).2
    totalsTell_bothCame

/-- Twenty pieces of one product and none of the other count as the order. -/
theorem not_exists_shows_oneCame :
    ¬∀ (db : ProcurementTables) (purchaseOrderId : Id) (order : PurchaseOrder),
      lookup PurchaseOrder.id db.purchaseOrders purchaseOrderId = some order →
      ∃ recalculated,
        lookup PurchaseOrder.id
          (recalculateMargPurchaseOrderReceiptState db purchaseOrderId).purchaseOrders
          purchaseOrderId = some recalculated ∧
        recalculated.Shows (postedLines db purchaseOrderId) := by
  intro h
  obtain ⟨recalculated, hfound, hshows⟩ := h (withReceipt [⟨7, 20⟩]) 1 twoProducts rfl
  have hout : (lookup PurchaseOrder.id (recalculateMargPurchaseOrderReceiptState
      (withReceipt [⟨7, 20⟩]) 1).purchaseOrders 1).map (fun order => (order.status, order.lines)) =
        some (.received, [⟨1, 1, 7, 10, 10⟩, ⟨2, 2, 8, 10, 0⟩]) := by
    decide +kernel
  rw [hfound, Option.map_some, Option.some.injEq, Prod.mk.injEq] at hout
  have hfull := hshows.received_iff.1 hout.1
  rw [hout.2] at hfull
  have hsecond : (10 : ℚ) ≤ 0 := hfull ⟨2, 2, 8, 10, 0⟩ (by simp)
  norm_num at hsecond

end Forecast.MargProcurement
