import Forecast.Marg.StockScopes
import Forecast.Marg.VoucherActuals

/-!
# The bill rollup

Reports read `marg_bill_rollup`, which is rebuilt from the staged documents: one
bill for each live header, over the live lines that share company and number
with it. A line is counted once exactly when no second live header shares them.
-/

open JsText Grouping

namespace Forecast

/-- A row of `marg_bill_rollup`, over the header it copies. -/
structure MargBill where
  header : MargVoucher
  family : MargType2DocumentFamily
  salesAmountSign : ℚ
  purchaseAmountSign : ℚ
  quantity : ℚ
  itemCount : ℕ
  grossAmount : ℚ
  discount : ℚ
  taxAmount : ℚ
  netAmount : ℚ
  costAmount : ℚ
  signedSalesAmount : ℚ
  signedSalesQuantity : ℚ
  signedPurchaseAmount : ℚ
  signedPurchaseQuantity : ℚ
deriving DecidableEq

namespace MargTransaction

def quantity (line : MargTransaction) : ℚ := |line.qty.getD 0|

def grossAmount (line : MargTransaction) : ℚ := line.quantity * line.rate.getD 0

def taxAmount (line : MargTransaction) : ℚ := |line.gstAmount.getD 0|

/-- `ABS(amount) + ABS(gst_amount)` -/
def netAmount (line : MargTransaction) : ℚ := |line.amount.getD 0| + line.taxAmount

def discount (line : MargTransaction) : ℚ := max (line.grossAmount - |line.amount.getD 0|) 0

def laterStock (best : Option MargStock) (s : MargStock) : Option MargStock :=
  if best.any fun b => s.updatedAt ≤ b.updatedAt then best else some s

def costRow (stocks : List MargStock) (line : MargTransaction) : Option MargStock :=
  (stocks.filter fun s => s.companyId = line.companyId ∧ line.pid.text ≠ "" ∧ s.pid = line.pid ∧
    (line.batch.text = "" ∨ s.batch = line.batch)).foldl laterStock none

def costAmount (stocks : List MargStock) (line : MargTransaction) : ℚ :=
  line.quantity * (((line.costRow stocks).bind fun s => s.pRate.or s.lpRate).getD 0)

end MargTransaction

namespace MargDocuments

variable (upper : String → String) (stocks : List MargStock) (docs : MargDocuments)

/-- A measure of the lines joined to a header; a header without lines has none of it. -/
def joinedSum (measure : MargTransaction → ℚ) (v : MargVoucher) : ℚ :=
  matchedSum MargVoucher.sharesNumber measure docs.liveLines v

/-- The row that the rollup groups for a header. -/
def bill (v : MargVoucher) : MargBill :=
  let family := familyColumn upper v
  let quantity := docs.joinedSum MargTransaction.quantity v
  let netAmount := v.finalAmt.getD (docs.joinedSum MargTransaction.netAmount v)
  { header := v
    family := family
    salesAmountSign := margSalesAmountSign family
    purchaseAmountSign := margPurchaseAmountSign family
    quantity := quantity
    itemCount := (((docs.liveLines.filter v.sharesNumber).map MargTransaction.pid).filter
      fun pid => pid.text ≠ "").dedup.length
    grossAmount := docs.joinedSum MargTransaction.grossAmount v
    discount := docs.joinedSum MargTransaction.discount v
    taxAmount := docs.joinedSum MargTransaction.taxAmount v
    netAmount := netAmount
    costAmount := docs.joinedSum (MargTransaction.costAmount stocks) v
    signedSalesAmount := netAmount * margSalesAmountSign family
    signedSalesQuantity := quantity * margSalesAmountSign family
    signedPurchaseAmount := netAmount * margPurchaseAmountSign family
    signedPurchaseQuantity := quantity * margPurchaseAmountSign family }

/-- The unique columns of a header are among the columns grouped by, so each header is a group. -/
def refreshMargBillRollup : List MargBill := docs.liveVouchers.map (docs.bill upper stocks)

def billsOf (line : MargTransaction) : List MargBill :=
  (docs.refreshMargBillRollup upper stocks).filter fun b => b.header.sharesNumber line

def headedLines : List MargTransaction :=
  docs.liveLines.filter fun line => docs.liveVouchers.any (·.sharesNumber line)

/-- The rollup counts each live line with a live header once, and its sums are those of the lines. -/
structure RollupLaw : Prop where
  once : ∀ line ∈ docs.headedLines, (docs.billsOf upper stocks line).length = 1
  quantity : ((docs.refreshMargBillRollup upper stocks).map MargBill.quantity).sum =
    (docs.headedLines.map MargTransaction.quantity).sum
  gross : ((docs.refreshMargBillRollup upper stocks).map MargBill.grossAmount).sum =
    (docs.headedLines.map MargTransaction.grossAmount).sum
  tax : ((docs.refreshMargBillRollup upper stocks).map MargBill.taxAmount).sum =
    (docs.headedLines.map MargTransaction.taxAmount).sum

/-- No two live headers share company and number with one live line. -/
def NumbersUnshared : Prop :=
  ∀ line ∈ docs.liveLines, ∀ v ∈ docs.liveVouchers, ∀ w ∈ docs.liveVouchers,
    v.sharesNumber line → w.sharesNumber line → v = w

variable {upper stocks docs}

theorem length_billsOf (line : MargTransaction) :
    (docs.billsOf upper stocks line).length = docs.liveVouchers.countP (·.sharesNumber line) := by
  rw [billsOf, refreshMargBillRollup, List.filter_map, List.length_map, List.countP_eq_length_filter]
  rfl

theorem numbersUnshared_iff_countP_le_one :
    docs.NumbersUnshared ↔
      ∀ line ∈ docs.liveLines, docs.liveVouchers.countP (·.sharesNumber line) ≤ 1 := by
  unfold NumbersUnshared
  apply forall₂_congr
  intro line _
  exact (countP_le_one_iff docs.nodup_liveVouchers).symm

theorem sum_joinedSum (h : docs.NumbersUnshared) (measure : MargTransaction → ℚ) :
    (docs.liveVouchers.map (docs.joinedSum measure)).sum = (docs.headedLines.map measure).sum :=
  sum_matchedSum_of_countP_le_one measure (numbersUnshared_iff_countP_le_one.1 h)

end MargDocuments

/-- The rollup counts every line once exactly when no live headers share a live line's number. -/
theorem rollupLaw_iff_numbersUnshared (upper : String → String) (stocks : List MargStock)
    (docs : MargDocuments) : docs.RollupLaw upper stocks ↔ docs.NumbersUnshared := by
  constructor
  · intro h
    rw [MargDocuments.numbersUnshared_iff_countP_le_one]
    intro line hline
    by_cases hany : docs.liveVouchers.any (·.sharesNumber line)
    · have honce := h.once line (List.mem_filter.2 ⟨hline, hany⟩)
      rw [MargDocuments.length_billsOf] at honce
      exact honce.le
    · have hzero : docs.liveVouchers.countP (·.sharesNumber line) = 0 := by
        rw [List.countP_eq_zero]
        intro v hv hshares
        exact hany (List.any_eq_true.2 ⟨v, hv, hshares⟩)
      omega
  · intro h
    have hsum := MargDocuments.sum_joinedSum h
    refine ⟨?_, ?_, ?_, ?_⟩
    · intro line hline
      obtain ⟨hlive, hany⟩ := List.mem_filter.1 hline
      obtain ⟨v, hv, hshares⟩ := List.any_eq_true.1 hany
      have hpos : 0 < docs.liveVouchers.countP (·.sharesNumber line) :=
        List.countP_pos_iff.2 ⟨v, hv, hshares⟩
      have hle := MargDocuments.numbersUnshared_iff_countP_le_one.1 h line hlive
      rw [MargDocuments.length_billsOf]
      omega
    · rw [← hsum, MargDocuments.refreshMargBillRollup, List.map_map]
      rfl
    · rw [← hsum, MargDocuments.refreshMargBillRollup, List.map_map]
      rfl
    · rw [← hsum, MargDocuments.refreshMargBillRollup, List.map_map]
      rfl

/-- A sale and a purchase of one company that share their number. -/
def sharedNumber : MargDocuments where
  vouchers := [invoiceHeader "I;GST", { invoiceHeader "I;GST" with type := .of "P" }]
  vouchers_nodup := by decide +kernel
  lines := [invoiceLine "I;GST"]
  lines_nodup := nodup_invoiceLine "I;GST"

/-- The line of the sale is counted in the bill of the purchase too. -/
theorem not_rollupLaw_sharedNumber : ¬sharedNumber.RollupLaw (String.map Char.toUpper) [] := by
  intro h
  have honce := h.once (invoiceLine "I;GST") (by decide +kernel)
  revert honce
  decide +kernel

end Forecast
