import Forecast.Marg.FamilyColumn

/-!
# The actuals of a voucher

Each staged line of a voucher projects an actual of its own, and the voucher one
adjustment that bridges the lines and its final amount. Reports expect the
actuals of a voucher to add up to its final amount times the sign of its family;
`discrepancy` is what they add up to beyond that, computed from the staged rows.
-/

open JsText

namespace Forecast

/-- The core rows that the staged codes of a tenant are linked to. -/
structure MasterLinks where
  productId : ℤ → Trimmed → Option Id
  customerId : ℤ → Trimmed → Option Id
  locationId : ℤ → Option Id

/-- A row of `actuals` whose source system is Marg. -/
structure Actual where
  sourceReference : String
  actualType : ActualType
  periodDate : Millis
  productId : Option Id
  customerId : Option Id
  locationId : Option Id
  quantity : Option ℚ
  amount : ℚ
deriving DecidableEq

/-! ### The actual of a line -/

/-- What the column of an amount keeps of a number. -/
def storedAmount (amount : ℚ) : ℚ := GridRounding.roundTo (1 / 10 ^ 4) amount

def resolveMargLineTaxInclusiveAmount (amount gstAmount : Option ℚ) : Option ℚ :=
  amount.map fun numericAmount =>
    let safeGst := gstAmount.getD 0
    if safeGst = 0 then numericAmount
    else storedAmount (Binary64.add (Decimal.toDouble numericAmount)
      ((if numericAmount < 0 then -1 else 1) * |Decimal.toDouble safeGst|))

section Projection

variable (platform : Platform) (links : MasterLinks)

def MargType2ProjectionDecision.projectedAmount (decision : MargType2ProjectionDecision) :
    Option (ActualType × ℚ) :=
  match decision.actualType, decision.actualAmount with
  | some type, some amount =>
    if decision.shouldProjectActual ∧ amount ≠ 0 then some (type, amount) else none
  | _, _ => none

/-- A line whose product is not known projects nothing. -/
def lineActual (vouchers : List MargVoucher) (line : MargTransaction) : Option Actual :=
  let decision := lineDecision platform vouchers line
    (resolveMargLineTaxInclusiveAmount line.amount line.gstAmount)
  match line.amount, decision.projectedAmount with
  | some _, some (type, amount) =>
    if line.pid.text = "" then none
    else (links.productId line.companyId line.pid).map fun productId =>
      { sourceReference := line.sourceKey
        actualType := type
        periodDate := line.date
        productId := some productId
        customerId :=
          if decision.customerFacing ∧ line.cid.text ≠ "" then
            links.customerId line.companyId line.cid
          else none
        locationId := links.locationId line.companyId
        quantity := decision.actualQuantity.filter (· ≠ 0)
        amount := amount }
  | _, _ => none

/-! ### The adjustment of a voucher -/

structure MargVoucherActualDecision where
  actualType : ActualType
  signMultiplier : ℚ
  customerFacing : Bool

def resolveMargVoucherActualDecision (voucherType : String) : Option MargVoucherActualDecision :=
  let type := upperText platform voucherType
  if type = "S" then some ⟨.sales, 1, true⟩
  else if type = "R" ∨ type = "T" then some ⟨.sales, -1, true⟩
  else if type = "P" then some ⟨.purchases, 1, false⟩
  else if type = "B" then some ⟨.purchases, -1, false⟩
  else none

/-- The lines with the number of a voucher, whatever document they belong to. -/
def linesOfNumber (lines : List MargTransaction) (v : MargVoucher) : List MargTransaction :=
  lines.filter v.sharesNumber

def lineSum (lines : List MargTransaction) (v : MargVoucher) : ℚ :=
  ((linesOfNumber lines v).map fun line => line.amount.getD 0).sum

def gstSum (lines : List MargTransaction) (v : MargVoucher) : ℚ :=
  ((linesOfNumber lines v).map fun line => line.gstAmount.getD 0).sum

/-- `finalAmt - (lineSum + gstSum)` in binary64; the database adds up each sum exactly. -/
def adjustment (lines : List MargTransaction) (v : MargVoucher) (finalAmt : ℚ) : ℚ :=
  Binary64.sub (Decimal.toDouble finalAmt)
    (Binary64.add (Decimal.toDouble (lineSum lines v)) (Decimal.toDouble (gstSum lines v)))

def adjustmentSourceKey (v : MargVoucher) : String :=
  let companyId := toString v.companyId
  let voucher := v.voucher.text
  let type := v.type.text
  s!"marg:adj:{companyId}:{voucher}:{type}"

/-- A residual below half a rupee is left alone. -/
def adjustmentThreshold : ℚ := 1 / 2

def voucherAdjustment (lines : List MargTransaction) (v : MargVoucher) : Option Actual :=
  match v.finalAmt, resolveMargVoucherActualDecision platform v.type.text with
  | some finalAmt, some decision =>
    let adjustmentSigned := decision.signMultiplier * adjustment lines v finalAmt
    if v.isCancelled ∨ finalAmt = 0 ∨ |adjustmentSigned| < adjustmentThreshold then none
    else some
      { sourceReference := adjustmentSourceKey v
        actualType := decision.actualType
        periodDate := v.date
        productId := none
        customerId :=
          if decision.customerFacing ∧ v.cid.text ≠ "" then links.customerId v.companyId v.cid
          else none
        locationId := links.locationId v.companyId
        quantity := none
        amount := storedAmount adjustmentSigned }
  | _, _ => none

/-- The lines whose projections take the voucher for their header. -/
def linesUnder (vouchers : List MargVoucher) (lines : List MargTransaction) (v : MargVoucher) :
    List MargTransaction :=
  lines.filter fun line =>
    selectMargVoucherContextForTransaction platform line (loadMargVoucherContexts vouchers line) =
      some v

def projectedActuals (vouchers : List MargVoucher) (lines : List MargTransaction)
    (v : MargVoucher) : List Actual :=
  (linesUnder platform vouchers lines v).filterMap (lineActual platform links vouchers) ++
    (voucherAdjustment platform links lines v).toList

end Projection

/-! ### What the actuals should add up to -/

def margSalesAmountSign : MargType2DocumentFamily → ℚ
  | .salesInvoice => 1
  | .salesReturn | .salesBrkExpReceive => -1
  | _ => 0

def margPurchaseAmountSign : MargType2DocumentFamily → ℚ
  | .purchaseInvoice => 1
  | .purchaseReturn | .purchaseBrkExpReturn => -1
  | _ => 0

/-- The two kinds of commercial actuals. -/
inductive CommercialSide where
  | sales
  | purchases
deriving DecidableEq

namespace CommercialSide

def actualType : CommercialSide → ActualType
  | sales => .sales
  | purchases => .purchases

def amountSign : CommercialSide → MargType2DocumentFamily → ℚ
  | sales => margSalesAmountSign
  | purchases => margPurchaseAmountSign

/-- The total of the actuals of this kind. -/
def total (side : CommercialSide) (actuals : List Actual) : ℚ :=
  ((actuals.filter fun a => a.actualType = side.actualType).map Actual.amount).sum

end CommercialSide

/-- Nothing for a cancelled voucher or a family without a sign, else the signed final amount. -/
def ReconcilesWithFinal (v : MargVoucher) (sign total : ℚ) : Prop :=
  if v.isCancelled ∨ sign = 0 then total = 0
  else ∀ finalAmt, v.finalAmt = some finalAmt → |total - sign * finalAmt| < adjustmentThreshold

/-- The actuals of a voucher, sales and purchases, reconcile with its final amount. -/
def ActualsReconcile (platform : Platform) (upper : String → String) (links : MasterLinks)
    (vouchers : List MargVoucher) (lines : List MargTransaction) (v : MargVoucher) : Prop :=
  ∀ side : CommercialSide, ReconcilesWithFinal v (side.amountSign (familyColumn upper v))
    (side.total (projectedActuals platform links vouchers lines v))

/-! ### What the staged rows say they add up to -/

/-- What a line of a family counts for: its amount, or its negative magnitude for a return. -/
def CommercialSide.countedAmount (side : CommercialSide) (family : MargType2DocumentFamily)
    (amount : ℚ) : ℚ :=
  if side.amountSign family = 1 then amount
  else if side.amountSign family = -1 then -|amount|
  else 0

section Rows

variable (platform : Platform) (links : MasterLinks) (vouchers : List MargVoucher)
  (lines : List MargTransaction) (side : CommercialSide) (v : MargVoucher)

def lineFamily (line : MargTransaction) : MargType2DocumentFamily :=
  (lineDecision platform vouchers line none).family

/-- A line counts when neither its own add field nor the header's cancels it and its product is
known. -/
def isCounted (line : MargTransaction) : Bool :=
  !v.isCancelled && !(parseMargCancellation line.addField.text).isCancelled &&
    line.pid.text ≠ "" && (links.productId line.companyId line.pid).isSome

def countedLine (line : MargTransaction) : ℚ :=
  if isCounted links v line then
    ((resolveMargLineTaxInclusiveAmount line.amount line.gstAmount).map
      (side.countedAmount (lineFamily platform vouchers line))).getD 0
  else 0

def countedTotal : ℚ :=
  ((linesUnder platform vouchers lines v).map (countedLine platform links vouchers side v)).sum

def adjustmentSign : ℚ :=
  match resolveMargVoucherActualDecision platform v.type.text with
  | some decision => if decision.actualType = side.actualType then decision.signMultiplier else 0
  | none => 0

/-- What is adjusted beyond the signed residual of the exact sums. -/
def adjustmentGap (sign finalAmt : ℚ) : ℚ :=
  (if finalAmt ≠ 0 ∧ adjustmentThreshold ≤ |adjustment lines v finalAmt| then
    storedAmount (adjustmentSign platform side v * adjustment lines v finalAmt)
  else 0) - sign * (finalAmt - (lineSum lines v + gstSum lines v))

def missedByLines (sign : ℚ) : ℚ :=
  sign * (lineSum lines v + gstSum lines v) - countedTotal platform links vouchers lines side v

/-- The staged rows of a voucher leave no discrepancy for a sign. -/
def RowsReconcile (sign : ℚ) : Prop :=
  v.isCancelled ∨
    match v.finalAmt with
    | none => sign = 0 → countedTotal platform links vouchers lines side v = 0
    | some finalAmt =>
      let discrepancy := adjustmentGap platform lines side v sign finalAmt -
        missedByLines platform links vouchers lines side v sign
      if sign = 0 then discrepancy = 0 else |discrepancy| < adjustmentThreshold

end Rows

/-! ### The total of the actuals -/

theorem CommercialSide.total_append (side : CommercialSide) (xs ys : List Actual) :
    side.total (xs ++ ys) = side.total xs + side.total ys := by
  simp [total]

theorem CommercialSide.total_filterMap (side : CommercialSide)
    (project : MargTransaction → Option Actual) (lines : List MargTransaction) :
    side.total (lines.filterMap project) = (lines.map fun l => side.total (project l).toList).sum := by
  induction lines with
  | nil => rfl
  | cons line lines ih =>
    have hcons : (line :: lines).filterMap project =
        (project line).toList ++ lines.filterMap project := by
      cases h : project line <;> simp [h]
    rw [hcons, total_append, ih, List.map_cons, List.sum_cons]

theorem CommercialSide.total_singleton (side : CommercialSide) (a : Actual) :
    side.total [a] = if a.actualType = side.actualType then a.amount else 0 := by
  by_cases h : a.actualType = side.actualType <;> simp [total, h]

/-- What a decision adds to the total of a side. -/
def ProjectionEffects.amountOf (effects : ProjectionEffects) (side : CommercialSide) : ℚ :=
  if effects.shouldProjectActual ∧ effects.actualType = some side.actualType then
    effects.actualAmount.getD 0
  else 0

theorem amountOf_familyEffects (side : CommercialSide) (family : MargType2DocumentFamily)
    (effectiveQty : ℚ) (amount : Option ℚ) :
    (familyEffects family effectiveQty amount).amountOf side =
      (amount.map (side.countedAmount family)).getD 0 := by
  cases amount with
  | none => cases family <;> cases side <;> rfl
  | some a => cases family <;> cases side <;> rfl

def FamilyClassification.SkipsUnsigned (c : FamilyClassification) (side : CommercialSide) : Prop :=
  c.skipReason.isSome → side.amountSign c.family = 0

theorem skipsUnsigned_ite {side : CommercialSide} {p : Prop} [Decidable p]
    {yes no : FamilyClassification} (hyes : yes.SkipsUnsigned side) (hno : no.SkipsUnsigned side) :
    (if p then yes else no).SkipsUnsigned side := by
  split
  · exact hyes
  · exact hno

theorem skipsUnsigned_classifyDocument (side : CommercialSide) (headerType lineType : String)
    (isInvoiceAf isChallanAf : Bool) (cidLeadChar : String) (ambiguous : Bool) :
    (classifyDocument headerType lineType isInvoiceAf isChallanAf cidLeadChar
      ambiguous).SkipsUnsigned side := by
  unfold classifyDocument classifyTagged
  repeat' apply skipsUnsigned_ite
  all_goals
    intro h
    cases side <;> first
      | rfl
      | exact absurd h (by decide)

theorem countedAmount_of_sign_zero {side : CommercialSide} {family : MargType2DocumentFamily}
    (h : side.amountSign family = 0) (amount : ℚ) : side.countedAmount family amount = 0 := by
  rw [CommercialSide.countedAmount, h]
  norm_num

section Totals

variable {platform : Platform} {links : MasterLinks} {vouchers : List MargVoucher}
  {lines : List MargTransaction} {v : MargVoucher} {line : MargTransaction}

theorem amountOf_lineDecision (side : CommercialSide) (amount : Option ℚ)
    (hselected : selectMargVoucherContextForTransaction platform line
      (loadMargVoucherContexts vouchers line) = some v) :
    (lineDecision platform vouchers line amount).amountOf side =
      if v.isCancelled || (parseMargCancellation line.addField.text).isCancelled then 0
      else (amount.map (side.countedAmount (lineFamily platform vouchers line))).getD 0 := by
  let input := projectionInput platform (loadMargVoucherContexts vouchers line) line amount
  have hfamily : lineFamily platform vouchers line = (classifyInput platform input).family := rfl
  have hheader : (parseMargCancellation input.voucherAddField).isCancelled = v.isCancelled := by
    simp only [input, projectionInput, hselected, Option.map_some, Option.getD_some]
    rfl
  change ProjectionEffects.amountOf (if (classifyInput platform input).skipReason.isSome then
      skippedEffects (classifyInput platform input).family
    else if (parseMargCancellation input.voucherAddField).isCancelled ||
        (parseMargCancellation line.addField.text).isCancelled then {}
    else familyEffects (classifyInput platform input).family input.effectiveQty amount) side = _
  rw [hheader]
  by_cases hskipped : (classifyInput platform input).skipReason.isSome
  · have hsign : side.amountSign (lineFamily platform vouchers line) = 0 := by
      rw [hfamily]
      exact skipsUnsigned_classifyDocument side _ _ _ _ _ _ hskipped
    rw [if_pos hskipped]
    have hzero : (amount.map (side.countedAmount (lineFamily platform vouchers line))).getD 0 = 0 := by
      cases amount with
      | none => rfl
      | some a => exact countedAmount_of_sign_zero hsign a
    rw [hzero, ite_self]
    rfl
  · rw [if_neg hskipped]
    by_cases hcancelled : v.isCancelled || (parseMargCancellation line.addField.text).isCancelled
    · rw [if_pos hcancelled, if_pos hcancelled]
      rfl
    · rw [if_neg hcancelled, if_neg hcancelled, amountOf_familyEffects, hfamily]

theorem amountOf_eq_projectedAmount (side : CommercialSide) (decision : MargType2ProjectionDecision) :
    decision.amountOf side =
      (decision.projectedAmount.map fun p => if p.1 = side.actualType then p.2 else 0).getD 0 := by
  unfold ProjectionEffects.amountOf MargType2ProjectionDecision.projectedAmount
  cases htype : decision.actualType with
  | none => simp
  | some type =>
    cases hamount : decision.actualAmount with
    | none => simp
    | some amount =>
      by_cases hprojects : decision.shouldProjectActual
      · by_cases hzero : amount = 0
        · simp [hprojects, hzero]
        · simp [hprojects, hzero]
      · simp [hprojects]

theorem total_lineActual (side : CommercialSide)
    (hselected : selectMargVoucherContextForTransaction platform line
      (loadMargVoucherContexts vouchers line) = some v) :
    side.total (lineActual platform links vouchers line).toList =
      countedLine platform links vouchers side v line := by
  have hdecision := amountOf_lineDecision side
    (resolveMargLineTaxInclusiveAmount line.amount line.gstAmount) hselected
  rw [amountOf_eq_projectedAmount] at hdecision
  unfold lineActual countedLine isCounted
  dsimp only
  cases hamount : line.amount with
  | none => simp [resolveMargLineTaxInclusiveAmount, CommercialSide.total]
  | some amount =>
    rw [hamount] at hdecision
    by_cases hpid : line.pid.text = ""
    · -- without a product code neither side counts the line
      cases (lineDecision platform vouchers line
        (resolveMargLineTaxInclusiveAmount (some amount) line.gstAmount)).projectedAmount <;>
        simp [hpid, CommercialSide.total]
    cases hproduct : links.productId line.companyId line.pid with
    | none =>
      cases (lineDecision platform vouchers line
        (resolveMargLineTaxInclusiveAmount (some amount) line.gstAmount)).projectedAmount <;>
        simp [CommercialSide.total]
    | some productId =>
      have hcounted : (if v.isCancelled || (parseMargCancellation line.addField.text).isCancelled
          then 0
          else ((resolveMargLineTaxInclusiveAmount (some amount) line.gstAmount).map
            (side.countedAmount (lineFamily platform vouchers line))).getD 0) =
          if !v.isCancelled && !(parseMargCancellation line.addField.text).isCancelled &&
              line.pid.text ≠ "" && (some productId).isSome then
            ((resolveMargLineTaxInclusiveAmount (some amount) line.gstAmount).map
              (side.countedAmount (lineFamily platform vouchers line))).getD 0
          else 0 := by
        cases v.isCancelled <;> cases (parseMargCancellation line.addField.text).isCancelled <;>
          simp [hpid]
      rw [← hcounted, ← hdecision]
      cases (lineDecision platform vouchers line
          (resolveMargLineTaxInclusiveAmount (some amount) line.gstAmount)).projectedAmount with
      | none => rfl
      | some p =>
        simp only [if_neg hpid, Option.map_some, Option.toList_some, Option.getD_some,
          CommercialSide.total_singleton]

theorem total_lineActuals (side : CommercialSide) :
    side.total ((linesUnder platform vouchers lines v).filterMap (lineActual platform links vouchers)) =
      countedTotal platform links vouchers lines side v := by
  rw [CommercialSide.total_filterMap, countedTotal]
  congr 1
  apply List.map_congr_left
  intro line hline
  exact total_lineActual side (by simpa [linesUnder] using (List.mem_filter.1 hline).2)

theorem abs_signMultiplier {voucherType : String} {decision : MargVoucherActualDecision}
    (h : resolveMargVoucherActualDecision platform voucherType = some decision) :
    |decision.signMultiplier| = 1 := by
  unfold resolveMargVoucherActualDecision at h
  simp only at h
  split_ifs at h <;> cases h <;> norm_num

theorem total_voucherAdjustment (side : CommercialSide) {finalAmt : ℚ}
    (hlive : v.isCancelled = false) (hfinal : v.finalAmt = some finalAmt) :
    side.total (voucherAdjustment platform links lines v).toList =
      if finalAmt ≠ 0 ∧ adjustmentThreshold ≤ |adjustment lines v finalAmt| then
        storedAmount (adjustmentSign platform side v * adjustment lines v finalAmt)
      else 0 := by
  have hnothing : storedAmount 0 = 0 := GridRounding.roundTo_zero _
  unfold voucherAdjustment adjustmentSign
  rw [hfinal, hlive]
  cases hdecision : resolveMargVoucherActualDecision platform v.type.text with
  | none => simp [CommercialSide.total, hnothing]
  | some decision =>
    have habs : |decision.signMultiplier * adjustment lines v finalAmt| =
        |adjustment lines v finalAmt| := by
      rw [abs_mul, abs_signMultiplier hdecision, one_mul]
    simp only [habs, Bool.false_eq_true, false_or]
    by_cases hzero : finalAmt = 0
    · simp [hzero, CommercialSide.total]
    by_cases hsmall : |adjustment lines v finalAmt| < adjustmentThreshold
    · rw [if_pos (.inr hsmall), if_neg (fun h => absurd h.2 (not_le.2 hsmall))]
      rfl
    · have hbridged : finalAmt ≠ 0 ∧ adjustmentThreshold ≤ |adjustment lines v finalAmt| :=
        ⟨hzero, not_lt.1 hsmall⟩
      rw [if_neg (by tauto), if_pos hbridged, Option.toList_some, CommercialSide.total_singleton]
      by_cases hside : decision.actualType = side.actualType <;> simp [hside, hnothing]

/-- The actuals add up to the signed final amount and the discrepancy of the rows. -/
theorem total_projectedActuals (side : CommercialSide) (sign : ℚ) {finalAmt : ℚ}
    (hlive : v.isCancelled = false) (hfinal : v.finalAmt = some finalAmt) :
    side.total (projectedActuals platform links vouchers lines v) =
      sign * finalAmt + (adjustmentGap platform lines side v sign finalAmt -
        missedByLines platform links vouchers lines side v sign) := by
  rw [projectedActuals, CommercialSide.total_append, total_lineActuals,
    total_voucherAdjustment side hlive hfinal, adjustmentGap, missedByLines]
  ring

theorem total_of_noFinal (side : CommercialSide) (hfinal : v.finalAmt = none) :
    side.total (projectedActuals platform links vouchers lines v) =
      countedTotal platform links vouchers lines side v := by
  rw [projectedActuals, CommercialSide.total_append, total_lineActuals, voucherAdjustment, hfinal]
  exact add_zero _

theorem total_of_cancelled (side : CommercialSide) (h : v.isCancelled = true) :
    side.total (projectedActuals platform links vouchers lines v) = 0 := by
  have hlines : countedTotal platform links vouchers lines side v = 0 := by
    unfold countedTotal countedLine isCounted
    simp [h]
  have hadjustment : voucherAdjustment platform links lines v = none := by
    unfold voucherAdjustment
    rw [h]
    cases v.finalAmt <;> cases resolveMargVoucherActualDecision platform v.type.text <;> simp
  rw [projectedActuals, CommercialSide.total_append, total_lineActuals, hlines, hadjustment, zero_add]
  rfl

theorem reconcilesWithFinal_iff (side : CommercialSide) (sign : ℚ) :
    ReconcilesWithFinal v sign (side.total (projectedActuals platform links vouchers lines v)) ↔
      RowsReconcile platform links vouchers lines side v sign := by
  unfold ReconcilesWithFinal RowsReconcile
  cases hcancelled : v.isCancelled with
  | true => simp [total_of_cancelled side hcancelled]
  | false =>
    cases hfinal : v.finalAmt with
    | none =>
      rw [total_of_noFinal side hfinal]
      by_cases hsign : sign = 0 <;> simp [hsign]
    | some finalAmt =>
      rw [total_projectedActuals side sign hcancelled hfinal]
      by_cases hsign : sign = 0 <;> simp [hsign]

end Totals

end Forecast
