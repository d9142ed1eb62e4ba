import Forecast.Costing.JournalPostings
import Forecast.Lib.KeyTexts

/-!
# Landed cost that is allocated again

The key of an allocation names the receipt, the method and every line with its amount.
A second allocation to the receipt is taken for the first one exactly when these are
the same, whatever it says of categories, invoices and layers.
-/

open KeyedTable DecimalColumn Transactions KeyTexts

namespace Forecast.Costing

variable {ctx ctx' : CostingContext} {db db₁ : CostingDb} {p q : LandedCostParams}

/-- The text of a number has digits, signs and letters only. -/
structure PlainNumbers (shown : Decimal → String) : Prop where
  colon : ∀ q, ':' ∉ (shown q).toList
  bar : ∀ q, '|' ∉ (shown q).toList
  ne_empty : ∀ q, shown q ≠ ""

namespace LandedCostParams

def keyedLines (params : LandedCostParams) (ctx : CostingContext) : List (Id × String) :=
  params.allocations.map fun a => (a.goodsReceiptLineId, ctx.shown a.amount)

/-- The allocation once its key is taken. -/
def allocate (params : LandedCostParams) (ctx : CostingContext) (db : CostingDb) :
    Except CostingError (CostingDb × CostResult) := do
  ctx.assertPeriodOpen params.fiscalPeriodId
  let s ← forEach (allocateLine ctx params) ⟨db.books, db.landedCosts, 0⟩ params.allocations
  let journal ← postWhen (0 < s.totalAllocated) ctx db.journal (params.posting s.totalAllocated)
  pure
    ({ db with
        books := s.books
        landedCosts := s.landedCosts
        idempotencyKeys := db.idempotencyKeys ++ [params.idempKey ctx]
        journal := journal },
      .costed s.totalAllocated)

/-- The requests name another category, invoice or layer. -/
def Differs (p q : LandedCostParams) : Prop :=
  p.vendorInvoiceRef ≠ q.vendorInvoiceRef ∨
    p.allocations.map LandedCostLine.costCategory ≠ q.allocations.map LandedCostLine.costCategory ∨
      p.allocations.map LandedCostLine.costLayerId ≠ q.allocations.map LandedCostLine.costLayerId

end LandedCostParams

theorem allocateLandedCost_of_new (hnew : db.hasProcessed (p.idempKey ctx) = false) :
    allocateLandedCost ctx db p = p.allocate ctx db := by
  rw [allocateLandedCost, hnew]
  rfl

theorem allocateLandedCost_of_processed (hdone : db.hasProcessed (p.idempKey ctx) = true) :
    allocateLandedCost ctx db p = .ok (db, .alreadyProcessed) := by
  rw [allocateLandedCost, if_pos hdone]

/-- An allocation that is done reports its cost. -/
theorem allocate_ne_alreadyProcessed : p.allocate ctx db ≠ .ok (db₁, .alreadyProcessed) := by
  intro h
  simp only [LandedCostParams.allocate, bind_eq_ok, pure_eq_ok] at h
  obtain ⟨_, -, _, -, _, -, heq⟩ := h
  cases heq

theorem idempotencyKeys_of_allocated {total : Decimal}
    (h : allocateLandedCost ctx db p = .ok (db₁, .costed total)) :
    db₁.idempotencyKeys = db.idempotencyKeys ++ [p.idempKey ctx] := by
  cases hkey : db.hasProcessed (p.idempKey ctx) with
  | true =>
    rw [allocateLandedCost_of_processed hkey] at h
    cases h
  | false =>
    rw [allocateLandedCost_of_new hkey] at h
    simp only [LandedCostParams.allocate, bind_eq_ok, pure_eq_ok] at h
    obtain ⟨_, -, _, -, _, -, heq⟩ := h
    cases heq
    rfl

/-! ### What the key tells apart -/

theorem isDigit_of_mem_uuidText {id : Id} {c : Char} (h : c ∈ (uuidText id).toList) :
    c.isDigit = true := by
  rw [uuidText, Nat.toString_eq_repr, Nat.toList_repr] at h
  exact Nat.isDigit_of_mem_toDigits (by decide) (by decide) h

def lineChars (line : Id × String) : List Char × List Char :=
  ((uuidText line.1).toList, line.2.toList)

theorem lineChars_injective : Function.Injective lineChars := by
  rintro ⟨id, amount⟩ ⟨id', amount'⟩ h
  obtain ⟨hid, hamount⟩ := Prod.mk.inj h
  exact Prod.ext (uuidText_injective (String.toList_inj.1 hid)) (String.toList_inj.1 hamount)

theorem plain_lineChars (hshown : PlainNumbers ctx.shown) {line : List Char × List Char}
    (h : line ∈ (p.keyedLines ctx).map lineChars) : Plain '|' ':' line := by
  simp only [LandedCostParams.keyedLines, List.map_map, List.mem_map] at h
  obtain ⟨a, -, rfl⟩ := h
  refine ⟨fun hc => ?_, fun hc => ?_, hshown.bar _, hshown.colon _, fun hc => ?_⟩
  · exact absurd (isDigit_of_mem_uuidText hc) (by decide)
  · exact absurd (isDigit_of_mem_uuidText hc) (by decide)
  · exact hshown.ne_empty _ (String.toList_inj.1 (hc.trans String.toList_empty.symm))

theorem toList_idempKey (ctx : CostingContext) (p : LandedCostParams) :
    (p.idempKey ctx).2.toList =
      ("LANDED:" ++ uuidText p.goodsReceiptId ++ ":").toList ++ (p.allocationMethod.toList ++
        ':' :: listed '|' ':' ((p.keyedLines ctx).map lineChars)) := by
  have hlines : (p.allocations.map fun a =>
      uuidText a.goodsReceiptLineId ++ ":" ++ ctx.shown a.amount).map String.toList =
        ((p.keyedLines ctx).map lineChars).map (pairText ':') := by
    simp [LandedCostParams.keyedLines, lineChars, pairText, Function.comp_def]
  simp only [LandedCostParams.idempKey, String.toList_append, String.toList_intercalate, hlines]
  simp [listed]

/-- Requests for one receipt have one key exactly for the same method and the same amounts on
the same lines. -/
theorem idempKey_eq_iff (hshown : PlainNumbers ctx.shown)
    (hreceipt : q.goodsReceiptId = p.goodsReceiptId) :
    p.idempKey ctx = q.idempKey ctx ↔
      p.allocationMethod = q.allocationMethod ∧ p.keyedLines ctx = q.keyedLines ctx := by
  constructor
  · intro h
    have htext := congrArg (fun key : String × String => key.2.toList) h
    simp only [toList_idempKey, hreceipt] at htext
    obtain ⟨hmethod, hlines⟩ := headed_injective (fun _ h => plain_lineChars hshown h)
      (fun _ h => plain_lineChars hshown h) (by decide) (List.append_cancel_left htext)
    exact ⟨String.toList_inj.1 hmethod, lineChars_injective.list_map hlines⟩
  · rintro ⟨hmethod, hlines⟩
    have htext : (p.idempKey ctx).2 = (q.idempKey ctx).2 := by
      apply String.toList_inj.1
      rw [toList_idempKey, toList_idempKey, hreceipt, hmethod, hlines]
    exact Prod.ext rfl htext

/-! ### Pairs of requests -/

/-- After the first request, one that differs from it is done as its own checks decide, and
the same one again does nothing. -/
structure PairLaw (ctx : CostingContext) (db : CostingDb) (p q : LandedCostParams) : Prop where
  distinct : p.Differs q → allocateLandedCost ctx db q = q.allocate ctx db
  retried : q = p → allocateLandedCost ctx db q = .ok (db, .alreadyProcessed)

/-- The pair is told apart exactly when what differs comes with another method, another line
or another amount. -/
theorem pairLaw_iff {total : Decimal} (hshown : PlainNumbers ctx.shown)
    (hsame : ctx'.shown = ctx.shown) (hreceipt : q.goodsReceiptId = p.goodsReceiptId)
    (hfirst : allocateLandedCost ctx db p = .ok (db₁, .costed total))
    (hnew : db.hasProcessed (q.idempKey ctx) = false) :
    PairLaw ctx' db₁ p q ↔
      (p.Differs q → p.allocationMethod ≠ q.allocationMethod ∨
        p.keyedLines ctx ≠ q.keyedLines ctx) := by
  have hkey : ∀ r : LandedCostParams, r.idempKey ctx' = r.idempKey ctx := by
    intro r
    rw [LandedCostParams.idempKey, LandedCostParams.idempKey, hsame]
  have hdone : db₁.hasProcessed (q.idempKey ctx') = true ↔ p.idempKey ctx = q.idempKey ctx := by
    rw [CostingDb.hasProcessed, decide_eq_false_iff_not] at hnew
    rw [CostingDb.hasProcessed, decide_eq_true_eq, idempotencyKeys_of_allocated hfirst, hkey,
      List.mem_append, List.mem_singleton, eq_comm (a := p.idempKey ctx)]
    exact or_iff_right hnew
  have hapart : (p.allocationMethod ≠ q.allocationMethod ∨ p.keyedLines ctx ≠ q.keyedLines ctx) ↔
      p.idempKey ctx ≠ q.idempKey ctx := by
    rw [Ne, Ne, Ne, idempKey_eq_iff hshown hreceipt]
    exact not_and_or.symm
  rw [hapart]
  constructor
  · intro hlaw hdiffers heq
    have hswallowed := allocateLandedCost_of_processed (hdone.2 heq)
    rw [hlaw.distinct hdiffers] at hswallowed
    exact allocate_ne_alreadyProcessed hswallowed
  · intro h
    constructor
    · intro hdiffers
      apply allocateLandedCost_of_new
      rw [← Bool.not_eq_true, hdone]
      exact h hdiffers
    · rintro rfl
      exact allocateLandedCost_of_processed (hdone.2 rfl)

def landedOn (costCategory : String) (amount : Decimal) : LandedCostParams where
  goodsReceiptId := 5
  allocations :=
    [{ goodsReceiptLineId := 51, key := ⟨1, 7, 3⟩, costCategory := costCategory, amount := amount }]
  allocationMethod := "BY_VALUE"

/-- A tenant that writes whole amounts. -/
def wholeContext : CostingContext :=
  { standardContext with shown := fun q => toString q.num.natAbs }

theorem plainNumbers_wholeContext : PlainNumbers wholeContext.shown where
  colon _ hc := absurd (isDigit_of_mem_uuidText hc) (by decide)
  bar _ hc := absurd (isDigit_of_mem_uuidText hc) (by decide)
  ne_empty q hempty := by
    have hchars := congrArg String.toList hempty
    change (Nat.repr q.num.natAbs).toList = [] at hchars
    rw [Nat.toList_repr] at hchars
    exact Nat.toDigits_ne_nil hchars

def freightAllocated : CostingDb :=
  CostingDb.call (.empty (.opened []) []) ⟨wholeContext, .landedCost (landedOn "FREIGHT" 10)⟩

theorem freight_allocated :
    allocateLandedCost wholeContext (.empty (.opened []) []) (landedOn "FREIGHT" 10) =
      .ok (freightAllocated, .costed 10) := by
  decide +kernel

/-- Insurance of another amount is allocated beside the freight. -/
theorem pairLaw_otherAmount :
    PairLaw wholeContext freightAllocated (landedOn "FREIGHT" 10) (landedOn "INSURANCE" 12) := by
  have hreceipt : (landedOn "INSURANCE" 12).goodsReceiptId =
      (landedOn "FREIGHT" 10).goodsReceiptId := rfl
  have hnew : CostingDb.hasProcessed (.empty (.opened []) [])
      ((landedOn "INSURANCE" 12).idempKey wholeContext) = false := by decide +kernel
  exact (pairLaw_iff plainNumbers_wholeContext rfl hreceipt freight_allocated hnew).2
    fun _ => Or.inr (by decide +kernel)

/-- Insurance of the same amount is taken for the freight again. -/
theorem not_pairLaw_sameAmount :
    ¬∀ (ctx : CostingContext) (db db₁ : CostingDb) (p q : LandedCostParams) (total : Decimal),
      q.goodsReceiptId = p.goodsReceiptId →
        allocateLandedCost ctx db p = .ok (db₁, .costed total) →
          db.hasProcessed (q.idempKey ctx) = false → PairLaw ctx db₁ p q := by
  intro h
  have hlaw := h wholeContext (.empty (.opened []) []) freightAllocated (landedOn "FREIGHT" 10)
    (landedOn "INSURANCE" 10) 10 rfl (by decide +kernel) (by decide +kernel)
  have hdiffers : (landedOn "FREIGHT" 10).Differs (landedOn "INSURANCE" 10) :=
    Or.inr (Or.inl (by decide))
  have hswallowed : allocateLandedCost wholeContext freightAllocated (landedOn "INSURANCE" 10) =
      .ok (freightAllocated, .alreadyProcessed) := by decide +kernel
  have hdone : (landedOn "INSURANCE" 10).allocate wholeContext freightAllocated ≠
      .ok (freightAllocated, .alreadyProcessed) := by decide +kernel
  exact hdone (hlaw.distinct hdiffers ▸ hswallowed)

end Forecast.Costing
