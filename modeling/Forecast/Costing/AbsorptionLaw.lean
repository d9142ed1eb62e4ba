import Forecast.Costing.JournalPostings

/-!
# What a completion leaves in process

A completion absorbs the rows of the work order that it read. The overhead that it
computes itself goes to the row of the element `OVERHEAD`; when the work order has no such
row, the completion creates it after the reading and leaves it unabsorbed. What was
collected is spread over the output at a unit cost of twenty significant digits.
-/

open KeyedTable DecimalColumn Transactions

namespace Forecast.Costing

/-! ### The cost collected on a work order -/

def accumulated (wip : List WipAccumulation) (workOrderId : Id) : ℚ :=
  ((wip.filter fun row => row.workOrderId = workOrderId).map
    fun row => row.accumulatedAmount.value).sum

/-- Every row of the work order is absorbed, and the output and the scrap cost what was
accumulated. -/
structure AbsorptionLaw (wip : List WipAccumulation) (workOrderId : Id)
    (fgCost scrapCost : Decimal) : Prop where
  absorbed : ∀ row ∈ wip, row.workOrderId = workOrderId →
    row.absorbedAmount = row.accumulatedAmount
  balanced : fgCost + scrapCost = accumulated wip workOrderId

section Accumulated

variable {wip : List WipAccumulation} {workOrderId : Id} {row new : WipAccumulation}

theorem accumulated_cons :
    accumulated (row :: wip) workOrderId =
      (if row.workOrderId = workOrderId then row.accumulatedAmount.value else 0) +
        accumulated wip workOrderId := by
  unfold accumulated
  by_cases h : row.workOrderId = workOrderId <;> simp [h]

theorem accumulated_concat (h : new.workOrderId = workOrderId) :
    accumulated (wip ++ [new]) workOrderId =
      accumulated wip workOrderId + new.accumulatedAmount.value := by
  simp [accumulated, h]

theorem key_eq_iff (h : row.key = new.key) :
    row.workOrderId = workOrderId ↔ new.workOrderId = workOrderId := by
  rw [show row.workOrderId = new.workOrderId from congrArg Prod.fst h]

theorem accumulated_upsert (hrow : lookup WipAccumulation.key wip new.key = some row)
    (hnew : new.workOrderId = workOrderId) :
    accumulated (upsert WipAccumulation.key wip new) workOrderId =
      accumulated wip workOrderId + (new.accumulatedAmount.value - row.accumulatedAmount.value) := by
  induction wip with
  | nil => cases hrow
  | cons first wip ih =>
    rw [lookup_cons] at hrow
    by_cases hkey : first.key = new.key
    · rw [if_pos hkey, Option.some_inj] at hrow
      subst hrow
      have hfirst : first.workOrderId = workOrderId := (key_eq_iff hkey).2 hnew
      rw [upsert, if_pos hkey, accumulated_cons, accumulated_cons, if_pos hfirst, if_pos hnew]
      ring
    · rw [if_neg hkey] at hrow
      rw [upsert, if_neg hkey, accumulated_cons, accumulated_cons, ih hrow]
      ring

end Accumulated

/-! ### Absorption -/

/-- What absorbing the rows of some keys does to one row. -/
structure Absorbs (keys : List (Id × String)) (row row' : WipAccumulation) : Prop where
  key : row'.key = row.key
  accumulated : row'.accumulatedAmount = row.accumulatedAmount
  absorbed : row'.absorbedAmount =
    if row.key ∈ keys then row.accumulatedAmount else row.absorbedAmount

theorem absorbs_of_absorbWIP {wip wip' rows : List WipAccumulation}
    {variances : WorkOrderVariances} (h : absorbWIP wip rows variances = .ok wip') :
    List.Forall₂ (Absorbs (rows.map WipAccumulation.key)) wip wip' := by
  refine (forall₂_of_mapM_eq_ok h).imp ?_
  intro row row' hrow
  by_cases hmem : row.key ∈ rows.map WipAccumulation.key
  · simp only [if_pos hmem, bind_eq_ok, pure_eq_ok] at hrow
    obtain ⟨varianceAmount, -, rfl⟩ := hrow
    exact ⟨rfl, rfl, (if_pos hmem).symm⟩
  · simp only [if_neg hmem, pure_eq_ok] at hrow
    subst hrow
    exact ⟨rfl, rfl, (if_neg hmem).symm⟩

section Absorption

variable {keys : List (Id × String)} {wip wip' : List WipAccumulation} {workOrderId : Id}

theorem accumulated_of_absorbs (h : List.Forall₂ (Absorbs keys) wip wip') :
    accumulated wip' workOrderId = accumulated wip workOrderId := by
  induction h with
  | nil => rfl
  | cons hrow _ ih =>
    rw [accumulated_cons, accumulated_cons, ih, hrow.accumulated]
    simp only [key_eq_iff hrow.key]

theorem absorbed_iff_of_absorbs (h : List.Forall₂ (Absorbs keys) wip wip') :
    (∀ row ∈ wip', row.workOrderId = workOrderId → row.absorbedAmount = row.accumulatedAmount) ↔
      ∀ row ∈ wip, row.workOrderId = workOrderId → row.key ∉ keys →
        row.absorbedAmount = row.accumulatedAmount := by
  induction h with
  | nil => simp
  | @cons row row' wip wip' hrow _ ih =>
    rw [List.forall_mem_cons, List.forall_mem_cons, ih, hrow.absorbed, hrow.accumulated,
      key_eq_iff hrow.key]
    refine and_congr_left fun _ => forall_congr' fun _ => ?_
    by_cases hmem : row.key ∈ keys
    · simp [hmem]
    · simp [hmem]

end Absorption

/-! ### The overhead of a completion -/

namespace CompletionParams

variable (params : CompletionParams) (ctx : CostingContext) (db : CostingDb)

def laborOverhead : Decimal :=
  match ctx.resolveOverheadRate params.key params.workOrderId with
  | .ok (some rate) => max 0 ((WipTotals.read db.wip params.workOrderId).laborTotal.times rate)
  | .ok none | .error _ => 0

/-- None is computed when some was collected before. -/
def newOverhead : Decimal :=
  if (WipTotals.read db.wip params.workOrderId).element "OVERHEAD" = 0 then
    params.laborOverhead ctx db
  else 0

/-- The cost that is spread over the output. -/
def spreadCost : Decimal :=
  let collected := WipTotals.read db.wip params.workOrderId
  if 0 < params.newOverhead ctx db then collected.totalWIP.plus (params.newOverhead ctx db)
  else collected.totalWIP

/-- The work order has its row for overhead when the completion reads. -/
def HasOverheadRow : Prop := ∃ row ∈ db.wip, row.key = (params.workOrderId, "OVERHEAD")

instance : Decidable (params.HasOverheadRow db) :=
  inferInstanceAs (Decidable (∃ row ∈ db.wip, row.key = (params.workOrderId, "OVERHEAD")))

def amounts : List Decimal :=
  (db.wip.filter fun row => row.workOrderId = params.workOrderId).map
    fun row => row.accumulatedAmount.value

/-- The rows and the overhead, before anything is rounded. -/
def exactTotal : Decimal := accumulated db.wip params.workOrderId + params.newOverhead ctx db

def outputQty : Decimal := params.completedQty + params.scrapQty

/-- The rows, the overhead on top of them and the output add up within twenty digits, and the
total has a unit cost and shares of the output and of the scrap within twenty digits too. The
overhead has the four decimals of its column. Without output nothing was collected. -/
structure SplitsExactly : Prop where
  rows : ∀ read ∈ (params.amounts db).inits, IsExact read.sum
  total : IsExact (params.exactTotal ctx db)
  overhead : OnScale 4 (params.newOverhead ctx db)
  output : IsExact params.outputQty
  share : 0 < params.outputQty →
    IsExact (params.exactTotal ctx db / params.outputQty) ∧
      IsExact (params.completedQty * (params.exactTotal ctx db / params.outputQty)) ∧
      IsExact (params.scrapQty * (params.exactTotal ctx db / params.outputQty))
  nothing : params.outputQty ≤ 0 → params.exactTotal ctx db = 0

instance : Decidable (params.SplitsExactly ctx db) :=
  decidable_of_iff
    ((∀ read ∈ (params.amounts db).inits, IsExact read.sum) ∧ IsExact (params.exactTotal ctx db) ∧
      OnScale 4 (params.newOverhead ctx db) ∧ IsExact params.outputQty ∧
      (0 < params.outputQty → IsExact (params.exactTotal ctx db / params.outputQty) ∧
        IsExact (params.completedQty * (params.exactTotal ctx db / params.outputQty)) ∧
        IsExact (params.scrapQty * (params.exactTotal ctx db / params.outputQty))) ∧
      (params.outputQty ≤ 0 → params.exactTotal ctx db = 0))
    ⟨fun ⟨a, b, c, d, e, f⟩ => ⟨a, b, c, d, e, f⟩, fun ⟨a, b, c, d, e, f⟩ => ⟨a, b, c, d, e, f⟩⟩

/-- The work order has a row for overhead, or its labor charges none. -/
def AbsorbsOverhead : Prop :=
  params.HasOverheadRow db ∨ roundToScale 4 (params.laborOverhead ctx db) = 0

instance : Decidable (params.AbsorbsOverhead ctx db) := inferInstanceAs (Decidable (_ ∨ _))

end CompletionParams

theorem element_read (wip : List WipAccumulation) (workOrderId : Id) (costElement : String) :
    (WipTotals.read wip workOrderId).element costElement =
      ((lookup WipAccumulation.key wip (workOrderId, costElement)).map
        fun row => row.accumulatedAmount.value).getD 0 := by
  have hfound : lookup Prod.fst (WipTotals.read wip workOrderId).wipByElement costElement =
      (lookup WipAccumulation.key wip (workOrderId, costElement)).map
        fun row => (row.costElement, row.accumulatedAmount.value) := by
    unfold WipTotals.read lookup
    rw [List.find?_map, List.find?_filter]
    congr 2
    funext row
    simp [WipAccumulation.key, Prod.ext_iff]
  rw [WipTotals.element, hfound, Option.map_map]
  rfl

section Overhead

variable {params : CompletionParams} {ctx : CostingContext} {db : CostingDb}
  {wip' : List WipAccumulation} {amount : Decimal}

/-- What a completion does with its overhead. -/
theorem withOverhead_eq_ok {rate : Option Decimal} {totals : WipTotals}
    (hrate : ctx.resolveOverheadRate params.key params.workOrderId = .ok rate)
    (h : (WipTotals.read db.wip params.workOrderId).withOverhead params.workOrderId rate =
      .ok totals) :
    totals.totalWIP = params.spreadCost ctx db ∧
      ((params.newOverhead ctx db = 0 ∧ totals.wip = db.wip) ∨
        (WipTotals.read db.wip params.workOrderId).element "OVERHEAD" = 0 ∧
          accumulateWIP db.wip params.workOrderId "OVERHEAD" (params.newOverhead ctx db) =
            .ok totals.wip) := by
  unfold WipTotals.withOverhead at h
  by_cases hzero : (WipTotals.read db.wip params.workOrderId).element "OVERHEAD" = 0
  · rw [if_pos hzero] at h
    obtain ⟨overhead, hoverhead, h⟩ := bind_eq_ok.1 h
    have hnew : params.newOverhead ctx db = max 0 overhead := by
      cases rate with
      | some rate =>
        cases hoverhead
        simp only [CompletionParams.newOverhead, CompletionParams.laborOverhead, hrate, if_pos hzero]
      | none =>
        by_cases hlabor : 0 < (WipTotals.read db.wip params.workOrderId).laborTotal
        · rw [computedOverhead, if_pos hlabor] at hoverhead
          cases hoverhead
        · rw [computedOverhead, if_neg hlabor] at hoverhead
          cases hoverhead
          simp only [CompletionParams.newOverhead, CompletionParams.laborOverhead, hrate, ite_self,
            max_self]
    by_cases hpos : 0 < overhead
    · rw [max_eq_right hpos.le] at hnew
      rw [if_pos hpos] at h
      obtain ⟨wip, hwip, h⟩ := bind_eq_ok.1 h
      cases h
      refine ⟨?_, Or.inr ⟨hzero, ?_⟩⟩
      · simp only [CompletionParams.spreadCost, hnew, if_pos hpos]
      · rw [hnew]
        exact hwip
    · rw [max_eq_left (not_lt.1 hpos)] at hnew
      rw [if_neg hpos] at h
      cases h
      refine ⟨?_, Or.inl ⟨hnew, rfl⟩⟩
      simp only [CompletionParams.spreadCost, hnew, lt_irrefl, if_false]
  · rw [if_neg hzero] at h
    cases h
    have hnew : params.newOverhead ctx db = 0 := if_neg hzero
    refine ⟨?_, Or.inl ⟨hnew, rfl⟩⟩
    simp only [CompletionParams.spreadCost, hnew, lt_irrefl, if_false]

/-- Collecting on an element that has nothing adds the amount as its column keeps it. -/
theorem accumulated_of_accumulateWIP {wip : List WipAccumulation} {workOrderId : Id}
    {costElement : String}
    (hzero : (WipTotals.read wip workOrderId).element costElement = 0)
    (h : accumulateWIP wip workOrderId costElement amount = .ok wip') :
    accumulated wip' workOrderId = accumulated wip workOrderId + roundToScale 4 amount := by
  rw [element_read] at hzero
  unfold accumulateWIP at h
  cases hrow : lookup WipAccumulation.key wip (workOrderId, costElement) with
  | none =>
    simp only [hrow, bind_eq_ok, pure_eq_ok, columnOf_eq_ok] at h
    obtain ⟨column, hcolumn, rfl⟩ := h
    rw [accumulated_concat rfl, Column.value_of_store_eq hcolumn]
  | some row =>
    have hvalue : row.accumulatedAmount.value = 0 := by
      rw [hrow] at hzero
      exact hzero
    simp only [hrow, bind_eq_ok, pure_eq_ok, columnOf_eq_ok, hvalue, zero_add] at h
    obtain ⟨column, hcolumn, rfl⟩ := h
    have hkey : row.key = (workOrderId, costElement) := (lookup_eq_some hrow).2
    have hfirst : lookup WipAccumulation.key wip
        ({ row with accumulatedAmount := column } : WipAccumulation).key = some row := by
      change lookup WipAccumulation.key wip row.key = some row
      rw [hkey, hrow]
    rw [accumulated_upsert hfirst (congrArg Prod.fst hkey), hvalue, sub_zero,
      Column.value_of_store_eq hcolumn]

instance instLawfulBEqWipKey : LawfulBEq (Id × String) := inferInstance

/-- The rows that absorbing the rows read in `wip` leaves behind in `wip'`. -/
def Unread (wip wip' : List WipAccumulation) (workOrderId : Id) : List WipAccumulation :=
  wip'.filter fun row => row.workOrderId = workOrderId ∧
    row.key ∉ (wip.filter fun row => row.workOrderId = workOrderId).map WipAccumulation.key

theorem not_mem_unread {wip : List WipAccumulation} {workOrderId : Id} {row : WipAccumulation}
    (hkey : row.key ∈ wip.map WipAccumulation.key) : row ∉ Unread wip wip' workOrderId := by
  intro hrow
  obtain ⟨-, hrow⟩ := List.mem_filter.1 hrow
  obtain ⟨horder, hunread⟩ := of_decide_eq_true hrow
  obtain ⟨read, hread, heq⟩ := List.mem_map.1 hkey
  have hsame : read.workOrderId = workOrderId := (key_eq_iff heq).2 horder
  exact hunread (List.mem_map.2 ⟨read, List.mem_filter.2 ⟨hread, decide_eq_true hsame⟩, heq⟩)

theorem unread_self (wip : List WipAccumulation) (workOrderId : Id) :
    Unread wip wip workOrderId = [] :=
  List.eq_nil_iff_forall_not_mem.2 fun _ hrow =>
    not_mem_unread (List.mem_map_of_mem (List.mem_filter.1 hrow).1) hrow

theorem unread_concat {wip : List WipAccumulation} {new : WipAccumulation}
    (hnew : new.key ∉ wip.map WipAccumulation.key) :
    Unread wip (wip ++ [new]) new.workOrderId = [new] := by
  have hold : Unread wip wip new.workOrderId = [] := unread_self wip new.workOrderId
  unfold Unread at hold ⊢
  rw [List.filter_append, hold, List.nil_append, List.filter_eq_self]
  intro row hmem
  rw [List.mem_singleton.1 hmem]
  refine decide_eq_true ⟨rfl, fun hkey => hnew ?_⟩
  obtain ⟨read, hread, heq⟩ := List.mem_map.1 hkey
  exact List.mem_map.2 ⟨read, (List.mem_filter.1 hread).1, heq⟩

theorem unread_of_accumulateWIP {wip : List WipAccumulation} {workOrderId : Id}
    {costElement : String} (h : accumulateWIP wip workOrderId costElement amount = .ok wip') :
    (∀ row ∈ Unread wip wip' workOrderId, row.absorbedAmount = row.accumulatedAmount) ↔
      (∃ row ∈ wip, row.key = (workOrderId, costElement)) ∨ roundToScale 4 amount = 0 := by
  unfold accumulateWIP at h
  cases hrow : lookup WipAccumulation.key wip (workOrderId, costElement) with
  | none =>
    simp only [hrow, bind_eq_ok, pure_eq_ok, columnOf_eq_ok] at h
    obtain ⟨column, hcolumn, rfl⟩ := h
    have hnone : (workOrderId, costElement) ∉ wip.map WipAccumulation.key := lookup_eq_none.1 hrow
    have hno : ¬∃ row ∈ wip, row.key = (workOrderId, costElement) := by
      rintro ⟨row, hmem, hkey⟩
      exact hnone (List.mem_map.2 ⟨row, hmem, hkey⟩)
    rw [unread_concat hnone, List.forall_mem_singleton, or_iff_right hno,
      ← Column.value_of_store_eq hcolumn]
    constructor
    · intro hzero
      exact (congrArg Column.value hzero.symm).trans Column.value_zero
    · intro hzero
      exact (Column.value_injective (hzero.trans Column.value_zero.symm)).symm
  | some row =>
    simp only [hrow, bind_eq_ok, pure_eq_ok, columnOf_eq_ok] at h
    obtain ⟨column, -, rfl⟩ := h
    obtain ⟨hmem, hkey⟩ := lookup_eq_some hrow
    refine iff_of_true ?_ (Or.inl ⟨row, hmem, hkey⟩)
    intro row' hrow'
    have hread : row'.key ∈ wip.map WipAccumulation.key := by
      have hwritten := List.mem_map_of_mem (f := WipAccumulation.key) (List.mem_filter.1 hrow').1
      rcases mem_keys_upsert.1 hwritten with hold | hnew
      · exact hold
      · rw [hnew]
        exact List.mem_map.2 ⟨row, hmem, rfl⟩
    exact absurd hrow' (not_mem_unread hread)

theorem newOverhead_nonneg : 0 ≤ params.newOverhead ctx db := by
  unfold CompletionParams.newOverhead CompletionParams.laborOverhead
  split_ifs
  · split
    · exact le_max_left _ _
    · exact le_rfl
    · exact le_rfl
  · exact le_rfl

/-- Where the work order has no row for overhead the whole of it is computed. -/
theorem absorbsOverhead_iff : params.AbsorbsOverhead ctx db ↔
    params.HasOverheadRow db ∨ roundToScale 4 (params.newOverhead ctx db) = 0 := by
  rw [CompletionParams.AbsorbsOverhead]
  by_cases hrow : params.HasOverheadRow db
  · simp only [hrow, true_or]
  · have hnone : lookup WipAccumulation.key db.wip (params.workOrderId, "OVERHEAD") = none := by
      refine lookup_eq_none.2 fun hmem => hrow ?_
      obtain ⟨row, hmem, hkey⟩ := List.mem_map.1 hmem
      exact ⟨row, hmem, hkey⟩
    have hzero : (WipTotals.read db.wip params.workOrderId).element "OVERHEAD" = 0 := by
      rw [element_read, hnone]
      rfl
    rw [CompletionParams.newOverhead, if_pos hzero]

/-- A running total is exact when it has twenty digits after every row. -/
theorem totalWIP_read (h : ∀ read ∈ (params.amounts db).inits, IsExact read.sum) :
    (WipTotals.read db.wip params.workOrderId).totalWIP =
      accumulated db.wip params.workOrderId := by
  have hfold : ∀ amounts : List Decimal, (∀ read ∈ amounts.inits, IsExact read.sum) →
      amounts.foldl Decimal.plus 0 = amounts.sum := by
    intro amounts
    induction amounts using List.reverseRecOn with
    | nil => exact fun _ => rfl
    | append_singleton amounts amount ih =>
      intro hfits
      have hbefore : amounts.foldl Decimal.plus 0 = amounts.sum :=
        ih fun read hread => hfits read <| (List.mem_inits _ _).2
          (((List.mem_inits _ _).1 hread).trans (List.prefix_append _ _))
      have hlast : IsExact (amounts ++ [amount]).sum := hfits _ ((List.mem_inits _ _).2 List.prefix_rfl)
      rw [List.sum_append, List.sum_singleton] at hlast ⊢
      rw [List.foldl_append, hbefore]
      exact hlast
  have hexact := hfold (params.amounts db) h
  rw [CompletionParams.amounts, List.foldl_map] at hexact
  exact hexact

end Overhead

/-! ### The law -/

variable {ctx : CostingContext} {db db' : CostingDb} {params : CompletionParams}
  {fgCost scrapCost totalVariance : Decimal}

theorem shares_eq_accumulated (h : params.SplitsExactly ctx db) :
    params.completedQty.times (params.wipPerUnit (params.spreadCost ctx db)) +
        params.scrapQty.times (params.wipPerUnit (params.spreadCost ctx db)) =
      accumulated db.wip params.workOrderId + roundToScale 4 (params.newOverhead ctx db) := by
  have hread : (WipTotals.read db.wip params.workOrderId).totalWIP =
      accumulated db.wip params.workOrderId := totalWIP_read h.rows
  have hspread : params.spreadCost ctx db = params.exactTotal ctx db := by
    rw [CompletionParams.spreadCost, hread, CompletionParams.exactTotal]
    by_cases hpos : 0 < params.newOverhead ctx db
    · rw [if_pos hpos]
      exact h.total
    · have hnonneg : 0 ≤ params.newOverhead ctx db := newOverhead_nonneg
      rw [if_neg hpos, le_antisymm (not_lt.1 hpos) hnonneg, add_zero]
  have hqty : params.completedQty.plus params.scrapQty = params.outputQty := h.output
  rw [h.overhead.roundToScale_eq (by rw [sub_self, abs_zero]; norm_num), hspread,
    CompletionParams.wipPerUnit, hqty, ← CompletionParams.exactTotal]
  by_cases houtput : 0 < params.outputQty
  · obtain ⟨hunit, hdone, hscrap⟩ := h.share houtput
    rw [if_pos houtput, Decimal.dividedBy, hunit, Decimal.times, Decimal.times, hdone, hscrap,
      ← add_mul]
    exact mul_div_cancel₀ _ houtput.ne'
  · rw [if_neg houtput, h.nothing (not_lt.1 houtput), Decimal.times, Decimal.times, mul_zero,
      mul_zero]
    simp

/-- A completion that is done for the first time and keeps the law absorbs its overhead; when it
does and the total splits exactly, it keeps the law. -/
theorem absorptionLaw_of_absorbsOverhead
    (h : completeWorkOrderCost ctx db params =
      .ok (db', .completed fgCost scrapCost totalVariance)) :
    (AbsorptionLaw db'.wip params.workOrderId fgCost scrapCost → params.AbsorbsOverhead ctx db) ∧
      (params.AbsorbsOverhead ctx db ∧ params.SplitsExactly ctx db →
        AbsorptionLaw db'.wip params.workOrderId fgCost scrapCost) := by
  unfold completeWorkOrderCost at h
  by_cases hkey : db.hasProcessed params.idempKey
  · rw [if_pos hkey] at h
    cases h
  rw [if_neg hkey] at h
  simp only [bind_eq_ok, pure_eq_ok] at h
  obtain ⟨-, -, -, -, rate, hrate, totals, htotals, books, -, posted, -, scrapped, -, stock, -,
    journal, -, wip, hwip, heq⟩ := h
  cases heq
  obtain ⟨htotal, hoverhead⟩ := withOverhead_eq_ok hrate htotals
  have habsorbs := absorbs_of_absorbWIP hwip
  have habsorbed : (∀ row ∈ wip, row.workOrderId = params.workOrderId →
      row.absorbedAmount = row.accumulatedAmount) ↔ params.AbsorbsOverhead ctx db := by
    have hunread : (∀ row ∈ Unread db.wip totals.wip params.workOrderId,
        row.absorbedAmount = row.accumulatedAmount) ↔
          params.HasOverheadRow db ∨ roundToScale 4 (params.newOverhead ctx db) = 0 := by
      rcases hoverhead with ⟨hnone, hsame⟩ | ⟨-, hnew⟩
      · rw [hsame, unread_self]
        refine iff_of_true (fun row hrow => absurd hrow List.not_mem_nil) (Or.inr ?_)
        rw [hnone, roundToScale_zero]
      · exact unread_of_accumulateWIP hnew
    rw [absorbed_iff_of_absorbs habsorbs, absorbsOverhead_iff, ← hunread]
    simp only [Unread, List.mem_filter, decide_eq_true_eq, and_imp]
  refine ⟨fun hlaw => habsorbed.1 hlaw.absorbed, ?_⟩
  rintro ⟨hread, hexact⟩
  refine ⟨habsorbed.2 hread, ?_⟩
  rw [accumulated_of_absorbs habsorbs, htotal]
  refine (shares_eq_accumulated hexact).trans ?_
  rcases hoverhead with ⟨hnone, hsame⟩ | ⟨hzero, hnew⟩
  · rw [hsame, hnone, roundToScale_zero, add_zero]
  · exact (accumulated_of_accumulateWIP hzero hnew).symm

/-! ### Two completions -/

/-- A tenant that charges half of the labor as overhead. -/
def overheadContext : CostingContext :=
  { standardContext with
    itemCostProfiles := [⟨7, some 3, .movingAverage, Column.store 50⟩]
    postingProfiles :=
      [{ transactionType := .productionReceipt, debitAccountId := 1, creditAccountId := 3 },
       { transactionType := .costVariance, debitAccountId := 5, creditAccountId := 3 }] }

/-- A work order with labor of 30 and the given rows. -/
def laborDb (rows : List WipAccumulation) : CostingDb :=
  { CostingDb.empty (.opened []) [] with
    wip := ⟨8, "LABOR_RUN", (Column.store 30).getD .zero, .zero, .zero⟩ :: rows }

/-- Three pieces of the product are done. -/
def threePieces : CompletionParams := { workOrderId := 8, key := ⟨1, 7, 3⟩, completedQty := 3 }

/-- With overhead of 6 collected before, all of the 36 goes to the three pieces. -/
theorem absorptionLaw_collectedOverhead :
    ∃ db', completeWorkOrderCost overheadContext
        (laborDb [⟨8, "OVERHEAD", (Column.store 6).getD .zero, .zero, .zero⟩]) threePieces =
          .ok (db', .completed 36 0 36) ∧
      AbsorptionLaw db'.wip 8 36 0 := by
  have hresult : (completeWorkOrderCost overheadContext
      (laborDb [⟨8, "OVERHEAD", (Column.store 6).getD .zero, .zero, .zero⟩])
      threePieces).toOption.map Prod.snd = some (.completed 36 0 36) := by decide +kernel
  obtain ⟨⟨db', result⟩, h, rfl⟩ := exists_of_toOption hresult
  exact ⟨db', h, (absorptionLaw_of_absorbsOverhead h).2 (by decide +kernel)⟩

/-- Overhead of 15 is computed from the labor, and its row is left in process. -/
theorem not_absorptionLaw_computedOverhead :
    ∃ db', completeWorkOrderCost overheadContext (laborDb []) threePieces =
        .ok (db', .completed 45 0 45) ∧ ¬AbsorptionLaw db'.wip 8 45 0 := by
  have hresult : (completeWorkOrderCost overheadContext (laborDb []) threePieces).toOption.map
      (fun done => (done.1.wip.getLast?, done.2)) =
        some (some ⟨8, "OVERHEAD", (Column.store 15).getD .zero, .zero, .zero⟩,
          .completed 45 0 45) := by decide +kernel
  obtain ⟨⟨db', result⟩, h, heq⟩ := exists_of_toOption hresult
  obtain ⟨hlast, rfl⟩ := Prod.ext_iff.1 heq
  refine ⟨db', h, fun hlaw => ?_⟩
  have habsorbed := hlaw.absorbed _ (List.mem_of_getLast? hlast) rfl
  revert habsorbed
  decide +kernel

end Forecast.Costing
