import Forecast.Costing.CircularBoms
import Forecast.Lib.SignificantDigits

/-!
# The recursive cost of a product

The cost of a product is defined by recursion over its BOM: the total of the lines, divided by
the quantity that the BOM makes, a phantom line at the cost of its own product. The explosion
of a phantom returns the total without the division, so the rollup agrees with the definition
where no phantom's BOM makes another quantity than one.
-/

open AcyclicRelation DecimalColumn GridRounding Relation Transactions

namespace Forecast.Costing

open Inventory (Qty)

/-! ### The cost of one unit -/

section PerUnit

variable {t : Decimal}

/-- The division by the base quantity changes a total unless the BOM makes one unit. -/
theorem perUnit_eq_self_iff (ht : toSignificant Decimal.precision t = t) {baseQty : Qty} :
    perUnit baseQty.value t = t ↔
      baseQty.value ≤ 0 ∨ baseQty.value = 1 ∨ perUnit baseQty.value t = 0 := by
  rcases le_or_gt baseQty.value 0 with hle | hpos
  · simp [perUnit, not_lt.2 hle, hle]
  rw [perUnit, if_pos hpos, Decimal.dividedBy]
  rcases eq_or_ne t 0 with rfl | hne
  · simp
  constructor
  · intro h
    refine Or.inr (Or.inl ?_)
    have hclose := abs_sub_one_le_of_toSignificant_div hne hpos h
    have hunits : ((|baseQty.units - 10 ^ 4| : ℤ) : ℚ) * 10 ^ 16 ≤ 5 := by
      calc ((|baseQty.units - 10 ^ 4| : ℤ) : ℚ) * 10 ^ 16
          = |baseQty.value - 1| * 10 ^ Decimal.precision := by
            have hscale : ((baseQty.units - 10 ^ 4 : ℤ) : ℚ) = (baseQty.value - 1) * 10 ^ 4 := by
              push_cast
              rw [← baseQty.value_mul]
              ring
            rw [Int.cast_abs, hscale, abs_mul, abs_of_pos (by positivity : (0 : ℚ) < 10 ^ 4),
              Decimal.precision]
            ring
        _ ≤ 5 := hclose
    have hint : |baseQty.units - 10 ^ 4| * 10 ^ 16 ≤ 5 := by exact_mod_cast hunits
    have hzero : baseQty.units = 10 ^ 4 := by
      have hnonneg := abs_nonneg (baseQty.units - 10 ^ 4)
      have habs : |baseQty.units - 10 ^ 4| = 0 := by omega
      exact sub_eq_zero.1 (abs_eq_zero.1 habs)
    rw [Column.value, hzero]
    norm_num
  · rintro (hle | hone | hzero)
    · exact absurd hpos (not_lt.2 hle)
    · rw [hone, div_one, ht]
    · rw [toSignificant_eq_zero_iff (by norm_num [Decimal.precision]), div_eq_zero_iff] at hzero
      rcases hzero with hzero | hzero
      · exact absurd hzero hne
      · exact absurd hzero hpos.ne'

end PerUnit

section Recursion

variable {bomOf : Id → Option BillWithComponents} {costOf : Id → Decimal} {u w : Id → Decimal}

variable (bomOf costOf u) in
theorem toSignificant_totalFrom {total : Decimal}
    (htotal : toSignificant Decimal.precision total = total) (lines : List BomLine) :
    toSignificant Decimal.precision (totalFrom bomOf costOf u total lines) =
      totalFrom bomOf costOf u total lines := by
  induction lines generalizing total with
  | nil => exact htotal
  | cons line rest ih =>
    rw [totalFrom, List.foldl_cons]
    apply ih
    cases lineCost bomOf costOf u line with
    | none => exact htotal
    | some cost => exact toSignificant_toSignificant (by norm_num [Decimal.precision]) _

theorem totalFrom_congr {total : Decimal} {lines : List BomLine}
    (h : ∀ line ∈ lines, line.isPhantom = true →
      u line.componentProductId = w line.componentProductId) :
    totalFrom bomOf costOf u total lines = totalFrom bomOf costOf w total lines := by
  induction lines generalizing total with
  | nil => rfl
  | cons line rest ih =>
    have hline : lineCost bomOf costOf u line = lineCost bomOf costOf w line := by
      unfold lineCost
      by_cases hphantom : line.isPhantom = true
      · rw [if_pos hphantom, if_pos hphantom, h line List.mem_cons_self hphantom]
      · rw [if_neg hphantom, if_neg hphantom]
    rw [totalFrom, totalFrom, List.foldl_cons, List.foldl_cons, hline]
    exact ih fun other hmem => h other (List.mem_cons_of_mem line hmem)

/-- `u` is the recursive cost of every product with a BOM. -/
def RolledUp (bomOf : Id → Option BillWithComponents) (costOf u : Id → Decimal) : Prop :=
  ∀ q bom, bomOf q = some bom →
    u q = perUnit bom.baseQuantity.value (totalFrom bomOf costOf u 0 bom.components)

/-- Without a cycle among finitely many BOMs the recursion has a solution. -/
theorem exists_rolledUp (hacyclic : Acyclic (Leads bomOf)) (sources : Finset Id)
    (hsources : ∀ q, (bomOf q).isSome = true → q ∈ sources) :
    ∃ u, RolledUp bomOf costOf u := by
  classical
  have hwf : WellFounded (flip (Leads bomOf)) := by
    apply hacyclic.wellFounded sources
    rintro a b ⟨bom, -, hbom, -⟩
    exact hsources a (by rw [hbom]; rfl)
  let costAt : (a : Id) → ((b : Id) → flip (Leads bomOf) b a → Decimal) → Decimal :=
    fun a below => ((bomOf a).map fun bom => perUnit bom.baseQuantity.value
      (totalFrom bomOf costOf (fun b => if h : Leads bomOf a b then below b h else 0) 0
        bom.components)).getD 0
  refine ⟨hwf.fix costAt, fun q bom hbom => ?_⟩
  rw [hwf.fix_eq]
  simp only [costAt, hbom, Option.map_some, Option.getD_some]
  congr 1
  apply totalFrom_congr
  intro line hmem hline
  have hleads : Leads bomOf q line.componentProductId := ⟨bom, line, hbom, hmem, hline, rfl⟩
  rw [dif_pos hleads]

/-! ### The rollup and the recursion -/

/-- The rollup of `p` returns the recursive cost, and so does the explosion of every phantom
on the way. -/
structure RollupLaw (bomOf : Id → Option BillWithComponents) (costOf u : Id → Decimal) (p : Id) :
    Prop where
  product : rollUp bomOf costOf p = .ok (u p)
  phantoms : ∀ depth visited q bom, Reached bomOf p (depth + 1) visited q bom →
    materialCost bomOf costOf (20 - depth) visited bom.components = .ok (u q)

/-- The BOM of every phantom below `p` makes one unit, or costs nothing. -/
def MakesSingleUnits (bomOf : Id → Option BillWithComponents) (u : Id → Decimal) (p : Id) :
    Prop :=
  ∀ depth visited q bom, Reached bomOf p (depth + 1) visited q bom →
    bom.baseQuantity.value ≤ 0 ∨ bom.baseQuantity.value = 1 ∨ u q = 0

variable {p : Id}

theorem RolledUp.single_iff (hu : RolledUp bomOf costOf u) {q : Id} {bom : BillWithComponents}
    (hbom : bomOf q = some bom) :
    u q = totalFrom bomOf costOf u 0 bom.components ↔
      bom.baseQuantity.value ≤ 0 ∨ bom.baseQuantity.value = 1 ∨ u q = 0 := by
  have hdigits := toSignificant_totalFrom bomOf costOf u
    (toSignificant_zero Decimal.precision) bom.components
  rw [hu q bom hbom]
  exact perUnit_eq_self_iff hdigits

/-- Where the calls below return the recursive costs, a call returns the total of its lines. -/
theorem RollupLaw.eq_totalFrom (h : RollupLaw bomOf costOf u p) {depth : ℕ} {visited : List Id}
    {q : Id} {bom : BillWithComponents} (hq : Reached bomOf p (depth + 1) visited q bom) :
    u q = totalFrom bomOf costOf u 0 bom.components := by
  have hcall := h.phantoms depth visited q bom hq
  obtain ⟨below, hbelow, hall⟩ := everyPhantom_of_eq_ok hcall
  rw [hbelow, materialCost, explodeLines_eq_totalFrom] at hcall
  · exact (Except.ok.inj hcall).symm
  · intro before line after hsplit hline
    refine ⟨(hall before line after hsplit hline).1, fun childBom hbom => ?_⟩
    have hchild := h.phantoms (depth + 1) _ _ childBom (hq.phantom hsplit hline hbom)
    have hlevels : 20 - (depth + 1) = below := by omega
    rwa [hlevels] at hchild

/-- Every call returns the total of its lines at the recursive costs, from the deepest up. -/
theorem Reached.eq_totalFrom (hu : RolledUp bomOf costOf u) (hclear : ¬LooksCircular bomOf p)
    (hsingle : MakesSingleUnits bomOf u p) {levels depth : ℕ} (hlevels : depth + levels = 21)
    {visited : List Id} {q : Id} {bom : BillWithComponents}
    (h : Reached bomOf p depth visited q bom) :
    materialCost bomOf costOf levels visited bom.components =
      .ok (totalFrom bomOf costOf u 0 bom.components) := by
  induction levels generalizing depth visited q bom with
  | zero =>
    have hdepth : depth = 21 := by omega
    subst hdepth
    exact absurd (Or.inr ⟨visited, q, bom, h⟩) hclear
  | succ levels ih =>
    apply explodeLines_eq_totalFrom
    intro before line after hsplit hline
    constructor
    · intro hmem
      exact hclear (Or.inl ⟨depth, visited, q, bom, before, line, after, h, hsplit, hline, hmem⟩)
    · intro childBom hbom
      have hchild := h.phantom hsplit hline hbom
      rw [ih (by omega) hchild, (hu.single_iff hbom).2 (hsingle depth _ _ childBom hchild)]

theorem rollupLaw_iff_of_rolledUp (hu : RolledUp bomOf costOf u) :
    RollupLaw bomOf costOf u p ↔
      (bomOf p).isSome = true ∧ ¬LooksCircular bomOf p ∧ MakesSingleUnits bomOf u p := by
  constructor
  · intro h
    obtain ⟨hsome, hclear⟩ := exists_rollUp_eq_ok_iff.1 ⟨u p, h.product⟩
    refine ⟨hsome, hclear, fun depth visited q bom hq => ?_⟩
    exact (hu.single_iff hq.bomOf_eq).1 (h.eq_totalFrom hq)
  · rintro ⟨hsome, hclear, hsingle⟩
    constructor
    · obtain ⟨root, hroot⟩ := Option.isSome_iff_exists.1 hsome
      rw [rollUp_eq_map hroot, (Reached.product hroot).eq_totalFrom hu hclear hsingle
        (by omega : 0 + 21 = 21), hu p root hroot]
      rfl
    · intro depth visited q bom hq
      have hdepth : depth + 1 ≤ 20 := by
        obtain ⟨root, hroot⟩ := Option.isSome_iff_exists.1 hsome
        obtain ⟨c, hc⟩ := (Reached.product hroot).exists_eq_ok costOf hclear
          (by omega : 0 + 21 = 21)
        exact (hq.returns hroot hc).1
      rw [hq.eq_totalFrom hu hclear hsingle (by omega : depth + 1 + (20 - depth) = 21),
        (hu.single_iff hq.bomOf_eq).2 (hsingle depth visited q bom hq)]

end Recursion

/-- The recursive cost of an acyclic structure is there, and the rollup of a product agrees
with it exactly when the explosion sees no cycle and every phantom is made one at a time. -/
theorem rollupLaw_iff (ctx : RollupContext) (service : CostService) (date : Millis) (p : Id)
    (hacyclic : Acyclic (Leads (ctx.activeBom date))) :
    (∃ u, RolledUp (ctx.activeBom date) (ctx.leafCost date service) u) ∧
      ∀ u, RolledUp (ctx.activeBom date) (ctx.leafCost date service) u →
        (RollupLaw (ctx.activeBom date) (ctx.leafCost date service) u p ↔
          (ctx.activeBom date p).isSome = true ∧ ¬LooksCircular (ctx.activeBom date) p ∧
            MakesSingleUnits (ctx.activeBom date) u p) := by
  refine ⟨?_, fun u hu => rollupLaw_iff_of_rolledUp hu⟩
  apply exists_rolledUp hacyclic (ctx.boms.map BillWithComponents.parentProductId).toFinset
  intro q hsome
  obtain ⟨bom, hbom⟩ := Option.isSome_iff_exists.1 hsome
  rw [List.mem_toFinset, List.mem_map]
  exact ⟨bom, RollupContext.mem_boms_of_activeBom hbom⟩

/-! ### A box of kits -/

/-- Product 1 needs one of phantom 2, whose BOM makes `baseQuantity` from as many of part 4. -/
def boxOf (baseQuantity : ℚ) : RollupContext where
  now := 0
  boms := [activeBill 1 1 [plainLine 2 1 true],
    activeBill 2 baseQuantity [plainLine 4 baseQuantity false]]
  standardCost := fun _ => Column.store 5
  code := fun _ => "KIT"

theorem acyclic_boxOf (baseQuantity : ℚ) : Acyclic (Leads ((boxOf baseQuantity).activeBom 0)) := by
  apply acyclic_of_rank fun p => if p = 1 then 1 else 0
  rintro a b ⟨bom, line, hbom, hmem, hline, rfl⟩
  obtain ⟨hlisted, rfl⟩ := RollupContext.mem_boms_of_activeBom hbom
  simp only [boxOf, List.mem_cons, List.not_mem_nil, or_false] at hlisted
  rcases hlisted with rfl | rfl
  · simp only [activeBill, List.mem_singleton] at hmem
    subst hmem
    decide
  · simp only [activeBill, List.mem_singleton] at hmem
    subst hmem
    cases hline

theorem rollupLaw_iff_boxOfOne :
    (∃ u, RolledUp ((boxOf 1).activeBom 0) ((boxOf 1).leafCost 0 .costingEngine) u) ∧
      ∀ u, RolledUp ((boxOf 1).activeBom 0) ((boxOf 1).leafCost 0 .costingEngine) u →
        (RollupLaw ((boxOf 1).activeBom 0) ((boxOf 1).leafCost 0 .costingEngine) u 1 ↔
          ((boxOf 1).activeBom 0 1).isSome = true ∧ ¬LooksCircular ((boxOf 1).activeBom 0) 1 ∧
            MakesSingleUnits ((boxOf 1).activeBom 0) u 1) :=
  rollupLaw_iff (boxOf 1) .costingEngine 0 1 (acyclic_boxOf 1)

/-- Ten parts at five each make ten kits, and the box of one kit is costed at fifty. -/
theorem not_rollupLaw_boxOfTen :
    Acyclic (Leads ((boxOf 10).activeBom 0)) ∧
      RolledUp ((boxOf 10).activeBom 0) ((boxOf 10).leafCost 0 .costing) (fun _ => 5) ∧
      (boxOf 10).unitMaterial .costing 0 1 = .ok 50 ∧
      ¬RollupLaw ((boxOf 10).activeBom 0) ((boxOf 10).leafCost 0 .costing) (fun _ => 5) 1 := by
  have hfifty : (boxOf 10).unitMaterial .costing 0 1 = .ok 50 := by decide +kernel
  refine ⟨acyclic_boxOf 10, ?_, hfifty, fun hlaw => ?_⟩
  · intro q bom hbom
    obtain ⟨hlisted, -⟩ := RollupContext.mem_boms_of_activeBom hbom
    have hall : ∀ bom ∈ (boxOf 10).boms, 5 = perUnit bom.baseQuantity.value
        (totalFrom ((boxOf 10).activeBom 0) ((boxOf 10).leafCost 0 .costing) (fun _ => 5) 0
          bom.components) := by
      decide +kernel
    exact hall bom hlisted
  · have hsame := Except.ok.inj (hfifty.symm.trans hlaw.product)
    norm_num at hsame

end Forecast.Costing
