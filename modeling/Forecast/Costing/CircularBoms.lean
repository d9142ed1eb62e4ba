import Forecast.Costing.BomExplosion

/-!
# Circular bills of material

The explosion of a product is followed from its BOM down along the phantom lines, with the
depth and the visited set that each call has. It returns exactly when no call meets a product
visited before and none is deeper than the bound; a cycle among the phantoms always leads to
one of the two, but so do two lines that name one phantom.
-/

open AcyclicRelation DecimalColumn Relation Transactions

namespace Forecast.Costing

def RollupError.reportsCycle : RollupError → Bool
  | noActiveBom _ => false
  | depthExceeded => true
  | circular _ => true

/-- The rollup of a product ends with an error that says that its BOM is circular. -/
def ReportsCycle (result : Except RollupError Decimal) : Prop :=
  ∃ e, result = .error e ∧ e.reportsCycle = true

section Graph

variable (bomOf : Id → Option BillWithComponents)

/-- The BOM of `a` has a phantom line for `b`. -/
def Leads (a b : Id) : Prop :=
  ∃ bom line, bomOf a = some bom ∧ line ∈ bom.components ∧ line.isPhantom = true ∧
    line.componentProductId = b

/-- The phantoms that are reached from a product contain a cycle. -/
def CyclicFrom (p : Id) : Prop := ∃ x, ReflTransGen (Leads bomOf) p x ∧ TransGen (Leads bomOf) x x

/-- A phantom line along the branches from `p`: the depth and the visited set with which the
BOM of its product is exploded. -/
inductive Reached (p : Id) : ℕ → List Id → Id → BillWithComponents → Prop
  | product {bom : BillWithComponents} (hbom : bomOf p = some bom) : Reached p 0 [p] p bom
  | phantom {depth : ℕ} {visited : List Id} {q : Id} {bom childBom : BillWithComponents}
      {before after : List BomLine} {line : BomLine} (hparent : Reached p depth visited q bom)
      (hsplit : bom.components = before ++ line :: after) (hline : line.isPhantom = true)
      (hbom : bomOf line.componentProductId = some childBom) :
      Reached p (depth + 1) (line.componentProductId :: visitedAfter visited before)
        line.componentProductId childBom

/-- Along some branch a phantom line names the product of a line above it, of an earlier line
beside those, or `p` itself. -/
def NamesPhantomAgain (p : Id) : Prop :=
  ∃ depth visited q bom before line after, Reached bomOf p depth visited q bom ∧
    bom.components = before ++ line :: after ∧ line.isPhantom = true ∧
    line.componentProductId ∈ visitedAfter visited before

/-- Some branch has more than twenty phantoms with a BOM below each other. -/
def NestsTooDeep (p : Id) : Prop := ∃ visited q bom, Reached bomOf p 21 visited q bom

/-- What the explosion takes for a cycle. -/
def LooksCircular (p : Id) : Prop := NamesPhantomAgain bomOf p ∨ NestsTooDeep bomOf p

end Graph

section Explosion

variable {bomOf : Id → Option BillWithComponents} {costOf : Id → Decimal} {p : Id}

theorem Reached.bomOf_eq {depth : ℕ} {visited : List Id} {q : Id} {bom : BillWithComponents}
    (h : Reached bomOf p depth visited q bom) : bomOf q = some bom := by
  cases h with
  | product hbom => exact hbom
  | phantom _ _ _ hbom => exact hbom

theorem explodeLines_error {explode : List Id → List BomLine → Except RollupError Decimal}
    (hcall : ∀ visited lines e, explode visited lines = .error e → e.reportsCycle = true)
    {visited : List Id} {total : Decimal} {lines : List BomLine} {e : RollupError}
    (h : explodeLines bomOf costOf explode visited total lines = .error e) :
    e.reportsCycle = true := by
  induction lines generalizing visited total with
  | nil => cases h
  | cons line rest ih =>
    rw [explodeLines] at h
    split_ifs at h with hline hmem
    · cases h
      rfl
    · split at h
      · exact ih h
      · split at h
        · cases h
          exact hcall _ _ _ ‹_›
        · exact ih h
    · exact ih h

theorem materialCost_error {levels : ℕ} {visited : List Id} {lines : List BomLine}
    {e : RollupError} (h : materialCost bomOf costOf levels visited lines = .error e) :
    e.reportsCycle = true := by
  induction levels generalizing visited lines e with
  | zero =>
    cases h
    rfl
  | succ levels ih => exact explodeLines_error (fun _ _ _ => ih) h

/-- What a call that returned says about the calls that it made. -/
theorem everyPhantom_of_eq_ok {levels : ℕ} {visited : List Id} {lines : List BomLine} {r : Decimal}
    (h : materialCost bomOf costOf levels visited lines = .ok r) :
    ∃ below, levels = below + 1 ∧ EveryPhantom bomOf
      (fun v _ bom => ∃ c, materialCost bomOf costOf below v bom.components = .ok c)
      visited lines := by
  cases levels with
  | zero => cases h
  | succ below => exact ⟨below, rfl, (exists_explodeLines_eq_ok_iff 0).1 ⟨r, h⟩⟩

/-- In an explosion that returns, every call returns and is within the bound. -/
theorem Reached.returns {root : BillWithComponents} (hroot : bomOf p = some root) {r : Decimal}
    (hok : materialCost bomOf costOf 21 [p] root.components = .ok r)
    {depth : ℕ} {visited : List Id} {q : Id} {bom : BillWithComponents}
    (h : Reached bomOf p depth visited q bom) :
    depth ≤ 20 ∧ ∃ c, materialCost bomOf costOf (21 - depth) visited bom.components = .ok c := by
  induction h with
  | product hbom =>
    rw [hroot] at hbom
    cases hbom
    exact ⟨by omega, r, hok⟩
  | @phantom depth visited q bom childBom before after line _ hsplit hline hbom ih =>
    obtain ⟨hdepth, c, hc⟩ := ih
    obtain ⟨below, hbelow, hall⟩ := everyPhantom_of_eq_ok hc
    obtain ⟨d, hd⟩ := (hall before line after hsplit hline).2 childBom hbom
    have hlevels : 21 - (depth + 1) = below := by omega
    rw [hlevels]
    obtain ⟨less, hless, -⟩ := everyPhantom_of_eq_ok hd
    exact ⟨by omega, d, hd⟩

theorem not_looksCircular_of_eq_ok {root : BillWithComponents} (hroot : bomOf p = some root)
    {r : Decimal} (hok : materialCost bomOf costOf 21 [p] root.components = .ok r) :
    ¬LooksCircular bomOf p := by
  rintro (⟨depth, visited, q, bom, before, line, after, hreached, hsplit, hline, hmem⟩ |
    ⟨visited, q, bom, hreached⟩)
  · obtain ⟨-, c, hc⟩ := hreached.returns hroot hok
    obtain ⟨below, -, hall⟩ := everyPhantom_of_eq_ok hc
    exact (hall before line after hsplit hline).1 hmem
  · obtain ⟨hdepth, -⟩ := hreached.returns hroot hok
    omega

variable (costOf) in
/-- The calls that the explosion makes, from the deepest level up. -/
theorem Reached.exists_eq_ok (hclear : ¬LooksCircular bomOf p) {levels depth : ℕ}
    (hlevels : depth + levels = 21) {visited : List Id} {q : Id} {bom : BillWithComponents}
    (h : Reached bomOf p depth visited q bom) :
    ∃ c, materialCost bomOf costOf levels visited bom.components = .ok c := by
  induction levels generalizing depth visited q bom with
  | zero =>
    have hdepth : depth = 21 := by omega
    subst hdepth
    exact absurd (Or.inr ⟨visited, q, bom, h⟩) hclear
  | succ levels ih =>
    apply (exists_explodeLines_eq_ok_iff 0).2
    intro before line after hsplit hline
    constructor
    · intro hmem
      exact hclear (Or.inl ⟨depth, visited, q, bom, before, line, after, h, hsplit, hline, hmem⟩)
    · intro childBom hbom
      exact ih (by omega) (h.phantom hsplit hline hbom)

theorem rollUp_eq_map {root : BillWithComponents} (hroot : bomOf p = some root) :
    rollUp bomOf costOf p = (materialCost bomOf costOf 21 [p] root.components).map
      (perUnit root.baseQuantity.value) := by
  rw [rollUp, hroot]
  cases h : materialCost bomOf costOf 21 [p] root.components <;>
    simp only [found, bind, Except.bind, h] <;> rfl

/-- The rollup returns a cost exactly when the product has a BOM that does not look circular. -/
theorem exists_rollUp_eq_ok_iff :
    (∃ c, rollUp bomOf costOf p = .ok c) ↔ (bomOf p).isSome = true ∧ ¬LooksCircular bomOf p := by
  simp only [rollUp, bind_eq_ok, found_eq_ok, pure_eq_ok]
  constructor
  · rintro ⟨c, root, hroot, total, htotal, -⟩
    exact ⟨by rw [hroot]; rfl, not_looksCircular_of_eq_ok hroot htotal⟩
  · rintro ⟨hsome, hclear⟩
    obtain ⟨root, hroot⟩ := Option.isSome_iff_exists.1 hsome
    obtain ⟨total, htotal⟩ := (Reached.product hroot).exists_eq_ok costOf hclear
      (by omega : 0 + 21 = 21)
    exact ⟨_, root, hroot, total, htotal, rfl⟩

theorem LooksCircular.isSome (h : LooksCircular bomOf p) : (bomOf p).isSome = true := by
  have hreached : ∀ {depth visited q bom}, Reached bomOf p depth visited q bom →
      (bomOf p).isSome = true := by
    intro depth visited q bom hq
    induction hq with
    | product hbom => rw [hbom]; rfl
    | phantom _ _ _ _ ih => exact ih
  rcases h with ⟨_, _, _, _, _, _, _, hq, -⟩ | ⟨_, _, _, hq⟩
  · exact hreached hq
  · exact hreached hq

theorem reportsCycle_iff : ReportsCycle (rollUp bomOf costOf p) ↔ LooksCircular bomOf p := by
  constructor
  · rintro ⟨e, he, hcycle⟩
    by_contra hclear
    cases hroot : bomOf p with
    | none =>
      simp only [rollUp, hroot, found] at he
      cases he
      cases hcycle
    | some root =>
      obtain ⟨c, hc⟩ := exists_rollUp_eq_ok_iff.2 ⟨by rw [hroot]; rfl, hclear⟩
      rw [he] at hc
      cases hc
  · intro hcircular
    obtain ⟨root, hroot⟩ := Option.isSome_iff_exists.1 hcircular.isSome
    cases hcost : materialCost bomOf costOf 21 [p] root.components with
    | error e =>
      refine ⟨e, ?_, materialCost_error hcost⟩
      rw [rollUp_eq_map hroot, hcost]
      rfl
    | ok total => exact absurd hcircular (not_looksCircular_of_eq_ok hroot hcost)

/-! ### Cycles -/

theorem exists_reached_of_transGen {x : Id} (hcycle : TransGen (Leads bomOf) x x)
    (hpath : TransGen (Leads bomOf) p x) (depth : ℕ) :
    ∃ visited q bom, Reached bomOf p depth visited q bom ∧ TransGen (Leads bomOf) q x := by
  induction depth with
  | zero =>
    obtain ⟨b, ⟨root, line, hroot, -⟩, -⟩ := TransGen.head'_iff.1 hpath
    exact ⟨[p], p, root, .product hroot, hpath⟩
  | succ depth ih =>
    obtain ⟨visited, q, bom, hreached, hq⟩ := ih
    obtain ⟨b, ⟨bom', line, hbom', hmem, hline, rfl⟩, hb⟩ := TransGen.head'_iff.1 hq
    have hsame : bom' = bom := Option.some.inj (hbom'.symm.trans hreached.bomOf_eq)
    subst hsame
    have hnext : TransGen (Leads bomOf) line.componentProductId x := TransGen.trans_right hb hcycle
    obtain ⟨c, ⟨childBom, child, hchild, -⟩, -⟩ := TransGen.head'_iff.1 hnext
    obtain ⟨before, after, hsplit⟩ := List.append_of_mem hmem
    exact ⟨_, _, childBom, hreached.phantom hsplit hline hchild, hnext⟩

theorem CyclicFrom.looksCircular (h : CyclicFrom bomOf p) : LooksCircular bomOf p := by
  obtain ⟨x, hpath, hcycle⟩ := h
  obtain ⟨visited, q, bom, hreached, -⟩ :=
    exists_reached_of_transGen hcycle (TransGen.trans_right hpath hcycle) 21
  exact Or.inr ⟨visited, q, bom, hreached⟩

/-- The rollup reports a cycle exactly when there is one, but for the products that look
circular without a cycle. -/
theorem reportsCycle_iff_cyclicFrom_iff (ctx : RollupContext) (service : CostService)
    (date : Millis) (p : Id) :
    (ReportsCycle (ctx.unitMaterial service date p) ↔ CyclicFrom (ctx.activeBom date) p) ↔
      CyclicFrom (ctx.activeBom date) p ∨ ¬LooksCircular (ctx.activeBom date) p := by
  rw [RollupContext.unitMaterial, reportsCycle_iff]
  constructor
  · intro h
    by_cases hcyclic : CyclicFrom (ctx.activeBom date) p
    · exact Or.inl hcyclic
    · exact Or.inr (hcyclic ∘ h.1)
  · rintro (hcyclic | hclear)
    · exact iff_of_true hcyclic.looksCircular hcyclic
    · exact iff_of_false hclear (hclear ∘ CyclicFrom.looksCircular)

end Explosion

/-! ### A kit in a box -/

/-- A line of a BOM without scrap. -/
def plainLine (productId : Id) (quantity : ℚ) (isPhantom : Bool) : BomLine :=
  ⟨productId, (Column.store quantity).getD .zero, .zero, isPhantom⟩

/-- An active BOM without an end. -/
def activeBill (productId : Id) (baseQuantity : ℚ) (components : List BomLine) :
    BillWithComponents :=
  ⟨productId, .active, 0, none, (Column.store baseQuantity).getD .zero, components⟩

/-- Product 1 needs the phantoms 2 and 3, and phantom 3 needs phantom 2. -/
def kitInBox : RollupContext where
  now := 0
  boms := [activeBill 1 1 [plainLine 2 1 true, plainLine 3 1 true],
    activeBill 3 1 [plainLine 2 1 true], activeBill 2 1 [plainLine 4 1 false]]
  standardCost := fun _ => Column.store 5
  code := fun _ => "KIT"

theorem leads_kitInBox {a b : Id} (h : Leads (kitInBox.activeBom 0) a b) :
    (a, b) = (1, 2) ∨ (a, b) = (1, 3) ∨ (a, b) = (3, 2) := by
  obtain ⟨bom, line, hbom, hmem, hline, rfl⟩ := h
  obtain ⟨hlisted, hparent⟩ := RollupContext.mem_boms_of_activeBom hbom
  have hall : ∀ bom ∈ kitInBox.boms, ∀ line ∈ bom.components, line.isPhantom = true →
      (bom.parentProductId, line.componentProductId) = (1, 2) ∨
        (bom.parentProductId, line.componentProductId) = (1, 3) ∨
        (bom.parentProductId, line.componentProductId) = (3, 2) := by
    decide +kernel
  rw [← hparent]
  exact hall bom hlisted line hmem hline

/-- Phantom 2 is exploded along two branches, which is reported as a cycle. -/
theorem not_reportsCycle_iff_kitInBox :
    ¬(ReportsCycle (kitInBox.unitMaterial .costing 0 1) ↔
      CyclicFrom (kitInBox.activeBom 0) 1) := by
  have hreports : ReportsCycle (kitInBox.unitMaterial .costing 0 1) :=
    ⟨.circular 2, by decide +kernel, rfl⟩
  have hacyclic : Acyclic (Leads (kitInBox.activeBom 0)) := by
    apply acyclic_of_rank fun p => if p = 1 then 2 else if p = 3 then 1 else 0
    intro a b h
    rcases leads_kitInBox h with hab | hab | hab <;> cases hab <;> decide
  intro h
  obtain ⟨x, -, hcycle⟩ := h.1 hreports
  exact hacyclic x hcycle

end Forecast.Costing
