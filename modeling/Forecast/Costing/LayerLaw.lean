import Forecast.Costing.JournalPostings

/-!
# What leaves a cost layer

A layer is depleted at its unit cost. What its depletions cost adds up to what its receipt
cost once it is depleted; landed cost is added to its total, and no depletion prices it.
-/

open KeyedTable DecimalColumn Transactions Runs

namespace Forecast.Costing

open Inventory (Qty StockKey StockDb Fits)

/-- The cost of a depletion without rounding. -/
def CostLayerDepletion.exactCost (d : CostLayerDepletion) : ℚ :=
  d.depletedQty.value * d.unitCost.value

/-- The cost of a receipt without rounding. -/
def CostLayer.exactCost (l : CostLayer) : ℚ := l.originalQty.value * l.unitCost.value

def Books.depletionsOf (books : Books) (i : Id) : List CostLayerDepletion :=
  books.depletions.filter fun d => d.costLayerId = i

/-- The layer's costs differ from the exact ones by what their columns cut off. -/
structure CostLayer.Conserves (l : CostLayer) (ds : List CostLayerDepletion) : Prop where
  qty : l.remainingQty.value + (ds.map fun d => d.depletedQty.value).sum = l.originalQty.value
  unit : ∀ d ∈ ds, d.unitCost = l.unitCost
  cost : ∀ d ∈ ds, |d.totalCost.value - d.exactCost| ≤ slack 4 d.exactCost
  total : |l.totalCost.value - l.exactCost| ≤ slack 4 l.exactCost
  depleted : l.status = .depleted → l.remainingQty.value = 0

/-- What the columns of the layer and its depletions may cut off. -/
def CostLayer.allowance (l : CostLayer) (ds : List CostLayerDepletion) : ℚ :=
  slack 4 l.exactCost + (ds.map fun d => slack 4 d.exactCost).sum

/-- Layers are numbered in the order of their creation. -/
structure Books.Numbered (books : Books) : Prop where
  ids : books.costLayers.map CostLayer.id = List.range books.costLayers.length
  depletions : ∀ d ∈ books.depletions, d.costLayerId < books.costLayers.length

structure Books.KeepsLayer (books : Books) (i : Id) : Prop where
  numbered : books.Numbered
  conserves : ∀ l, lookup CostLayer.id books.costLayers i = some l →
    l.Conserves (books.depletionsOf i)

/-! ### One layer -/

theorem abs_sum_sub_le {ds : List CostLayerDepletion}
    (h : ∀ d ∈ ds, |d.totalCost.value - d.exactCost| ≤ slack 4 d.exactCost) :
    |(ds.map fun d => d.totalCost.value).sum - (ds.map CostLayerDepletion.exactCost).sum| ≤
      (ds.map fun d => slack 4 d.exactCost).sum := by
  induction ds with
  | nil => simp
  | cons d ds ih =>
    have hd := h d List.mem_cons_self
    have hds := ih fun e he => h e (List.mem_cons_of_mem d he)
    simp only [List.map_cons, List.sum_cons]
    rw [add_sub_add_comm]
    exact (abs_add_le _ _).trans (add_le_add hd hds)

theorem sum_exactCost {ds : List CostLayerDepletion} {u : Qty} (h : ∀ d ∈ ds, d.unitCost = u) :
    (ds.map CostLayerDepletion.exactCost).sum =
      (ds.map fun d => d.depletedQty.value).sum * u.value := by
  induction ds with
  | nil => simp
  | cons d ds ih =>
    simp only [List.map_cons, List.sum_cons]
    rw [ih fun e he => h e (List.mem_cons_of_mem d he), CostLayerDepletion.exactCost,
      h d List.mem_cons_self, add_mul]

theorem CostLayer.Conserves.close {l : CostLayer} {ds : List CostLayerDepletion}
    (h : l.Conserves ds) (hstatus : l.status = .depleted) :
    |(ds.map fun d => d.totalCost.value).sum - l.totalCost.value| ≤ l.allowance ds := by
  have hqty := h.qty
  rw [h.depleted hstatus, zero_add] at hqty
  have hexact : (ds.map CostLayerDepletion.exactCost).sum = l.exactCost := by
    rw [sum_exactCost h.unit, hqty, CostLayer.exactCost]
  have hdepletions := abs_sum_sub_le h.cost
  have htotal := h.total
  rw [hexact] at hdepletions
  rw [abs_sub_comm] at htotal
  have htriangle := abs_sub_le (ds.map fun d => d.totalCost.value).sum l.exactCost l.totalCost.value
  rw [CostLayer.allowance]
  linarith

/-- What a depletion takes from a layer. -/
structure Taken (l l' : CostLayer) (d : CostLayerDepletion) : Prop where
  id : l'.id = l.id
  layer : d.costLayerId = l.id
  remaining : l'.remainingQty.value = l.remainingQty.value - d.depletedQty.value
  original : l'.originalQty = l.originalQty
  unit : l'.unitCost = l.unitCost
  unitTaken : d.unitCost = l.unitCost
  total : l'.totalCost = l.totalCost
  cost : |d.totalCost.value - d.exactCost| ≤ slack 4 d.exactCost
  depleted : l'.status = .depleted → l'.remainingQty.value = 0

theorem CostLayer.Conserves.taken {l l' : CostLayer} {d : CostLayerDepletion}
    {ds : List CostLayerDepletion} (h : l.Conserves ds) (ht : Taken l l' d) :
    l'.Conserves (ds ++ [d]) where
  qty := by
    have hqty := h.qty
    rw [ht.remaining, ht.original, List.map_append, List.sum_append, List.map_singleton,
      List.sum_singleton]
    linarith
  unit := by
    intro e he
    rw [ht.unit]
    rcases List.mem_append.1 he with he | he
    · exact h.unit e he
    · rw [List.mem_singleton.1 he, ht.unitTaken]
  cost := by
    intro e he
    rcases List.mem_append.1 he with he | he
    · exact h.cost e he
    · rw [List.mem_singleton.1 he]
      exact ht.cost
  total := by
    rw [CostLayer.exactCost, ht.original, ht.unit, ht.total]
    exact h.total
  depleted := ht.depleted

/-! ### One depletion -/

/-- A depletion takes from the layer and leaves less to take. -/
theorem depleteLayer_eq_ok {reference : DepletionReference} {s s' : DepletionState} {l : CostLayer}
    (h : depleteLayer reference s l = .ok s') (hs : Fits 1 s.remaining)
    (hl : 0 < l.remainingQty.value) :
    s' = s ∨ Fits 1 s'.remaining ∧ ∃ (l' : CostLayer) (d : CostLayerDepletion), Taken l l' d ∧
      s'.books = { s.books with
        costLayers := upsert CostLayer.id s.books.costLayers l'
        depletions := s.books.depletions ++ [d] } := by
  unfold depleteLayer at h
  by_cases hrest : s.remaining ≤ 0
  · rw [if_pos hrest] at h
    cases h
    exact Or.inl rfl
  · rw [if_neg hrest] at h
    simp only [bind_eq_ok, pure_eq_ok, columnOf_eq_ok] at h
    obtain ⟨remainingQty, hremaining, depletedQty, hdepleted, totalCost, htotal, rfl⟩ := h
    push Not at hrest
    have hfit : Fits 1 (min s.remaining l.remainingQty.value) := by
      rcases min_choice s.remaining l.remainingQty.value with heq | heq <;> rw [heq]
      · exact hs
      · exact Fits.value _
    have hle : min s.remaining l.remainingQty.value ≤ l.remainingQty.value := min_le_right _ _
    have hle' : min s.remaining l.remainingQty.value ≤ s.remaining := min_le_left _ _
    have hpos : 0 < min s.remaining l.remainingQty.value := lt_min hrest hl
    have hnew := (Fits.value l.remainingQty).minus_eq hfit (by norm_num)
    have hleft := hs.minus_eq hfit (by norm_num)
    have hdepletedValue := Column.value_of_store hdepleted hfit.onScale
    rw [hnew] at hremaining
    have hremainingValue := Column.value_of_store hremaining
      ((Fits.value l.remainingQty).onScale.sub hfit.onScale)
    refine Or.inr ⟨?_, l.left remainingQty _, reference.depletion l depletedQty totalCost,
      ⟨rfl, rfl, ?_, rfl, rfl, rfl, rfl, ?_, ?_⟩, rfl⟩
    · -- what is left to take lies between zero and what was to take before
      dsimp only
      rw [hleft]
      refine ⟨hs.onScale.sub hfit.onScale, ?_⟩
      have hlt := hs.lt
      rw [abs_of_pos hrest] at hlt
      rw [abs_of_nonneg (by linarith)]
      nlinarith
    · change remainingQty.value = l.remainingQty.value - depletedQty.value
      rw [hremainingValue, hdepletedValue]
    · change |totalCost.value - depletedQty.value * l.unitCost.value| ≤
        slack 4 (depletedQty.value * l.unitCost.value)
      rw [hdepletedValue]
      exact abs_value_sub_le_slack htotal
    · intro hstatus
      change remainingQty.value = 0
      rw [hremainingValue]
      by_contra hne
      have hleftover : 0 < l.remainingQty.value - min s.remaining l.remainingQty.value :=
        lt_of_le_of_ne (by linarith) (Ne.symm hne)
      rw [CostLayer.left, hnew, if_neg (not_le.2 hleftover)] at hstatus
      cases hstatus

/-! ### The books -/

namespace Books

variable {books books' : Books} {i : Id}

def SameLayers (books books' : Books) : Prop :=
  books'.costLayers = books.costLayers ∧ books'.depletions = books.depletions

theorem KeepsLayer.of_same (h : books.KeepsLayer i) (hsame : SameLayers books books') :
    books'.KeepsLayer i := by
  obtain ⟨hlayers, hdepletions⟩ := hsame
  refine ⟨⟨?_, ?_⟩, ?_⟩
  · rw [hlayers]
    exact h.numbered.ids
  · rw [hlayers, hdepletions]
    exact h.numbered.depletions
  · rw [hlayers, depletionsOf, hdepletions]
    exact h.conserves

theorem Numbered.nodup (h : books.Numbered) : (books.costLayers.map CostLayer.id).Nodup := by
  rw [h.ids]
  exact List.nodup_range

theorem Numbered.lt_of_lookup (h : books.Numbered) {l : CostLayer}
    (hl : lookup CostLayer.id books.costLayers i = some l) : i < books.costLayers.length := by
  obtain ⟨hmem, rfl⟩ := lookup_eq_some hl
  have hid := List.mem_map_of_mem (f := CostLayer.id) hmem
  rw [h.ids] at hid
  exact List.mem_range.1 hid

theorem Numbered.ids_upsert (h : books.Numbered) {l : CostLayer}
    (hl : l.id ∈ books.costLayers.map CostLayer.id) :
    (upsert CostLayer.id books.costLayers l).map CostLayer.id =
      List.range (upsert CostLayer.id books.costLayers l).length := by
  have hkeys := keys_upsert_of_mem hl
  have hlength := congrArg List.length hkeys
  rw [List.length_map, List.length_map] at hlength
  rw [hkeys, hlength, h.ids]

theorem length_upsert_of_mem {layers : List CostLayer} {l : CostLayer}
    (hl : l.id ∈ layers.map CostLayer.id) :
    (upsert CostLayer.id layers l).length = layers.length := by
  have hlength := congrArg List.length (keys_upsert_of_mem hl)
  rwa [List.length_map, List.length_map] at hlength

/-- A new layer at the end starts without depletions. -/
theorem KeepsLayer.addLayer {params : LayerParams} (h : books.KeepsLayer i)
    (hadd : books.addLayer params = .ok books')
    (hfirst : i = books.costLayers.length → OnScale 4 params.qty ∧ OnScale 4 params.unitCost ∧
      params.totalCost = params.qty.times params.unitCost) : books'.KeepsLayer i := by
  simp only [Books.addLayer, LayerParams.layer, bind_eq_ok, pure_eq_ok, columnOf_eq_ok] at hadd
  obtain ⟨l, ⟨qty, hqty, unitCost, hunit, totalCost, htotal, rfl⟩, rfl⟩ := hadd
  refine ⟨⟨?_, ?_⟩, ?_⟩
  · rw [List.map_append, h.numbered.ids, List.map_singleton, List.length_append,
      List.length_singleton, List.range_succ]
  · intro d hd
    rw [List.length_append]
    exact (h.numbered.depletions d hd).trans_le (Nat.le_add_right _ _)
  · intro l hl
    dsimp only at hl
    rw [lookup_append] at hl
    cases hold : lookup CostLayer.id books.costLayers i with
    | some old =>
      rw [hold, Option.some_or] at hl
      cases hl
      exact h.conserves _ hold
    | none =>
      rw [hold, Option.none_or] at hl
      obtain ⟨hmem, hid⟩ := lookup_eq_some hl
      rw [List.mem_singleton] at hmem
      have hi : i = books.costLayers.length := by rw [← hid, hmem]
      obtain ⟨hscale, hunitScale, hcost⟩ := hfirst hi
      have hnone : depletionsOf { books with costLayers := books.costLayers ++ [l] } i = [] := by
        rw [depletionsOf, List.filter_eq_nil_iff]
        intro d hd
        have hlt := h.numbered.depletions d hd
        rw [← hi] at hlt
        simpa using hlt.ne
      have hqtyValue := Column.value_of_store hqty hscale
      have hunitValue := Column.value_of_store hunit hunitScale
      rw [hcost] at htotal
      rw [hmem] at hnone ⊢
      rw [hnone]
      refine ⟨?_, ?_, ?_, ?_, ?_⟩
      · simp
      · simp
      · simp
      · change |totalCost.value - qty.value * unitCost.value| ≤ slack 4 (qty.value * unitCost.value)
        rw [hqtyValue, hunitValue]
        exact abs_value_sub_le_slack htotal
      · intro hstatus
        cases hstatus

theorem KeepsLayer.landOnLayer {costLayerId : Option Id} {key : StockKey} {amount : Decimal}
    (h : books.KeepsLayer i) (hland : books.landOnLayer costLayerId key amount = .ok books')
    (hother : costLayerId ≠ some i) : books'.KeepsLayer i := by
  unfold Books.landOnLayer at hland
  cases costLayerId with
  | none =>
    cases hland
    exact h
  | some j =>
    simp only [bind_eq_ok, pure_eq_ok, found_eq_ok, Option.filter_eq_some_iff] at hland
    obtain ⟨layer, ⟨hlayer, -⟩, landed, hlanded, rfl⟩ := hland
    obtain ⟨hmem, hid⟩ := lookup_eq_some hlayer
    simp only [CostLayer.addLandedCost, bind_eq_ok, pure_eq_ok] at hlanded
    obtain ⟨landedCost, -, totalCost, -, rfl⟩ := hlanded
    have hkey : layer.id ∈ books.costLayers.map CostLayer.id := List.mem_map_of_mem hmem
    refine ⟨⟨h.numbered.ids_upsert hkey, ?_⟩, ?_⟩
    · intro d hd
      dsimp only
      rw [length_upsert_of_mem]
      · exact h.numbered.depletions d hd
      · exact hkey
    · intro l hl
      dsimp only at hl
      rw [lookup_upsert, if_neg] at hl
      · exact h.conserves l hl
      · intro heq
        exact hother (congrArg some (hid.symm.trans heq))

theorem KeepsLayer.taken {l l' : CostLayer} {d : CostLayerDepletion} (h : books.KeepsLayer i)
    (hl : lookup CostLayer.id books.costLayers l.id = some l) (ht : Taken l l' d) :
    KeepsLayer { books with
      costLayers := upsert CostLayer.id books.costLayers l'
      depletions := books.depletions ++ [d] } i := by
  obtain ⟨hmem, -⟩ := lookup_eq_some hl
  have hkey : l'.id ∈ books.costLayers.map CostLayer.id := by
    rw [ht.id]
    exact List.mem_map_of_mem hmem
  refine ⟨⟨h.numbered.ids_upsert hkey, ?_⟩, ?_⟩
  · intro e he
    dsimp only at he ⊢
    rw [length_upsert_of_mem hkey]
    rcases List.mem_append.1 he with he | he
    · exact h.numbered.depletions e he
    · rw [List.mem_singleton.1 he, ht.layer]
      exact h.numbered.lt_of_lookup hl
  · intro k hk
    dsimp only at hk
    rw [lookup_upsert, ht.id] at hk
    rw [depletionsOf, List.filter_append]
    by_cases hi : l.id = i
    · rw [if_pos hi] at hk
      cases hk
      rw [hi] at hl
      have htaken : [d].filter (fun d => d.costLayerId = i) = [d] := by
        simp [ht.layer, hi]
      rw [htaken]
      exact (h.conserves l hl).taken ht
    · rw [if_neg hi] at hk
      have hnone : [d].filter (fun d => d.costLayerId = i) = [] := by
        simp [ht.layer, hi]
      rw [hnone, List.append_nil]
      exact h.conserves k hk

end Books

/-- The layers still to be read are as they were when the depletion started. -/
theorem Books.KeepsLayer.depleteLayers {i : Id} {reference : DepletionReference}
    {ls : List CostLayer} {s s' : DepletionState}
    (h : forEach (depleteLayer reference) s ls = .ok s') (hnodup : (ls.map CostLayer.id).Nodup)
    (hcurrent : ∀ l ∈ ls, lookup CostLayer.id s.books.costLayers l.id = some l)
    (hpos : ∀ l ∈ ls, 0 < l.remainingQty.value) (hs : Fits 1 s.remaining)
    (hk : s.books.KeepsLayer i) : s'.books.KeepsLayer i := by
  induction ls generalizing s with
  | nil =>
    cases h
    exact hk
  | cons l ls ih =>
    obtain ⟨m, hm, hrun⟩ := forEach_cons_eq_ok.1 h
    rw [List.map_cons, List.nodup_cons] at hnodup
    have hrest : ∀ k ∈ ls, 0 < k.remainingQty.value := fun k hk => hpos k (List.mem_cons_of_mem l hk)
    rcases depleteLayer_eq_ok hm hs (hpos l List.mem_cons_self) with
      rfl | ⟨hfit, l', d, ht, hbooks⟩
    · exact ih hrun hnodup.2 (fun k hk => hcurrent k (List.mem_cons_of_mem l hk)) hrest hs hk
    · refine ih hrun hnodup.2 ?_ hrest hfit ?_
      · intro k hkmem
        have hne : l'.id ≠ k.id := by
          rw [ht.id]
          intro heq
          exact hnodup.1 (heq ▸ List.mem_map_of_mem hkmem)
        rw [hbooks]
        dsimp only
        rw [lookup_upsert, if_neg hne]
        exact hcurrent k (List.mem_cons_of_mem l hkmem)
      · rw [hbooks]
        exact hk.taken (hcurrent l List.mem_cons_self) ht

theorem openLayers_perm (layers : List CostLayer) (method : CostingMethod) (key : StockKey) :
    (openLayers layers method key).Perm (layers.filter fun l =>
      l.key = key ∧ l.status = .opened ∧ 0 < l.remainingQty.value) := by
  unfold openLayers
  dsimp only
  split_ifs <;> exact List.perm_insertionSort _ _

theorem Books.KeepsLayer.depleteCostLayers {books : Books} {i : Id} {key : StockKey}
    {quantity : Decimal} {method : CostingMethod} {reference : DepletionReference}
    {depleted : Books × Decimal} (hk : books.KeepsLayer i)
    (h : books.depleteCostLayers key quantity method reference = .ok depleted)
    (hq : Fits 1 quantity) : depleted.1.KeepsLayer i := by
  simp only [Books.depleteCostLayers, bind_eq_ok, pure_eq_ok] at h
  obtain ⟨s, hs, -, -, rfl⟩ := h
  have hperm := openLayers_perm books.costLayers method key
  have hmem : ∀ l ∈ openLayers books.costLayers method key,
      l ∈ books.costLayers ∧ 0 < l.remainingQty.value := by
    intro l hl
    have hl' := List.mem_filter.1 (hperm.mem_iff.1 hl)
    simp only [decide_eq_true_eq] at hl'
    exact ⟨hl'.1, hl'.2.2.2⟩
  have hnodup := hk.numbered.nodup
  refine Books.KeepsLayer.depleteLayers hs ?_ ?_ (fun l hl => (hmem l hl).2) hq hk
  · exact (hperm.map CostLayer.id).nodup_iff.2
      (hnodup.sublist (List.filter_sublist.map CostLayer.id))
  · exact fun l hl => lookup_of_mem hnodup (hmem l hl).1

/-! ### Books that only average -/

namespace Books

variable {books books' : Books} {key : StockKey}

theorem sameLayers_refl (books : Books) : SameLayers books books := ⟨rfl, rfl⟩

theorem sameLayers_updateMovingAverage {qty cost : Decimal}
    (h : books.updateMovingAverage key qty cost = .ok books') : SameLayers books books' := by
  simp only [Books.updateMovingAverage, bind_eq_ok, pure_eq_ok] at h
  obtain ⟨row, -, rfl⟩ := h
  exact ⟨rfl, rfl⟩

theorem sameLayers_adjustMovingAverageValue {amount : Decimal}
    (h : books.adjustMovingAverageValue key amount = .ok books') : SameLayers books books' := by
  unfold Books.adjustMovingAverageValue at h
  cases hrow : books.findItemCost key with
  | none =>
    rw [hrow] at h
    cases h
    exact sameLayers_refl books
  | some row =>
    simp only [hrow, bind_eq_ok, pure_eq_ok] at h
    obtain ⟨row', -, rfl⟩ := h
    exact ⟨rfl, rfl⟩

theorem sameLayers_updateLastIssueCost {unitCost : Decimal}
    (h : books.updateLastIssueCost key unitCost = .ok books') : SameLayers books books' := by
  unfold Books.updateLastIssueCost at h
  cases hrow : books.findItemCost key with
  | none =>
    rw [hrow] at h
    cases h
    exact sameLayers_refl books
  | some row =>
    simp only [hrow, bind_eq_ok, pure_eq_ok] at h
    obtain ⟨lastIssueCost, -, rfl⟩ := h
    exact ⟨rfl, rfl⟩

end Books

/-! ### The operations -/

def CostingMethod.isLayered (method : CostingMethod) : Bool := method = .fifo ∨ method = .lifo

/-- The receipt's unit cost in the tenant's currency. -/
def ReceiptCostParams.OnScaleCost (params : ReceiptCostParams) (ctx : CostingContext) : Prop :=
  match params.currency ctx with
  | .ok baseCurrency => OnScale 4 (params.baseCurrCost baseCurrency)
  | .error _ => True

instance (params : ReceiptCostParams) (ctx : CostingContext) :
    Decidable (params.OnScaleCost ctx) := by
  unfold ReceiptCostParams.OnScaleCost
  cases params.currency ctx
  · exact inferInstanceAs (Decidable True)
  · exact inferInstanceAs (Decidable (OnScale 4 _))

/-- No landed cost for layer `i`, which a receipt with a unit cost on its scale creates. -/
def CostCall.SoundFor (i : Id) (db : CostingDb) (c : CostCall) : Prop :=
  match c.op with
  | .receipt params =>
    i = db.books.costLayers.length → (c.ctx.resolveMethod params.key).isLayered →
      OnScale 4 params.quantity ∧ params.OnScaleCost c.ctx
  | .landedCost params => ∀ line ∈ params.allocations, line.costLayerId ≠ some i
  | .completion params =>
    (c.ctx.resolveMethod params.key).isLayered → i ≠ db.books.costLayers.length
  | .issue params => OnScale 4 params.quantity
  | .scrap params => OnScale 4 params.quantity
  | .labor _ | .overhead _ | .revaluation _ => True

instance (i : Id) (db : CostingDb) : (c : CostCall) → Decidable (c.SoundFor i db)
  | ⟨_, .receipt _⟩ => inferInstanceAs (Decidable (_ → _ → _ ∧ _))
  | ⟨_, .landedCost params⟩ =>
    inferInstanceAs (Decidable (∀ line ∈ params.allocations, line.costLayerId ≠ some i))
  | ⟨_, .completion _⟩ => inferInstanceAs (Decidable (_ → _))
  | ⟨_, .issue _⟩ => inferInstanceAs (Decidable (OnScale 4 _))
  | ⟨_, .scrap _⟩ => inferInstanceAs (Decidable (OnScale 4 _))
  | ⟨_, .labor _⟩ => inferInstanceAs (Decidable True)
  | ⟨_, .overhead _⟩ => inferInstanceAs (Decidable True)
  | ⟨_, .revaluation _⟩ => inferInstanceAs (Decidable True)

theorem fits_of_recordEntry {stock stock' : StockDb} {params : Inventory.EntryParams}
    (h : recordEntry stock params = .ok stock') (hscale : OnScale 4 params.quantity) :
    Fits 1 params.quantity :=
  (Inventory.recorded_of_recordEntry (mapError_eq_ok.1 h) hscale).fits

section Calls

variable {ctx : CostingContext} {db db' : CostingDb} {i : Id}

theorem ReceiptCostParams.keepsLayer {params : ReceiptCostParams} {baseCurrency : String}
    {books books' : Books} (h : params.enterBooks ctx baseCurrency books = .ok books')
    (hk : books.KeepsLayer i)
    (hfirst : i = books.costLayers.length → (ctx.resolveMethod params.key).isLayered →
      OnScale 4 params.quantity ∧ OnScale 4 (params.baseCurrCost baseCurrency)) :
    books'.KeepsLayer i := by
  unfold ReceiptCostParams.enterBooks at h
  cases hmethod : ctx.resolveMethod params.key with
  | fifo =>
    rw [hmethod] at h hfirst
    exact hk.addLayer h fun hi =>
      ⟨(hfirst hi (by decide)).1, (hfirst hi (by decide)).2, rfl⟩
  | lifo =>
    rw [hmethod] at h hfirst
    exact hk.addLayer h fun hi =>
      ⟨(hfirst hi (by decide)).1, (hfirst hi (by decide)).2, rfl⟩
  | movingAverage =>
    rw [hmethod] at h
    exact hk.of_same (Books.sameLayers_updateMovingAverage h)
  | standard =>
    rw [hmethod] at h
    exact hk.of_same (Books.sameLayers_updateMovingAverage h)
  | actualJobCosting =>
    rw [hmethod] at h
    cases h
    exact hk

theorem CompletionParams.keepsLayer {params : CompletionParams} {wipPerUnit : Decimal}
    {books books' : Books} (h : params.enterBooks ctx books wipPerUnit = .ok books')
    (hk : books.KeepsLayer i)
    (hother : (ctx.resolveMethod params.key).isLayered → i ≠ books.costLayers.length) :
    books'.KeepsLayer i := by
  unfold CompletionParams.enterBooks at h
  cases hmethod : ctx.resolveMethod params.key with
  | fifo =>
    rw [hmethod] at h hother
    exact hk.addLayer h fun hi => absurd hi (hother (by decide))
  | lifo =>
    rw [hmethod] at h hother
    exact hk.addLayer h fun hi => absurd hi (hother (by decide))
  | movingAverage =>
    rw [hmethod] at h
    exact hk.of_same (Books.sameLayers_updateMovingAverage h)
  | standard =>
    rw [hmethod] at h
    exact hk.of_same (Books.sameLayers_updateMovingAverage h)
  | actualJobCosting =>
    rw [hmethod] at h
    exact hk.of_same (Books.sameLayers_updateMovingAverage h)

theorem LandedCostLine.keepsLayer {line : LandedCostLine} {books books' : Books}
    (h : line.enterBooks ctx books = .ok books') (hk : books.KeepsLayer i)
    (hother : line.costLayerId ≠ some i) : books'.KeepsLayer i := by
  simp only [LandedCostLine.enterBooks, bind_eq_ok] at h
  obtain ⟨landed, hlanded, h⟩ := h
  have hk' := hk.landOnLayer hlanded hother
  split_ifs at h
  · exact hk'.of_same (Books.sameLayers_adjustMovingAverageValue h)
  · cases h
    exact hk'

theorem IssueCostParams.keepsLayer {params : IssueCostParams} {books : Books}
    {issued : Books × Decimal} (h : params.leaveBooks ctx books = .ok issued)
    (hk : books.KeepsLayer i) (hq : Fits 1 params.quantity) : issued.1.KeepsLayer i := by
  unfold IssueCostParams.leaveBooks at h
  cases hmethod : ctx.resolveMethod params.key with
  | fifo =>
    rw [hmethod] at h
    exact hk.depleteCostLayers h hq
  | lifo =>
    rw [hmethod] at h
    exact hk.depleteCostLayers h hq
  | movingAverage =>
    simp only [hmethod, bind_eq_ok, pure_eq_ok] at h
    obtain ⟨books', hbooks, rfl⟩ := h
    exact hk.of_same (Books.sameLayers_updateMovingAverage hbooks)
  | standard =>
    simp only [hmethod, bind_eq_ok, pure_eq_ok] at h
    obtain ⟨stdCost, -, rfl⟩ := h
    exact hk
  | actualJobCosting =>
    simp only [hmethod, bind_eq_ok, pure_eq_ok] at h
    obtain ⟨stdCost, -, rfl⟩ := h
    exact hk

theorem ScrapCostParams.keepsLayer {params : ScrapCostParams} {books : Books}
    {scrapped : Books × Decimal} (h : params.leaveBooks ctx books = .ok scrapped)
    (hk : books.KeepsLayer i) (hq : Fits 1 params.quantity) : scrapped.1.KeepsLayer i := by
  unfold ScrapCostParams.leaveBooks at h
  cases hmethod : ctx.resolveMethod params.key with
  | fifo =>
    rw [hmethod] at h
    exact hk.depleteCostLayers h hq
  | lifo =>
    rw [hmethod] at h
    exact hk.depleteCostLayers h hq
  | movingAverage =>
    rw [hmethod] at h
    cases h
    exact hk
  | standard =>
    rw [hmethod] at h
    cases h
    exact hk
  | actualJobCosting =>
    rw [hmethod] at h
    cases h
    exact hk

theorem CostCall.keepsLayer {c : CostCall} {result : CostResult}
    (h : c.body db = .ok (db', result)) (hk : db.books.KeepsLayer i) (hsound : c.SoundFor i db) :
    db'.books.KeepsLayer i := by
  obtain ⟨ctx, op⟩ := c
  cases op with
  | receipt params =>
    rcases receipt_eq_ok h with hrepeated | ⟨baseCurrency, posted, hcurrency, hbooks, -⟩
    · rw [hrepeated.2]
      exact hk
    · refine params.keepsLayer hbooks hk fun hi hlayered => ?_
      obtain ⟨hqty, hcost⟩ := hsound hi hlayered
      rw [ReceiptCostParams.OnScaleCost, hcurrency] at hcost
      exact ⟨hqty, hcost⟩
  | landedCost params =>
    rcases landedCost_eq_ok h with hrepeated | ⟨s, hs, hbooks, -⟩
    · rw [hrepeated.2]
      exact hk
    · rw [hbooks]
      refine forEach_invariant (I := fun s => s.books.KeepsLayer i) ?_ hs hk
      intro s s' line hline hkeeps hstep
      simp only [allocateLine, bind_eq_ok, pure_eq_ok] at hstep
      obtain ⟨-, -, -, -, books, hentered, rfl⟩ := hstep
      exact line.keepsLayer hentered hkeeps (hsound line hline)
  | issue params =>
    rcases issue_eq_ok h with hrepeated | ⟨issued, posted, hissued, hbooks, -, -, hstock, -⟩
    · rw [hrepeated.2]
      exact hk
    · have hscale : OnScale 4 params.quantity := hsound
      have hfits := (fits_of_recordEntry hstock hscale.neg).neg
      rw [IssueCostParams.entry, neg_neg] at hfits
      exact (params.keepsLayer hissued hk hfits).of_same
        (Books.sameLayers_updateLastIssueCost hbooks)
  | labor params =>
    rcases labor_eq_ok h with hrepeated | ⟨posted, -, -, hbooks, -⟩
    · rw [hrepeated.2]
      exact hk
    · rw [hbooks]
      exact hk
  | overhead params =>
    rcases overhead_eq_ok h with hrepeated | ⟨posted, -, -, hbooks, -⟩
    · rw [hrepeated.2]
      exact hk
    · rw [hbooks]
      exact hk
  | completion params =>
    rcases completion_eq_ok h with hrepeated | ⟨wipPerUnit, totalVariance, posted, journal, hbooks, -⟩
    · rw [hrepeated.2]
      exact hk
    · exact params.keepsLayer hbooks hk hsound
  | revaluation params =>
    obtain ⟨row, revalued, posted, -, -, hbooks, -⟩ := revaluation_eq_ok h
    rw [hbooks]
    exact hk.of_same ⟨rfl, rfl⟩
  | scrap params =>
    obtain ⟨scrapped, posted, hscrapped, hbooks, -, -, hstock, -⟩ := scrap_eq_ok h
    have hscale : OnScale 4 params.quantity := hsound
    have hfits := (fits_of_recordEntry hstock hscale.neg).neg
    rw [ScrapCostParams.entry, neg_neg] at hfits
    rw [hbooks]
    exact params.keepsLayer hscrapped hk hfits

theorem CostingDb.keepsLayer_call {c : CostCall} (hk : db.books.KeepsLayer i)
    (hsound : c.SoundFor i db) : (db.call c).books.KeepsLayer i := by
  cases h : c.body db with
  | error e =>
    rw [CostingDb.call_of_error h]
    exact hk
  | ok r =>
    rw [CostingDb.call_of_ok h]
    exact c.keepsLayer h hk hsound

end Calls

/-! ### Runs -/

theorem keepsLayer_empty (stock : StockDb) (journal : List JournalEntry) (i : Id) :
    (CostingDb.empty stock journal).books.KeepsLayer i where
  numbered := ⟨rfl, fun _ h => absurd h List.not_mem_nil⟩
  conserves := fun _ h => by cases h

/-- If layer `i` is depleted, its depletions cost its total cost, up to what the columns of the
amounts cut off. -/
def CostingDb.DepletesAtCost (db : CostingDb) (i : Id) : Prop :=
  ∀ l ∈ lookup CostLayer.id db.books.costLayers i, l.status = .depleted →
    |((db.books.depletionsOf i).map fun d => d.totalCost.value).sum - l.totalCost.value| ≤
      l.allowance (db.books.depletionsOf i)

instance (db : CostingDb) (i : Id) : Decidable (db.DepletesAtCost i) := by
  unfold CostingDb.DepletesAtCost
  infer_instance

/-- The law of layer `i` in every state of the run. -/
def LayerLaw (i : Id) (start : CostingDb) (calls : List CostCall) : Prop :=
  ∀ k, (stateAt CostingDb.call start calls k).DepletesAtCost i

theorem layerLaw_of_sound (i : Id) (stock : StockDb) (journal : List JournalEntry)
    (calls : List CostCall)
    (h : Always CostingDb.call (fun db c => c.SoundFor i db) (.empty stock journal) calls) :
    LayerLaw i (.empty stock journal) calls := by
  intro k l hl hstatus
  have hk := Always.invariant_at (I := fun db => db.books.KeepsLayer i)
    (fun _ _ => CostingDb.keepsLayer_call) (keepsLayer_empty stock journal i) h k
  exact (hk.conserves l hl).close hstatus

/-- A tenant whose product is costed by layers, the oldest first. -/
def fifoContext : CostingContext :=
  { standardContext with itemCostProfiles := [⟨7, some 3, .fifo, none⟩] }

def fifoReceipt : CostCall where
  ctx := fifoContext
  op := .receipt
    { goodsReceiptId := 5
      goodsReceiptLineId := 51
      key := ⟨1, 7, 3⟩
      quantity := 10
      unitPrice := 3
      purchaseCurrency := "USD" }

def fifoIssue (materialIssueId : Id) (quantity : Decimal) : CostCall where
  ctx := fifoContext
  op := .issue
    { workOrderId := 8
      materialIssueId := materialIssueId
      key := ⟨1, 7, 3⟩
      quantity := quantity
      uom := "EA" }

/-- A receipt of ten and two issues that take them all. -/
def receiptAndIssues : List CostCall := [fifoReceipt, fifoIssue 9 4, fifoIssue 10 6]

theorem layerLaw_receiptAndIssues :
    (lookup CostLayer.id (run CostingDb.call (.empty (.opened []) []) receiptAndIssues).books.costLayers
        0).map CostLayer.status = some .depleted ∧
      LayerLaw 0 (.empty (.opened []) []) receiptAndIssues :=
  ⟨by decide +kernel, layerLaw_of_sound 0 _ _ _ (by decide +kernel)⟩

def landedBeforeIssue : List CostCall :=
  [fifoReceipt,
    ⟨fifoContext, .landedCost
      { goodsReceiptId := 5
        allocations :=
          [{ goodsReceiptLineId := 51, costLayerId := some 0, key := ⟨1, 7, 3⟩,
             costCategory := "FREIGHT", amount := 5 }]
        allocationMethod := "BY_VALUE" }⟩,
    fifoIssue 9 10]

/-- The issue costs 30 and the layer 35. -/
theorem not_layerLaw_landedBeforeIssue : ¬LayerLaw 0 (.empty (.opened []) []) landedBeforeIssue := by
  intro h
  have hfinal := h 3
  revert hfinal
  decide +kernel

end Forecast.Costing
