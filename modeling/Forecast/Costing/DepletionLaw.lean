import Forecast.Costing.FreezeLaw
import Forecast.Lib.TakingInOrder

/-!
# What a depletion takes from the layers

A depletion takes its quantity from the open layers of an item, oldest first for FIFO
and newest first otherwise, at each layer's unit cost. It does so exactly as long as no
decimal on the way is rounded and the quantity has the four decimals of its column.
-/

open KeyedTable DecimalColumn Transactions TakingInOrder

namespace Forecast.Costing

open Inventory (Qty StockKey)

/-! ### What a depletion is to do -/

/-- The first layer is taken from before the second. -/
def Precedes (method : CostingMethod) (a b : CostLayer) : Prop :=
  if method = .fifo then a.layerDate < b.layerDate ∨ a.layerDate = b.layerDate ∧ a.id ≤ b.id
  else b.layerDate < a.layerDate ∨ b.layerDate = a.layerDate ∧ b.id ≤ a.id

/-- The open layers of an item that hold something. -/
def Books.openLayersOf (books : Books) (key : StockKey) : List CostLayer :=
  books.costLayers.filter fun l => l.key = key ∧ l.status = .opened ∧ 0 < l.remainingQty.value

/-- The layer with so much less in it, depleted when nothing is left. -/
structure Leaves (taken : ℚ) (l l' : CostLayer) : Prop where
  others : l' = { l with remainingQty := l'.remainingQty, status := l'.status }
  remaining : l'.remainingQty.value = l.remainingQty.value - taken
  status : l'.status = .depleted ↔ l'.remainingQty.value = 0

/-- The quantity was taken from the open layers in their order, and nothing else changed. -/
structure DepletesInOrder (books books' : Books) (key : StockKey) (method : CostingMethod)
    (quantity cost : ℚ) (taken : CostLayer → ℚ) : Prop where
  total : ((books.openLayersOf key).map taken).sum = quantity
  bounds : ∀ l ∈ books.openLayersOf key, 0 ≤ taken l ∧ taken l ≤ l.remainingQty.value
  order : ∀ a ∈ books.openLayersOf key, ∀ b ∈ books.openLayersOf key, a ≠ b →
    Precedes method a b → 0 < taken b → taken a = a.remainingQty.value
  cost : cost = ((books.openLayersOf key).map fun l => taken l * l.unitCost.value).sum
  ids : books'.costLayers.map CostLayer.id = books.costLayers.map CostLayer.id
  layers : ∀ l ∈ books.costLayers, ∃ l' ∈ books'.costLayers, l'.id = l.id ∧
    if l ∈ books.openLayersOf key then Leaves (taken l) l l' else l' = l

/-- What is there is taken in order; what is not there is refused and changes nothing. -/
structure DepletionLaw (books : Books) (key : StockKey) (quantity : ℚ) (method : CostingMethod)
    (reference : DepletionReference) : Prop where
  taken : quantity ≤ openStock books.costLayers key →
    ∃ books' cost taken, books.depleteCostLayers key quantity method reference = .ok (books', cost) ∧
      DepletesInOrder books books' key method quantity cost taken
  refused : openStock books.costLayers key < quantity →
    (∃ e, books.depleteCostLayers key quantity method reference = .error e) ∧
      transaction books ((books.depleteCostLayers key quantity method reference).map Prod.fst) =
        books

/-! ### When nothing is rounded -/

/-- What is still needed after each layer has at most twenty digits. -/
def NeedsExact : ℚ → List CostLayer → Prop
  | _, [] => True
  | need, l :: ls =>
    0 < need → IsExact (need - min need l.remainingQty.value) ∧
      NeedsExact (need - min need l.remainingQty.value) ls

/-- So has what each layer's part costs and the sum so far, and the part fits its column. -/
def CostsExact : ℚ → ℚ → List CostLayer → Prop
  | _, _, [] => True
  | need, cost, l :: ls =>
    0 < need → IsExact (min need l.remainingQty.value * l.unitCost.value) ∧
      IsExact (cost + min need l.remainingQty.value * l.unitCost.value) ∧
      (Column.store (min need l.remainingQty.value * l.unitCost.value) : Option Qty).isSome ∧
      CostsExact (need - min need l.remainingQty.value)
        (cost + min need l.remainingQty.value * l.unitCost.value) ls

instance decidableNeedsExact : ∀ (need : ℚ) (ls : List CostLayer), Decidable (NeedsExact need ls)
  | _, [] => inferInstanceAs (Decidable True)
  | need, l :: ls =>
    have := decidableNeedsExact (need - min need l.remainingQty.value) ls
    inferInstanceAs (Decidable (0 < need → _ ∧ _))

instance decidableCostsExact : ∀ (need cost : ℚ) (ls : List CostLayer),
    Decidable (CostsExact need cost ls)
  | _, _, [] => inferInstanceAs (Decidable True)
  | need, cost, l :: ls =>
    have := decidableCostsExact (need - min need l.remainingQty.value)
      (cost + min need l.remainingQty.value * l.unitCost.value) ls
    inferInstanceAs (Decidable (0 < need → _ ∧ _ ∧ _ ∧ _))

/-- No decimal on the way through the open layers is rounded, and a quantity that is there has
the decimals of its column. -/
structure DepletesExactly (books : Books) (key : StockKey) (quantity : ℚ)
    (method : CostingMethod) : Prop where
  needs : NeedsExact quantity (openLayers books.costLayers method key)
  scale : quantity ≤ openStock books.costLayers key → OnScale 4 quantity
  costs : quantity ≤ openStock books.costLayers key →
    CostsExact quantity 0 (openLayers books.costLayers method key)

theorem needsExact_zero (ls : List CostLayer) : NeedsExact 0 ls := by
  cases ls with
  | nil => trivial
  | cons l ls => exact fun h => absurd h (lt_irrefl _)

theorem costsExact_zero (cost : ℚ) (ls : List CostLayer) : CostsExact 0 cost ls := by
  cases ls with
  | nil => trivial
  | cons l ls => exact fun h => absurd h (lt_irrefl _)

abbrev CostLayer.stock (l : CostLayer) : ℚ := l.remainingQty.value

theorem NeedsExact.tail {need : ℚ} {l : CostLayer} {ls : List CostLayer}
    (h : NeedsExact need (l :: ls)) (hneed : 0 ≤ need) (hl : 0 < l.stock) :
    NeedsExact (need - min need l.stock) ls := by
  rcases hneed.eq_or_lt with rfl | hpos
  · rw [min_eq_left hl.le, sub_zero]
    exact needsExact_zero ls
  · exact (h hpos).2

theorem CostsExact.tail {need cost : ℚ} {l : CostLayer} {ls : List CostLayer}
    (h : CostsExact need cost (l :: ls)) (hneed : 0 ≤ need) (hl : 0 < l.stock) :
    CostsExact (need - min need l.stock) (cost + min need l.stock * l.unitCost.value) ls := by
  rcases hneed.eq_or_lt with rfl | hpos
  · rw [min_eq_left hl.le, sub_zero]
    exact costsExact_zero _ ls
  · exact (h hpos).2.2.2

/-! ### One layer -/

section Depletion

variable {reference : DepletionReference} {s : DepletionState} {l : CostLayer}
  {ls : List CostLayer}

theorem leaves_zero (hopen : l.status = .opened) (hl : 0 < l.stock) : Leaves 0 l l where
  others := rfl
  remaining := (sub_zero _).symm
  status := by
    rw [hopen]
    constructor
    · intro h
      cases h
    · intro h
      exact absurd h hl.ne'

variable (reference) in
/-- A layer that nothing is rounded for gives what is asked of it, at its unit cost. -/
theorem exists_leaves (hl : 0 < l.stock) (hneed : 0 < s.remaining)
    (hscale : OnScale 4 s.remaining) (hdiff : IsExact (s.remaining - min s.remaining l.stock))
    (hcost : IsExact (min s.remaining l.stock * l.unitCost.value))
    (hsum : IsExact (s.totalCost + min s.remaining l.stock * l.unitCost.value))
    (hfits : (Column.store (min s.remaining l.stock * l.unitCost.value) : Option Qty).isSome) :
    ∃ (l' : CostLayer) (depletions : List CostLayerDepletion), Leaves (min s.remaining l.stock) l l' ∧
      l'.id = l.id ∧ depleteLayer reference s l = .ok
        { books :=
            { s.books with
              costLayers := upsert CostLayer.id s.books.costLayers l'
              depletions := depletions }
          remaining := s.remaining - min s.remaining l.stock
          totalCost := s.totalCost + min s.remaining l.stock * l.unitCost.value } := by
  have htakenScale : OnScale 4 (min s.remaining l.stock) := by
    rcases min_choice s.remaining l.stock with heq | heq <;> rw [heq]
    · exact hscale
    · exact l.remainingQty.onScale_value
  have hle : min s.remaining l.stock ≤ l.stock := min_le_right _ _
  have hpos : 0 < min s.remaining l.stock := lt_min hneed hl
  have htakenAbs : |min s.remaining l.stock| ≤ |l.stock| := by
    rw [abs_of_pos hpos, abs_of_pos hl]
    exact hle
  have hrestAbs : |l.stock - min s.remaining l.stock| ≤ |l.stock| := by
    rw [abs_of_nonneg (by linarith), abs_of_pos hl]
    linarith
  have hrestScale := l.remainingQty.onScale_value.sub htakenScale
  have hrest : Decimal.minus l.stock (min s.remaining l.stock) =
      l.stock - min s.remaining l.stock := by
    apply hrestScale.toSignificant_eq_self
    calc |l.stock - min s.remaining l.stock| * 10 ^ 4 ≤ |l.stock| * 10 ^ 4 :=
          mul_le_mul_of_nonneg_right hrestAbs (by norm_num)
      _ < 10 ^ 18 := l.remainingQty.abs_value_mul_lt
      _ < 10 ^ Decimal.precision := by norm_num [Decimal.precision]
  obtain ⟨depletedQty, hdepleted⟩ :=
    Column.exists_store_of_abs_le htakenAbs (Column.store_value l.remainingQty)
  obtain ⟨remainingQty, hremaining⟩ :=
    Column.exists_store_of_abs_le hrestAbs (Column.store_value l.remainingQty)
  obtain ⟨totalCost, htotal⟩ := Option.isSome_iff_exists.1 hfits
  have hvalue := Column.value_of_store hremaining hrestScale
  refine ⟨l.left remainingQty (l.stock - min s.remaining l.stock),
    s.books.depletions ++ [reference.depletion l depletedQty totalCost], ⟨rfl, hvalue, ?_⟩, rfl, ?_⟩
  · change (if l.stock - min s.remaining l.stock ≤ 0 then CostLayerStatus.depleted
      else .opened) = .depleted ↔ remainingQty.value = 0
    rw [hvalue]
    split_ifs with hnone
    · simp only [true_iff]
      exact le_antisymm hnone (sub_nonneg.2 hle)
    · constructor
      · intro h
        cases h
      · intro h
        exact absurd h.le hnone
  · unfold IsExact at hdiff hcost hsum
    have htimes : Decimal.times (min s.remaining l.stock) l.unitCost.value =
        min s.remaining l.stock * l.unitCost.value := hcost
    unfold depleteLayer
    rw [if_neg (not_le.2 hneed)]
    simp only [bind_eq_ok, pure_eq_ok, columnOf_eq_ok]
    refine ⟨remainingQty, by rw [hrest]; exact hremaining, depletedQty, hdepleted, totalCost,
      by rw [htimes]; exact htotal, ?_⟩
    rw [hrest, htimes, Decimal.minus, hdiff, Decimal.plus, hsum]

/-- What a layer of a depletion that rounds nothing does, whether it is taken from or not. -/
structure Depleted (reference : DepletionReference) (s : DepletionState) (l : CostLayer)
    (m : DepletionState) (l' : CostLayer) : Prop where
  returns : depleteLayer reference s l = .ok m
  leaves : Leaves (min s.remaining l.stock) l l'
  remaining : m.remaining = s.remaining - min s.remaining l.stock
  totalCost : m.totalCost = s.totalCost + min s.remaining l.stock * l.unitCost.value
  ids : m.books.costLayers.map CostLayer.id = s.books.costLayers.map CostLayer.id
  layer : lookup CostLayer.id m.books.costLayers l.id = some l'
  others : ∀ i ≠ l.id, lookup CostLayer.id m.books.costLayers i =
    lookup CostLayer.id s.books.costLayers i

variable (reference) in
theorem exists_depleted (hstatus : l.status = .opened) (hl : 0 < l.stock)
    (hneed : 0 ≤ s.remaining) (hscale : OnScale 4 s.remaining)
    (hneeds : NeedsExact s.remaining (l :: ls))
    (hcosts : CostsExact s.remaining s.totalCost (l :: ls))
    (hcurrent : lookup CostLayer.id s.books.costLayers l.id = some l) :
    ∃ m l', Depleted reference s l m l' := by
  rcases hneed.eq_or_lt with hzero | hpos
  · have htaken : min s.remaining l.stock = 0 := by rw [← hzero, min_eq_left hl.le]
    refine ⟨s, l, ?_, ?_, ?_, ?_, rfl, hcurrent, fun i _ => rfl⟩
    · rw [depleteLayer, if_pos hzero.symm.le]
    · rw [htaken]
      exact leaves_zero hstatus hl
    · rw [htaken, sub_zero]
    · rw [htaken, zero_mul, add_zero]
  · obtain ⟨hdiff, -⟩ := hneeds hpos
    obtain ⟨hproduct, hsum, hfits, -⟩ := hcosts hpos
    obtain ⟨l', depletions, hleaves, hid, hm⟩ :=
      exists_leaves reference hl hpos hscale hdiff hproduct hsum hfits
    have hkey : l'.id ∈ s.books.costLayers.map CostLayer.id := by
      rw [hid]
      exact List.mem_map_of_mem (lookup_eq_some hcurrent).1
    refine ⟨_, l', hm, hleaves, rfl, rfl, keys_upsert_of_mem hkey, ?_, ?_⟩
    · dsimp only
      rw [lookup_upsert, if_pos hid]
    · intro i hi
      dsimp only
      rw [lookup_upsert, if_neg]
      rw [hid]
      exact hi.symm

/-! ### All layers -/

variable (reference) in
theorem exists_forEach_leaves (hopen : ∀ l ∈ ls, l.status = .opened ∧ 0 < l.stock)
    (hnodup : (ls.map CostLayer.id).Nodup) (hneed : 0 ≤ s.remaining)
    (hle : s.remaining ≤ stockIn ls) (hscale : OnScale 4 s.remaining)
    (hneeds : NeedsExact s.remaining ls) (hcosts : CostsExact s.remaining s.totalCost ls)
    (hthere : ∀ l ∈ ls, lookup CostLayer.id s.books.costLayers l.id = some l) :
    ∃ s', forEach (depleteLayer reference) s ls = .ok s' ∧ s'.remaining = 0 ∧
      s'.totalCost = s.totalCost +
        ((takes CostLayer.stock s.remaining ls).map fun e => e.2 * e.1.unitCost.value).sum ∧
      s'.books.costLayers.map CostLayer.id = s.books.costLayers.map CostLayer.id ∧
      (∀ e ∈ takes CostLayer.stock s.remaining ls, ∃ l',
        lookup CostLayer.id s'.books.costLayers e.1.id = some l' ∧ Leaves e.2 e.1 l') ∧
      ∀ i ∉ ls.map CostLayer.id,
        lookup CostLayer.id s'.books.costLayers i = lookup CostLayer.id s.books.costLayers i := by
  induction ls generalizing s with
  | nil =>
    refine ⟨s, rfl, le_antisymm hle hneed, ?_, rfl, ?_, fun i _ => rfl⟩
    · simp [takes]
    · intro e he
      cases he
  | cons l ls ih =>
    obtain ⟨hstatus, hl⟩ := hopen l List.mem_cons_self
    have hopen' : ∀ l' ∈ ls, l'.status = .opened ∧ 0 < l'.stock := fun l' hl' =>
      hopen l' (List.mem_cons_of_mem l hl')
    rw [List.map_cons, List.nodup_cons] at hnodup
    obtain ⟨hnew, hnodup'⟩ := hnodup
    obtain ⟨m, l', hdepleted⟩ := exists_depleted reference hstatus hl hneed hscale
      hneeds hcosts (hthere l List.mem_cons_self)
    have hremaining := hdepleted.remaining
    have hneed' : 0 ≤ m.remaining := by
      rw [hremaining]
      exact sub_nonneg.2 (min_le_left _ _)
    have hrest : 0 ≤ stockIn ls := stockIn_nonneg fun l' hl' => (hopen' l' hl').2
    have hle' : m.remaining ≤ stockIn ls := by
      rw [stockIn_cons] at hle
      rw [hremaining]
      rcases min_choice s.remaining l.stock with heq | heq <;> rw [heq]
      · rw [sub_self]
        exact hrest
      · linarith
    have hscale' : OnScale 4 m.remaining := by
      rw [hremaining]
      rcases min_choice s.remaining l.stock with heq | heq <;> rw [heq]
      · exact hscale.sub hscale
      · exact hscale.sub l.remainingQty.onScale_value
    have hneeds' : NeedsExact m.remaining ls := by
      rw [hremaining]
      exact hneeds.tail hneed hl
    have hcosts' : CostsExact m.remaining m.totalCost ls := by
      rw [hremaining, hdepleted.totalCost]
      exact hcosts.tail hneed hl
    have hthere' : ∀ k ∈ ls, lookup CostLayer.id m.books.costLayers k.id = some k := by
      intro k hk
      have hne : k.id ≠ l.id := fun heq => hnew (heq ▸ List.mem_map_of_mem hk)
      rw [hdepleted.others k.id hne]
      exact hthere k (List.mem_cons_of_mem l hk)
    obtain ⟨s', hs', hdone, htotal, hids', htaken, hsame⟩ :=
      ih hopen' hnodup' hneed' hle' hscale' hneeds' hcosts' hthere'
    refine ⟨s', forEach_cons_eq_ok.2 ⟨m, hdepleted.returns, hs'⟩, hdone, ?_,
      hids'.trans hdepleted.ids, ?_, ?_⟩
    · rw [htotal, hdepleted.totalCost, takes, List.map_cons, List.sum_cons, hremaining, add_assoc]
    · intro e he
      rw [takes] at he
      rcases List.mem_cons.1 he with rfl | he
      · refine ⟨l', ?_, hdepleted.leaves⟩
        rw [hsame l.id hnew]
        exact hdepleted.layer
      · rw [← hremaining] at he
        exact htaken e he
    · intro i hi
      rw [List.map_cons, List.mem_cons, not_or] at hi
      rw [hsame i hi.2]
      exact hdepleted.others i hi.1

/-- What is still needed after all layers: nothing, or what they do not hold. -/
theorem remaining_of_forEach (hpos : ∀ l ∈ ls, 0 < l.stock) (hneed : 0 ≤ s.remaining)
    (hneeds : NeedsExact s.remaining ls) {s' : DepletionState}
    (h : forEach (depleteLayer reference) s ls = .ok s') :
    s'.remaining = s.remaining - min s.remaining (stockIn ls) := by
  induction ls generalizing s with
  | nil =>
    cases h
    rw [show stockIn [] = 0 from rfl, min_eq_right hneed, sub_zero]
  | cons l ls ih =>
    obtain ⟨m, hm, hs'⟩ := forEach_cons_eq_ok.1 h
    have hl : 0 < l.stock := hpos l List.mem_cons_self
    have hpos' : ∀ l' ∈ ls, 0 < l'.stock := fun l' hl' => hpos l' (List.mem_cons_of_mem l hl')
    have hremaining : m.remaining = s.remaining - min s.remaining l.stock := by
      rcases hneed.eq_or_lt with hzero | hneeded
      · rw [depleteLayer, if_pos hzero.symm.le] at hm
        cases hm
        rw [← hzero, min_eq_left hl.le, sub_zero]
      · rw [depleteLayer, if_neg (not_le.2 hneeded)] at hm
        simp only [bind_eq_ok, pure_eq_ok] at hm
        obtain ⟨-, -, -, -, -, -, rfl⟩ := hm
        exact (hneeds hneeded).1
    have hrest : 0 ≤ stockIn ls := stockIn_nonneg hpos'
    rw [ih hpos' (by rw [hremaining]; exact sub_nonneg.2 (min_le_left _ _))
      (by rw [hremaining]; exact hneeds.tail hneed hl) hs', hremaining, stockIn_cons]
    change s.remaining - min s.remaining l.stock -
        min (s.remaining - min s.remaining l.stock) (stockIn ls) =
      s.remaining - min s.remaining (l.stock + stockIn ls)
    rcases le_total s.remaining l.stock with hle | hle
    · rw [min_eq_left hle, sub_self, min_eq_left hrest, sub_zero,
        min_eq_left (hle.trans (le_add_of_nonneg_right hrest)), sub_self]
    · rw [min_eq_right hle, sub_sub, ← min_add_add_left, add_sub_cancel]

end Depletion

/-! ### The law -/

section Law

variable {books : Books} {key : StockKey} {method : CostingMethod}

theorem openLayers_perm_openLayersOf :
    (openLayers books.costLayers method key).Perm (books.openLayersOf key) :=
  openLayers_perm books.costLayers method key

theorem mem_openLayersOf {l : CostLayer} : l ∈ books.openLayersOf key ↔
    l ∈ books.costLayers ∧ l.key = key ∧ l.status = .opened ∧ 0 < l.stock := by
  rw [Books.openLayersOf, List.mem_filter, decide_eq_true_iff]

/-- The order by date and then by number. -/
def Older (date date' : ℤ) (id id' : ℕ) : Prop := date < date' ∨ date = date' ∧ id ≤ id'

theorem older_total (x y : ℤ) (i j : ℕ) : Older x y i j ∨ Older y x j i := by
  unfold Older
  omega

theorem Older.trans {x y z : ℤ} {i j k : ℕ} (hxy : Older x y i j) (hyz : Older y z j k) :
    Older x z i k := by
  unfold Older at *
  omega

theorem Older.antisymm {x y : ℤ} {i j : ℕ} (hxy : Older x y i j) (hyx : Older y x j i) : i = j := by
  unfold Older at *
  omega

theorem precedes_iff {a b : CostLayer} : Precedes method a b ↔
    if method = .fifo then Older a.layerDate b.layerDate a.id b.id
    else Older b.layerDate a.layerDate b.id a.id := Iff.rfl

variable (method) in
theorem precedes_total (a b : CostLayer) : Precedes method a b ∨ Precedes method b a := by
  rw [precedes_iff, precedes_iff]
  split_ifs
  · exact older_total _ _ _ _
  · exact older_total _ _ _ _

theorem precedes_trans {a b c : CostLayer} (hab : Precedes method a b) (hbc : Precedes method b c) :
    Precedes method a c := by
  rw [precedes_iff] at *
  split_ifs at *
  · exact hab.trans hbc
  · exact hbc.trans hab

theorem precedes_antisymm {a b : CostLayer} (hab : Precedes method a b)
    (hba : Precedes method b a) : a.id = b.id := by
  rw [precedes_iff] at *
  split_ifs at *
  · exact hab.antisymm hba
  · exact hba.antisymm hab

variable (books key method) in
theorem pairwise_openLayers :
    (openLayers books.costLayers method key).Pairwise (Precedes method) := by
  have htotal := precedes_total method
  have htrans : ∀ a b c : CostLayer, Precedes method a b → Precedes method b c →
      Precedes method a c := fun _ _ _ => precedes_trans
  unfold Precedes at htotal htrans ⊢
  unfold openLayers
  split_ifs at htotal htrans ⊢
  · have : Std.Total fun a b : CostLayer =>
        a.layerDate < b.layerDate ∨ a.layerDate = b.layerDate ∧ a.id ≤ b.id := ⟨htotal⟩
    have : IsTrans CostLayer fun a b =>
        a.layerDate < b.layerDate ∨ a.layerDate = b.layerDate ∧ a.id ≤ b.id := ⟨htrans⟩
    exact List.pairwise_insertionSort _ _
  · have : Std.Total fun a b : CostLayer =>
        b.layerDate < a.layerDate ∨ b.layerDate = a.layerDate ∧ b.id ≤ a.id := ⟨htotal⟩
    have : IsTrans CostLayer fun a b =>
        b.layerDate < a.layerDate ∨ b.layerDate = a.layerDate ∧ b.id ≤ a.id := ⟨htrans⟩
    exact List.pairwise_insertionSort _ _

def takenFrom (books : Books) (key : StockKey) (method : CostingMethod) (quantity : ℚ)
    (l : CostLayer) : ℚ :=
  ((lookup Prod.fst (takes CostLayer.stock quantity (openLayers books.costLayers method key))
    l).map Prod.snd).getD 0

theorem nodup_openLayers (hids : (books.costLayers.map CostLayer.id).Nodup) :
    ((openLayers books.costLayers method key).map CostLayer.id).Nodup := by
  have hsub : ((books.openLayersOf key).map CostLayer.id).Nodup :=
    hids.sublist (List.filter_sublist.map _)
  exact ((openLayers_perm_openLayersOf.map CostLayer.id).nodup_iff).2 hsub

theorem takenFrom_eq (hids : (books.costLayers.map CostLayer.id).Nodup) {quantity : ℚ}
    {e : CostLayer × ℚ}
    (he : e ∈ takes CostLayer.stock quantity (openLayers books.costLayers method key)) :
    takenFrom books key method quantity e.1 = e.2 := by
  have hnodup : ((takes CostLayer.stock quantity
      (openLayers books.costLayers method key)).map Prod.fst).Nodup := by
    rw [map_fst_takes]
    exact List.Nodup.of_map _ (nodup_openLayers hids)
  rw [takenFrom, lookup_of_mem hnodup he]
  rfl

theorem sum_takenFrom (hids : (books.costLayers.map CostLayer.id).Nodup) {quantity : ℚ}
    (f : ℚ → CostLayer → ℚ) :
    ((books.openLayersOf key).map fun l => f (takenFrom books key method quantity l) l).sum =
      ((takes CostLayer.stock quantity (openLayers books.costLayers method key)).map
        fun e => f e.2 e.1).sum := by
  rw [← (openLayers_perm_openLayersOf.map _).sum_eq]
  conv_lhs => rw [← map_fst_takes CostLayer.stock quantity (openLayers books.costLayers method key),
    List.map_map]
  congr 1
  apply List.map_congr_left
  intro e he
  rw [Function.comp_apply, takenFrom_eq hids he]

theorem stock_pos {l : CostLayer} (hl : l ∈ openLayers books.costLayers method key) :
    l.status = .opened ∧ 0 < l.stock :=
  (mem_openLayersOf.1 (openLayers_perm_openLayersOf.mem_iff.1 hl)).2.2

variable (method) in
theorem exists_mem_takes {l : CostLayer} (hl : l ∈ books.openLayersOf key) (quantity : ℚ) :
    ∃ e ∈ takes CostLayer.stock quantity (openLayers books.costLayers method key), e.1 = l := by
  have hmem := (openLayers_perm books.costLayers method key).mem_iff.2 hl
  rw [← map_fst_takes CostLayer.stock quantity (openLayers books.costLayers method key)] at hmem
  exact List.mem_map.1 hmem

theorem takenFrom_order (hids : (books.costLayers.map CostLayer.id).Nodup) {quantity : ℚ}
    {a b : CostLayer} (ha : a ∈ books.openLayersOf key) (hb : b ∈ books.openLayersOf key)
    (hne : a ≠ b) (hprecedes : Precedes method a b)
    (hpos : 0 < takenFrom books key method quantity b) :
    takenFrom books key method quantity a = a.stock := by
  obtain ⟨e, he, rfl⟩ := exists_mem_takes method ha quantity
  obtain ⟨f, hf, rfl⟩ := exists_mem_takes method hb quantity
  rw [takenFrom_eq hids he]
  rw [takenFrom_eq hids hf] at hpos
  have hgive := pairwise_takes CostLayer.stock quantity
    (openLayers books.costLayers method key) fun l hl => (stock_pos hl).2.le
  have hsorted : (takes CostLayer.stock quantity (openLayers books.costLayers method key)).Pairwise
      fun e f => Precedes method e.1 f.1 := by
    have hlayers := pairwise_openLayers books key method
    rw [← map_fst_takes CostLayer.stock quantity
      (openLayers books.costLayers method key)] at hlayers
    exact List.pairwise_map.1 hlayers
  have hcase : ((0 < f.2 → e.2 = e.1.stock) ∧ Precedes method e.1 f.1) ∨
      (0 < e.2 → f.2 = f.1.stock) ∧ Precedes method f.1 e.1 := by
    have hpair := hgive.and hsorted
    obtain ⟨i, hi, rfl⟩ := List.getElem_of_mem he
    obtain ⟨j, hj, rfl⟩ := List.getElem_of_mem hf
    rw [List.pairwise_iff_getElem] at hpair
    rcases lt_trichotomy i j with hlt | rfl | hlt
    · exact Or.inl (hpair i j hi hj hlt)
    · exact absurd rfl hne
    · exact Or.inr (hpair j i hj hi hlt)
  rcases hcase with ⟨hfull, -⟩ | ⟨-, hback⟩
  · exact hfull hpos
  · have hid := precedes_antisymm hprecedes hback
    exact absurd (List.inj_on_of_nodup_map hids (mem_openLayersOf.1 ha).1
      (mem_openLayersOf.1 hb).1 hid) hne

end Law

/-- A depletion that rounds nothing takes from the layers in order what they hold, and is refused
what they do not hold. -/
theorem depletionLaw_of_depletesExactly {books : Books} {key : StockKey} {quantity : ℚ}
    {method : CostingMethod} (reference : DepletionReference)
    (hids : (books.costLayers.map CostLayer.id).Nodup) (hquantity : 0 ≤ quantity)
    (hexact : DepletesExactly books key quantity method) :
    DepletionLaw books key quantity method reference := by
  have hstock : stockIn (openLayers books.costLayers method key) =
      openStock books.costLayers key := stockIn_perm openLayers_perm_openLayersOf
  have hpositive : ∀ l ∈ openLayers books.costLayers method key, 0 ≤ l.stock :=
    fun l hl => (stock_pos hl).2.le
  constructor
  · intro hle
    have hthere : ∀ l ∈ openLayers books.costLayers method key,
        lookup CostLayer.id books.costLayers l.id = some l := fun l hl =>
      lookup_of_mem hids (mem_openLayersOf.1 (openLayers_perm_openLayersOf.mem_iff.1 hl)).1
    obtain ⟨s', hs', hdone, hcost, hkeys, htaken, hsame⟩ :=
      exists_forEach_leaves reference (s := .start books quantity)
        (fun l hl => stock_pos hl) (nodup_openLayers hids) hquantity (hle.trans hstock.ge)
        (hexact.scale hle) hexact.needs (hexact.costs hle) hthere
    refine ⟨s'.books, s'.totalCost, takenFrom books key method quantity, ?_, ?_⟩
    · simp only [Books.depleteCostLayers, bind_eq_ok, pure_eq_ok, throwWhen_eq_ok]
      exact ⟨s', hs', (), not_lt.2 hdone.le, rfl⟩
    · refine ⟨?_, ?_, ?_, ?_, hkeys, ?_⟩
      · rw [sum_takenFrom hids fun q _ => q]
        have hsum : ((takes CostLayer.stock quantity
            (openLayers books.costLayers method key)).map Prod.snd).sum = _ :=
          sum_takes hquantity hpositive
        exact hsum.trans (min_eq_left (hle.trans hstock.ge))
      · intro l hl
        obtain ⟨e, he, rfl⟩ := exists_mem_takes method hl quantity
        rw [takenFrom_eq hids he]
        exact (bounds_of_mem_takes hquantity hpositive he).2
      · intro a ha b hb hne hprecedes hpos
        exact takenFrom_order hids ha hb hne hprecedes hpos
      · rw [hcost, sum_takenFrom hids fun q l => q * l.unitCost.value]
        exact zero_add _
      · intro l hl
        split_ifs with hopen
        · obtain ⟨e, he, rfl⟩ := exists_mem_takes method hopen quantity
          obtain ⟨l', hl', hleaves⟩ := htaken e he
          obtain ⟨hmem, hid⟩ := lookup_eq_some hl'
          rw [takenFrom_eq hids he]
          exact ⟨l', hmem, hid, hleaves⟩
        · have hother : l.id ∉ (openLayers books.costLayers method key).map CostLayer.id := by
            intro hmem
            obtain ⟨k, hk, hid⟩ := List.mem_map.1 hmem
            have hkopen := openLayers_perm_openLayersOf.mem_iff.1 hk
            have heq := List.inj_on_of_nodup_map hids (mem_openLayersOf.1 hkopen).1 hl hid
            exact hopen (heq ▸ hkopen)
          have hlookup := hsame l.id hother
          rw [DepletionState.start, lookup_of_mem hids hl] at hlookup
          exact ⟨l, (lookup_eq_some hlookup).1, rfl, rfl⟩
  · intro hlt
    have hrefused : ∃ e, books.depleteCostLayers key quantity method reference = .error e := by
      cases hdeplete : books.depleteCostLayers key quantity method reference with
      | error e => exact ⟨e, rfl⟩
      | ok result =>
        exfalso
        simp only [Books.depleteCostLayers, bind_eq_ok, pure_eq_ok, throwWhen_eq_ok] at hdeplete
        obtain ⟨s', hs', -, hdone, -⟩ := hdeplete
        have hremaining := remaining_of_forEach (fun l hl => (stock_pos hl).2) hquantity
          hexact.needs hs'
        apply hdone
        rw [hremaining]
        change 0 < quantity - min quantity (stockIn (openLayers books.costLayers method key))
        rw [hstock, min_eq_right hlt.le]
        exact sub_pos.2 hlt
    obtain ⟨e, he⟩ := hrefused
    exact ⟨⟨e, he⟩, by rw [he]; rfl⟩

/-! ### Two layers, and a quantity of five decimals -/

/-- An open layer of an item at a location. -/
def sampleLayer (id : Id) (layerDate : Millis) (qty unitCost : ℚ) : CostLayer where
  id := id
  key := ⟨1, 7, 3⟩
  batchId := none
  costingMethod := .fifo
  layerDate := layerDate
  referenceType := "GOODS_RECEIPT"
  referenceId := 5
  originalQty := (Column.store qty).getD .zero
  remainingQty := (Column.store qty).getD .zero
  unitCost := (Column.store unitCost).getD .zero
  totalCost := (Column.store (qty * unitCost)).getD .zero
  fiscalPeriodId := none

/-- Twelve pieces are taken from ten at 2 and five at 3. -/
theorem depletionLaw_twoLayers :
    DepletionLaw ⟨[], [sampleLayer 0 10 10 2, sampleLayer 1 20 5 3], []⟩ ⟨1, 7, 3⟩ 12 .fifo
      ⟨"MATERIAL_ISSUE", 9⟩ :=
  depletionLaw_of_depletesExactly ⟨"MATERIAL_ISSUE", 9⟩ (by decide) (by norm_num)
    ⟨by decide +kernel, fun _ => by decide +kernel, fun _ => by decide +kernel⟩

/-- All but four hundred-thousandths of the only piece are taken: the layer holds 0.0000 and
stays open. -/
theorem not_depletionLaw_fiveDecimals :
    ¬ DepletionLaw ⟨[], [sampleLayer 0 10 1 1], []⟩ ⟨1, 7, 3⟩ (99996 / 100000) .fifo
      ⟨"MATERIAL_ISSUE", 9⟩ := by
  intro hlaw
  obtain ⟨books', cost, taken, hdeplete, hdone⟩ := hlaw.taken (by decide +kernel)
  have hlayers : ((Books.depleteCostLayers ⟨[], [sampleLayer 0 10 1 1], []⟩ ⟨1, 7, 3⟩
      (99996 / 100000) .fifo ⟨"MATERIAL_ISSUE", 9⟩).toOption.map fun result =>
        result.1.costLayers.all fun l => l.remainingQty.value = 0 ∧ l.status = .opened) =
      some true := by decide +kernel
  rw [hdeplete] at hlayers
  have hall := List.all_eq_true.1 (Option.some.inj hlayers)
  obtain ⟨l', hl', -, hleaves⟩ := hdone.layers (sampleLayer 0 10 1 1) List.mem_cons_self
  rw [if_pos (by decide +kernel)] at hleaves
  obtain ⟨hzero, hopened⟩ := of_decide_eq_true (hall l' hl')
  rw [hleaves.status.2 hzero] at hopened
  cases hopened

end Forecast.Costing
