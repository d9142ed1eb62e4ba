import Mathlib.Algebra.Order.BigOperators.Group.List
import Mathlib.Algebra.Order.Ring.Defs
import Mathlib.Tactic.Linarith

/-!
# One stock netted against several demands

A planner that sets the whole stock against each demand takes some of it more than once,
unless the stock holds all the demands or only one of them is a demand at all.
-/

set_option linter.unusedSectionVars false

namespace SharedStock

variable {K : Type*} [Field K] [LinearOrder K] [IsStrictOrderedRing K]

/-- What is left to be ordered of a demand. -/
def net (stock demand : K) : K := max 0 (demand - stock)

def taken (stock demand : K) : K := max 0 (demand - net stock demand)

/-- There is nothing to share, or enough for all, or one demand. -/
def NetsOnce (stock : K) (demands : List K) : Prop :=
  stock ≤ 0 ∨ (demands.map (max 0)).sum ≤ stock ∨ demands.countP (0 < ·) ≤ 1

instance (stock : K) (demands : List K) : Decidable (NetsOnce stock demands) :=
  inferInstanceAs (Decidable (_ ∨ _ ∨ _))

theorem taken_of_nonpos {stock : K} (h : stock ≤ 0) (demand : K) : taken stock demand = 0 := by
  rw [taken, max_eq_left_iff, net]
  have hnet := le_max_right 0 (demand - stock)
  have hzero := le_max_left 0 (demand - stock)
  rcases le_total demand 0 with hd | hd <;> linarith

theorem taken_of_pos {stock : K} (h : 0 < stock) (demand : K) :
    taken stock demand = min (max 0 demand) stock := by
  rw [taken, net]
  rcases le_total demand stock with hle | hle
  · rw [max_eq_left (by linarith : demand - stock ≤ 0), sub_zero,
      min_eq_left (max_le h.le hle)]
  · rw [max_eq_right (by linarith : 0 ≤ demand - stock), sub_sub_cancel, max_eq_right h.le,
      max_eq_right (h.le.trans hle), min_eq_right hle]

theorem taken_nonneg (stock demand : K) : 0 ≤ taken stock demand := le_max_left _ _

theorem sum_taken_nonneg (stock : K) (demands : List K) :
    0 ≤ (demands.map (taken stock)).sum := by
  refine List.sum_nonneg fun x hx => ?_
  obtain ⟨demand, -, rfl⟩ := List.mem_map.1 hx
  exact taken_nonneg stock demand

theorem pos_le_taken_add_net (stock demand : K) :
    max 0 demand ≤ taken stock demand + net stock demand := by
  have htaken := le_max_right 0 (demand - net stock demand)
  have hnonneg := taken_nonneg stock demand
  have hnet : 0 ≤ net stock demand := le_max_left _ _
  rw [← taken] at htaken
  refine max_le ?_ ?_ <;> linarith

theorem taken_le_pos (stock demand : K) : taken stock demand ≤ max 0 demand := by
  have hnet : 0 ≤ net stock demand := le_max_left _ _
  exact max_le_max le_rfl (by linarith)

theorem sum_taken_le_pos (stock : K) (demands : List K) :
    (demands.map (taken stock)).sum ≤ (demands.map (max 0)).sum :=
  List.sum_le_sum fun demand _ => taken_le_pos stock demand

section Positive

variable {stock : K} (hstock : 0 < stock)

include hstock

theorem taken_pos {demand : K} (h : 0 < demand) : 0 < taken stock demand := by
  rw [taken_of_pos hstock, max_eq_right h.le]
  exact lt_min h hstock

theorem taken_of_demand_nonpos {demand : K} (h : demand ≤ 0) : taken stock demand = 0 := by
  rw [taken_of_pos hstock, max_eq_left h, min_eq_left hstock.le]

theorem taken_le_stock (demand : K) : taken stock demand ≤ stock := by
  rw [taken_of_pos hstock]
  exact min_le_right _ _

theorem taken_of_lt {demand : K} (h : taken stock demand < stock) :
    taken stock demand = max 0 demand := by
  rw [taken_of_pos hstock] at h ⊢
  rcases min_lt_iff.1 h with hlt | hlt
  · exact min_eq_left hlt.le
  · exact absurd hlt (lt_irrefl _)

/-- When the stock is not used up, every demand took all it needed. -/
theorem sum_taken_of_lt {demands : List K} (h : (demands.map (taken stock)).sum < stock) :
    (demands.map (taken stock)).sum = (demands.map (max 0)).sum := by
  induction demands with
  | nil => rfl
  | cons d ds ih =>
    rw [List.map_cons, List.sum_cons] at h ⊢
    have hhead := taken_nonneg stock d
    have htail := sum_taken_nonneg stock ds
    have hall : taken stock d = max 0 d := taken_of_lt hstock (by linarith)
    rw [hall, ih (by linarith), List.map_cons, List.sum_cons]

theorem sum_taken_pos {demands : List K} (h : 0 < demands.countP (0 < ·)) :
    0 < (demands.map (taken stock)).sum := by
  induction demands with
  | nil => cases h
  | cons d ds ih =>
    rw [List.map_cons, List.sum_cons]
    have htail := sum_taken_nonneg stock ds
    by_cases hd : 0 < d
    · have hpos := taken_pos hstock hd
      linarith
    · rw [List.countP_cons_of_neg (by simpa using hd)] at h
      have hrest := ih h
      have hhead := taken_nonneg stock d
      linarith

theorem sum_taken_of_none {demands : List K} (h : demands.countP (0 < ·) = 0) :
    (demands.map (taken stock)).sum = 0 := by
  induction demands with
  | nil => rfl
  | cons d ds ih =>
    have hd : ¬0 < d := by
      intro hd
      rw [List.countP_cons_of_pos (by simpa using hd)] at h
      cases h
    rw [List.countP_cons_of_neg (by simpa using hd)] at h
    rw [List.map_cons, List.sum_cons, ih h, taken_of_demand_nonpos hstock (not_lt.1 hd), add_zero]

/-- Nothing is taken twice when one demand is positive, and otherwise only when all demands
together fit into the stock. -/
theorem enough_or_one_of_sum_taken_le {demands : List K}
    (h : (demands.map (taken stock)).sum ≤ stock) :
    (demands.map (taken stock)).sum = (demands.map (max 0)).sum ∨
      demands.countP (0 < ·) ≤ 1 := by
  induction demands with
  | nil => exact Or.inl rfl
  | cons d ds ih =>
    rw [List.map_cons, List.sum_cons] at h
    by_cases hd : 0 < d
    · by_cases hrest : ds.countP (0 < ·) = 0
      · rw [List.countP_cons_of_pos (by simpa using hd), hrest]
        exact Or.inr le_rfl
      · have hpos := sum_taken_pos hstock (Nat.pos_of_ne_zero hrest)
        have hhead := taken_pos hstock hd
        have hall : taken stock d = max 0 d := taken_of_lt hstock (by linarith)
        refine Or.inl ?_
        rw [List.map_cons, List.sum_cons, hall, sum_taken_of_lt hstock (by linarith),
          List.map_cons, List.sum_cons]
    · have hhead := taken_of_demand_nonpos hstock (not_lt.1 hd)
      rw [hhead, zero_add] at h
      rw [List.countP_cons_of_neg (by simpa using hd), List.map_cons, List.sum_cons, hhead,
        List.map_cons, List.sum_cons, max_eq_left (not_lt.1 hd), zero_add, zero_add]
      exact ih h

theorem sum_taken_le_of_count {demands : List K} (h : demands.countP (0 < ·) ≤ 1) :
    (demands.map (taken stock)).sum ≤ stock := by
  induction demands with
  | nil => exact hstock.le
  | cons d ds ih =>
    rw [List.map_cons, List.sum_cons]
    by_cases hd : 0 < d
    · rw [List.countP_cons_of_pos (by simpa using hd)] at h
      rw [sum_taken_of_none hstock (by omega), add_zero]
      exact taken_le_stock hstock d
    · rw [List.countP_cons_of_neg (by simpa using hd)] at h
      rw [taken_of_demand_nonpos hstock (not_lt.1 hd), zero_add]
      exact ih h

end Positive

theorem sum_taken_le_iff {stock : K} {demands : List K} :
    (demands.map (taken stock)).sum ≤ max 0 stock ↔ NetsOnce stock demands := by
  rcases le_or_gt stock 0 with hstock | hstock
  · have hzero : (demands.map (taken stock)).sum = 0 := by
      refine List.sum_eq_zero fun x hx => ?_
      obtain ⟨demand, -, rfl⟩ := List.mem_map.1 hx
      exact taken_of_nonpos hstock demand
    rw [hzero]
    exact ⟨fun _ => Or.inl hstock, fun _ => le_max_left _ _⟩
  · rw [max_eq_right hstock.le]
    constructor
    · intro h
      rcases enough_or_one_of_sum_taken_le hstock h with heq | hone
      · exact Or.inr (Or.inl (heq ▸ h))
      · exact Or.inr (Or.inr hone)
    · rintro (hnonpos | henough | hone)
      · exact absurd hnonpos (not_le.2 hstock)
      · exact (sum_taken_le_pos stock demands).trans henough
      · exact sum_taken_le_of_count hstock hone

theorem sum_pos_le_taken_add_net (stock : K) (demands : List K) :
    (demands.map (max 0)).sum ≤
      (demands.map (taken stock)).sum + (demands.map (net stock)).sum := by
  rw [← List.sum_map_add]
  exact List.sum_le_sum fun demand _ => pos_le_taken_add_net stock demand

/-- A stock below zero is made up for by the first demand. -/
theorem sum_pos_le_of_nonpos {stock : K} (hstock : stock ≤ 0) {demands : List K}
    (h : 0 < (demands.map (max 0)).sum) :
    (demands.map (max 0)).sum ≤ stock + (demands.map (net stock)).sum := by
  induction demands with
  | nil => exact absurd h (lt_irrefl 0)
  | cons d ds ih =>
    rw [List.map_cons, List.sum_cons] at h
    rw [List.map_cons, List.sum_cons, List.map_cons, List.sum_cons]
    by_cases hd : 0 < d
    · have hrest : (ds.map (max 0)).sum ≤ (ds.map (net stock)).sum :=
        List.sum_le_sum fun x _ => max_le_max le_rfl (by linarith)
      have hnet := le_max_right 0 (d - stock)
      rw [← net] at hnet
      rw [max_eq_right hd.le]
      linarith
    · rw [max_eq_left (not_lt.1 hd), zero_add] at h ⊢
      have hnet : 0 ≤ net stock d := le_max_left _ _
      have hrest := ih h
      linarith

theorem sum_pos_le_of_netsOnce {stock : K} {demands : List K} (h : NetsOnce stock demands) :
    (demands.map (max 0)).sum ≤ max 0 (stock + (demands.map (net stock)).sum) := by
  rcases le_or_gt stock 0 with hstock | hstock
  · by_cases hpos : 0 < (demands.map (max 0)).sum
    · exact (sum_pos_le_of_nonpos hstock hpos).trans (le_max_right _ _)
    · exact (not_lt.1 hpos).trans (le_max_left _ _)
  · have htaken := sum_taken_le_iff.2 h
    rw [max_eq_right hstock.le] at htaken
    have hsum := sum_pos_le_taken_add_net stock demands
    exact le_trans (by linarith) (le_max_right _ _)

end SharedStock
