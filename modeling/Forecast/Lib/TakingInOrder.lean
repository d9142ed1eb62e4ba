import Mathlib.Algebra.BigOperators.Group.List.Basic
import Mathlib.Algebra.Order.Group.MinMax
import Mathlib.Algebra.Order.BigOperators.Group.List
import Mathlib.Tactic.Linarith

/-!
# Taking a quantity from stocks in order

Each stock in a list gives what it has, or what is still needed if that is less.
Together they give the need or all they have; none gives more than it has, and a
stock gives something only when those before it have given everything.
-/

namespace TakingInOrder

variable {α M : Type*} [AddCommGroup M] [LinearOrder M] (stock : α → M)

/-- What is taken from each element for a need. -/
def takes : M → List α → List (α × M)
  | _, [] => []
  | need, x :: xs => (x, min need (stock x)) :: takes (need - min need (stock x)) xs

variable {stock} {need : M} {xs : List α}

variable (stock need xs) in
theorem map_fst_takes : (takes stock need xs).map Prod.fst = xs := by
  induction xs generalizing need with
  | nil => rfl
  | cons x xs ih => rw [takes, List.map_cons, ih]

/-- Once nothing is needed, nothing is taken. -/
theorem takes_zero (hstock : ∀ x ∈ xs, 0 ≤ stock x) :
    takes stock 0 xs = xs.map fun x => (x, (0 : M)) := by
  induction xs with
  | nil => rfl
  | cons x xs ih =>
    rw [takes, min_eq_left (hstock x List.mem_cons_self), sub_zero,
      ih fun y hy => hstock y (List.mem_cons_of_mem x hy), List.map_cons]

variable (stock need xs) in
/-- A stock gives something only when those before it have given all they have. -/
theorem pairwise_takes (hstock : ∀ x ∈ xs, 0 ≤ stock x) :
    (takes stock need xs).Pairwise fun e f => 0 < f.2 → e.2 = stock e.1 := by
  induction xs generalizing need with
  | nil => exact List.Pairwise.nil
  | cons x xs ih =>
    have hrest : ∀ y ∈ xs, 0 ≤ stock y := fun y hy => hstock y (List.mem_cons_of_mem x hy)
    rw [takes]
    refine List.Pairwise.cons ?_ (ih _ hrest)
    intro f hf hpos
    rcases le_total need (stock x) with hle | hle
    · rw [min_eq_left hle, sub_self, takes_zero hrest] at hf
      obtain ⟨y, -, rfl⟩ := List.mem_map.1 hf
      exact absurd hpos (lt_irrefl _)
    · exact min_eq_right hle

variable [IsOrderedAddMonoid M]

theorem sub_min_nonneg (b : M) : 0 ≤ need - min need b := sub_nonneg.2 (min_le_left _ _)

theorem bounds_of_mem_takes (hneed : 0 ≤ need) (hstock : ∀ x ∈ xs, 0 ≤ stock x) {e : α × M}
    (he : e ∈ takes stock need xs) : e.1 ∈ xs ∧ 0 ≤ e.2 ∧ e.2 ≤ stock e.1 := by
  induction xs generalizing need with
  | nil => cases he
  | cons x xs ih =>
    rcases List.mem_cons.1 he with rfl | he
    · exact ⟨List.mem_cons_self, le_min hneed (hstock x List.mem_cons_self), min_le_right _ _⟩
    · obtain ⟨hmem, hbounds⟩ :=
        ih (sub_min_nonneg _) (fun y hy => hstock y (List.mem_cons_of_mem x hy)) he
      exact ⟨List.mem_cons_of_mem x hmem, hbounds⟩

theorem sum_takes (hneed : 0 ≤ need) (hstock : ∀ x ∈ xs, 0 ≤ stock x) :
    ((takes stock need xs).map Prod.snd).sum = min need (xs.map stock).sum := by
  induction xs generalizing need with
  | nil => rw [takes, List.map_nil, List.map_nil, List.sum_nil, min_eq_right hneed]
  | cons x xs ih =>
    have hrest : ∀ y ∈ xs, 0 ≤ stock y := fun y hy => hstock y (List.mem_cons_of_mem x hy)
    have hsum : 0 ≤ (xs.map stock).sum := by
      apply List.sum_nonneg
      intro v hv
      obtain ⟨y, hy, rfl⟩ := List.mem_map.1 hv
      exact hrest y hy
    rw [takes, List.map_cons, List.sum_cons, ih (sub_min_nonneg _) hrest, List.map_cons,
      List.sum_cons, ← min_add_add_left, add_sub_cancel]
    rcases le_total need (stock x) with hle | hle
    · rw [min_eq_left hle, min_eq_left (le_add_of_nonneg_right hsum),
        min_eq_left (hle.trans (le_add_of_nonneg_right hsum))]
    · rw [min_eq_right hle]

end TakingInOrder
