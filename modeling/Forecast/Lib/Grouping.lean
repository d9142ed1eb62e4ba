import Mathlib.Algebra.BigOperators.Group.List.Basic
import Mathlib.Algebra.Group.Basic
import Mathlib.Data.List.Nodup
import Mathlib.Data.List.Dedup

/-!
# Sums over joins and groups

A join of two tables pairs each row of the left one with the rows of the right
one that match it. A sum over the join counts a right row as often as left rows
match it; grouping by a key is the join of the distinct keys with the rows.
-/

namespace Grouping

variable {α β κ M : Type*} [AddCommMonoid M]

/-- The rows that match `a`, summed. -/
def matchedSum (R : α → β → Bool) (f : β → M) (ys : List β) (a : α) : M :=
  ((ys.filter (R a)).map f).sum

theorem matchedSum_cons (R : α → β → Bool) (f : β → M) (y : β) (ys : List β) (a : α) :
    matchedSum R f (y :: ys) a = (if R a y then f y else 0) + matchedSum R f ys a := by
  unfold matchedSum
  by_cases h : R a y <;> simp [h]

theorem sum_map_ite_eq_countP_nsmul (p : α → Bool) (m : M) (xs : List α) :
    (xs.map fun a => if p a then m else 0).sum = xs.countP p • m := by
  induction xs with
  | nil => simp
  | cons a xs ih =>
    by_cases h : p a
    · rw [List.map_cons, List.sum_cons, if_pos h, ih, List.countP_cons_of_pos h, succ_nsmul']
    · rw [List.map_cons, List.sum_cons, if_neg h, ih, List.countP_cons_of_neg h, zero_add]

/-- A join summed by its left rows counts each right row as often as it is matched. -/
theorem sum_matchedSum (R : α → β → Bool) (f : β → M) (xs : List α) (ys : List β) :
    (xs.map (matchedSum R f ys)).sum = (ys.map fun y => xs.countP (R · y) • f y).sum := by
  induction ys with
  | nil =>
    have hnil : xs.map (matchedSum R f []) = xs.map fun _ => 0 := rfl
    rw [hnil]
    simp
  | cons y ys ih =>
    have hsplit : (xs.map (matchedSum R f (y :: ys))).sum =
        (xs.map fun a => if R a y then f y else 0).sum + (xs.map (matchedSum R f ys)).sum := by
      rw [← List.sum_map_add]
      congr 1
      apply List.map_congr_left
      intro a _
      exact matchedSum_cons R f y ys a
    rw [hsplit, sum_map_ite_eq_countP_nsmul, ih, List.map_cons, List.sum_cons]

theorem sum_map_filter (p : β → Bool) (f : β → M) (ys : List β) :
    ((ys.filter p).map f).sum = (ys.map fun y => if p y then f y else 0).sum := by
  induction ys with
  | nil => rfl
  | cons y ys ih => by_cases h : p y <;> simp [h, ih]

/-- When no right row is matched twice the join sums the rows that are matched. -/
theorem sum_matchedSum_of_countP_le_one {R : α → β → Bool} {xs : List α} {ys : List β} (f : β → M)
    (h : ∀ y ∈ ys, xs.countP (R · y) ≤ 1) :
    (xs.map (matchedSum R f ys)).sum = ((ys.filter fun y => xs.any (R · y)).map f).sum := by
  rw [sum_matchedSum, sum_map_filter]
  congr 1
  apply List.map_congr_left
  intro y hy
  by_cases hany : xs.any (R · y)
  · have hpos : 0 < xs.countP (R · y) := by
      obtain ⟨a, ha, haR⟩ := List.any_eq_true.1 hany
      exact List.countP_pos_iff.2 ⟨a, ha, haR⟩
    have hone : xs.countP (R · y) = 1 := by
      have hle := h y hy
      omega
    rw [if_pos hany, hone, one_nsmul]
  · have hzero : xs.countP (R · y) = 0 := by
      rw [List.countP_eq_zero]
      intro a ha haR
      exact hany (List.any_eq_true.2 ⟨a, ha, haR⟩)
    rw [if_neg hany, hzero, zero_nsmul]

/-- Of distinct rows at most one satisfies `p` exactly when any two that do are equal. -/
theorem countP_le_one_iff {p : α → Bool} {xs : List α} (hxs : xs.Nodup) :
    xs.countP p ≤ 1 ↔ ∀ a ∈ xs, ∀ b ∈ xs, p a → p b → a = b := by
  rw [List.countP_eq_length_filter]
  constructor
  · intro h a ha b hb hpa hpb
    have hamem : a ∈ xs.filter p := List.mem_filter.2 ⟨ha, hpa⟩
    have hbmem : b ∈ xs.filter p := List.mem_filter.2 ⟨hb, hpb⟩
    obtain ⟨c, hc⟩ := List.length_eq_one_iff.1
      (Nat.le_antisymm h (List.length_pos_of_mem hamem))
    rw [hc, List.mem_singleton] at hamem hbmem
    rw [hamem, hbmem]
  · intro h
    cases hfilter : xs.filter p with
    | nil => simp
    | cons a rest =>
      cases rest with
      | nil => simp
      | cons b rest =>
        have ha : a ∈ xs.filter p := by simp [hfilter]
        have hb : b ∈ xs.filter p := by simp [hfilter]
        have heq := h a (List.mem_filter.1 ha).1 b (List.mem_filter.1 hb).1
          (List.mem_filter.1 ha).2 (List.mem_filter.1 hb).2
        have hnodup := hxs.filter p
        rw [hfilter, heq] at hnodup
        simp at hnodup

end Grouping
