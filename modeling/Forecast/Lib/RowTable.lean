import Mathlib.Algebra.BigOperators.Group.Finset.Basic
import Mathlib.Algebra.BigOperators.Group.Finset.Piecewise
import Mathlib.Algebra.BigOperators.Group.List.Basic
import Mathlib.Algebra.Order.BigOperators.Group.List
import Mathlib.Data.List.Basic
import Mathlib.Order.Basic
import Mathlib.Tactic.Abel

/-!
# Append-only tables of rows

A table is a list whose row ids are positions: inserting a row appends it, and
an update replaces the row at its id. The totals below sum a measure over the
rows that satisfy a condition.
-/

namespace RowTable

variable {α M : Type*}

theorem getElem?_append_row (t : List α) (r : α) {i : ℕ} {x : α} (h : t[i]? = some x) :
    (t ++ [r])[i]? = some x := by
  have hi : i < t.length := (List.getElem?_eq_some_iff.1 h).1
  rw [List.getElem?_append_left hi, h]

theorem getElem?_append_row_iff (t : List α) (r : α) {i : ℕ} {x : α} :
    (t ++ [r])[i]? = some x ↔ t[i]? = some x ∨ i = t.length ∧ x = r := by
  rcases Nat.lt_trichotomy i t.length with hi | hi | hi
  · rw [List.getElem?_append_left hi]
    simp [hi.ne]
  · subst hi
    simp [eq_comm]
  · have hnone : (t ++ [r])[i]? = none := by
      rw [List.getElem?_eq_none_iff, List.length_append, List.length_singleton]
      exact hi
    simp [hnone, List.getElem?_eq_none hi.le, hi.ne']

theorem getElem?_modify_of_ne (t : List α) (f : α → α) {i j : ℕ} (hij : i ≠ j) :
    (t.modify i f)[j]? = t[j]? := by
  rw [List.getElem?_modify]
  simp [hij]

theorem getElem?_modify_self (t : List α) (f : α → α) {i : ℕ} {x : α} (h : t[i]? = some x) :
    (t.modify i f)[i]? = some (f x) := by
  rw [List.getElem?_modify]
  simp [h]

theorem getElem?_modify_some (t : List α) (f : α → α) {i j : ℕ} {x : α} (h : t[j]? = some x) :
    (t.modify i f)[j]? = some (if i = j then f x else x) := by
  rw [List.getElem?_modify]
  split_ifs <;> simp [h]

/-- A row of an updated table is the update of the row it was. -/
theorem exists_of_getElem?_modify (t : List α) (f : α → α) {i j : ℕ} {y : α}
    (h : (t.modify i f)[j]? = some y) : ∃ x, t[j]? = some x ∧ y = if i = j then f x else x := by
  rw [List.getElem?_modify] at h
  cases hx : t[j]? with
  | none => simp [hx] at h
  | some x =>
    refine ⟨x, rfl, ?_⟩
    rw [hx] at h
    simp only [Option.map_eq_map, Option.map_some, Option.some.injEq] at h
    exact h.symm

/-- An update that keeps a column keeps it in the whole table. -/
theorem map_modify_eq {β : Type*} (t : List α) (i : ℕ) {f : α → α} {g : α → β}
    (h : ∀ x, g (f x) = g x) : (t.modify i f).map g = t.map g := by
  induction t generalizing i with
  | nil => simp
  | cons x t ih =>
    cases i with
    | zero => simp [h]
    | succ i => simp [ih]

/-- The first row that satisfies `p`, with its id. -/
def findRow? (p : α → Bool) : List α → Option (ℕ × α)
  | [] => none
  | x :: t => if p x then some (0, x) else (findRow? p t).map fun found => (found.1 + 1, found.2)

theorem findRow?_eq_none {p : α → Bool} {t : List α} :
    findRow? p t = none ↔ ∀ x ∈ t, p x = false := by
  induction t with
  | nil => simp [findRow?]
  | cons x t ih =>
    by_cases hx : p x
    · simp [findRow?, hx]
    · simp [findRow?, hx, ih]

theorem findRow?_eq_some {p : α → Bool} {t : List α} {i : ℕ} {x : α}
    (h : findRow? p t = some (i, x)) : t[i]? = some x ∧ p x = true := by
  induction t generalizing i with
  | nil => simp [findRow?] at h
  | cons y t ih =>
    by_cases hy : p y
    · obtain ⟨rfl, rfl⟩ : 0 = i ∧ y = x := by simpa [findRow?, hy] using h
      exact ⟨rfl, hy⟩
    · cases hf : findRow? p t with
      | none => simp [findRow?, hy, hf] at h
      | some found =>
        obtain ⟨rfl, rfl⟩ : found.1 + 1 = i ∧ found.2 = x := by
          simpa [findRow?, hy, hf] using h
        simpa using ih hf

section Totals

variable [AddCommGroup M]

/-- The sum of `f` over the rows that satisfy `p`. -/
def total (p : α → Bool) (f : α → M) (t : List α) : M := ((t.filter p).map f).sum

@[simp] theorem total_nil (p : α → Bool) (f : α → M) : total p f [] = 0 := rfl

theorem total_cons (p : α → Bool) (f : α → M) (r : α) (t : List α) :
    total p f (r :: t) = (if p r then f r else 0) + total p f t := by
  unfold total
  by_cases hr : p r <;> simp [hr]

theorem total_append_row (p : α → Bool) (f : α → M) (t : List α) (r : α) :
    total p f (t ++ [r]) = total p f t + if p r then f r else 0 := by
  unfold total
  by_cases hr : p r <;> simp [hr]

theorem total_modify (p : α → Bool) (f : α → M) (g : α → α) {t : List α} {i : ℕ} {r : α}
    (h : t[i]? = some r) :
    total p f (t.modify i g) =
      total p f t + ((if p (g r) then f (g r) else 0) - if p r then f r else 0) := by
  induction t generalizing i with
  | nil => simp at h
  | cons x t ih =>
    cases i with
    | zero =>
      obtain rfl : x = r := by simpa using h
      rw [List.modify_zero_cons, total_cons, total_cons]
      abel
    | succ i =>
      rw [List.modify_succ_cons, total_cons, total_cons, ih (by simpa using h)]
      abel

/-- An update that keeps each row's share keeps the total. -/
theorem total_modify_eq (p : α → Bool) (f : α → M) (g : α → α) {t : List α} {i : ℕ} {r : α}
    (h : t[i]? = some r)
    (hg : (if p (g r) then f (g r) else 0) = if p r then f r else 0) :
    total p f (t.modify i g) = total p f t := by
  rw [total_modify p f g h, hg]
  abel

theorem total_sub (p : α → Bool) (f g : α → M) (t : List α) :
    total p (fun x => f x - g x) t = total p f t - total p g t := by
  induction t with
  | nil => simp
  | cons x t ih =>
    rw [total_cons, total_cons, total_cons, ih]
    by_cases hx : p x = true
    · rw [if_pos hx, if_pos hx, if_pos hx]
      abel
    · rw [if_neg hx, if_neg hx, if_neg hx]
      abel

end Totals

theorem total_nonneg [AddCommGroup M] [PartialOrder M] [IsOrderedAddMonoid M] {p : α → Bool}
    {f : α → M} {t : List α} (hf : ∀ x ∈ t, 0 ≤ f x) : 0 ≤ total p f t := by
  apply List.sum_nonneg
  intro y hy
  obtain ⟨x, hx, rfl⟩ := List.mem_map.1 hy
  exact hf x (List.mem_of_mem_filter hx)

/-- With nonnegative shares no row's share exceeds the total. -/
theorem le_total [AddCommGroup M] [PartialOrder M] [IsOrderedAddMonoid M] {p : α → Bool}
    {f : α → M} {t : List α} (hf : ∀ x ∈ t, 0 ≤ f x) {r : α} (hr : r ∈ t) (hp : p r) :
    f r ≤ total p f t := by
  apply List.single_le_sum
  · intro y hy
    obtain ⟨x, hx, rfl⟩ := List.mem_map.1 hy
    exact hf x (List.mem_of_mem_filter hx)
  · exact List.mem_map_of_mem (List.mem_filter.2 ⟨hr, hp⟩)

/-- A total is monotone in each row's share. -/
theorem total_mono [AddCommGroup M] [PartialOrder M] [IsOrderedAddMonoid M] {p q : α → Bool}
    {f g : α → M} {t : List α}
    (h : ∀ x ∈ t, (if p x then f x else 0) ≤ if q x then g x else 0) :
    total p f t ≤ total q g t := by
  induction t with
  | nil => exact le_rfl
  | cons x t ih =>
    rw [total_cons, total_cons]
    exact add_le_add (h x List.mem_cons_self) (ih fun y hy => h y (List.mem_cons_of_mem x hy))

end RowTable
