import Mathlib.LinearAlgebra.Matrix.NonsingularInverse
import Mathlib.LinearAlgebra.Matrix.ToLinearEquiv
import Mathlib.Tactic.FieldSimp
import Mathlib.Tactic.LinearCombination

/-!
# Systems of linear equations and row operations

A vector solves a system at `t` when it solves it with the right-hand side `t` times as large: at
`1` it is a solution, at `0` it lies in the kernel. Exchanging two rows, and taking a multiple of
a row from another, leave at every `t` the same vectors. A triangular system without a zero on
its diagonal is solved from the last row to the first.
-/

namespace LinearSystem

variable {n : ℕ} {K : Type*} [Field K]

/-- The matrix and the right-hand side. -/
structure System (n : ℕ) (K : Type*) where
  M : Fin n → Fin n → K
  x : Fin n → K

/-- The row as an equation for the right-hand side `t` times as large. -/
def System.Row (s : System n K) (v : Fin n → K) (t : K) (i : Fin n) : Prop :=
  ∑ c, s.M i c * v c = t * s.x i

def System.Solves (s : System n K) (v : Fin n → K) (t : K) : Prop := ∀ i, s.Row v t i

/-- The same vectors at every multiple of the right-hand side. -/
def System.Equivalent (s s' : System n K) : Prop := ∀ v t, s'.Solves v t ↔ s.Solves v t

/-- The columns before the `k`-th are zero below the diagonal and not zero on it. -/
structure System.Triangular (s : System n K) (k : ℕ) : Prop where
  below : ∀ i j : Fin n, j.val < k → j < i → s.M i j = 0
  diagonal : ∀ j : Fin n, j.val < k → s.M j j ≠ 0

namespace System

variable {s s' s'' : System n K}

theorem Equivalent.refl (s : System n K) : s.Equivalent s := fun _ _ => Iff.rfl

theorem Equivalent.trans (h : s.Equivalent s') (h' : s'.Equivalent s'') : s.Equivalent s'' :=
  fun v t => (h' v t).trans (h v t)

theorem solves_one {v : Fin n → K} : s.Solves v 1 ↔ (Matrix.of s.M).mulVec v = s.x := by
  rw [funext_iff]
  refine forall_congr' fun i => ?_
  rw [Row, one_mul]
  rfl

theorem solves_zero {v : Fin n → K} : s.Solves v 0 ↔ (Matrix.of s.M).mulVec v = 0 := by
  rw [funext_iff]
  refine forall_congr' fun i => ?_
  rw [Row, zero_mul]
  rfl

/-- A matrix is invertible when only the zero vector is in its kernel. -/
theorem isUnit_iff : IsUnit (Matrix.of s.M) ↔ ∀ v, s.Solves v 0 → v = 0 := by
  rw [Matrix.isUnit_iff_isUnit_det, isUnit_iff_ne_zero, ← not_iff_not, not_not,
    ← Matrix.exists_mulVec_eq_zero_iff]
  push Not
  exact exists_congr fun v => and_comm.trans (and_congr_left fun _ => solves_zero.symm)

theorem Equivalent.isUnit_iff (h : s.Equivalent s') :
    IsUnit (Matrix.of s'.M) ↔ IsUnit (Matrix.of s.M) := by
  rw [System.isUnit_iff, System.isUnit_iff]
  exact forall_congr' fun v => imp_congr_left (h v 0)

/-! ### Row operations -/

/-- Two rows change places. -/
def swap (s : System n K) (i j : Fin n) : System n K :=
  ⟨fun r => s.M (Equiv.swap i j r), fun r => s.x (Equiv.swap i j r)⟩

omit [Field K] in
theorem swap_M (s : System n K) (i j r : Fin n) : (s.swap i j).M r = s.M (Equiv.swap i j r) := rfl

theorem equivalent_swap (s : System n K) (i j : Fin n) : s.Equivalent (s.swap i j) :=
  fun v t => (Equiv.swap i j).forall_congr_right (q := s.Row v t)

/-- A row less a multiple of another row. -/
def IsReduced (s s' : System n K) (r p : Fin n) (factor : K) : Prop :=
  (∀ i c, s'.M i c = if i = r then s.M r c - factor * s.M p c else s.M i c) ∧
    ∀ i, s'.x i = if i = r then s.x r - factor * s.x p else s.x i

theorem IsReduced.row_iff {r p : Fin n} {factor : K} (h : s.IsReduced s' r p factor)
    {v : Fin n → K} {t : K} (hp : s.Row v t p) : s'.Row v t r ↔ s.Row v t r := by
  have hsum : ∑ c, s'.M r c * v c = ∑ c, s.M r c * v c - factor * ∑ c, s.M p c * v c := by
    rw [Finset.mul_sum, ← Finset.sum_sub_distrib]
    refine Finset.sum_congr rfl fun c _ => ?_
    rw [h.1 r c, if_pos rfl]
    ring
  have hx : s'.x r = s.x r - factor * s.x p := by rw [h.2 r, if_pos rfl]
  unfold Row at hp ⊢
  rw [hsum, hx, hp]
  constructor
  · intro hrow
    linear_combination hrow
  · intro hrow
    linear_combination hrow

theorem IsReduced.equivalent {r p : Fin n} {factor : K} (h : s.IsReduced s' r p factor)
    (hrp : r ≠ p) : s.Equivalent s' := by
  intro v t
  have hother : ∀ i, i ≠ r → (s'.Row v t i ↔ s.Row v t i) := by
    intro i hi
    have hM : s'.M i = s.M i := funext fun c => by rw [h.1 i c, if_neg hi]
    rw [Row, Row, hM, h.2 i, if_neg hi]
  constructor
  · intro hs i
    have hp : s.Row v t p := (hother p hrp.symm).1 (hs p)
    by_cases hi : i = r
    · subst hi
      exact (h.row_iff hp).1 (hs i)
    · exact (hother i hi).1 (hs i)
  · intro hs i
    by_cases hi : i = r
    · subst hi
      exact (h.row_iff (hs p)).2 (hs i)
    · exact (hother i hi).2 (hs i)

/-! ### Triangular systems -/

/-- A row of a triangular system speaks of the unknowns from its own on. -/
theorem Triangular.sum_eq (h : s.Triangular n) (v : Fin n → K) (i : Fin n) :
    ∑ c, s.M i c * v c = s.M i i * v i + ∑ c ∈ Finset.Ioi i, s.M i c * v c := by
  have hzero : ∀ c ∉ insert i (Finset.Ioi i), s.M i c * v c = 0 := by
    intro c hc
    rw [Finset.mem_insert, Finset.mem_Ioi, not_or, not_lt] at hc
    rw [h.below i c c.isLt (lt_of_le_of_ne hc.2 hc.1), zero_mul]
  rw [← Finset.sum_subset (Finset.subset_univ (insert i (Finset.Ioi i))) fun c _ => hzero c,
    Finset.sum_insert (by simp)]

/-- The value of an unknown, when those behind it are known. -/
def solution (s : System n K) (v : Fin n → K) (i : Fin n) : K :=
  (s.x i - ∑ c ∈ Finset.Ioi i, s.M i c * v c) / s.M i i

theorem Triangular.row_iff (h : s.Triangular n) {v : Fin n → K} {i : Fin n} :
    s.Row v 1 i ↔ v i = s.solution v i := by
  have hne := h.diagonal i i.isLt
  rw [Row, h.sum_eq, solution, eq_div_iff hne, one_mul]
  constructor
  · intro hrow
    linear_combination hrow
  · intro hrow
    linear_combination hrow

/-- The kernel of a triangular matrix is empty: from the last unknown on, each is zero. -/
theorem Triangular.isUnit (h : s.Triangular n) : IsUnit (Matrix.of s.M) := by
  rw [System.isUnit_iff]
  intro v hv
  funext i
  induction i using WellFoundedGT.induction with
  | ind i ih =>
    have hrest : ∑ c ∈ Finset.Ioi i, s.M i c * v c = 0 :=
      Finset.sum_eq_zero fun c hc => by
        rw [ih c (Finset.mem_Ioi.1 hc), Pi.zero_apply, mul_zero]
    have hrow := hv i
    rw [Row, h.sum_eq, hrest, add_zero, zero_mul] at hrow
    exact (mul_eq_zero.1 hrow).resolve_left (h.diagonal i i.isLt)

end System

end LinearSystem
