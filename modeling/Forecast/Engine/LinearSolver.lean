import Forecast.Lib.LinearSystems
import Mathlib.Algebra.Field.Rat
import Mathlib.Algebra.Order.Ring.Rat

/-!
# Solving dense linear systems

Gaussian elimination with partial pivoting and ridge regression over it, with rational numbers in
the place of the floating-point ones.
-/

open LinearSystem

namespace Forecast.Engine

variable {m n p : ℕ}

/-- The indices behind one, as a loop runs through them. -/
def after (i : Fin n) : List (Fin n) := (List.finRange n).filter (i < ·)

/-- The row with the largest magnitude in the column, and that magnitude. -/
def findPivot (M : Fin n → Fin n → ℚ) (col : Fin n) : Fin n × ℚ :=
  (after col).foldl (fun best r => if best.2 < |M r col| then (r, |M r col|) else best)
    (col, |M col col|)

/-- `M[r][c] -= factor * M[col][c]` for one column after the other. -/
def subtractRow (factor : ℚ) (col r : Fin n) (M : Fin n → Fin n → ℚ) :
    List (Fin n) → Fin n → Fin n → ℚ :=
  List.foldl
    (fun M c => Function.update M r (Function.update (M r) c (M r c - factor * M col c))) M

def eliminateRow (col : Fin n) (s : System n ℚ) (r : Fin n) : System n ℚ :=
  let factor := s.M r col / s.M col col
  if factor = 0 then s
  else
    { M := subtractRow factor col r s.M ((List.finRange n).filter (col ≤ ·))
      x := Function.update s.x r (s.x r - factor * s.x col) }

def eliminateColumn (s : System n ℚ) (col : Fin n) : Option (System n ℚ) :=
  let best := findPivot s.M col
  if best.2 < 1 / 10 ^ 12 then none
  else some ((after col).foldl (eliminateRow col) (s.swap col best.1))

/-- What the later unknowns leave of the right-hand side. -/
def remainder (s : System n ℚ) (sol : Fin n → ℚ) (row : Fin n) : ℚ :=
  (after row).foldl (fun sum c => sum - s.M row c * sol c) (s.x row)

def backSubstitute (s : System n ℚ) (rows : List (Fin n)) (sol : Fin n → ℚ) : Fin n → ℚ :=
  rows.foldl (fun sol row => Function.update sol row (remainder s sol row / s.M row row)) sol

/-- The solution, or none for a system that is singular or near it. -/
def solveLinearSystem (A : Fin n → Fin n → ℚ) (b : Fin n → ℚ) : Option (Fin n → ℚ) :=
  ((List.finRange n).foldlM eliminateColumn ⟨A, b⟩).map fun s =>
    backSubstitute s (List.finRange n).reverse 0

/-! ### Ridge regression -/

/-- What a row adds to the upper triangle and to the right-hand side. -/
def addRow (X : Fin m → Fin p → ℚ) (y : Fin m → ℚ) (s : System p ℚ) (i : Fin m) : System p ℚ where
  M := fun a b => if a ≤ b then s.M a b + X i a * X i b else s.M a b
  x := fun a => s.x a + X i a * y i

def accumulate (X : Fin m → Fin p → ℚ) (y : Fin m → ℚ) : System p ℚ :=
  (List.finRange m).foldl (addRow X y) ⟨0, 0⟩

def mirror (M : Fin p → Fin p → ℚ) : Fin p → Fin p → ℚ :=
  fun a b => if b < a then M b a else M a b

def penalize (lambda : ℚ) (penalizeIntercept : Bool) (M : Fin p → Fin p → ℚ) :
    Fin p → Fin p → ℚ :=
  fun a b =>
    if a = b ∧ ¬(a.val = 0 ∧ penalizeIntercept = false) then M a b + lambda else M a b

/-- The matrix and the right-hand side that are solved for. -/
def normalEquations (X : Fin m → Fin p → ℚ) (y : Fin m → ℚ) (lambda : ℚ)
    (penalizeIntercept : Bool) : System p ℚ :=
  ⟨penalize lambda penalizeIntercept (mirror (accumulate X y).M), (accumulate X y).x⟩

/-- The coefficients; without a row no column is counted. -/
def ridgeRegression (X : Fin m → Fin p → ℚ) (y : Fin m → ℚ) (lambda : ℚ)
    (penalizeIntercept : Bool) : List ℚ :=
  if m = 0 then []
  else if p = 0 then List.replicate p 0
  else
    let s := normalEquations X y lambda penalizeIntercept
    match solveLinearSystem s.M s.x with
    | some beta => List.ofFn beta
    | none => List.replicate p 0

/-! ### Elimination -/

theorem mem_after {i j : Fin n} : j ∈ after i ↔ i < j := by simp [after]

/-- The row that is chosen is the column's own or one below it. -/
theorem findPivot_spec (M : Fin n → Fin n → ℚ) (col : Fin n) :
    (findPivot M col).2 = |M (findPivot M col).1 col| ∧ col ≤ (findPivot M col).1 := by
  have hfold : ∀ (rows : List (Fin n)) (best : Fin n × ℚ), (∀ r ∈ rows, col ≤ r) →
      (best.2 = |M best.1 col| ∧ col ≤ best.1) →
      (rows.foldl (fun best r => if best.2 < |M r col| then (r, |M r col|) else best) best).2 =
          |M (rows.foldl
            (fun best r => if best.2 < |M r col| then (r, |M r col|) else best) best).1 col| ∧
        col ≤ (rows.foldl
          (fun best r => if best.2 < |M r col| then (r, |M r col|) else best) best).1 := by
    intro rows
    induction rows with
    | nil => exact fun best _ hbest => hbest
    | cons r rows ih =>
      intro best hrows hbest
      refine ih _ (fun r' hr' => hrows r' (List.mem_cons_of_mem r hr')) ?_
      by_cases hlarger : best.2 < |M r col|
      · simp only [if_pos hlarger]
        exact ⟨trivial, hrows r List.mem_cons_self⟩
      · simp only [if_neg hlarger]
        exact hbest
  exact hfold (after col) (col, |M col col|) (fun r hr => (mem_after.1 hr).le) ⟨rfl, le_refl col⟩

theorem subtractRow_apply {factor : ℚ} {col r : Fin n} (hr : r ≠ col)
    (M : Fin n → Fin n → ℚ) {columns : List (Fin n)} (hnodup : columns.Nodup)
    (i c : Fin n) :
    subtractRow factor col r M columns i c =
      if i = r ∧ c ∈ columns then M r c - factor * M col c else M i c := by
  induction columns generalizing M with
  | nil => simp [subtractRow]
  | cons d columns ih =>
    obtain ⟨hd, hnodup⟩ := List.nodup_cons.1 hnodup
    rw [subtractRow, List.foldl_cons]
    refine (ih _ hnodup).trans ?_
    have hcol : ∀ v : Fin n → ℚ, Function.update M r v col = M col := fun v =>
      Function.update_of_ne hr.symm v M
    rw [Function.update_self, hcol]
    by_cases hi : i = r
    · subst hi
      rw [Function.update_self]
      by_cases hc : c = d
      · subst hc
        simp [hd]
      · simp [hc]
    · rw [Function.update_of_ne hi]
      simp [hi]

/-- A row below the pivot becomes itself less a multiple of the pivot's row: left of the pivot
there is nothing to subtract. -/
theorem eliminateRow_isReduced {s : System n ℚ} {col r : Fin n} (hr : r ≠ col)
    (hleft : ∀ c, c < col → s.M col c = 0) :
    s.IsReduced (eliminateRow col s r) r col (s.M r col / s.M col col) := by
  by_cases hfactor : s.M r col / s.M col col = 0
  · have hsame : eliminateRow col s r = s := by rw [eliminateRow, if_pos hfactor]
    rw [hsame, hfactor]
    constructor
    · intro i c
      split_ifs with hi
      · rw [hi, zero_mul, sub_zero]
      · rfl
    · intro i
      split_ifs with hi
      · rw [hi, zero_mul, sub_zero]
      · rfl
  · have hM : (eliminateRow col s r).M = subtractRow (s.M r col / s.M col col) col r s.M
        ((List.finRange n).filter (col ≤ ·)) := by
      rw [eliminateRow, if_neg hfactor]
    have hx : (eliminateRow col s r).x =
        Function.update s.x r (s.x r - s.M r col / s.M col col * s.x col) := by
      rw [eliminateRow, if_neg hfactor]
    rw [System.IsReduced, hM, hx]
    constructor
    · intro i c
      rw [subtractRow_apply hr s.M ((List.nodup_finRange n).filter _)]
      by_cases hi : i = r
      · subst hi
        by_cases hc : col ≤ c
        · simp [hc]
        · rw [if_neg (by simp [hc]), if_pos rfl, hleft c (not_le.1 hc), mul_zero, sub_zero]
      · rw [if_neg fun h => hi h.1, if_neg hi]
    · intro i
      by_cases hi : i = r
      · subst hi
        rw [if_pos rfl, Function.update_self]
      · rw [if_neg hi, Function.update_of_ne hi]

/-- What a pass over rows below the pivot has done. -/
structure Cleared (s s' : System n ℚ) (col : Fin n) (rows : List (Fin n)) : Prop where
  equivalent : s.Equivalent s'
  triangular : s'.Triangular col.val
  pivot : s'.M col col ≠ 0
  cleared : ∀ r ∈ rows, s'.M r col = 0
  same : ∀ i, i ∉ rows → s'.M i = s.M i

theorem eliminateRow_cleared {s : System n ℚ} {col r : Fin n} (hr : col < r)
    (htriangular : s.Triangular col.val) (hpivot : s.M col col ≠ 0) :
    Cleared s (eliminateRow col s r) col [r] := by
  have hleft : ∀ c, c < col → s.M col c = 0 := fun c hc => htriangular.below col c hc hc
  have hreduced := eliminateRow_isReduced (s := s) hr.ne' hleft
  have hother : ∀ i, i ≠ r → (eliminateRow col s r).M i = s.M i := fun i hi =>
    funext fun c => by rw [hreduced.1 i c, if_neg hi]
  refine ⟨hreduced.equivalent hr.ne', ⟨fun i j hj hji => ?_, fun j hj => ?_⟩, ?_, ?_, ?_⟩
  · rw [hreduced.1 i j, hleft j hj]
    split_ifs with hi
    · rw [htriangular.below r j hj (lt_trans hj hr), mul_zero, sub_zero]
    · exact htriangular.below i j hj hji
  · rw [hother j (lt_trans (Fin.lt_def.2 hj) hr).ne]
    exact htriangular.diagonal j hj
  · rw [hother col hr.ne]
    exact hpivot
  · intro i hi
    rw [List.mem_singleton.1 hi, hreduced.1 r col, if_pos rfl, div_mul_cancel₀ _ hpivot, sub_self]
  · intro i hi
    exact hother i fun h => hi (List.mem_singleton.2 h)

theorem foldl_eliminateRow {col : Fin n} {rows : List (Fin n)} (hrows : ∀ r ∈ rows, col < r)
    {s : System n ℚ} (htriangular : s.Triangular col.val) (hpivot : s.M col col ≠ 0) :
    Cleared s (rows.foldl (eliminateRow col) s) col rows := by
  induction rows generalizing s with
  | nil => exact ⟨.refl s, htriangular, hpivot, fun _ hr => absurd hr List.not_mem_nil,
      fun _ _ => rfl⟩
  | cons r rows ih =>
    have hfirst := eliminateRow_cleared (hrows r List.mem_cons_self) htriangular hpivot
    have hrest := ih (fun r' hr' => hrows r' (List.mem_cons_of_mem r hr')) hfirst.triangular
      hfirst.pivot
    refine ⟨hfirst.equivalent.trans hrest.equivalent, hrest.triangular, hrest.pivot, ?_, ?_⟩
    · intro i hi
      -- a row that comes twice is zero in the column already
      by_cases hmem : i ∈ rows
      · exact hrest.cleared i hmem
      · obtain rfl : i = r := (List.mem_cons.1 hi).resolve_right hmem
        rw [List.foldl_cons, hrest.same i hmem]
        exact hfirst.cleared i (List.mem_singleton_self i)
    · intro i hi
      rw [List.mem_cons, not_or] at hi
      rw [List.foldl_cons, hrest.same i hi.2]
      exact hfirst.same i (mt List.mem_singleton.1 hi.1)

/-- Rows from the `k`-th on change places, and the columns before it stay as they are. -/
theorem triangular_swap {s : System n ℚ} {k : ℕ} (h : s.Triangular k) {i j : Fin n}
    (hi : k ≤ i.val) (hj : k ≤ j.val) : (s.swap i j).Triangular k := by
  have hfixed : ∀ r : Fin n, r.val < k → Equiv.swap i j r = r := fun r hr =>
    Equiv.swap_apply_of_ne_of_ne (by rintro rfl; omega) (by rintro rfl; omega)
  have hlate : ∀ r : Fin n, k ≤ r.val → k ≤ (Equiv.swap i j r).val := by
    intro r hr
    rw [Equiv.swap_apply_def]
    split_ifs
    · exact hj
    · exact hi
    · exact hr
  constructor
  · intro r c hc hcr
    by_cases hr : r.val < k
    · rw [System.swap_M, hfixed r hr]
      exact h.below r c hc hcr
    · exact h.below _ c hc (Fin.lt_def.2 (lt_of_lt_of_le hc (hlate r (not_lt.1 hr))))
  · intro r hr
    rw [System.swap_M, hfixed r hr]
    exact h.diagonal r hr

theorem eliminateColumn_spec {s s' : System n ℚ} {col : Fin n} (htriangular : s.Triangular col.val)
    (h : eliminateColumn s col = some s') :
    s.Equivalent s' ∧ s'.Triangular (col.val + 1) := by
  obtain ⟨hmax, hle⟩ := findPivot_spec s.M col
  rw [eliminateColumn] at h
  split_ifs at h with hsmall
  have hpivot : (s.swap col (findPivot s.M col).1).M col col ≠ 0 := by
    rw [System.swap_M, Equiv.swap_apply_left]
    intro hzero
    rw [hmax, hzero, abs_zero] at hsmall
    exact hsmall (by norm_num)
  have hpass := foldl_eliminateRow (fun r (hr : r ∈ after col) => mem_after.1 hr)
    (triangular_swap htriangular (le_refl _) (Fin.le_def.1 hle)) hpivot
  rw [← Option.some.inj h]
  refine ⟨(System.equivalent_swap s col _).trans hpass.equivalent, fun i j hj hji => ?_,
    fun j hj => ?_⟩
  · rcases Nat.lt_succ_iff_lt_or_eq.1 hj with hj | hj
    · exact hpass.triangular.below i j hj hji
    · obtain rfl := Fin.ext hj
      exact hpass.cleared i (mem_after.2 hji)
  · rcases Nat.lt_succ_iff_lt_or_eq.1 hj with hj | hj
    · exact hpass.triangular.diagonal j hj
    · obtain rfl := Fin.ext hj
      exact hpass.pivot

/-- After `k` columns the system has the same solutions and is triangular that far. -/
theorem foldlM_eliminateColumn {s s' : System n ℚ} {k : ℕ} (hk : k ≤ n)
    (h : ((List.finRange n).take k).foldlM eliminateColumn s = some s') :
    s.Equivalent s' ∧ s'.Triangular k := by
  induction k generalizing s' with
  | zero =>
    obtain rfl := Option.some.inj h
    exact ⟨.refl s, fun _ _ hj => absurd hj (Nat.not_lt_zero _),
      fun _ hj => absurd hj (Nat.not_lt_zero _)⟩
  | succ k ih =>
    have hlast : (List.finRange n).take (k + 1) = (List.finRange n).take k ++ [⟨k, hk⟩] := by
      rw [List.take_add_one, List.getElem?_eq_getElem (by simpa using hk), List.getElem_finRange]
      rfl
    rw [hlast, List.foldlM_append] at h
    obtain ⟨s₁, hfirst, hstep⟩ := Option.bind_eq_some_iff.1 h
    obtain ⟨hequivalent, htriangular⟩ := ih (Nat.le_of_succ_le hk) hfirst
    rw [List.foldlM_cons] at hstep
    obtain ⟨s₂, hstep, hdone⟩ := Option.bind_eq_some_iff.1 hstep
    obtain ⟨hequivalent', htriangular'⟩ := eliminateColumn_spec htriangular hstep
    obtain rfl := Option.some.inj hdone
    exact ⟨hequivalent.trans hequivalent', htriangular'⟩

/-! ### Back-substitution -/

theorem remainder_eq (s : System n ℚ) (sol : Fin n → ℚ) (row : Fin n) :
    remainder s sol row = s.x row - ∑ c ∈ Finset.Ioi row, s.M row c * sol c := by
  have hfold : ∀ (columns : List (Fin n)) (sum : ℚ),
      columns.foldl (fun sum c => sum - s.M row c * sol c) sum =
        sum - (columns.map fun c => s.M row c * sol c).sum := by
    intro columns
    induction columns with
    | nil => simp
    | cons c columns ih =>
      intro sum
      rw [List.foldl_cons, ih, List.map_cons, List.sum_cons, sub_sub]
  have hset : Finset.Ioi row = (after row).toFinset := by
    ext c
    rw [Finset.mem_Ioi, List.mem_toFinset, mem_after]
  have hnodup : (after row).Nodup := (List.nodup_finRange n).filter _
  rw [remainder, hfold, hset, List.sum_toFinset _ hnodup]

/-- Each row takes the value that its equation gives, from unknowns that stay as they are. -/
theorem backSubstitute_apply (s : System n ℚ) {rows : List (Fin n)}
    (hrows : rows.Pairwise (· > ·)) (sol : Fin n → ℚ) :
    (∀ i, i ∉ rows → backSubstitute s rows sol i = sol i) ∧
      ∀ i ∈ rows, backSubstitute s rows sol i = s.solution (backSubstitute s rows sol) i := by
  induction rows generalizing sol with
  | nil => exact ⟨fun _ _ => rfl, fun _ hi => absurd hi List.not_mem_nil⟩
  | cons row rows ih =>
    obtain ⟨hrow, hrows⟩ := List.pairwise_cons.1 hrows
    obtain ⟨hother, hmem⟩ := ih hrows
      (Function.update sol row (remainder s sol row / s.M row row))
    have hlater : ∀ c, row < c → backSubstitute s (row :: rows) sol c = sol c := fun c hc =>
      (hother c fun h => (lt_trans (hrow c h) hc).false).trans (Function.update_of_ne hc.ne' _ _)
    constructor
    · intro i hi
      rw [List.mem_cons, not_or] at hi
      exact (hother i hi.2).trans (Function.update_of_ne hi.1 _ _)
    · intro i hi
      rcases List.mem_cons.1 hi with rfl | hi
      · refine (hother i fun h => (hrow i h).false).trans ?_
        rw [Function.update_self, remainder_eq, System.solution]
        congr 2
        exact Finset.sum_congr rfl fun c hc => by rw [hlater c (Finset.mem_Ioi.1 hc)]
      · exact hmem i hi

theorem solveLinearSystem_spec {A : Fin n → Fin n → ℚ} {b x : Fin n → ℚ}
    (h : solveLinearSystem A b = some x) :
    (Matrix.of A).mulVec x = b ∧ IsUnit (Matrix.of A) := by
  obtain ⟨s, heliminated, rfl⟩ := Option.map_eq_some_iff.1 h
  have htake : (List.finRange n).take n = List.finRange n := by
    rw [List.take_of_length_le (List.length_finRange).le]
  obtain ⟨hequivalent, htriangular⟩ := foldlM_eliminateColumn (s := ⟨A, b⟩) (le_refl n)
    (htake.symm ▸ heliminated)
  have hdescending : (List.finRange n).reverse.Pairwise (· > ·) :=
    List.pairwise_reverse.2 (List.pairwise_lt_finRange n)
  have hsolved : s.Solves (backSubstitute s (List.finRange n).reverse 0) 1 := fun i =>
    htriangular.row_iff.2 ((backSubstitute_apply s hdescending 0).2 i (by simp))
  exact ⟨System.solves_one.1 ((hequivalent _ 1).1 hsolved),
    hequivalent.isUnit_iff.1 htriangular.isUnit⟩

/-! ### The normal equations -/

section Ridge

variable (X : Fin m → Fin p → ℚ) (y : Fin m → ℚ)

/-- The identity, without the intercept's entry unless it is penalized. -/
def penalty (p : ℕ) (penalizeIntercept : Bool) : Matrix (Fin p) (Fin p) ℚ :=
  Matrix.diagonal fun a => if a.val = 0 ∧ penalizeIntercept = false then 0 else 1

def normalMatrix (lambda : ℚ) (penalizeIntercept : Bool) : Matrix (Fin p) (Fin p) ℚ :=
  (Matrix.of X).transpose * Matrix.of X + lambda • penalty p penalizeIntercept

theorem accumulate_eq :
    (∀ a b, a ≤ b → (accumulate X y).M a b = ∑ i, X i a * X i b) ∧
      ∀ a, (accumulate X y).x a = ∑ i, X i a * y i := by
  have hfold : ∀ (rows : List (Fin m)) (s : System p ℚ),
      (∀ a b, a ≤ b → (rows.foldl (addRow X y) s).M a b =
        s.M a b + (rows.map fun i => X i a * X i b).sum) ∧
        ∀ a, (rows.foldl (addRow X y) s).x a = s.x a + (rows.map fun i => X i a * y i).sum := by
    intro rows
    induction rows with
    | nil => simp
    | cons i rows ih =>
      intro s
      constructor
      · intro a b hab
        have hrow : (addRow X y s i).M a b = s.M a b + X i a * X i b := if_pos hab
        rw [List.foldl_cons, (ih _).1 a b hab, hrow, List.map_cons, List.sum_cons, add_assoc]
      · intro a
        have hrow : (addRow X y s i).x a = s.x a + X i a * y i := rfl
        rw [List.foldl_cons, (ih _).2 a, hrow, List.map_cons, List.sum_cons, add_assoc]
  constructor
  · intro a b hab
    rw [accumulate, (hfold _ _).1 a b hab, Fin.sum_univ_def]
    exact zero_add _
  · intro a
    rw [accumulate, (hfold _ _).2 a, Fin.sum_univ_def]
    exact zero_add _

/-- The loops build the matrix and the right-hand side of the normal equations. -/
theorem normalEquations_eq (lambda : ℚ) (penalizeIntercept : Bool) :
    normalEquations X y lambda penalizeIntercept =
      ⟨normalMatrix X lambda penalizeIntercept, (Matrix.of X).transpose.mulVec y⟩ := by
  obtain ⟨hM, hx⟩ := accumulate_eq X y
  have hmirror : ∀ a b, mirror (accumulate X y).M a b = ∑ i, X i a * X i b := by
    intro a b
    unfold mirror
    split_ifs with hba
    · rw [hM b a hba.le]
      exact Finset.sum_congr rfl fun i _ => mul_comm _ _
    · exact hM a b (not_lt.1 hba)
  have hmatrix : (normalEquations X y lambda penalizeIntercept).M =
      normalMatrix X lambda penalizeIntercept := by
    funext a b
    have hentry : normalMatrix X lambda penalizeIntercept a b =
        ∑ i, X i a * X i b + lambda * penalty p penalizeIntercept a b := rfl
    have hpenalized : (normalEquations X y lambda penalizeIntercept).M a b =
        if a = b ∧ ¬(a.val = 0 ∧ penalizeIntercept = false) then
          mirror (accumulate X y).M a b + lambda
        else mirror (accumulate X y).M a b := rfl
    rw [hentry, hpenalized, hmirror, penalty, Matrix.diagonal_apply]
    by_cases hab : a = b
    · by_cases hintercept : a.val = 0 ∧ penalizeIntercept = false
      · rw [if_neg fun h => h.2 hintercept, if_pos hab, if_pos hintercept, mul_zero, add_zero]
      · rw [if_pos ⟨hab, hintercept⟩, if_pos hab, if_neg hintercept, mul_one]
    · rw [if_neg fun h => hab h.1, if_neg hab, mul_zero, add_zero]
  have hright : (normalEquations X y lambda penalizeIntercept).x =
      (Matrix.of X).transpose.mulVec y := by
    funext a
    exact hx a
  rw [← hmatrix, ← hright]

end Ridge

/-- What is returned solves the system, and the matrix is invertible then; a regression returns
the coefficients of its normal equations, or zeros when these were rejected. A matrix without
rows has no columns. -/
theorem solveLinearSystem_and_ridgeRegression :
    (∀ (n : ℕ) (A : Fin n → Fin n → ℚ) (b : Fin n → ℚ),
      (∀ x, solveLinearSystem A b = some x →
        (Matrix.of A).mulVec x = b ∧ IsUnit (Matrix.of A)) ∧
      (¬IsUnit (Matrix.of A) → solveLinearSystem A b = none)) ∧
    ∀ (m p : ℕ) (X : Fin m → Fin p → ℚ) (y : Fin m → ℚ) (lambda : ℚ) (penalizeIntercept : Bool),
      (m = 0 ∧ ridgeRegression X y lambda penalizeIntercept = []) ∨
        ∃ beta : Fin p → ℚ, ridgeRegression X y lambda penalizeIntercept = List.ofFn beta ∧
          ((normalMatrix X lambda penalizeIntercept).mulVec beta =
              (Matrix.of X).transpose.mulVec y ∨
            beta = 0 ∧ solveLinearSystem (normalMatrix X lambda penalizeIntercept)
              ((Matrix.of X).transpose.mulVec y) = none) := by
  constructor
  · intro n A b
    refine ⟨fun x hx => solveLinearSystem_spec hx, fun hsingular => ?_⟩
    rw [Option.eq_none_iff_forall_ne_some]
    intro x hx
    exact hsingular (solveLinearSystem_spec hx).2
  · intro m p X y lambda penalizeIntercept
    unfold ridgeRegression
    split_ifs with hm hp
    · exact .inl ⟨hm, rfl⟩
    · subst hp
      exact .inr ⟨0, rfl, .inl (funext fun a => a.elim0)⟩
    · refine .inr ?_
      simp only [normalEquations_eq]
      cases hsolved : solveLinearSystem (normalMatrix X lambda penalizeIntercept)
          ((Matrix.of X).transpose.mulVec y) with
      | some beta => exact ⟨beta, rfl, .inl (solveLinearSystem_spec hsolved).1⟩
      | none => exact ⟨0, (List.ofFn_const p 0).symm, .inr ⟨rfl, rfl⟩⟩

end Forecast.Engine
