import Forecast.Lib.Rounding
import Mathlib.Algebra.Order.Archimedean.Basic

/-!
# Binary64 arithmetic

The result of an operation is the exact one rounded to 53 significant bits, ties going to the even
neighbour. A running sum is exact where every partial sum is a binary64 number.
-/

open GridRounding

namespace Binary64

/-- The distance of two neighbouring binary64 numbers at `x`. -/
def unit (x : ℚ) : ℚ := (2 : ℚ) ^ max (Int.log 2 |x| - 52) (-1074)

/-- The binary64 number that is nearest to `x`. -/
def round (x : ℚ) : ℚ := roundHalfEven (x / unit x) * unit x

def add (x y : ℚ) : ℚ := round (x + y)

def sub (x y : ℚ) : ℚ := round (x - y)

def mul (x y : ℚ) : ℚ := round (x * y)

def div (x y : ℚ) : ℚ := round (x / y)

/-- The sum of a loop that adds number by number. -/
def sum (xs : List ℚ) : ℚ := xs.foldl add 0

/-- `x` is a binary64 number. -/
def IsDouble (x : ℚ) : Prop := round x = x

instance (x : ℚ) : Decidable (IsDouble x) := inferInstanceAs (Decidable (_ = _))

/-! ### Rounding -/

theorem abs_roundHalfEven_sub_le (q : ℚ) : |(roundHalfEven q : ℚ) - q| ≤ 1 / 2 := by
  unfold roundHalfEven
  have hfract := Int.self_sub_floor q
  split_ifs with htie heven
  · rw [abs_sub_comm, hfract, abs_of_nonneg (Int.fract_nonneg q)]
    linarith
  · have hup : ((⌊q⌋ + 1 : ℤ) : ℚ) - q = 1 / 2 := by
      push_cast
      linarith
    rw [hup, abs_of_pos (by norm_num)]
  · rw [abs_sub_comm]
    exact abs_sub_round q

theorem roundHalfEven_nonneg {q : ℚ} (hq : 0 ≤ q) : 0 ≤ roundHalfEven q := by
  have hnear := (abs_le.1 (abs_roundHalfEven_sub_le q)).1
  have hlow : (-1 : ℚ) < roundHalfEven q := by linarith
  have hint : (-1 : ℤ) < roundHalfEven q := by exact_mod_cast hlow
  omega

theorem unit_pos (x : ℚ) : 0 < unit x := zpow_pos (by norm_num) _

@[simp] theorem round_zero : round 0 = 0 := by
  have hzero : roundHalfEven (0 : ℚ) = 0 := by simpa using roundHalfEven_intCast 0
  rw [round, zero_div, hzero, Int.cast_zero, zero_mul]

theorem round_neg (x : ℚ) : round (-x) = -round x := by
  have hunit : unit (-x) = unit x := by rw [unit, abs_neg, unit]
  rw [round, hunit, neg_div, roundHalfEven_neg, Int.cast_neg, neg_mul, round]

theorem round_nonneg {x : ℚ} (hx : 0 ≤ x) : 0 ≤ round x :=
  mul_nonneg (Int.cast_nonneg (roundHalfEven_nonneg (div_nonneg hx (unit_pos x).le)))
    (unit_pos x).le

/-- Below `2 ^ k` a number moves by at most half a unit of its 53 bits. -/
theorem abs_round_sub_le {x : ℚ} {k : ℕ} (hx : |x| < 2 ^ k) :
    |round x - x| ≤ 2 ^ ((k : ℤ) - 54) := by
  rcases eq_or_ne x 0 with rfl | hne
  · rw [round_zero, sub_zero, abs_zero]
    exact zpow_nonneg (by norm_num) _
  have hunit := unit_pos x
  have hlog : Int.log 2 |x| < k := by
    have hzpow := (Int.lt_zpow_iff_log_lt (b := 2) (by norm_num) (abs_pos.2 hne) (x := (k : ℤ))).1
    exact hzpow (by simpa using hx)
  have hle : unit x ≤ 2 ^ ((k : ℤ) - 53) := by
    apply zpow_le_zpow_right₀ (by norm_num)
    omega
  have hsplit : round x - x = ((roundHalfEven (x / unit x) : ℚ) - x / unit x) * unit x := by
    rw [round, sub_mul, div_mul_cancel₀ x hunit.ne']
  rw [hsplit, abs_mul, abs_of_pos hunit]
  calc |(roundHalfEven (x / unit x) : ℚ) - x / unit x| * unit x
      ≤ 1 / 2 * 2 ^ ((k : ℤ) - 53) :=
        mul_le_mul (abs_roundHalfEven_sub_le _) hle hunit.le (by norm_num)
    _ = 2 ^ ((k : ℤ) - 54) := by
        rw [show (k : ℤ) - 53 = (k : ℤ) - 54 + 1 by ring, zpow_add_one₀ (by norm_num)]
        ring

/-- A number moves by at most one part in `2 ^ 53`, or half the smallest unit. -/
theorem abs_round_sub_le_mul (x : ℚ) : |round x - x| ≤ |x| / 2 ^ 53 + 1 / 2 ^ 200 := by
  rcases eq_or_ne x 0 with rfl | hne
  · rw [round_zero, sub_zero, abs_zero]
    positivity
  have hunit := unit_pos x
  have hle : unit x ≤ |x| / 2 ^ 52 + 1 / 2 ^ 200 := by
    have hlog := Int.zpow_log_le_self (b := 2) (by norm_num) (abs_pos.2 hne)
    have hscaled : (2 : ℚ) ^ (Int.log 2 |x| - 52) ≤ |x| / 2 ^ 52 := by
      rw [zpow_sub₀ (by norm_num)]
      exact div_le_div_of_nonneg_right (by exact_mod_cast hlog) (by norm_num)
    have hsmall : (2 : ℚ) ^ (-1074 : ℤ) ≤ 1 / 2 ^ 200 := by
      rw [one_div, ← zpow_natCast, ← zpow_neg]
      exact zpow_le_zpow_right₀ (by norm_num) (by norm_num)
    have hpos : (0 : ℚ) ≤ |x| / 2 ^ 52 := by positivity
    rcases max_choice (Int.log 2 |x| - 52) (-1074) with hmax | hmax
    · rw [unit, hmax]
      exact hscaled.trans (le_add_of_nonneg_right (by positivity))
    · rw [unit, hmax]
      exact hsmall.trans (le_add_of_nonneg_left hpos)
  have hsplit : round x - x = ((roundHalfEven (x / unit x) : ℚ) - x / unit x) * unit x := by
    rw [round, sub_mul, div_mul_cancel₀ x hunit.ne']
  rw [hsplit, abs_mul, abs_of_pos hunit]
  calc |(roundHalfEven (x / unit x) : ℚ) - x / unit x| * unit x
      ≤ 1 / 2 * (|x| / 2 ^ 52 + 1 / 2 ^ 200) :=
        mul_le_mul (abs_roundHalfEven_sub_le _) hle hunit.le (by norm_num)
    _ ≤ |x| / 2 ^ 53 + 1 / 2 ^ 200 := by
        have hpos : (0 : ℚ) ≤ 1 / 2 ^ 200 := by positivity
        rw [mul_add, pow_succ 2 52, ← div_div]
        linarith

/-! ### Multiples of a power of two -/

/-- A multiple of a power of two. -/
def OnUnit (e : ℤ) (x : ℚ) : Prop := ∃ z : ℤ, x = z * 2 ^ e

namespace OnUnit

variable {e : ℤ} {x y : ℚ}

theorem zero : OnUnit e 0 := ⟨0, by simp⟩

theorem neg (hx : OnUnit e x) : OnUnit e (-x) := by
  obtain ⟨z, rfl⟩ := hx
  exact ⟨-z, by push_cast; ring⟩

theorem abs (hx : OnUnit e x) : OnUnit e |x| := by
  rcases abs_choice x with h | h <;> rw [h]
  · exact hx
  · exact hx.neg

theorem add (hx : OnUnit e x) (hy : OnUnit e y) : OnUnit e (x + y) := by
  obtain ⟨z, rfl⟩ := hx
  obtain ⟨w, rfl⟩ := hy
  exact ⟨z + w, by push_cast; ring⟩

theorem sum {xs : List ℚ} (h : ∀ x ∈ xs, OnUnit e x) : OnUnit e xs.sum := by
  induction xs with
  | nil => exact zero
  | cons x xs ih =>
    rw [List.forall_mem_cons] at h
    rw [List.sum_cons]
    exact h.1.add (ih h.2)

/-- Of 53 bits a multiple is a binary64 number. -/
theorem isDouble (hx : OnUnit e x) (he : -1074 ≤ e) (hlt : |x| < 2 ^ 53 * 2 ^ e) : IsDouble x := by
  rcases eq_or_ne x 0 with rfl | hne
  · exact round_zero
  obtain ⟨z, hz⟩ := hx
  have hunit : unit x ≠ 0 := (unit_pos x).ne'
  obtain ⟨k, hk⟩ : ∃ k : ℕ, max (Int.log 2 |x| - 52) (-1074) + k = e := by
    have hpow : |x| < 2 ^ (53 + e) := by
      rw [zpow_add₀ (by norm_num)]
      exact_mod_cast hlt
    have hlog := (Int.lt_zpow_iff_log_lt (b := 2) (by norm_num) (abs_pos.2 hne)).1
      (by exact_mod_cast hpow)
    exact ⟨(e - max (Int.log 2 |x| - 52) (-1074)).toNat, by omega⟩
  have hscaled : x / unit x = ((z * 2 ^ k : ℤ) : ℚ) := by
    rw [div_eq_iff hunit]
    calc x = z * 2 ^ (max (Int.log 2 |x| - 52) (-1074) + k) := by rw [hk, ← hz]
      _ = (z * 2 ^ k : ℤ) * unit x := by
        rw [zpow_add₀ (by norm_num), zpow_natCast, unit]
        push_cast
        ring
  rw [IsDouble, round, hscaled, roundHalfEven_intCast, ← hscaled, div_mul_cancel₀ x hunit]

end OnUnit

theorem onUnit_round (x : ℚ) : OnUnit (-1074) (round x) := by
  obtain ⟨k, hk⟩ : ∃ k : ℕ, max (Int.log 2 |x| - 52) (-1074) = k + -1074 :=
    ⟨(max (Int.log 2 |x| - 52) (-1074) + 1074).toNat, by omega⟩
  rw [round]
  generalize roundHalfEven (x / unit x) = z
  refine ⟨z * 2 ^ k, ?_⟩
  rw [unit, hk, zpow_add₀ (by norm_num), zpow_natCast, Int.cast_mul, Int.cast_pow, Int.cast_ofNat,
    mul_assoc]

theorem isDouble_round (x : ℚ) : IsDouble (round x) := by
  have hunit := unit_pos x
  have hscaled : |x / unit x| < 2 ^ 53 := by
    rw [abs_div, abs_of_pos hunit, div_lt_iff₀ hunit]
    calc |x| < 2 ^ (Int.log 2 |x| + 1) := by
          exact_mod_cast Int.lt_zpow_succ_log_self (b := 2) (by norm_num) |x|
      _ ≤ 2 ^ (53 + max (Int.log 2 |x| - 52) (-1074)) :=
          zpow_le_zpow_right₀ (by norm_num) (by omega)
      _ = 2 ^ 53 * unit x := by rw [zpow_add₀ (by norm_num), unit]; norm_num
  have hnear := abs_le.1 (abs_roundHalfEven_sub_le (x / unit x))
  obtain ⟨hlow, hhigh⟩ := abs_lt.1 hscaled
  rw [round]
  generalize roundHalfEven (x / unit x) = z at hnear ⊢
  have hlower : -(2 : ℤ) ^ 53 - 1 < z := by
    have h : ((-(2 : ℤ) ^ 53 - 1 : ℤ) : ℚ) < z := by push_cast; linarith
    exact_mod_cast h
  have hupper : z < (2 : ℤ) ^ 53 + 1 := by
    have h : (z : ℚ) < ((2 : ℤ) ^ 53 + 1 : ℤ) := by push_cast; linarith
    exact_mod_cast h
  have hdouble : ∀ (w e : ℤ), -1074 ≤ e → |w| < 2 ^ 53 → IsDouble ((w : ℚ) * 2 ^ e) := by
    intro w e he hw
    refine OnUnit.isDouble ⟨w, rfl⟩ he ?_
    rw [abs_mul, abs_of_pos (zpow_pos (by norm_num) e : (0 : ℚ) < 2 ^ e), ← Int.cast_abs]
    exact mul_lt_mul_of_pos_right (by exact_mod_cast hw) (zpow_pos (by norm_num) e)
  by_cases hz : |z| < 2 ^ 53
  · exact hdouble z _ (le_max_right _ _) hz
  · -- The next power of two is a multiple of the next unit.
    obtain ⟨w, rfl, hw⟩ : ∃ w : ℤ, z = w * 2 ∧ |w| < 2 ^ 53 := by
      rcases abs_cases z with ⟨habs, -⟩ | ⟨habs, -⟩
      · exact ⟨2 ^ 52, by omega, by norm_num⟩
      · exact ⟨-2 ^ 52, by omega, by norm_num⟩
    have hnext : ((w * 2 : ℤ) : ℚ) * unit x =
        w * 2 ^ (max (Int.log 2 |x| - 52) (-1074) + 1) := by
      rw [zpow_add_one₀ (by norm_num), unit]
      push_cast
      ring
    rw [hnext]
    exact hdouble w _ (by omega) hw

theorem log_half {x : ℚ} (hx : x ≠ 0) : Int.log 2 |x / 2| = Int.log 2 |x| - 1 := by
  have hpos := abs_pos.2 hx
  have habs : |x / 2| = |x| / 2 := by rw [abs_div, abs_two]
  have hhalf : (0 : ℚ) < |x| / 2 := by linarith
  have hlow := Int.zpow_log_le_self (b := 2) (by norm_num) hpos
  have hhigh := Int.lt_zpow_succ_log_self (b := 2) (by norm_num) |x|
  push_cast at hlow hhigh
  rw [habs]
  apply le_antisymm
  · have hlt := (Int.lt_zpow_iff_log_lt (b := 2) (by norm_num) hhalf (x := Int.log 2 |x|)).1 (by
      rw [zpow_add_one₀ (by norm_num)] at hhigh
      push_cast
      linarith)
    omega
  · apply (Int.zpow_le_iff_le_log (b := 2) (by norm_num) hhalf).1
    rw [zpow_sub_one₀ (by norm_num)]
    push_cast
    linarith

theorem round_half {x : ℚ} (hx : x ≠ 0) (hlog : -1021 ≤ Int.log 2 |x|) :
    round (x / 2) = round x / 2 := by
  have hunit : unit (x / 2) = unit x / 2 := by
    rw [unit, log_half hx, unit, max_eq_left (by omega), max_eq_left (by omega),
      show Int.log 2 |x| - 1 - 52 = Int.log 2 |x| - 52 - 1 by ring, zpow_sub_one₀ (by norm_num)]
    rfl
  rw [round, hunit, div_div_div_cancel_right₀ (by norm_num), ← mul_div_assoc, ← round]

/-- The average of two numbers is rounded once. -/
theorem div_add_two {x y : ℚ} (hx : IsDouble x) (hy : IsDouble y) :
    div (add x y) 2 = round ((x + y) / 2) := by
  rcases eq_or_ne (x + y) 0 with hzero | hne
  · rw [div, add, hzero, round_zero]
  by_cases hlog : -1021 ≤ Int.log 2 |x + y|
  · rw [div, add, ← round_half hne hlog]
    exact isDouble_round _
  · have hexact : IsDouble (x + y) := by
      have hunits : OnUnit (-1074) (x + y) := by
        rw [← hx, ← hy]
        exact (onUnit_round x).add (onUnit_round y)
      refine hunits.isDouble le_rfl ?_
      have hlt := (Int.lt_zpow_iff_log_lt (b := 2) (by norm_num) (abs_pos.2 hne)
        (x := (-1021 : ℤ))).2 (not_le.1 hlog)
      calc |x + y| < 2 ^ (-1021 : ℤ) := by exact_mod_cast hlt
        _ = 2 ^ 53 * 2 ^ (-1074 : ℤ) := by
          rw [show (-1021 : ℤ) = 53 + -1074 by norm_num, zpow_add₀ (by norm_num), zpow_ofNat]
    rw [div, add, hexact]

/-- Integers that a binary64 number can hold are not rounded. -/
theorem round_natCast {n : ℕ} (h : n < 2 ^ 53) : round (n : ℚ) = n := by
  refine OnUnit.isDouble (e := 0) ⟨n, by simp⟩ (by norm_num) ?_
  rw [Nat.abs_cast, zpow_zero, mul_one]
  exact_mod_cast h

/-! ### Loops that round every result -/

section Loops

variable {op : ℚ → ℚ → ℚ} {e : ℚ} {xs ys : List ℚ}

theorem foldl_round_eq (h : ∀ ys, ys <+: xs → IsDouble (ys.foldl op e)) :
    xs.foldl (fun x y => round (op x y)) e = xs.foldl op e := by
  induction xs using List.reverseRecOn with
  | nil => rfl
  | append_singleton xs x ih =>
    have hlast : IsDouble ((xs ++ [x]).foldl op e) := h _ List.prefix_rfl
    rw [List.foldl_append] at hlast ⊢
    rw [ih fun ys hys => h ys (hys.trans (List.prefix_append xs [x])), List.foldl_append]
    exact hlast

variable (op e xs) in
/-- No result short of the last one needs rounding, in whatever order the numbers come. -/
def FoldsExactly : Prop :=
  ∀ ys : List ℚ, ys.Sublist xs → ys.length < xs.length → IsDouble (ys.foldl op e)

theorem FoldsExactly.foldl_eq (h : FoldsExactly op e xs) (hne : xs ≠ []) :
    xs.foldl (fun x y => round (op x y)) e = round (xs.foldl op e) := by
  obtain ⟨zs, x, rfl⟩ := (List.eq_nil_or_concat' xs).resolve_left hne
  have hrest : zs.foldl (fun x y => round (op x y)) e = zs.foldl op e := by
    refine foldl_round_eq fun ys hys => h ys (hys.sublist.trans (List.sublist_append_left zs [x])) ?_
    rw [List.length_append]
    exact Nat.lt_succ_of_le hys.length_le
  rw [List.foldl_append, hrest, List.foldl_append]
  rfl

variable [Std.Commutative op] [Std.Associative op]

theorem FoldsExactly.perm (h : FoldsExactly op e xs) (hys : ys.Perm xs) : FoldsExactly op e ys := by
  intro zs hzs hlt
  obtain ⟨ws, hws, hsub⟩ := hzs.subperm.trans hys.subperm
  rw [← hws.foldl_op_eq]
  exact h ws hsub (by rw [hws.length_eq, ← hys.length_eq]; exact hlt)

/-- The order of the numbers is without effect. -/
theorem FoldsExactly.foldl_perm (h : FoldsExactly op e xs) (hys : ys.Perm xs) :
    ys.foldl (fun x y => round (op x y)) e = xs.foldl (fun x y => round (op x y)) e := by
  rcases eq_or_ne xs [] with rfl | hne
  · rw [hys.eq_nil]
  · have hne' : ys ≠ [] := fun hnil => hne (by rw [hnil] at hys; exact hys.symm.eq_nil)
    rw [h.foldl_eq hne, (h.perm hys).foldl_eq hne', hys.foldl_op_eq]

end Loops

/-! ### Running sums -/

@[simp] theorem sum_nil : sum [] = 0 := rfl

theorem sum_append (xs ys : List ℚ) : sum (xs ++ ys) = ys.foldl add (sum xs) := List.foldl_append

theorem sum_eq_zero {xs : List ℚ} (h : ∀ x ∈ xs, x = 0) : sum xs = 0 := by
  induction xs with
  | nil => rfl
  | cons x xs ih =>
    rw [List.forall_mem_cons] at h
    rw [sum, List.foldl_cons, h.1, add, add_zero, round_zero]
    exact ih h.2

/-- Every partial sum is a binary64 number. -/
def SumsExactly (xs : List ℚ) : Prop := ∀ ys, ys <+: xs → IsDouble ys.sum

theorem sum_eq {xs : List ℚ} (h : SumsExactly xs) : sum xs = xs.sum := by
  rw [List.sum_eq_foldl]
  exact foldl_round_eq fun ys hys => by
    rw [← List.sum_eq_foldl]
    exact h ys hys

theorem abs_sum_le (xs : List ℚ) : |xs.sum| ≤ (xs.map (|·|)).sum := by
  induction xs with
  | nil => simp
  | cons x xs ih =>
    rw [List.sum_cons, List.map_cons, List.sum_cons]
    exact (abs_add_le x xs.sum).trans (add_le_add le_rfl ih)

/-- Whichever of the numbers are taken, their sum is a binary64 number. -/
def AddsExactly (xs : List ℚ) : Prop := ∀ ys : List ℚ, ys.Sublist xs → IsDouble ys.sum

instance (xs : List ℚ) : Decidable (AddsExactly xs) :=
  decidable_of_iff (∀ ys ∈ xs.sublists, IsDouble ys.sum)
    (forall_congr' fun _ => by rw [List.mem_sublists])

namespace AddsExactly

variable {xs ys : List ℚ}

theorem sublist (h : AddsExactly xs) (hys : ys.Sublist xs) : AddsExactly ys :=
  fun _ hzs => h _ (hzs.trans hys)

theorem perm (h : AddsExactly xs) (hys : ys.Perm xs) : AddsExactly ys := by
  intro zs hzs
  obtain ⟨ws, hws, hsub⟩ := hzs.subperm.trans hys.subperm
  rw [← hws.sum_eq]
  exact h ws hsub

theorem sum_eq (h : AddsExactly xs) : sum xs = xs.sum :=
  Binary64.sum_eq fun _ hys => h _ hys.sublist

theorem of_forall_eq_zero (h : ∀ x ∈ xs, x = 0) : AddsExactly xs := by
  intro ys hys
  rw [List.sum_eq_zero fun y hy => h y (hys.subset hy)]
  exact round_zero

/-- Multiples of a power of two that have 53 bits together need no rounding. -/
theorem of_onUnit {e : ℤ} (he : -1074 ≤ e) (hunit : ∀ x ∈ xs, OnUnit e x)
    (hlt : (xs.map (|·|)).sum < 2 ^ 53 * 2 ^ e) : AddsExactly xs := by
  intro ys hys
  refine (OnUnit.sum fun y hy => hunit y (hys.subset hy)).isDouble he ?_
  refine (abs_sum_le ys).trans_lt (lt_of_le_of_lt ?_ hlt)
  refine (hys.map (|·|)).sum_le_sum fun a ha => ?_
  obtain ⟨x, -, rfl⟩ := List.mem_map.1 ha
  exact abs_nonneg x

end AddsExactly

/-- A running sum of rounded numbers is off by at most two roundings for each of them. -/
theorem abs_foldl_add_sub_le {k : ℕ} {xs : List ℚ} {b c ε : ℚ} (hb : |b - c| ≤ ε)
    (hlt : |c| + (xs.map (|·|)).sum + ε + xs.length * 2 ^ ((k : ℤ) - 53) < 2 ^ k) :
    |(xs.map round).foldl add b - (c + xs.sum)| ≤ ε + xs.length * 2 ^ ((k : ℤ) - 53) := by
  induction xs generalizing b c ε with
  | nil => simpa using hb
  | cons x xs ih =>
    have hhalf : (2 : ℚ) ^ ((k : ℤ) - 53) = 2 * 2 ^ ((k : ℤ) - 54) := by
      rw [show (k : ℤ) - 53 = 1 + ((k : ℤ) - 54) by ring, zpow_add₀ (by norm_num), zpow_one]
    have hpos : (0 : ℚ) < 2 ^ ((k : ℤ) - 54) := zpow_pos (by norm_num) _
    have hlength : (0 : ℚ) ≤ xs.length * 2 ^ ((k : ℤ) - 53) :=
      mul_nonneg (Nat.cast_nonneg _) (zpow_nonneg (by norm_num) _)
    have hrest : 0 ≤ (xs.map (|·|)).sum := (abs_nonneg _).trans (abs_sum_le xs)
    rw [List.map_cons, List.sum_cons, List.length_cons, Nat.cast_succ, add_mul, one_mul] at hlt
    have hnumber : |round x - x| ≤ 2 ^ ((k : ℤ) - 54) := by
      refine abs_round_sub_le ?_
      have hc := abs_nonneg c
      have hε := (abs_nonneg _).trans hb
      linarith
    have hsum : |b + round x - (c + x)| ≤ ε + 2 ^ ((k : ℤ) - 54) := by
      rw [abs_le] at hb hnumber ⊢
      constructor <;> linarith
    have hadded : |add b (round x) - (b + round x)| ≤ 2 ^ ((k : ℤ) - 54) := by
      refine abs_round_sub_le ?_
      have htriangle := abs_sub_abs_le_abs_sub (b + round x) (c + x)
      have hexact := abs_add_le c x
      linarith
    have hnext : |add b (round x) - (c + x)| ≤ ε + 2 ^ ((k : ℤ) - 53) := by
      rw [hhalf]
      rw [abs_le] at hsum hadded ⊢
      constructor <;> linarith
    have hih := ih hnext (by linarith [abs_add_le c x])
    rw [List.map_cons, List.foldl_cons, List.sum_cons, List.length_cons, Nat.cast_succ, add_mul,
      one_mul, ← add_assoc]
    linarith

/-- A running sum of rounded numbers is off by less than half of four decimals, as long as the
numbers are small enough for their count. -/
theorem abs_foldl_add_round_sub_le {xs : List ℚ} {c size : ℚ}
    (hsize : |c| + (xs.map (|·|)).sum ≤ size) (h : (xs.length + 1) * (size + 1) ≤ 2 ^ 37) :
    |(xs.map round).foldl add (round c) - (c + xs.sum)| ≤ 1 / 2 ^ 15 := by
  have hrest : 0 ≤ (xs.map (|·|)).sum := (abs_nonneg _).trans (abs_sum_le xs)
  have hpos : 1 ≤ size + 1 := by linarith [abs_nonneg c]
  obtain ⟨k, hlow, hhigh⟩ := exists_nat_pow_near hpos (by norm_num : (1 : ℚ) < 2)
  have hunit : (2 : ℚ) ^ (((k + 1 : ℕ) : ℤ) - 53) = 2 ^ k / 2 ^ 52 := by
    rw [show ((k + 1 : ℕ) : ℤ) - 53 = k - 52 by push_cast; ring, zpow_sub₀ (by norm_num)]
    norm_cast
  have hone : |round c - c| ≤ 2 ^ k / 2 ^ 52 := by
    have hround := abs_round_sub_le (x := c) (k := k + 1) (by linarith)
    have hhalf : (2 : ℚ) ^ (((k + 1 : ℕ) : ℤ) - 54) ≤ 2 ^ (((k + 1 : ℕ) : ℤ) - 53) :=
      zpow_le_zpow_right₀ (by norm_num) (by omega)
    exact hround.trans (hhalf.trans hunit.le)
  have herror : 2 ^ k / 2 ^ 52 + xs.length * (2 ^ k / 2 ^ 52) ≤ (1 : ℚ) / 2 ^ 15 := by
    have hcount : (xs.length + 1) * (2 : ℚ) ^ k ≤ 2 ^ 37 :=
      (mul_le_mul_of_nonneg_left hlow (by positivity)).trans h
    calc 2 ^ k / 2 ^ 52 + xs.length * (2 ^ k / 2 ^ 52)
        = (xs.length + 1) * (2 : ℚ) ^ k / 2 ^ 52 := by ring
      _ ≤ 2 ^ 37 / 2 ^ 52 := div_le_div_of_nonneg_right hcount (by norm_num)
      _ = 1 / 2 ^ 15 := by norm_num
  have hlt : |c| + (xs.map (|·|)).sum + 2 ^ k / 2 ^ 52 + xs.length * 2 ^ (((k + 1 : ℕ) : ℤ) - 53) <
      2 ^ (k + 1) := by
    rw [hunit]
    have hsmall : (1 : ℚ) / 2 ^ 15 < 1 := by norm_num
    linarith
  have hsum := abs_foldl_add_sub_le hone hlt
  rw [hunit] at hsum
  exact hsum.trans herror

end Binary64
