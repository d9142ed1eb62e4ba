import Mathlib.Algebra.Order.Round
import Mathlib.Algebra.Order.Floor.Ring
import Mathlib.Data.Int.Log
import Mathlib.Data.Rat.Floor
import Mathlib.Tactic.FieldSimp
import Mathlib.Tactic.Linarith
import Mathlib.Tactic.Positivity
import Mathlib.Tactic.Ring

/-!
# Rounding to a grid with ties away from zero

Rounding a field element to an integer, to the multiples of a unit, and to a
number of significant digits. The results at the end compare one rounding of an
exact sum with the separate rounding of one of its terms, and a double rounding
through a finer grid with a single one.
-/

set_option linter.unusedSectionVars false

namespace GridRounding

variable {K : Type*} [Field K] [LinearOrder K] [IsStrictOrderedRing K] [FloorRing K]

/-- The nearest integer, a tie going away from zero. -/
def roundHalfAway (q : K) : ℤ := if 0 ≤ q then ⌊q + 1 / 2⌋ else -⌊-q + 1 / 2⌋

/-- The nearest multiple of `u`. -/
def roundTo (u q : K) : K := roundHalfAway (q / u) * u

/-- The distance of two neighbouring numbers of `p` significant digits at `q`. -/
def significantUnit (p : ℕ) (q : K) : K := (10 : K) ^ (Int.log 10 |q| + 1 - p)

def toSignificant (p : ℕ) (q : K) : K := roundTo (significantUnit p q) q

/-- The nearest integer, a tie going to the even neighbour. -/
def roundHalfEven (q : K) : ℤ :=
  if 2 * Int.fract q = 1 then (if Even ⌊q⌋ then ⌊q⌋ else ⌊q⌋ + 1) else round q

theorem roundHalfEven_intCast (z : ℤ) : roundHalfEven (z : K) = z := by
  rw [roundHalfEven, Int.fract_intCast, if_neg (by norm_num), round_intCast]

theorem roundHalfEven_neg (q : K) : roundHalfEven (-q) = -roundHalfEven q := by
  rcases eq_or_ne (Int.fract q) 0 with hint | hfract
  · rw [← Int.floor_add_fract q, hint, add_zero, ← Int.cast_neg, roundHalfEven_intCast,
      roundHalfEven_intCast]
  have hneg : Int.fract (-q) = 1 - Int.fract q := Int.fract_neg hfract
  have hceil : ⌈q⌉ = ⌊q⌋ + 1 := (Int.ceil_eq_floor_add_one_iff_notMem q).2 fun ⟨z, hz⟩ =>
    hfract (by rw [← hz, Int.fract_intCast])
  have hfloor : ⌊-q⌋ = -(⌊q⌋ + 1) := by rw [Int.floor_neg, hceil]
  unfold roundHalfEven
  rcases lt_trichotomy (2 * Int.fract q) 1 with hlt | htie | hgt
  · rw [if_neg (by linarith), if_neg hlt.ne, round, round, if_neg (by linarith), if_pos hlt,
      Int.ceil_neg]
  · have heven : Even ⌊-q⌋ ↔ ¬Even ⌊q⌋ := by
      rw [hfloor, even_neg, Int.even_add_one]
    rw [if_pos (by linarith), if_pos htie]
    by_cases h : Even ⌊q⌋
    · rw [if_neg (by rw [heven, not_not]; exact h), if_pos h, hfloor]
      ring
    · rw [if_pos (heven.2 h), if_neg h, hfloor]
  · rw [if_neg (by linarith), if_neg hgt.ne', round, round, if_pos (by linarith),
      if_neg (not_lt.2 hgt.le), Int.floor_neg]

theorem roundHalfAway_of_nonneg {q : K} (hq : 0 ≤ q) : roundHalfAway q = ⌊q + 1 / 2⌋ :=
  if_pos hq

theorem roundHalfAway_of_neg {q : K} (hq : q < 0) : roundHalfAway q = -⌊-q + 1 / 2⌋ :=
  if_neg (not_le.2 hq)

@[simp] theorem roundHalfAway_intCast (z : ℤ) : roundHalfAway (z : K) = z := by
  have hfloor : ∀ y : ℤ, ⌊(y : K) + 1 / 2⌋ = y := by
    intro y
    rw [Int.floor_intCast_add]
    have h : ⌊(1 / 2 : K)⌋ = 0 := by
      rw [Int.floor_eq_zero_iff]
      constructor <;> norm_num
    omega
  rcases le_or_gt 0 (z : K) with hz | hz
  · rw [roundHalfAway_of_nonneg hz, hfloor]
  · rw [roundHalfAway_of_neg hz, ← Int.cast_neg, hfloor, neg_neg]

@[simp] theorem roundHalfAway_zero : roundHalfAway (0 : K) = 0 := by
  simpa using roundHalfAway_intCast (K := K) 0

theorem roundHalfAway_neg (q : K) : roundHalfAway (-q) = -roundHalfAway q := by
  rcases lt_trichotomy q 0 with hq | rfl | hq
  · rw [roundHalfAway_of_nonneg (by linarith), roundHalfAway_of_neg hq, neg_neg]
  · simp
  · rw [roundHalfAway_of_neg (by linarith), roundHalfAway_of_nonneg hq.le, neg_neg]

example : roundHalfAway (-5 / 2 : ℚ) = -3 := by decide +kernel

theorem roundHalfAway_nonneg {q : K} (hq : 0 ≤ q) : 0 ≤ roundHalfAway q := by
  rw [roundHalfAway_of_nonneg hq]
  exact Int.floor_nonneg.2 (by linarith)

theorem roundHalfAway_nonpos {q : K} (hq : q ≤ 0) : roundHalfAway q ≤ 0 := by
  have h := roundHalfAway_nonneg (K := K) (q := -q) (by linarith)
  rw [roundHalfAway_neg] at h
  omega

theorem roundHalfAway_mono {p q : K} (hpq : p ≤ q) : roundHalfAway p ≤ roundHalfAway q := by
  rcases le_or_gt 0 p with hp | hp
  · rw [roundHalfAway_of_nonneg hp, roundHalfAway_of_nonneg (hp.trans hpq)]
    exact Int.floor_le_floor (by linarith)
  · rcases le_or_gt 0 q with hq | hq
    · exact (roundHalfAway_nonpos hp.le).trans (roundHalfAway_nonneg hq)
    · rw [roundHalfAway_of_neg hp, roundHalfAway_of_neg hq]
      exact neg_le_neg (Int.floor_le_floor (by linarith))

theorem roundHalfAway_abs (q : K) : roundHalfAway |q| = |roundHalfAway q| := by
  rcases le_total 0 q with hq | hq
  · rw [abs_of_nonneg hq, abs_of_nonneg (roundHalfAway_nonneg hq)]
  · rw [abs_of_nonpos hq, abs_of_nonpos (roundHalfAway_nonpos hq), roundHalfAway_neg]

theorem roundTo_neg (u q : K) : roundTo u (-q) = -roundTo u q := by
  rw [roundTo, neg_div, roundHalfAway_neg, Int.cast_neg, neg_mul]
  rfl

@[simp] theorem roundTo_zero (u : K) : roundTo u 0 = 0 := by simp [roundTo]

theorem roundTo_intCast_mul {u : K} (hu : u ≠ 0) (z : ℤ) : roundTo u (z * u) = z * u := by
  rw [roundTo, mul_div_assoc, div_self hu, mul_one, roundHalfAway_intCast]

theorem roundTo_mono {u : K} (hu : 0 < u) {p q : K} (hpq : p ≤ q) : roundTo u p ≤ roundTo u q :=
  mul_le_mul_of_nonneg_right
    (Int.cast_le.2 (roundHalfAway_mono (div_le_div_of_nonneg_right hpq hu.le))) hu.le

theorem roundTo_abs {u : K} (hu : 0 < u) (q : K) : roundTo u |q| = |roundTo u q| := by
  have hdiv : |q| / u = |q / u| := by rw [abs_div, abs_of_pos hu]
  rw [roundTo, roundTo, hdiv, roundHalfAway_abs, abs_mul, abs_of_pos hu, Int.cast_abs]

theorem mul_roundTo {c : K} (hc : c ≠ 0) (u q : K) : c * roundTo u q = roundTo (c * u) (c * q) := by
  rw [roundTo, roundTo, mul_div_mul_left q u hc]
  ring

theorem significantUnit_pos (p : ℕ) (q : K) : 0 < significantUnit p q := by
  exact zpow_pos (by norm_num) _

@[simp] theorem significantUnit_neg (p : ℕ) (q : K) :
    significantUnit p (-q) = significantUnit p q := by
  simp [significantUnit]

@[simp] theorem significantUnit_abs (p : ℕ) (q : K) :
    significantUnit p |q| = significantUnit p q := by
  simp [significantUnit]

@[simp] theorem toSignificant_zero (p : ℕ) : toSignificant p (0 : K) = 0 := by
  simp [toSignificant]

theorem toSignificant_neg (p : ℕ) (q : K) : toSignificant p (-q) = -toSignificant p q := by
  rw [toSignificant, significantUnit_neg, roundTo_neg]
  rfl

theorem toSignificant_eq_self {p : ℕ} {q : K} (m : ℤ) (hq : q = m * significantUnit p q) :
    toSignificant p q = q := by
  calc toSignificant p q = roundTo (significantUnit p q) (m * significantUnit p q) := by
        rw [← hq]
        rfl
    _ = m * significantUnit p q := roundTo_intCast_mul (significantUnit_pos p q).ne' m
    _ = q := hq.symm

/-- A number that fits in `p` digits after the unit `10 ^ e` is left alone. -/
theorem toSignificant_intCast_mul_zpow (p : ℕ) (z e : ℤ) (hz : |z| < 10 ^ p) :
    toSignificant p ((z : K) * 10 ^ e) = z * 10 ^ e := by
  have hten : (10 : K) ≠ 0 := by norm_num
  rcases eq_or_ne z 0 with rfl | hz0
  · simp
  have hpos : (0 : K) < |(z : K) * 10 ^ e| := by
    rw [abs_pos]
    exact mul_ne_zero (Int.cast_ne_zero.2 hz0) (zpow_ne_zero e hten)
  have hlt : |(z : K) * 10 ^ e| < 10 ^ ((p : ℤ) + e) := by
    have hcast : |(z : K)| < 10 ^ p := by exact_mod_cast hz
    rw [abs_mul, abs_of_pos (zpow_pos (by norm_num : (0 : K) < 10) e), zpow_add₀ hten,
      zpow_natCast]
    exact mul_lt_mul_of_pos_right hcast (zpow_pos (by norm_num) e)
  have hlog : Int.log 10 |(z : K) * 10 ^ e| < p + e := by
    have h := (Int.lt_zpow_iff_log_lt (b := 10) (by norm_num) hpos (x := (p : ℤ) + e)).1
    exact h (by simpa using hlt)
  obtain ⟨k, hk⟩ : ∃ k : ℕ, e = Int.log 10 |(z : K) * 10 ^ e| + 1 - p + k :=
    ⟨(e - (Int.log 10 |(z : K) * 10 ^ e| + 1 - p)).toNat, by omega⟩
  apply toSignificant_eq_self (z * 10 ^ k)
  rw [significantUnit]
  conv_lhs => rw [hk]
  rw [zpow_add₀ hten, zpow_natCast]
  push_cast
  ring

/-- Rounding to significant digits never falls below the leading power of ten. -/
theorem zpow_log_le_abs_toSignificant {p : ℕ} (hp : 0 < p) {q : K} (hq : q ≠ 0) :
    (10 : K) ^ Int.log 10 |q| ≤ |toSignificant p q| := by
  have hten : (10 : K) ≠ 0 := by norm_num
  have hunit := significantUnit_pos p q
  have hgrid : (10 : K) ^ Int.log 10 |q| = ((10 ^ (p - 1) : ℤ) : K) * significantUnit p q := by
    have hexp : Int.log 10 |q| = ((p - 1 : ℕ) : ℤ) + (Int.log 10 |q| + 1 - p) := by omega
    conv_lhs => rw [hexp]
    rw [zpow_add₀ hten, zpow_natCast, significantUnit]
    push_cast
    rfl
  have hle : (10 : K) ^ Int.log 10 |q| ≤ |q| := by
    exact_mod_cast Int.zpow_log_le_self (b := 10) (by norm_num) (abs_pos.2 hq)
  calc (10 : K) ^ Int.log 10 |q|
      = roundTo (significantUnit p q) ((10 : K) ^ Int.log 10 |q|) := by
        rw [hgrid, roundTo_intCast_mul hunit.ne']
    _ ≤ roundTo (significantUnit p q) |q| := roundTo_mono hunit hle
    _ = |toSignificant p q| := roundTo_abs hunit q

theorem toSignificant_pos {p : ℕ} (hp : 0 < p) {q : K} (hq : 0 < q) : 0 < toSignificant p q := by
  have hlead := zpow_log_le_abs_toSignificant hp hq.ne'
  have habs : |toSignificant p q| = toSignificant p q := by
    rw [toSignificant, ← roundTo_abs (significantUnit_pos p q), abs_of_pos hq]
  rw [habs] at hlead
  exact (zpow_pos (by norm_num) _).trans_le hlead

theorem toSignificant_abs (p : ℕ) (q : K) : toSignificant p |q| = |toSignificant p q| := by
  rw [toSignificant, significantUnit_abs, roundTo_abs (significantUnit_pos p q), toSignificant]

theorem toSignificant_nonneg {p : ℕ} {q : K} (hq : 0 ≤ q) : 0 ≤ toSignificant p q := by
  rw [← abs_of_nonneg hq, toSignificant_abs]
  exact abs_nonneg _

/-- Rounding to significant digits goes at most to the next power of ten. -/
theorem abs_toSignificant_le_zpow (p : ℕ) (q : K) :
    |toSignificant p q| ≤ (10 : K) ^ (Int.log 10 |q| + 1) := by
  have hunit := significantUnit_pos p q
  have hgrid : (10 : K) ^ (Int.log 10 |q| + 1) = ((10 ^ p : ℤ) : K) * significantUnit p q := by
    have hexp : Int.log 10 |q| + 1 = (p : ℤ) + (Int.log 10 |q| + 1 - p) := by omega
    conv_lhs => rw [hexp]
    rw [zpow_add₀ (by norm_num), zpow_natCast, significantUnit]
    push_cast
    rfl
  have hle : |q| ≤ (10 : K) ^ (Int.log 10 |q| + 1) := by
    exact_mod_cast (Int.lt_zpow_succ_log_self (b := 10) (by norm_num) |q|).le
  calc |toSignificant p q| = roundTo (significantUnit p q) |q| := (roundTo_abs hunit q).symm
    _ ≤ roundTo (significantUnit p q) ((10 : K) ^ (Int.log 10 |q| + 1)) := roundTo_mono hunit hle
    _ = (10 : K) ^ (Int.log 10 |q| + 1) := by rw [hgrid, roundTo_intCast_mul hunit.ne']

theorem toSignificant_le_toSignificant_of_pos {p : ℕ} (hp : 0 < p) {q r : K} (hq : 0 < q)
    (hqr : q ≤ r) : toSignificant p q ≤ toSignificant p r := by
  have hr : 0 < r := hq.trans_le hqr
  have hlog : Int.log 10 |q| ≤ Int.log 10 |r| := by
    rw [abs_of_pos hq, abs_of_pos hr]
    exact Int.log_mono_right hq hqr
  rcases hlog.eq_or_lt with heq | hlt
  · have hunit : significantUnit p q = significantUnit p r := by
      rw [significantUnit, significantUnit, heq]
    rw [toSignificant, toSignificant, hunit]
    exact roundTo_mono (significantUnit_pos p r) hqr
  · have hlead := zpow_log_le_abs_toSignificant hp hr.ne'
    rw [abs_of_pos (toSignificant_pos hp hr)] at hlead
    calc toSignificant p q ≤ |toSignificant p q| := le_abs_self _
      _ ≤ (10 : K) ^ (Int.log 10 |q| + 1) := abs_toSignificant_le_zpow p q
      _ ≤ (10 : K) ^ Int.log 10 |r| := zpow_le_zpow_right₀ (by norm_num) (by omega)
      _ ≤ toSignificant p r := hlead

theorem toSignificant_mono {p : ℕ} (hp : 0 < p) {q r : K} (hqr : q ≤ r) :
    toSignificant p q ≤ toSignificant p r := by
  rcases lt_or_ge 0 q with hq | hq
  · exact toSignificant_le_toSignificant_of_pos hp hq hqr
  have hneg : 0 ≤ toSignificant p (-q) := toSignificant_nonneg (by linarith)
  rw [toSignificant_neg] at hneg
  rcases lt_or_ge r 0 with hr | hr
  · have h := toSignificant_le_toSignificant_of_pos hp (neg_pos.2 hr) (neg_le_neg hqr)
    rw [toSignificant_neg, toSignificant_neg] at h
    exact neg_le_neg_iff.1 h
  · have hpos : 0 ≤ toSignificant p r := toSignificant_nonneg hr
    linarith

/-! ### How far rounding moves a number -/

theorem abs_roundHalfAway_sub_le (q : K) : |(roundHalfAway q : K) - q| ≤ 1 / 2 := by
  rw [abs_le]
  rcases le_or_gt 0 q with hq | hq
  · have hle := Int.floor_le (q + 1 / 2)
    have hlt := Int.lt_floor_add_one (q + 1 / 2)
    rw [roundHalfAway_of_nonneg hq]
    constructor <;> linarith
  · have hle := Int.floor_le (-q + 1 / 2)
    have hlt := Int.lt_floor_add_one (-q + 1 / 2)
    rw [roundHalfAway_of_neg hq, Int.cast_neg]
    constructor <;> linarith

theorem abs_roundTo_sub_le {u : K} (hu : 0 < u) (q : K) : |roundTo u q - q| ≤ u / 2 := by
  have hsplit : roundTo u q - q = (roundHalfAway (q / u) - q / u) * u := by
    rw [roundTo, sub_mul, div_mul_cancel₀ q hu.ne']
  rw [hsplit, abs_mul, abs_of_pos hu]
  calc |(roundHalfAway (q / u) : K) - q / u| * u ≤ 1 / 2 * u :=
        mul_le_mul_of_nonneg_right (abs_roundHalfAway_sub_le _) hu.le
    _ = u / 2 := by ring

theorem significantUnit_le {p k : ℕ} {q : K} (hq : q ≠ 0) (hlt : |q| < 10 ^ k) :
    significantUnit p q ≤ 10 ^ ((k : ℤ) - p) := by
  have hlog : Int.log 10 |q| < k := by
    have h := (Int.lt_zpow_iff_log_lt (b := 10) (by norm_num) (abs_pos.2 hq) (x := (k : ℤ))).1
    exact h (by simpa using hlt)
  exact zpow_le_zpow_right₀ (by norm_num) (by omega)

/-- A number of fewer than `k` digits before the point keeps `p - k` of them after it. -/
theorem abs_toSignificant_sub_le {p k : ℕ} {q : K} (hlt : |q| < 10 ^ k) :
    |toSignificant p q - q| ≤ 10 ^ ((k : ℤ) - p) / 2 := by
  rcases eq_or_ne q 0 with rfl | hq
  · rw [toSignificant_zero, sub_zero, abs_zero]
    exact div_nonneg (zpow_nonneg (by norm_num) _) (by norm_num)
  · exact (abs_roundTo_sub_le (significantUnit_pos p q) q).trans
      (div_le_div_of_nonneg_right (significantUnit_le hq hlt) (by norm_num))

/-- Rounding first to the grid of `2 * m` points a unit and then to the integers moves the
tie point down by a quarter of a grid step. -/
theorem roundHalfAway_roundTo {m : ℕ} (hm : 0 < m) {t : K} (ht : 0 ≤ t) :
    roundHalfAway (roundTo (1 / (2 * (m : K))) t) = ⌊t + 1 / 2 + 1 / (4 * m)⌋ := by
  have hmK : (0 : K) < m := Nat.cast_pos.2 hm
  have hgrid : roundTo (1 / (2 * (m : K))) t = (⌊2 * m * t + 1 / 2⌋ : ℤ) / (2 * m) := by
    rw [roundTo, roundHalfAway_of_nonneg (by positivity)]
    have hdiv : t / (1 / (2 * (m : K))) + 1 / 2 = 2 * m * t + 1 / 2 := by
      field_simp
    rw [hdiv]
    ring
  have hnonneg : (0 : K) ≤ (⌊2 * m * t + 1 / 2⌋ : ℤ) / (2 * m) := by
    have h : (0 : K) ≤ (⌊2 * m * t + 1 / 2⌋ : ℤ) := by
      exact_mod_cast Int.floor_nonneg.2 (by positivity : (0 : K) ≤ 2 * m * t + 1 / 2)
    positivity
  rw [hgrid, roundHalfAway_of_nonneg hnonneg]
  have hleft : (⌊2 * m * t + 1 / 2⌋ : K) / (2 * m) + 1 / 2 =
      ((⌊2 * m * t + 1 / 2⌋ + m : ℤ) : K) / ((2 * m : ℕ) : K) := by
    push_cast
    field_simp
  have hright : t + 1 / 2 + 1 / (4 * m) =
      (2 * m * t + 1 / 2 + m) / ((2 * m : ℕ) : K) := by
    push_cast
    field_simp
    ring
  rw [hleft, hright, Int.floor_div_natCast, Int.floor_div_natCast, Int.floor_intCast,
    Int.floor_add_natCast]

/-- The floor of `x + d` for a small `d` is the floor of `x` exactly when no integer lies
between them. -/
theorem floor_add_eq_floor_iff {x d : K} (hd : 0 ≤ d) :
    ⌊x + d⌋ = ⌊x⌋ ↔ Int.fract x + d < 1 := by
  have hx := Int.floor_add_fract x
  have hf := Int.fract_nonneg x
  rw [Int.floor_eq_iff]
  constructor
  · rintro ⟨-, h⟩
    linarith
  · intro h
    constructor <;> linarith

theorem floor_le_floor_add {x d : K} (hd : 0 ≤ d) : ⌊x⌋ ≤ ⌊x + d⌋ :=
  Int.floor_le_floor (by linarith)

/-- The double rounding of `b + u` agrees with rounding `u` alone: `b + u` is outside the
band just below a tie, and at a tie it is on the same side of zero as `u`. -/
def AgreesWithTerm (w : K) (b : ℤ) (u : K) : Prop :=
  Int.fract (|b + u| + 1 / 2) + w / 2 < 1 ∧
    (Int.fract (|b + u| + 1 / 2) = 0 → 0 ≤ (b + u) * u)

instance (w : ℚ) (b : ℤ) (u : ℚ) : Decidable (AgreesWithTerm w b u) :=
  inferInstanceAs (Decidable (_ ∧ _))

theorem agreesWithTerm_neg {w : K} {b : ℤ} {u : K} :
    AgreesWithTerm w (-b) (-u) ↔ AgreesWithTerm w b u := by
  have hneg : ((-b : ℤ) : K) + -u = -(b + u) := by
    push_cast
    ring
  simp only [AgreesWithTerm, hneg, abs_neg, neg_mul_neg]

theorem roundHalfAway_roundTo_add_of_nonneg {m : ℕ} (hm : 0 < m) (b : ℤ) (u : K)
    (ht : 0 ≤ b + u) :
    roundHalfAway (roundTo (1 / (2 * (m : K))) (b + u)) = b + roundHalfAway u ↔
      AgreesWithTerm (1 / (2 * (m : K))) b u := by
  have hmK : (0 : K) < m := Nat.cast_pos.2 hm
  have hd : (0 : K) ≤ 1 / (4 * m) := by positivity
  have hhalf : (1 / (2 * m) : K) / 2 = 1 / (4 * m) := by
    field_simp
    norm_num
  rw [roundHalfAway_roundTo hm ht, AgreesWithTerm, abs_of_nonneg ht, hhalf]
  rcases le_or_gt 0 u with hu | hu
  · have hsum : b + roundHalfAway u = ⌊(b : K) + u + 1 / 2⌋ := by
      rw [roundHalfAway_of_nonneg hu, add_assoc, Int.floor_intCast_add]
    rw [hsum, floor_add_eq_floor_iff hd]
    exact ⟨fun h => ⟨h, fun _ => mul_nonneg ht hu⟩, fun h => h.1⟩
  · have hfloor := Int.floor_add_fract ((b : K) + u + 1 / 2)
    have hf := Int.fract_nonneg ((b : K) + u + 1 / 2)
    have hf1 := Int.fract_lt_one ((b : K) + u + 1 / 2)
    rw [roundHalfAway_of_neg hu]
    by_cases htie : Int.fract ((b : K) + u + 1 / 2) = 0
    · -- at a tie the two sides round away from zero in opposite directions
      have hterm : ⌊-u + 1 / 2⌋ = b - ⌊(b : K) + u + 1 / 2⌋ + 1 := by
        rw [Int.floor_eq_iff]
        push_cast
        constructor <;> linarith
      have hle := floor_le_floor_add (x := (b : K) + u + 1 / 2) hd
      have hne : (b : K) + u ≠ 0 := by
        intro h
        rw [h, zero_add] at htie
        have hfract : Int.fract (1 / 2 : K) = 1 / 2 := Int.fract_eq_self.2 (by norm_num)
        rw [hfract] at htie
        norm_num at htie
      have hpos : 0 < (b : K) + u := lt_of_le_of_ne ht hne.symm
      constructor
      · intro h
        omega
      · rintro ⟨-, h⟩
        exact absurd (h htie) (not_le.2 (mul_neg_of_pos_of_neg hpos hu))
    · have hfpos : 0 < Int.fract ((b : K) + u + 1 / 2) := lt_of_le_of_ne hf (Ne.symm htie)
      have hterm : ⌊-u + 1 / 2⌋ = b - ⌊(b : K) + u + 1 / 2⌋ := by
        rw [Int.floor_eq_iff]
        push_cast
        constructor <;> linarith
      have hsum : b + -⌊-u + 1 / 2⌋ = ⌊(b : K) + u + 1 / 2⌋ := by omega
      rw [hsum, floor_add_eq_floor_iff hd]
      exact ⟨fun h => ⟨h, fun h' => absurd h' htie⟩, fun h => h.1⟩

/-- Rounding the sum through the finer grid and rounding the term alone give the same
integer exactly when `AgreesWithTerm` holds. -/
theorem roundHalfAway_roundTo_add_iff {m : ℕ} (hm : 0 < m) (b : ℤ) (u : K) :
    roundHalfAway (roundTo (1 / (2 * (m : K))) (b + u)) = b + roundHalfAway u ↔
      AgreesWithTerm (1 / (2 * (m : K))) b u := by
  rcases le_or_gt 0 ((b : K) + u) with ht | ht
  · exact roundHalfAway_roundTo_add_of_nonneg hm b u ht
  · have hneg : ((-b : ℤ) : K) + -u = -(b + u) := by
      push_cast
      ring
    have h := roundHalfAway_roundTo_add_of_nonneg hm (-b) (-u) (by rw [hneg]; linarith)
    rw [hneg, roundTo_neg, roundHalfAway_neg, roundHalfAway_neg, agreesWithTerm_neg] at h
    rw [← h]
    omega

/-- A term that is an integer itself always agrees. -/
theorem agreesWithTerm_intCast {w : K} (hw : w < 1) (b z : ℤ) : AgreesWithTerm w b (z : K) := by
  have hfract : Int.fract (|(b : K) + z| + 1 / 2) = 1 / 2 := by
    rw [← Int.cast_add, ← Int.cast_abs, Int.fract_intCast_add]
    exact Int.fract_eq_self.2 (by norm_num)
  rw [AgreesWithTerm, hfract]
  exact ⟨by linarith, fun h => by norm_num at h⟩

end GridRounding
