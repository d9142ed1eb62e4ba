import Forecast.Lib.Rounding

/-!
# Adding to a number of significant digits

A rounded number is left alone when it is rounded again. Adding a smaller amount
to it and rounding gives the number back exactly when the amount is less than
half a unit of its last digit; dividing it by a number that is not close to one moves it.
-/

namespace GridRounding

variable {K : Type*} [Field K] [LinearOrder K] [IsStrictOrderedRing K] [FloorRing K]
variable {p : ℕ} {t d : K}

theorem toSignificant_toSignificant (hp : 0 < p) (q : K) :
    toSignificant p (toSignificant p q) = toSignificant p q := by
  have hunit := significantUnit_pos p q
  have hten : (10 : K) ≠ 0 := by norm_num
  set m := roundHalfAway (q / significantUnit p q) with hm
  have hvalue : toSignificant p q = m * (10 : K) ^ (Int.log 10 |q| + 1 - p) := rfl
  have hle : |m| ≤ 10 ^ p := by
    have hzpow := abs_toSignificant_le_zpow p q
    have hsplit : (10 : K) ^ (Int.log 10 |q| + 1) = 10 ^ p * significantUnit p q := by
      rw [significantUnit, ← zpow_natCast, ← zpow_add₀ hten]
      congr 1
      omega
    rw [hsplit, toSignificant, roundTo, abs_mul, abs_of_pos hunit] at hzpow
    have hcast := le_of_mul_le_mul_right hzpow hunit
    exact_mod_cast hcast
  rcases hle.lt_or_eq with hlt | heq
  · rw [hvalue, toSignificant_intCast_mul_zpow p m _ hlt]
  · -- the digits carried over: one digit of the next power of ten
    have hone : |(1 : ℤ)| < 10 ^ p := by
      rw [abs_one]
      exact one_lt_pow₀ (by norm_num) hp.ne'
    have hpower := toSignificant_intCast_mul_zpow (K := K) p 1 (Int.log 10 |q| + 1) hone
    rw [Int.cast_one, one_mul] at hpower
    have hcarry : (10 : K) ^ p * 10 ^ (Int.log 10 |q| + 1 - p) = 10 ^ (Int.log 10 |q| + 1) := by
      rw [← zpow_natCast, ← zpow_add₀ hten]
      congr 1
      omega
    rcases abs_eq (by positivity) |>.1 heq with hpos | hneg
    · rw [hvalue, hpos, Int.cast_pow, Int.cast_ofNat, hcarry, hpower]
    · rw [hvalue, hneg, Int.cast_neg, Int.cast_pow, Int.cast_ofNat, neg_mul, hcarry,
        toSignificant_neg, hpower]

theorem toSignificant_eq_zero_iff (hp : 0 < p) {q : K} : toSignificant p q = 0 ↔ q = 0 := by
  constructor
  · intro h
    by_contra hq
    have hlead := zpow_log_le_abs_toSignificant hp hq
    rw [h, abs_zero] at hlead
    exact absurd hlead (not_le.2 (zpow_pos (by norm_num) _))
  · rintro rfl
    exact toSignificant_zero p

/-- The unit of the last of `p` digits, relative to the number. -/
theorem significantUnit_mul_le {q : K} (hq : q ≠ 0) : significantUnit p q * 10 ^ p ≤ 10 * |q| := by
  have hten : (10 : K) ≠ 0 := by norm_num
  have hlead : (10 : K) ^ Int.log 10 |q| ≤ |q| := by
    exact_mod_cast Int.zpow_log_le_self (b := 10) (by norm_num) (abs_pos.2 hq)
  calc significantUnit p q * 10 ^ p = 10 * 10 ^ Int.log 10 |q| := by
        rw [significantUnit, ← zpow_natCast, ← zpow_add₀ hten, ← zpow_one_add₀ hten]
        congr 1
        omega
    _ ≤ 10 * |q| := mul_le_mul_of_nonneg_left hlead (by norm_num)

/-- A quotient rounds back to the dividend only when the divisor is close to one. -/
theorem abs_sub_one_le_of_toSignificant_div {t b : K} (ht : t ≠ 0) (hb : 0 < b)
    (h : toSignificant p (t / b) = t) : |b - 1| * 10 ^ p ≤ 5 := by
  have hquotient : t / b ≠ 0 := div_ne_zero ht hb.ne'
  have hround := abs_roundTo_sub_le (significantUnit_pos p (t / b)) (t / b)
  have hmoved : roundTo (significantUnit p (t / b)) (t / b) - t / b = (b - 1) * (t / b) := by
    rw [show roundTo (significantUnit p (t / b)) (t / b) = t from h, sub_one_mul,
      mul_div_cancel₀ t hb.ne']
  rw [hmoved, abs_mul] at hround
  have hunit := significantUnit_mul_le (p := p) hquotient
  have hpow : (0 : K) ≤ 10 ^ p := by positivity
  have hpos : 0 < |t / b| := abs_pos.2 hquotient
  have hscaled : |b - 1| * 10 ^ p * |t / b| ≤ 5 * |t / b| := by
    calc |b - 1| * 10 ^ p * |t / b| = |b - 1| * |t / b| * 10 ^ p := by ring
      _ ≤ significantUnit p (t / b) / 2 * 10 ^ p := mul_le_mul_of_nonneg_right hround hpow
      _ = significantUnit p (t / b) * 10 ^ p / 2 := by ring
      _ ≤ 10 * |t / b| / 2 := div_le_div_of_nonneg_right hunit (by norm_num)
      _ = 5 * |t / b| := by ring
  exact le_of_mul_le_mul_right hscaled hpos

section Add

variable (ht : toSignificant p t = t) (hpos : 0 < t) (hd : 0 ≤ d)
include ht hpos hd

/-- A positive rounded number is a whole number of its units, and below `10 ^ p` of them. -/
theorem log_add_of_lt (hlt : d < significantUnit p t) :
    Int.log 10 |t + d| = Int.log 10 |t| := by
  have hunit := significantUnit_pos p t
  have hten : (10 : K) ≠ 0 := by norm_num
  have habs : |t + d| = t + d := abs_of_nonneg (by linarith)
  set m := roundHalfAway (t / significantUnit p t) with hm
  have hvalue : t = m * significantUnit p t := ht.symm
  have htop : (10 : K) ^ (Int.log 10 |t| + 1) = 10 ^ p * significantUnit p t := by
    rw [significantUnit, ← zpow_natCast, ← zpow_add₀ hten]
    congr 1
    omega
  have hbelow : t < (10 : K) ^ (Int.log 10 |t| + 1) := by
    have hlog := Int.lt_zpow_succ_log_self (b := 10) (by norm_num) |t|
    rw [abs_of_pos hpos] at hlog ⊢
    exact_mod_cast hlog
  have hdigits : m + 1 ≤ 10 ^ p := by
    rw [htop] at hbelow
    conv_lhs at hbelow => rw [hvalue]
    have hcast := lt_of_mul_lt_mul_right hbelow hunit.le
    exact Int.add_one_le_iff.2 (by exact_mod_cast hcast)
  have hsum : t + d < (10 : K) ^ (Int.log 10 |t| + 1) := by
    calc t + d < m * significantUnit p t + significantUnit p t := by linarith
      _ = ((m + 1 : ℤ) : K) * significantUnit p t := by push_cast; ring
      _ ≤ (10 ^ p : K) * significantUnit p t :=
          mul_le_mul_of_nonneg_right (by exact_mod_cast hdigits) hunit.le
      _ = (10 : K) ^ (Int.log 10 |t| + 1) := htop.symm
  rw [habs]
  apply le_antisymm
  · apply Int.lt_add_one_iff.1
    apply (Int.lt_zpow_iff_log_lt (b := 10) (by norm_num) (by linarith)).1
    exact_mod_cast hsum
  · rw [abs_of_pos hpos]
    exact Int.log_mono_right hpos (by linarith)

theorem toSignificant_add_of_lt (hlt : d < significantUnit p t) :
    toSignificant p (t + d) = t + roundTo (significantUnit p t) d := by
  have hunit := significantUnit_pos p t
  have hsame : significantUnit p (t + d) = significantUnit p t := by
    rw [significantUnit, log_add_of_lt ht hpos hd hlt]
    rfl
  set m := roundHalfAway (t / significantUnit p t) with hm
  have hvalue : t = m * significantUnit p t := ht.symm
  have hmnonneg : (0 : K) ≤ m := by
    rw [hm]
    exact_mod_cast roundHalfAway_nonneg (div_nonneg hpos.le hunit.le)
  have hdnonneg : 0 ≤ d / significantUnit p t := div_nonneg hd hunit.le
  have hquotient : (t + d) / significantUnit p t = m + d / significantUnit p t := by
    rw [add_div]
    congr 1
    exact (div_eq_iff hunit.ne').2 hvalue
  have hround : roundHalfAway (m + d / significantUnit p t) =
      m + roundHalfAway (d / significantUnit p t) := by
    rw [roundHalfAway_of_nonneg (by linarith), roundHalfAway_of_nonneg hdnonneg, add_assoc,
      Int.floor_intCast_add]
  rw [toSignificant, roundTo, hsame, hquotient, hround, Int.cast_add, add_mul, ← hvalue, roundTo]

/-- What is added is lost exactly when it is less than half a unit of the last digit. -/
theorem toSignificant_add_eq_self_iff (hp : 0 < p) :
    toSignificant p (t + d) = t ↔ 2 * d < significantUnit p t := by
  have hunit := significantUnit_pos p t
  have hlost : ∀ {e : K}, 0 ≤ e → e < significantUnit p t →
      (toSignificant p (t + e) = t ↔ 2 * e < significantUnit p t) := by
    intro e he hlt
    have hzero : roundTo (significantUnit p t) e = 0 ↔
        roundHalfAway (e / significantUnit p t) = 0 := by
      rw [roundTo, mul_eq_zero, Int.cast_eq_zero]
      exact or_iff_left hunit.ne'
    have hhalf : roundHalfAway (e / significantUnit p t) = 0 ↔ 2 * e < significantUnit p t := by
      have hquotient : 0 ≤ e / significantUnit p t := div_nonneg he hunit.le
      rw [roundHalfAway_of_nonneg hquotient, Int.floor_eq_zero_iff, Set.mem_Ico]
      have hlt' : e / significantUnit p t + 1 / 2 < 1 ↔ e / significantUnit p t < 1 / 2 := by
        constructor <;> intro h <;> linarith
      rw [hlt', div_lt_iff₀ hunit]
      constructor
      · rintro ⟨-, h⟩
        linarith
      · intro h
        exact ⟨by linarith, by linarith⟩
    rw [toSignificant_add_of_lt ht hpos he hlt, add_eq_left, hzero, hhalf]
  by_cases hlt : d < significantUnit p t
  · exact hlost hd hlt
  · -- half a unit is not lost, so neither is anything larger
    have hhalf : ¬ toSignificant p (t + significantUnit p t / 2) = t := by
      rw [hlost (by linarith) (by linarith)]
      linarith
    constructor
    · intro heq
      exfalso
      apply hhalf
      apply le_antisymm
      · calc toSignificant p (t + significantUnit p t / 2)
            ≤ toSignificant p (t + d) := toSignificant_mono hp (by linarith)
          _ = t := heq
      · calc t = toSignificant p t := ht.symm
          _ ≤ toSignificant p (t + significantUnit p t / 2) := toSignificant_mono hp (by linarith)
    · intro h
      linarith

end Add

end GridRounding
