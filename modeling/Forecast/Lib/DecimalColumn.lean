import Forecast.Lib.Rounding

/-!
# Numeric columns of a fixed scale

A `NUMERIC(p, s)` column keeps `s` decimals of what is written to it and refuses
what has more than `p` digits. A value on the scale is kept as it is; any other
moves by at most half a unit of the last digit, and by at most a unit when it was
rounded to significant digits before.
-/

open GridRounding

namespace DecimalColumn

/-- A value of a `NUMERIC(p, s)` column, in units of its last digit. -/
structure Column (p s : ℕ) where
  units : ℤ
  bound : |units| < 10 ^ p
deriving DecidableEq

/-- The value has at most `s` decimals. -/
def OnScale (s : ℕ) (q : ℚ) : Prop := ∃ z : ℤ, q * 10 ^ s = z

/-- The value with `s` decimals that is nearest. -/
def roundToScale (s : ℕ) (q : ℚ) : ℚ := roundHalfAway (q * 10 ^ s) / 10 ^ s

instance (s : ℕ) (q : ℚ) : Decidable (OnScale s q) :=
  decidable_of_iff ((q * 10 ^ s).den = 1) <| by
    constructor
    · exact fun h => ⟨(q * 10 ^ s).num, ((Rat.den_eq_one_iff _).1 h).symm⟩
    · rintro ⟨z, hz⟩
      rw [hz, Rat.den_intCast]

/-- How far writing a value to a column may move it. -/
def slack (s : ℕ) (q : ℚ) : ℚ := if OnScale s q then 0 else 1 / 10 ^ s

theorem slack_eq_zero {s : ℕ} {q : ℚ} (h : OnScale s q) : slack s q = 0 := if_pos h

theorem slack_le (s : ℕ) (q : ℚ) : slack s q ≤ 1 / 10 ^ s := by
  unfold slack
  split_ifs
  · positivity
  · exact le_rfl

@[simp] theorem roundToScale_zero (s : ℕ) : roundToScale s 0 = 0 := by simp [roundToScale]

theorem roundToScale_nonneg {s : ℕ} {q : ℚ} (hq : 0 ≤ q) : 0 ≤ roundToScale s q :=
  div_nonneg (Int.cast_nonneg (roundHalfAway_nonneg (by positivity))) (by positivity)

/-- Less than half a unit below a value on the scale nothing is rounded below it. -/
theorem OnScale.le_roundToScale {s : ℕ} {n q : ℚ} (hn : OnScale s n) (h : n - 1 / 10 ^ s / 2 < q) :
    n ≤ roundToScale s q := by
  obtain ⟨z, hz⟩ := hn
  have hten : (0 : ℚ) < 10 ^ s := by positivity
  have hscaled : (z : ℚ) - 1 / 2 < q * 10 ^ s := by
    have hmul := mul_lt_mul_of_pos_right h hten
    rw [sub_mul, hz, div_right_comm, div_mul_cancel₀ _ hten.ne'] at hmul
    exact hmul
  have hround := (abs_le.1 (abs_roundHalfAway_sub_le (q * 10 ^ s))).1
  have hlow : ((z - 1 : ℤ) : ℚ) < roundHalfAway (q * 10 ^ s) := by
    push_cast
    linarith
  have hle : z ≤ roundHalfAway (q * 10 ^ s) := by
    have hlt : z - 1 < roundHalfAway (q * 10 ^ s) := by exact_mod_cast hlow
    omega
  rw [roundToScale, le_div_iff₀ hten, hz]
  exact_mod_cast hle

/-- What is nearer than half a unit to a value on the scale is rounded to it. -/
theorem OnScale.roundToScale_eq {s : ℕ} {n q : ℚ} (hn : OnScale s n) (h : |q - n| < 1 / 10 ^ s / 2) :
    roundToScale s q = n := by
  have hneg : roundToScale s (-q) = -roundToScale s q := by
    rw [roundToScale, neg_mul, roundHalfAway_neg, Int.cast_neg, neg_div, ← roundToScale]
  obtain ⟨hlow, hhigh⟩ := abs_lt.1 h
  have hminus : OnScale s (-n) := by
    obtain ⟨z, hz⟩ := hn
    exact ⟨-z, by rw [neg_mul, hz, Int.cast_neg]⟩
  have habove := hn.le_roundToScale (q := q) (by linarith)
  have hbelow := hminus.le_roundToScale (q := -q) (by linarith)
  rw [hneg] at hbelow
  linarith

namespace OnScale

variable {s : ℕ} {a b : ℚ}

theorem zero : OnScale s 0 := ⟨0, by simp⟩

theorem add (ha : OnScale s a) (hb : OnScale s b) : OnScale s (a + b) := by
  obtain ⟨y, hy⟩ := ha
  obtain ⟨z, hz⟩ := hb
  exact ⟨y + z, by rw [add_mul, hy, hz, Int.cast_add]⟩

theorem neg (ha : OnScale s a) : OnScale s (-a) := by
  obtain ⟨z, hz⟩ := ha
  exact ⟨-z, by rw [neg_mul, hz, Int.cast_neg]⟩

theorem sub (ha : OnScale s a) (hb : OnScale s b) : OnScale s (a - b) := by
  rw [sub_eq_add_neg]
  exact ha.add hb.neg

theorem abs (ha : OnScale s a) : OnScale s |a| := by
  rcases abs_choice a with h | h <;> rw [h]
  · exact ha
  · exact ha.neg

/-- A value on the scale that has at most `d` digits is one of `d` significant digits. -/
theorem toSignificant_eq_self {d : ℕ} (ha : OnScale s a) (hlt : |a| * 10 ^ s < 10 ^ d) :
    toSignificant d a = a := by
  obtain ⟨z, hz⟩ := ha
  have hten : (10 : ℚ) ^ s ≠ 0 := by positivity
  have heq : a = z * (10 : ℚ) ^ (-(s : ℤ)) := by
    rw [← hz, zpow_neg, zpow_natCast, mul_assoc, mul_inv_cancel₀ hten, mul_one]
  have hbound : |z| < 10 ^ d := by
    have habs : ((|z| : ℤ) : ℚ) = |a| * 10 ^ s := by
      rw [Int.cast_abs, ← hz, abs_mul, abs_of_pos (by positivity : (0 : ℚ) < 10 ^ s)]
    have hcast : ((|z| : ℤ) : ℚ) < ((10 ^ d : ℤ) : ℚ) := by
      rw [habs]
      exact_mod_cast hlt
    exact_mod_cast hcast
  rw [heq, toSignificant_intCast_mul_zpow d z _ hbound]

end OnScale

namespace Column

variable {p s : ℕ}

/-- What reading the column returns. -/
def value (c : Column p s) : ℚ := c.units / 10 ^ s

def zero : Column p s := ⟨0, by positivity⟩

/-- Writing to the column: `s` decimals, or a numeric field overflow. -/
def store (q : ℚ) : Option (Column p s) :=
  if h : |roundHalfAway (q * 10 ^ s)| < 10 ^ p then some ⟨roundHalfAway (q * 10 ^ s), h⟩ else none

@[simp] theorem value_zero : (zero : Column p s).value = 0 := by simp [value, zero]

theorem value_mul (c : Column p s) : c.value * 10 ^ s = c.units :=
  div_mul_cancel₀ _ (by positivity)

theorem onScale_value (c : Column p s) : OnScale s c.value := ⟨c.units, c.value_mul⟩

theorem abs_value_mul_lt (c : Column p s) : |c.value| * 10 ^ s < 10 ^ p := by
  have h : |c.value| * 10 ^ s = ((|c.units| : ℤ) : ℚ) := by
    rw [Int.cast_abs, ← c.value_mul, abs_mul, abs_of_pos (by positivity : (0 : ℚ) < 10 ^ s)]
  rw [h]
  exact_mod_cast c.bound

theorem store_eq_some {q : ℚ} {c : Column p s} :
    store q = some c ↔ c.units = roundHalfAway (q * 10 ^ s) := by
  unfold store
  by_cases h : |roundHalfAway (q * 10 ^ s)| < 10 ^ p
  · rw [dif_pos h, Option.some_inj]
    constructor
    · rintro rfl
      rfl
    · intro hc
      cases c
      subst hc
      rfl
  · rw [dif_neg h]
    constructor
    · intro hc
      cases hc
    · intro hc
      exact absurd (hc ▸ c.bound) h

theorem store_value (c : Column p s) : store c.value = some c := by
  rw [store_eq_some, c.value_mul, roundHalfAway_intCast]

theorem value_injective : Function.Injective (value : Column p s → ℚ) := by
  intro c d h
  rw [← Option.some_inj, ← store_value c, ← store_value d, h]

/-- A column that holds a value holds every smaller one. -/
theorem exists_store_of_abs_le {q r : ℚ} (hqr : |q| ≤ |r|) {c : Column p s} (hr : store r = some c) :
    ∃ d : Column p s, store q = some d := by
  have hle : |roundHalfAway (q * 10 ^ s)| ≤ |roundHalfAway (r * 10 ^ s)| := by
    rw [← roundHalfAway_abs, ← roundHalfAway_abs, abs_mul, abs_mul]
    exact roundHalfAway_mono (mul_le_mul_of_nonneg_right hqr (abs_nonneg _))
  have hbound : |roundHalfAway (q * 10 ^ s)| < 10 ^ p := by
    refine hle.trans_lt ?_
    rw [← store_eq_some.1 hr]
    exact c.bound
  exact ⟨⟨_, hbound⟩, store_eq_some.2 rfl⟩

theorem value_of_store {q : ℚ} {c : Column p s} (h : store q = some c) (hq : OnScale s q) :
    c.value = q := by
  obtain ⟨z, hz⟩ := hq
  have hunits := store_eq_some.1 h
  rw [hz, roundHalfAway_intCast] at hunits
  rw [value, hunits, ← hz]
  exact mul_div_cancel_right₀ q (by positivity)

theorem value_of_store_eq {q : ℚ} {c : Column p s} (h : store q = some c) :
    c.value = roundToScale s q := by
  rw [value, store_eq_some.1 h, roundToScale]

theorem abs_value_sub_le {q : ℚ} {c : Column p s} (h : store q = some c) :
    |c.value - q| ≤ 1 / 10 ^ s / 2 := by
  have hten : (0 : ℚ) < 10 ^ s := by positivity
  have hsplit : c.value - q = (roundHalfAway (q * 10 ^ s) - q * 10 ^ s) / 10 ^ s := by
    rw [value, store_eq_some.1 h]
    field_simp
  rw [hsplit, abs_div, abs_of_pos hten, div_right_comm]
  exact div_le_div_of_nonneg_right (abs_roundHalfAway_sub_le _) hten.le

theorem abs_value_sub_le_slack {q : ℚ} {c : Column p s} (h : store q = some c) :
    |c.value - q| ≤ slack s q := by
  by_cases hq : OnScale s q
  · rw [value_of_store h hq, slack_eq_zero hq, sub_self, abs_zero]
  · have hunit : (0 : ℚ) ≤ 1 / 10 ^ s := by positivity
    rw [slack, if_neg hq]
    have hle := abs_value_sub_le h
    linarith

/-! ### Values that were rounded to significant digits -/

section Significant

variable {d : ℕ} {q : ℚ} {c : Column p s}

/-- A value that fits the column after rounding was not much larger before. -/
theorem abs_lt_of_store_significant (hs : s ≤ p) (hd : 0 < d)
    (h : store (toSignificant d q) = some c) : |q| < 10 ^ (p - s + 1) := by
  rcases eq_or_ne q 0 with rfl | hq
  · rw [abs_zero]
    positivity
  have hlead := zpow_log_le_abs_toSignificant hd hq
  have hten : (1 : ℚ) ≤ 10 ^ s := one_le_pow₀ (by norm_num)
  have hcolumn : |c.value| < 10 ^ (p - s) := by
    have hlt : |c.value| * 10 ^ s < 10 ^ (p - s) * 10 ^ s := by
      rw [← pow_add, Nat.sub_add_cancel hs]
      exact c.abs_value_mul_lt
    exact lt_of_mul_lt_mul_right hlt (by positivity)
  have hmoved := abs_value_sub_le h
  have hhalf : (1 : ℚ) / 10 ^ s / 2 ≤ 1 / 2 := by
    have hle : (1 : ℚ) / 10 ^ s ≤ 1 := (div_le_one (by positivity)).2 hten
    linarith
  have hone : (1 : ℚ) ≤ 10 ^ (p - s) := one_le_pow₀ (by norm_num)
  have hbound : |toSignificant d q| < 10 ^ (p - s + 1) := by
    have htriangle := abs_sub_abs_le_abs_sub (toSignificant d q) c.value
    rw [abs_sub_comm] at htriangle
    rw [pow_succ]
    linarith
  have hlog : Int.log 10 |q| < (p - s + 1 : ℕ) := by
    have hpow : (10 : ℚ) ^ Int.log 10 |q| < 10 ^ ((p - s + 1 : ℕ) : ℤ) := by
      rw [zpow_natCast]
      exact hlead.trans_lt hbound
    exact (zpow_lt_zpow_iff_right₀ (by norm_num)).1 hpow
  have hlt := (Int.lt_zpow_iff_log_lt (b := 10) (by norm_num) (abs_pos.2 hq)
    (x := ((p - s + 1 : ℕ) : ℤ))).2 hlog
  rw [zpow_natCast] at hlt
  exact_mod_cast hlt

/-- Both roundings together leave a value on the scale and move any other by a unit at most. -/
theorem abs_value_sub_le_slack_of_significant (hs : s ≤ p) (hd : p < d)
    (h : store (toSignificant d q) = some c) : |c.value - q| ≤ slack s q := by
  have hlt := abs_lt_of_store_significant hs (by omega) h
  by_cases hq : OnScale s q
  · have hdigits : |q| * 10 ^ s < 10 ^ d := by
      calc |q| * 10 ^ s < 10 ^ (p - s + 1) * 10 ^ s :=
            mul_lt_mul_of_pos_right hlt (by positivity)
        _ = 10 ^ (p + 1) := by rw [← pow_add]; congr 1; omega
        _ ≤ 10 ^ d := pow_le_pow_right₀ (by norm_num) hd
    rw [hq.toSignificant_eq_self hdigits] at h
    exact abs_value_sub_le_slack h
  · have hmoved := abs_value_sub_le h
    have hrounded := abs_toSignificant_sub_le (p := d) hlt
    have hexp : (10 : ℚ) ^ (((p - s + 1 : ℕ) : ℤ) - d) ≤ 1 / 10 ^ s := by
      rw [one_div, ← zpow_natCast, ← zpow_neg]
      exact zpow_le_zpow_right₀ (by norm_num) (by omega)
    have htriangle := abs_sub_le c.value (toSignificant d q) q
    rw [slack, if_neg hq]
    linarith

end Significant

end Column

end DecimalColumn
