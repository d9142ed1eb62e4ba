import Forecast.Lib.Binary64

/-!
# Decimals of the billing service and their database columns

`Prisma.Decimal` arithmetic keeps 20 significant digits with ties away from
zero; a `DECIMAL(18,6)` column keeps six decimals of what is written to it. A
stored value is an integer number of micros within the column's bound.
-/

open GridRounding

namespace Forecast

/-- The exact value of a `Prisma.Decimal`. -/
abbrev Decimal := ℚ

namespace Decimal

/-- The default precision of the decimal library, which the repository never changes. -/
def precision : ℕ := 20

def plus (x y : Decimal) : Decimal := toSignificant precision (x + y)

def minus (x y : Decimal) : Decimal := toSignificant precision (x - y)

def times (x y : Decimal) : Decimal := toSignificant precision (x * y)

def dividedBy (x y : Decimal) : Decimal := toSignificant precision (x / y)

/-- The decimal digits of `toFixed`; the sign is that of the unrounded value. -/
def toFixed (x : Decimal) (places : ℕ) : String :=
  let scaled := (roundHalfAway (|x| * 10 ^ places)).toNat
  let fraction := toString (scaled % 10 ^ places)
  (if x < 0 then "-" else "") ++ toString (scaled / 10 ^ places) ++ "." ++
    String.ofList (List.replicate (places - fraction.length) '0') ++ fraction

/-- The binary64 number that prints as `x`, or that a product `x` is rounded to. -/
def toDouble (x : Decimal) : Decimal := Binary64.round x

/-- `Math.round(amount * 100)` on binary64 numbers. -/
def cents (amount : Decimal) : ℤ := ⌊toDouble (toDouble amount * 100) + 1 / 2⌋

end Decimal

def microsPerUnit : ℚ := 10 ^ 6

/-- A value of a `DECIMAL(18,6)` column. -/
structure Numeric where
  micros : ℤ
  bound : |micros| < 10 ^ 18
deriving DecidableEq

namespace Numeric

/-- What reading the column returns. -/
def toDecimal (n : Numeric) : Decimal := n.micros / microsPerUnit

def zero : Numeric := ⟨0, by norm_num⟩

/-- Writing to the column: six decimals, or a numeric field overflow. -/
@[irreducible] def store (q : Decimal) : Option Numeric :=
  if h : |roundHalfAway (q * microsPerUnit)| < 10 ^ 18 then
    some ⟨roundHalfAway (q * microsPerUnit), h⟩
  else none

@[simp] theorem zero_micros : zero.micros = 0 := rfl

theorem toDecimal_mul_micros (n : Numeric) : n.toDecimal * microsPerUnit = n.micros := by
  unfold toDecimal microsPerUnit
  norm_num

theorem toDecimal_le_iff {m n : Numeric} : m.toDecimal ≤ n.toDecimal ↔ m.micros ≤ n.micros := by
  have hpos : (0 : ℚ) < microsPerUnit := by norm_num [microsPerUnit]
  rw [toDecimal, toDecimal, div_le_div_iff_of_pos_right hpos]
  exact Int.cast_le

theorem store_eq_some_iff {q : Decimal} {n : Numeric} :
    store q = some n ↔ n.micros = roundHalfAway (q * microsPerUnit) := by
  unfold store
  split_ifs with h
  · constructor
    · intro hn
      cases hn
      rfl
    · intro hn
      cases n
      simp_all
  · constructor
    · intro hn
      cases hn
    · intro hn
      exact absurd (hn ▸ n.bound) h

@[simp] theorem store_toDecimal (n : Numeric) : store n.toDecimal = some n := by
  rw [store_eq_some_iff, toDecimal_mul_micros, roundHalfAway_intCast]

end Numeric

/-- The grid, in micros, on which a 20-digit result `q` lies. -/
def gridMicros (q : Decimal) : ℚ := microsPerUnit * significantUnit Decimal.precision q

theorem toSignificant_mul_micros (q : Decimal) :
    toSignificant Decimal.precision q * microsPerUnit =
      roundTo (gridMicros q) (q * microsPerUnit) := by
  have hne : microsPerUnit ≠ 0 := by norm_num [microsPerUnit]
  rw [mul_comm, toSignificant, mul_roundTo hne, gridMicros, mul_comm q]

/-- Below ten trillion units the grid is at most a tenth of a micro and divides it evenly. -/
theorem gridMicros_of_lt {q : Decimal} (hq : |q| < 10 ^ 13) :
    ∃ m : ℕ, 0 < m ∧ gridMicros q = 1 / (2 * (m : ℚ)) := by
  have hlog : Int.log 10 |q| < 13 := by
    rcases eq_or_ne q 0 with rfl | hq0
    · simp
    · apply (Int.lt_zpow_iff_log_lt (b := 10) (by norm_num) (abs_pos.2 hq0)).1
      exact_mod_cast hq
  obtain ⟨k, hk⟩ : ∃ k : ℕ, Int.log 10 |q| + 1 - 20 + 6 = -(k + 1 : ℤ) :=
    ⟨(12 - Int.log 10 |q|).toNat, by omega⟩
  refine ⟨5 * 10 ^ k, by positivity, ?_⟩
  have hten : (10 : ℚ) ≠ 0 := by norm_num
  have hexp : gridMicros q = (10 : ℚ) ^ (Int.log 10 |q| + 1 - 20 + 6) := by
    rw [zpow_add₀ hten, mul_comm]
    rfl
  rw [hexp, hk, zpow_neg, show (k + 1 : ℤ) = ((k + 1 : ℕ) : ℤ) by push_cast; rfl, zpow_natCast,
    pow_succ]
  push_cast
  field_simp
  norm_num

/-- What can be written to the column stays below ten trillion units. -/
theorem abs_lt_of_store_toSignificant {q : Decimal} {n : Numeric}
    (h : Numeric.store (toSignificant Decimal.precision q) = some n) : |q| < 10 ^ 13 := by
  by_contra hge
  rw [not_lt] at hge
  have hq0 : q ≠ 0 := by
    rintro rfl
    norm_num at hge
  have hlog : 13 ≤ Int.log 10 |q| := by
    apply (Int.zpow_le_iff_le_log (b := 10) (by norm_num) (abs_pos.2 hq0)).1
    exact_mod_cast hge
  have hbig : (10 : ℚ) ^ 13 ≤ |toSignificant Decimal.precision q| := by
    refine le_trans ?_ (zpow_log_le_abs_toSignificant (p := Decimal.precision) (by decide) hq0)
    calc (10 : ℚ) ^ 13 = (10 : ℚ) ^ (13 : ℤ) := by norm_num
      _ ≤ (10 : ℚ) ^ Int.log 10 |q| := zpow_le_zpow_right₀ (by norm_num) hlog
  have hstored : (10 : ℚ) ^ 19 ≤ |toSignificant Decimal.precision q * microsPerUnit| := by
    rw [abs_mul]
    calc (10 : ℚ) ^ 19 = 10 ^ 13 * |microsPerUnit| := by norm_num [microsPerUnit]
      _ ≤ _ := mul_le_mul_of_nonneg_right hbig (abs_nonneg _)
  have hround : (10 ^ 19 : ℤ) ≤ |roundHalfAway (toSignificant Decimal.precision q * microsPerUnit)| := by
    rw [← roundHalfAway_abs, ← roundHalfAway_intCast (K := ℚ) (10 ^ 19)]
    apply roundHalfAway_mono
    exact_mod_cast hstored
  have hbound := n.bound
  rw [Numeric.store_eq_some_iff.1 h] at hbound
  omega

/-- Adding `a` to the stored value `b` and storing the sum changes the stored value by
exactly what storing `a` on its own gives. -/
def RoundsAlike (b : Numeric) (a : Decimal) : Prop :=
  AgreesWithTerm (gridMicros (b.toDecimal + a)) b.micros (a * microsPerUnit)

instance (b : Numeric) (a : Decimal) : Decidable (RoundsAlike b a) :=
  inferInstanceAs (Decidable (AgreesWithTerm _ _ _))

theorem toDecimal_add_mul_micros (b : Numeric) (a : Decimal) :
    (b.toDecimal + a) * microsPerUnit = b.micros + a * microsPerUnit := by
  rw [add_mul, Numeric.toDecimal_mul_micros]

theorem store_plus_micros_iff {b after stored : Numeric} {a : Decimal}
    (hafter : Numeric.store (Decimal.plus b.toDecimal a) = some after)
    (hstored : Numeric.store a = some stored) :
    after.micros = b.micros + stored.micros ↔ RoundsAlike b a := by
  obtain ⟨m, hm, hgrid⟩ := gridMicros_of_lt (abs_lt_of_store_toSignificant hafter)
  rw [Numeric.store_eq_some_iff.1 hafter, Numeric.store_eq_some_iff.1 hstored, Decimal.plus,
    toSignificant_mul_micros, RoundsAlike, hgrid, toDecimal_add_mul_micros]
  exact roundHalfAway_roundTo_add_iff hm b.micros _

/-- A stored amount never meets the exceptional cases. -/
theorem roundsAlike_toDecimal {b after : Numeric} (a : Numeric)
    (hafter : Numeric.store (Decimal.plus b.toDecimal a.toDecimal) = some after) :
    RoundsAlike b a.toDecimal := by
  obtain ⟨m, hm, hgrid⟩ := gridMicros_of_lt (abs_lt_of_store_toSignificant hafter)
  have hm1 : (1 : ℚ) ≤ m := by exact_mod_cast hm
  rw [RoundsAlike, Numeric.toDecimal_mul_micros, hgrid]
  apply agreesWithTerm_intCast
  rw [div_lt_one (by linarith)]
  linarith

/-- Storing a sum never takes it past a stored value it does not exceed. -/
theorem store_plus_le {b c after : Numeric} {a : Decimal} (hle : b.toDecimal + a ≤ c.toDecimal)
    (hafter : Numeric.store (Decimal.plus b.toDecimal a) = some after) :
    after.micros ≤ c.micros := by
  obtain ⟨m, hm, hgrid⟩ := gridMicros_of_lt (abs_lt_of_store_toSignificant hafter)
  have hmQ : (0 : ℚ) < m := Nat.cast_pos.2 hm
  have hpos : (0 : ℚ) < 1 / (2 * (m : ℚ)) := by positivity
  have hle' : (b.toDecimal + a) * microsPerUnit ≤ c.micros := by
    rw [← c.toDecimal_mul_micros]
    exact mul_le_mul_of_nonneg_right hle (by norm_num [microsPerUnit])
  have hmul : (c.micros : ℚ) = ((c.micros * (2 * m) : ℤ) : ℚ) * (1 / (2 * (m : ℚ))) := by
    push_cast
    field_simp
  have hround := roundTo_mono hpos hle'
  rw [hmul, roundTo_intCast_mul hpos.ne', ← hmul] at hround
  rw [Numeric.store_eq_some_iff.1 hafter, Decimal.plus, toSignificant_mul_micros, hgrid]
  simpa using roundHalfAway_mono hround

/-- A difference of at most 20 digits in micros is exact. -/
theorem minus_micros {x y : ℤ} (h : |x - y| < 10 ^ 20) :
    Decimal.minus (x / microsPerUnit) (y / microsPerUnit) = (x - y : ℤ) / microsPerUnit := by
  have hsub : (x : ℚ) / microsPerUnit - y / microsPerUnit =
      ((x - y : ℤ) : ℚ) * (10 : ℚ) ^ (-6 : ℤ) := by
    simp only [microsPerUnit]
    push_cast
    norm_num
    ring
  rw [Decimal.minus, hsub, toSignificant_intCast_mul_zpow Decimal.precision _ _ h]
  simp only [microsPerUnit]
  norm_num
  ring

/-- Differences of stored values are exact. -/
theorem minus_toDecimal (b a : Numeric) :
    Decimal.minus b.toDecimal a.toDecimal = b.toDecimal - a.toDecimal := by
  have hb := abs_lt.1 b.bound
  have ha := abs_lt.1 a.bound
  have hdiff : |b.micros - a.micros| < 10 ^ 20 := by
    rw [abs_lt]
    norm_num at hb ha ⊢
    omega
  rw [Numeric.toDecimal, Numeric.toDecimal, minus_micros hdiff, Int.cast_sub, sub_div]

end Forecast
