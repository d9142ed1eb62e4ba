import Mathlib.Algebra.Order.Group.Int
import Mathlib.Data.Int.SuccPred
import Mathlib.Order.SuccPred.Archimedean

/-!
# Days and months of the Gregorian calendar

Days are numbered from the first of March of year 0 and months from that March,
so that the leap day is the last day of a year.
-/

namespace Calendar

/-- The first day of the year that begins in March of year `y`. -/
def firstOfYear (y : ℤ) : ℤ := 365 * y + y / 4 - y / 100 + y / 400

/-- The first day of month number `m`. -/
def firstOfMonth (m : ℤ) : ℤ := firstOfYear (m / 12) + (153 * (m % 12) + 2) / 5

def yearOf (day : ℤ) : ℤ :=
  let dayOfEra := day % 146097
  let century := min 3 (dayOfEra / 36524)
  let dayOfCentury := dayOfEra - century * 36524
  let cycle := dayOfCentury / 1461
  day / 146097 * 400 + century * 100 + cycle * 4 +
    min 3 ((dayOfCentury - cycle * 1461) / 365)

def monthOf (day : ℤ) : ℤ :=
  yearOf day * 12 + (5 * (day - firstOfYear (yearOf day)) + 2) / 153

/-- The number of a year written as `yearOf` finds it. -/
theorem firstOfYear_split {e c q y : ℤ} (hc : 0 ≤ c ∧ c ≤ 3) (hq : 0 ≤ q ∧ q ≤ 24)
    (hy : 0 ≤ y ∧ y ≤ 3) :
    firstOfYear (e * 400 + c * 100 + q * 4 + y) =
      e * 146097 + c * 36524 + q * 1461 + y * 365 := by
  have hfour : (e * 400 + c * 100 + q * 4 + y) / 4 = e * 100 + c * 25 + q := by omega
  have hcentury : (e * 400 + c * 100 + q * 4 + y) / 100 = e * 4 + c := by omega
  have hera : (e * 400 + c * 100 + q * 4 + y) / 400 = e := by omega
  rw [firstOfYear, hfour, hcentury, hera]
  omega

/-- The day after the last one of a year, when it is the last of a cycle or a century too. -/
theorem firstOfYear_split_succ {e c q y : ℤ} (hc : 0 ≤ c ∧ c ≤ 3) (hq : 0 ≤ q ∧ q ≤ 24)
    (hy : 0 ≤ y ∧ y ≤ 3) :
    firstOfYear (e * 400 + c * 100 + q * 4 + y + 1) =
      if y < 3 then e * 146097 + c * 36524 + q * 1461 + (y + 1) * 365
      else if q < 24 then e * 146097 + c * 36524 + (q + 1) * 1461
      else if c < 3 then e * 146097 + (c + 1) * 36524
      else (e + 1) * 146097 := by
  split_ifs with hyear hcycle hcentury
  · have hsplit := firstOfYear_split (e := e) hc hq (y := y + 1) (by omega)
    rwa [← add_assoc] at hsplit
  · have hsplit := firstOfYear_split (e := e) hc (q := q + 1) (y := 0) (by omega) (by omega)
    rw [show e * 400 + c * 100 + q * 4 + y + 1 = e * 400 + c * 100 + (q + 1) * 4 + 0 by omega]
    omega
  · have hsplit := firstOfYear_split (e := e) (c := c + 1) (q := 0) (y := 0) (by omega)
      (by omega) (by omega)
    rw [show e * 400 + c * 100 + q * 4 + y + 1 = e * 400 + (c + 1) * 100 + 0 * 4 + 0 by omega]
    omega
  · have hsplit := firstOfYear_split (e := e + 1) (c := 0) (q := 0) (y := 0) (by omega)
      (by omega) (by omega)
    rw [show e * 400 + c * 100 + q * 4 + y + 1 = (e + 1) * 400 + 0 * 100 + 0 * 4 + 0 by omega]
    omega

theorem firstOfYear_yearOf_le (day : ℤ) : firstOfYear (yearOf day) ≤ day := by
  unfold yearOf
  dsimp only
  rw [firstOfYear_split (by omega) (by omega) (by omega)]
  omega

theorem lt_firstOfYear_yearOf_succ (day : ℤ) : day < firstOfYear (yearOf day + 1) := by
  unfold yearOf
  dsimp only
  rw [firstOfYear_split_succ (by omega) (by omega) (by omega)]
  split_ifs <;> omega

theorem firstOfYear_succ_bounds (y : ℤ) :
    firstOfYear y + 365 ≤ firstOfYear (y + 1) ∧ firstOfYear (y + 1) ≤ firstOfYear y + 366 := by
  unfold firstOfYear
  omega

theorem monthOf_split (day : ℤ) :
    ∃ k, monthOf day = yearOf day * 12 + k ∧ 0 ≤ k ∧ k ≤ 11 ∧
      153 * k ≤ 5 * (day - firstOfYear (yearOf day)) + 2 ∧
      5 * (day - firstOfYear (yearOf day)) + 2 < 153 * (k + 1) := by
  have hle := firstOfYear_yearOf_le day
  have hlt := lt_firstOfYear_yearOf_succ day
  have hyear := firstOfYear_succ_bounds (yearOf day)
  refine ⟨(5 * (day - firstOfYear (yearOf day)) + 2) / 153, rfl, ?_, ?_, ?_, ?_⟩ <;> omega

theorem firstOfMonth_monthOf_le (day : ℤ) : firstOfMonth (monthOf day) ≤ day := by
  obtain ⟨k, hmonth, hk, hk', hfrom, -⟩ := monthOf_split day
  have hyear : (yearOf day * 12 + k) / 12 = yearOf day := by omega
  have hindex : (yearOf day * 12 + k) % 12 = k := by omega
  rw [firstOfMonth, hmonth, hyear, hindex]
  omega

theorem lt_firstOfMonth_monthOf_succ (day : ℤ) : day < firstOfMonth (monthOf day + 1) := by
  obtain ⟨k, hmonth, hk, hk', -, hto⟩ := monthOf_split day
  have hlt := lt_firstOfYear_yearOf_succ day
  rw [firstOfMonth, hmonth]
  by_cases hlast : k = 11
  · have hyear : (yearOf day * 12 + k + 1) / 12 = yearOf day + 1 := by omega
    have hindex : (yearOf day * 12 + k + 1) % 12 = 0 := by omega
    rw [hyear, hindex]
    omega
  · have hyear : (yearOf day * 12 + k + 1) / 12 = yearOf day := by omega
    have hindex : (yearOf day * 12 + k + 1) % 12 = k + 1 := by omega
    rw [hyear, hindex]
    omega

theorem firstOfMonth_lt_succ (m : ℤ) : firstOfMonth m < firstOfMonth (m + 1) := by
  have hyear := firstOfYear_succ_bounds (m / 12)
  unfold firstOfMonth
  by_cases hlast : m % 12 = 11
  · rw [show (m + 1) / 12 = m / 12 + 1 by omega]
    omega
  · rw [show (m + 1) / 12 = m / 12 by omega]
    omega

theorem firstOfMonth_le {m m' : ℤ} (h : m ≤ m') : firstOfMonth m ≤ firstOfMonth m' := by
  obtain ⟨k, rfl⟩ := Int.le.dest h
  induction k with
  | zero => simp
  | succ k ih =>
    have hle := ih (by omega)
    have hlt := firstOfMonth_lt_succ (m + k)
    rw [Nat.cast_add_one, ← add_assoc]
    omega

theorem le_monthOf_iff {m day : ℤ} : m ≤ monthOf day ↔ firstOfMonth m ≤ day := by
  constructor
  · intro h
    exact (firstOfMonth_le h).trans (firstOfMonth_monthOf_le day)
  · intro h
    by_contra hlt
    have hnext : firstOfMonth (monthOf day + 1) ≤ firstOfMonth m := firstOfMonth_le (by omega)
    have hday := lt_firstOfMonth_monthOf_succ day
    omega

theorem monthOf_le {a b : ℤ} (hab : a ≤ b) : monthOf a ≤ monthOf b :=
  le_monthOf_iff.2 ((firstOfMonth_monthOf_le a).trans hab)

theorem monthOf_eq {m day : ℤ} (hfrom : firstOfMonth m ≤ day)
    (hto : day < firstOfMonth (m + 1)) : monthOf day = m := by
  have hle := le_monthOf_iff.2 hfrom
  have hlt : ¬m + 1 ≤ monthOf day := fun h => absurd (le_monthOf_iff.1 h) (not_le.2 hto)
  omega

/-- The first day of a later day's month is not earlier. -/
theorem firstOfMonth_monthOf_mono {a b : ℤ} (hab : a ≤ b) :
    firstOfMonth (monthOf a) ≤ firstOfMonth (monthOf b) :=
  firstOfMonth_le (monthOf_le hab)

/-! ### The length of a month -/

def daysInMonth (m : ℤ) : ℤ := firstOfMonth (m + 1) - firstOfMonth m

/-- Two years in a row have one leap day at most. -/
theorem firstOfYear_add_two_le (y : ℤ) : firstOfYear (y + 2) ≤ firstOfYear y + 731 := by
  unfold firstOfYear
  omega

theorem daysInMonth_february {m : ℤ} (h : m % 12 = 11) :
    daysInMonth m = firstOfYear (m / 12 + 1) - firstOfYear (m / 12) - 337 := by
  unfold daysInMonth firstOfMonth
  rw [show (m + 1) / 12 = m / 12 + 1 by omega, show (m + 1) % 12 = 0 by omega, h]
  omega

/-- A month but February has the same length in every year. -/
theorem daysInMonth_of_ne_february {m m' : ℤ} (h : m' % 12 = m % 12) (hne : m % 12 ≠ 11) :
    daysInMonth m' = daysInMonth m := by
  unfold daysInMonth firstOfMonth
  rw [show (m + 1) / 12 = m / 12 by omega, show (m' + 1) / 12 = m' / 12 by omega,
    show (m + 1) % 12 = m % 12 + 1 by omega, show (m' + 1) % 12 = m % 12 + 1 by omega, h]
  omega

end Calendar
