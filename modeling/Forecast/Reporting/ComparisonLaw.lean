import Forecast.Reporting.DateRanges

/-!
# The range that a report is compared with

The previous period ends the day before the current one begins and has as many days. A year
earlier a day keeps its month and its day of the month, unless it is the 29th of February: that
one is carried over into March, where the end of February would be its place.
-/

namespace Forecast.Reporting

open Calendar

/-! ### A day by its year, month and day -/

theorem newDate_fullYear (day : ℤ) :
    newDate (fullYear day) (monthIndex day) (dayOfMonth day) = day := by
  have hmonth : 12 * fullYear day + monthIndex day - 2 = monthOf day := by
    unfold fullYear monthIndex
    omega
  rw [newDate, hmonth, dayOfMonth]
  omega

theorem monthOf_newDate {year month date : ℤ} (hdate : 1 ≤ date)
    (hlast : date ≤ daysInMonth (12 * year + month - 2)) :
    monthOf (newDate year month date) = 12 * year + month - 2 := by
  unfold daysInMonth at hlast
  apply monthOf_eq
  · rw [newDate]
    omega
  · rw [newDate]
    omega

theorem formatDate_newDate {year month date : ℤ} (hmonth : 0 ≤ month ∧ month ≤ 11)
    (hdate : 1 ≤ date) (hlast : date ≤ daysInMonth (12 * year + month - 2)) :
    formatDate (newDate year month date) =
      toString year ++ "-" ++ padStart2 (month + 1) ++ "-" ++ padStart2 date := by
  have hindex := monthOf_newDate hdate hlast
  have hyear : fullYear (newDate year month date) = year := by
    rw [fullYear, hindex]
    omega
  have hmonthIndex : monthIndex (newDate year month date) = month := by
    rw [monthIndex, hindex]
    omega
  have hday : dayOfMonth (newDate year month date) = date := by
    rw [dayOfMonth, hindex, newDate]
    omega
  rw [formatDate, hyear, hmonthIndex, hday]

/-- The 29th of February. -/
def isLeapDay (day : ℤ) : Prop := monthIndex day = 1 ∧ dayOfMonth day = 29

instance (day : ℤ) : Decidable (isLeapDay day) := inferInstanceAs (Decidable (_ ∧ _))

def clampedYearBefore (day : ℤ) : ℤ :=
  newDate (fullYear day - 1) (monthIndex day)
    (min (dayOfMonth day) (daysInMonth (monthOf day - 12)))

theorem dayOfMonth_bounds (day : ℤ) :
    1 ≤ dayOfMonth day ∧ dayOfMonth day ≤ daysInMonth (monthOf day) := by
  have hfrom := firstOfMonth_monthOf_le day
  have hto := lt_firstOfMonth_monthOf_succ day
  unfold dayOfMonth daysInMonth
  omega

theorem dayOfMonth_le_daysInMonth_iff (day : ℤ) :
    dayOfMonth day ≤ daysInMonth (monthOf day - 12) ↔ ¬isLeapDay day := by
  have hbounds := (dayOfMonth_bounds day).2
  unfold isLeapDay monthIndex
  by_cases hfebruary : monthOf day % 12 = 11
  · have hnow := daysInMonth_february hfebruary
    have hbefore := daysInMonth_february (m := monthOf day - 12) (by omega)
    have hyear : (monthOf day - 12) / 12 = monthOf day / 12 - 1 := by omega
    rw [hyear] at hbefore
    have hyears := firstOfYear_add_two_le (monthOf day / 12 - 1)
    have hleast := firstOfYear_succ_bounds (monthOf day / 12 - 1)
    rw [show monthOf day / 12 - 1 + 2 = monthOf day / 12 + 1 by omega] at hyears
    rw [show monthOf day / 12 - 1 + 1 = monthOf day / 12 by omega] at hbefore hleast
    omega
  · have hsame : daysInMonth (monthOf day - 12) = daysInMonth (monthOf day) :=
      daysInMonth_of_ne_february (by omega) hfebruary
    omega

theorem clampedYearBefore_eq {day : ℤ} (h : ¬isLeapDay day) :
    clampedYearBefore day = yearBefore day := by
  have hday := (dayOfMonth_le_daysInMonth_iff day).2 h
  rw [clampedYearBefore, yearBefore, min_eq_left hday]

theorem daysInMonth_of_isLeapDay {day : ℤ} (h : isLeapDay day) :
    daysInMonth (monthOf day - 12) = 28 := by
  have hnot := mt (dayOfMonth_le_daysInMonth_iff day).1 (not_not.2 h)
  obtain ⟨hmonth, hday⟩ := h
  have hfebruary : (monthOf day - 12) % 12 = 11 := by
    unfold monthIndex at hmonth
    omega
  have hyear := firstOfYear_succ_bounds ((monthOf day - 12) / 12)
  rw [daysInMonth_february hfebruary] at hnot ⊢
  omega

/-- The leap day is taken to the first of March, and its place is the day before. -/
theorem formatDate_of_isLeapDay {day : ℤ} (h : isLeapDay day) :
    formatDate (yearBefore day) = toString (fullYear day - 1) ++ "-03-01" ∧
      formatDate (clampedYearBefore day) = toString (fullYear day - 1) ++ "-02-28" := by
  have hlength := daysInMonth_of_isLeapDay h
  obtain ⟨hmonth, hday⟩ := h
  have hbefore : monthOf day - 12 = 12 * (fullYear day - 1) + 1 - 2 := by
    unfold fullYear monthIndex at *
    omega
  rw [hbefore] at hlength
  constructor
  · have hmarch : yearBefore day = newDate (fullYear day - 1) 2 1 := by
      unfold daysInMonth at hlength
      rw [yearBefore, hmonth, hday, newDate, newDate,
        show 12 * (fullYear day - 1) + 2 - 2 = 12 * (fullYear day - 1) + 1 - 2 + 1 by omega]
      omega
    have hfirst := firstOfMonth_lt_succ (12 * (fullYear day - 1) + 2 - 2)
    rw [hmarch, formatDate_newDate (by omega) le_rfl (by unfold daysInMonth; omega)]
    simp only [String.append_assoc]
    rfl
  · rw [clampedYearBefore, hmonth, hday, hbefore, hlength,
      formatDate_newDate (by omega) (by omega) (by omega)]
    simp only [String.append_assoc]
    rfl

theorem formatDate_yearBefore_eq_iff (day : ℤ) :
    formatDate (yearBefore day) = formatDate (clampedYearBefore day) ↔ ¬isLeapDay day := by
  refine ⟨fun hsame hleap => ?_, fun h => by rw [clampedYearBefore_eq h]⟩
  obtain ⟨hmarch, hfebruary⟩ := formatDate_of_isLeapDay hleap
  rw [hmarch, hfebruary] at hsame
  have hends := List.append_cancel_left
    (by simpa only [String.toList_append] using congrArg String.toList hsame)
  revert hends
  decide

/-! ### The law -/

/-- The range that the days from `first` to `last` are to be compared with. -/
def ComparesWith (type : ComparisonType) (first last : ℤ) (range : DateRange) : Prop :=
  match type with
  | .previousYear => range = .ofDays (clampedYearBefore first) (clampedYearBefore last)
  | _ => ∃ first' last', range = .ofDays first' last' ∧ last' + 1 = first ∧
      last' - first' + 1 = last - first + 1

/-- The comparison with a year earlier has no leap day at either end. -/
def NoLeapDay (type : ComparisonType) (first last : ℤ) : Prop :=
  type = .previousYear → ¬isLeapDay first ∧ ¬isLeapDay last

section Law

variable {current : DateRange} {comparison : SemanticComparison} {first last : ℤ}

theorem resolveComparisonRange_previousYear (hfirst : dayOf current.startDate = some first)
    (hlast : dayOf current.endDate = some last) (hle : first ≤ last)
    (htype : comparison.type = .previousYear) :
    resolveComparisonRange current comparison =
      .ok (.ofDays (yearBefore first) (yearBefore last)) := by
  unfold resolveComparisonRange
  rw [hfirst, hlast, if_neg (by simp [htype])]
  dsimp only
  rw [if_neg (by omega), if_pos htype]

theorem resolveComparisonRange_previousPeriod (hfirst : dayOf current.startDate = some first)
    (hlast : dayOf current.endDate = some last) (hle : first ≤ last)
    (hcustom : comparison.type ≠ .custom) (hyear : comparison.type ≠ .previousYear) :
    resolveComparisonRange current comparison =
      .ok (.ofDays (first - 1 - (last - first + 1) + 1) (first - 1)) := by
  unfold resolveComparisonRange
  rw [hfirst, hlast, if_neg hcustom]
  dsimp only
  rw [if_neg (by omega), if_neg hyear]

/-- A range of days is compared with the right one if and only if no leap day is moved. -/
theorem comparesWith_iff (hfirst : dayOf current.startDate = some first)
    (hlast : dayOf current.endDate = some last) (hle : first ≤ last)
    (hcustom : comparison.type ≠ .custom) :
    (∃ range, resolveComparisonRange current comparison = .ok range ∧
      ComparesWith comparison.type first last range) ↔ NoLeapDay comparison.type first last := by
  by_cases hyear : comparison.type = .previousYear
  · rw [resolveComparisonRange_previousYear hfirst hlast hle hyear]
    have hranges : DateRange.ofDays (yearBefore first) (yearBefore last) =
          .ofDays (clampedYearBefore first) (clampedYearBefore last) ↔
        ¬isLeapDay first ∧ ¬isLeapDay last := by
      rw [DateRange.ofDays, DateRange.ofDays, DateRange.mk.injEq, formatDate_yearBefore_eq_iff,
        formatDate_yearBefore_eq_iff]
    simpa [hyear, ComparesWith, NoLeapDay] using hranges
  · rw [resolveComparisonRange_previousPeriod hfirst hlast hle hcustom hyear]
    refine iff_of_true ⟨_, rfl, ?_⟩ fun h => absurd h hyear
    have hadjacent : ∃ first' last', DateRange.ofDays (first - 1 - (last - first + 1) + 1)
        (first - 1) = .ofDays first' last' ∧ last' + 1 = first ∧
          last' - first' + 1 = last - first + 1 :=
      ⟨_, _, rfl, by omega, by omega⟩
    cases htype : comparison.type with
    | custom => exact absurd htype hcustom
    | previousYear => exact absurd htype hyear
    | previousPeriod => exact hadjacent
    | none => exact hadjacent

end Law

/-- March of 2024 a year earlier. -/
theorem comparesWith_march :
    (∃ range, resolveComparisonRange ⟨"2024-03-01", "2024-03-31"⟩
        ⟨true, .previousYear, none, none, false⟩ = .ok range ∧
      ComparesWith .previousYear 739251 739281 range) ↔ NoLeapDay .previousYear 739251 739281 := by
  have hfirst : dayOf (DateRange.mk "2024-03-01" "2024-03-31").startDate = some 739251 := by
    decide +kernel
  have hlast : dayOf (DateRange.mk "2024-03-01" "2024-03-31").endDate = some 739281 := by
    decide +kernel
  have htype : (SemanticComparison.mk true .previousYear none none false).type ≠ .custom := by
    decide
  exact comparesWith_iff hfirst hlast (by decide) htype

/-- February of 2024 is compared with February of 2023 and a day of March. -/
theorem not_comparesWith_february :
    ¬∀ (current : DateRange) (comparison : SemanticComparison) (first last : ℤ),
      dayOf current.startDate = some first → dayOf current.endDate = some last → first ≤ last →
        comparison.type ≠ .custom → ∃ range,
          resolveComparisonRange current comparison = .ok range ∧
            ComparesWith comparison.type first last range := by
  intro h
  obtain ⟨range, hrange, hcompares⟩ := h ⟨"2024-02-01", "2024-02-29"⟩
    ⟨true, .previousYear, none, none, false⟩ 739222 739250 (by decide +kernel) (by decide +kernel)
    (by decide) (by decide)
  have hmarch : resolveComparisonRange ⟨"2024-02-01", "2024-02-29"⟩
      ⟨true, .previousYear, none, none, false⟩ =
        .ok (.ofDays (yearBefore 739222) (yearBefore 739250)) :=
    resolveComparisonRange_previousYear (by decide +kernel) (by decide +kernel) (by decide) rfl
  rw [hmarch] at hrange
  cases hrange
  have hends : formatDate (yearBefore 739250) = formatDate (clampedYearBefore 739250) :=
    congrArg DateRange.endDate hcompares
  exact (formatDate_yearBefore_eq_iff 739250).1 hends (by decide +kernel)

end Forecast.Reporting
