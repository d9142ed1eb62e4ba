import Forecast.Reporting.DateRanges
import Mathlib.Data.List.Chain
import Mathlib.Tactic.LinearCombination

/-!
# The periods of a capacity plan

A range of days is cut into periods by a cursor that is set to the day and then to the month after
each period. Days are counted as in `Calendar`, and local time is that of UTC.
-/

open Calendar

namespace Forecast.Capacity

open Reporting (newDate fullYear monthIndex dayOfMonth formatDate)

/-! ### Periods -/

/-- `setDate(date)` -/
def setDate (day date : ℤ) : ℤ := newDate (fullYear day) (monthIndex day) date

/-- `setMonth(month)` -/
def setMonth (day month : ℤ) : ℤ := newDate (fullYear day) month (dayOfMonth day)

inductive Granularity where
  | day
  | week
  | month
deriving DecidableEq

/-- `params.granularity || 'MONTH'`; a text that is not known counts as months. -/
def Granularity.ofText : Option String → Granularity
  | some "WEEK" => week
  | some "DAY" => day
  | _ => month

structure Period where
  label : String
  days : ℤ
  periodStart : ℤ
  periodEnd : ℤ
deriving DecidableEq

def Period.Contains (p : Period) (day : ℤ) : Prop := p.periodStart ≤ day ∧ day ≤ p.periodEnd

/-- The last day of a period before it is cut at the end of the range. -/
def wholePeriodEnd (current : ℤ) : Granularity → ℤ
  | .week => setDate current (dayOfMonth current + 6)
  | .day => current
  | .month =>
    let next := setMonth current (monthIndex current + 1)
    setDate next (dayOfMonth next - 1)

def periodAt (endDate : ℤ) (granularity : Granularity) (current : ℤ) : Period :=
  let whole := wholePeriodEnd current granularity
  let periodEnd := if whole > endDate then endDate else whole
  { label := formatDate current
    days := max 1 (periodEnd - current + 1)
    periodStart := current
    periodEnd := periodEnd }

/-- The day of the cursor is set first, then its month; its year is not. -/
def advance (current periodEnd : ℤ) : ℤ :=
  setMonth (setDate current (dayOfMonth periodEnd + 1)) (monthIndex periodEnd)

/-- The loop; none when it takes more rounds than there is fuel. -/
def buildPeriods (endDate : ℤ) (granularity : Granularity) : ℕ → ℤ → Option (List Period)
  | 0, _ => none
  | fuel + 1, current =>
    if current ≤ endDate then
      let p := periodAt endDate granularity current
      (buildPeriods endDate granularity fuel (advance current p.periodEnd)).map (p :: ·)
    else some []

example : buildPeriods 10 .week 1 11 = some [] := by simp [buildPeriods]

/-- What `buildPeriods` returns. -/
def Builds (startDate endDate : ℤ) (granularity : Granularity) (periods : List Period) : Prop :=
  ∃ fuel, buildPeriods endDate granularity fuel startDate = some periods

/-! ### Dates in their months -/

theorem setDate_eq (day date : ℤ) : setDate day date = firstOfMonth (monthOf day) + date - 1 := by
  have hmonth : 12 * fullYear day + monthIndex day - 2 = monthOf day := by
    unfold fullYear monthIndex
    omega
  rw [setDate, newDate, hmonth]

theorem setMonth_eq (day month : ℤ) :
    setMonth day month =
      firstOfMonth (monthOf day - monthIndex day + month) + dayOfMonth day - 1 := by
  have hmonth : 12 * fullYear day + month - 2 = monthOf day - monthIndex day + month := by
    unfold fullYear monthIndex
    omega
  rw [setMonth, newDate, hmonth]

example : formatDate (setMonth (newDate 2024 0 31) 1) = "2024-03-02" := by decide +kernel

theorem add_twentyEight_le_firstOfMonth_succ (m : ℤ) :
    firstOfMonth m + 28 ≤ firstOfMonth (m + 1) := by
  have hyear := firstOfYear_succ_bounds (m / 12)
  unfold firstOfMonth
  rcases Int.lt_or_le (m % 12) 11 with h | h
  · have hdiv : (m + 1) / 12 = m / 12 := by omega
    rw [hdiv]
    omega
  · have hdiv : (m + 1) / 12 = m / 12 + 1 := by omega
    rw [hdiv]
    omega

theorem dayOfMonth_pos (day : ℤ) : 1 ≤ dayOfMonth day := by
  have hle := firstOfMonth_monthOf_le day
  unfold dayOfMonth
  omega

/-- The first day after the period that begins on a day, when it is not cut. -/
def nextStart (granularity : Granularity) (day : ℤ) : ℤ :=
  match granularity with
  | .day => day + 1
  | .week => day + 7
  | .month => setMonth day (monthIndex day + 1)

theorem nextStart_month (day : ℤ) :
    nextStart .month day = firstOfMonth (monthOf day + 1) + dayOfMonth day - 1 := by
  have hmonth : monthOf day - monthIndex day + (monthIndex day + 1) = monthOf day + 1 := by omega
  rw [nextStart, setMonth_eq, hmonth]

theorem lt_nextStart (granularity : Granularity) (day : ℤ) : day < nextStart granularity day := by
  cases granularity with
  | day => exact lt_add_one day
  | week => exact lt_add_of_pos_right day (by omega)
  | month =>
    have hlt := lt_firstOfMonth_monthOf_succ day
    have hpos := dayOfMonth_pos day
    rw [nextStart_month]
    omega

theorem wholePeriodEnd_eq (granularity : Granularity) (current : ℤ) :
    wholePeriodEnd current granularity = nextStart granularity current - 1 := by
  cases granularity with
  | day => exact (add_sub_cancel_right current 1).symm
  | week =>
    rw [wholePeriodEnd, setDate_eq, nextStart, dayOfMonth]
    omega
  | month =>
    rw [wholePeriodEnd, setDate_eq, nextStart, dayOfMonth]
    omega

/-- The day of the period's end still lies in the month that the cursor is in. -/
theorem dayOfMonth_lt {granularity : Granularity} {current day : ℤ}
    (hlt : day < nextStart granularity current) (hmonth : monthOf current < monthOf day) :
    firstOfMonth (monthOf current) + dayOfMonth day < firstOfMonth (monthOf current + 1) := by
  have hfirst := firstOfMonth_le (show monthOf current + 1 ≤ monthOf day from hmonth)
  have hmonthEnd := lt_firstOfMonth_monthOf_succ current
  have hlength := add_twentyEight_le_firstOfMonth_succ (monthOf current)
  unfold dayOfMonth
  cases granularity with
  | day =>
    have hday := firstOfMonth_monthOf_le day
    rw [nextStart] at hlt
    omega
  | week =>
    rw [nextStart] at hlt
    omega
  | month =>
    rw [nextStart_month, dayOfMonth] at hlt
    omega

/-! ### Where the cursor goes -/

/-- A cursor whose day is set within its month goes on to that day of the month it is set to. -/
theorem advance_of_lt {current day : ℤ}
    (h : firstOfMonth (monthOf current) + dayOfMonth day < firstOfMonth (monthOf current + 1)) :
    advance current day =
      firstOfMonth (monthOf current - monthIndex current + monthIndex day) + dayOfMonth day := by
  have hset : setDate current (dayOfMonth day + 1) =
      firstOfMonth (monthOf current) + dayOfMonth day := by
    rw [setDate_eq]
    omega
  have hpos := dayOfMonth_pos day
  have hmonth : monthOf (setDate current (dayOfMonth day + 1)) = monthOf current :=
    monthOf_eq (by omega) (by omega)
  have hindex : monthIndex (setDate current (dayOfMonth day + 1)) = monthIndex current := by
    rw [monthIndex, hmonth, monthIndex]
  rw [advance, setMonth_eq, hindex, hmonth, dayOfMonth, hmonth, hset]
  omega

theorem monthIndex_add_fullYear (day : ℤ) :
    monthOf day = 12 * fullYear day + monthIndex day - 2 := by
  unfold fullYear monthIndex
  omega

/-- In one year the cursor goes on to the next day. -/
theorem advance_eq_succ {current day : ℤ}
    (h : firstOfMonth (monthOf current) + dayOfMonth day < firstOfMonth (monthOf current + 1))
    (hyear : fullYear day = fullYear current) : advance current day = day + 1 := by
  have hcurrent := monthIndex_add_fullYear current
  have hday := monthIndex_add_fullYear day
  have hmonth : monthOf current - monthIndex current + monthIndex day = monthOf day := by omega
  rw [advance_of_lt h, hmonth, dayOfMonth]
  omega

/-- Past the end of a year it goes back to the beginning of that year. -/
theorem advance_le_of_year_lt {current day : ℤ}
    (h : firstOfMonth (monthOf current) + dayOfMonth day < firstOfMonth (monthOf current + 1))
    (hyear : fullYear current < fullYear day) : advance current day ≤ day := by
  have hcurrent := monthIndex_add_fullYear current
  have hday := monthIndex_add_fullYear day
  have hfirst := firstOfMonth_lt_succ (monthOf current - monthIndex current + monthIndex day)
  have hle := firstOfMonth_le
    (show monthOf current - monthIndex current + monthIndex day + 1 ≤ monthOf day by omega)
  have hdayOf : dayOfMonth day = day - firstOfMonth (monthOf day) + 1 := rfl
  rw [advance_of_lt h]
  omega

/-- After the last day of the month it is in, the cursor is set to the first of that month again,
or in December to the first of the next one. -/
theorem advance_monthEnd {current day : ℤ} (hmonth : monthOf day = monthOf current)
    (hlast : day + 1 = firstOfMonth (monthOf current + 1)) :
    advance current day =
      firstOfMonth (monthOf current + if monthIndex current = 11 then 12 else 0) := by
  have hset : setDate current (dayOfMonth day + 1) = firstOfMonth (monthOf current + 1) := by
    rw [setDate_eq, dayOfMonth, hmonth]
    omega
  have hnext : monthOf (firstOfMonth (monthOf current + 1)) = monthOf current + 1 :=
    monthOf_eq le_rfl (firstOfMonth_lt_succ _)
  have hindex : monthIndex day = monthIndex current := by rw [monthIndex, hmonth, monthIndex]
  have hto : monthOf current + 1 - monthIndex (firstOfMonth (monthOf current + 1)) +
      monthIndex current = monthOf current + if monthIndex current = 11 then 12 else 0 := by
    unfold monthIndex
    rw [hnext]
    split_ifs <;> omega
  rw [advance, hset, setMonth_eq, hnext, hindex, hto, dayOfMonth, hnext]
  omega

section Step

variable {granularity : Granularity} {current day : ℤ} (hle : current ≤ day)
  (hlt : day < nextStart granularity current)
include hle

theorem fullYear_le : fullYear current ≤ fullYear day := by
  have hmonth := monthOf_le hle
  unfold fullYear
  omega

theorem monthOf_of_monthEnd (hlast : day + 1 = firstOfMonth (monthOf current + 1)) :
    monthOf day = monthOf current :=
  monthOf_eq ((firstOfMonth_monthOf_le current).trans hle) (by omega)

include hlt

theorem dayOfMonth_lt_of_not_monthEnd (hlast : day + 1 ≠ firstOfMonth (monthOf current + 1)) :
    firstOfMonth (monthOf current) + dayOfMonth day < firstOfMonth (monthOf current + 1) := by
  rcases (monthOf_le hle).eq_or_lt with hmonth | hmonth
  · have hday := lt_firstOfMonth_monthOf_succ day
    rw [← hmonth] at hday
    rw [dayOfMonth, ← hmonth]
    omega
  · exact dayOfMonth_lt hlt hmonth

/-- The cursor goes on to the next day when the period ends in the year that it began in, and not
with the month. -/
theorem advance_eq_succ_iff : advance current day = day + 1 ↔
    fullYear day = fullYear current ∧ day + 1 ≠ firstOfMonth (monthOf current + 1) := by
  by_cases hlast : day + 1 = firstOfMonth (monthOf current + 1)
  · refine iff_of_false ?_ fun h => h.2 hlast
    rw [advance_monthEnd (monthOf_of_monthEnd hle hlast) hlast, hlast]
    split_ifs
    · have hnext := firstOfMonth_lt_succ (monthOf current + 1)
      have hrest := firstOfMonth_le
        (show monthOf current + 1 + 1 ≤ monthOf current + 12 by omega)
      omega
    · have hnext := firstOfMonth_lt_succ (monthOf current)
      rw [add_zero]
      omega
  · have hin := dayOfMonth_lt_of_not_monthEnd hle hlt hlast
    constructor
    · intro hnext
      refine ⟨?_, hlast⟩
      by_contra hyear
      have hback := advance_le_of_year_lt hin ((fullYear_le hle).lt_of_ne' hyear)
      omega
    · exact fun h => advance_eq_succ hin h.1

/-- The cursor leaves a period behind it, moreover, on the last day of December. -/
theorem lt_advance_iff : day < advance current day ↔
    fullYear day = fullYear current ∧
      (day + 1 = firstOfMonth (monthOf current + 1) → monthIndex current = 11) := by
  by_cases hlast : day + 1 = firstOfMonth (monthOf current + 1)
  · have hmonth := monthOf_of_monthEnd hle hlast
    have hyear : fullYear day = fullYear current := by rw [fullYear, hmonth, fullYear]
    rw [advance_monthEnd hmonth hlast]
    split_ifs with hdecember
    · have hrest := firstOfMonth_le (show monthOf current + 1 ≤ monthOf current + 12 by omega)
      exact iff_of_true (by omega) ⟨hyear, fun _ => hdecember⟩
    · have hfirst := firstOfMonth_monthOf_le current
      rw [add_zero]
      exact iff_of_false (by omega) fun h => hdecember (h.2 hlast)
  · have hin := dayOfMonth_lt_of_not_monthEnd hle hlt hlast
    constructor
    · intro hnext
      refine ⟨?_, fun h => absurd h hlast⟩
      by_contra hyear
      have hback := advance_le_of_year_lt hin ((fullYear_le hle).lt_of_ne' hyear)
      omega
    · intro h
      rw [advance_eq_succ hin h.1]
      exact lt_add_one day

end Step

/-! ### The days that periods cover -/

/-- The periods follow one another without gap or overlap, and hold the days of the range. -/
structure CoversDays (startDate endDate : ℤ) (periods : List Period) : Prop where
  nonEmpty : ∀ p ∈ periods, p.periodStart ≤ p.periodEnd
  inOrder : periods.Pairwise fun p q => p.periodEnd < q.periodStart
  consecutive : periods.IsChain fun p q => q.periodStart = p.periodEnd + 1
  covers : ∀ day, (∃ p ∈ periods, p.Contains day) ↔ startDate ≤ day ∧ day ≤ endDate

theorem coversDays_nil {startDate endDate : ℤ} (h : endDate < startDate) :
    CoversDays startDate endDate [] where
  nonEmpty := fun p hp => absurd hp List.not_mem_nil
  inOrder := .nil
  consecutive := .nil
  covers := fun day =>
    iff_of_false (fun ⟨p, hp, _⟩ => absurd hp List.not_mem_nil) fun hday => by omega

/-- The first of the periods begins with the range. -/
theorem CoversDays.head_eq {startDate endDate : ℤ} {p : Period} {periods : List Period}
    (h : CoversDays startDate endDate (p :: periods)) : p.periodStart = startDate := by
  have hp := h.nonEmpty p List.mem_cons_self
  have hrange := (h.covers p.periodStart).1 ⟨p, List.mem_cons_self, le_rfl, hp⟩
  obtain ⟨q, hq, hfrom, -⟩ := (h.covers startDate).2 ⟨le_rfl, hrange.1.trans hrange.2⟩
  rcases List.mem_cons.1 hq with rfl | hq
  · omega
  · have hafter := (List.pairwise_cons.1 h.inOrder).1 q hq
    omega

theorem coversDays_eq_nil {startDate endDate : ℤ} {periods : List Period}
    (h : CoversDays startDate endDate periods) (hrange : endDate < startDate) : periods = [] := by
  cases periods with
  | nil => rfl
  | cons p periods =>
    have hp := h.nonEmpty p List.mem_cons_self
    have hday := (h.covers p.periodStart).1 ⟨p, List.mem_cons_self, le_rfl, hp⟩
    omega

theorem CoversDays.tail {startDate endDate : ℤ} {p : Period} {periods : List Period}
    (h : CoversDays startDate endDate (p :: periods)) :
    CoversDays (p.periodEnd + 1) endDate periods := by
  have hafter := (List.pairwise_cons.1 h.inOrder).1
  refine ⟨fun q hq => h.nonEmpty q (List.mem_cons_of_mem p hq),
    (List.pairwise_cons.1 h.inOrder).2, h.consecutive.tail, fun day => ⟨?_, ?_⟩⟩
  · rintro ⟨q, hq, hday⟩
    have hrange := (h.covers day).1 ⟨q, List.mem_cons_of_mem p hq, hday⟩
    have hfrom := hafter q hq
    exact ⟨by have := hday.1; omega, hrange.2⟩
  · rintro ⟨hfrom, hto⟩
    have hstart := h.head_eq
    have hp := h.nonEmpty p List.mem_cons_self
    obtain ⟨q, hq, hday⟩ := (h.covers day).2 ⟨by omega, hto⟩
    rcases List.mem_cons.1 hq with rfl | hq
    · have hend := hday.2
      omega
    · exact ⟨q, hq, hday⟩

theorem CoversDays.cons {startDate endDate : ℤ} {p : Period} {periods : List Period}
    (hstart : p.periodStart = startDate) (hp : startDate ≤ p.periodEnd)
    (hend : p.periodEnd ≤ endDate) (h : CoversDays (p.periodEnd + 1) endDate periods) :
    CoversDays startDate endDate (p :: periods) := by
  subst hstart
  have hfrom : ∀ q ∈ periods, p.periodEnd < q.periodStart := by
    intro q hq
    have hday := (h.covers q.periodStart).1 ⟨q, hq, le_rfl, h.nonEmpty q hq⟩
    omega
  refine ⟨?_, List.pairwise_cons.2 ⟨hfrom, h.inOrder⟩, ?_, fun day => ⟨?_, ?_⟩⟩
  · exact List.forall_mem_cons.2 ⟨hp, h.nonEmpty⟩
  · cases periods with
    | nil => exact .singleton p
    | cons q periods => exact .cons_cons h.head_eq h.consecutive
  · rintro ⟨q, hq, hday⟩
    rcases List.mem_cons.1 hq with rfl | hq
    · exact ⟨hday.1, hday.2.trans hend⟩
    · have hrange := (h.covers day).1 ⟨q, hq, hday⟩
      exact ⟨by omega, hrange.2⟩
  · rintro ⟨hstart, hto⟩
    rcases Int.lt_or_le p.periodEnd day with hday | hday
    · obtain ⟨q, hq, hin⟩ := (h.covers day).2 ⟨by omega, hto⟩
      exact ⟨q, List.mem_cons_of_mem p hq, hin⟩
    · exact ⟨p, List.mem_cons_self, hstart, hday⟩

/-- A piece of the range ends in the year that it begins in, and with its month only as the last
piece, in December. -/
def KeepsYear (endDate : ℤ) (granularity : Granularity) (day : ℤ) : Prop :=
  let last := min (nextStart granularity day - 1) endDate
  fullYear last = fullYear day ∧
    (last + 1 = firstOfMonth (monthOf day + 1) → last = endDate ∧ monthIndex day = 11)

instance (endDate : ℤ) (granularity : Granularity) (day : ℤ) :
    Decidable (KeepsYear endDate granularity day) := inferInstanceAs (Decidable (_ ∧ _))

/-- Every piece that the range is cut into, each from the next day of the one before. -/
def KeepsYears (startDate endDate : ℤ) (granularity : Granularity) : Prop :=
  ∀ k, (nextStart granularity)^[k] startDate ≤ endDate →
    KeepsYear endDate granularity ((nextStart granularity)^[k] startDate)

def PartitionsRange (startDate endDate : ℤ) (granularity : Granularity) : Prop :=
  ∃ periods, Builds startDate endDate granularity periods ∧ CoversDays startDate endDate periods

section Run

variable {endDate : ℤ} {granularity : Granularity}

theorem periodEnd_periodAt (current : ℤ) :
    (periodAt endDate granularity current).periodEnd =
      min (nextStart granularity current - 1) endDate := by
  rw [periodAt, wholePeriodEnd_eq]
  dsimp only
  split_ifs <;> omega

theorem builds_of_lt {current : ℤ} (h : endDate < current) :
    Builds current endDate granularity [] :=
  ⟨1, if_neg (not_le.2 h)⟩

theorem builds_iff {current : ℤ} {periods : List Period} (h : current ≤ endDate) :
    Builds current endDate granularity periods ↔
      ∃ rest, periods = periodAt endDate granularity current :: rest ∧
        Builds (advance current (periodAt endDate granularity current).periodEnd) endDate
          granularity rest := by
  constructor
  · rintro ⟨fuel, hbuilt⟩
    cases fuel with
    | zero => cases hbuilt
    | succ fuel =>
      rw [buildPeriods, if_pos h, Option.map_eq_some_iff] at hbuilt
      obtain ⟨rest, hrest, rfl⟩ := hbuilt
      exact ⟨rest, rfl, fuel, hrest⟩
  · rintro ⟨rest, rfl, fuel, hrest⟩
    refine ⟨fuel + 1, ?_⟩
    rw [buildPeriods, if_pos h]
    dsimp only
    rw [hrest, Option.map_some]

theorem Builds.head {current : ℤ} {p : Period} {periods : List Period}
    (h : Builds current endDate granularity (p :: periods)) : p.periodStart = current := by
  rcases Int.lt_or_le endDate current with hlt | hle
  · obtain ⟨fuel, hbuilt⟩ := h
    cases fuel with
    | zero => cases hbuilt
    | succ fuel =>
      rw [buildPeriods, if_neg (not_le.2 hlt)] at hbuilt
      cases hbuilt
  · obtain ⟨rest, hcons, -⟩ := (builds_iff hle).1 h
    rw [(List.cons.inj hcons).1]
    rfl

theorem keepsYears_iff {current : ℤ} (h : current ≤ endDate) :
    KeepsYears current endDate granularity ↔ KeepsYear endDate granularity current ∧
      KeepsYears (nextStart granularity current) endDate granularity := by
  constructor
  · exact fun hkeeps => ⟨hkeeps 0 h, fun k => hkeeps (k + 1)⟩
  · rintro ⟨hfirst, hrest⟩ k
    cases k with
    | zero => exact fun _ => hfirst
    | succ k => exact hrest k

/-- A cursor beyond the range has no pieces left to cut. -/
theorem keepsYears_of_lt {current : ℤ} (h : endDate < current) :
    KeepsYears current endDate granularity := by
  intro k hk
  have hle : current ≤ (nextStart granularity)^[k] current :=
    Function.id_le_iterate_of_id_le (fun day => (lt_nextStart granularity day).le) k current
  omega

/-- The first period is the first piece, and the rest cover what is behind it. -/
theorem partitionsRange_iff {current : ℤ} (hle : current ≤ endDate) :
    PartitionsRange current endDate granularity ↔
      ∃ rest, Builds (advance current (min (nextStart granularity current - 1) endDate)) endDate
          granularity rest ∧
        CoversDays (min (nextStart granularity current - 1) endDate + 1) endDate rest := by
  have hlt := lt_nextStart granularity current
  have hend : (periodAt endDate granularity current).periodEnd =
      min (nextStart granularity current - 1) endDate := periodEnd_periodAt current
  constructor
  · rintro ⟨periods, hbuilds, hcovers⟩
    obtain ⟨rest, rfl, hrest⟩ := (builds_iff hle).1 hbuilds
    rw [← hend]
    exact ⟨rest, hrest, hcovers.tail⟩
  · rintro ⟨rest, hrest, hcovers⟩
    rw [← hend] at hrest hcovers
    refine ⟨periodAt endDate granularity current :: rest, (builds_iff hle).2 ⟨rest, rfl, hrest⟩,
      CoversDays.cons rfl ?_ ?_ hcovers⟩
    · rw [hend]
      omega
    · rw [hend]
      omega

/-- Where a piece is not the last one, the rest of the periods must begin on the next day. -/
theorem partitionsRange_iff_advance {current : ℤ} (hle : current ≤ endDate)
    (hnext : nextStart granularity current ≤ endDate) :
    PartitionsRange current endDate granularity ↔
      advance current (nextStart granularity current - 1) = nextStart granularity current ∧
        PartitionsRange (nextStart granularity current) endDate granularity := by
  have hmin : min (nextStart granularity current - 1) endDate =
      nextStart granularity current - 1 := by omega
  rw [partitionsRange_iff hle, hmin, sub_add_cancel]
  constructor
  · rintro ⟨rest, hrest, hcovers⟩
    have hadvance : advance current (nextStart granularity current - 1) =
        nextStart granularity current := by
      cases rest with
      | nil =>
        obtain ⟨p, hp, -⟩ := (hcovers.covers (nextStart granularity current)).2 ⟨le_rfl, hnext⟩
        exact absurd hp List.not_mem_nil
      | cons p rest => rw [← hrest.head, hcovers.head_eq]
    rw [hadvance] at hrest
    exact ⟨hadvance, rest, hrest, hcovers⟩
  · rintro ⟨hadvance, rest, hrest, hcovers⟩
    rw [hadvance]
    exact ⟨rest, hrest, hcovers⟩

/-- After the last piece the cursor must lie beyond the range. -/
theorem partitionsRange_iff_lt {current : ℤ} (hle : current ≤ endDate)
    (hnext : endDate < nextStart granularity current) :
    PartitionsRange current endDate granularity ↔ endDate < advance current endDate := by
  have hmin : min (nextStart granularity current - 1) endDate = endDate := by omega
  rw [partitionsRange_iff hle, hmin]
  constructor
  · rintro ⟨rest, hrest, hcovers⟩
    obtain rfl := coversDays_eq_nil hcovers (lt_add_one endDate)
    by_contra hback
    obtain ⟨rest, hcons, -⟩ := (builds_iff (not_lt.1 hback)).1 hrest
    cases hcons
  · intro hadvance
    exact ⟨[], builds_of_lt hadvance, coversDays_nil (lt_add_one endDate)⟩

/-- One round of the loop: its cursor does what the rest of the range asks for. -/
theorem keepsYear_iff {current : ℤ} (hle : current ≤ endDate) :
    KeepsYear endDate granularity current ↔
      if nextStart granularity current ≤ endDate then
        advance current (nextStart granularity current - 1) = nextStart granularity current
      else endDate < advance current endDate := by
  have hlt := lt_nextStart granularity current
  unfold KeepsYear
  split_ifs with hnext
  · have hmin : min (nextStart granularity current - 1) endDate =
        nextStart granularity current - 1 := by omega
    have hstep := @advance_eq_succ_iff granularity current
      (nextStart granularity current - 1) (by omega) (by omega)
    have hne : nextStart granularity current - 1 ≠ endDate := by omega
    rw [sub_add_cancel] at hstep
    rw [hmin, hstep]
    dsimp only
    rw [sub_add_cancel]
    tauto
  · have hmin : min (nextStart granularity current - 1) endDate = endDate := by omega
    rw [hmin, @lt_advance_iff granularity _ _ hle (by omega)]
    simp

end Run

/-- The loop ends with periods that cover the range exactly when each piece of it keeps its
year, and none but a last December ends with its month. -/
theorem partitionsRange_iff_keepsYears (granularity : Granularity) {startDate endDate : ℤ}
    (h : startDate ≤ endDate) :
    PartitionsRange startDate endDate granularity ↔
      KeepsYears startDate endDate granularity := by
  induction hdays : (endDate - startDate).toNat using Nat.strong_induction_on
    generalizing startDate with
  | h n ih =>
    have hlt := lt_nextStart granularity startDate
    rw [keepsYears_iff h, keepsYear_iff h]
    split_ifs with hnext
    · rw [partitionsRange_iff_advance h hnext, ih _ (by omega) hnext rfl]
    · rw [partitionsRange_iff_lt h (not_le.1 hnext)]
      exact ⟨fun hend => ⟨hend, keepsYears_of_lt (not_le.1 hnext)⟩, fun hend => hend.1⟩

/-- Two weeks from Monday, January 5th. -/
theorem partitionsRange_twoWeeks :
    newDate 2026 0 5 ≤ newDate 2026 0 18 ∧
      PartitionsRange (newDate 2026 0 5) (newDate 2026 0 18) .week := by
  have hle : newDate 2026 0 5 ≤ newDate 2026 0 18 := by decide
  refine ⟨hle, (partitionsRange_iff_keepsYears .week hle).2 ?_⟩
  rw [keepsYears_iff hle, keepsYears_iff (by decide)]
  exact ⟨by decide, by decide, keepsYears_of_lt (by decide)⟩

/-- In the month of January the cursor is set back to the first. -/
theorem not_partitionsRange_january :
    ¬PartitionsRange (newDate 2026 0 1) (newDate 2026 0 31) .month := by
  rw [partitionsRange_iff_lt (by decide) (by decide)]
  decide

end Forecast.Capacity
