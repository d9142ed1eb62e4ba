import Forecast.Planning.TimeBuckets
import Forecast.Reporting.ComparisonLaw
import Mathlib

/-!
# What the time buckets agree on

Where a fiscal year begins with a calendar quarter its quarters are those of the calendar, and its
years are when it begins in January. The weeks of a year are weeks from Monday when the year begins
with one, up to the last days of the year. Along calls for such dates a bucket contains the dates
of its key and no others.
-/

open KeyedTable Runs Calendar

namespace Forecast.TimeBuckets

open Reporting (newDate fullYear monthIndex dayOfMonth weekday newDate_fullYear)

/-- The number of the period of the calendar that a day lies in. -/
def periodIndex : PeriodType → ℤ → ℤ
  | .daily, day => day
  | .weekly, day => (day + 2) / 7
  | .monthly, day => monthOf day + 2
  | .quarterly, day => (monthOf day + 2) / 3
  | .yearly, day => fullYear day

/-! ### Bounds -/

theorem dateUtc_eq_some {year month date day : ℤ} (hyear : ¬isShortYear year)
    (h : dateUtc year month date = some day) : day = newDate year month date := by
  unfold dateUtc validDay at h
  rw [if_neg hyear] at h
  split_ifs at h
  exact (Option.some.inj h).symm

theorem newDate_add (year month date days : ℤ) :
    newDate year month (date + days) = newDate year month date + days := by
  unfold newDate
  omega

theorem between_months_iff (year month months day : ℤ) :
    newDate year month 1 ≤ day ∧ day ≤ newDate year (month + months) 0 ↔
      12 * year + month - 2 ≤ monthOf day ∧ monthOf day < 12 * year + month - 2 + months := by
  have hfrom := @le_monthOf_iff (12 * year + month - 2) day
  have hto := @le_monthOf_iff (12 * year + (month + months) - 2) day
  unfold newDate
  omega

/-- The year begins with a Monday, and the day is in one of its 52 whole weeks. -/
def InWholeWeek (day : ℤ) : Prop :=
  ¬isShortYear (fullYear day) ∧
    ∃ first ∈ dateUtc (fullYear day) 0 1, weekday first = 1 ∧ day < first + 364

/-- The key and the bounds are of one period. -/
def Aligned (fyStartMonth0 : ℤ) (date : Millis) : PeriodType → Prop
  | .daily | .monthly => ¬isShortYear (fullYear (utcDay date))
  | .weekly => InWholeWeek (utcDay date)
  | .quarterly => fyStartMonth0 % 3 = 0 ∧ ¬isShortYear (fiscalYearOf fyStartMonth0 (utcDay date))
  | .yearly => fyStartMonth0 = 0 ∧ ¬isShortYear (fullYear (utcDay date))

instance (day : ℤ) : Decidable (InWholeWeek day) := inferInstanceAs (Decidable (_ ∧ _))

instance (fyStartMonth0 : ℤ) (date : Millis) :
    (type : PeriodType) → Decidable (Aligned fyStartMonth0 date type)
  | .daily => inferInstanceAs (Decidable (¬_))
  | .monthly => inferInstanceAs (Decidable (¬_))
  | .weekly => inferInstanceAs (Decidable (InWholeWeek _))
  | .quarterly => inferInstanceAs (Decidable (_ ∧ _))
  | .yearly => inferInstanceAs (Decidable (_ ∧ _))

section Bounds

variable {fyStartMonth0 first last : ℤ} {date : Millis}

theorem between_daily (h : Aligned fyStartMonth0 date .daily)
    (hfirst : (periodOf fyStartMonth0 date .daily).bucketStart = some first)
    (hlast : (periodOf fyStartMonth0 date .daily).bucketEnd = some last) (day : ℤ) :
    first ≤ day ∧ day ≤ last ↔ day = utcDay date := by
  have hstart := dateUtc_eq_some h hfirst
  have hend := dateUtc_eq_some h hlast
  rw [newDate_fullYear] at hstart hend
  omega

theorem between_weekly (h : Aligned fyStartMonth0 date .weekly)
    (hfirst : (periodOf fyStartMonth0 date .weekly).bucketStart = some first)
    (hlast : (periodOf fyStartMonth0 date .weekly).bucketEnd = some last) (day : ℤ) :
    first ≤ day ∧ day ≤ last ↔ (day + 2) / 7 = (utcDay date + 2) / 7 := by
  have hstart := dateUtc_eq_some h.1 hfirst
  rw [newDate_add, newDate_fullYear, mondayOffset, weekday] at hstart
  have hend : last = first + 6 := by
    change (dateUtc _ _ _).bind _ = _ at hlast
    change dateUtc _ _ _ = _ at hfirst
    rw [hfirst, Option.bind_some, validDay] at hlast
    split_ifs at hlast
    exact (Option.some.inj hlast).symm
  split_ifs at hstart <;> omega

theorem between_monthly (h : Aligned fyStartMonth0 date .monthly)
    (hfirst : (periodOf fyStartMonth0 date .monthly).bucketStart = some first)
    (hlast : (periodOf fyStartMonth0 date .monthly).bucketEnd = some last) (day : ℤ) :
    first ≤ day ∧ day ≤ last ↔ monthOf day + 2 = monthOf (utcDay date) + 2 := by
  rw [dateUtc_eq_some h hfirst, dateUtc_eq_some h hlast, between_months_iff]
  unfold fullYear monthIndex
  omega

theorem between_quarterly (hbounds : 0 ≤ fyStartMonth0 ∧ fyStartMonth0 ≤ 11)
    (h : Aligned fyStartMonth0 date .quarterly)
    (hfirst : (periodOf fyStartMonth0 date .quarterly).bucketStart = some first)
    (hlast : (periodOf fyStartMonth0 date .quarterly).bucketEnd = some last) (day : ℤ) :
    first ≤ day ∧ day ≤ last ↔ (monthOf day + 2) / 3 = (monthOf (utcDay date) + 2) / 3 := by
  have hthird := h.1
  rw [dateUtc_eq_some h.2 hfirst, dateUtc_eq_some h.2 hlast, between_months_iff]
  -- the quarter of the fiscal year is the one of the calendar
  have hquarter : 12 * fiscalYearOf fyStartMonth0 (utcDay date) +
      (fyStartMonth0 + quarterIndex fyStartMonth0 (utcDay date) * 3) =
        (monthOf (utcDay date) + 2) / 3 * 3 := by
    unfold fiscalYearOf quarterIndex fullYear monthIndex
    split_ifs <;> omega
  omega

theorem between_yearly (h : Aligned fyStartMonth0 date .yearly)
    (hfirst : (periodOf fyStartMonth0 date .yearly).bucketStart = some first)
    (hlast : (periodOf fyStartMonth0 date .yearly).bucketEnd = some last) (day : ℤ) :
    first ≤ day ∧ day ≤ last ↔ fullYear day = fullYear (utcDay date) := by
  obtain ⟨rfl, hyear⟩ := h
  have hsame : fiscalYearOf 0 (utcDay date) = fullYear (utcDay date) := by
    unfold fiscalYearOf monthIndex
    exact if_pos (by omega)
  rw [dateUtc_eq_some (hsame ▸ hyear) hfirst, dateUtc_eq_some (hsame ▸ hyear) hlast,
    between_months_iff, hsame]
  unfold fullYear
  omega

theorem between_bounds_iff {type : PeriodType} (hbounds : 0 ≤ fyStartMonth0 ∧ fyStartMonth0 ≤ 11)
    (h : Aligned fyStartMonth0 date type)
    (hfirst : (periodOf fyStartMonth0 date type).bucketStart = some first)
    (hlast : (periodOf fyStartMonth0 date type).bucketEnd = some last) (day : ℤ) :
    first ≤ day ∧ day ≤ last ↔ periodIndex type day = periodIndex type (utcDay date) := by
  cases type with
  | daily => exact between_daily h hfirst hlast day
  | weekly => exact between_weekly h hfirst hlast day
  | monthly => exact between_monthly h hfirst hlast day
  | quarterly => exact between_quarterly hbounds h hfirst hlast day
  | yearly => exact between_yearly h hfirst hlast day

end Bounds

/-! ### Keys -/

/-- The digits of a padded number spell the number. -/
theorem ofDigitChars_padStart (width n : ℕ) :
    Nat.ofDigitChars 10 (padStart width (toString n)).toList 0 = n := by
  rw [padStart, String.toList_append, String.toList_ofList, Nat.ofDigitChars_append,
    Nat.ofDigitChars_replicate_zero, Nat.mul_zero, Nat.toString_eq_repr, Nat.toList_repr,
    Nat.ofDigitChars_ten_toDigits]

theorem padStart_eq_iff {width m n : ℕ} :
    padStart width (toString m) = padStart width (toString n) ↔ m = n := by
  refine ⟨fun h => ?_, fun h => by rw [h]⟩
  rw [← ofDigitChars_padStart width m, h, ofDigitChars_padStart]

theorem isDigit_padStart {width n : ℕ} {c : Char}
    (h : c ∈ (padStart width (toString n)).toList) : c.isDigit = true := by
  rw [padStart, String.toList_append, String.toList_ofList, List.mem_append,
    Nat.toString_eq_repr, Nat.toList_repr] at h
  rcases h with hzero | hdigit
  · rw [List.eq_of_mem_replicate hzero]
    rfl
  · exact Nat.isDigit_of_mem_toDigits (by decide) (by decide) hdigit

/-- Numbers of one or two digits are padded to one length. -/
theorem length_padStart {m n : ℤ} (hm : 0 ≤ m ∧ m < 100) (hn : 0 ≤ n ∧ n < 100) :
    (padStart 2 (toString m)).toList.length = (padStart 2 (toString n)).toList.length := by
  have hall : ∀ k < 100, (padStart 2 (toString k)).toList.length = 2 := by decide +kernel
  obtain ⟨m, rfl⟩ := Int.eq_ofNat_of_zero_le hm.1
  obtain ⟨n, rfl⟩ := Int.eq_ofNat_of_zero_le hn.1
  exact (hall m (by omega)).trans (hall n (by omega)).symm

theorem padStart_int_eq_iff {width : ℕ} {m n : ℤ} (hm : 0 ≤ m) (hn : 0 ≤ n) :
    padStart width (toString m) = padStart width (toString n) ↔ m = n := by
  obtain ⟨m, rfl⟩ := Int.eq_ofNat_of_zero_le hm
  obtain ⟨n, rfl⟩ := Int.eq_ofNat_of_zero_le hn
  exact padStart_eq_iff.trans Int.ofNat_inj.symm

theorem append_eq_iff {a b s t : String} (hlength : s.toList.length = t.toList.length) :
    a ++ s = b ++ t ↔ a = b ∧ s = t := by
  refine ⟨fun h => ?_, fun ⟨ha, hs⟩ => by rw [ha, hs]⟩
  have hlists := congrArg String.toList h
  rw [String.toList_append, String.toList_append] at hlists
  obtain ⟨ha, hs⟩ := List.append_inj' hlists hlength
  exact ⟨String.toList_injective ha, String.toList_injective hs⟩

theorem isoYear_eq (year : ℤ) :
    isoYear year =
      if 0 ≤ year ∧ year ≤ 9999 then padStart 4 (toString year.natAbs)
      else (if year < 0 then "-" else "+") ++ padStart 6 (toString year.natAbs) := rfl

theorem sign_append_ne {sign : String} {c : Char} (hsign : sign.toList = [c])
    (hc : c.isDigit = false) (text : String) (n : ℕ) : sign ++ text ≠ padStart 4 (toString n) := by
  intro h
  have hmem : c ∈ (padStart 4 (toString n)).toList := by
    rw [← h, String.toList_append, hsign]
    exact List.mem_cons_self
  rw [isDigit_padStart hmem] at hc
  exact Bool.noConfusion hc

theorem isoYear_eq_iff {m n : ℤ} : isoYear m = isoYear n ↔ m = n := by
  refine ⟨fun h => ?_, fun h => by rw [h]⟩
  have hsign : ∀ (y : ℤ) (text : String) (k : ℕ),
      (if y < 0 then "-" else "+") ++ text ≠ padStart 4 (toString k) := by
    intro y text k
    split_ifs
    · exact sign_append_ne (c := '-') rfl rfl text k
    · exact sign_append_ne (c := '+') rfl rfl text k
  rw [isoYear_eq, isoYear_eq] at h
  by_cases hm : 0 ≤ m ∧ m ≤ 9999
  · by_cases hn : 0 ≤ n ∧ n ≤ 9999
    · rw [if_pos hm, if_pos hn, padStart_eq_iff] at h
      omega
    · rw [if_pos hm, if_neg hn] at h
      exact absurd h.symm (hsign n _ _)
  · by_cases hn : 0 ≤ n ∧ n ≤ 9999
    · rw [if_neg hm, if_pos hn] at h
      exact absurd h (hsign m _ _)
    · rw [if_neg hm, if_neg hn] at h
      have hlists := congrArg String.toList h
      rw [String.toList_append, String.toList_append] at hlists
      obtain ⟨hsigns, hdigits⟩ := List.append_inj hlists (by split_ifs <;> rfl)
      have habs := padStart_eq_iff.1 (String.toList_injective hdigits)
      split_ifs at hsigns
      · omega
      · exact absurd hsigns (by decide)
      · exact absurd hsigns (by decide)
      · omega

theorem year_append_eq_iff {m n : ℤ} {mark s t : String}
    (hlength : s.toList.length = t.toList.length) :
    toString m ++ mark ++ s = toString n ++ mark ++ t ↔ m = n ∧ s = t := by
  rw [append_eq_iff hlength, append_eq_iff rfl, Int.toString_eq_repr, Int.toString_eq_repr,
    Int.repr_inj, and_iff_left rfl]

theorem monthIndex_bounds (day : ℤ) : 0 ≤ monthIndex day ∧ monthIndex day ≤ 11 := by
  unfold monthIndex
  omega

theorem dayOfMonth_digits (day : ℤ) : 0 ≤ dayOfMonth day ∧ dayOfMonth day < 100 := by
  have hbounds := Reporting.dayOfMonth_bounds day
  have hyear := firstOfYear_succ_bounds (monthOf day / 12)
  unfold daysInMonth firstOfMonth at hbounds
  by_cases hlast : monthOf day % 12 = 11
  · rw [show (monthOf day + 1) / 12 = monthOf day / 12 + 1 by omega] at hbounds
    omega
  · rw [show (monthOf day + 1) / 12 = monthOf day / 12 by omega] at hbounds
    omega

section Keys

variable {date other : Millis}

theorem dailyKey_eq_iff :
    buildPeriodKey date .daily = buildPeriodKey other .daily ↔ utcDay date = utcDay other := by
  have hmonth := monthIndex_bounds (utcDay date)
  have hmonth' := monthIndex_bounds (utcDay other)
  have hday := dayOfMonth_digits (utcDay date)
  have hday' := dayOfMonth_digits (utcDay other)
  unfold buildPeriodKey
  dsimp only
  rw [append_eq_iff (length_padStart hday hday'), append_eq_iff rfl,
    append_eq_iff (length_padStart (by omega) (by omega)), append_eq_iff rfl, isoYear_eq_iff,
    padStart_int_eq_iff (by omega) (by omega), padStart_int_eq_iff hday.1 hday'.1]
  constructor
  · rintro ⟨⟨⟨⟨hyear, -⟩, hindex⟩, -⟩, hdate⟩
    have hindex : monthIndex (utcDay date) = monthIndex (utcDay other) := by omega
    rw [← newDate_fullYear (utcDay date), hyear, hindex, hdate, newDate_fullYear]
  · intro h
    rw [h]
    simp

theorem monthlyKey_eq_iff :
    buildPeriodKey date .monthly = buildPeriodKey other .monthly ↔
      monthOf (utcDay date) = monthOf (utcDay other) := by
  have hmonth := monthIndex_bounds (utcDay date)
  have hmonth' := monthIndex_bounds (utcDay other)
  unfold buildPeriodKey
  dsimp only
  rw [year_append_eq_iff (length_padStart (by omega) (by omega)),
    padStart_int_eq_iff (by omega) (by omega)]
  unfold fullYear monthIndex
  omega

theorem quarterlyKey_eq_iff :
    buildPeriodKey date .quarterly = buildPeriodKey other .quarterly ↔
      (monthOf (utcDay date) + 2) / 3 = (monthOf (utcDay other) + 2) / 3 := by
  have hdigit : ∀ day : ℤ, (toString ((monthIndex day + 1 - 1) / 3 + 1)).toList.length = 1 := by
    intro day
    have hbounds := monthIndex_bounds day
    have hquarter : 1 ≤ (monthIndex day + 1 - 1) / 3 + 1 ∧
        (monthIndex day + 1 - 1) / 3 + 1 ≤ 4 := by omega
    generalize (monthIndex day + 1 - 1) / 3 + 1 = quarter at hquarter
    obtain ⟨hfrom, hto⟩ := hquarter
    interval_cases quarter <;> rfl
  unfold buildPeriodKey
  dsimp only
  rw [year_append_eq_iff (by rw [hdigit, hdigit]), Int.toString_eq_repr, Int.toString_eq_repr,
    Int.repr_inj]
  unfold fullYear monthIndex
  omega

theorem yearlyKey_eq_iff :
    buildPeriodKey date .yearly = buildPeriodKey other .yearly ↔
      fullYear (utcDay date) = fullYear (utcDay other) := Int.repr_inj

/-! ### Weeks -/

theorem newDate_fullYear_le (day : ℤ) : newDate (fullYear day) 0 1 ≤ day := by
  have hmonth : 12 * fullYear day + 0 - 2 ≤ monthOf day := by
    unfold fullYear
    omega
  have hle := le_monthOf_iff.1 hmonth
  unfold newDate
  omega

theorem getWeekOfYear_eq (h : InWholeWeek (utcDay date)) :
    ∃ week, getWeekOfYear date = some week ∧ 1 ≤ week ∧ week ≤ 52 ∧
      (newDate (fullYear (utcDay date)) 0 1 + 2) / 7 + week = (utcDay date + 2) / 7 + 1 := by
  obtain ⟨hyear, first, hfirst, hmonday, hwhole⟩ := h
  have hbegun := newDate_fullYear_le (utcDay date)
  rw [← dateUtc_eq_some hyear hfirst] at hbegun ⊢
  have hweek : getWeekOfYear date =
      some ((date - (first - 719468) * 86400000) / (7 * 24 * 60 * 60 * 1000) + 1) := by
    unfold getWeekOfYear
    rw [Option.mem_def.1 hfirst]
    rfl
  have hdays : ∀ time : ℤ, (time - (first - 719468) * 86400000) / (7 * 24 * 60 * 60 * 1000) =
      (time / 86400000 + 719468 - first) / 7 := by
    intro time
    omega
  rw [hdays, ← utcDay] at hweek
  obtain ⟨k, hk⟩ : ∃ k, first = 7 * k - 2 := by
    unfold weekday at hmonday
    exact ⟨(first + 2) / 7, by omega⟩
  refine ⟨_, hweek, ?_, ?_, ?_⟩ <;> omega

example : getWeekOfYear 0 = some 1 := by decide +kernel

theorem fullYear_monday {day : ℤ} (h : InWholeWeek day) :
    fullYear ((day + 2) / 7 * 7 - 2) = fullYear day := by
  obtain ⟨hyear, first, hfirst, hmonday, hwhole⟩ := h
  have hbegun := newDate_fullYear_le day
  have hfirst := dateUtc_eq_some hyear hfirst
  unfold weekday at hmonday
  have hle : newDate (fullYear day) 0 1 ≤ (day + 2) / 7 * 7 - 2 := by omega
  have hafter : 12 * fullYear day + 0 - 2 ≤ monthOf ((day + 2) / 7 * 7 - 2) := by
    apply le_monthOf_iff.2
    unfold newDate at hle
    omega
  have hbefore : monthOf ((day + 2) / 7 * 7 - 2) ≤ monthOf day := monthOf_le (by omega)
  unfold fullYear at *
  omega

theorem weeklyKey_eq_iff (h : InWholeWeek (utcDay date)) (h' : InWholeWeek (utcDay other)) :
    buildPeriodKey date .weekly = buildPeriodKey other .weekly ↔
      (utcDay date + 2) / 7 = (utcDay other + 2) / 7 := by
  obtain ⟨week, hweek, hfrom, hto, hindex⟩ := getWeekOfYear_eq h
  obtain ⟨week', hweek', hfrom', hto', hindex'⟩ := getWeekOfYear_eq h'
  unfold buildPeriodKey
  dsimp only
  rw [hweek, hweek', Option.elim_some, Option.elim_some,
    year_append_eq_iff (length_padStart (by omega) (by omega)),
    padStart_int_eq_iff (by omega) (by omega)]
  constructor
  · rintro ⟨hyear, rfl⟩
    rw [hyear] at hindex
    omega
  · intro hsame
    have hyear : fullYear (utcDay date) = fullYear (utcDay other) := by
      rw [← fullYear_monday h, hsame, fullYear_monday h']
    rw [hyear] at hindex
    exact ⟨hyear, by omega⟩

theorem buildPeriodKey_eq_iff {type : PeriodType} (h : type = .weekly → InWholeWeek (utcDay date))
    (h' : type = .weekly → InWholeWeek (utcDay other)) :
    buildPeriodKey date type = buildPeriodKey other type ↔
      periodIndex type (utcDay date) = periodIndex type (utcDay other) := by
  cases type with
  | daily => exact dailyKey_eq_iff
  | weekly => exact weeklyKey_eq_iff (h rfl) (h' rfl)
  | monthly => exact monthlyKey_eq_iff.trans (by simp [periodIndex])
  | quarterly => exact quarterlyKey_eq_iff
  | yearly => exact yearlyKey_eq_iff

end Keys

/-! ### Stored buckets -/

def TimeBucket.contains (bucket : TimeBucket) (date : Millis) : Prop :=
  bucket.bucketStart ≤ utcDay date ∧ utcDay date ≤ bucket.bucketEnd

instance (bucket : TimeBucket) (date : Millis) : Decidable (bucket.contains date) :=
  inferInstanceAs (Decidable (_ ∧ _))

def Right (bucket : TimeBucket) : Prop :=
  ∃ date, (bucket.periodType = .weekly → InWholeWeek (utcDay date)) ∧
    bucket.periodKey = buildPeriodKey date bucket.periodType ∧
    ∀ day, bucket.bucketStart ≤ day ∧ day ≤ bucket.bucketEnd ↔
      periodIndex bucket.periodType day = periodIndex bucket.periodType (utcDay date)

theorem Right.contains_iff {bucket : TimeBucket} (hright : Right bucket) {date : Millis}
    (hweek : bucket.periodType = .weekly → InWholeWeek (utcDay date)) :
    bucket.contains date ↔ buildPeriodKey date bucket.periodType = bucket.periodKey := by
  obtain ⟨origin, horigin, hkey, hbounds⟩ := hright
  rw [TimeBucket.contains, hbounds, hkey, buildPeriodKey_eq_iff hweek horigin]

theorem inWholeWeek_of_aligned {fyStartMonth0 : ℤ} {date : Millis} {type : PeriodType}
    (h : Aligned fyStartMonth0 date type) (htype : type = .weekly) :
    InWholeWeek (utcDay date) := by
  subst htype
  exact h

theorem fyStartMonth0_bounds (db : Db) (tenantId : Id) (type : PeriodType) :
    0 ≤ db.fyStartMonth0 tenantId type ∧ db.fyStartMonth0 tenantId type ≤ 11 := by
  have hstart : ∀ found : Option Tenant,
      0 ≤ (found.elim 4 fun tenant => tenant.fiscalYearStart.val) - 1 ∧
        (found.elim 4 fun tenant => tenant.fiscalYearStart.val) - 1 ≤ 11 := by
    intro found
    cases found with
    | none => decide
    | some tenant =>
      have hmonth := tenant.fiscalYearStart.property
      simp only [Option.elim_some]
      omega
  have hother : (0 : ℤ) ≤ 3 ∧ (3 : ℤ) ≤ 11 := by decide
  cases type with
  | daily => exact hother
  | weekly => exact hother
  | monthly => exact hstart _
  | quarterly => exact hstart _
  | yearly => exact hstart _

section Calls

variable {db after : Db} {call : BucketCall} {bucket : TimeBucket}

/-- What a call looks for. -/
def BucketCall.key (call : BucketCall) : Id × PeriodType × String :=
  (call.tenantId, call.periodType, call.periodKey)

def BucketCall.period (call : BucketCall) (db : Db) : Period :=
  periodOf (db.fyStartMonth0 call.tenantId call.periodType) call.periodDate call.periodType

theorem ensureBucket_eq_ok (hnone : lookup TimeBucket.key db.buckets call.key = none)
    (h : ensureBucket db call.tenantId call.periodDate call.periodType call.periodKey =
      .ok (bucket, after)) :
    after.buckets = db.buckets ++ [bucket] ∧ bucket.key = call.key ∧
      (call.period db).bucketStart = some bucket.bucketStart ∧
      (call.period db).bucketEnd = some bucket.bucketEnd := by
  unfold ensureBucket at h
  dsimp only at h
  rw [← BucketCall.period] at h
  cases hstart : (call.period db).bucketStart with
  | none =>
    rw [hstart] at h
    cases h
  | some bucketStart =>
    cases hend : (call.period db).bucketEnd with
    | none =>
      rw [hstart, hend] at h
      cases h
    | some bucketEnd =>
      rw [hstart, hend] at h
      dsimp only at h
      rw [← BucketCall.key, hnone] at h
      cases h
      exact ⟨rfl, rfl, rfl, rfl⟩

/-- A bucket is found, or it is made of the period of the date. -/
theorem getBucketOrThrow_eq_ok (h : getBucketOrThrow db call = .ok (bucket, after)) :
    (after = db ∧ lookup TimeBucket.key db.buckets call.key = some bucket) ∨
      (after.buckets = db.buckets ++ [bucket] ∧ bucket.key = call.key ∧
        (call.period db).bucketStart = some bucket.bucketStart ∧
        (call.period db).bucketEnd = some bucket.bucketEnd) := by
  unfold getBucketOrThrow at h
  rw [← BucketCall.key] at h
  obtain ⟨⟨found, db'⟩, hfound, hrest⟩ := bind_eq_ok.1 h
  have hpair : (found, db') = (bucket, after) := by
    dsimp only at hrest
    split_ifs at hrest
    · cases hrest
    · exact Except.ok.inj hrest
  obtain ⟨rfl, rfl⟩ := Prod.mk.inj hpair
  cases hlookup : lookup TimeBucket.key db.buckets call.key with
  | some stored =>
    rw [hlookup] at hfound
    obtain ⟨rfl, rfl⟩ := Prod.mk.inj (Except.ok.inj hfound)
    exact .inl ⟨rfl, rfl⟩
  | none =>
    rw [hlookup] at hfound
    exact .inr (ensureBucket_eq_ok hlookup hfound)

theorem right_of_getBucketOrThrow (hdb : ∀ b ∈ db.buckets, Right b)
    (haligned : Aligned (db.fyStartMonth0 call.tenantId call.periodType) call.periodDate
      call.periodType)
    (h : getBucketOrThrow db call = .ok (bucket, after)) :
    bucket.key = call.key ∧ Right bucket := by
  rcases getBucketOrThrow_eq_ok h with ⟨-, hfound⟩ | ⟨-, hkey, hstart, hend⟩
  · obtain ⟨hmem, hkey⟩ := lookup_eq_some hfound
    exact ⟨hkey, hdb bucket hmem⟩
  · have hparts := hkey
    simp only [TimeBucket.key, BucketCall.key, Prod.mk.injEq] at hparts
    obtain ⟨-, htype, hperiod⟩ := hparts
    refine ⟨hkey, call.periodDate, ?_, ?_, ?_⟩
    · rw [htype]
      exact inWholeWeek_of_aligned haligned
    · rw [htype, hperiod, BucketCall.periodKey]
    · rw [htype]
      exact between_bounds_iff (fyStartMonth0_bounds ..) haligned hstart hend

end Calls

/-! ### Runs -/

/-- A call for an aligned date, with the fiscal year of the tenant at the time. -/
def AlignedCall (db : Db) : Action → Prop
  | .getBucket call =>
    Aligned (db.fyStartMonth0 call.tenantId call.periodType) call.periodDate call.periodType
  | _ => True

instance (db : Db) : (action : Action) → Decidable (AlignedCall db action)
  | .getBucket call => inferInstanceAs (Decidable (Aligned _ call.periodDate call.periodType))
  | .setFiscalYearStart _ => inferInstanceAs (Decidable True)
  | .setFrozen _ _ => inferInstanceAs (Decidable True)

/-- Every bucket that is returned contains the date it was asked for, and of the dates of other
calls for the tenant and the type it contains those with its key. -/
def KeysFollowBuckets (db : Db) (actions : List Action) : Prop :=
  ∀ (i : ℕ) (call : BucketCall) bucket after, actions[i]? = some (.getBucket call) →
    getBucketOrThrow (stateAt next db actions i) call = .ok (bucket, after) →
    bucket.contains call.periodDate ∧
      ∀ (j : ℕ) (other : BucketCall), actions[j]? = some (.getBucket other) →
        other.tenantId = call.tenantId → other.periodType = call.periodType →
        (other.periodKey = call.periodKey ↔ bucket.contains other.periodDate)

theorem right_next {db : Db} {action : Action} (hdb : ∀ b ∈ db.buckets, Right b)
    (haligned : AlignedCall db action) : ∀ b ∈ (next db action).buckets, Right b := by
  cases action with
  | getBucket call =>
    cases hresult : getBucketOrThrow db call with
    | error error =>
      simp only [next, hresult]
      exact hdb
    | ok result =>
      obtain ⟨bucket, after⟩ := result
      have hright := (right_of_getBucketOrThrow hdb haligned hresult).2
      simp only [next, hresult]
      rcases getBucketOrThrow_eq_ok hresult with ⟨rfl, -⟩ | ⟨hafter, -⟩
      · exact hdb
      · rw [hafter]
        intro b hb
        rcases List.mem_append.1 hb with hstored | hnew
        · exact hdb b hstored
        · rwa [List.mem_singleton.1 hnew]
  | setFiscalYearStart tenant => exact hdb
  | setFrozen key isFrozen =>
    intro b hb
    obtain ⟨stored, hstored, rfl⟩ := List.mem_map.1 hb
    split_ifs
    · exact hdb stored hstored
    · exact hdb stored hstored

/-- Along aligned calls keys and buckets agree. -/
theorem keysFollowBuckets {db : Db} (hempty : db.buckets = []) {actions : List Action}
    (h : Always next AlignedCall db actions) : KeysFollowBuckets db actions := by
  intro i call bucket after hi hresult
  have hdb : ∀ b ∈ (stateAt next db actions i).buckets, Right b := by
    apply Always.invariant_at (I := fun db : Db => ∀ b ∈ db.buckets, Right b)
      (fun _ _ hdb haligned => right_next hdb haligned) _ h
    rw [hempty]
    exact List.forall_mem_nil Right
  have haligned := h.at hi
  obtain ⟨hkey, hright⟩ := right_of_getBucketOrThrow hdb haligned hresult
  simp only [TimeBucket.key, BucketCall.key, Prod.mk.injEq] at hkey
  obtain ⟨-, htype, hperiod⟩ := hkey
  constructor
  · rw [hright.contains_iff (htype ▸ inWholeWeek_of_aligned haligned), htype, hperiod]
    rfl
  · intro j other hj _ hsame
    have hweek := inWholeWeek_of_aligned (h.at hj)
    rw [hright.contains_iff (by rwa [htype, ← hsame]), htype, ← hsame, hperiod]
    rfl

/-- A week of 2024, a year that began with a Monday, and quarters of a fiscal year from July. -/
theorem keysFollowBuckets_july :
    KeysFollowBuckets { tenants := [⟨1, 7, by decide⟩], buckets := [] }
      [.getBucket ⟨1, 1707523200000, .weekly, false⟩,
        .getBucket ⟨1, 1707523200000, .quarterly, false⟩,
        .getBucket ⟨1, 1709164800000, .quarterly, true⟩] := by
  apply keysFollowBuckets rfl
  decide +kernel

/-- In February 2026 the fiscal year from April 2025 gets the key of 2026. In May it is found. -/
theorem not_keysFollowBuckets_april :
    ¬KeysFollowBuckets { tenants := [⟨1, 4, by decide⟩], buckets := [] }
      [.getBucket ⟨1, 1770681600000, .yearly, false⟩,
        .getBucket ⟨1, 1778371200000, .yearly, false⟩] := by
  intro h
  have hfound := (h 1 _ _ _ rfl rfl).1
  exact absurd hfound (by decide +kernel)

end Forecast.TimeBuckets
