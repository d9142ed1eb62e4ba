import Forecast.Lib.DigitTexts
import Forecast.Marg.Dates
import Forecast.Reporting.ComparisonLaw

/-!
# The day that a date text names

A text in one of the day-month-year shapes, or an ISO date, names a day. `parseMargDate` carries a
day that its month does not have over into the next one, and what its own readings do not take is
read by the platform, month first.
-/

open JsText Calendar

namespace Forecast.MargDate

open Reporting (newDate fullYear monthIndex dayOfMonth)

/-! ### Numbers of a date -/

theorem integer?_digits {cs : List Char} {n : ℕ} (h : natural? 10 cs = some n)
    (hlength : cs.length ≤ 4) : integer? cs = some (n : ℤ) := by
  have hlt : n < 10 ^ 4 := (natural?_lt h).trans_le (Nat.pow_le_pow_right (by norm_num) hlength)
  have hbound : |(n : ℚ)| < MargValue.infinityBound := by
    have hcast : (n : ℚ) < 10000 := by exact_mod_cast hlt
    have hone : (1 : ℚ) ≤ 2 ^ 970 := one_le_pow₀ (by norm_num)
    have hsplit : (2 : ℚ) ^ 1024 = 2 ^ 970 * 2 ^ 54 := by rw [← pow_add]
    rw [Nat.abs_cast, MargValue.infinityBound, hsplit]
    generalize (2 : ℚ) ^ 970 = power at hone
    norm_num
    linarith
  rw [integer?, MargValue.numberOf, decimal?_digits h]
  dsimp only
  rw [if_pos hbound, Decimal.toDouble, Binary64.round_natCast (hlt.trans (by norm_num))]
  simp

/-- One or two digits before something else. -/
theorem shortNumber?_append {digits rest : List Char} {n : ℕ} (h : natural? 10 digits = some n)
    (hlength : digits.length ≤ 2) (hrest : ∀ c ∈ rest.head?, isDigit c = false) :
    shortNumber? (digits ++ rest) = some (n, rest) := by
  have hdigits := isDigit_of_natural? h
  have htake : ((digits ++ rest).takeWhile isDigit).take 2 = digits := by
    rw [List.takeWhile_append_of_pos hdigits]
    have hnone : rest.takeWhile isDigit = [] := by
      cases rest with
      | nil => rfl
      | cons c rest => rw [List.takeWhile_cons_of_neg (by simp [hrest c rfl])]
    rw [hnone, List.append_nil, List.take_of_length_le hlength]
  rw [shortNumber?, htake, h, Option.map_some, List.drop_left]

/-! ### The days of the platform's calendar -/

def utcDate (time : ℤ) : ℤ := time / 86400000 + 719468

theorem yearStart_add_monthStart (year : ℤ) {month : ℕ} (h : month < 12) :
    yearStart year + monthStart year month = newDate year month 1 - 719468 := by
  by_cases hwinter : month < 2
  · have hyear : (12 * year + month - 2) / 12 = year - 1 := by omega
    have hindex : (12 * year + month - 2) % 12 = month + 10 := by omega
    unfold yearStart monthStart newDate firstOfMonth firstOfYear
    rw [hyear, hindex]
    interval_cases month <;> simp <;> omega
  · have hyear : (12 * year + month - 2) / 12 = year := by omega
    have hindex : (12 * year + month - 2) % 12 = month - 2 := by omega
    have hleap : (if isLeap year ∧ 2 ≤ month then 1 else 0 : ℤ) =
        year / 4 - (year - 1) / 4 - (year / 100 - (year - 1) / 100) +
          (year / 400 - (year - 1) / 400) := by
      unfold isLeap
      split_ifs with hyes
      · simp only [decide_eq_true_eq] at hyes
        omega
      · simp only [decide_eq_true_eq] at hyes
        omega
    unfold yearStart monthStart newDate firstOfMonth firstOfYear
    rw [hyear, hindex, hleap]
    interval_cases month <;> simp at * <;> omega

theorem monthStart_bounds (year : ℤ) {month : ℕ} (h : month < 12) :
    0 ≤ monthStart year month ∧ monthStart year month ≤ 335 := by
  unfold monthStart
  interval_cases month <;> simp <;> split_ifs <;> omega

/-- `Date.UTC` takes years of two digits to be those of the twentieth century. -/
def centuryYear (year : ℤ) : ℤ := if 0 ≤ year ∧ year ≤ 99 then 1900 + year else year

/-- Numbers of up to four and two digits make a time, of the right day if there is that month. -/
theorem utc_eq {year month day hour minute second : ℕ} (hyear : year < 10 ^ 4)
    (hmonth : month < 100) (hday : day < 100) (hhour : hour < 100) (hminute : minute < 100)
    (hsecond : second < 100) :
    ∃ time : ℤ, utc year (month - 1) day hour minute second = some time ∧
      (1 ≤ month → month ≤ 12 →
        time = (newDate (centuryYear year) (month - 1) day - 719468) * 86400000 +
          (hour * 3600 + minute * 60 + second) * 1000) := by
  have hcentury : 100 ≤ centuryYear year ∧ centuryYear year < 10 ^ 4 := by
    unfold centuryYear
    split_ifs <;> omega
  generalize hcarried : centuryYear year + ((month : ℤ) - 1) / 12 = carried
  generalize hindex : (((month : ℤ) - 1) % 12).toNat = index
  have hrange : index < 12 := by omega
  have hstart := monthStart_bounds carried hrange
  have hyears : -800000 ≤ yearStart carried ∧ yearStart carried ≤ 3000000 := by
    unfold yearStart
    omega
  have htime : utc year (month - 1) day hour minute second =
      if |(((yearStart carried + monthStart carried index + (day - 1)) * 24 + hour) * 60 +
        minute) * 60000 + second * 1000| ≤ maxTime then
        some ((((yearStart carried + monthStart carried index + (day - 1)) * 24 + hour) * 60 +
          minute) * 60000 + second * 1000)
      else none := by
    rw [utc, ← hcarried, ← hindex]
    rfl
  refine ⟨_, htime.trans (if_pos ?_), fun hfrom hto => ?_⟩
  · rw [abs_le, maxTime]
    omega
  · have hsame : carried = centuryYear year := by omega
    have hplace : (index : ℤ) = month - 1 := by omega
    have hday := yearStart_add_monthStart carried hrange
    have hfirst :
        newDate (centuryYear year) (month - 1) day = newDate carried index 1 + day - 1 := by
      rw [hsame, hplace, newDate, newDate]
      omega
    rw [hfirst, hday]
    ring

/-! ### What is written -/

/-- The shape of a date text; an ISO date has a rest, which may be a time. -/
inductive DateForm where
  | shortYear
  | longYear
  | iso (rest : List Char)
deriving DecidableEq

structure WrittenDay where
  day : ℕ
  month : ℕ
  year : ℕ
  form : DateForm
deriving DecidableEq

/-- The text has one of the day-month-year shapes, or that of an ISO date. -/
inductive Writes : List Char → WrittenDay → Prop
  | dayFirst {day month year : List Char} {first second : Char} {d m y : ℕ}
      (hday : natural? 10 day = some d) (hdayLength : day.length ≤ 2)
      (hmonth : natural? 10 month = some m) (hmonthLength : month.length ≤ 2)
      (hyear : natural? 10 year = some y) (hyearLength : year.length = 2 ∨ year.length = 4)
      (hfirst : first ∈ ['/', '-', '.']) (hsecond : second ∈ ['/', '-', '.']) :
      Writes (day ++ first :: (month ++ second :: year))
        ⟨d, m, y, if year.length = 2 then .shortYear else .longYear⟩
  | iso {day month year rest : List Char} {first second : Char} {d m y : ℕ}
      (hyear : natural? 10 year = some y) (hyearLength : year.length = 4)
      (hmonth : natural? 10 month = some m) (hmonthLength : month.length ≤ 2)
      (hday : natural? 10 day = some d) (hdayLength : day.length ≤ 2)
      (hfirst : first ∈ ['-', '/']) (hsecond : second ∈ ['-', '/'])
      (hrest : ∀ c ∈ rest.head?, c = ' ' ∨ c = 'T') :
      Writes (year ++ first :: (month ++ second :: (day ++ rest))) ⟨d, m, y, .iso rest⟩

namespace WrittenDay

def IsDayOf (w : WrittenDay) (time : ℤ) : Prop :=
  dayOfMonth (utcDate time) = w.day ∧ monthIndex (utcDate time) + 1 = w.month ∧
    if w.form = .shortYear then fullYear (utcDate time) % 100 = w.year
    else fullYear (utcDate time) = w.year

/-- There is such a day. -/
def Exists (w : WrittenDay) : Prop :=
  1 ≤ w.month ∧ w.month ≤ 12 ∧ 1 ≤ w.day ∧
    (w.day : ℤ) ≤ daysInMonth (12 * w.year + (w.month - 1) - 2)

theorem isDayOf_iff {w : WrittenDay} (hform : w.form ≠ .shortYear) (time : ℤ) :
    w.IsDayOf time ↔ w.Exists ∧ utcDate time = newDate w.year (w.month - 1) w.day := by
  rw [IsDayOf, if_neg hform]
  constructor
  · rintro ⟨hday, hmonth, hyear⟩
    have hindex : monthIndex (utcDate time) = w.month - 1 := by omega
    have hbounds := Reporting.dayOfMonth_bounds (utcDate time)
    have hsame : monthOf (utcDate time) = 12 * w.year + (w.month - 1) - 2 := by
      unfold monthIndex at hindex
      unfold fullYear at hyear
      omega
    rw [hday, hsame] at hbounds
    refine ⟨⟨?_, ?_, by omega, hbounds.2⟩, ?_⟩
    · unfold monthIndex at hindex
      omega
    · unfold monthIndex at hindex
      omega
    · rw [← hyear, ← hindex, ← hday, Reporting.newDate_fullYear]
  · rintro ⟨⟨hfrom, hto, hfirst, hlast⟩, hday⟩
    have hsame : monthOf (newDate w.year (w.month - 1) w.day) =
        12 * w.year + (w.month - 1) - 2 := Reporting.monthOf_newDate (by omega) hlast
    rw [hday]
    unfold dayOfMonth monthIndex fullYear
    rw [hsame, newDate]
    omega

theorem newDate_centuryYear (year : ℕ) (month day : ℤ) :
    newDate year month day ≤ newDate (centuryYear year) month day ∧
      (newDate (centuryYear year) month day = newDate year month day ↔ 100 ≤ year) := by
  unfold centuryYear
  split_ifs with hshort
  · have hlater : newDate year month day < newDate (1900 + year) month day := by
      have hnext := firstOfMonth_lt_succ (12 * year + month - 2)
      have hmono : firstOfMonth (12 * year + month - 2 + 1) ≤
          firstOfMonth (12 * (1900 + year) + month - 2) := firstOfMonth_le (by omega)
      unfold newDate
      omega
    omega
  · omega

/-- The time that is made of the numbers is one of the day if that exists, its year is not taken
for one of the twentieth century, and the time of day does not reach the next day. -/
theorem isDayOf_utc {w : WrittenDay} (hform : w.form ≠ .shortYear) (hyear : w.year < 10 ^ 4)
    (hmonth : w.month < 100) (hday : w.day < 100) {hour minute second : ℕ} (hhour : hour < 100)
    (hminute : minute < 100) (hsecond : second < 100) :
    (∀ time ∈ utc w.year (w.month - 1) w.day hour minute second, w.IsDayOf time) ↔
      w.Exists ∧ 100 ≤ w.year ∧ hour * 3600 + minute * 60 + second < 86400 := by
  obtain ⟨time, htime, hwhen⟩ := utc_eq hyear hmonth hday hhour hminute hsecond
  rw [htime]
  simp only [Option.mem_some_iff, forall_eq']
  rw [isDayOf_iff hform]
  apply and_congr_right
  rintro ⟨hfrom, hto, -, -⟩
  have hcentury := newDate_centuryYear w.year ((w.month : ℤ) - 1) w.day
  have hdate : utcDate time = newDate (centuryYear w.year) (w.month - 1) w.day +
      ((hour * 3600 + minute * 60 + second : ℕ) : ℤ) / 86400 := by
    rw [utcDate, hwhen hfrom hto]
    omega
  rw [hdate, ← hcentury.2]
  omega

end WrittenDay

/-! ### The readings of the code -/

/-- Both other separators become slashes. -/
def slashed (c : Char) : Char := if c = '.' ∨ c = '-' then '/' else c

/-- What the day-first reading makes of its parts. -/
def ofParts : List (List Char) → Option (Option Millis)
  | [dayPart, monthPart, yearPart] =>
    if dayPart.length ≤ 2 then
      match integer? dayPart, integer? monthPart, integer? yearPart with
      | some day, some month, some year =>
        if 1 ≤ day ∧ day ≤ 31 ∧ 1 ≤ month ∧ month ≤ 12 ∧ 1900 ≤ year then
          some (utc year (month - 1) day 0 0 0)
        else none
      | _, _, _ => none
    else none
  | _ => none

theorem dayFirst?_eq_ofParts (cs : List Char) :
    dayFirst? cs = ofParts (splitChars '/' (cs.map slashed)) := rfl

theorem map_slashed_digits {cs : List Char} (h : ∀ c ∈ cs, isDigit c = true) :
    cs.map slashed = cs := by
  have hsame : ∀ c ∈ cs, slashed c = id c := by
    intro c hc
    rw [slashed, if_neg]
    · rfl
    · exact not_or.2 ⟨ne_of_isDigit (h c hc) (by decide), ne_of_isDigit (h c hc) (by decide)⟩
  rw [List.map_congr_left hsame, List.map_id]

theorem not_mem_digits {cs : List Char} (h : ∀ c ∈ cs, isDigit c = true) {sep : Char}
    (hsep : isDigit sep = false) : sep ∉ cs := fun hmem => by
  rw [h sep hmem] at hsep
  cases hsep

theorem slashed_of_mem {c : Char} (h : c ∈ ['/', '-', '.']) : slashed c = '/' := by
  simp only [List.mem_cons, List.not_mem_nil, or_false] at h
  rcases h with rfl | rfl | rfl <;> rfl

theorem isDigit_slash {c : Char} (h : c ∈ ['/', '-', '.']) : isDigit c = false := by
  simp only [List.mem_cons, List.not_mem_nil, or_false] at h
  rcases h with rfl | rfl | rfl <;> rfl

section Readings

variable {day month year rest : List Char} {first second : Char} {d m y : ℕ}

theorem dayFirst?_eq (hday : natural? 10 day = some d) (hdayLength : day.length ≤ 2)
    (hmonth : natural? 10 month = some m) (hmonthLength : month.length ≤ 2)
    (hyear : natural? 10 year = some y) (hyearLength : year.length ≤ 4)
    (hfirst : first ∈ ['/', '-', '.']) (hsecond : second ∈ ['/', '-', '.']) :
    dayFirst? (day ++ first :: (month ++ second :: year)) =
      if 1 ≤ d ∧ d ≤ 31 ∧ 1 ≤ m ∧ m ≤ 12 ∧ 1900 ≤ y then some (utc y (m - 1) d 0 0 0)
      else none := by
  have hslash : isDigit '/' = false := by decide
  have hparts : splitChars '/' ((day ++ first :: (month ++ second :: year)).map slashed) =
      [day, month, year] := by
    rw [List.map_append, List.map_cons, List.map_append, List.map_cons, slashed_of_mem hfirst,
      slashed_of_mem hsecond, map_slashed_digits (isDigit_of_natural? hday),
      map_slashed_digits (isDigit_of_natural? hmonth),
      map_slashed_digits (isDigit_of_natural? hyear),
      splitChars_append (not_mem_digits (isDigit_of_natural? hday) hslash),
      splitChars_append (not_mem_digits (isDigit_of_natural? hmonth) hslash),
      splitChars_of_not_mem (not_mem_digits (isDigit_of_natural? hyear) hslash)]
  rw [dayFirst?_eq_ofParts, hparts, ofParts, if_pos hdayLength,
    integer?_digits hday (by omega), integer?_digits hmonth (by omega),
    integer?_digits hyear hyearLength]
  exact if_congr (by omega) rfl rfl

/-- A text whose first four characters are not digits is no ISO date. -/
theorem iso?_eq_none (hdayLength : day.length ≤ 2)
    (hfirst : first ∈ ['/', '-', '.']) : iso? (day ++ first :: rest) = none := by
  have hmem : first ∈ (day ++ first :: rest).take 4 := by
    rw [List.take_append, List.mem_append]
    right
    obtain ⟨k, hk⟩ : ∃ k, 4 - day.length = k + 1 := ⟨3 - day.length, by omega⟩
    rw [hk, List.take_succ_cons]
    exact List.mem_cons_self
  have hnone : natural? 10 ((day ++ first :: rest).take 4) = none := by
    rw [Option.eq_none_iff_forall_not_mem]
    intro n hn
    have hdigit := isDigit_of_natural? hn first hmem
    rw [isDigit_slash hfirst] at hdigit
    cases hdigit
  rw [iso?, hnone]
  rfl

theorem dayFirst?_eq_none (hyear : natural? 10 year = some y) (hyearLength : year.length = 4)
    (hfirst : first ∈ ['-', '/']) : dayFirst? (year ++ first :: rest) = none := by
  have hslashed : slashed first = '/' := by
    simp only [List.mem_cons, List.not_mem_nil, or_false] at hfirst
    rcases hfirst with rfl | rfl <;> rfl
  have hparts : splitChars '/' ((year ++ first :: rest).map slashed) =
      year :: splitChars '/' (rest.map slashed) := by
    rw [List.map_append, List.map_cons, hslashed, map_slashed_digits (isDigit_of_natural? hyear),
      splitChars_append (not_mem_digits (isDigit_of_natural? hyear) (by decide))]
  rw [dayFirst?_eq_ofParts, hparts]
  generalize splitChars '/' (rest.map slashed) = parts
  rcases parts with - | ⟨monthPart, - | ⟨yearPart, - | ⟨part, parts⟩⟩⟩
  · rfl
  · rfl
  · exact if_neg (by omega)
  · rfl

theorem afterSeparator_cons {c : Char} (h : c ∈ ['-', '/']) (cs : List Char) :
    iso?.afterSeparator (c :: cs) = some cs := by
  rw [iso?.afterSeparator, if_pos (by simpa using h)]

theorem isDigit_separator {c : Char} (h : c ∈ ['-', '/']) : isDigit c = false := by
  simp only [List.mem_cons, List.not_mem_nil, or_false] at h
  rcases h with rfl | rfl <;> rfl

theorem iso?_eq (hyear : natural? 10 year = some y) (hyearLength : year.length = 4)
    (hmonth : natural? 10 month = some m) (hmonthLength : month.length ≤ 2)
    (hday : natural? 10 day = some d) (hdayLength : day.length ≤ 2)
    (hfirst : first ∈ ['-', '/']) (hsecond : second ∈ ['-', '/'])
    (hrest : ∀ c ∈ rest.head?, c = ' ' ∨ c = 'T') :
    iso? (year ++ first :: (month ++ second :: (day ++ rest))) =
      (timePart? rest).map fun (hour, minute, second) => utc y (m - 1) d hour minute second := by
  have hafter : ∀ c ∈ rest.head?, isDigit c = false := by
    intro c hc
    rcases hrest c hc with rfl | rfl <;> decide
  have hmonthRead : shortNumber? (month ++ second :: (day ++ rest)) =
      some (m, second :: (day ++ rest)) := by
    apply shortNumber?_append hmonth hmonthLength
    intro c hc
    obtain rfl : second = c := Option.some.inj hc
    exact isDigit_separator hsecond
  rw [iso?, List.take_left' hyearLength, List.drop_left' hyearLength, hyear,
    afterSeparator_cons hfirst]
  simp only [Option.bind_eq_bind, Option.bind_some, hmonthRead, afterSeparator_cons hsecond,
    shortNumber?_append hday hdayLength hafter]
  cases timePart? rest <;> rfl

end Readings

/-! ### The law -/

theorem shortNumber?_lt {cs rest : List Char} {n : ℕ} (h : shortNumber? cs = some (n, rest)) :
    n < 100 := by
  obtain ⟨value, hvalue, hpair⟩ := Option.map_eq_some_iff.1 h
  have hlt := natural?_lt hvalue
  have hlength : ((cs.takeWhile isDigit).take 2).length ≤ 2 := List.length_take_le _ _
  obtain rfl : value = n := congrArg Prod.fst hpair
  exact hlt.trans_le (Nat.pow_le_pow_right (by norm_num) hlength)

theorem colonNumber_lt (cs : List Char) : (colonNumber cs).1 < 100 := by
  unfold colonNumber
  split
  · rename_i ds
    cases hread : shortNumber? ds with
    | none => exact Nat.zero_lt_succ _
    | some found => exact shortNumber?_lt hread
  · exact Nat.zero_lt_succ _

theorem timePart?_lt {cs : List Char} {hour minute second : ℕ}
    (h : timePart? cs = some (hour, minute, second)) :
    hour < 100 ∧ minute < 100 ∧ second < 100 := by
  cases cs with
  | nil =>
    obtain ⟨rfl, rfl, rfl⟩ : 0 = hour ∧ 0 = minute ∧ 0 = second := by simpa [timePart?] using h
    omega
  | cons c cs =>
    rw [timePart?] at h
    split_ifs at h with hseparator
    obtain ⟨⟨hours, rest⟩, hhour, h⟩ := Option.bind_eq_some_iff.1 h
    dsimp only at h
    split_ifs at h
    have hpair := Option.some.inj h
    rw [Prod.mk.injEq, Prod.mk.injEq] at hpair
    obtain ⟨rfl, rfl, rfl⟩ := hpair
    exact ⟨shortNumber?_lt hhour, colonNumber_lt _, colonNumber_lt _⟩

/-- When the reading of a text gives the day that is written: where the code reads it itself, the
day exists, and the numbers of an ISO date are not carried over; what the platform reads, it
rejects or reads as it is written. -/
def WrittenDay.ReadRight (platform : Platform) (text : String) (w : WrittenDay) : Prop :=
  match w.form with
  | .shortYear => ∀ time ∈ platform.parseDate text, w.IsDayOf time
  | .longYear =>
    if 1 ≤ w.day ∧ w.day ≤ 31 ∧ 1 ≤ w.month ∧ w.month ≤ 12 ∧ 1900 ≤ w.year then w.Exists
    else ∀ time ∈ platform.parseDate text, w.IsDayOf time
  | .iso rest =>
    match timePart? rest with
    | some (hour, minute, second) =>
      w.Exists ∧ 100 ≤ w.year ∧ hour * 3600 + minute * 60 + second < 86400
    | none => ∀ time ∈ platform.parseDate text, w.IsDayOf time

theorem parseMargDate_eq (platform : Platform) {text : String} (h : trim text ≠ "") :
    parseMargDate platform (.text text) =
      match dayFirst? (trim text).toList with
      | some date => date
      | none =>
        match iso? (trim text).toList with
        | some date => date
        | none => platform.parseDate (trim text) := by
  have htrimmed : (MargValue.text text).trimmed = trim text := rfl
  rw [parseMargDate, htrimmed]
  generalize (trim text).toList = cs
  cases dayFirst? cs with
  | some date => exact if_neg h
  | none =>
    cases iso? cs with
    | some date => exact if_neg h
    | none => exact if_neg h

theorem isDayOf_iff_readRight (platform : Platform) {text : String} {w : WrittenDay}
    (h : Writes (trim text).toList w) :
    (∀ time ∈ parseMargDate platform (.text text), w.IsDayOf time) ↔
      w.ReadRight platform (trim text) := by
  have hne : trim text ≠ "" := by
    intro hempty
    rw [hempty] at h
    generalize hcs : "".toList = cs at h
    cases h <;> simp at hcs
  rw [parseMargDate_eq platform hne]
  generalize hcs : (trim text).toList = cs at h
  cases h with
  | @dayFirst day month year first second d m y hday hdayLength hmonth hmonthLength hyear
      hyearLength hfirst hsecond =>
    rw [dayFirst?_eq hday hdayLength hmonth hmonthLength hyear (by omega) hfirst hsecond,
      iso?_eq_none hdayLength hfirst]
    rcases hyearLength with hshort | hlong
    · have hlt : y < 100 := by
        have hlt := natural?_lt hyear
        rwa [hshort] at hlt
      rw [if_neg (by omega), if_pos hshort]
      rfl
    · have hyearLt : y < 10 ^ 4 := by
        have hlt := natural?_lt hyear
        rwa [hlong] at hlt
      rw [if_neg (show ¬year.length = 2 by omega)]
      unfold WrittenDay.ReadRight
      dsimp only
      by_cases htaken : 1 ≤ d ∧ d ≤ 31 ∧ 1 ≤ m ∧ m ≤ 12 ∧ 1900 ≤ y
      · rw [if_pos htaken, if_pos htaken]
        have hutc := WrittenDay.isDayOf_utc (w := ⟨d, m, y, .longYear⟩) (by simp) hyearLt
          (show m < 100 by omega) (show d < 100 by omega) (show 0 < 100 by omega)
          (show 0 < 100 by omega) (show 0 < 100 by omega)
        have htime : 100 ≤ y ∧ 0 * 3600 + 0 * 60 + 0 < 86400 := ⟨by omega, by norm_num⟩
        rw [and_iff_left htime] at hutc
        exact hutc
      · rw [if_neg htaken, if_neg htaken]
  | @iso day month year rest first second d m y hyear hyearLength hmonth hmonthLength hday
      hdayLength hfirst hsecond hrest =>
    have hyearLt : y < 10 ^ 4 := by
      have hlt := natural?_lt hyear
      rwa [hyearLength] at hlt
    have hmonthLt : m < 100 :=
      (natural?_lt hmonth).trans_le (Nat.pow_le_pow_right (by norm_num) hmonthLength)
    have hdayLt : d < 100 :=
      (natural?_lt hday).trans_le (Nat.pow_le_pow_right (by norm_num) hdayLength)
    rw [dayFirst?_eq_none hyear hyearLength hfirst,
      iso?_eq hyear hyearLength hmonth hmonthLength hday hdayLength hfirst hsecond hrest]
    unfold WrittenDay.ReadRight
    dsimp only
    cases htime : timePart? rest with
    | none => rfl
    | some found =>
      obtain ⟨hour, minute, second⟩ := found
      obtain ⟨hhour, hminute, hsecond⟩ := timePart?_lt htime
      exact WrittenDay.isDayOf_utc (w := ⟨d, m, y, .iso rest⟩) (by simp) hyearLt hmonthLt hdayLt
        hhour hminute hsecond

/-- Every day that a text writes is the day of what is read if and only if it is read right. -/
theorem isDayOf_parseMargDate_iff (platform : Platform) (text : String) :
    (∀ w, Writes (trim text).toList w →
        ∀ time ∈ parseMargDate platform (.text text), w.IsDayOf time) ↔
      ∀ w, Writes (trim text).toList w → w.ReadRight platform (trim text) :=
  forall_congr' fun _ => forall_congr' fun h => isDayOf_iff_readRight platform h

/-- The 31st of February becomes the second of March. -/
theorem not_isDayOf_parseMargDate :
    ¬∀ (platform : Platform) (text : String) (w : WrittenDay), Writes (trim text).toList w →
      ∀ time ∈ parseMargDate platform (.text text), w.IsDayOf time := by
  intro h
  have hwrites : Writes (trim "31/02/2024").toList ⟨31, 2, 2024, .longYear⟩ := by
    have hshape : Writes (['3', '1'] ++ '/' :: (['0', '2'] ++ '/' :: ['2', '0', '2', '4']))
        ⟨31, 2, 2024, if ['2', '0', '2', '4'].length = 2 then .shortYear else .longYear⟩ :=
      .dayFirst (by decide) (by decide) (by decide) (by decide) (by decide) (by decide)
        (by decide) (by decide)
    have htext : (trim "31/02/2024").toList =
        ['3', '1'] ++ '/' :: (['0', '2'] ++ '/' :: ['2', '0', '2', '4']) := by
      decide +kernel
    rw [htext]
    exact hshape
  have hday := h ⟨id, fun _ => none⟩ "31/02/2024" _ hwrites 1709337600000 (by decide +kernel)
  exact absurd hday.1 (by decide +kernel)

end Forecast.MargDate
